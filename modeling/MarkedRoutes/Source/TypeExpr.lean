import MarkedRoutes.Source.Token

/-!
# Types and paths

The part of a type that a route depends on is kept as a tree: the path segments
with their generic arguments, references, parentheses, tuples, slices and
arrays.  The forms that are only ever compared as a whole (function pointers,
trait objects, opaque types, qualified paths, macro calls) keep their tokens.
Every type has a token sequence, and its canonical text is the text by which
types are compared.
-/

namespace MarkedRoutes.Source

mutual

/-- A type as written. -/
inductive TypeExpr where
  | path (path : Path)
  | qualified (tokens : List Token)
  | reference (lifetime : Option String) (isMutable : Bool) (target : TypeExpr)
  | pointer (isMutable : Bool) (target : TypeExpr)
  | parenthesized (inner : TypeExpr)
  | tuple (elements : List TypeExpr) (trailingComma : Bool)
  | slice (element : TypeExpr)
  | array (element : TypeExpr) (length : List Token)
  | never
  | inferred
  | opaqueType (tokens : List Token)
  | traitObject (tokens : List Token)
  | function (tokens : List Token)
  | macroCall (tokens : List Token)

/-- A path: segments joined by `::`, with `::` in front when it starts outside the crate. -/
inductive Path where
  | mk (rooted : Bool) (segments : List Segment)

/-- One name of a path with its generic arguments. -/
inductive Segment where
  | mk (name : String) (arguments : Option GenericArguments)

/-- Arguments between angle brackets; `turbofish` says that `::` stands before them. -/
inductive GenericArguments where
  | mk (turbofish : Bool) (arguments : List GenericArgument) (trailingComma : Bool)

/-- One generic argument: a lifetime, a type, or a constant, binding or bound. -/
inductive GenericArgument where
  | lifetime (name : String)
  | type (type : TypeExpr)
  | other (tokens : List Token)

end

namespace Path

def rooted : Path → Bool
  | mk rooted _ => rooted

/-- The segments, outermost first. -/
def segments : Path → List Segment
  | mk _ segments => segments

end Path

namespace Segment

/-- The name as written, raw mark included. -/
def name : Segment → String
  | mk name _ => name

/-- The generic arguments, when angle brackets follow the name. -/
def arguments : Segment → Option GenericArguments
  | mk _ arguments => arguments

end Segment

namespace GenericArguments

/-- Whether `::` stands before the opening bracket. -/
def turbofish : GenericArguments → Bool
  | mk turbofish _ _ => turbofish

def arguments : GenericArguments → List GenericArgument
  | mk _ arguments _ => arguments

def types (arguments : GenericArguments) : List TypeExpr :=
  arguments.arguments.filterMap fun argument =>
    match argument with
    | .type type => some type
    | _ => none

end GenericArguments

/-- Token sequences with a comma after each, and after the last only when asked. -/
def commaSeparated (trailingComma : Bool) : List (List Token) → List Token
  | [] => []
  | [last] => last ++ (if trailingComma then [.punct ',' false] else [])
  | first :: second :: rest =>
    first ++ .punct ',' false :: commaSeparated trailingComma (second :: rest)

/-- Pairs each item with whether a comma follows it. -/
def withCommas {α : Type} (trailingComma : Bool) : List α → List (α × Bool)
  | [] => []
  | [last] => [(last, trailingComma)]
  | first :: second :: rest => (first, true) :: withCommas trailingComma (second :: rest)

/-- Generic arguments as tokens: lifetimes come first, and a comma is supplied where an
argument moved in front of one that had none. -/
def argumentTokens (lifetimes others : List (List Token × Bool)) : List Token :=
  others.foldl (step true) (lifetimes.foldl (step false) ([], true)) |>.1
where
  /-- Appends an argument and its comma, after a missing comma when one is required. -/
  step (required : Bool) (state : List Token × Bool) (argument : List Token × Bool) :
      List Token × Bool :=
    let separator := if required && !state.2 then [Token.punct ',' false] else []
    let comma := if argument.2 then [Token.punct ',' false] else []
    (state.1 ++ separator ++ argument.1 ++ comma, argument.2)

/-- The keyword `mut` or nothing. -/
def mutableTokens (isMutable : Bool) : List Token := if isMutable then [word "mut"] else []

mutual

def TypeExpr.tokens : TypeExpr → List Token
  | .path written => written.tokens
  | .qualified tokens => tokens
  | .reference lifetime isMutable target =>
    .punct '&' false :: ((lifetime.map lifetimeTokens).getD [] ++ mutableTokens isMutable ++
      target.tokens)
  | .pointer isMutable target =>
    .punct '*' false :: word (if isMutable then "mut" else "const") :: target.tokens
  | .parenthesized inner => [.group .parenthesis inner.tokens]
  | .tuple elements trailingComma =>
    [.group .parenthesis (commaSeparated trailingComma (typeTokens elements))]
  | .slice element => [.group .bracket element.tokens]
  | .array element length => [.group .bracket (element.tokens ++ .punct ';' false :: length)]
  | .never => [.punct '!' false]
  | .inferred => [word "_"]
  | .opaqueType tokens => tokens
  | .traitObject tokens => tokens
  | .function tokens => tokens
  | .macroCall tokens => tokens

def typeTokens : List TypeExpr → List (List Token)
  | [] => []
  | first :: rest => first.tokens :: typeTokens rest

def Path.tokens : Path → List Token
  | .mk rooted segments => (if rooted then operator [':', ':'] else []) ++ segmentTokens segments

def segmentTokens : List Segment → List Token
  | [] => []
  | [last] => last.tokens
  | first :: second :: rest =>
    first.tokens ++ (operator [':', ':'] ++ segmentTokens (second :: rest))

def Segment.tokens : Segment → List Token
  | .mk name arguments =>
    word name :: (match arguments with
      | none => []
      | some arguments => arguments.tokens)

/-- The tokens of generic arguments, brackets included. -/
def GenericArguments.tokens : GenericArguments → List Token
  | .mk turbofish arguments trailingComma =>
    let parts := withCommas trailingComma (genericTokens arguments)
    (if turbofish then operator [':', ':'] else []) ++
      (.punct '<' false ::
        (argumentTokens
          (parts.filterMap fun part => if part.1.1 then some (part.1.2, part.2) else none)
          (parts.filterMap fun part => if part.1.1 then none else some (part.1.2, part.2)) ++
        [.punct '>' false]))

/-- The tokens of each argument, with whether it is a lifetime. -/
def genericTokens : List GenericArgument → List (Bool × List Token)
  | [] => []
  | .lifetime name :: rest => (true, lifetimeTokens name) :: genericTokens rest
  | .type type :: rest => (false, type.tokens) :: genericTokens rest
  | .other tokens :: rest => (false, tokens) :: genericTokens rest

end

/-- The text by which a type is compared with others. -/
def TypeExpr.canonical (type : TypeExpr) : String := canonicalText type.tokens

/-- The text by which a path is compared with others. -/
def Path.canonical (path : Path) : String := canonicalText path.tokens

def TypeExpr.lastSegment? : TypeExpr → Option Segment
  | .path written => written.segments.getLast?
  | _ => none

/-- The type arguments of a type that is a plain path ending in `name<..>`. -/
def TypeExpr.typeArguments? (name : String) (type : TypeExpr) : Option (List TypeExpr) :=
  match type.lastSegment? with
  | some (.mk last (some arguments)) => if last = name then some arguments.types else none
  | _ => none

/-- `T` when the type is `Option<T>` under any path. -/
def TypeExpr.optionValue? (type : TypeExpr) : Option TypeExpr :=
  match type.typeArguments? "Option" with
  | some [value] => some value
  | _ => none

/-- `T` when the type is `Result<T, ..>` under any path. -/
def TypeExpr.resultValue? (type : TypeExpr) : Option TypeExpr :=
  match type.typeArguments? "Result" with
  | some (value :: _) => some value
  | _ => none

/-- A shared reference to `CallContext`, under any path and without generic arguments. -/
def TypeExpr.isContextHandle : TypeExpr → Bool
  | .reference _ false target =>
    match target.lastSegment? with
    | some (.mk name none) => name == "CallContext"
    | _ => false
  | _ => false

end MarkedRoutes.Source
