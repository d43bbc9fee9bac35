import MarkedRoutes.Source.Lexer
import MarkedRoutes.Source.Reading
import MarkedRoutes.Source.TypeExpr

/-!
# Reading types and paths

The grammar of types.  `plus` says whether a bare path may go on with `+ Bound`,
which it may not after `&`, `*` or `->`.  All readers share one fuel that a
wrapper computes from the number of tokens.

Array lengths and block constants are any tokens here.  Whether they are expressions is
asked afterwards, by `checkConstants` of the grammar of expressions.
-/

namespace MarkedRoutes.Source

/-- Whether a path may go on with another segment: `::` not followed by parentheses. -/
def startsNextSegment (tokens : List Token) : Bool :=
  startsRooted (fun rest => !startsGroup .parenthesis rest) tokens

/-- Whether generic arguments follow a segment of a type path. -/
def startsArguments (tokens : List Token) : Bool :=
  (startsMark '<' tokens && !startsOperator ['<', '='] tokens) ||
    startsRooted (startsMark '<') tokens

/-- Whether a bound can begin here after `+`. -/
def startsBound (tokens : List Token) : Bool :=
  startsAnyWord tokens || startsOperator [':', ':'] tokens || startsMark '?' tokens ||
    startsLifetime tokens || startsGroup .parenthesis tokens || startsMark '~' tokens

/-- The qualifiers in front of a function pointer: `unsafe` and `extern` with its name. -/
def readFunctionQualifiers (tokens : List Token) : List Token × List Token :=
  let (unsafety, tokens) :=
    match dropWord? "unsafe" tokens with
    | some rest => ([word "unsafe"], rest)
    | none => ([], tokens)
  match dropWord? "extern" tokens with
  | some (.literal text :: rest) => (unsafety ++ [word "extern", .literal text], rest)
  | some rest => (unsafety ++ [word "extern"], rest)
  | none => (unsafety, tokens)

/-- Reads the names that `use<..>` captures, up to its closing bracket. -/
def readCaptured : Nat → List Token → Except Fault (List Token × List Token)
  | 0, _ => .error .unexpected
  | fuel + 1, tokens =>
    match dropMark? '>' tokens with
    | some rest => .ok ([], rest)
    | none => do
      let (name, rest) ←
        match dropLifetime? tokens, tokens with
        | some (name, rest), _ => .ok (lifetimeTokens name, rest)
        | none, .ident name line :: rest =>
          if isKeyword name && name != "Self" then .error .unexpected
          else .ok ([.ident name line], rest)
        | none, _ => .error (faultAt tokens)
      match dropMark? '>' rest with
      | some rest => .ok (name, rest)
      | none => do
        let rest ← readMark ',' rest
        let (more, rest) ← readCaptured fuel rest
        .ok (name ++ .punct ',' false :: more, rest)

/-- Skips attributes, keeping their tokens. -/
def readAttributeTokens : List Token → List Token × List Token
  | .punct '#' joined :: .group .bracket content :: rest =>
    let (more, after) := readAttributeTokens rest
    (.punct '#' joined :: .group .bracket content :: more, after)
  | tokens => ([], tokens)

mutual

def readTypeWith : Nat → Bool → List Token → Except Fault (TypeExpr × List Token)
  | 0, _, _ => .error .unexpected
  | fuel + 1, plus, tokens =>
    match tokens with
    | .group .parenthesis content :: rest => readParenthesized fuel plus content rest
    | .group .bracket content :: rest => do
      let (element, after) ← readTypeWith fuel true content
      match after with
      | [] => .ok (.slice element, rest)
      | _ => do
        let length ← readMark ';' after
        if length.isEmpty then .error .atEnd else .ok (.array element length, rest)
    | .punct '&' _ :: rest => do
      let (lifetime, rest) :=
        match dropLifetime? rest with
        | some (name, after) => (some name, after)
        | none => (none, rest)
      let (isMutable, rest) :=
        match dropWord? "mut" rest with
        | some after => (true, after)
        | none => (false, rest)
      let (target, rest) ← readTypeWith fuel false rest
      .ok (.reference lifetime isMutable target, rest)
    | .punct '*' _ :: rest =>
      match rest with
      | .ident "const" _ :: rest => do
        let (target, rest) ← readTypeWith fuel false rest
        .ok (.pointer false target, rest)
      | .ident "mut" _ :: rest => do
        let (target, rest) ← readTypeWith fuel false rest
        .ok (.pointer true target, rest)
      | _ => .error (faultAt rest)
    | .punct '!' _ :: rest => .ok (.never, rest)
    | .punct '\'' _ :: _ => do
      let ((hasTrait, bounds), rest) ← readBounds fuel plus tokens
      if hasTrait then .ok (.traitObject bounds, rest) else .error .unexpected
    | .punct '<' _ :: rest => readQualified fuel rest
    | .ident "for" _ :: _ => do
      let (binder, rest) ← readBinder fuel tokens
      if startsWord "fn" rest || startsWord "unsafe" rest || startsWord "extern" rest then do
        let (function, rest) ← readFunction fuel rest
        .ok (.function (binder ++ function), rest)
      else if startsWord "dyn" rest then .error .unexpected
      else do
        let (path, rest) ← readPathWith fuel rest
        let (more, rest) ← readMoreBounds fuel plus rest
        .ok (.traitObject (binder ++ path.tokens ++ more.2), rest)
    | .ident "dyn" _ :: rest => do
      let ((hasTrait, bounds), rest) ← readBounds fuel plus rest
      if hasTrait then .ok (.traitObject (word "dyn" :: bounds), rest) else .error .unexpected
    | .ident "impl" _ :: rest => do
      let ((hasTrait, bounds), rest) ← readBounds fuel plus rest
      if hasTrait then .ok (.opaqueType (word "impl" :: bounds), rest) else .error .unexpected
    | .ident "_" _ :: rest => .ok (.inferred, rest)
    | _ =>
      if startsWord "fn" tokens || startsWord "unsafe" tokens || startsWord "extern" tokens then do
        let (function, rest) ← readFunction fuel tokens
        .ok (.function function, rest)
      else do
        let (path, rest) ← readPathWith fuel tokens
        match rest with
        | .punct '!' joined :: after =>
          if !startsOperator ['!', '='] rest &&
              path.segments.all fun segment => segment.arguments.isNone then
            match after with
            | .group delimiter content :: after =>
              .ok (.macroCall (path.tokens ++ [.punct '!' joined, .group delimiter content]), after)
            | _ => .error (faultAt after)
          else .ok (.path path, rest)
        | _ =>
          if plus && startsMark '+' rest then do
            let (more, rest) ← readMoreBounds fuel plus rest
            .ok (.traitObject (path.tokens ++ more.2), rest)
          else .ok (.path path, rest)

/-- Reads what stands in parentheses: a unit, a parenthesised type, a tuple, or the first
bound of a trait object. -/
def readParenthesized :
    Nat → Bool → List Token → List Token → Except Fault (TypeExpr × List Token)
  | 0, _, _, _ => .error .unexpected
  | fuel + 1, plus, content, rest =>
    if content.isEmpty then .ok (.tuple [] false, rest)
    else if startsMark '?' content then do
      let (bound, left) ← readBound fuel content
      if !left.isEmpty then .error .unexpected
      else do
        let (more, rest) ← readMoreBounds fuel true rest
        .ok (.traitObject (.group .parenthesis bound.2 :: more.2), rest)
    else do
      let (first, left) ← readTypeWith fuel true content
      match left with
      | [] =>
        match first with
        | .path path =>
          if plus && startsMark '+' rest then do
            let (more, rest) ← readMoreBounds fuel plus rest
            .ok (.traitObject (.group .parenthesis path.tokens :: more.2), rest)
          else .ok (.parenthesized first, rest)
        | _ => .ok (.parenthesized first, rest)
      | _ => do
        let left ← readMark ',' left
        let (elements, trailing) ← readTypes fuel left
        .ok (.tuple (first :: elements) (trailing || elements.isEmpty), rest)

/-- Reads the types of a comma-separated list to its end, with whether a comma ends it. -/
def readTypes : Nat → List Token → Except Fault (List TypeExpr × Bool)
  | 0, _ => .error .unexpected
  | fuel + 1, tokens =>
    if tokens.isEmpty then .ok ([], false)
    else do
      let (first, left) ← readTypeWith fuel true tokens
      match left with
      | [] => .ok ([first], false)
      | _ => do
        let left ← readMark ',' left
        let (rest, trailing) ← readTypes fuel left
        .ok (first :: rest, if rest.isEmpty then true else trailing)

/-- Reads a path qualified by a type, after its opening bracket. -/
def readQualified : Nat → List Token → Except Fault (TypeExpr × List Token)
  | 0, _ => .error .unexpected
  | fuel + 1, tokens => do
    let (type, rest) ← readTypeWith fuel true tokens
    let (role, rest) ←
      match dropWord? "as" rest with
      | some rest => do
        let (path, rest) ← readPathWith fuel rest
        pure (word "as" :: path.tokens, rest)
      | none => pure ([], rest)
    let rest ← readMark '>' rest
    let rest ← readOperator [':', ':'] rest
    let (segments, rest) ← readSegments fuel rest
    .ok (.qualified (.punct '<' false :: (type.tokens ++ role ++ .punct '>' false ::
      (operator [':', ':'] ++ segmentTokens segments))), rest)

def readPathWith : Nat → List Token → Except Fault (Path × List Token)
  | 0, _ => .error .unexpected
  | fuel + 1, tokens => do
    let (rooted, tokens) :=
      match dropOperator? [':', ':'] tokens with
      | some rest => (true, rest)
      | none => (false, tokens)
    let (segments, rest) ← readSegments fuel tokens
    .ok (.mk rooted segments, rest)

def readSegments : Nat → List Token → Except Fault (List Segment × List Token)
  | 0, _ => .error .unexpected
  | fuel + 1, tokens => do
    let (first, rest) ← readSegment fuel tokens
    if startsNextSegment rest then do
      let rest ← readOperator [':', ':'] rest
      let (more, rest) ← readSegments fuel rest
      .ok (first :: more, rest)
    else .ok ([first], rest)

/-- Reads one segment.  `super`, `self`, `crate` and `try` take no arguments. -/
def readSegment : Nat → List Token → Except Fault (Segment × List Token)
  | 0, _ => .error .unexpected
  | fuel + 1, tokens =>
    match tokens with
    | .ident name _ :: rest =>
      if name = "super" ∨ name = "self" ∨ name = "crate" ∨ name = "try" then
        .ok (.mk name none, rest)
      else if isKeyword name && name != "Self" then .error .unexpected
      else if startsArguments rest then do
        let (arguments, rest) ← readArguments fuel rest
        .ok (.mk name (some arguments), rest)
      else .ok (.mk name none, rest)
    | _ => .error (faultAt tokens)

/-- Reads generic arguments between angle brackets. -/
def readArguments : Nat → List Token → Except Fault (GenericArguments × List Token)
  | 0, _ => .error .unexpected
  | fuel + 1, tokens => do
    let (turbofish, tokens) :=
      match dropOperator? [':', ':'] tokens with
      | some rest => (true, rest)
      | none => (false, tokens)
    let tokens ← readMark '<' tokens
    let (arguments, trailing, rest) ← readArgumentList fuel tokens
    .ok (.mk turbofish arguments trailing, rest)

/-- Reads generic arguments up to and including the closing bracket. -/
def readArgumentList :
    Nat → List Token → Except Fault (List GenericArgument × Bool × List Token)
  | 0, _ => .error .unexpected
  | fuel + 1, tokens =>
    match dropMark? '>' tokens with
    | some rest => .ok ([], false, rest)
    | none => do
      let (first, rest) ← readArgument fuel tokens
      match dropMark? '>' rest with
      | some rest => .ok ([first], false, rest)
      | none => do
        let rest ← readMark ',' rest
        let (more, trailing, rest) ← readArgumentList fuel rest
        .ok (first :: more, if more.isEmpty then true else trailing, rest)

def readArgument : Nat → List Token → Except Fault (GenericArgument × List Token)
  | 0, _ => .error .unexpected
  | fuel + 1, tokens =>
    match dropLifetime? tokens with
    | some (name, rest) =>
      if startsMark '+' rest then do
        let (type, rest) ← readTypeWith fuel true tokens
        .ok (.type type, rest)
      else .ok (.lifetime name, rest)
    | none =>
      match dropLiteral? tokens with
      | some (literal, rest) => .ok (.other literal, rest)
      | none =>
        match tokens with
        | .group .brace content :: rest => .ok (.other [.group .brace content], rest)
        | _ => do
          let (type, rest) ← readTypeWith fuel true tokens
          match type with
          | .path (.mk false [.mk name arguments]) =>
            match dropMark? '=' rest with
            | some after => do
              let head := (Segment.mk name arguments).tokens ++ [.punct '=' false]
              match dropLiteral? after with
              | some (literal, rest) => .ok (.other (head ++ literal), rest)
              | none =>
                match after with
                | .group .brace content :: rest =>
                  .ok (.other (head ++ [.group .brace content]), rest)
                | _ => do
                  let (value, rest) ← readTypeWith fuel true after
                  .ok (.other (head ++ value.tokens), rest)
            | none =>
              match dropMark? ':' rest with
              | some after =>
                let head := (Segment.mk name arguments).tokens ++ [.punct ':' false]
                if startsMark ',' after || startsMark '>' after then .ok (.other head, after)
                else do
                  let (bounds, rest) ← readBounds fuel true after
                  .ok (.other (head ++ bounds.2), rest)
              | none => .ok (.type type, rest)
          | _ => .ok (.type type, rest)

/-- Reads bounds joined by `+`, with whether one of them is a trait. -/
def readBounds : Nat → Bool → List Token → Except Fault ((Bool × List Token) × List Token)
  | 0, _, _ => .error .unexpected
  | fuel + 1, plus, tokens => do
    let (first, rest) ← readBound fuel tokens
    let (more, rest) ← readMoreBounds fuel plus rest
    .ok ((first.1 || more.1, first.2 ++ more.2), rest)

/-- Reads the further bounds of a list, each after a `+`. -/
def readMoreBounds : Nat → Bool → List Token → Except Fault ((Bool × List Token) × List Token)
  | 0, _, _ => .error .unexpected
  | fuel + 1, plus, tokens =>
    match dropMark? '+' tokens with
    | none => .ok ((false, []), tokens)
    | some rest =>
      if !plus then .ok ((false, []), tokens)
      else if !startsBound rest then .ok ((false, [.punct '+' false]), rest)
      else do
        let (bound, rest) ← readBound fuel rest
        let (more, rest) ← readMoreBounds fuel plus rest
        .ok ((bound.1 || more.1, .punct '+' false :: (bound.2 ++ more.2)), rest)

/-- Reads one bound, with whether it is a trait. -/
def readBound : Nat → List Token → Except Fault ((Bool × List Token) × List Token)
  | 0, _ => .error .unexpected
  | fuel + 1, tokens =>
    match dropLifetime? tokens with
    | some (name, rest) => .ok ((false, lifetimeTokens name), rest)
    | none =>
      match tokens with
      | .group .parenthesis content :: rest => do
        let (bound, left) ← readBound fuel content
        if left.isEmpty then .ok ((true, [.group .parenthesis bound.2]), rest)
        else .error .unexpected
      | .ident "use" _ :: rest => do
        let rest ← readMark '<' rest
        let (captured, rest) ← readCaptured fuel rest
        .ok ((false, word "use" :: .punct '<' false :: (captured ++ [.punct '>' false])), rest)
      | _ => do
        let (binder, rest) ← readBinder fuel tokens
        let (modifier, rest) :=
          match rest with
          | .punct '?' _ :: rest => ([Token.punct '?' false], rest)
          | .punct '~' _ :: .ident "const" _ :: rest =>
            ([Token.punct '~' false, word "const"], rest)
          | .ident "const" _ :: rest => ([word "const"], rest)
          | .ident "async" _ :: rest => ([word "async"], rest)
          | _ => ([], rest)
        let (path, rest) ← readPathWith fuel rest
        let (arguments, rest) ← readCallArguments fuel rest
        .ok ((true, binder ++ modifier ++ path.tokens ++ arguments), rest)

/-- Reads the arguments and the result of a function bound, when parentheses follow. -/
def readCallArguments : Nat → List Token → Except Fault (List Token × List Token)
  | 0, _ => .error .unexpected
  | fuel + 1, tokens =>
    let inner :=
      match dropOperator? [':', ':'] tokens with
      | some (.group .parenthesis content :: rest) => some (content, rest)
      | _ =>
        match tokens with
        | .group .parenthesis content :: rest => some (content, rest)
        | _ => none
    match inner with
    | none => .ok ([], tokens)
    | some (content, rest) => do
      let (types, trailing) ← readTypes fuel content
      let (result, rest) ← readResult fuel rest
      .ok (.group .parenthesis (commaSeparated trailing (typeTokens types)) :: result, rest)

/-- Reads `-> Type`, when it follows. -/
def readResult : Nat → List Token → Except Fault (List Token × List Token)
  | 0, _ => .error .unexpected
  | fuel + 1, tokens =>
    match dropOperator? ['-', '>'] tokens with
    | none => .ok ([], tokens)
    | some rest => do
      let (type, rest) ← readTypeWith fuel false rest
      .ok (operator ['-', '>'] ++ type.tokens, rest)

/-- Reads `for<..>`, when it follows. -/
def readBinder : Nat → List Token → Except Fault (List Token × List Token)
  | 0, _ => .error .unexpected
  | fuel + 1, tokens =>
    match dropWord? "for" tokens with
    | none => .ok ([], tokens)
    | some rest => do
      let rest ← readMark '<' rest
      let (lifetimes, rest) ← readBinderLifetimes fuel rest
      .ok (word "for" :: .punct '<' false :: (lifetimes ++ [.punct '>' false]), rest)

/-- Reads the lifetimes of a binder up to its closing bracket. -/
def readBinderLifetimes : Nat → List Token → Except Fault (List Token × List Token)
  | 0, _ => .error .unexpected
  | fuel + 1, tokens =>
    match dropMark? '>' tokens with
    | some rest => .ok ([], rest)
    | none =>
      match dropLifetime? tokens with
      | none => .error (faultAt tokens)
      | some (name, rest) =>
        match dropMark? '>' rest with
        | some rest => .ok (lifetimeTokens name, rest)
        | none => do
          let rest ← readMark ',' rest
          let (more, rest) ← readBinderLifetimes fuel rest
          .ok (lifetimeTokens name ++ .punct ',' false :: more, rest)

def readFunction : Nat → List Token → Except Fault (List Token × List Token)
  | 0, _ => .error .unexpected
  | fuel + 1, tokens => do
    let (qualifiers, rest) := readFunctionQualifiers tokens
    let rest ← readWord "fn" rest
    let (content, rest) ← readGroup .parenthesis rest
    let parameters ← readPointerParameters fuel content
    let (result, rest) ← readResult fuel rest
    .ok (qualifiers ++ word "fn" :: .group .parenthesis parameters :: result, rest)

/-- Reads the parameters of a function pointer: types with optional names, and `...` last. -/
def readPointerParameters : Nat → List Token → Except Fault (List Token)
  | 0, _ => .error .unexpected
  | fuel + 1, tokens =>
    if tokens.isEmpty then .ok []
    else
      let (attributes, tokens) := readAttributeTokens tokens
      match dropOperator? ['.', '.', '.'] tokens with
      | some [] => .ok (attributes ++ operator ['.', '.', '.'])
      | some _ => .error .unexpected
      | none => do
        let (label, tokens) :=
          match tokens with
          | .ident name _ :: .punct ':' joined :: rest =>
            if startsOperator [':', ':'] (.punct ':' joined :: rest) then ([], tokens)
            else ([word name, .punct ':' false], rest)
          | .ident "mut" _ :: .ident "self" line :: rest =>
            ([word "mut"], .ident "self" line :: rest)
          | _ => ([], tokens)
        let (type, rest) ← readTypeWith fuel true tokens
        match rest with
        | [] => .ok (attributes ++ label ++ type.tokens)
        | _ => do
          let rest ← readMark ',' rest
          let more ← readPointerParameters fuel rest
          .ok (attributes ++ label ++ type.tokens ++ .punct ',' false :: more)

end

/-- Fuel enough for any reader on these tokens. -/
def grammarFuel (tokens : List Token) : Nat := 8 * Token.sizeAll tokens + 16

def readType (tokens : List Token) : Except Fault (TypeExpr × List Token) :=
  readTypeWith (grammarFuel tokens) true tokens

def readPath (tokens : List Token) : Except Fault (Path × List Token) :=
  readPathWith (grammarFuel tokens) tokens

def readBoundList (tokens : List Token) : Except Fault (List Token × List Token) := do
  let ((_, bounds), rest) ← readBounds (grammarFuel tokens) true tokens
  .ok (bounds, rest)

end MarkedRoutes.Source
