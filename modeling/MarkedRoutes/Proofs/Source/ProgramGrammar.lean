import MarkedRoutes.Proofs.Source.WrittenNames

/-!
# The language of generated programs

Generated programs are written in a small part of the language.  They consist of functions
whose bodies bind variables and end in a value, and values are put together from paths,
texts, references, calls, awaiting and handing failures on.  A parser of the language takes
every program of this part.
-/

namespace MarkedRoutes.Source

/-- A name for variables and functions: an identifier that is no keyword, or a raw one. -/
inductive IsIdentifier : String → Prop
  | bare {name : String} (hname : isBareName name = true) (hkeyword : isKeyword name = false) :
      IsIdentifier name
  | raw {name : String} (hname : isBareName name = true) (hraw : hasNoRawForm name = false) :
      IsIdentifier ("r#" ++ name)

def isPlainIdentifier (name : String) : Bool := isBareName name && !isKeyword name

theorem isIdentifier_of_isPlainIdentifier {name : String}
    (hplain : isPlainIdentifier name = true) : IsIdentifier name := by
  rw [isPlainIdentifier, Bool.and_eq_true, Bool.not_eq_true'] at hplain
  exact .bare hplain.1 hplain.2

theorem forall_isIdentifier {names : List String} (hplain : names.all isPlainIdentifier = true) :
    ∀ name ∈ names, IsIdentifier name := fun name hmem =>
  isIdentifier_of_isPlainIdentifier (List.all_eq_true.mp hplain name hmem)

/-- Whether every generic argument list of the path follows a `::`, so that the path can
stand where a value is expected. -/
def Path.isValuePath (path : Path) : Bool :=
  path.segments.all fun segment =>
    match segment.arguments with
    | none => true
    | some arguments => arguments.turbofish

/-- Whether a path begins with a bare `try`, which no type does. -/
def Path.opensWithTry (path : Path) : Bool :=
  !path.rooted && path.segments.head?.map Segment.name == some "try"

/-- A literal of a text: escaped, or raw without a quote or a carriage return in it. -/
inductive IsTextLiteral : String → Prop
  | escaped (text : String) : IsTextLiteral (Text.stringLiteral text)
  | raw {text : String} (hquote : '"' ∉ text.toList) (hreturn : '\r' ∉ text.toList) :
      IsTextLiteral ("r\"" ++ text ++ "\"")

section

variable [SourceParser]

/-- Tokens of a path whose generic arguments stand behind `::`, so that the path can be a
value. -/
inductive IsValuePath : List Token → Prop
  | read {text : String} {path : Path} (hpath : pathOfText? text = some path)
      (hvalue : path.isValuePath = true) (hopens : path.opensWithTry = false) :
      IsValuePath path.tokens
  | names (rooted : Bool) {names : List String} (hne : names ≠ [])
      (hnames : ∀ name ∈ names, IsIdentifier name ∨ isPathWord name = true) :
      IsValuePath (pathNameTokens 0 rooted names)
  | extended {tokens : List Token} {names : List String} (hpath : IsValuePath tokens)
      (hne : names ≠ []) (hnames : ∀ name ∈ names, IsIdentifier name) :
      IsValuePath (tokens ++ (operator [':', ':'] ++ joinedNameTokens 0 names))

/-- Tokens of a type: a path, a name with one argument, or a reference. -/
inductive IsType : List Token → Prop
  | path {tokens : List Token} (hpath : IsValuePath tokens) : IsType tokens
  | applied (rooted : Bool) {names : List String} {argument : List Token} (hne : names ≠ [])
      (hnames : ∀ name ∈ names, IsIdentifier name) (hargument : IsType argument) :
      IsType (pathNameTokens 0 rooted names ++
        .punct '<' false :: (argument ++ [.punct '>' false]))
  | reference {target : List Token} (htarget : IsType target) :
      IsType (.punct '&' false :: target)
  | mutable {target : List Token} (htarget : IsType target) :
      IsType (.punct '&' false :: word "mut" :: target)

mutual

/-- Tokens of a value.  A bare `crate` would begin an item where a statement is expected. -/
inductive IsExpression : List Token → Prop
  | path {tokens : List Token} (hpath : IsValuePath tokens) (hcrate : tokens ≠ [word "crate"]) :
      IsExpression tokens
  | text {literal : String} (hliteral : IsTextLiteral literal) : IsExpression [.literal literal]
  | reference {value : List Token} (hvalue : IsExpression value) :
      IsExpression (.punct '&' false :: value)
  | call {callee : List Token} {arguments : List (List Token)} (hcallee : IsExpression callee)
      (harguments : ∀ argument ∈ arguments, IsExpression argument) (trailingComma : Bool) :
      IsExpression (callee ++ [.group .parenthesis (commaSeparated trailingComma arguments)])
  | method {receiver : List Token} {name : String} {arguments : List (List Token)}
      (hreceiver : IsExpression receiver) (hname : IsIdentifier name)
      (harguments : ∀ argument ∈ arguments, IsExpression argument) (trailingComma : Bool) :
      IsExpression (receiver ++ [.punct '.' false, word name,
        .group .parenthesis (commaSeparated trailingComma arguments)])
  | awaited {future : List Token} (hfuture : IsExpression future) :
      IsExpression (future ++ [.punct '.' false, word "await"])
  | handedOn {value : List Token} (hvalue : IsExpression value) :
      IsExpression (value ++ [.punct '?' false])
  | block {body : List Token} (hbody : IsBody body) :
      IsExpression [word "async", word "move", .group .brace body]

/-- Tokens of statements, the last of which may be a value. -/
inductive IsBody : List Token → Prop
  | nothing : IsBody []
  | value {tokens : List Token} (hvalue : IsExpression tokens) : IsBody tokens
  | bind {name : String} {value rest : List Token} (hname : IsIdentifier name)
      (hvalue : IsExpression value) (hrest : IsBody rest) :
      IsBody (word "let" :: word name :: .punct '=' false ::
        (value ++ .punct ';' false :: rest))
  | statement {value rest : List Token} (hvalue : IsExpression value) (hrest : IsBody rest) :
      IsBody (value ++ .punct ';' false :: rest)

end

/-- Tokens of a declared parameter. -/
inductive IsParameter : List Token → Prop
  | intro {name : String} {type : List Token} (hname : IsIdentifier name) (htype : IsType type) :
      IsParameter (word name :: .punct ':' false :: type)

/-- Declared parameters, a comma behind each. -/
def declared (parameters : List (List Token)) : Token :=
  .group .parenthesis (parameters.flatMap fun parameter => parameter ++ [.punct ',' false])

/-- What stands between the name and the body of a function: parameters and the type of what is
returned, or a type variable, parameters and a bound of the variable, which need not be sized. -/
inductive IsSignature : List Token → Prop
  | returning {parameters : List (List Token)} {result : List Token}
      (hparameters : ∀ parameter ∈ parameters, IsParameter parameter) (hresult : IsType result) :
      IsSignature (declared parameters :: (operator ['-', '>'] ++ result))
  | bounded {typeName : String} {parameters : List (List Token)} {bound : List Token}
      (htypeName : IsIdentifier typeName)
      (hparameters : ∀ parameter ∈ parameters, IsParameter parameter)
      (hbound : IsValuePath bound) :
      IsSignature (.punct '<' false :: word typeName :: .punct '>' false :: declared parameters ::
        word "where" :: word typeName :: .punct ':' false :: (bound ++
          [.punct '+' false, .punct '?' false, word "Sized", .punct ',' false]))

/-- Tokens of an attribute: documentation, or the permission of one lint. -/
inductive IsAttribute : List Token → Prop
  | documentation {literal : String} (hliteral : IsTextLiteral literal) :
      IsAttribute [.punct '#' false,
        .group .bracket [word "doc", .punct '=' false, .literal literal]]
  | allow {lint : String} (hlint : IsIdentifier lint) :
      IsAttribute [.punct '#' false,
        .group .bracket [word "allow", .group .parenthesis [word lint]]]

/-- Tokens of a function. -/
inductive IsFunction : List Token → Prop
  | plain {name : String} {signature body : List Token} (hname : IsIdentifier name)
      (hsignature : IsSignature signature) (hbody : IsBody body) :
      IsFunction (word "fn" :: word name :: (signature ++ [.group .brace body]))
  | published {name : String} {signature body : List Token} (hname : IsIdentifier name)
      (hsignature : IsSignature signature) (hbody : IsBody body) :
      IsFunction (word "pub" :: word "fn" :: word name :: (signature ++ [.group .brace body]))

/-- Tokens of functions with attributes, one behind the other. -/
inductive IsProgram : List Token → Prop
  | nothing : IsProgram []
  | function {attributes : List (List Token)} {function rest : List Token}
      (hattributes : ∀ marked ∈ attributes, IsAttribute marked) (hfunction : IsFunction function)
      (hrest : IsProgram rest) : IsProgram (attributes.flatten ++ (function ++ rest))

/-- A parser takes the programs of this language as the items of a file. -/
def ReadsPrograms : Prop :=
  ∀ tokens, IsProgram tokens → SourceParser.areItems tokens = true

end

end MarkedRoutes.Source
