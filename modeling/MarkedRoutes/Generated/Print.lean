import MarkedRoutes.Generated.PathTokens
import MarkedRoutes.Generated.Program
import MarkedRoutes.Text.Quoted

/-!
# The text of generated programs

Every part of a generated program is written as tokens.  `runtime` stands for
the tokens of the path under which the program reaches the runtime.
-/

namespace MarkedRoutes

open MarkedRoutes.Source

def mark (c : Char) : Token := .punct c false

/-- The separator of path segments. -/
def colons : List Token := operator [':', ':']

def parenthesized (content : List Token) : Token := .group .parenthesis content

def braced (content : List Token) : Token := .group .brace content

def nameTokens : List String → List Token
  | [] => []
  | [last] => [word last]
  | first :: second :: rest => word first :: (colons ++ nameTokens (second :: rest))

def standard (names : List String) : List Token := colons ++ nameTokens ("std" :: names)

/-- A path below the runtime module. -/
def inRuntime (runtime : List Token) (names : List String) : List Token :=
  runtime ++ (colons ++ nameTokens ("runtime" :: names))

/-- A documentation attribute with the given literal. -/
def documentation (literal : String) : List Token :=
  [mark '#', .group .bracket [word "doc", mark '=', .literal literal]]

/-- The attribute that allows unused variables. -/
def allowUnused : List Token :=
  [mark '#', .group .bracket [word "allow", parenthesized [word "unused_variables"]]]

def sharedRegistry (runtime : List Token) (name : String) : List Token :=
  standard ["sync", "Arc"] ++ (mark '<' :: (inRuntime runtime [name] ++ [mark '>']))

/-- A parameter or binding with its type. -/
def typed (name : String) (type : List Token) : List Token := word name :: mark ':' :: type

/-- Declared parameters, a comma after each. -/
def parameterTokens (parameters : List (List Token)) : Token :=
  parenthesized (parameters.flatMap fun parameter => parameter ++ [mark ','])

/-- A call of a function at some tokens. -/
def call (callee : List Token) (arguments : List (List Token)) : List Token :=
  callee ++ [parenthesized (commaSeparated false arguments)]

def reference (tokens : List Token) : List Token := mark '&' :: tokens

def methodCall (receiver : List Token) (name : String) (arguments : List (List Token)) :
    List Token :=
  receiver ++ (mark '.' :: call [word name] arguments)

def bind (name : String) (value : List Token) : List Token :=
  word "let" :: word name :: mark '=' :: (value ++ [mark ';'])

/-- The accessor that looks a text up in the request, and the name of its source. -/
def TextSource.names : TextSource → String × String
  | .path => ("path_param", "Path")
  | .query => ("query_param", "Query")
  | .header => ("header", "Header")

/-- The value that a text step binds.  A required value names its key and source in errors;
an optional value of a named converter cannot fail. -/
def conversion [SourceParser] (runtime : List Token) (source : TextSource) (key : String)
    (converter : TextConverter) (isRequired : Bool) : Except NameFault (List Token) := do
  let literal := Token.literal (Text.stringLiteral key)
  let raw := methodCall [word "ctx"] source.names.1 [[literal]]
  let place := [[literal], inRuntime runtime ["ParamSource", source.names.2]]
  match converter with
  | .registered =>
    let registry := reference [word "converters"]
    if isRequired then
      .ok (call (inRuntime runtime ["convert_param"]) ([registry, raw] ++ place) ++ [mark '?'])
    else
      .ok (call (inRuntime runtime ["convert_optional_param"]) [registry, raw] ++ [mark '?'])
  | .named path =>
    let converter := reference (← pathTokens path)
    if isRequired then
      .ok (call (inRuntime runtime ["convert_param_with"]) ([converter, raw] ++ place) ++
        [mark '?'])
    else
      .ok (call (inRuntime runtime ["convert_optional_param_with"]) [converter, raw])

/-- The awaiting of a future, with its failure handed on. -/
def awaited : List Token := [mark '.', word "await", mark '?']

def Step.tokens [SourceParser] (runtime : List Token) : Step → Except NameFault (List Token)
  | .provide target =>
    .ok (bind target (call (inRuntime runtime ["provide"])
      [reference [word "providers"], reference [word "ctx"]] ++ awaited))
  | .convert target source key converter isRequired =>
    (conversion runtime source key converter isRequired).map (bind target)
  | .context target => .ok (bind target (reference [word "ctx"]))
  | .receive target => .ok (bind target (methodCall [word "ctx"] "receive" [] ++ awaited))

def stepTokens [SourceParser] (runtime : List Token) : List Step → Except NameFault (List Token)
  | [] => .ok []
  | first :: rest => do
    let statement ← first.tokens runtime
    let others ← stepTokens runtime rest
    .ok (statement ++ others)

/-- The statements that answer with what the handler call returns. -/
def answerTokens (runtime : List Token) (kind : ReturnKind) (called : List Token) : List Token :=
  match kind with
  | .unit => called ++ (mark ';' :: call (inRuntime runtime ["respond_empty"]) [])
  | .value =>
    bind "result" called ++ call (inRuntime runtime ["respond"]) [[word "result"]]
  | .reply =>
    bind "result" called ++ call (inRuntime runtime ["respond_reply"]) [[word "result"]]

namespace DispatchFunction

/-- The handler call: awaited when asynchronous, its failure handed on when fallible. -/
def handlerCall (function : DispatchFunction) (runtime handler : List Token) : List Token :=
  let plain := call handler (function.arguments.map fun name => [word name])
  let called := if function.isAsync then plain ++ [mark '.', word "await"] else plain
  if function.returns.isFallible then
    methodCall called "map_err" [inRuntime runtime ["DispatchError", "handler"]] ++ [mark '?']
  else called

/-- The documentation of a dispatch function: the route and its handler. -/
def title (function : DispatchFunction) : String :=
  " " ++ function.method.name ++ " " ++ function.route ++ " -> " ++ function.handlerPath

def tokens [SourceParser] (function : DispatchFunction) (runtime : List Token) :
    Except NameFault (List Token) := do
  let steps ← stepTokens runtime function.steps
  let handler ← pathTokens function.handlerPath
  let body := steps ++ answerTokens runtime function.returns.kind
    (function.handlerCall runtime handler)
  .ok (documentation (Text.stringLiteral function.title) ++ (allowUnused ++
    ([word "fn", word function.name, parameterTokens
        [typed "ctx" (inRuntime runtime ["CallContext"]),
          typed "converters" (sharedRegistry runtime "ConverterRegistry"),
          typed "providers" (sharedRegistry runtime "ProviderRegistry")]] ++
      (operator ['-', '>'] ++ (inRuntime runtime ["DispatchFuture"] ++
        [braced (call (standard ["boxed", "Box", "pin"])
          [[word "async", word "move", braced body]])])))))

end DispatchFunction

def routerBound (runtime : List Token) : List Token :=
  word "where" :: (typed "R" (inRuntime runtime ["RouteRegistrar"] ++
    [mark '+', mark '?', word "Sized", mark ',']))

/-- A function that registers routes: its name, the form of its registry parameters, and
its body. -/
def registrarTokens (runtime : List Token) (name : String)
    (registry : List Token → List Token) (body : List Token) : List Token :=
  [word "fn", word name, mark '<', word "R", mark '>', parameterTokens
    [typed "router" [mark '&', word "mut", word "R"],
      typed "converters" (registry (sharedRegistry runtime "ConverterRegistry")),
      typed "providers" (registry (sharedRegistry runtime "ProviderRegistry"))]] ++
    (routerBound runtime ++ [braced body])

def RegistrationCall.tokens (runtime : List Token) : RegistrationCall → List Token
  | .route method path dispatch =>
    let arguments :=
      [inRuntime runtime ["Method", method.name], [.literal (Text.stringLiteral path)],
        call (inRuntime runtime ["dispatch_unit"])
          [[word "converters"], [word "providers"], [word dispatch]]]
    [word "router", mark '.', word "register", parenthesized (commaSeparated true arguments),
      mark ';']
  | .group registration =>
    call [word registration] [[word "router"], [word "converters"], [word "providers"]] ++
      [mark ';']

namespace RegistrationFunction

def title (function : RegistrationFunction) : String :=
  " Routes of `" ++ function.modulePath ++ "` (prefix `" ++ function.base ++ "`)."

def tokens (function : RegistrationFunction) (runtime : List Token) : List Token :=
  documentation (Text.stringLiteral function.title) ++ (allowUnused ++
    registrarTokens runtime function.name reference
      (function.calls.flatMap fun statement => statement.tokens runtime))

end RegistrationFunction

def GeneratedItem.tokens [SourceParser] (runtime : List Token) :
    GeneratedItem → Except NameFault (List Token)
  | .dispatch function => function.tokens runtime
  | .registration function => .ok (function.tokens runtime)

def itemTokens [SourceParser] (runtime : List Token) :
    List GeneratedItem → Except NameFault (List Token)
  | [] => .ok []
  | first :: rest => do
    let item ← first.tokens runtime
    let others ← itemTokens runtime rest
    .ok (item ++ others)

/-- The call of an outermost registration function. -/
def entryCallTokens (registration : String) : List Token :=
  call [word registration]
    [[word "router"], reference [word "converters"], reference [word "providers"]] ++ [mark ';']

/-- The name of the entry point: an identifier without blanks around it. -/
def entryName (entry : String) : Except NameFault String :=
  if isBareName (unraw entry) then .ok entry else .error (.unwritableEntry entry)

/-- A generated program, entry point first. -/
def GeneratedProgram.tokens [SourceParser] (program : GeneratedProgram) (runtimePath : String) :
    Except NameFault (List Token) := do
  let runtime ← pathTokens runtimePath
  let items ← itemTokens runtime program.items
  let entry ← entryName program.entry
  .ok (documentation "r\" Register every compiled route against `router`.\"" ++
    (documentation "r\"\"" ++
      (documentation "r\" Call once, after all converters and providers are registered.\"" ++
        (allowUnused ++ (word "pub" ::
          (registrarTokens runtime entry id (program.calls.flatMap entryCallTokens) ++ items))))))

end MarkedRoutes
