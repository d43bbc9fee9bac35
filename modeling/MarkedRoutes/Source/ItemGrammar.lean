import MarkedRoutes.Source.ExpressionGrammar
import MarkedRoutes.Source.Parser

/-!
# Reading items

The grammar of a source file.  What is kept is the heads of its items.  Bodies of
functions, initial values and where clauses are read only to see that they are such;
`item` is the reader of the items that stand among the statements of a body.
-/

namespace MarkedRoutes.Source

/-! ### Attributes and visibility -/

/-- Reads the content of an attribute's brackets. -/
def readAttribute (isInner : Bool) (content : List Token) : Except Fault Attribute := do
  let ((rooted, path), rest) ← readAttributePath content
  match rest with
  | [] => .ok ⟨isInner, rooted, path, .bare⟩
  | [.group _ tokens] => .ok ⟨isInner, rooted, path, .list tokens⟩
  | .punct '=' _ :: value =>
    if value.isEmpty then .error .atEnd
    else if isAttributeValue (isExpression fun _ => none) value then
      .ok ⟨isInner, rooted, path, .value value⟩
    else .error .unexpected
  | _ => .error .unexpected

/-- Reads the attributes in front of a declaration. -/
def readOuterAttributes : List Token → Except Fault (List Attribute × List Token)
  | .punct '#' _ :: .group .bracket content :: rest => do
    let first ← readAttribute false content
    let (more, after) ← readOuterAttributes rest
    .ok (first :: more, after)
  | tokens => .ok ([], tokens)

/-- Reads the attributes that open a body. -/
def readInnerAttributes : List Token → Except Fault (List Attribute × List Token)
  | .punct '#' _ :: .punct '!' _ :: .group .bracket content :: rest => do
    let first ← readAttribute true content
    let (more, after) ← readInnerAttributes rest
    .ok (first :: more, after)
  | tokens => .ok ([], tokens)

/-- Reads a visibility.  Parentheses after `pub` belong to it only when they name a scope. -/
def readVisibility (tokens : List Token) : Visibility × List Token :=
  match dropWord? "pub" tokens with
  | none => (.inherited, tokens)
  | some rest =>
    match rest with
    | .group .parenthesis [.ident scope _] :: after =>
      if scope = "crate" ∨ scope = "self" ∨ scope = "super" then (.restricted, after)
      else (.everywhere, rest)
    | .group .parenthesis (.ident "in" _ :: scope) :: after =>
      match readPlainPath ((dropOperator? [':', ':'] scope).getD scope) with
      | .ok (_, []) => (.restricted, after)
      | _ => (.everywhere, rest)
    | _ => (.everywhere, rest)

/-! ### Generics -/

/-- Drops the optional `= value` of a generic constant. -/
def dropConstantDefault (tokens : List Token) : Except Fault (List Token) :=
  match dropMark? '=' tokens with
  | none => .ok tokens
  | some rest =>
    match dropLiteral? rest with
    | some (_, after) => .ok after
    | none =>
      match rest with
      | .group .brace content :: after =>
        if areStatements (fun _ => none) content then .ok after else .error .unexpected
      | _ => do
        let (_, after) ← readName rest
        .ok after

def dropLifetimeBounds : Nat → List Token → List Token
  | 0, tokens => tokens
  | fuel + 1, tokens =>
    match dropLifetime? tokens with
    | none => tokens
    | some (_, rest) =>
      match dropMark? '+' rest with
      | some more => dropLifetimeBounds fuel more
      | none => rest

/-- Reads generic parameters up to the closing bracket, with whether one of them is no
lifetime. -/
def readGenericParameters : Nat → List Token → Except Fault (Bool × List Token)
  | 0, _ => .error .unexpected
  | fuel + 1, tokens =>
    match dropMark? '>' tokens with
    | some rest => .ok (false, rest)
    | none => do
      let (_, tokens) ← readOuterAttributes tokens
      let (isValue, rest) ←
        match dropLifetime? tokens with
        | some (_, rest) =>
          match dropMark? ':' rest with
          | some bounds => .ok (false, dropLifetimeBounds fuel bounds)
          | none => .ok (false, rest)
        | none =>
          match dropWord? "const" tokens with
          | some rest => do
            let (_, rest) ← readName rest
            let rest ← readMark ':' rest
            let (_, rest) ← readFullType rest
            let rest ← dropConstantDefault rest
            .ok (true, rest)
          | none => do
            let (_, rest) ← readName tokens
            let rest ←
              match dropMark? ':' rest with
              | some bounds =>
                if startsBound bounds then do
                  let (_, rest) ← readFullBounds bounds
                  .ok rest
                else .ok bounds
              | none => .ok rest
            match dropMark? '=' rest with
            | some value => do
              let (_, rest) ← readFullType value
              .ok (true, rest)
            | none => .ok (true, rest)
      match dropMark? '>' rest with
      | some rest => .ok (isValue, rest)
      | none => do
        let rest ← readMark ',' rest
        let (more, rest) ← readGenericParameters fuel rest
        .ok (isValue || more, rest)

/-- Reads optional generic parameters. -/
def readGenerics (tokens : List Token) : Except Fault (Bool × List Token) :=
  match dropMark? '<' tokens with
  | some rest => readGenericParameters (grammarFuel rest) rest
  | none => .ok (false, tokens)

/-- Whether the bracket after `impl` opens generic parameters and not a qualified path. -/
def opensGenerics (tokens : List Token) : Bool :=
  match dropMark? '<' tokens with
  | none => false
  | some rest =>
    let parameterEnd (after : List Token) : Bool :=
      startsMark '>' after || startsMark ',' after || startsMark '=' after ||
        (startsMark ':' after && !startsOperator [':', ':'] after)
    startsMark '>' rest || startsMark '#' rest || startsWord "const" rest ||
      (match dropLifetime? rest with
        | some (_, after) => parameterEnd after
        | none => startsName rest && parameterEnd (rest.drop 1))

/-- Whether no further predicate or bound of a `where` clause begins here. -/
def endsPredicates (tokens : List Token) : Bool :=
  tokens.isEmpty || startsGroup .brace tokens || startsMark ',' tokens || startsMark ';' tokens ||
    startsMark '=' tokens || (startsMark ':' tokens && !startsOperator [':', ':'] tokens)

/-- Drops one predicate of a `where` clause: a lifetime or a type with its bounds. -/
def dropPredicate (tokens : List Token) : Except Fault (List Token) :=
  match dropLifetime? tokens with
  | some (_, .punct ':' _ :: bounds) => .ok (dropLifetimeBounds bounds.length bounds)
  | _ => do
    let (_, rest) ← readBinder (grammarFuel tokens) tokens
    let (_, rest) ← readFullType rest
    let bounds ← readMark ':' rest
    if endsPredicates bounds then .ok bounds
    else do
      let (_, rest) ← readFullBounds bounds
      .ok rest

/-- Drops the predicates of a `where` clause. -/
def dropPredicates : Nat → List Token → Except Fault (List Token)
  | 0, _ => .error .unexpected
  | fuel + 1, tokens =>
    if endsPredicates tokens then .ok tokens
    else do
      let rest ← dropPredicate tokens
      match dropMark? ',' rest with
      | some rest => dropPredicates fuel rest
      | none => .ok rest

/-- Drops a `where` clause, when one follows. -/
def dropWhereClause (tokens : List Token) : Except Fault (List Token) :=
  match dropWord? "where" tokens with
  | some rest => dropPredicates (rest.length + 1) rest
  | none => .ok tokens

/-! ### Functions -/

/-- Splits tokens before the first colon that is no part of `::`. -/
def splitAtColon : List Token → Option (List Token × List Token)
  | .punct ':' true :: .punct ':' joined :: rest =>
    (splitAtColon rest).map fun (before, after) =>
      (.punct ':' true :: .punct ':' joined :: before, after)
  | .punct ':' _ :: rest => some ([], rest)
  | token :: rest => (splitAtColon rest).map fun (before, after) => (token :: before, after)
  | [] => none

/-- The name a pattern binds when it is an identifier with optional `ref`, `mut` and `@`. -/
def patternName? (pattern : List Token) : Option String :=
  let pattern := (dropWord? "ref" pattern).getD pattern
  let pattern := (dropWord? "mut" pattern).getD pattern
  match pattern with
  | [.ident name _] => if isKeyword name then none else some name
  | .ident name _ :: .punct '@' _ :: _ :: _ => if isKeyword name then none else some name
  | _ => none

/-- Reads the receiver of a method: `self`, `mut self`, `&self`, `self: Type` and so on. -/
def readReceiver? (tokens : List Token) : Option (List Token) :=
  let (isReference, rest) :=
    match tokens with
    | .punct '&' _ :: rest =>
      (true, match dropLifetime? rest with
        | some (_, after) => after
        | none => rest)
    | _ => (false, tokens)
  let rest := (dropWord? "mut" rest).getD rest
  match dropWord? "self" rest with
  | none => none
  | some rest =>
    if isReference then some rest
    else if startsOperator [':', ':'] rest then none
    else
      match dropMark? ':' rest with
      | none => some rest
      | some typed =>
        match readFullType typed with
        | .ok (_, after) => some after
        | .error _ => none

/-- Reads function parameters to the end of the tokens.  `first` says that a receiver may
come; a final `...` is dropped, and a type with arguments may stand without a pattern. -/
def readParameters : Nat → Bool → List Token → Except Fault (Bool × List Parameter)
  | 0, _, _ => .error .unexpected
  | fuel + 1, first, tokens =>
    if tokens.isEmpty then .ok (false, [])
    else do
      let (attributes, tokens) ← readOuterAttributes tokens
      match dropOperator? ['.', '.', '.'] tokens with
      | some rest =>
        if rest.isEmpty || (finish (α := Unit) (do .ok ((), ← readMark ',' rest))).isOk then
          .ok (false, [])
        else .error .unexpected
      | none =>
        match readReceiver? tokens with
        | some rest =>
          if !first then .error .unexpected
          else if rest.isEmpty then .ok (true, [])
          else do
            let rest ← readMark ',' rest
            let (_, more) ← readParameters fuel false rest
            .ok (true, more)
        | none => do
          let (pattern, rest) ←
            if startsName tokens && startsMark '<' (tokens.drop 1) then
              .ok ([.ident "_" 0], tokens)
            else
              match splitAtColon tokens with
              | some found => .ok found
              | none => .error .unexpected
          let name := patternName? pattern
          if !isPattern pattern then .error .unexpected
          else
            match dropOperator? ['.', '.', '.'] rest with
            | some [] => .ok (false, [])
            | some _ => .error .unexpected
            | none => do
              let (type, rest) ← readFullType rest
              let parameter : Parameter := ⟨attributes, name.map unraw, pattern, type⟩
              if rest.isEmpty then .ok (false, [parameter])
              else do
                let rest ← readMark ',' rest
                let (_, more) ← readParameters fuel false rest
                .ok (false, parameter :: more)

/-- Drops the qualifiers of a function and says whether it is `async`; fails when no
function follows. -/
def readFunctionHead? (tokens : List Token) : Option (Bool × List Token) :=
  let tokens := (dropWord? "const" tokens).getD tokens
  let (isAsync, tokens) :=
    match dropWord? "async" tokens with
    | some rest => (true, rest)
    | none => (false, tokens)
  let (_, tokens) := readFunctionQualifiers tokens
  (dropWord? "fn" tokens).map fun rest => (isAsync, rest)

/-- Reads a function signature after `fn`. -/
def readSignature (isAsync : Bool) (tokens : List Token) :
    Except Fault (Signature × List Token) := do
  let ((name, line), rest) ← readName tokens
  let (hasGenerics, rest) ← readGenerics rest
  let (content, rest) ← readGroup .parenthesis rest
  let (hasReceiver, parameters) ← readParameters (grammarFuel content) true content
  let (output, rest) ←
    match dropOperator? ['-', '>'] rest with
    | some rest => do
      let (type, rest) ← readFullType rest
      .ok (some type, rest)
    | none => .ok (none, rest)
  let rest ← dropWhereClause rest
  .ok (⟨unraw name, line, parameters, output, isAsync, hasReceiver, hasGenerics⟩, rest)

/-! ### Members of types -/

def areNamedFields : Nat → List Token → Bool
  | 0, _ => false
  | fuel + 1, tokens =>
    if tokens.isEmpty then true
    else
      match readOuterAttributes tokens with
      | .error _ => false
      | .ok (_, tokens) =>
        let (_, tokens) := readVisibility tokens
        match tokens with
        | .ident name _ :: .punct ':' _ :: rest =>
          if isKeyword name then false
          else
            match readFullType rest with
            | .ok (_, []) => true
            | .ok (_, .punct ',' _ :: more) => areNamedFields fuel more
            | _ => false
        | _ => false

def areUnnamedFields : Nat → List Token → Bool
  | 0, _ => false
  | fuel + 1, tokens =>
    if tokens.isEmpty then true
    else
      match readOuterAttributes tokens with
      | .error _ => false
      | .ok (_, tokens) =>
        let (_, tokens) := readVisibility tokens
        match readFullType tokens with
        | .ok (_, []) => true
        | .ok (_, .punct ',' _ :: more) => areUnnamedFields fuel more
        | _ => false

def areVariants : Nat → List Token → Bool
  | 0, _ => false
  | fuel + 1, tokens =>
    if tokens.isEmpty then true
    else
      match readOuterAttributes tokens with
      | .error _ => false
      | .ok (_, tokens) =>
        let (_, tokens) := readVisibility tokens
        match readName tokens with
        | .error _ => false
        | .ok (_, rest) =>
          let (fieldsFit, rest) :=
            match rest with
            | .group .brace content :: rest => (areNamedFields (content.length + 1) content, rest)
            | .group .parenthesis content :: rest =>
              (areUnnamedFields (content.length + 1) content, rest)
            | _ => (true, rest)
          let rest? :=
            match rest with
            | .punct '=' _ :: value => dropExpression (plainReaders value) true value
            | _ => some rest
          match rest? with
          | some [] => fieldsFit
          | some (.punct ',' _ :: more) => fieldsFit && areVariants fuel more
          | _ => false

/-- Drops an expression, a `where` clause and a semicolon, and says whether there is such a
clause. -/
def dropValue (item : List Token → Option (List Token)) (tokens : List Token) :
    Except Fault (Bool × List Token) := do
  let rest := tokens.dropWhile fun token => !startsMark ';' [token]
  let value := tokens.take (tokens.length - rest.length)
  match dropExpression (expressionReaders item (grammarFuel value)) true value with
  | some clause => do
    let left ← dropWhereClause clause
    if left.isEmpty then .ok (startsWord "where" clause, ← readMark ';' rest)
    else .error .unexpected
  | none => .error .unexpected

mutual

/-- Drops one tree of imported names: a path that ends in a name, in `*` or in braces. -/
def dropImportTree : Nat → List Token → Except Fault (List Token)
  | 0, _ => .error .unexpected
  | fuel + 1, tokens =>
    match (dropOperator? [':', ':'] tokens).getD tokens with
    | .punct '*' _ :: rest => .ok rest
    | .group .brace content :: rest => do
      dropImportTrees fuel content
      .ok rest
    | .ident name _ :: rest =>
      if isKeyword name && !(["crate", "self", "super", "try"].contains name) then
        .error .unexpected
      else
        match dropOperator? [':', ':'] rest with
        | some more => dropImportTree fuel more
        | none =>
          match dropWord? "as" rest with
          | some (.ident "_" _ :: rest) => .ok rest
          | some rest => do
            let (_, rest) ← readName rest
            .ok rest
          | none => .ok rest
    | rest => .error (faultAt rest)

/-- Requires that the tokens are trees of imported names between commas. -/
def dropImportTrees : Nat → List Token → Except Fault Unit
  | 0, _ => .error .unexpected
  | fuel + 1, tokens =>
    if tokens.isEmpty then .ok ()
    else do
      let rest ← dropImportTree fuel tokens
      if rest.isEmpty then .ok ()
      else do
        let rest ← readMark ',' rest
        dropImportTrees fuel rest

end

/-- Drops a semicolon, or the value after an equals sign and its semicolon. -/
def dropOptionalValue (item : List Token → Option (List Token)) (tokens : List Token) :
    Except Fault (Bool × List Token) := do
  match dropMark? '=' tokens with
  | some value => dropValue item value
  | none => do
    let rest ← dropWhereClause tokens
    .ok (startsWord "where" tokens, ← readMark ';' rest)

def dropStructBody (tokens : List Token) : Except Fault (List Token) := do
  match ← dropWhereClause tokens with
  | .group .brace content :: rest =>
    if areNamedFields (content.length + 1) content then .ok rest else .error .unexpected
  | .group .parenthesis content :: rest =>
    if areUnnamedFields (content.length + 1) content then do
      let rest ← dropWhereClause rest
      readMark ';' rest
    else .error .unexpected
  | rest => readMark ';' rest

/-- Drops a function body and returns the attributes that open it. -/
def dropBody (item : List Token → Option (List Token)) (tokens : List Token) :
    Except Fault (List Attribute × List Token) := do
  let (content, rest) ← readGroup .brace tokens
  let (attributes, statements) ← readInnerAttributes content
  if areStatements item statements then .ok (attributes, rest) else .error .unexpected

/-- Drops the rest of a macro call after its name: brackets or parentheses need a
semicolon. -/
def dropMacroBody (tokens : List Token) : Except Fault (List Token) :=
  match tokens with
  | .group .brace _ :: rest => .ok rest
  | .group _ _ :: rest => readMark ';' rest
  | _ => .error (faultAt tokens)

/-- The head of an implementation: the interface when there is one, and the type.  A head is
plain when it is not `const` and its interface is a path. -/
structure ImplementationHead where
  interface : Option ImplementedInterface
  subject : TypeExpr
  isPlain : Bool

def readImplementationHead (tokens : List Token) :
    Except Fault (ImplementationHead × List Token) := do
  let (_, rest) ← if opensGenerics tokens then readGenerics tokens else .ok (false, tokens)
  let (isConst, rest) :=
    match dropWord? "const" rest with
    | some after => (true, after)
    | none => (false, rest)
  let (isNegative, rest) :=
    match rest with
    | .punct '!' _ :: .group .brace content :: after =>
      (false, .punct '!' false :: .group .brace content :: after)
    | .punct '!' _ :: after => (true, after)
    | _ => (false, rest)
  let (first, rest) ← readFullType rest
  match dropWord? "for" rest with
  | some rest => do
    let (subject, rest) ← readFullType rest
    let rest ← dropWhereClause rest
    match first with
    | .path interface => .ok (⟨some ⟨isNegative, interface⟩, subject, !isConst⟩, rest)
    | _ => .ok (⟨none, subject, false⟩, rest)
  | none => do
    let rest ← dropWhereClause rest
    .ok (⟨none, first, !isConst⟩, rest)

/-! ### Items -/

/-- Reads a macro call or definition; it takes no visibility. -/
def readMacroCall (attributes : List Attribute) (visibility : Visibility) (tokens : List Token) :
    Except Fault (Item × List Token) := do
  if visibility != .inherited then .error .unexpected
  else do
    let (_, rest) ← readPlainPath ((dropOperator? [':', ':'] tokens).getD tokens)
    let rest ← readMark '!' rest
    let rest :=
      match rest with
      | .ident name line :: after =>
        if isKeyword name && name != "try" then .ident name line :: after else after
      | _ => rest
    let rest ← dropMacroBody rest
    .ok (.other attributes, rest)

/-- Drops `default` in front of an implementation, and `default` or `safe` in front of a
member. -/
def dropDefault (member : Bool) (tokens : List Token) : List Token :=
  let rest := tokens.drop 1
  if member then
    if (startsWord "default" tokens || startsWord "safe" tokens) && startsAnyWord rest then rest
    else tokens
  else if startsWord "default" tokens &&
      startsWord "impl" ((dropWord? "unsafe" rest).getD rest) then rest
  else tokens

/-- What stands behind the item that `read` takes. -/
def behindItem (read : List Token → Except Fault (Item × List Token)) (tokens : List Token) :
    Option (List Token) :=
  (read tokens).toOption.map Prod.snd

mutual

/-- Reads items to the end of the tokens.  `member` says that they are members of a trait,
an implementation or a foreign block, where only functions, values, types and macro calls
may stand. -/
def readItems : Nat → Bool → List Token → Except Fault (List Item)
  | 0, _, _ => .error .unexpected
  | fuel + 1, member, tokens =>
    if tokens.isEmpty then .ok []
    else do
      let (first, rest) ← readItem fuel member tokens
      let more ← readItems fuel member rest
      .ok (first :: more)

def readItem : Nat → Bool → List Token → Except Fault (Item × List Token)
  | 0, _, _ => .error .unexpected
  | fuel + 1, member, tokens => do
    let (attributes, tokens) ← readOuterAttributes tokens
    let (visibility, tokens) := readVisibility tokens
    let tokens := dropDefault member tokens
    match readFunctionHead? tokens with
    | some (isAsync, rest) => do
      let (signature, rest) ← readSignature isAsync rest
      match dropMark? ';' rest with
      | some rest => .ok (.other attributes, rest)
      | none => do
        let (inner, rest) ← dropBody (behindItem (readItem fuel false)) rest
        .ok (.function (attributes ++ inner) visibility signature, rest)
    | none => readOtherItem fuel member attributes visibility tokens

/-- Reads an item that is no function, after its attributes and visibility. -/
def readOtherItem : Nat → Bool → List Attribute → Visibility → List Token →
    Except Fault (Item × List Token)
  | 0, _, _, _, _ => .error .unexpected
  | fuel + 1, member, attributes, visibility, tokens =>
    match tokens with
    | .ident "const" _ :: rest => do
      let ((name, line), rest) ←
        match rest with
        | .ident "_" line :: rest => .ok (("_", line), rest)
        | _ => readName rest
      let (_, typed) ← readGenerics rest
      let hasGenerics := startsMark '<' rest
      let (hasType, rest) ←
        match dropMark? ':' typed with
        | some type => do
          let (_, rest) ← readFullType type
          .ok (true, rest)
        | none => .ok (false, typed)
      let hasValue := startsMark '=' rest
      let (hasClause, rest) ← dropOptionalValue (behindItem (readItem fuel false)) rest
      if hasType && hasValue && !hasGenerics && !hasClause then
        .ok (.named .constant attributes visibility (unraw name) line, rest)
      else .ok (.other attributes, rest)
    | .ident "type" _ :: rest => do
      let ((name, line), rest) ← readName rest
      let (_, rest) ← readGenerics rest
      let (hasBounds, rest) ←
        match dropMark? ':' rest with
        | some bounds =>
          if startsBound bounds then do
            let (_, rest) ← readFullBounds bounds
            .ok (true, rest)
          else .ok (true, bounds)
        | none => .ok (false, rest)
      let rest ← dropWhereClause rest
      match dropMark? '=' rest with
      | some value => do
        let (_, rest) ← readFullType value
        let rest ← dropWhereClause rest
        let rest ← readMark ';' rest
        if hasBounds then .ok (.other attributes, rest)
        else .ok (.named .typeAlias attributes visibility (unraw name) line, rest)
      | none => do
        let rest ← readMark ';' rest
        .ok (.other attributes, rest)
    | .ident "static" _ :: rest => do
      let rest := (dropWord? "mut" rest).getD rest
      let ((name, line), rest) ← readName rest
      match dropMark? '=' rest with
      | some value => do
        let (hasClause, rest) ← dropValue (behindItem (readItem fuel false)) value
        if hasClause then .error .unexpected else .ok (.other attributes, rest)
      | none => do
        let rest ← readMark ':' rest
        let (_, rest) ← readFullType rest
        let hasValue := startsMark '=' rest
        let (hasClause, rest) ← dropOptionalValue (behindItem (readItem fuel false)) rest
        if hasClause then .error .unexpected
        else if hasValue then
          .ok (.named .staticValue attributes visibility (unraw name) line, rest)
        else .ok (.other attributes, rest)
    | _ =>
      if member then readMacroCall attributes visibility tokens
      else readTopItem fuel attributes visibility tokens

/-- Reads an item that only a file or a module may hold. -/
def readTopItem : Nat → List Attribute → Visibility → List Token → Except Fault (Item × List Token)
  | 0, _, _, _ => .error .unexpected
  | fuel + 1, attributes, visibility, tokens =>
    match tokens with
    | .ident "use" _ :: rest => do
      let rest ← dropImportTree (grammarFuel rest) rest
      let rest ← readMark ';' rest
      .ok (.other attributes, rest)
    | .ident "extern" _ :: .ident "crate" _ :: rest => do
      let (_, rest) ←
        match dropWord? "self" rest with
        | some rest => .ok (("self", 0), rest)
        | none => readName rest
      let rest ←
        match dropWord? "as" rest with
        | some (.ident "_" _ :: rest) => .ok rest
        | some rest => do
          let (_, rest) ← readName rest
          .ok rest
        | none => .ok rest
      let rest ← readMark ';' rest
      .ok (.other attributes, rest)
    | .ident "mod" _ :: rest => readModule fuel attributes visibility rest
    | .ident "unsafe" _ :: .ident "mod" _ :: rest => readModule fuel attributes visibility rest
    | .ident "struct" _ :: rest => do
      let ((name, line), rest) ← readName rest
      let (_, rest) ← readGenerics rest
      let rest ← dropStructBody rest
      .ok (.named .structType attributes visibility (unraw name) line, rest)
    | .ident "enum" _ :: rest => do
      let ((name, line), rest) ← readName rest
      let (_, rest) ← readGenerics rest
      let rest ← dropWhereClause rest
      let (content, rest) ← readGroup .brace rest
      if areVariants (content.length + 1) content then
        .ok (.named .enumType attributes visibility (unraw name) line, rest)
      else .error .unexpected
    | .ident "union" _ :: .ident name line :: rest =>
      if isKeyword name then .error .unexpected
      else do
        let (_, rest) ← readGenerics rest
        let rest ← dropWhereClause rest
        let (content, rest) ← readGroup .brace rest
        if areNamedFields (content.length + 1) content then
          .ok (.named .unionType attributes visibility (unraw name) line, rest)
        else .error .unexpected
    | .ident "impl" line :: rest => readImplementation fuel attributes visibility line rest
    | .ident "unsafe" _ :: .ident "impl" line :: rest =>
      readImplementation fuel attributes visibility line rest
    | .ident "macro" _ :: rest => do
      let (_, rest) ← readName rest
      match rest with
      | .group .brace _ :: rest => .ok (.other attributes, rest)
      | .group .parenthesis _ :: .group .brace _ :: rest => .ok (.other attributes, rest)
      | _ => .error (faultAt rest)
    | _ =>
      let unmarked := (dropWord? "unsafe" tokens).getD tokens
      let foreignBlock? :=
        match dropWord? "extern" unmarked with
        | some (.literal _ :: .group .brace content :: rest) => some (content, rest)
        | some (.group .brace content :: rest) => some (content, rest)
        | _ => none
      match foreignBlock? with
      | some (content, rest) => do
        let (_, members) ← readInnerAttributes content
        let _ ← readItems fuel true members
        .ok (.other attributes, rest)
      | none =>
        let plain :=
          if startsWord "auto" unmarked && startsWord "trait" (unmarked.drop 1) then
            unmarked.drop 1
          else unmarked
        match dropWord? "trait" plain with
        | some rest => readTrait fuel attributes visibility rest
        | none => readMacroCall attributes visibility tokens

def readModule : Nat → List Attribute → Visibility → List Token → Except Fault (Item × List Token)
  | 0, _, _, _ => .error .unexpected
  | fuel + 1, attributes, visibility, tokens => do
    let ((name, line), rest) ←
      match tokens with
      | .ident "try" line :: rest => .ok (("try", line), rest)
      | _ => readName tokens
    match dropMark? ';' rest with
    | some rest => .ok (.module attributes visibility (unraw name) line none, rest)
    | none => do
      let (content, rest) ← readGroup .brace rest
      let (inner, content) ← readInnerAttributes content
      let items ← readItems fuel false content
      .ok (.module (attributes ++ inner) visibility (unraw name) line (some items), rest)

/-- Reads an implementation after `impl`; one with a visibility or without a plain head
carries nothing. -/
def readImplementation : Nat → List Attribute → Visibility → Nat → List Token →
    Except Fault (Item × List Token)
  | 0, _, _, _, _ => .error .unexpected
  | fuel + 1, attributes, visibility, line, tokens => do
    let (head, rest) ← readImplementationHead tokens
    let (content, rest) ← readGroup .brace rest
    let (inner, members) ← readInnerAttributes content
    let _ ← readItems fuel true members
    let attributes := attributes ++ inner
    if visibility = .inherited && head.isPlain then
      .ok (.implementation attributes line head.interface head.subject, rest)
    else .ok (.other attributes, rest)

/-- Reads a trait after `trait`; an alias of traits carries nothing. -/
def readTrait : Nat → List Attribute → Visibility → List Token → Except Fault (Item × List Token)
  | 0, _, _, _ => .error .unexpected
  | fuel + 1, attributes, visibility, tokens => do
    let ((name, line), rest) ← readName tokens
    let (_, rest) ← readGenerics rest
    let rest ←
      match dropMark? ':' rest with
      | some bounds =>
        if startsBound bounds && !startsWord "where" bounds then do
          let (_, rest) ← readFullBounds bounds
          .ok rest
        else .ok bounds
      | none => .ok rest
    match dropMark? '=' rest with
    | some aliased => do
      let (_, rest) ←
        if startsBound aliased && !startsWord "where" aliased then readFullBounds aliased
        else .ok ([], aliased)
      let rest ← dropWhereClause rest
      let rest ← readMark ';' rest
      .ok (.other attributes, rest)
    | none => do
      let rest ← dropWhereClause rest
      let (content, rest) ← readGroup .brace rest
      let (inner, members) ← readInnerAttributes content
      let _ ← readItems fuel true members
      .ok (.named .traitDefinition (attributes ++ inner) visibility (unraw name) line, rest)

end

/-- Drops the first line when it names an interpreter. -/
def dropInterpreterLine : List Char → List Char
  | '#' :: '!' :: rest =>
    match rest.dropWhile Lexeme.isSeparator with
    | '[' :: _ => '#' :: '!' :: rest
    | _ => rest.dropWhile (· != '\n')
  | text => text

/-- Reads the items of a file, behind the attributes that open it. -/
def readFileItems (tokens : List Token) : Except Fault (List Item) := do
  let (_, tokens) ← readInnerAttributes tokens
  readItems (grammarFuel tokens) false tokens

/-- The items of a source file, when the text is one. -/
def itemsOfText? (text : String) : Option (List Item) :=
  match readTokens (dropInterpreterLine (dropByteOrderMark text.toList)) with
  | none => none
  | some tokens => (readFileItems tokens).toOption

/-- Reads a source file.  Where a text stops to be one is not told. -/
def readFile (text : String) : Except SyntaxFault (List Item) :=
  match itemsOfText? text with
  | some items => .ok items
  | none => .error ⟨1, "the text is no source file"⟩

/-- The parser that reads by this grammar. -/
@[reducible]
def SourceParser.standard : SourceParser where
  file := readFile
  path := readFullPath
  areItems tokens := (readFileItems tokens).isOk

end MarkedRoutes.Source
