import MarkedRoutes.Source.TypeGrammar

/-!
# Reading expressions, patterns and statements

The grammar of function bodies and of constant values.  Nothing of a body is kept, so a
reader here returns the tokens behind what it reads, or fails.

Expressions, patterns, statements and the array lengths of types hold one another.  Each
reader is written over a record of the readers for the smaller parts, and
`expressionReaders` ties them with one fuel.  Binary operators are read by precedence
climbing; what kind of expression stands on the left decides whether another operator,
a semicolon or a comma may or must follow.
-/

namespace MarkedRoutes.Source

/-- What the grammar asks about an expression that it has read. -/
inductive ExpressionKind where
  | comparison
  | openRange
  | closedRange
  | block
  | braceMacro
  | other
  deriving DecidableEq, Repr

/-- The readers of smaller parts.  The first flag of the readers of expressions says whether
a structure literal may stand there. -/
structure ExpressionReaders where
  operand : Bool → List Token → Option (ExpressionKind × List Token)
  continued : Bool → Nat → ExpressionKind → List Token → Option (ExpressionKind × List Token)
  pattern : List Token → Option (List Token)
  areStatements : List Token → Bool
  item : List Token → Option (List Token)

/-! ### Operators -/

namespace Precedence

def lowest : Nat := 0
def assignment : Nat := 1
def range : Nat := 2
def comparison : Nat := 6
def cast : Nat := 13

end Precedence

/-- The binary operators with their precedences, the longer ones first. -/
def binaryOperators : List (List Char × Nat) :=
  [(['<', '<', '='], 1), (['>', '>', '='], 1), (['+', '='], 1), (['-', '='], 1), (['*', '='], 1),
    (['/', '='], 1), (['%', '='], 1), (['^', '='], 1), (['&', '='], 1), (['|', '='], 1),
    (['&', '&'], 4), (['|', '|'], 3), (['<', '<'], 10), (['>', '>'], 10), (['=', '='], 6),
    (['<', '='], 6), (['!', '='], 6), (['>', '='], 6), (['+'], 11), (['-'], 11), (['*'], 12),
    (['/'], 12), (['%'], 12), (['^'], 8), (['&'], 9), (['|'], 7), (['<'], 6), (['>'], 6)]

/-- The precedence of the binary operator at the head of the tokens. -/
def dropBinaryOperator? (tokens : List Token) : Option (Nat × List Token) :=
  binaryOperators.findSome? fun (operator, precedence) =>
    (dropOperator? operator tokens).map fun rest => (precedence, rest)

/-- Whether an assignment follows, and not the arrow of a match arm. -/
def startsAssignment (tokens : List Token) : Bool :=
  startsMark '=' tokens && !startsOperator ['=', '>'] tokens

/-- Whether a field, a method or `await` follows. -/
def startsMember (tokens : List Token) : Bool :=
  startsMark '.' tokens && !startsOperator ['.', '.'] tokens

/-- How tightly what follows an operand binds. -/
def nextPrecedence (tokens : List Token) : Nat :=
  match dropBinaryOperator? tokens with
  | some (precedence, _) => precedence
  | none =>
    if startsAssignment tokens then Precedence.assignment
    else if startsOperator ['.', '.'] tokens then Precedence.range
    else if startsWord "as" tokens then Precedence.cast
    else Precedence.lowest

/-- Whether a range that was opened with `..` has no end before these tokens. -/
def endsRange (structs : Bool) (tokens : List Token) : Bool :=
  tokens.isEmpty || startsMember tokens || (!structs && startsGroup .brace tokens) ||
    startsWord "as" tokens ||
    [[','], [';'], ['?'], ['='], ['+'], ['/'], ['%'], ['^'], ['>'], ['<', '='], ['!', '='],
      ['-', '='], ['*', '='], ['&', '='], ['|', '='], ['<', '<', '=']].any
      fun operator => startsOperator operator tokens

/-- Whether an expression can begin here after `break` or `return`. -/
def startsExpression (tokens : List Token) : Bool :=
  match tokens with
  | .ident name _ :: _ => name != "as"
  | .literal _ :: _ => true
  | .group _ _ :: _ => true
  | .punct '!' _ :: _ => !startsOperator ['!', '='] tokens
  | .punct '-' _ :: _ => !startsOperator ['-', '='] tokens && !startsOperator ['-', '>'] tokens
  | .punct '*' _ :: _ => !startsOperator ['*', '='] tokens
  | .punct '|' _ :: _ => !startsOperator ['|', '='] tokens
  | .punct '&' _ :: _ => !startsOperator ['&', '='] tokens
  | .punct '<' _ :: _ =>
    !startsOperator ['<', '='] tokens && !startsOperator ['<', '<', '='] tokens
  | .punct '.' _ :: _ => startsOperator ['.', '.'] tokens
  | .punct ':' _ :: _ => startsOperator [':', ':'] tokens
  | .punct '#' _ :: _ => true
  | _ => startsLifetime tokens

/-! ### Names and attributes -/

/-- Reads names joined by `::`; keywords other than path words are refused. -/
def readPlainPath : List Token → Except Fault (List String × List Token)
  | .ident name _ :: rest =>
    if isKeyword name && !isPathWord name then .error .unexpected
    else
      match rest with
      | .punct ':' true :: .punct ':' _ :: more => do
        let (names, after) ← readPlainPath more
        .ok (name :: names, after)
      | _ => .ok ([name], rest)
  | tokens => .error (faultAt tokens)

/-- Reads the path of an attribute, with whether it starts outside the crate. -/
def readAttributePath (content : List Token) : Except Fault ((Bool × List String) × List Token) :=
  let (rooted, content) :=
    match dropOperator? [':', ':'] content with
    | some rest => (true, rest)
    | none => (false, content)
  match content with
  | .ident "unsafe" _ :: rest => .ok ((rooted, ["unsafe"]), rest)
  | _ => do
    let (path, rest) ← readPlainPath content
    .ok ((rooted, path), rest)

/-- Whether the tokens are an expression that no attribute stands before. -/
def isAttributeValue (isExpression : List Token → Bool) (tokens : List Token) : Bool :=
  !startsMark '#' tokens && isExpression tokens

/-- Whether the tokens are parts that `drop` takes from their head, with commas between them
and perhaps one behind the last. -/
def areSeparated (drop : List Token → Option (List Token)) (tokens : List Token) : Bool :=
  parts (tokens.length + 1) tokens
where
  /-- The parts from here on. -/
  parts : Nat → List Token → Bool
    | 0, _ => false
    | fuel + 1, tokens =>
      tokens.isEmpty ||
        match drop tokens with
        | some [] => true
        | some (.punct ',' _ :: rest) => parts fuel rest
        | _ => false

section Parts

variable (inner : ExpressionReaders)

def dropExpression (structs : Bool) (tokens : List Token) : Option (List Token) := do
  let (kind, rest) ← inner.operand structs tokens
  let (_, rest) ← inner.continued structs Precedence.lowest kind rest
  some rest

def isExpressionWith (tokens : List Token) : Bool :=
  ((dropExpression inner true tokens).map List.isEmpty).getD false

/-- Drops the attributes in front of a part. -/
def dropAttributes : List Token → Option (List Token)
  | .punct '#' _ :: .group .bracket content :: rest =>
    match readAttributePath content with
    | .ok (_, []) => dropAttributes rest
    | .ok (_, [.group _ _]) => dropAttributes rest
    | .ok (_, .punct '=' _ :: value) =>
      if isAttributeValue (isExpressionWith inner) value then dropAttributes rest else none
    | _ => none
  | tokens => some tokens

/-- Drops the attributes that open a body. -/
def dropInnerAttributes : List Token → List Token
  | .punct '#' _ :: .punct '!' _ :: .group .bracket _ :: rest => dropInnerAttributes rest
  | tokens => tokens

/-- Drops a block, whose attributes stand inside it. -/
def dropBlock : List Token → Option (List Token)
  | .group .brace content :: rest =>
    if inner.areStatements (dropInnerAttributes content) then some rest else none
  | _ => none

/-! ### Types and paths in expressions -/

/-- Whether the array lengths among the tokens of a type are expressions, and its block
constants are blocks.  The arguments of a macro call are any tokens. -/
def constantsFit : Nat → List Token → Bool
  | 0, _ => false
  | fuel + 1, tokens =>
    match tokens with
    | [] => true
    | .punct '!' _ :: .group _ _ :: rest => constantsFit fuel rest
    | .punct '#' _ :: .group .bracket _ :: rest => constantsFit fuel rest
    | .group .brace content :: rest => inner.areStatements content && constantsFit fuel rest
    | .group .bracket content :: rest =>
      let length := content.dropWhile fun token => !startsMark ';' [token]
      constantsFit fuel (content.take (content.length - length.length)) &&
        (length.isEmpty || isExpressionWith inner (length.drop 1)) && constantsFit fuel rest
    | .group .parenthesis content :: rest => constantsFit fuel content && constantsFit fuel rest
    | _ :: rest => constantsFit fuel rest

/-- Drops a type; `plus` says whether bounds may follow a bare path. -/
def dropType (plus : Bool) (tokens : List Token) : Option (List Token) :=
  match readTypeWith (grammarFuel tokens) plus tokens with
  | .ok (type, rest) =>
    if constantsFit inner (grammarFuel type.tokens) type.tokens then some rest else none
  | .error _ => none

/-- Drops generic arguments behind `::`. -/
def dropTurbofish (tokens : List Token) : Option (List Token) :=
  match readArguments (grammarFuel tokens) tokens with
  | .ok (arguments, rest) =>
    let tokens := arguments.tokens
    if constantsFit inner (grammarFuel tokens) tokens then some rest else none
  | .error _ => none

/-- Drops the segments of a path, and says whether they are names without arguments.
Arguments are such only behind `::`. -/
def dropValueSegments : Nat → List Token → Option (Bool × List Token)
  | 0, _ => none
  | fuel + 1, tokens => do
    let (plain, rest) ←
      match tokens with
      | .ident name _ :: rest =>
        if name = "crate" ∨ name = "self" ∨ name = "super" ∨ name = "try" then some (true, rest)
        else if isKeyword name && name != "Self" then none
        else if startsRooted (startsMark '<') rest then
          (dropTurbofish inner rest).map fun rest => (false, rest)
        else some (true, rest)
      | _ => none
    if startsNextSegment rest then do
      let rest ← dropOperator? [':', ':'] rest
      let (more, rest) ← dropValueSegments fuel rest
      some (plain && more, rest)
    else some (plain, rest)

/-- Drops a path that stands for a value or begins a pattern, and says whether it is plain
names. -/
def dropValuePath (tokens : List Token) : Option (Bool × List Token) :=
  match dropMark? '<' tokens with
  | some rest => do
    let rest ← dropType inner true rest
    let rest ←
      match dropWord? "as" rest with
      | some rest =>
        match readPathWith (grammarFuel rest) rest with
        | .ok (path, after) =>
          if constantsFit inner (grammarFuel path.tokens) path.tokens then some after else none
        | .error _ => none
      | none => some rest
    let rest ← dropMark? '>' rest
    let rest ← dropOperator? [':', ':'] rest
    let (_, rest) ← dropValueSegments inner (grammarFuel rest) rest
    some (false, rest)
  | none =>
    dropValueSegments inner (grammarFuel tokens)
      ((dropOperator? [':', ':'] tokens).getD tokens)

/-- Drops the exclamation mark and the arguments of a macro call after its plain path, and
says whether they stand in braces. -/
def dropMacroArguments? (plain : Bool) (tokens : List Token) : Option (Bool × List Token) :=
  match tokens with
  | .punct '!' _ :: .group delimiter _ :: rest =>
    if plain then some (delimiter = .brace, rest) else none
  | _ => none

/-- Drops the name or the number of a field, and says whether it is a name. -/
def dropMember : List Token → Option (Bool × List Token)
  | .ident name _ :: rest => if isKeyword name then none else some (true, rest)
  | .literal text :: rest => if text.toList.all Char.isDigit then some (false, rest) else none
  | _ => none

/-! ### Patterns -/

def dropAlternatives (tokens : List Token) : Option (List Token) :=
  alternatives (tokens.length + 1) ((dropMark? '|' tokens).getD tokens)
where
  /-- The alternatives from here on. -/
  alternatives : Nat → List Token → Option (List Token)
    | 0, _ => none
    | fuel + 1, tokens => do
      let rest ← inner.pattern tokens
      match dropMark? '|' rest with
      | some more =>
        if startsOperator ['|', '|'] rest || startsOperator ['|', '='] rest then some rest
        else alternatives fuel more
      | none => some rest

/-- Whether a range pattern has no end before these tokens. -/
def endsRangePattern (tokens : List Token) : Bool :=
  tokens.isEmpty || [['|'], ['='], [','], [';']].any (fun mark => startsOperator mark tokens) ||
    (startsMark ':' tokens && !startsOperator [':', ':'] tokens) || startsWord "if" tokens

/-- Drops one end of a range pattern: a literal, a path or a constant block. -/
def dropRangeBound (tokens : List Token) : Option (List Token) :=
  match dropLiteral? tokens, dropWord? "const" tokens with
  | some (_, rest), _ => some rest
  | none, some rest => dropBlock inner rest
  | none, none => (dropValuePath inner tokens).map Prod.snd

/-- Drops the rest of a range pattern after its start, from the dots on. -/
def dropRangeEnd (tokens : List Token) : Option (List Token) :=
  match (dropOperator? ['.', '.', '='] tokens).or (dropOperator? ['.', '.', '.'] tokens) with
  | some rest => dropRangeBound inner rest
  | none => do
    let rest ← dropOperator? ['.', '.'] tokens
    if endsRangePattern rest then some rest else dropRangeBound inner rest

def dropFieldPattern (tokens : List Token) : Option (List Token) := do
  let tokens ← dropAttributes inner tokens
  match dropOperator? ['.', '.'] tokens with
  | some rest => if rest.isEmpty then some [] else none
  | none =>
    let boxed := (dropWord? "box" tokens).getD tokens
    let referenced := (dropWord? "ref" boxed).getD boxed
    let binding := (dropWord? "mut" referenced).getD referenced
    let isBinding := binding.length != tokens.length
    let (isName, rest) ← dropMember binding
    match dropMark? ':' rest with
    | some rest => if isBinding then none else dropAlternatives inner rest
    | none => if isName then some rest else none

/-- Whether a pattern that begins with a path begins here. -/
def startsPathPattern (tokens : List Token) : Bool :=
  let after := tokens.drop 1
  (startsName tokens &&
      (startsOperator [':', ':'] after || startsMark '!' after || startsGroup .brace after ||
        startsGroup .parenthesis after || startsOperator ['.', '.'] after)) ||
    (startsWord "self" tokens && startsOperator [':', ':'] after) ||
    startsOperator [':', ':'] tokens || startsMark '<' tokens || startsWord "Self" tokens ||
    startsWord "super" tokens || startsWord "crate" tokens

/-- Drops a pattern without alternatives. -/
def dropPattern (tokens : List Token) : Option (List Token) :=
  if startsPathPattern tokens then do
    let (plain, rest) ← dropValuePath inner tokens
    match dropMacroArguments? plain rest with
    | some (_, rest) => some rest
    | none =>
      match rest with
      | .group .brace content :: after =>
        if areSeparated (dropFieldPattern inner) content then some after else none
      | .group .parenthesis content :: after =>
        if areSeparated (dropAlternatives inner) content then some after else none
      | _ => if startsOperator ['.', '.'] rest then dropRangeEnd inner rest else some rest
  else
    match tokens with
    | .ident "_" _ :: rest => some rest
    | .ident "box" _ :: rest => inner.pattern rest
    | .punct '&' _ :: rest => inner.pattern ((dropWord? "mut" rest).getD rest)
    | .group .parenthesis content :: rest =>
      if areSeparated (dropAlternatives inner) content then some rest else none
    | .group .bracket content :: rest =>
      if areSeparated (dropAlternatives inner) content then some rest else none
    | .punct '.' _ :: _ => dropRangeEnd inner tokens
    | _ =>
      if (dropLiteral? tokens).isSome || startsWord "const" tokens then do
        let rest ← dropRangeBound inner tokens
        if startsOperator ['.', '.'] rest then dropRangeEnd inner rest else some rest
      else do
        let tokens := (dropWord? "ref" tokens).getD tokens
        let tokens := (dropWord? "mut" tokens).getD tokens
        let rest ←
          match tokens with
          | .ident name _ :: rest => if isKeyword name && name != "self" then none else some rest
          | _ => none
        match dropMark? '@' rest with
        | some rest => inner.pattern rest
        | none => some rest

/-! ### Operands -/

/-- Drops the end of a range from its dots on, and says which kind of range it is. -/
def dropRange (structs : Bool) (dropEnd : List Token → Option (List Token))
    (tokens : List Token) : Option (ExpressionKind × List Token) :=
  match dropOperator? ['.', '.', '='] tokens with
  | some rest => (dropEnd rest).map fun rest => (.closedRange, rest)
  | none => do
    let rest ← dropOperator? ['.', '.'] tokens
    if endsRange structs rest then some (.openRange, rest)
    else (dropEnd rest).map fun rest => (.closedRange, rest)

def dropRightOperand (structs : Bool) (precedence : Nat) (tokens : List Token) :
    Option (List Token) := do
  let (kind, rest) ← inner.operand structs tokens
  climb tokens.length kind rest
where
  /-- Goes on while what follows binds more tightly, or is another assignment. -/
  climb : Nat → ExpressionKind → List Token → Option (List Token)
    | 0, _, tokens => some tokens
    | fuel + 1, kind, tokens =>
      let next := nextPrecedence tokens
      if precedence < next || (next = precedence && precedence = Precedence.assignment) then do
        let (kind, rest) ← inner.continued structs next kind tokens
        if rest.length = tokens.length then some rest else climb fuel kind rest
      else some tokens

/-- Whether the tokens after a cast would be its own field, call or index. -/
def followsCast (tokens : List Token) : Bool :=
  startsMember tokens || startsMark '?' tokens || startsGroup .bracket tokens ||
    startsGroup .parenthesis tokens

/-- Goes on from a left operand while operators bind at least as tightly as `least`.
Comparisons cannot be chained, and a range with an end takes no operator. -/
def continueExpression (structs : Bool) (least : Nat) (kind : ExpressionKind)
    (tokens : List Token) : Option (ExpressionKind × List Token) :=
  if kind = .closedRange then some (kind, tokens)
  else
    match dropBinaryOperator? tokens with
    | some (precedence, rest) =>
      if precedence < least then some (kind, tokens)
      else if precedence = Precedence.assignment && kind = .openRange then some (kind, tokens)
      else if precedence = Precedence.comparison && kind = .comparison then none
      else do
        let rest ← dropRightOperand inner structs precedence rest
        inner.continued structs least
          (if precedence = Precedence.comparison then .comparison else .other) rest
    | none =>
      if least ≤ Precedence.assignment && startsAssignment tokens && kind != .openRange then do
        let rest ← dropRightOperand inner structs Precedence.assignment (tokens.drop 1)
        inner.continued structs least .other rest
      else if least ≤ Precedence.range && startsOperator ['.', '.'] tokens then do
        let (kind, rest) ←
          dropRange structs (dropRightOperand inner structs Precedence.range) tokens
        inner.continued structs least kind rest
      else if startsWord "as" tokens then do
        let rest ← dropType inner false (tokens.drop 1)
        if followsCast rest then none else inner.continued structs least .other rest
      else some (kind, tokens)

/-- Drops calls, members, indexes and question marks after an operand. -/
def dropTrailers : Nat → List Token → Option (List Token)
  | 0, _ => none
  | fuel + 1, tokens =>
    match tokens with
    | .group .parenthesis content :: rest =>
      if areSeparated (dropExpression inner true) content then dropTrailers fuel rest else none
    | .group .bracket content :: rest =>
      if isExpressionWith inner content then dropTrailers fuel rest else none
    | .punct '?' _ :: rest => dropTrailers fuel rest
    | .punct '.' _ :: .ident "await" _ :: rest => dropTrailers fuel rest
    | .punct '.' false :: .literal text :: rest =>
      if text.toList.all fun c => c.isDigit || c == '.' then dropTrailers fuel rest else none
    | _ =>
      if startsMember tokens then do
        let (isName, rest) ← dropMember (tokens.drop 1)
        if isName && startsOperator [':', ':'] rest then do
          let rest ← dropTurbofish inner rest
          if startsGroup .parenthesis rest then dropTrailers fuel rest else none
        else dropTrailers fuel rest
      else some tokens

/-- Drops one field of a structure literal, or `..` and the structure it is filled from. -/
def dropFieldValue (tokens : List Token) : Option (List Token) :=
  match dropOperator? ['.', '.'] tokens with
  | some rest =>
    if rest.isEmpty || isExpressionWith inner rest then some [] else none
  | none => do
    let tokens ← dropAttributes inner tokens
    let (isName, rest) ← dropMember tokens
    match dropMark? ':' rest with
    | some rest => dropExpression inner true rest
    | none => if isName then some rest else none

/-- Drops a path with what makes it a macro call or a structure literal. -/
def dropPathOperand (structs : Bool) (tokens : List Token) :
    Option (ExpressionKind × List Token) := do
  let (plain, rest) ← dropValuePath inner tokens
  match dropMacroArguments? plain rest with
  | some (isBrace, rest) => some (if isBrace then .braceMacro else .other, rest)
  | none =>
    match rest with
    | .group .brace content :: after =>
      if !structs then some (.other, rest)
      else if areSeparated (dropFieldValue inner) content then some (.other, after)
      else none
    | _ => some (.other, rest)

/-- Drops the parameters of a closure through the bar behind them. -/
def dropClosureParameters : Nat → List Token → Option (List Token)
  | 0, _ => none
  | fuel + 1, tokens =>
    match dropMark? '|' tokens with
    | some rest => some rest
    | none => do
      let tokens ← dropAttributes inner tokens
      let rest ← inner.pattern tokens
      let rest ←
        match dropMark? ':' rest with
        | some rest => dropType inner true rest
        | none => some rest
      match dropMark? '|' rest with
      | some rest => some rest
      | none => do
        let rest ← dropMark? ',' rest
        dropClosureParameters fuel rest

def dropClosure (structs : Bool) (tokens : List Token) : Option (List Token) := do
  let tokens ←
    match readBinder (grammarFuel tokens) tokens with
    | .ok (_, rest) => some rest
    | .error _ => none
  let tokens := ["const", "static", "async", "move"].foldl
    (fun tokens qualifier => (dropWord? qualifier tokens).getD tokens) tokens
  let rest ← dropMark? '|' tokens
  let rest ← dropClosureParameters inner (tokens.length + 1) rest
  match dropOperator? ['-', '>'] rest with
  | some rest => do
    let rest ← dropType inner true rest
    dropBlock inner rest
  | none => dropExpression inner structs rest

/-- Whether a closure begins here. -/
def startsClosure (tokens : List Token) : Bool :=
  let after := tokens.drop 1
  startsMark '|' tokens || startsWord "move" tokens || startsWord "static" tokens ||
    (startsWord "for" tokens && startsMark '<' after &&
      (startsLifetime (after.drop 1) || startsMark '>' (after.drop 1))) ||
    (startsWord "const" tokens && !startsGroup .brace after) ||
    (startsWord "async" tokens && (startsMark '|' after || startsWord "move" after))

/-! ### Blocks and control flow -/

/-- Drops a condition, its block and the branches of `else`, after `if`. -/
def dropIf : Nat → List Token → Option (List Token)
  | 0, _ => none
  | fuel + 1, tokens => do
    let rest ← dropExpression inner false tokens
    let rest ← dropBlock inner rest
    match dropWord? "else" rest with
    | none => some rest
    | some rest =>
      match dropWord? "if" rest with
      | some rest => dropIf fuel rest
      | none => dropBlock inner rest

/-- Drops a block in front of which `if`, `match`, a loop, a label or `unsafe` may stand.
`arms` is the test for the arms of a match. -/
def dropBlockLike (areArms : List Token → Bool) : List Token → Option (List Token)
  | .punct '\'' _ :: .ident _ _ :: .punct ':' _ :: rest =>
    match rest with
    | .ident "while" _ :: rest => dropWhileLoop rest
    | .ident "for" _ :: rest => dropForLoop rest
    | .ident "loop" _ :: rest => dropBlock inner rest
    | _ => dropBlock inner rest
  | .ident "if" _ :: rest => dropIf inner (rest.length + 1) rest
  | .ident "while" _ :: rest => dropWhileLoop rest
  | .ident "for" _ :: rest => dropForLoop rest
  | .ident "loop" _ :: rest => dropBlock inner rest
  | .ident "match" _ :: rest => do
    let rest ← dropExpression inner false rest
    match rest with
    | .group .brace content :: rest =>
      if areArms (dropInnerAttributes content) then some rest else none
    | _ => none
  | .ident name _ :: rest =>
    if name = "try" ∨ name = "unsafe" ∨ name = "const" then dropBlock inner rest else none
  | tokens => dropBlock inner tokens
where
  /-- A condition and a block. -/
  dropWhileLoop (tokens : List Token) : Option (List Token) := do
    let rest ← dropExpression inner false tokens
    dropBlock inner rest
  /-- A pattern, `in`, an expression and a block. -/
  dropForLoop (tokens : List Token) : Option (List Token) := do
    let rest ← dropAlternatives inner tokens
    let rest ← dropWord? "in" rest
    let rest ← dropExpression inner false rest
    dropBlock inner rest

/-- Whether a block begins here, or a word that leads one. -/
def startsBlockLike (tokens : List Token) : Bool :=
  let after := tokens.drop 1
  startsGroup .brace tokens || startsLifetime tokens ||
    ["if", "while", "loop", "match", "unsafe"].any (fun name => startsWord name tokens) ||
    (startsWord "for" tokens && !startsClosure tokens) ||
    ((startsWord "try" tokens || startsWord "const" tokens) && startsGroup .brace after)

/-- Drops an expression that ends with its block when it begins with one. -/
def dropEarlyExpression (areArms : List Token → Bool) (tokens : List Token) :
    Option (ExpressionKind × List Token) := do
  let tokens ← dropAttributes inner tokens
  if startsBlockLike tokens then do
    let rest ← dropBlockLike inner areArms tokens
    if startsMember rest || startsMark '?' rest then do
      let rest ← dropTrailers inner (rest.length + 1) rest
      inner.continued true Precedence.lowest .other rest
    else some (.block, rest)
  else do
    let (kind, rest) ← inner.operand true tokens
    inner.continued true Precedence.lowest kind rest

def areArms : Nat → List Token → Bool
  | 0, _ => false
  | fuel + 1, tokens =>
    tokens.isEmpty ||
      let arm := do
        let tokens ← dropAttributes inner tokens
        let rest ← dropAlternatives inner tokens
        let rest ←
          match dropWord? "if" rest with
          | some rest => dropExpression inner true rest
          | none => some rest
        let rest ← dropOperator? ['=', '>'] rest
        let (kind, rest) ← dropEarlyExpression inner (areArms fuel) rest
        match dropMark? ',' rest with
        | some rest => some rest
        | none => if kind = .block || rest.isEmpty then some rest else none
      match arm with
      | some rest => areArms fuel rest
      | none => false

/-- Drops the value after `return`, `yield` or `break`, when one begins here. -/
def dropOptionalExpression (structs : Bool) (tokens : List Token) : Option (List Token) :=
  if startsExpression tokens && (structs || !startsGroup .brace tokens) then
    dropExpression inner structs tokens
  else some tokens

/-- Drops an operand that takes no trailers yet. -/
def dropAtom (structs : Bool) (tokens : List Token) : Option (ExpressionKind × List Token) :=
  if startsBlockLike tokens then
    (dropBlockLike inner (areArms inner (Token.sizeAll tokens)) tokens).map
      fun rest => (.block, rest)
  else
    match tokens with
    | .literal _ :: rest => some (.other, rest)
    | .ident "true" _ :: rest => some (.other, rest)
    | .ident "false" _ :: rest => some (.other, rest)
    | .ident "_" _ :: rest => some (.other, rest)
    | .ident "async" _ :: .group .brace content :: rest =>
      other (dropBlock inner (.group .brace content :: rest))
    | .ident "async" _ :: .ident "move" _ :: .group .brace content :: rest =>
      other (dropBlock inner (.group .brace content :: rest))
    | .group .parenthesis content :: rest =>
      if areSeparated (dropExpression inner true) content then some (.other, rest) else none
    | .group .bracket content :: rest =>
      if areSeparated (dropExpression inner true) content || isRepeated content then
        some (.other, rest)
      else none
    | .ident "continue" _ :: rest =>
      some (.other, ((dropLifetime? rest).map Prod.snd).getD rest)
    | .ident "break" _ :: rest =>
      match dropLifetime? rest with
      | some (_, after) =>
        if startsMark ':' after then none else other (dropOptionalExpression inner structs after)
      | none => other (dropOptionalExpression inner structs rest)
    | .ident "return" _ :: rest => other (dropOptionalExpression inner structs rest)
    | .ident "yield" _ :: rest => other (dropOptionalExpression inner structs rest)
    | .ident "become" _ :: rest => other (dropExpression inner structs rest)
    | .ident "let" _ :: rest => do
      let rest ← dropAlternatives inner rest
      let rest ← dropMark? '=' rest
      let (kind, rest) ← inner.operand structs rest
      let (_, rest) ← inner.continued structs Precedence.comparison kind rest
      some (.other, rest)
    | _ =>
      if startsClosure tokens then other (dropClosure inner structs tokens)
      else if startsOperator ['.', '.'] tokens then
        dropRange structs (dropRightOperand inner structs Precedence.range) tokens
      else if startsWord "try" tokens && !startsMark '!' (tokens.drop 1) &&
          !startsOperator [':', ':'] (tokens.drop 1) then none
      else dropPathOperand inner structs tokens
where
  /-- An expression of no particular kind. -/
  other (rest? : Option (List Token)) : Option (ExpressionKind × List Token) :=
    rest?.map fun rest => (.other, rest)
  /-- An element, a semicolon and a count. -/
  isRepeated (content : List Token) : Bool :=
    match dropExpression inner true content with
    | some (.punct ';' _ :: count) => isExpressionWith inner count
    | _ => false

/-- Drops an operand with the operators in front of it and the trailers behind it. -/
def dropOperand (structs : Bool) (tokens : List Token) :
    Option (ExpressionKind × List Token) := do
  let tokens ← dropAttributes inner tokens
  match tokens with
  | .punct '&' _ :: rest => do
    let rest :=
      match rest with
      | .ident "raw" _ :: .ident "const" _ :: after => after
      | .ident "raw" _ :: .ident "mut" _ :: after => after
      | _ => (dropWord? "mut" rest).getD rest
    let (_, rest) ← inner.operand structs rest
    some (.other, rest)
  | .punct mark _ :: rest =>
    if mark == '*' || mark == '!' || mark == '-' then do
      let (_, rest) ← inner.operand structs rest
      some (.other, rest)
    else withTrailers tokens
  | _ => withTrailers tokens
where
  /-- An operand that no operator stands before. -/
  withTrailers (tokens : List Token) : Option (ExpressionKind × List Token) := do
    let (kind, rest) ← dropAtom inner structs tokens
    if kind = .openRange || kind = .closedRange then some (kind, rest)
    else do
      let after ← dropTrailers inner (rest.length + 1) rest
      some (if after.length = rest.length then kind else .other, after)

/-! ### Statements -/

/-- Whether the last of the tokens in front of `rest` is a group in braces. -/
def endsWithBrace (tokens rest : List Token) : Bool :=
  match (tokens.take (tokens.length - rest.length)).getLast? with
  | some (.group .brace _) => true
  | _ => false

/-- Drops a `let` statement after its first word. -/
def dropLocal (tokens : List Token) : Option (List Token) := do
  let rest ← inner.pattern tokens
  let rest ←
    match dropMark? ':' rest with
    | some rest => dropType inner true rest
    | none => some rest
  let rest ←
    match dropMark? '=' rest with
    | none => some rest
    | some value => do
      let rest ← dropExpression inner true value
      match dropWord? "else" rest with
      | some block => if endsWithBrace value rest then none else dropBlock inner block
      | none => some rest
  dropMark? ';' rest

/-- Whether a statement that is an item begins here. -/
def startsItem (tokens : List Token) : Bool :=
  let after := tokens.drop 1
  let afterThat := tokens.drop 2
  ["pub", "extern", "use", "fn", "mod", "type", "struct", "enum", "trait", "impl", "macro"].any
      (fun name => startsWord name tokens) ||
    (startsWord "static" tokens &&
      (startsWord "mut" after ||
        (startsName after && !(startsWord "async" after &&
          (startsWord "move" afterThat || startsMark '|' afterThat))))) ||
    (startsWord "const" tokens &&
      !(startsGroup .brace after || startsWord "static" after || startsWord "move" after ||
        startsMark '|' after ||
        (startsWord "async" after &&
          ["unsafe", "extern", "fn"].all fun name => !startsWord name afterThat))) ||
    (startsWord "unsafe" tokens && !startsGroup .brace after) ||
    (startsWord "async" tokens &&
      ["unsafe", "extern", "fn"].any fun name => startsWord name after) ||
    (startsWord "union" tokens && startsName after) ||
    (startsWord "auto" tokens && startsWord "trait" after) ||
    (startsWord "default" tokens && (startsWord "unsafe" after || startsWord "impl" after))

/-- What a macro call at the head of a statement makes of it: an item when a name follows
the exclamation mark, and a statement of its own when braces do that no trailer follows. -/
def macroStatement? (tokens : List Token) : Option (Option (List Token)) :=
  match readPlainPath ((dropOperator? [':', ':'] tokens).getD tokens) with
  | .ok (_, .punct '!' _ :: .ident name _ :: _) =>
    if isKeyword name && name != "try" then none else some none
  | .ok (_, .punct '!' _ :: .group .brace _ :: rest) =>
    if startsMember rest || startsMark '?' rest then none
    else some (some ((dropMark? ';' rest).getD rest))
  | _ => none

/-- Drops a statement, and says whether another may follow it. -/
def dropStatement (tokens : List Token) : Option (Bool × List Token) := do
  let marked := tokens
  let tokens ← dropAttributes inner tokens
  match macroStatement? tokens with
  | some (some rest) => some (true, rest)
  | some none => (inner.item marked).map fun rest => (true, rest)
  | none =>
    match dropWord? "let" tokens with
    | some rest => (dropLocal inner rest).map fun rest => (true, rest)
    | none =>
      if startsItem tokens then (inner.item marked).map fun rest => (true, rest)
      else do
        let (kind, rest) ←
          dropEarlyExpression inner (areArms inner (Token.sizeAll tokens)) tokens
        match dropMark? ';' rest with
        | some rest => some (true, rest)
        | none => some (kind = .block || kind = .braceMacro, rest)

def areStatementsWith (tokens : List Token) : Bool :=
  statements (tokens.length + 1) tokens
where
  /-- The statements from here on. -/
  statements : Nat → List Token → Bool
    | 0, _ => false
    | fuel + 1, tokens =>
      let tokens := tokens.dropWhile fun token => startsMark ';' [token]
      tokens.isEmpty ||
        match dropStatement inner tokens with
        | some (isComplete, rest) => rest.isEmpty || (isComplete && statements fuel rest)
        | none => false

end Parts

/-! ### The readers together -/

/-- The readers with fuel.  `item` drops an item that stands among statements. -/
def expressionReaders (item : List Token → Option (List Token)) : Nat → ExpressionReaders
  | 0 => ⟨fun _ _ => none, fun _ _ _ _ => none, fun _ => none, fun _ => false, fun _ => none⟩
  | fuel + 1 =>
    let inner := expressionReaders item fuel
    ⟨dropOperand inner, continueExpression inner, dropPattern inner, areStatementsWith inner, item⟩

/-- Whether the tokens are statements, when `item` drops the items among them. -/
def areStatements (item : List Token → Option (List Token)) (tokens : List Token) : Bool :=
  areStatementsWith (expressionReaders item (grammarFuel tokens)) tokens

/-- Whether the tokens are one expression, when `item` drops the items in its blocks. -/
def isExpression (item : List Token → Option (List Token)) (tokens : List Token) : Bool :=
  isExpressionWith (expressionReaders item (grammarFuel tokens)) tokens

/-- The readers for places where a block holds no items. -/
def plainReaders (tokens : List Token) : ExpressionReaders :=
  expressionReaders (fun _ => none) (grammarFuel tokens)

/-- Whether the tokens are one pattern without alternatives. -/
def isPattern (tokens : List Token) : Bool :=
  ((dropPattern (plainReaders tokens) tokens).map List.isEmpty).getD false

/-! ### Types with their constants -/

/-- Keeps what was read when the constants among its tokens fit. -/
def checkConstants {α : Type} (tokens : α → List Token) (read : Except Fault (α × List Token)) :
    Except Fault (α × List Token) := do
  let (value, rest) ← read
  let written := tokens value
  if constantsFit (plainReaders written) (grammarFuel written) written then .ok (value, rest)
  else .error .unexpected

/-- Reads a type whose constants are expressions. -/
def readFullType (tokens : List Token) : Except Fault (TypeExpr × List Token) :=
  checkConstants TypeExpr.tokens (readType tokens)

/-- Reads a path whose constants are expressions. -/
def readFullPath (tokens : List Token) : Except Fault (Path × List Token) :=
  checkConstants Path.tokens (readPath tokens)

/-- Reads bounds whose constants are expressions. -/
def readFullBounds (tokens : List Token) : Except Fault (List Token × List Token) :=
  checkConstants id (readBoundList tokens)

/-- The type that a text is, when it is one. -/
def typeOfText? (text : String) : Option TypeExpr :=
  match readTokens text.toList with
  | some tokens => (finish (readFullType tokens)).toOption
  | none => none

end MarkedRoutes.Source
