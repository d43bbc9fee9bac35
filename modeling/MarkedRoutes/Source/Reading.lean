import MarkedRoutes.Source.Keyword

/-!
# Readers of token sequences

A reader takes something from the head of a token sequence and returns it with
the tokens that follow, or says why it cannot.  The only distinction that any
message needs is whether the tokens ended or an unexpected one came.
-/

namespace MarkedRoutes.Source

/-- Why a reader stopped. -/
inductive Fault where
  | atEnd
  | unexpected
  deriving DecidableEq, Repr

/-- The fault of a token sequence that does not begin as expected. -/
def faultAt (tokens : List Token) : Fault := if tokens.isEmpty then .atEnd else .unexpected

/-- Drops a punctuation character from the head of the tokens, joined or not. -/
def dropMark? (mark : Char) : List Token → Option (List Token)
  | .punct found _ :: rest => if found = mark then some rest else none
  | _ => none

/-- Drops an operator from the head of the tokens: every character but the last is joined. -/
def dropOperator? : List Char → List Token → Option (List Token)
  | [], tokens => some tokens
  | [last], tokens => dropMark? last tokens
  | first :: second :: more, .punct found true :: rest =>
    if found = first then dropOperator? (second :: more) rest else none
  | _, _ => none

/-- Drops a given word from the head of the tokens. -/
def dropWord? (expected : String) : List Token → Option (List Token)
  | .ident name _ :: rest => if name = expected then some rest else none
  | _ => none

/-- Whether the tokens begin with a punctuation character. -/
def startsMark (mark : Char) (tokens : List Token) : Bool := (dropMark? mark tokens).isSome

def startsOperator (operator : List Char) (tokens : List Token) : Bool :=
  (dropOperator? operator tokens).isSome

def startsWord (name : String) (tokens : List Token) : Bool := (dropWord? name tokens).isSome

/-- Whether the tokens begin with a group between these brackets. -/
def startsGroup (delimiter : Delimiter) : List Token → Bool
  | .group found _ :: _ => found = delimiter
  | _ => false

def startsName : List Token → Bool
  | .ident name _ :: _ => !isKeyword name
  | _ => false

/-- Whether the tokens begin with a word of any kind. -/
def startsAnyWord : List Token → Bool
  | .ident _ _ :: _ => true
  | _ => false

def readMark (mark : Char) (tokens : List Token) : Except Fault (List Token) :=
  match dropMark? mark tokens with
  | some rest => .ok rest
  | none => .error (faultAt tokens)

def readOperator (operator : List Char) (tokens : List Token) : Except Fault (List Token) :=
  match dropOperator? operator tokens with
  | some rest => .ok rest
  | none => .error (faultAt tokens)

def readWord (name : String) (tokens : List Token) : Except Fault (List Token) :=
  match dropWord? name tokens with
  | some rest => .ok rest
  | none => .error (faultAt tokens)

/-- Reads an identifier that is no keyword, with its line. -/
def readName : List Token → Except Fault ((String × Nat) × List Token)
  | .ident name line :: rest =>
    if isKeyword name then .error .unexpected else .ok ((name, line), rest)
  | tokens => .error (faultAt tokens)

def readGroup (delimiter : Delimiter) : List Token → Except Fault (List Token × List Token)
  | .group found content :: rest =>
    if found = delimiter then .ok (content, rest) else .error .unexpected
  | tokens => .error (faultAt tokens)

/-- Requires that nothing is left. -/
def finish {α : Type} (read : Except Fault (α × List Token)) : Except Fault α :=
  match read with
  | .ok (value, []) => .ok value
  | .ok (_, _ :: _) => .error .unexpected
  | .error fault => .error fault

def dropLifetime? : List Token → Option (String × List Token)
  | .punct '\'' true :: .ident name _ :: rest => some (name, rest)
  | _ => none

def startsLifetime (tokens : List Token) : Bool := (dropLifetime? tokens).isSome

def isNumberText (text : String) : Bool :=
  match text.toList with
  | c :: _ => c.isDigit
  | [] => false

/-- The literal at the head of the tokens: a literal token, a negated number, or a truth
value. -/
def dropLiteral? : List Token → Option (List Token × List Token)
  | .literal text :: rest => some ([.literal text], rest)
  | .punct '-' joined :: .literal text :: rest =>
    if isNumberText text then some ([.punct '-' joined, .literal text], rest) else none
  | .ident name line :: rest =>
    if name = "true" ∨ name = "false" then some ([.ident name line], rest) else none
  | _ => none

/-- Whether the tokens begin with `::` and the tokens after it pass a test. -/
def startsRooted (test : List Token → Bool) (tokens : List Token) : Bool :=
  match dropOperator? [':', ':'] tokens with
  | some rest => test rest
  | none => false

end MarkedRoutes.Source
