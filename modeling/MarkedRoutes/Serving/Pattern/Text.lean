import MarkedRoutes.Serving.Pattern

/-!
# Patterns as texts

How a pattern is read from its text.  Characters with a meaning of their own are
written behind a backslash; a text that uses more than the patterns know is
refused, and so is a mark of repetition that has nothing to repeat.
-/

namespace MarkedRoutes.Serving

/-- The characters that have a meaning in the text of a pattern. -/
def patternSigns : List Char :=
  ['\\', '.', '+', '*', '?', '(', ')', '|', '[', ']', '\x7b', '\x7d', '^', '$', '#', '&', '-',
    '~']

/-- A text as the pattern that matches it and nothing else is written. -/
def escapePattern (text : List Char) : List Char :=
  text.flatMap fun c => if patternSigns.contains c then ['\\', c] else [c]

/-- One sign of the text of a pattern. -/
inductive PatternToken where
  | textStart
  | textEnd
  | set (set : CharSet)
  | openGroup
  | openCapture
  | close
  | optional
  | repeated
  deriving DecidableEq, Repr

def patternTokens? : List Char → Option (List PatternToken)
  | [] => some []
  | '^' :: rest => (patternTokens? rest).map (.textStart :: ·)
  | '$' :: rest => (patternTokens? rest).map (.textEnd :: ·)
  | '(' :: '?' :: ':' :: rest => (patternTokens? rest).map (.openGroup :: ·)
  | '(' :: rest => (patternTokens? rest).map (.openCapture :: ·)
  | ')' :: rest => (patternTokens? rest).map (.close :: ·)
  | '?' :: rest => (patternTokens? rest).map (.optional :: ·)
  | '+' :: rest => (patternTokens? rest).map (.repeated :: ·)
  | '[' :: '^' :: c :: ']' :: rest =>
    if patternSigns.contains c then none
    else (patternTokens? rest).map (.set (.except c) :: ·)
  | '\\' :: c :: rest =>
    if patternSigns.contains c then (patternTokens? rest).map (.set (.only c) :: ·) else none
  | c :: rest =>
    if patternSigns.contains c then none
    else (patternTokens? rest).map (.set (.only c) :: ·)

/-- A pattern that is being read: how many capturing groups were opened, the items of the
innermost open group, and for each open group its number, if it captures, with the items
before it.  Items stand last first. -/
structure PatternReader where
  groups : Nat
  items : List Pattern
  outer : List (Option Nat × List Pattern)
  deriving DecidableEq, Repr

namespace PatternReader

/-- Before anything is read. -/
def start : PatternReader := ⟨0, [], []⟩

def push (reader : PatternReader) (item : Pattern) : PatternReader :=
  { reader with items := item :: reader.items }

def groupPattern (number : Option Nat) (items : List Pattern) : Pattern :=
  match number with
  | some number => .capture number (.sequence items.reverse)
  | none => .sequence items.reverse

/-- Makes the last item optional. -/
def makeOptional (reader : PatternReader) : Option PatternReader :=
  match reader.items with
  | [] => none
  | .textStart :: _ => none
  | .textEnd :: _ => none
  | .many _ :: _ => none
  | .optional _ :: _ => none
  | item :: before => some { reader with items := .optional item :: before }

/-- Repeats the last item, which has to be a single character. -/
def makeRepeated (reader : PatternReader) : Option PatternReader :=
  match reader.items with
  | .one set :: before => some { reader with items := .many set :: before }
  | _ => none

def step (reader : PatternReader) : PatternToken → Option PatternReader
  | .textStart => some (reader.push .textStart)
  | .textEnd => some (reader.push .textEnd)
  | .set set => some (reader.push (.one set))
  | .openGroup => some ⟨reader.groups, [], (none, reader.items) :: reader.outer⟩
  | .openCapture =>
    let number := reader.groups + 1
    some ⟨number, [], (some number, reader.items) :: reader.outer⟩
  | .close =>
    match reader.outer with
    | [] => none
    | (number, before) :: outer =>
      some ⟨reader.groups, groupPattern number reader.items :: before, outer⟩
  | .optional => reader.makeOptional
  | .repeated => reader.makeRepeated

/-- The pattern that was read, when no group is open. -/
def finish (reader : PatternReader) : Option Pattern :=
  if reader.outer.isEmpty then some (.sequence reader.items.reverse) else none

end PatternReader

def Pattern.ofText? (text : List Char) : Option Pattern := do
  let tokens ← patternTokens? text
  let reader ← tokens.foldlM PatternReader.step .start
  reader.finish

end MarkedRoutes.Serving
