/-!
# Patterns

A pattern is a regular expression of the kind that route templates are written
as: single characters, greedy repetition, greedy optional parts, groups that
capture what they match, and the two ends of the text.  Matching prefers to
repeat and to take an optional part, comes back to the other choice only when the
rest cannot be matched, and gives the first match that it finds.
-/

namespace MarkedRoutes.Serving

/-- A set of characters: a single one, or all others. -/
inductive CharSet where
  | only (c : Char)
  | except (c : Char)
  deriving DecidableEq, Repr

def CharSet.contains : CharSet → Char → Bool
  | only expected, c => c == expected
  | except excluded, c => c != excluded

/-- A pattern.  `many` repeats a set at least once, and `capture` is the group of a number. -/
inductive Pattern where
  | nothing
  | textStart
  | textEnd
  | one (set : CharSet)
  | many (set : CharSet)
  | optional (inner : Pattern)
  | capture (group : Nat) (inner : Pattern)
  | seq (first second : Pattern)
  deriving DecidableEq, Repr

/-- What the groups of a pattern captured, the latest first. -/
abbrev Captures := List (Nat × List Char)

/-- How far a match has come: whether it is still at the start of the text, what is left of
the text, and what was captured. -/
structure Progress where
  isStart : Bool
  rest : List Char
  captures : Captures
  deriving DecidableEq, Repr

/-- The text between two points of a match, kept for a group. -/
def Progress.keep (here : Progress) (group : Nat) (there : Progress) : Progress :=
  let text := here.rest.take (here.rest.length - there.rest.length)
  { there with captures := (group, text) :: there.captures }

namespace Pattern

variable {β : Type}

/-- Takes one character of a set or more, as many as the continuation `next` allows. -/
def runMany (set : CharSet) (next : Progress → Option β) (captures : Captures) :
    List Char → Option β
  | [] => none
  | c :: rest =>
    if set.contains c then (runMany set next captures rest).or (next ⟨false, rest, captures⟩)
    else none

/-- Matches a pattern at a point and goes on with `next`; when that fails, the next choice
of the pattern is tried. -/
def run : Pattern → (Progress → Option β) → Progress → Option β
  | nothing, next, here => next here
  | textStart, next, here => if here.isStart then next here else none
  | textEnd, next, here => if here.rest.isEmpty then next here else none
  | one set, next, here =>
    match here.rest with
    | [] => none
    | c :: rest => if set.contains c then next ⟨false, rest, here.captures⟩ else none
  | many set, next, here => runMany set next here.captures here.rest
  | optional inner, next, here => (inner.run next here).or (next here)
  | capture group inner, next, here => inner.run (fun there => next (here.keep group there)) here
  | seq first second, next, here => first.run (second.run next) here

/-- What is captured when a pattern matches at a point. -/
def capturesAt? (pattern : Pattern) (isStart : Bool) (text : List Char) : Option Captures :=
  pattern.run (fun there => some there.captures) ⟨isStart, text, []⟩

/-- What is captured by the leftmost match at a point or after it. -/
def search (pattern : Pattern) (isStart : Bool) : List Char → Option Captures
  | [] => pattern.capturesAt? isStart []
  | c :: rest => (pattern.capturesAt? isStart (c :: rest)).or (pattern.search false rest)

/-- What is captured by the leftmost match in a text. -/
def captures? (pattern : Pattern) (text : List Char) : Option Captures :=
  pattern.search true text

/-- The patterns of a list one after the other. -/
def sequence : List Pattern → Pattern
  | [] => nothing
  | first :: rest => seq first (sequence rest)

end Pattern

end MarkedRoutes.Serving
