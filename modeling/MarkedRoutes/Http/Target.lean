/-!
# Request targets

The target of a request is a path with an optional query, a star, an authority
alone, or an absolute address.  What is kept of it is the path with the query;
a fragment is dropped.  A path and a query each admit a range of characters, and
an authority admits colons, brackets and percent signs only where a host and
user information allow them.
-/

namespace MarkedRoutes.Http

/-- The most bytes that a target may have. -/
def maxTargetBytes : Nat := 65534

/-- Whether a character lies between two others. -/
def isBetween (low high c : Char) : Bool := low ≤ c && c ≤ high

/-- Whether a character may stand in a path. -/
def isPathChar (c : Char) : Bool :=
  c == '!' || c == '"' || isBetween '$' ';' c || c == '=' || isBetween '@' '_' c ||
    isBetween 'a' '~' c || '\x7f' ≤ c

/-- Whether a character may stand in a query. -/
def isQueryChar (c : Char) : Bool :=
  c == '!' || isBetween '$' ';' c || c == '=' || isBetween '?' '~' c || '\x7f' ≤ c

/-- The path and query of a text up to a fragment, when all characters are admitted.
`inQuery` says that a question mark was passed. -/
def pathAndQuery? (inQuery : Bool) : List Char → Option (List Char)
  | [] => some []
  | c :: rest =>
    if c = '#' then some []
    else if c = '?' then (pathAndQuery? true rest).map (c :: ·)
    else if (if inQuery then isQueryChar c else isPathChar c) then
      (pathAndQuery? inQuery rest).map (c :: ·)
    else none

def endsAuthority (c : Char) : Bool := c == '/' || c == '?' || c == '#'

/-- The signs that may stand anywhere in an authority. -/
def authoritySigns : List Char := "!$&'()*+,-.;=_~".toList

/-- What was read of an authority: colons, brackets and percent signs since the last `@` or
closing bracket, and whether the last character was an `@`. -/
structure AuthorityScan where
  colons : Nat
  opened : Bool
  closed : Bool
  hasPercent : Bool
  afterAt : Bool
  deriving DecidableEq, Repr

namespace AuthorityScan

/-- Nothing was read. -/
def start : AuthorityScan := ⟨0, false, false, false, false⟩

def step (scan : AuthorityScan) (c : Char) : Option AuthorityScan :=
  if c = ':' then
    if scan.colons < 8 then some { scan with colons := scan.colons + 1, afterAt := false }
    else none
  else if c = '[' then
    if scan.hasPercent || scan.opened then none
    else some { scan with opened := true, afterAt := false }
  else if c = ']' then
    if !scan.opened || scan.closed then none
    else some ⟨0, true, true, false, false⟩
  else if c = '@' then some { scan with colons := 0, hasPercent := false, afterAt := true }
  else if c = '%' then some { scan with hasPercent := true, afterAt := false }
  else if c.isAlphanum || authoritySigns.contains c then some { scan with afterAt := false }
  else none

/-- Whether an authority may end here. -/
def isComplete (scan : AuthorityScan) : Bool :=
  scan.opened == scan.closed && scan.colons ≤ 1 && !scan.afterAt && !scan.hasPercent

end AuthorityScan

def isAuthority (text : List Char) : Bool :=
  (text.foldlM AuthorityScan.step AuthorityScan.start).any AuthorityScan.isComplete

/-- Whether a character may stand in a scheme. -/
def isSchemeChar (c : Char) : Bool :=
  c.isAlphanum || c == '+' || c == '-' || c == '.' || c == '~'

/-- The most characters of a scheme. -/
def maxSchemeLength : Nat := 64

/-- The scheme before `://`, and what follows. -/
def splitScheme? (text : List Char) : Option (List Char × List Char) :=
  match text.span isSchemeChar with
  | (scheme, ':' :: '/' :: '/' :: rest) => some (scheme, rest)
  | _ => none

/-- The path and query of an address behind its scheme. -/
def addressTarget? (text : List Char) : Option (List Char) :=
  let (authority, rest) := text.span fun c => !endsAuthority c
  if authority.isEmpty || !isAuthority authority then none
  else (pathAndQuery? false rest).map fun target => if target.isEmpty then ['/'] else target

/-- The path and query of a target's characters. -/
def targetOf? (text : List Char) : Option (List Char) :=
  match text with
  | [] => none
  | ['*'] => some ['*']
  | '/' :: _ => pathAndQuery? false text
  | _ =>
    match splitScheme? text with
    | some (scheme, rest) =>
      if scheme.length ≤ maxSchemeLength then addressTarget? rest else none
    | none => if isAuthority text then some [] else none

/-- The path and query of a request target. -/
def requestTarget? (text : String) : Option String :=
  if text.utf8ByteSize ≤ maxTargetBytes then (targetOf? text.toList).map String.ofList else none

end MarkedRoutes.Http
