import MarkedRoutes.Proofs.Bookshelf.DateTexts
import MarkedRoutes.Proofs.Bookshelf.Runs
import MarkedRoutes.Proofs.Text.PercentEncoding

/-!
# Adding to the provided answer

Two routes add a number from the path to the provided answer, one with the answer as its
handler's first argument and one with the answer as its last.  Both do the same for every segment
of the path.  They tell the sum as long as it is a number of 32 bits, and panic when it is greater.
-/

namespace MarkedRoutes.Bookshelf

open MarkedRoutes.Http
open MarkedRoutes.Serving
open MarkedRoutes.Text

/-! ### Sums -/

section

variable {first second : Integer .i32}

theorem map_value_checkedSum? (hleast : IntegerType.i32.least ≤ first.value + second.value)
    (hgreatest : first.value + second.value ≤ IntegerType.i32.greatest) :
    (checkedSum? first second).map Integer.value = some (first.value + second.value) := by
  rw [checkedSum?, Integer.ofInt?, dif_pos ⟨hleast, hgreatest⟩]
  rfl

theorem checkedSum?_eq_none (hgreatest : IntegerType.i32.greatest < first.value + second.value) :
    checkedSum? first second = none := by
  rw [checkedSum?, Integer.ofInt?, dif_neg fun hrange => Int.not_le.mpr hgreatest hrange.2]

end

/-! ### Numbers in segments -/

/-- A segment of a path is the percent-encoded text of a number of 32 bits. -/
def WritesInteger (segment : List Char) (number : Integer .i32) : Prop :=
  ∃ text, bytesOf text = percentDecode (utf8 segment) ∧ Integer.ofText? .i32 text = some number

/-- Texts of integers hold digits and signs only. -/
theorem notMem_of_intOfText? {text : List Char} {value : ℤ}
    (hvalue : Decimal.intOfText? text = some value) {c : Char} (hdigit : c.isDigit = false)
    (hminus : c ≠ '-') (hplus : c ≠ '+') : c ∉ text := by
  have hdigits : ∀ {digits : List Char} {number : ℕ}, Decimal.natOfDigits? digits = some number →
      c ∉ digits := fun hnumber => (natOfDigits?_eq_some_iff.mp hnumber).2.notMem hdigit
  rw [Decimal.intOfText?.eq_def] at hvalue
  split at hvalue
  · obtain ⟨_, hsigned, -⟩ := Option.map_eq_some_iff.mp hvalue
    obtain ⟨_, hnumber, -⟩ := Option.bind_eq_some_iff.mp hsigned
    exact List.not_mem_cons_of_ne_of_not_mem hminus (hdigits hnumber)
  · obtain ⟨_, hnumber, -⟩ := Option.map_eq_some_iff.mp hvalue
    exact List.not_mem_cons_of_ne_of_not_mem hplus (hdigits hnumber)
  · obtain ⟨_, hnumber, -⟩ := Option.map_eq_some_iff.mp hvalue
    exact hdigits hnumber

theorem writesInteger_iff {segment : List Char} {number : Integer .i32} :
    WritesInteger segment number ↔ Integer.ofText? .i32 (decodePiece segment) = some number := by
  constructor
  · rintro ⟨text, htext, hnumber⟩
    have hstands : StandsFor segment text := Or.inl htext
    rwa [← hstands.eq_decodePiece]
  · intro hnumber
    rcases standsFor_decodePiece segment with htext | ⟨hnone, htext⟩
    · exact ⟨_, htext, hnumber⟩
    · rw [htext] at hnumber
      obtain ⟨value, hvalue, -⟩ := Option.bind_eq_some_iff.mp hnumber
      have hpercent : '%' ∉ (String.ofList segment).toList :=
        notMem_of_intOfText? hvalue rfl (by decide) (by decide)
      rw [String.toList_ofList] at hpercent
      refine absurd ?_ (hnone (String.ofList segment))
      rw [bytesOf, String.toList_ofList, percentDecode_utf8 hpercent]

/-! ### The two routes -/

/-- The pieces of the path of a route that adds to the answer. -/
def answerPath (position : String) (segment : List Char) : List (List Char) :=
  ["test".toList, position.toList, segment]

/-- What a route makes of the text of a number, unless it panics. -/
def sumOutcome? (text : String) : Option (Except DispatchFault Response) :=
  match Integer.ofText? .i32 text with
  | some number =>
    (checkedSum? Answer.standard.number number).map fun sum => nice (Integer.text sum)
  | none => some (.error (.parameter "inc" .path))

section

variable {segment : List Char} {request : Request}

theorem answerFirst_mem : (reading, "/test/provider-first/\x7binc\x7d", answerFirst) ∈ routes := by
  simp [routes]

theorem answerLast_mem : (reading, "/test/provider-last/\x7binc\x7d", answerLast) ∈ routes := by
  simp [routes]

theorem run_answerThenIncrement (answer : Answer) (number : Integer .i32) (store : Store) :
    (answerThenIncrement answer number).run.run.run store =
      ((checkedSum? answer.number number).map fun sum => nice (Integer.text sum), store) := by
  rw [answerThenIncrement]
  cases checkedSum? answer.number number <;> rfl

theorem run_answerFirst {text : String} (htext : sourceText? request .path "inc" = some text)
    (store : Store) : (answerFirst request).run.run.run store = (sumOutcome? text, store) := by
  have hprovided : provide registries (.host .answer) request = .ok Answer.standard := rfl
  rw [answerFirst, hprovided, parameter_integer htext, sumOutcome?]
  cases Integer.ofText? .i32 text with
  | none => rfl
  | some number => exact run_answerThenIncrement Answer.standard number store

theorem run_answerLast {text : String} (htext : sourceText? request .path "inc" = some text)
    (store : Store) : (answerLast request).run.run.run store = (sumOutcome? text, store) := by
  have hprovided : provide registries (.host .answer) request = .ok Answer.standard := rfl
  rw [answerLast, hprovided, parameter_integer htext, sumOutcome?]
  cases Integer.ofText? .i32 text with
  | none => rfl
  | some number => exact run_answerThenIncrement Answer.standard number store

/-- The status and the body that answer a request, unless its route panics, and the store that is
left. -/
def answered [PatternEngine] (request : Request) (store : Store) : Option (Status × Json) × Store :=
  let outcome := (router.dispatch request).run.run store
  (outcome.1.map fun answer => (answer.1.status, answer.1.body), outcome.2)

/-- The status and the body of what a route makes of the text of a number, unless it panics. -/
def sumAnswer? (text : String) : Option (Status × Json) :=
  (sumOutcome? text).map fun outcome => ((responseOf outcome).status, (responseOf outcome).body)

/-- A request is answered by what the route under its path makes of the segment, and the store
stays as it is. -/
theorem answered_sum [PatternEngine] (haccepts : AcceptsRoutes) {position template : String}
    {endpoint : Endpoint Shelving} (hroute : (reading, template, endpoint) ∈ routes)
    (hparts : templateParts template =
      [.literal "test", .literal position, .placeholder "inc" false])
    (hrun : ∀ {request : Request} {text : String}, sourceText? request .path "inc" = some text →
      ∀ store, (endpoint request).run.run.run store = (sumOutcome? text, store))
    (hmethod : request.method = reading)
    (hpath : HasPieces request.path (answerPath position segment)) (store : Store) :
    answered request store = (sumAnswer? (decodePiece segment), store) := by
  have hsegment := hpath.isPiece segment (by simp [answerPath])
  have hfound : router.find? request.method request.path =
      some ⟨template, [("inc", decodePiece segment)], endpoint⟩ := by
    rw [hmethod]
    exact @find?_of_route _ _ _ _ haccepts _ _
      [some "test".toList, some position.toList, some segment] hroute hparts
      (List.cons_ne_nil _ _) (Nat.zero_le _) (.cons rfl (.cons rfl (.cons hsegment .nil))) hpath
  have hruns := @hrun (request.withPathParameters [("inc", decodePiece segment)]) _ rfl store
  rw [answered, sumAnswer?]
  cases houtcome : sumOutcome? (decodePiece segment) with
  | none =>
      rw [houtcome] at hruns
      rw [run_dispatch_eq_none hfound hruns]
      rfl
  | some outcome =>
      rw [houtcome] at hruns
      obtain ⟨answer, events, hdispatch, hstamped⟩ := exists_run_dispatch_eq hfound hruns
      rw [hdispatch, Option.map_some, Option.map_some, ← hstamped.status_eq, ← hstamped.body_eq]

theorem answered_first [PatternEngine] (haccepts : AcceptsRoutes)
    (hmethod : request.method = reading)
    (hpath : HasPieces request.path (answerPath "provider-first" segment)) (store : Store) :
    answered request store = (sumAnswer? (decodePiece segment), store) :=
  answered_sum haccepts answerFirst_mem (by decide) run_answerFirst hmethod hpath store

theorem answered_last [PatternEngine] (haccepts : AcceptsRoutes)
    (hmethod : request.method = reading)
    (hpath : HasPieces request.path (answerPath "provider-last" segment)) (store : Store) :
    answered request store = (sumAnswer? (decodePiece segment), store) :=
  answered_sum haccepts answerLast_mem (by decide) run_answerLast hmethod hpath store

end

/-! ### What is told -/

/-- An answer tells the sum of 42 and the number that a segment writes, or refuses a segment that
writes none.  There is no answer when the sum is beyond the greatest number of 32 bits, because
the route panics. -/
structure TellsSum (segment : List Char) (answer : Option (Status × Json)) : Prop where
  exact : ∀ {number : Integer .i32}, WritesInteger segment number →
    42 + number.value ≤ IntegerType.i32.greatest →
      answer = some (.ok, .string ("nice " ++ toString (42 + number.value)))
  panics : ∀ {number : Integer .i32}, WritesInteger segment number →
    IntegerType.i32.greatest < 42 + number.value → answer = none
  refused : (∀ number, ¬ WritesInteger segment number) →
    ∃ body, answer = some (.badRequest, body)

theorem sumAnswer?_of_writesInteger {segment : List Char} {number : Integer .i32}
    (hwrites : WritesInteger segment number) :
    sumAnswer? (decodePiece segment) =
      ((checkedSum? Answer.standard.number number).map Integer.value).map fun sum =>
        (.ok, .string ("nice " ++ toString sum)) := by
  rw [sumAnswer?, sumOutcome?, writesInteger_iff.mp hwrites, Option.map_map, Option.map_map]
  rfl

theorem tellsSum_sumAnswer? (segment : List Char) :
    TellsSum segment (sumAnswer? (decodePiece segment)) where
  exact {number} hwrites hsum := by
    have hleast : IntegerType.i32.least ≤ 42 + number.value :=
      Int.le_trans number.least (Int.le_add_of_nonneg_left (by decide))
    rw [sumAnswer?_of_writesInteger hwrites, map_value_checkedSum? hleast hsum]
    rfl
  panics {number} hwrites hsum := by
    rw [sumAnswer?_of_writesInteger hwrites, checkedSum?_eq_none hsum]
    rfl
  refused hnone := by
    cases hnumber : Integer.ofText? .i32 (decodePiece segment) with
    | some number => exact absurd (writesInteger_iff.mpr hnumber) (hnone number)
    | none =>
        rw [sumAnswer?, sumOutcome?, hnumber]
        exact ⟨_, rfl⟩

/-- Wherever the handler takes the provided answer, a segment gets the same status and the same
body, which tell the sum, or both routes panic; no book changes. -/
theorem sum_in_any_position [PatternEngine] (haccepts : AcceptsRoutes) {segment : List Char}
    {first last : Request} (hfirst : first.method = reading)
    (hfirstPath : HasPieces first.path (answerPath "provider-first" segment))
    (hlast : last.method = reading)
    (hlastPath : HasPieces last.path (answerPath "provider-last" segment))
    (store other : Store) :
    (answered first store).1 = (answered last other).1 ∧
      TellsSum segment (answered first store).1 ∧
      (answered first store).2 = store ∧ (answered last other).2 = other := by
  rw [answered_first haccepts hfirst hfirstPath store, answered_last haccepts hlast hlastPath other]
  exact ⟨rfl, tellsSum_sumAnswer? segment, rfl, rfl⟩

/-- A request for the sum with six, whose digit is percent-encoded. -/
def requestFirstSix : Request := .ofTarget (.ofNat 1) reading "/test/provider-first/%36"

/-- The same request to the other route. -/
def requestLastSix : Request := .ofTarget (.ofNat 2) reading "/test/provider-last/%36"

/-- A request for the sum with the greatest number. -/
def requestFirstGreatest : Request :=
  .ofTarget (.ofNat 1) reading "/test/provider-first/2147483647"

section Unlimited

attribute [local instance] PatternEngine.unlimited

theorem sum_in_any_position_six :
    (answered requestFirstSix .empty).1 = some (.ok, .string "nice 48") ∧
      (answered requestLastSix .empty).1 = some (.ok, .string "nice 48") := by
  have haccepts : AcceptsRoutes := fun _ _ => Nat.le_refl 0
  have hfirst : HasPieces requestFirstSix.path (answerPath "provider-first" "%36".toList) :=
    ⟨by decide, Or.inl rfl⟩
  have hlast : HasPieces requestLastSix.path (answerPath "provider-last" "%36".toList) :=
    ⟨by decide, Or.inl rfl⟩
  have hwrites : WritesInteger "%36".toList ⟨6, by decide, by decide⟩ := ⟨"6", rfl, rfl⟩
  obtain ⟨hsame, htells, -⟩ :=
    sum_in_any_position haccepts rfl hfirst rfl hlast .empty .empty
  have hsum := htells.exact hwrites (by decide)
  exact ⟨hsum, hsame.symm.trans hsum⟩

/-- The sum with the greatest number is not told. -/
theorem sum_with_greatest :
    Integer.ofText? .i32 "2147483647" = some ⟨2147483647, by decide, by decide⟩ ∧
      answered requestFirstGreatest .empty = (none, .empty) := by
  have haccepts : AcceptsRoutes := fun _ _ => Nat.le_refl 0
  have hpath : HasPieces requestFirstGreatest.path
      (answerPath "provider-first" "2147483647".toList) := ⟨by decide, Or.inl rfl⟩
  have hwrites : WritesInteger "2147483647".toList ⟨2147483647, by decide, by decide⟩ :=
    ⟨"2147483647", rfl, rfl⟩
  rw [answered_first haccepts rfl hpath .empty,
    (tellsSum_sumAnswer? _).panics hwrites (by decide)]
  exact ⟨rfl, rfl⟩

end Unlimited

end MarkedRoutes.Bookshelf
