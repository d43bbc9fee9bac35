import MarkedRoutes.Route
import MarkedRoutes.Source.TypeGrammar

/-!
# Return types in parentheses

Parentheses around a type are redundant, and so are those around the success type of a result.
They never change the kind of what a handler hands back.  They change whether the handler may
fail in one place: a result in parentheses is no longer taken for a result.
-/

namespace MarkedRoutes

open MarkedRoutes.Source

/-! ### Results -/

/-- A path that ends in `Result<..>`, with a hole for the first type between its brackets. -/
structure ResultFrame where
  rooted : Bool
  outer : List Segment
  turbofish : Bool
  lead : List GenericArgument
  rest : List GenericArgument
  trailingComma : Bool
  lead_ne_type : ∀ argument ∈ lead, ∀ type, argument ≠ .type type

namespace ResultFrame

def arguments (frame : ResultFrame) (value : TypeExpr) : GenericArguments :=
  .mk frame.turbofish (frame.lead ++ .type value :: frame.rest) frame.trailingComma

def of (frame : ResultFrame) (value : TypeExpr) : TypeExpr :=
  .path (.mk frame.rooted (frame.outer ++ [.mk "Result" (some (frame.arguments value))]))

theorem lastSegment?_of (frame : ResultFrame) (value : TypeExpr) :
    (frame.of value).lastSegment? = some (.mk "Result" (some (frame.arguments value))) :=
  List.getLast?_concat

/-- The type in the hole is the first of the types between the brackets. -/
theorem exists_types_arguments (frame : ResultFrame) (value : TypeExpr) :
    ∃ more, (frame.arguments value).types = value :: more := by
  refine ⟨_, List.filterMap_eq_cons_iff.mpr
    ⟨frame.lead, .type value, frame.rest, rfl, fun argument hmem => ?_, rfl, rfl⟩⟩
  cases argument with
  | type type => exact absurd rfl (frame.lead_ne_type _ hmem type)
  | lifetime name => rfl
  | other tokens => rfl

theorem resultValue?_of (frame : ResultFrame) (value : TypeExpr) :
    (frame.of value).resultValue? = some value := by
  obtain ⟨more, hmore⟩ := frame.exists_types_arguments value
  simp [TypeExpr.resultValue?, TypeExpr.typeArguments?, frame.lastSegment?_of value, hmore]

/-- A result itself is a value, whatever its success type is. -/
theorem returnKindOf_of (frame : ResultFrame) (value : TypeExpr) :
    returnKindOf (frame.of value) = .ok .value := by
  simp [of, returnKindOf, Path.segments]

end ResultFrame

theorem typeArguments?_eq_some {type : TypeExpr} {name : String} {values : List TypeExpr}
    (hvalues : type.typeArguments? name = some values) :
    ∃ arguments, type.lastSegment? = some (.mk name (some arguments)) ∧
      arguments.types = values := by
  rw [TypeExpr.typeArguments?] at hvalues
  split at hvalues
  · next last arguments hlast =>
      rw [Option.ite_none_right_eq_some] at hvalues
      obtain ⟨rfl, hvalues⟩ := hvalues
      exact ⟨arguments, hlast, Option.some_inj.mp hvalues⟩
  · cases hvalues

theorem typeArguments?_of_resultValue? {type value : TypeExpr}
    (hvalue : type.resultValue? = some value) :
    ∃ more, type.typeArguments? "Result" = some (value :: more) := by
  rw [TypeExpr.resultValue?] at hvalue
  split at hvalue
  · next first more harguments =>
      cases hvalue
      exact ⟨more, harguments⟩
  · cases hvalue

/-- Every type with a success type is a result around it. -/
theorem exists_frame_of_resultValue? {type value : TypeExpr}
    (hvalue : type.resultValue? = some value) : ∃ frame : ResultFrame, type = frame.of value := by
  obtain ⟨more, harguments⟩ := typeArguments?_of_resultValue? hvalue
  obtain ⟨⟨turbofish, arguments, trailingComma⟩, hlast, htypes⟩ :=
    typeArguments?_eq_some harguments
  cases type with
  | path path =>
      obtain ⟨rooted, segments⟩ := path
      obtain ⟨outer, rfl⟩ := List.getLast?_eq_some_iff.mp hlast
      obtain ⟨lead, argument, rest, rfl, hlead, hargument, -⟩ :=
        List.filterMap_eq_cons_iff.mp htypes
      have hne : ∀ argument ∈ lead, ∀ type, argument ≠ .type type := by
        rintro _ hmem type rfl
        cases hlead _ hmem
      cases argument with
      | type type =>
          cases hargument
          exact ⟨⟨rooted, outer, turbofish, lead, rest, trailingComma, hne⟩, rfl⟩
      | lifetime name => cases hargument
      | other tokens => cases hargument
  | _ => cases hlast

/-! ### Redundant parentheses -/

/-- A type is another one with parentheses added, to any depth, around the whole of it or around
the success type of a result. -/
inductive AddsParentheses : TypeExpr → TypeExpr → Prop
  | same (type : TypeExpr) : AddsParentheses type type
  | around {type wrapped : TypeExpr} (hadds : AddsParentheses type wrapped) :
      AddsParentheses type (.parenthesized wrapped)
  | inside {type wrapped : TypeExpr} (hadds : AddsParentheses type wrapped) :
      AddsParentheses (.parenthesized type) (.parenthesized wrapped)
  | success (frame : ResultFrame) {value wrapped : TypeExpr}
      (hadds : AddsParentheses value wrapped) :
      AddsParentheses (frame.of value) (frame.of wrapped)

namespace AddsParentheses

variable {type wrapped : TypeExpr}

/-- Parentheses do not change the kind of what is handed back, nor the text of a type that names
no response. -/
theorem returnKindOf_eq (hadds : AddsParentheses type wrapped) :
    returnKindOf wrapped = returnKindOf type := by
  induction hadds with
  | same type => rfl
  | around hadds ih => rw [returnKindOf, ih]
  | inside hadds ih => rw [returnKindOf, returnKindOf, ih]
  | success frame hadds ih => rw [frame.returnKindOf_of, frame.returnKindOf_of]

/-- A type that is a result with the parentheses was one without them, of a success type that
differs in parentheses only. -/
theorem exists_of_resultValue? (hadds : AddsParentheses type wrapped) {inner : TypeExpr}
    (hinner : wrapped.resultValue? = some inner) :
    ∃ value, type.resultValue? = some value ∧ AddsParentheses value inner := by
  cases hadds with
  | same type => exact ⟨inner, hinner, .same inner⟩
  | around hadds => cases hinner
  | inside hadds => cases hinner
  | success frame hadds =>
      rw [frame.resultValue?_of, Option.some_inj] at hinner
      subst hinner
      exact ⟨_, frame.resultValue?_of _, hadds⟩

end AddsParentheses

/-! ### Shapes -/

theorem returnShape_of_result {type value : TypeExpr} (hvalue : type.resultValue? = some value) :
    returnShape (some type) = (returnKindOf value).map fun kind => ⟨kind, true⟩ := by
  rw [returnShape, hvalue]

theorem returnShape_of_no_result {type : TypeExpr} (hnone : type.resultValue? = none) :
    returnShape (some type) = (returnKindOf type).map fun kind => ⟨kind, false⟩ := by
  rw [returnShape, hnone]

/-- Parentheses leave the shape of a return type, or the text for which it is refused, as it was,
unless the type is a result and is none with the parentheses.  Then it is taken for the value of a
handler that does not fail. -/
theorem returnShape_of_addsParentheses {type wrapped : TypeExpr}
    (hadds : AddsParentheses type wrapped) :
    (returnShape (some wrapped) = returnShape (some type) ↔
      (type.resultValue?.isSome → wrapped.resultValue?.isSome)) ∧
    (type.resultValue?.isSome → ¬ wrapped.resultValue?.isSome →
      returnShape (some wrapped) = .ok ⟨.value, false⟩) := by
  cases hinner : wrapped.resultValue? with
  | some inner =>
      obtain ⟨value, hvalue, hsuccess⟩ := hadds.exists_of_resultValue? hinner
      have hsame : returnShape (some wrapped) = returnShape (some type) := by
        rw [returnShape_of_result hinner, returnShape_of_result hvalue, hsuccess.returnKindOf_eq]
      simp [hsame]
  | none =>
      have hkind := returnShape_of_no_result hinner
      rw [hadds.returnKindOf_eq] at hkind
      cases hvalue : type.resultValue? with
      | none => simp [hkind, returnShape_of_no_result hvalue]
      | some value =>
          obtain ⟨frame, rfl⟩ := exists_frame_of_resultValue? hvalue
          rw [frame.returnKindOf_of] at hkind
          rw [hkind, returnShape_of_result hvalue]
          cases returnKindOf value <;> simp [Except.map]

/-- A reply, as a type. -/
def replyType : TypeExpr := .path (.mk false [.mk "Reply" none])

theorem lifetime_ne_type : ∀ type, GenericArgument.lifetime "a" ≠ .type type :=
  fun _ => GenericArgument.noConfusion

/-- A result with a lifetime in front of its success type. -/
def scopedFrame : ResultFrame :=
  ⟨false, [.mk "api" none], false, [.lifetime "a"], [.type .never], true,
    List.forall_mem_singleton.mpr lifetime_ne_type⟩

theorem returnShape_of_addsParentheses_reply :
    (scopedFrame.of replyType).canonical = "api::Result<'a,Reply,!,>" ∧
      (scopedFrame.of (.parenthesized (.parenthesized replyType))).canonical =
        "api::Result<'a,((Reply)),!,>" ∧
      AddsParentheses (scopedFrame.of replyType)
        (scopedFrame.of (.parenthesized (.parenthesized replyType))) ∧
      returnShape (some (scopedFrame.of (.parenthesized (.parenthesized replyType)))) =
        returnShape (some (scopedFrame.of replyType)) := by
  have hadds : AddsParentheses (scopedFrame.of replyType)
      (scopedFrame.of (.parenthesized (.parenthesized replyType))) :=
    .success scopedFrame (.around (.around (.same replyType)))
  exact ⟨by decide, by decide, hadds, (returnShape_of_addsParentheses hadds).1.mpr fun _ => rfl⟩

/-- A result of a number or a text. -/
def numberResult : TypeExpr :=
  .path (.mk false [.mk "Result" (some (.mk false
    [.type (.path (.mk false [.mk "u8" none])), .type (.path (.mk false [.mk "String" none]))]
    false))])

/-- A result in parentheses is taken for the value of a handler that does not fail. -/
theorem returnShape_parenthesized_ne :
    numberResult.canonical = "Result<u8,String>" ∧
      AddsParentheses numberResult (.parenthesized numberResult) ∧
      returnShape (some numberResult) = .ok ⟨.value, true⟩ ∧
      returnShape (some (.parenthesized numberResult)) = .ok ⟨.value, false⟩ :=
  ⟨by decide, .around (.same numberResult), rfl, rfl⟩

end MarkedRoutes
