import Mathlib.Logic.Basic

/-!
# Results of computations that can fail

A computation that continues another succeeds when both succeed.  The same is
stated for the value that comes out, and for the mere fact that one does.
-/

namespace MarkedRoutes

variable {ε α β : Type} {result : Except ε α}

/-- A computation that continues a successful one is the continuation. -/
theorem ok_bind (value : α) (next : α → Except ε β) : (Except.ok value >>= next) = next value := rfl

/-- A computation that continues another succeeds when both succeed. -/
theorem bind_eq_ok_iff {next : α → Except ε β} {value : β} :
    (result >>= next) = .ok value ↔ ∃ first, result = .ok first ∧ next first = .ok value := by
  cases result with
  | error fault =>
      constructor
      · intro hbind
        cases hbind
      · rintro ⟨first, hfirst, -⟩
        cases hfirst
  | ok first =>
      constructor
      · intro hbind
        exact ⟨first, rfl, hbind⟩
      · rintro ⟨other, hother, hnext⟩
        cases hother
        exact hnext

/-- A computation that continues another fails with the first one or behind it. -/
theorem bind_eq_error_iff {next : α → Except ε β} {fault : ε} :
    (result >>= next) = .error fault ↔
      result = .error fault ∨ ∃ first, result = .ok first ∧ next first = .error fault := by
  cases result with
  | error other =>
      constructor
      · intro hbind
        cases hbind
        exact Or.inl rfl
      · rintro (hfault | ⟨first, hfirst, -⟩)
        · cases hfault
          rfl
        · cases hfirst
  | ok first =>
      constructor
      · intro hbind
        exact Or.inr ⟨first, rfl, hbind⟩
      · rintro (hfault | ⟨other, hother, hnext⟩)
        · cases hfault
        · cases hother
          exact hnext

/-- A changed value comes from a value. -/
theorem map_eq_ok_iff {change : α → β} {value : β} :
    result.map change = .ok value ↔ ∃ first, result = .ok first ∧ change first = value := by
  cases result <;> simp [Except.map]

theorem eq_ok_of_toOption {value : α} (hvalue : result.toOption = some value) :
    result = .ok value := by
  cases result with
  | error fault => cases hvalue
  | ok found => exact congrArg Except.ok (Option.some.inj hvalue)

theorem isOk_eq_true_iff : result.isOk = true ↔ ∃ value, result = .ok value := by
  cases result with
  | error fault => exact ⟨nofun, nofun⟩
  | ok value => exact ⟨fun _ => ⟨value, rfl⟩, fun _ => rfl⟩

theorem eq_ok_getD (hok : result.isOk = true) (other : α) :
    result = .ok (result.toOption.getD other) := by
  obtain ⟨value, rfl⟩ := isOk_eq_true_iff.mp hok
  rfl

theorem isOk_map (change : α → β) : (result.map change).isOk = result.isOk := by
  cases result <;> rfl

/-- When it does not depend on the value whether the continuation succeeds, both are checked
apart. -/
theorem isOk_bind {next : α → Except ε β} {succeeds : Bool}
    (hnext : ∀ value, (next value).isOk = succeeds) :
    (result >>= next).isOk = (result.isOk && succeeds) := by
  cases result with
  | error fault => rfl
  | ok value => exact hnext value

/-- A continuation that always succeeds adds nothing to check. -/
theorem isOk_bind_of_isOk {next : α → Except ε β} (hnext : ∀ value, (next value).isOk = true) :
    (result >>= next).isOk = result.isOk := by
  rw [isOk_bind hnext, Bool.and_true]

end MarkedRoutes
