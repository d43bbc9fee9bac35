import Mathlib.Data.List.Nodup
import Mathlib.Data.List.Perm.Subperm
import MarkedRoutes.Generated.Name

/-!
# Fresh names

A name that is given was not in use before.  Different numbers make different
names of one wanted name, so among one more number than there are names in use
there is a free one.
-/

namespace MarkedRoutes

theorem toString_inj {first second : ℕ} (hequal : toString first = toString second) :
    first = second := by
  have hdigits : Nat.toDigits 10 first = Nat.toDigits 10 second := by
    rw [← Nat.toList_repr, ← Nat.toList_repr]
    exact congrArg String.toList hequal
  calc
    first = Nat.ofDigitChars 10 (Nat.toDigits 10 first) 0 := Nat.ofDigitChars_ten_toDigits.symm
    _ = Nat.ofDigitChars 10 (Nat.toDigits 10 second) 0 := by rw [hdigits]
    _ = second := Nat.ofDigitChars_ten_toDigits

theorem numberedName_injective (name : String) : Function.Injective (numberedName name) :=
  fun _ _ hequal => toString_inj ((String.append_right_inj _).mp hequal)

/-- The search for a free number ends on a name in use only after it has tried that every
number has a name in use. -/
theorem mem_of_freeNumber_mem {used : List String} {name : String} {bound number : ℕ}
    (hmem : numberedName name (freeNumber used name bound number) ∈ used) :
    ∀ offset ≤ bound, numberedName name (number + offset) ∈ used := by
  induction bound generalizing number with
  | zero =>
      intro offset hle
      rw [Nat.le_zero.mp hle]
      exact hmem
  | succ bound ih =>
      rw [freeNumber] at hmem
      split_ifs at hmem with hcontains
      · intro offset hle
        cases offset with
        | zero => exact List.contains_iff_mem.mp hcontains
        | succ offset =>
            have hlater := ih hmem offset (Nat.le_of_succ_le_succ hle)
            rwa [Nat.add_right_comm, Nat.add_assoc] at hlater
      · exact absurd (List.contains_iff_mem.mpr hmem) hcontains

/-- Among one number more than there are names in use, one is free. -/
theorem numberedName_freeNumber_notMem (used : List String) (name : String) :
    numberedName name (freeNumber used name used.length 1) ∉ used := by
  intro hmem
  have hall := mem_of_freeNumber_mem hmem
  have hnodup : ((List.range (used.length + 1)).map fun offset =>
      numberedName name (1 + offset)).Nodup :=
    List.Nodup.map (fun first second hequal =>
      Nat.add_left_cancel (numberedName_injective name hequal)) List.nodup_range
  have hsubset : ((List.range (used.length + 1)).map fun offset =>
      numberedName name (1 + offset)) ⊆ used := by
    intro given hgiven
    obtain ⟨offset, hoffset, rfl⟩ := List.mem_map.mp hgiven
    exact hall offset (Nat.le_of_lt_succ (List.mem_range.mp hoffset))
  have hlength := (hnodup.subperm hsubset).length_le
  rw [List.length_map, List.length_range] at hlength
  omega

namespace NameTable

/-- A name that is given was not in use. -/
theorem nameFor_notMem (table : NameTable) (name : String) : table.nameFor name ∉ table.used := by
  rw [nameFor]
  split_ifs with hcontains
  · exact numberedName_freeNumber_notMem table.used name
  · intro hmem
    exact hcontains (List.contains_iff_mem.mpr hmem)

/-- The name that is given begins with the name that is wanted. -/
theorem exists_nameFor_eq_append (table : NameTable) (name : String) :
    ∃ ending, table.nameFor name = name ++ ending := by
  rw [nameFor]
  split_ifs
  · exact ⟨_, String.append_assoc⟩
  · exact ⟨"", String.append_empty.symm⟩

end NameTable

end MarkedRoutes
