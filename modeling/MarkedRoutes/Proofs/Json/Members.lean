import MarkedRoutes.Json.Value
import Mathlib.Data.List.Induction

/-!
# Members of objects

An object that is made of members holds under every name the last member of that
name, wherever the members are put.  Members that are sorted by name stay as they are.
-/

namespace MarkedRoutes.Json

def findMember? (name : String) (members : List (String × Json)) : Option (String × Json) :=
  members.find? fun member => member.1 = name

theorem findMember?_setMember (name other : String) (value : Json)
    (members : List (String × Json)) :
    findMember? other (setMember name value members) =
      if name = other then some (name, value) else findMember? other members := by
  induction members with
  | nil =>
      by_cases hname : name = other <;> simp [setMember, findMember?, hname]
  | cons first members ih =>
      rw [setMember]
      by_cases hfirst : name = first.1
      · rw [if_pos hfirst]
        by_cases hname : name = other
        · simp [findMember?, hname]
        · have hne : ¬ first.1 = other := hfirst ▸ hname
          simp [findMember?, hname, hne]
      · rw [if_neg hfirst]
        by_cases hbefore : Text.precedes name first.1 = true
        · rw [if_pos hbefore]
          by_cases hname : name = other <;> simp [findMember?, hname]
        · rw [if_neg hbefore]
          by_cases hother : first.1 = other
          · have hne : ¬ name = other := fun heq => hfirst (heq.trans hother.symm)
            simp [findMember?, hother, hne]
          · rw [findMember?, List.find?_cons_of_neg (by simp [hother]), ← findMember?, ih]
            simp [findMember?, hother]

/-- Of several members with one name the last counts. -/
theorem member?_ofMembers (name : String) (members : List (String × Json)) :
    (ofMembers members).member? name = (findMember? name members.reverse).map Prod.snd := by
  have hfold : ∀ start : List (String × Json),
      findMember? name (members.foldl (fun sorted member => setMember member.1 member.2 sorted)
        start) = (findMember? name members.reverse).or (findMember? name start) := by
    induction members with
    | nil => exact fun start => rfl
    | cons first members ih =>
        intro start
        rw [List.foldl_cons, ih, findMember?_setMember, List.reverse_cons, findMember?, findMember?,
          findMember?, List.find?_append, Option.or_assoc]
        obtain ⟨key, value⟩ := first
        refine congrArg _ ?_
        by_cases hname : key = name
        · subst hname
          simp
        · simp [hname]
  have hlast := hfold []
  rw [show findMember? name [] = none from rfl, Option.or_none] at hlast
  rw [ofMembers, member?]
  exact congrArg (Option.map Prod.snd) hlast

/-! ### Sorted members -/

theorem asymm_charsPrecede {first second : List Char}
    (hprecede : Text.charsPrecede first second = true) :
    Text.charsPrecede second first = false := by
  induction first generalizing second with
  | nil =>
      cases second with
      | nil => cases hprecede
      | cons d second => rfl
  | cons c first ih =>
      cases second with
      | nil => cases hprecede
      | cons d second =>
          rw [Text.charsPrecede] at hprecede ⊢
          by_cases hsame : c = d
          · rw [if_pos hsame] at hprecede
            rw [if_pos hsame.symm]
            exact ih hprecede
          · rw [if_neg hsame, Nat.blt_eq] at hprecede
            rw [if_neg (Ne.symm hsame), Bool.eq_false_iff, Ne, Nat.blt_eq]
            exact Nat.lt_asymm hprecede

theorem irrefl_charsPrecede (text : List Char) :
    Text.charsPrecede text text = false := by
  induction text with
  | nil => rfl
  | cons c text ih => rw [Text.charsPrecede, if_pos rfl, ih]

/-- Members are sorted by name, each name once. -/
def IsSorted (members : List (String × Json)) : Prop :=
  members.Pairwise fun first second => Text.precedes first.1 second.1 = true

instance (members : List (String × Json)) : Decidable (IsSorted members) :=
  inferInstanceAs (Decidable (members.Pairwise _))

theorem setMember_of_precedes {members : List (String × Json)} {name : String}
    (hprecede : ∀ member ∈ members, Text.precedes member.1 name = true) (value : Json) :
    setMember name value members = members ++ [(name, value)] := by
  induction members with
  | nil => rfl
  | cons first members ih =>
      rw [List.forall_mem_cons] at hprecede
      have hbehind : Text.precedes name first.1 = false := asymm_charsPrecede hprecede.1
      have hne : name ≠ first.1 := by
        rintro rfl
        rw [Text.precedes, irrefl_charsPrecede] at hprecede
        cases hprecede.1
      rw [setMember, if_neg hne, hbehind, ih hprecede.2]
      rfl

/-- Sorted members make the object that holds them. -/
theorem ofMembers_of_isSorted {members : List (String × Json)} (hsorted : IsSorted members) :
    ofMembers members = .object members := by
  rw [ofMembers]
  congr 1
  induction members using List.reverseRecOn with
  | nil => rfl
  | append_singleton members last ih =>
      obtain ⟨hbefore, -, hlast⟩ := List.pairwise_append.mp hsorted
      rw [List.foldl_append, ih hbefore, List.foldl_cons, List.foldl_nil,
        setMember_of_precedes fun member hmem => hlast member hmem last (List.mem_singleton_self _)]

end MarkedRoutes.Json
