import MarkedRoutes.Marker
import MarkedRoutes.Proofs.Source.Dropping

/-!
# Arguments of route markers

The arguments of a route marker are a method word, then maybe a comma and a path, then maybe a
comma.  Every token sequence of this form is read, and besides these only a method word with two
commas behind it.
-/

namespace MarkedRoutes

open MarkedRoutes.Source

/-! ### The written form -/

/-- Tokens that give a path: none, for the empty path, or a comma and a string literal. -/
inductive GivesPath : List Token → String → Prop
  | omitted : GivesPath [] ""
  | written (joined : Bool) {text path : String} (hvalue : Literal.stringValue? text = some path) :
      GivesPath [.punct ',' joined, .literal text] path

/-- At most one comma. -/
inductive IsTrailingComma : List Token → Prop
  | omitted : IsTrailingComma []
  | written (joined : Bool) : IsTrailingComma [.punct ',' joined]

/-- A method word, maybe a comma and a path, and maybe a comma. -/
inductive IsRouteArguments : List Token → String → String → Prop
  | intro (name : String) (line : ℕ) {given trailing : List Token} {path : String}
      (hgiven : GivesPath given path) (htrailing : IsTrailingComma trailing) :
      IsRouteArguments (.ident name line :: (given ++ trailing)) (unraw name) path

/-- A method word and two commas. -/
inductive HasDoubledComma : List Token → String → Prop
  | intro (name : String) (line : ℕ) (first second : Bool) :
      HasDoubledComma [.ident name line, .punct ',' first, .punct ',' second] (unraw name)

/-- Two commas behind a method word are not of the written form. -/
theorem HasDoubledComma.not_isRouteArguments {tokens : List Token} {method : String}
    (hdoubled : HasDoubledComma tokens method) (other path : String) :
    ¬ IsRouteArguments tokens other path := by
  intro harguments
  cases hdoubled with
  | intro name line first second =>
      generalize htokens : [Token.ident name line, .punct ',' first, .punct ',' second] = tokens
        at harguments
      cases harguments with
      | intro name line hgiven htrailing =>
          cases hgiven <;> cases htrailing <;> simp at htokens

/-! ### Reading -/

theorem isEmpty_dropComma_iff {tokens : List Token} :
    (dropComma tokens).isEmpty = true ↔ IsTrailingComma tokens := by
  rw [dropComma]
  constructor
  · intro hempty
    cases hdrop : dropMark? ',' tokens with
    | none =>
        rw [hdrop, Option.getD_none, List.isEmpty_iff] at hempty
        exact hempty ▸ .omitted
    | some rest =>
        rw [hdrop, Option.getD_some, List.isEmpty_iff] at hempty
        obtain ⟨joined, rfl⟩ := dropMark?_eq_some hdrop
        exact hempty ▸ .written joined
  · rintro (_ | joined)
    · rfl
    · rfl

theorem exists_of_leadingString? {tokens rest : List Token} {path : String}
    (hlead : leadingString? tokens = some (path, rest)) :
    ∃ text, tokens = .literal text :: rest ∧ Literal.stringValue? text = some path := by
  rw [leadingString?.eq_def] at hlead
  split at hlead
  · next text rest =>
      obtain ⟨value, hvalue, hpair⟩ := Option.map_eq_some_iff.mp hlead
      cases hpair
      exact ⟨text, rfl, hvalue⟩
  · cases hlead

/-- Route arguments of the written form are read. -/
theorem IsRouteArguments.readRouteArguments_eq {tokens : List Token} {method path : String}
    (harguments : IsRouteArguments tokens method path) :
    readRouteArguments tokens = .ok (method, path) := by
  cases harguments with
  | intro name line hgiven htrailing =>
      cases hgiven with
      | omitted => cases htrailing <;> rfl
      | written joined hvalue =>
          have hempty := isEmpty_dropComma_iff.mpr htrailing
          simp [readRouteArguments, dropMark?, leadingString?, hvalue, hempty]

/-- What is read is of the written form, or a method word and two commas. -/
theorem of_readRouteArguments {tokens : List Token} {method path : String}
    (hread : readRouteArguments tokens = .ok (method, path)) :
    IsRouteArguments tokens method path ∨ HasDoubledComma tokens method ∧ path = "" := by
  match tokens, hread with
  | .ident name line :: rest, hread =>
      rw [readRouteArguments] at hread
      cases hcomma : dropMark? ',' rest with
      | none =>
          simp only [hcomma] at hread
          split_ifs at hread with hempty
          cases hread
          exact Or.inl (.intro name line .omitted (isEmpty_dropComma_iff.mp hempty))
      | some after =>
          obtain ⟨joined, rfl⟩ := dropMark?_eq_some hcomma
          cases hlead : leadingString? after with
          | some found =>
              obtain ⟨value, more⟩ := found
              obtain ⟨text, rfl, hvalue⟩ := exists_of_leadingString? hlead
              simp only [hcomma, hlead] at hread
              split_ifs at hread with hempty
              cases hread
              exact Or.inl (.intro name line (.written joined hvalue)
                (isEmpty_dropComma_iff.mp hempty))
          | none =>
              simp only [hcomma, hlead] at hread
              split_ifs at hread with hempty
              cases hread
              cases isEmpty_dropComma_iff.mp hempty with
              | omitted => exact Or.inl (.intro name line .omitted (.written joined))
              | written second => exact Or.inr ⟨.intro name line joined second, rfl⟩

/-- Exactly the tokens of the written form give a method and a path, apart from a method word
with two commas behind it, which is not of this form and gives the empty path. -/
theorem readRouteArguments_eq_ok_iff (tokens : List Token) (method path : String) :
    (readRouteArguments tokens = .ok (method, path) ↔
      IsRouteArguments tokens method path ∨ HasDoubledComma tokens method ∧ path = "") ∧
    ¬ (IsRouteArguments tokens method path ∧ HasDoubledComma tokens method) := by
  refine ⟨⟨of_readRouteArguments, ?_⟩, fun ⟨harguments, hdoubled⟩ =>
    hdoubled.not_isRouteArguments method path harguments⟩
  rintro (harguments | ⟨⟨name, line, first, second⟩, rfl⟩)
  · exact harguments.readRouteArguments_eq
  · rfl

/-- The word `GET` and two commas. -/
def doubledComma : List Token := [.ident "GET" 1, .punct ',' true, .punct ',' false]

/-- A doubled comma is read, though it is not of the written form. -/
theorem readRouteArguments_doubledComma :
    spacedText doubledComma = "GET ,," ∧ readRouteArguments doubledComma = .ok ("GET", "") ∧
      ∀ method path, ¬ IsRouteArguments doubledComma method path :=
  ⟨by decide, rfl, (HasDoubledComma.intro "GET" 1 true false).not_isRouteArguments⟩

end MarkedRoutes
