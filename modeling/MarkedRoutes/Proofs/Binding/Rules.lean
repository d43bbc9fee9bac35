import Mathlib.Data.List.Nodup
import Mathlib.Data.List.Perm.Basic
import MarkedRoutes.Binding
import MarkedRoutes.Proofs.Results

/-!
# The rules of binding

Binding consumes a pool of candidates: the placeholders take theirs, the
remaining ones are sorted by their markers, and the result is put back into
declaration order.  Here the same is stated without an order, as one rule for
each way in which a candidate may be bound, and every step of binding is shown
to follow the rules and to lose and double no candidate.
-/

namespace MarkedRoutes

/-! ### Candidates -/

/-- A candidate says of its parameter what the parameter's name and markers say. -/
structure Candidate.IsConsistent (candidate : Candidate) : Prop where
  name : candidate.parameter.name = some candidate.name
  bindings : candidate.parameter.markers.filter ParameterMarker.isBinding =
    candidate.binding.toList
  converters : candidate.parameter.markers.filterMap ParameterMarker.converter? =
    candidate.converter.toList

theorem toList_head?_of_length_le {α : Type} {items : List α} (hlength : items.length ≤ 1) :
    items.head?.toList = items := by
  rcases items with _ | ⟨first, _ | ⟨second, rest⟩⟩
  · rfl
  · rfl
  · simp only [List.length_cons] at hlength
    omega

theorem candidateOf_ok {context : RouteContext} {parameter : DeclaredParameter}
    {candidate : Candidate} (hcandidate : candidateOf context parameter = .ok candidate) :
    candidate.parameter = parameter ∧ candidate.IsConsistent := by
  rw [candidateOf] at hcandidate
  cases hname : parameter.name with
  | none =>
      rw [hname] at hcandidate
      cases hcandidate
  | some name =>
      rw [hname] at hcandidate
      dsimp only at hcandidate
      split_ifs at hcandidate with hbindings hconverters
      cases hcandidate
      refine ⟨rfl, hname, ?_, ?_⟩
      · exact (toList_head?_of_length_le (Nat.le_of_not_lt hbindings)).symm
      · exact (toList_head?_of_length_le (Nat.le_of_not_lt hconverters)).symm

theorem candidatesOf_ok {context : RouteContext} {parameters : List DeclaredParameter}
    {candidates : List Candidate} (hcandidates : candidatesOf context parameters = .ok candidates) :
    candidates.map Candidate.parameter = parameters ∧
      ∀ candidate ∈ candidates, candidate.IsConsistent := by
  induction parameters generalizing candidates with
  | nil =>
      cases hcandidates
      exact ⟨rfl, fun candidate hmem => absurd hmem List.not_mem_nil⟩
  | cons parameter parameters ih =>
      rw [candidatesOf] at hcandidates
      cases hfirst : candidateOf context parameter with
      | error diagnostic =>
          rw [hfirst] at hcandidates
          cases hcandidates
      | ok candidate =>
          cases hrest : candidatesOf context parameters with
          | error diagnostic =>
              rw [hfirst, hrest] at hcandidates
              cases hcandidates
          | ok others =>
              rw [hfirst, hrest] at hcandidates
              cases hcandidates
              obtain ⟨hparameter, hconsistent⟩ := candidateOf_ok hfirst
              obtain ⟨hparameters, hothers⟩ := ih hrest
              refine ⟨by rw [List.map_cons, hparameter, hparameters], ?_⟩
              exact List.forall_mem_cons.mpr ⟨hconsistent, hothers⟩

/-- Without a binding marker there is no binding, and a binding is a binding marker. -/
theorem Candidate.IsConsistent.isBinding {candidate : Candidate}
    (hconsistent : candidate.IsConsistent)
    {marker : ParameterMarker} (hbinding : candidate.binding = some marker) :
    marker.isBinding = true := by
  have hmem : marker ∈ candidate.parameter.markers.filter ParameterMarker.isBinding := by
    rw [hconsistent.bindings, hbinding]
    exact List.mem_singleton_self marker
  exact (List.mem_filter.mp hmem).2

/-! ### Lists -/

theorem getElem?_of_forall₂ {α β : Type} {R : α → β → Prop} {first : List α} {second : List β}
    (hrelated : List.Forall₂ R first second) {position : ℕ} {value : β}
    (hvalue : second[position]? = some value) :
    ∃ item, first[position]? = some item ∧ R item value := by
  obtain ⟨hlt, rfl⟩ := List.getElem?_eq_some_iff.mp hvalue
  obtain ⟨hlength, hget⟩ := List.forall₂_iff_get.mp hrelated
  have hlt' : position < first.length := hlength ▸ hlt
  exact ⟨first[position], List.getElem?_eq_getElem hlt', hget position hlt' hlt⟩

theorem firstRepeated?_eq_none_iff {seen names : List String} :
    firstRepeated? seen names = none ↔ names.Nodup ∧ ∀ name ∈ names, name ∉ seen := by
  induction names generalizing seen with
  | nil => simp [firstRepeated?]
  | cons name names ih =>
      rw [firstRepeated?]
      by_cases hseen : name ∈ seen
      · rw [if_pos (List.contains_iff_mem.mpr hseen)]
        constructor
        · intro hnone
          cases hnone
        · intro hfresh
          exact absurd hseen (hfresh.2 name List.mem_cons_self)
      · rw [if_neg (fun hcontains => hseen (List.contains_iff_mem.mp hcontains)), ih,
          List.nodup_cons]
        constructor
        · rintro ⟨hnodup, hfresh⟩
          refine ⟨⟨fun hmem => hfresh name hmem List.mem_cons_self, hnodup⟩, ?_⟩
          refine List.forall_mem_cons.mpr ⟨hseen, fun other hmem hold => ?_⟩
          exact hfresh other hmem (List.mem_cons_of_mem name hold)
        · rintro ⟨⟨hnotMem, hnodup⟩, hfresh⟩
          refine ⟨hnodup, fun other hmem hold => ?_⟩
          rcases List.mem_cons.mp hold with heq | hold
          · exact hnotMem (heq ▸ hmem)
          · exact hfresh other (List.mem_cons_of_mem name hmem) hold

theorem takeFirst?_eq_some {α : Type} {test : α → Bool} {items others : List α} {found : α}
    (htake : takeFirst? test items = some (found, others)) :
    test found = true ∧ items.Perm (found :: others) := by
  induction items generalizing found others with
  | nil => cases htake
  | cons first rest ih =>
      rw [takeFirst?] at htake
      split_ifs at htake with htest
      · cases htake
        exact ⟨htest, List.Perm.refl _⟩
      · obtain ⟨⟨found', others'⟩, hrest, heq⟩ := Option.map_eq_some_iff.mp htake
        cases heq
        obtain ⟨hfound, hperm⟩ := ih hrest
        exact ⟨hfound, (hperm.cons first).trans (List.Perm.swap found first others')⟩

/-- Entries whose positions increase are what sorting any order of them by position gives. -/
theorem byPosition_eq_of_perm {entries sorted : List BoundParameter} (hperm : entries.Perm sorted)
    (hsorted : sorted.Pairwise fun left right => left.position < right.position) :
    byPosition entries = sorted := by
  have htrans : ∀ first second third : BoundParameter,
      decide (first.position ≤ second.position) = true →
      decide (second.position ≤ third.position) = true →
      decide (first.position ≤ third.position) = true := by
    intro first second third hfirst hsecond
    exact decide_eq_true (Nat.le_trans (of_decide_eq_true hfirst) (of_decide_eq_true hsecond))
  have htotal : ∀ left right : BoundParameter,
      (decide (left.position ≤ right.position) || decide (right.position ≤ left.position)) =
        true := by
    intro left right
    rcases Nat.le_total left.position right.position with hle | hle
    · rw [decide_eq_true hle, Bool.true_or]
    · rw [decide_eq_true hle, Bool.or_true]
  have hmerged := List.pairwise_mergeSort htrans htotal entries
  have hsame : (byPosition entries).Perm sorted := (List.mergeSort_perm entries _).trans hperm
  refine hsame.eq_of_pairwise (fun left right hleft hright hle hge => ?_) hmerged
    (hsorted.imp fun hlt => decide_eq_true (Nat.le_of_lt hlt))
  have hpositions : (sorted.map BoundParameter.position).Nodup :=
    List.pairwise_map.mpr (hsorted.imp fun hlt => Nat.ne_of_lt hlt)
  have hposition : left.position = right.position :=
    Nat.le_antisymm (of_decide_eq_true hle) (of_decide_eq_true hge)
  exact List.inj_on_of_nodup_map hpositions (hsame.mem_iff.mp hleft) hright hposition

/-! ### The rules -/

/-- The ways in which a candidate may be bound on a path with given placeholders. -/
inductive BoundAs (placeholders : List (String × Bool)) : Candidate → BoundParameter → Prop
  | path {candidate : Candidate} {isOptional : Bool}
      (hplaceholder : (candidate.boundName, isOptional) ∈ placeholders)
      (hfits : candidate.fitsPath = true)
      (htype : candidate.parameter.valueType.isOptional = isOptional) :
      BoundAs placeholders candidate (candidate.bind .path (!isOptional))
  | query {candidate : Candidate} {name : Option String}
      (hmarked : candidate.binding = some (.query name)) :
      BoundAs placeholders candidate
        (candidate.bind .query (!candidate.parameter.valueType.isOptional))
  | header {candidate : Candidate} {name : Option String}
      (hmarked : candidate.binding = some (.header name)) :
      BoundAs placeholders candidate
        (candidate.bind .header (!candidate.parameter.valueType.isOptional))
  | provided {candidate : Candidate} (hmarked : candidate.binding = some .provided)
      (hconverter : candidate.converter = none) :
      BoundAs placeholders candidate (candidate.bind .provided true)
  | pipeline {candidate : Candidate} (hmarked : candidate.binding = some .pipeline)
      (hconverter : candidate.converter = none)
      (htype : candidate.parameter.type.isContextHandle = true) :
      BoundAs placeholders candidate (candidate.bind .pipeline true)
  | body {candidate : Candidate}
      (hmarked : candidate.binding = none ∨ candidate.binding = some .body)
      (hconverter : candidate.converter = none) :
      BoundAs placeholders candidate (candidate.bind .body true)

/-- The names under which the path entries are looked up. -/
def pathNames (entries : List BoundParameter) : List String :=
  (entries.filter fun entry => entry.kind = .path).map BoundParameter.boundName

def kindCount (kind : BindingKind) (entries : List BoundParameter) : ℕ :=
  entries.countP fun entry => entry.kind = kind

theorem pathNames_append (first second : List BoundParameter) :
    pathNames (first ++ second) = pathNames first ++ pathNames second := by
  rw [pathNames, List.filter_append, List.map_append, pathNames, pathNames]

theorem pathNames_of_forall {entries : List BoundParameter}
    (hkinds : ∀ entry ∈ entries, entry.kind = .path) :
    pathNames entries = entries.map BoundParameter.boundName := by
  rw [pathNames, List.filter_eq_self.mpr fun entry hmem => decide_eq_true (hkinds entry hmem)]

theorem pathNames_eq_nil {entries : List BoundParameter}
    (hkinds : ∀ entry ∈ entries, entry.kind ≠ .path) : pathNames entries = [] := by
  rw [pathNames, List.filter_eq_nil_iff.mpr fun entry hmem => ?_, List.map_nil]
  intro hkind
  exact hkinds entry hmem (of_decide_eq_true hkind)

theorem kindCount_append (kind : BindingKind) (first second : List BoundParameter) :
    kindCount kind (first ++ second) = kindCount kind first + kindCount kind second :=
  List.countP_append

theorem kindCount_eq_zero {kind : BindingKind} {entries : List BoundParameter}
    (hkinds : ∀ entry ∈ entries, entry.kind ≠ kind) : kindCount kind entries = 0 :=
  List.countP_eq_zero.mpr fun entry hmem hkind => hkinds entry hmem (of_decide_eq_true hkind)

theorem kindCount_eq_zero_of_forall {kind other : BindingKind} {entries : List BoundParameter}
    (hkinds : ∀ entry ∈ entries, entry.kind = other) (hne : other ≠ kind) :
    kindCount kind entries = 0 := by
  apply kindCount_eq_zero
  intro entry hmem
  rw [hkinds entry hmem]
  exact hne

theorem kindCount_le_length (kind : BindingKind) (entries : List BoundParameter) :
    kindCount kind entries ≤ entries.length :=
  List.countP_le_length

/-- Candidates are bound, each by a rule; every placeholder has its parameter, and at most
one parameter is the body and at most one the pipeline. -/
structure Binds (placeholders : List (String × Bool)) (candidates : List Candidate)
    (entries : List BoundParameter) : Prop where
  each : List.Forall₂ (BoundAs placeholders) candidates entries
  names : (pathNames entries).Perm (placeholders.map Prod.fst)
  body : kindCount .body entries ≤ 1
  pipeline : kindCount .pipeline entries ≤ 1

/-- The entries of the placeholders and the entries of everything else together. -/
theorem Binds.append {placeholders : List (String × Bool)} {taken rest : List Candidate}
    {bound others : List BoundParameter}
    (hbound : List.Forall₂ (BoundAs placeholders) taken bound)
    (hkinds : ∀ entry ∈ bound, entry.kind = .path)
    (hnames : bound.map BoundParameter.boundName = placeholders.map Prod.fst)
    (hrest : List.Forall₂ (BoundAs placeholders) rest others)
    (hothers : ∀ entry ∈ others, entry.kind ≠ .path) (hbody : kindCount .body others ≤ 1)
    (hpipeline : kindCount .pipeline others ≤ 1) :
    Binds placeholders (taken ++ rest) (bound ++ others) := by
  refine ⟨List.rel_append hbound hrest, ?_, ?_, ?_⟩
  · rw [pathNames_append, pathNames_of_forall hkinds, pathNames_eq_nil hothers, List.append_nil,
      hnames]
  · rw [kindCount_append, kindCount_eq_zero_of_forall hkinds (by decide), Nat.zero_add]
    exact hbody
  · rw [kindCount_append, kindCount_eq_zero_of_forall hkinds (by decide), Nat.zero_add]
    exact hpipeline

/-- The rules do not depend on the order of the candidates. -/
theorem Binds.perm {placeholders : List (String × Bool)} {candidates others : List Candidate}
    {entries : List BoundParameter} (hbinds : Binds placeholders candidates entries)
    (hperm : others.Perm candidates) :
    ∃ sorted, entries.Perm sorted ∧ Binds placeholders others sorted := by
  obtain ⟨sorted, heach, hsorted⟩ := List.perm_comp_forall₂ hperm hbinds.each
  refine ⟨sorted, hsorted.symm, heach, ?_, ?_, ?_⟩
  · exact ((hsorted.filter _).map _).trans hbinds.names
  · rw [kindCount, hsorted.countP_eq]
    exact hbinds.body
  · rw [kindCount, hsorted.countP_eq]
    exact hbinds.pipeline

/-- Every rule keeps the name, type, position and converter of the candidate. -/
theorem BoundAs.eq_bind {placeholders : List (String × Bool)} {candidate : Candidate}
    {entry : BoundParameter} (hbound : BoundAs placeholders candidate entry) :
    entry = candidate.bind entry.kind entry.isRequired := by
  cases hbound <;> rfl

theorem positions_eq {placeholders : List (String × Bool)} {candidates : List Candidate}
    {entries : List BoundParameter}
    (heach : List.Forall₂ (BoundAs placeholders) candidates entries) :
    entries.map BoundParameter.position =
      candidates.map fun candidate => candidate.parameter.position := by
  induction heach with
  | nil => rfl
  | @cons candidate entry candidates entries hfirst _ ih =>
      have hposition : entry.position = candidate.parameter.position := by
        rw [hfirst.eq_bind]
        rfl
      rw [List.map_cons, List.map_cons, ih, hposition]

/-- Sorting the entries by position puts them into the order of the candidates. -/
theorem Binds.byPosition {placeholders : List (String × Bool)} {candidates taken : List Candidate}
    {entries : List BoundParameter} (hbinds : Binds placeholders taken entries)
    (hperm : candidates.Perm taken)
    (hpositions : candidates.Pairwise fun left right =>
      left.parameter.position < right.parameter.position) :
    Binds placeholders candidates (byPosition entries) := by
  obtain ⟨sorted, hsorted, hsame⟩ := hbinds.perm hperm
  have hincreasing : sorted.Pairwise fun left right => left.position < right.position := by
    rw [← List.pairwise_map (R := fun left right => left < right), positions_eq hsame.each,
      List.pairwise_map]
    exact hpositions
  rw [byPosition_eq_of_perm hsorted hincreasing]
  exact hsame

/-! ### The steps -/

section Steps

variable {context : RouteContext} {placeholders : List (String × Bool)}

theorem checkNullability_ok {candidate : Candidate} {isRequired : Bool}
    (hcheck : checkNullability context candidate isRequired = .ok ()) :
    candidate.parameter.valueType.isOptional = !isRequired := by
  rw [checkNullability] at hcheck
  split_ifs at hcheck with hequal
  exact Bool.eq_not_of_ne hequal

theorem rejectConverter_ok {candidate : Candidate} {kind : BindingKind}
    (hreject : rejectConverter context candidate kind = .ok ()) : candidate.converter = none := by
  rw [rejectConverter] at hreject
  cases hconverter : candidate.converter with
  | none => rfl
  | some converter =>
      rw [hconverter] at hreject
      cases hreject

/-- Every placeholder takes one candidate out of the pool. -/
theorem bindPlaceholders_ok {names : List (String × Bool)} {pool left : List Candidate}
    {entries : List BoundParameter} (hnames : names ⊆ placeholders)
    (hbind : bindPlaceholders context names pool = .ok (entries, left)) :
    ∃ taken, pool.Perm (taken ++ left) ∧ List.Forall₂ (BoundAs placeholders) taken entries ∧
      entries.map BoundParameter.boundName = names.map Prod.fst ∧
      ∀ entry ∈ entries, entry.kind = .path := by
  induction names generalizing pool entries with
  | nil =>
      cases hbind
      exact ⟨[], List.Perm.refl _, .nil, rfl, fun entry hmem => absurd hmem List.not_mem_nil⟩
  | cons head names ih =>
      obtain ⟨name, isOptional⟩ := head
      rw [bindPlaceholders] at hbind
      cases htake : takeFirst? (fun candidate => candidate.fitsPath && candidate.boundName = name)
          pool with
      | none =>
          rw [htake] at hbind
          cases hbind
      | some result =>
          obtain ⟨candidate, others⟩ := result
          rw [htake] at hbind
          obtain ⟨⟨⟩, hcheck, hbind⟩ := bind_eq_ok_iff.mp hbind
          obtain ⟨⟨rest, remaining⟩, hrest, hbind⟩ := bind_eq_ok_iff.mp hbind
          cases hbind
          obtain ⟨htest, hpool⟩ := takeFirst?_eq_some htake
          obtain ⟨hfits, hname⟩ := Bool.and_eq_true_iff.mp htest
          have hname : candidate.boundName = name := of_decide_eq_true hname
          obtain ⟨taken, hperm, heach, hbound, hkinds⟩ :=
            ih (List.subset_of_cons_subset hnames) hrest
          have hplaceholder : (candidate.boundName, isOptional) ∈ placeholders := by
            rw [hname]
            exact hnames List.mem_cons_self
          have htype : candidate.parameter.valueType.isOptional = isOptional := by
            rw [checkNullability_ok hcheck, Bool.not_not]
          refine ⟨candidate :: taken, hpool.trans (hperm.cons candidate), ?_, ?_, ?_⟩
          · exact .cons (.path hplaceholder hfits htype) heach
          · rw [List.map_cons, List.map_cons, hbound]
            exact congrArg (· :: names.map Prod.fst) hname
          · exact List.forall_mem_cons.mpr ⟨rfl, hkinds⟩

/-- How a pool is split: some candidates are bound, and the others stand for the pipeline or
for the body. -/
structure Splits (placeholders : List (String × Bool)) (pool : List Candidate)
    (classified : Classified) : Prop where
  each : ∃ taken, pool.Perm (taken ++ (classified.pipelines ++ classified.bodies)) ∧
    List.Forall₂ (BoundAs placeholders) taken classified.bound
  kinds : ∀ entry ∈ classified.bound,
    entry.kind ≠ .path ∧ entry.kind ≠ .body ∧ entry.kind ≠ .pipeline
  pipelines : ∀ candidate ∈ classified.pipelines,
    candidate.binding = some .pipeline ∧ candidate.converter = none
  bodies : ∀ candidate ∈ classified.bodies,
    (candidate.binding = none ∨ candidate.binding = some .body) ∧ candidate.converter = none

theorem Splits.bind {pool : List Candidate} {classified : Classified}
    (hsplits : Splits placeholders pool classified) {candidate : Candidate}
    {entry : BoundParameter} (hbound : BoundAs placeholders candidate entry)
    (hkind : entry.kind ≠ .path ∧ entry.kind ≠ .body ∧ entry.kind ≠ .pipeline) :
    Splits placeholders (candidate :: pool)
      { classified with bound := entry :: classified.bound } := by
  obtain ⟨taken, hperm, heach⟩ := hsplits.each
  refine ⟨⟨candidate :: taken, hperm.cons candidate, .cons hbound heach⟩, ?_,
    hsplits.pipelines, hsplits.bodies⟩
  exact List.forall_mem_cons.mpr ⟨hkind, hsplits.kinds⟩

theorem Splits.pipeline {pool : List Candidate} {classified : Classified}
    (hsplits : Splits placeholders pool classified) {candidate : Candidate}
    (hmarked : candidate.binding = some .pipeline) (hconverter : candidate.converter = none) :
    Splits placeholders (candidate :: pool)
      { classified with pipelines := candidate :: classified.pipelines } := by
  obtain ⟨taken, hperm, heach⟩ := hsplits.each
  refine ⟨⟨taken, (hperm.cons candidate).trans List.perm_middle.symm, heach⟩, hsplits.kinds, ?_,
    hsplits.bodies⟩
  exact List.forall_mem_cons.mpr ⟨⟨hmarked, hconverter⟩, hsplits.pipelines⟩

theorem Splits.body {pool : List Candidate} {classified : Classified}
    (hsplits : Splits placeholders pool classified) {candidate : Candidate}
    (hmarked : candidate.binding = none ∨ candidate.binding = some .body)
    (hconverter : candidate.converter = none) :
    Splits placeholders (candidate :: pool)
      { classified with bodies := candidate :: classified.bodies } := by
  obtain ⟨taken, hperm, heach⟩ := hsplits.each
  refine ⟨⟨taken, ?_, heach⟩, hsplits.kinds, hsplits.pipelines, ?_⟩
  · rw [← List.append_assoc] at hperm ⊢
    exact (hperm.cons candidate).trans List.perm_middle.symm
  · exact List.forall_mem_cons.mpr ⟨⟨hmarked, hconverter⟩, hsplits.bodies⟩

/-- Classification splits the pool by the markers, and rejects converters where they do not
apply. -/
theorem classify_ok {pool : List Candidate} {classified : Classified}
    (hconsistent : ∀ candidate ∈ pool, candidate.IsConsistent)
    (hpath : ∀ candidate ∈ pool, candidate.isMarkedPath = false)
    (hclassify : classify context pool = .ok classified) :
    Splits placeholders pool classified := by
  induction pool generalizing classified with
  | nil =>
      cases hclassify
      refine ⟨⟨[], List.Perm.refl _, .nil⟩, ?_, ?_, ?_⟩ <;>
        exact fun item hmem => absurd hmem List.not_mem_nil
  | cons candidate pool ih =>
      have hrest : ∀ {classified : Classified}, classify context pool = .ok classified →
          Splits placeholders pool classified := fun hclassify =>
        ih (fun other hmem => hconsistent other (List.mem_cons_of_mem candidate hmem))
          (fun other hmem => hpath other (List.mem_cons_of_mem candidate hmem)) hclassify
      have hmarked := hpath candidate List.mem_cons_self
      rw [Candidate.isMarkedPath] at hmarked
      rw [classify] at hclassify
      cases hbinding : candidate.binding with
      | none =>
          rw [hbinding] at hclassify
          obtain ⟨⟨⟩, hreject, hclassify⟩ := bind_eq_ok_iff.mp hclassify
          obtain ⟨others, hothers, hclassify⟩ := bind_eq_ok_iff.mp hclassify
          cases hclassify
          exact (hrest hothers).body (Or.inl hbinding) (rejectConverter_ok hreject)
      | some marker =>
          rw [hbinding] at hclassify hmarked
          cases marker with
          | path name => cases hmarked
          | convert converter =>
              have hisBinding := (hconsistent candidate List.mem_cons_self).isBinding hbinding
              cases hisBinding
          | provided =>
              obtain ⟨⟨⟩, hreject, hclassify⟩ := bind_eq_ok_iff.mp hclassify
              obtain ⟨others, hothers, hclassify⟩ := bind_eq_ok_iff.mp hclassify
              cases hclassify
              exact (hrest hothers).bind (.provided hbinding (rejectConverter_ok hreject))
                ⟨nofun, nofun, nofun⟩
          | pipeline =>
              obtain ⟨⟨⟩, hreject, hclassify⟩ := bind_eq_ok_iff.mp hclassify
              obtain ⟨others, hothers, hclassify⟩ := bind_eq_ok_iff.mp hclassify
              cases hclassify
              exact (hrest hothers).pipeline hbinding (rejectConverter_ok hreject)
          | body =>
              obtain ⟨⟨⟩, hreject, hclassify⟩ := bind_eq_ok_iff.mp hclassify
              obtain ⟨others, hothers, hclassify⟩ := bind_eq_ok_iff.mp hclassify
              cases hclassify
              exact (hrest hothers).body (Or.inr hbinding) (rejectConverter_ok hreject)
          | query name =>
              obtain ⟨⟨⟩, -, hclassify⟩ := bind_eq_ok_iff.mp hclassify
              obtain ⟨others, hothers, hclassify⟩ := bind_eq_ok_iff.mp hclassify
              cases hclassify
              exact (hrest hothers).bind (.query hbinding) ⟨nofun, nofun, nofun⟩
          | header name =>
              obtain ⟨⟨⟩, -, hclassify⟩ := bind_eq_ok_iff.mp hclassify
              obtain ⟨others, hothers, hclassify⟩ := bind_eq_ok_iff.mp hclassify
              cases hclassify
              exact (hrest hothers).bind (.header hbinding) ⟨nofun, nofun, nofun⟩

theorem bindPipeline_ok {candidate : Candidate} {entry : BoundParameter}
    (hbind : bindPipeline context candidate = .ok entry) :
    candidate.parameter.type.isContextHandle = true ∧ entry = candidate.bind .pipeline true := by
  rw [bindPipeline] at hbind
  split_ifs at hbind with htype
  cases hbind
  exact ⟨htype, rfl⟩

/-- The candidates for the pipeline are bound as pipelines. -/
theorem mapM_bindPipeline_ok {pipelines : List Candidate} {entries : List BoundParameter}
    (hmarked : ∀ candidate ∈ pipelines,
      candidate.binding = some .pipeline ∧ candidate.converter = none)
    (hbind : pipelines.mapM (bindPipeline context) = .ok entries) :
    List.Forall₂ (BoundAs placeholders) pipelines entries ∧
      ∀ entry ∈ entries, entry.kind = .pipeline := by
  induction pipelines generalizing entries with
  | nil =>
      rw [List.mapM_nil] at hbind
      cases hbind
      exact ⟨.nil, fun entry hmem => absurd hmem List.not_mem_nil⟩
  | cons candidate pipelines ih =>
      rw [List.mapM_cons] at hbind
      obtain ⟨entry, hentry, hbind⟩ := bind_eq_ok_iff.mp hbind
      obtain ⟨others, hothers, hbind⟩ := bind_eq_ok_iff.mp hbind
      cases hbind
      obtain ⟨htype, rfl⟩ := bindPipeline_ok hentry
      obtain ⟨hfirst, hrest⟩ := List.forall_mem_cons.mp hmarked
      obtain ⟨heach, hkinds⟩ := ih hrest hothers
      refine ⟨.cons (.pipeline hfirst.1 hfirst.2 htype) heach, ?_⟩
      exact List.forall_mem_cons.mpr ⟨rfl, hkinds⟩

theorem forall₂_bind_body {bodies : List Candidate}
    (hmarked : ∀ candidate ∈ bodies,
      (candidate.binding = none ∨ candidate.binding = some .body) ∧ candidate.converter = none) :
    List.Forall₂ (BoundAs placeholders) bodies
      (bodies.map fun candidate => candidate.bind .body true) := by
  rw [List.forall₂_map_right_iff, List.forall₂_same]
  intro candidate hmem
  exact .body (hmarked candidate hmem).1 (hmarked candidate hmem).2

/-- What is left after the placeholders is bound with at most one body and one pipeline, and
not on the path. -/
theorem assemble_ok {pool : List Candidate} {classified : Classified}
    {entries : List BoundParameter} (hsplits : Splits placeholders pool classified)
    (hassemble : assemble context classified = .ok entries) :
    ∃ taken, pool.Perm taken ∧ List.Forall₂ (BoundAs placeholders) taken entries ∧
      (∀ entry ∈ entries, entry.kind ≠ .path) ∧ kindCount .body entries ≤ 1 ∧
      kindCount .pipeline entries ≤ 1 := by
  rw [assemble] at hassemble
  split_ifs at hassemble with hpipelines hbodies
  obtain ⟨pipelines, hbind, hassemble⟩ := bind_eq_ok_iff.mp hassemble
  cases hassemble
  obtain ⟨taken, hperm, heach⟩ := hsplits.each
  obtain ⟨heachPipeline, hkinds⟩ := mapM_bindPipeline_ok hsplits.pipelines hbind
  have heachBody := @forall₂_bind_body placeholders _ hsplits.bodies
  have hbodyKinds : ∀ entry ∈ classified.bodies.map fun candidate => candidate.bind .body true,
      entry.kind = .body := by
    intro entry hmem
    obtain ⟨candidate, -, rfl⟩ := List.mem_map.mp hmem
    rfl
  refine ⟨taken ++ (classified.pipelines ++ classified.bodies), hperm, ?_, ?_, ?_, ?_⟩
  · rw [List.append_assoc]
    exact List.rel_append heach (List.rel_append heachPipeline heachBody)
  · intro entry hmem
    rcases List.mem_append.mp hmem with hmem | hmem
    · rcases List.mem_append.mp hmem with hmem | hmem
      · exact (hsplits.kinds entry hmem).1
      · rw [hkinds entry hmem]
        decide
    · rw [hbodyKinds entry hmem]
      decide
  · rw [kindCount_append, kindCount_append,
      kindCount_eq_zero fun entry hmem => (hsplits.kinds entry hmem).2.1,
      kindCount_eq_zero_of_forall hkinds (by decide)]
    have hlength := kindCount_le_length .body
      (classified.bodies.map fun candidate => candidate.bind .body true)
    rw [List.length_map] at hlength
    omega
  · rw [kindCount_append, kindCount_append,
      kindCount_eq_zero fun entry hmem => (hsplits.kinds entry hmem).2.2,
      kindCount_eq_zero_of_forall hbodyKinds (by decide)]
    have hlength := kindCount_le_length .pipeline pipelines
    have hlengths := heachPipeline.length_eq
    omega

/-- Binding succeeds only when each of its steps does. -/
theorem bindParameters_opens {signature : HandlerSignature} {entries : List BoundParameter}
    (hbind : bindParameters context signature = .ok entries) :
    signature.hasReceiver = false ∧ signature.hasGenerics = false ∧
      ∃ candidates bound left classified others,
        candidatesOf context signature.parameters = .ok candidates ∧
        firstRepeated? [] ((Template.ofText context.route).placeholders.map Prod.fst) = none ∧
        bindPlaceholders context (Template.ofText context.route).placeholders candidates =
          .ok (bound, left) ∧
        left.find? Candidate.isMarkedPath = none ∧ classify context left = .ok classified ∧
        assemble context classified = .ok others ∧ entries = byPosition (bound ++ others) := by
  rw [bindParameters] at hbind
  split_ifs at hbind with hreceiver hgenerics
  refine ⟨Bool.eq_false_iff.mpr hreceiver, Bool.eq_false_iff.mpr hgenerics, ?_⟩
  obtain ⟨candidates, hcandidates, hbind⟩ := bind_eq_ok_iff.mp hbind
  dsimp only at hbind
  split at hbind
  case h_1 => cases hbind
  case h_2 hrepeated =>
    obtain ⟨⟨bound, left⟩, hplaceholders, hbind⟩ := bind_eq_ok_iff.mp hbind
    dsimp only at hbind
    split at hbind
    case h_1 => cases hbind
    case h_2 hstray =>
      obtain ⟨classified, hclassify, hbind⟩ := bind_eq_ok_iff.mp hbind
      obtain ⟨others, hassemble, hbind⟩ := bind_eq_ok_iff.mp hbind
      cases hbind
      exact ⟨candidates, bound, left, classified, others, hcandidates, hrepeated, hplaceholders,
        hstray, hclassify, hassemble, rfl⟩

/-- Binding succeeds only by the rules: the candidates are bound in some order, and the entries
are sorted by position. -/
theorem bindParameters_sorts {signature : HandlerSignature} {entries : List BoundParameter}
    (hbind : bindParameters context signature = .ok entries) :
    ((Template.ofText context.route).placeholders.map Prod.fst).Nodup ∧
      ∃ (candidates taken : List Candidate) (unsorted : List BoundParameter),
        candidates.map Candidate.parameter = signature.parameters ∧
        (∀ candidate ∈ candidates, candidate.IsConsistent) ∧ candidates.Perm taken ∧
        Binds (Template.ofText context.route).placeholders taken unsorted ∧
        entries = byPosition unsorted := by
  obtain ⟨-, -, candidates, bound, left, classified, others, hcandidates, hrepeated, hplaceholders,
    hstray, hclassify, hassemble, rfl⟩ := bindParameters_opens hbind
  obtain ⟨hparameters, hconsistent⟩ := candidatesOf_ok hcandidates
  obtain ⟨taken, hpool, hbound, hnames, hkinds⟩ :=
    bindPlaceholders_ok (List.Subset.refl _) hplaceholders
  have hpath : ∀ candidate ∈ left, candidate.isMarkedPath = false := fun candidate hmem =>
    Bool.eq_false_iff.mpr (List.find?_eq_none.mp hstray candidate hmem)
  have hleft : ∀ candidate ∈ left, candidate.IsConsistent := fun candidate hmem =>
    hconsistent candidate (hpool.mem_iff.mpr (List.mem_append_right taken hmem))
  obtain ⟨rest, hrest, heach, hothers, hbody, hpipeline⟩ :=
    assemble_ok (classify_ok hleft hpath hclassify) hassemble
  exact ⟨(firstRepeated?_eq_none_iff.mp hrepeated).1, candidates, taken ++ rest, bound ++ others,
    hparameters, hconsistent, hpool.trans (hrest.append_left taken),
    Binds.append hbound hkinds hnames heach hothers hbody hpipeline, rfl⟩

/-- Binding succeeds only by the rules, and returns the entries in declaration order. -/
theorem bindParameters_ok {signature : HandlerSignature} {entries : List BoundParameter}
    (hpositions : signature.parameters.Pairwise fun left right => left.position < right.position)
    (hbind : bindParameters context signature = .ok entries) :
    ((Template.ofText context.route).placeholders.map Prod.fst).Nodup ∧
      ∃ candidates, candidates.map Candidate.parameter = signature.parameters ∧
        (∀ candidate ∈ candidates, candidate.IsConsistent) ∧
        Binds (Template.ofText context.route).placeholders candidates entries := by
  obtain ⟨hnodup, candidates, taken, unsorted, hparameters, hconsistent, hperm, hbinds, rfl⟩ :=
    bindParameters_sorts hbind
  rw [← hparameters, List.pairwise_map] at hpositions
  exact ⟨hnodup, candidates, hparameters, hconsistent, hbinds.byPosition hperm hpositions⟩

end Steps

end MarkedRoutes
