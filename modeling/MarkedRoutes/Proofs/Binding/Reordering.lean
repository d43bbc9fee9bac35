import Mathlib.Data.List.FinRange
import Mathlib.GroupTheory.Perm.Basic
import MarkedRoutes.Proofs.Binding.Completeness

/-!
# The order of parameters

A placeholder takes the first parameter of its name.  Where at most one parameter
answers each placeholder there is nothing to choose, and binding gives every
parameter the same entry in whatever order the parameters stand.  Where two
parameters compete for one placeholder, the one that stands first gets it, and the
order is felt unless binding fails in every order.
-/

namespace MarkedRoutes

open MarkedRoutes.Source

/-- The positions of the parameters are their places in the list. -/
def HandlerSignature.IsNumbered (signature : HandlerSignature) : Prop :=
  ∀ (index : ℕ) (hindex : index < signature.parameters.length),
    signature.parameters[index].position = index

def DeclaredParameter.placedAt (parameter : DeclaredParameter) (position : ℕ) : DeclaredParameter :=
  { parameter with position }

theorem DeclaredParameter.placedAt_self {parameter : DeclaredParameter} {position : ℕ}
    (hposition : parameter.position = position) : parameter.placedAt position = parameter := by
  rw [placedAt, ← hposition]

theorem DeclaredParameter.isPlain_placedAt {parameter : DeclaredParameter} {position : ℕ} :
    (parameter.placedAt position).IsPlain ↔ parameter.IsPlain :=
  ⟨fun hplain => ⟨hplain.isNamed, hplain.oneBinding, hplain.oneConverter⟩,
    fun hplain => ⟨hplain.isNamed, hplain.oneBinding, hplain.oneConverter⟩⟩

def BoundParameter.placedAt (entry : BoundParameter) (position : ℕ) : BoundParameter :=
  { entry with position }

/-- The signature with its parameters in another order, numbered anew: the parameter at an index
is the one that `order` sends the index to. -/
def HandlerSignature.reorder (signature : HandlerSignature)
    (order : Equiv.Perm (Fin signature.parameters.length)) : HandlerSignature :=
  { signature with
    parameters := List.ofFn fun index => signature.parameters[order index].placedAt index }

/-- Binding treats a signature and its reordering alike: it succeeds on both or on none, and each
parameter has the same entry in both, except for its position. -/
structure AgreesOn (context : RouteContext) (signature : HandlerSignature)
    (order : Equiv.Perm (Fin signature.parameters.length)) : Prop where
  isOk_eq : (bindParameters context (signature.reorder order)).isOk =
    (bindParameters context signature).isOk
  entry_eq : ∀ entries reordered, bindParameters context signature = .ok entries →
    bindParameters context (signature.reorder order) = .ok reordered →
    ∀ index : Fin signature.parameters.length, ∃ entry,
      entries[(order index).val]? = some entry ∧
        reordered[index.val]? = some (entry.placedAt index)

/-- No two parameters answer the same placeholder of the route. -/
def IsUncontested (route : String) (parameters : List DeclaredParameter) : Prop :=
  ∀ name ∈ placeholderNames route, parameters.countP (DeclaredParameter.answers name) ≤ 1

instance (route : String) (parameters : List DeclaredParameter) :
    Decidable (IsUncontested route parameters) :=
  inferInstanceAs (Decidable (∀ name ∈ placeholderNames route, _))

/-- The parameters of a loaded signature are numbered. -/
theorem isNumbered_ofSignature [SourceParser] (signature : Signature) :
    (HandlerSignature.ofSignature signature).IsNumbered := fun _ hindex =>
  position_ofSignature (List.getElem?_eq_getElem hindex)

/-! ### Parameters without their places -/

/-- The same parameters in some order, at whatever positions. -/
def Reordered (first second : List DeclaredParameter) : Prop :=
  (first.map fun parameter => parameter.placedAt 0).Perm
    (second.map fun parameter => parameter.placedAt 0)

section Orders

variable {context : RouteContext} {route : String} {signature other : HandlerSignature}
  {first second : List DeclaredParameter}

theorem Reordered.forall_mem {property : DeclaredParameter → Prop}
    (hsame : Reordered first second)
    (hplace : ∀ parameter, property (parameter.placedAt 0) ↔ property parameter) :
    (∀ parameter ∈ first, property parameter) ↔ ∀ parameter ∈ second, property parameter := by
  have hmapped : ∀ parameters : List DeclaredParameter,
      (∀ parameter ∈ parameters.map fun parameter => parameter.placedAt 0, property parameter) ↔
        ∀ parameter ∈ parameters, property parameter := by
    intro parameters
    rw [List.forall_mem_map]
    exact forall₂_congr fun parameter _ => hplace parameter
  rw [← hmapped first, ← hmapped second]
  exact forall_congr' fun parameter => imp_congr_left (List.Perm.mem_iff hsame)

theorem Reordered.countP_eq {test : DeclaredParameter → Bool} (hsame : Reordered first second)
    (hplace : ∀ parameter, test (parameter.placedAt 0) = test parameter) :
    first.countP test = second.countP test := by
  have hcount := List.Perm.countP_eq test hsame
  rwa [List.countP_map, List.countP_map, Function.comp_def, funext hplace] at hcount

theorem reordered_reorder (order : Equiv.Perm (Fin signature.parameters.length)) :
    Reordered (signature.reorder order).parameters signature.parameters := by
  have hperm := order.ofFn_comp_perm fun index => signature.parameters[index].placedAt 0
  have hofFn : List.ofFn (fun index : Fin signature.parameters.length =>
      signature.parameters[index].placedAt 0) =
        signature.parameters.map fun parameter => parameter.placedAt 0 := by
    apply List.ext_getElem
    · simp
    · simp
  rw [Reordered, ← hofFn, HandlerSignature.reorder, List.map_ofFn]
  exact hperm

theorem getElem?_reorder {order : Equiv.Perm (Fin signature.parameters.length)}
    {index source : Fin signature.parameters.length} (hsource : order index = source) :
    (signature.reorder order).parameters[index.val]? =
      some (signature.parameters[source].placedAt index) := by
  subst hsource
  rw [HandlerSignature.reorder, List.getElem?_ofFn, dif_pos index.isLt]

theorem isNumbered_reorder (order : Equiv.Perm (Fin signature.parameters.length)) :
    (signature.reorder order).IsNumbered := by
  intro index hindex
  simp [HandlerSignature.reorder, DeclaredParameter.placedAt]

/-- Reordering a numbered signature by the order that it has changes nothing. -/
theorem reorder_one (hnumbered : signature.IsNumbered) : signature.reorder 1 = signature := by
  have hparameters : (List.ofFn fun index : Fin signature.parameters.length =>
      signature.parameters[(1 : Equiv.Perm (Fin signature.parameters.length)) index].placedAt
        index) = signature.parameters := by
    apply List.ext_getElem
    · rw [List.length_ofFn]
    · intro index hindex hindex'
      rw [List.getElem_ofFn]
      exact DeclaredParameter.placedAt_self (hnumbered index hindex')
  rw [HandlerSignature.reorder, hparameters]

/-- Whether a signature fits a route does not depend on the order of its parameters. -/
theorem FitsRoute.reordered (hfits : FitsRoute route signature)
    (hsame : Reordered signature.parameters other.parameters)
    (hreceiver : other.hasReceiver = signature.hasReceiver)
    (hgenerics : other.hasGenerics = signature.hasGenerics) : FitsRoute route other where
  noReceiver := hreceiver.trans hfits.noReceiver
  noGenerics := hgenerics.trans hfits.noGenerics
  plain := (hsame.forall_mem fun _ => DeclaredParameter.isPlain_placedAt).mp hfits.plain
  distinct := hfits.distinct
  answered := fun name hname =>
    (hsame.countP_eq fun _ => rfl).symm.trans (hfits.answered name hname)
  declared := (hsame.forall_mem fun _ => Iff.rfl).mp hfits.declared
  optional := (hsame.forall_mem fun _ => Iff.rfl).mp hfits.optional
  converted := (hsame.forall_mem fun _ => Iff.rfl).mp hfits.converted
  pipeline := (hsame.countP_eq fun _ => rfl).symm.trans_le hfits.pipeline
  handle := (hsame.forall_mem fun _ => Iff.rfl).mp hfits.handle
  body := (hsame.countP_eq fun _ => rfl).symm.trans_le hfits.body

/-! ### Success without competition -/

/-- Consistent candidates are those of their parameters. -/
theorem eq_map_candidate {candidates : List Candidate} {parameters : List DeclaredParameter}
    (hparameters : candidates.map Candidate.parameter = parameters)
    (hconsistent : ∀ candidate ∈ candidates, candidate.IsConsistent) :
    candidates = parameters.map DeclaredParameter.candidate := by
  rw [← hparameters, List.map_map]
  conv_lhs => rw [← List.map_id candidates]
  apply List.map_congr_left
  intro candidate hmem
  exact (hconsistent candidate hmem).eq_candidate

/-- Binding succeeds only on plain parameters, and binds each by a rule. -/
theorem bindParameters_binds {entries : List BoundParameter}
    (hbind : bindParameters context signature = .ok entries) :
    (placeholderNames context.route).Nodup ∧
      (∀ parameter ∈ signature.parameters, parameter.IsPlain) ∧
      ∃ sorted, entries.Perm sorted ∧ Binds (Template.ofText context.route).placeholders
        (signature.parameters.map DeclaredParameter.candidate) sorted := by
  obtain ⟨hnodup, candidates, taken, unsorted, hparameters, hconsistent, hperm, hbinds, rfl⟩ :=
    bindParameters_sorts hbind
  obtain ⟨sorted, hsorted, hbinds⟩ := hbinds.perm hperm
  refine ⟨hnodup, ?_, sorted, (List.mergeSort_perm _ _).trans hsorted,
    eq_map_candidate hparameters hconsistent ▸ hbinds⟩
  rw [← hparameters, List.forall_mem_map]
  exact fun candidate hmem => (hconsistent candidate hmem).isPlain

section Rules

variable {parameter : DeclaredParameter} {entry : BoundParameter}
  {placeholders : List (String × Bool)}

/-- An entry takes only a placeholder that its parameter answers. -/
theorem BoundAs.answers_of_takes {name : String}
    (hbound : BoundAs placeholders parameter.candidate entry)
    (htakes : entry.takes name = true) : parameter.answers name = true := by
  simp only [BoundParameter.takes, Bool.and_eq_true, decide_eq_true_eq] at htakes
  obtain ⟨hkind, hname⟩ := htakes
  cases hbound with
  | path hplaceholder hfits htype =>
      rw [DeclaredParameter.fitsPath_candidate] at hfits
      exact Bool.and_eq_true_iff.mpr ⟨hfits, decide_eq_true hname⟩
  | query | header | provided | pipeline | body => cases hkind

/-- Off the path, the kind of an entry is the one that the parameter's markers say. -/
theorem BoundAs.kind_eq_kindOffPath (hbound : BoundAs placeholders parameter.candidate entry)
    (hkind : entry.kind ≠ .path) : entry.kind = parameter.kindOffPath := by
  rw [DeclaredParameter.kindOffPath]
  cases hbound with
  | path => exact absurd rfl hkind
  | query hmarked | header hmarked | provided hmarked _ | pipeline hmarked _ _ =>
      rw [show parameter.binding? = _ from hmarked]
      rfl
  | body hmarked hconverter =>
      rcases hmarked with hmarked | hmarked <;>
        rw [show parameter.binding? = _ from hmarked] <;> rfl

section Counting

variable {α β : Type} {R : α → β → Prop} {items : List α} {values : List β} {test : α → Bool}
  {check : β → Bool}

/-- Related lists, where what passes the check on one side passes the test on the other, have at
least as many items that pass the test. -/
theorem countP_le_of_forall₂ (hrelated : List.Forall₂ R items values)
    (himp : ∀ item value, R item value → check value = true → test item = true) :
    values.countP check ≤ items.countP test := by
  induction hrelated with
  | nil => exact Nat.le_refl _
  | @cons item value items values hfirst _ ih =>
      have hhead := himp item value hfirst
      rw [List.countP_cons, List.countP_cons]
      split_ifs with hcheck htest htest
      · omega
      · exact absurd (hhead hcheck) htest
      · omega
      · omega

/-- They have more of them exactly when some item passes the test and its value fails the
check. -/
theorem countP_lt_iff_of_forall₂ (hrelated : List.Forall₂ R items values)
    (himp : ∀ item value, R item value → check value = true → test item = true) :
    values.countP check < items.countP test ↔
      ∃ (index : ℕ) (item : α) (value : β), items[index]? = some item ∧
        values[index]? = some value ∧ test item = true ∧ check value = false := by
  induction hrelated with
  | nil => simp
  | @cons item value items values hfirst hrest ih =>
      have hhead := himp item value hfirst
      have hle := countP_le_of_forall₂ hrest himp
      rw [List.countP_cons, List.countP_cons]
      constructor
      · intro hlt
        by_cases hhere : test item = true ∧ check value = false
        · exact ⟨0, item, value, rfl, rfl, hhere⟩
        · have hmore : values.countP check < items.countP test := by
            rw [not_and, Bool.not_eq_false] at hhere
            split_ifs at hlt with hcheck htest htest
            · omega
            · omega
            · exact absurd (hhere htest) hcheck
            · omega
          obtain ⟨index, item, value, hitem, hvalue, htests⟩ := ih.mp hmore
          exact ⟨index + 1, item, value, hitem, hvalue, htests⟩
      · rintro ⟨index, other, otherValue, hitem, hvalue, htest, hcheck⟩
        cases index with
        | zero =>
            cases hitem
            cases hvalue
            rw [if_pos htest, if_neg (Bool.eq_false_iff.mp hcheck)]
            omega
        | succ index =>
            have hmore := ih.mpr ⟨index, other, otherValue, hitem, hvalue, htest, hcheck⟩
            split_ifs with hcheck htest htest
            · omega
            · exact absurd (hhead hcheck) htest
            · omega
            · omega

end Counting

theorem BoundParameter.takes_eq_false {name : String} (hkind : entry.kind ≠ .path) :
    entry.takes name = false := by
  simp [takes, hkind]

theorem BoundAs.isOnPath (hbound : BoundAs placeholders parameter.candidate entry)
    (hkind : entry.kind = .path) : parameter.isOnPath (placeholders.map Prod.fst) = true := by
  obtain ⟨isOptional, hplaceholder, -⟩ := hbound.path_spec hkind
  apply DeclaredParameter.isOnPath_of_answers (List.mem_map_of_mem hplaceholder)
  apply hbound.answers_of_takes
  simp [BoundParameter.takes, hkind]

/-- A parameter that is marked `path` has the name of a placeholder. -/
theorem BoundAs.boundName_mem (hbound : BoundAs placeholders parameter.candidate entry)
    (hmarked : parameter.isMarkedPath = true) :
    parameter.boundName ∈ placeholders.map Prod.fst := by
  rw [DeclaredParameter.isMarkedPath] at hmarked
  split at hmarked
  case h_1 name hbinding =>
    obtain ⟨isOptional, hplaceholder, -⟩ :=
      hbound.path_spec (hbound.kind_eq_of_marked hbinding rfl)
    rw [hbound.eq_bind] at hplaceholder
    exact List.mem_map_of_mem hplaceholder
  case h_2 => cases hmarked

/-- The type of a parameter that takes a placeholder is optional exactly when the placeholder
is. -/
theorem BoundAs.optional_iff (hbound : BoundAs placeholders parameter.candidate entry)
    (hkind : entry.kind = .path) (hnodup : (placeholders.map Prod.fst).Nodup)
    {placeholder : String × Bool} (hplaceholder : placeholder ∈ placeholders)
    (hanswers : parameter.answers placeholder.1 = true) :
    parameter.type.optionValue?.isSome = true ↔ placeholder.2 = true := by
  have hname : parameter.boundName = placeholder.1 :=
    of_decide_eq_true (Bool.and_eq_true_iff.mp hanswers).2
  cases hbound with
  | @path isOptional htaken hfits htype =>
      have hsame : (parameter.boundName, isOptional) = placeholder :=
        List.inj_on_of_nodup_map hnodup htaken hplaceholder hname
      have hoptional : parameter.valueType.isOptional = isOptional := htype
      rw [← hsame, ← hoptional, DeclaredParameter.valueType, ValueType.isOptional_ofType]
  | query | header | provided | pipeline | body => cases hkind

/-- Every placeholder is taken once. -/
theorem Binds.countP_takes {candidates : List Candidate} {entries : List BoundParameter}
    (hbinds : Binds placeholders candidates entries) (hnodup : (placeholders.map Prod.fst).Nodup)
    {name : String} (hname : name ∈ placeholders.map Prod.fst) :
    entries.countP (BoundParameter.takes name) = 1 := by
  have hcount : (pathNames entries).count name = 1 := by
    rw [hbinds.names.count_eq]
    exact List.count_eq_one_of_mem hnodup hname
  rw [pathNames, List.count, List.countP_map, List.countP_filter] at hcount
  rw [← hcount]
  apply List.countP_congr
  intro entry _
  simp [BoundParameter.takes, and_comm]

/-- Without competition, the kind of each entry is the one that the rule of its parameter gives. -/
theorem Binds.kind_eq {parameters : List DeclaredParameter} {entries : List BoundParameter}
    (hbinds : Binds placeholders (parameters.map DeclaredParameter.candidate) entries)
    (hnodup : (placeholders.map Prod.fst).Nodup)
    (huncontested : ∀ name ∈ placeholders.map Prod.fst,
      parameters.countP (DeclaredParameter.answers name) ≤ 1) :
    List.Forall₂ (fun parameter entry => BoundAs placeholders parameter.candidate entry ∧
      entry.kind = parameter.kindOn (placeholders.map Prod.fst)) parameters entries := by
  have heach := List.forall₂_map_left_iff.mp hbinds.each
  apply List.forall₂_iff_get.mpr
  refine ⟨heach.length_eq, fun index hparameter hentry => ?_⟩
  have hbound := heach.get hparameter hentry
  refine ⟨hbound, ?_⟩
  by_cases hkind : (entries.get ⟨index, hentry⟩).kind = .path
  · rw [hkind, DeclaredParameter.kindOn_of_isOnPath (hbound.isOnPath hkind)]
  · rw [hbound.kind_eq_kindOffPath hkind, DeclaredParameter.kindOn_of_not_isOnPath]
    by_contra honPath
    rw [Bool.not_eq_false, DeclaredParameter.isOnPath, Bool.and_eq_true, List.contains_iff_mem]
      at honPath
    obtain ⟨hfits, hname⟩ := honPath
    have hmore : entries.countP
          (BoundParameter.takes (parameters.get ⟨index, hparameter⟩).boundName) <
        parameters.countP
          (DeclaredParameter.answers (parameters.get ⟨index, hparameter⟩).boundName) := by
      apply (countP_lt_iff_of_forall₂ heach fun _ _ hbound => hbound.answers_of_takes).mpr
      exact ⟨index, _, _, List.getElem?_eq_getElem hparameter, List.getElem?_eq_getElem hentry,
        Bool.and_eq_true_iff.mpr ⟨hfits, decide_eq_true rfl⟩,
        BoundParameter.takes_eq_false hkind⟩
    rw [hbinds.countP_takes hnodup hname] at hmore
    exact absurd (huncontested _ hname) (Nat.not_le.mpr hmore)

/-- A signature on which binding succeeds fits its route, unless parameters compete. -/
theorem fitsRoute_of_bindParameters {entries : List BoundParameter}
    (hbind : bindParameters context signature = .ok entries)
    (huncontested : IsUncontested context.route signature.parameters) :
    FitsRoute context.route signature := by
  obtain ⟨hreceiver, hgenerics, -⟩ := bindParameters_opens hbind
  obtain ⟨hnodup, hplain, sorted, -, hbinds⟩ := bindParameters_binds hbind
  have heach := hbinds.kind_eq hnodup huncontested
  have hentry : ∀ parameter ∈ signature.parameters, ∃ entry,
      BoundAs (Template.ofText context.route).placeholders parameter.candidate entry ∧
        entry.kind = parameter.kindOn (placeholderNames context.route) := by
    intro parameter hmem
    obtain ⟨index, hindex, rfl⟩ := List.getElem_of_mem hmem
    exact ⟨_, heach.get hindex (heach.length_eq ▸ hindex)⟩
  refine ⟨hreceiver, hgenerics, hplain, hnodup, ?_, ?_, ?_, ?_, ?_, ?_, ?_⟩
  · intro name hname
    apply Nat.le_antisymm (huncontested name hname)
    rw [← hbinds.countP_takes hnodup hname]
    exact countP_le_of_forall₂ heach fun _ _ hbound => hbound.1.answers_of_takes
  · intro parameter hmem hmarked
    obtain ⟨entry, hbound, -⟩ := hentry parameter hmem
    exact hbound.boundName_mem hmarked
  · intro parameter hmem placeholder hplaceholder hanswers
    obtain ⟨entry, hbound, hkind⟩ := hentry parameter hmem
    have honPath : parameter.isOnPath (placeholderNames context.route) = true :=
      DeclaredParameter.isOnPath_of_answers (List.mem_map_of_mem hplaceholder) hanswers
    rw [DeclaredParameter.kindOn_of_isOnPath honPath] at hkind
    exact hbound.optional_iff hkind hnodup hplaceholder hanswers
  · intro parameter hmem hconverter
    obtain ⟨entry, hbound, hkind⟩ := hentry parameter hmem
    rw [← hkind]
    cases hbound with
    | path | query | header => rfl
    | provided _ hnone | pipeline _ hnone _ | body _ hnone => exact absurd hnone hconverter
  · refine Nat.le_trans ?_ hbinds.pipeline
    apply countP_le_of_forall₂ heach.flip
    intro entry parameter hbound hmarked
    exact decide_eq_true (hbound.1.kind_eq_of_marked (of_decide_eq_true hmarked) rfl)
  · intro parameter hmem hbinding
    obtain ⟨entry, hbound, -⟩ := hentry parameter hmem
    have hkind := hbound.kind_eq_of_marked hbinding rfl
    cases hbound with
    | pipeline hmarked hconverter htype => exact htype
    | path | query | header | provided | body => cases hkind
  · refine Nat.le_trans ?_ hbinds.body
    apply countP_le_of_forall₂ heach.flip
    intro entry parameter hbound hkind
    exact decide_eq_true (hbound.2.trans (of_decide_eq_true hkind))

end Rules

/-! ### The first parameter -/

/-- A placeholder takes the first parameter that answers it. -/
theorem bindPlaceholders_head {placeholders : List (String × Bool)} {candidate : Candidate}
    {candidates left : List Candidate} {bound : List BoundParameter}
    (hfits : candidate.fitsPath = true) (hname : candidate.boundName ∈ placeholders.map Prod.fst)
    (hbind : bindPlaceholders context placeholders (candidate :: candidates) = .ok (bound, left)) :
    ∃ isRequired, candidate.bind .path isRequired ∈ bound := by
  induction placeholders generalizing candidates bound with
  | nil => cases hname
  | cons placeholder placeholders ih =>
      obtain ⟨name, isOptional⟩ := placeholder
      rw [bindPlaceholders, takeFirst?] at hbind
      by_cases hanswers : candidate.boundName = name
      · rw [if_pos (by simp [hfits, hanswers])] at hbind
        obtain ⟨-, -, hbind⟩ := bind_eq_ok_iff.mp hbind
        obtain ⟨⟨others, pool⟩, -, hbind⟩ := bind_eq_ok_iff.mp hbind
        cases hbind
        exact ⟨!isOptional, List.mem_cons_self⟩
      · rw [if_neg (by simp [hanswers])] at hbind
        cases htake : takeFirst? (fun candidate : Candidate =>
            candidate.fitsPath && candidate.boundName = name) candidates with
        | none =>
            rw [htake] at hbind
            cases hbind
        | some taken =>
            rw [htake] at hbind
            obtain ⟨-, -, hbind⟩ := bind_eq_ok_iff.mp hbind
            obtain ⟨⟨others, pool⟩, hrest, hbind⟩ := bind_eq_ok_iff.mp hbind
            cases hbind
            have hlater : candidate.boundName ∈ placeholders.map Prod.fst :=
              (List.mem_cons.mp hname).resolve_left hanswers
            obtain ⟨isRequired, hmem⟩ := ih hlater hrest
            exact ⟨isRequired, List.mem_cons_of_mem _ hmem⟩

theorem HandlerSignature.IsNumbered.increasing
    (hnumbered : signature.IsNumbered) :
    signature.parameters.Pairwise fun left right => left.position < right.position := by
  rw [List.pairwise_iff_getElem]
  intro first second hfirst hsecond hlt
  rw [hnumbered first hfirst, hnumbered second hsecond]
  exact hlt

/-- The entries of a numbered signature are numbered too. -/
theorem positions_bindParameters {entries : List BoundParameter}
    (hnumbered : signature.IsNumbered) (hbind : bindParameters context signature = .ok entries)
    {index : ℕ} {entry : BoundParameter} (hentry : entries[index]? = some entry) :
    entry.position = index := by
  obtain ⟨-, candidates, hparameters, -, hbinds⟩ := bindParameters_ok hnumbered.increasing hbind
  obtain ⟨candidate, hcandidate, hbound⟩ := getElem?_of_forall₂ hbinds.each hentry
  have hparameter : signature.parameters[index]? = some candidate.parameter := by
    rw [← hparameters, List.getElem?_map, hcandidate]
    rfl
  obtain ⟨hindex, hget⟩ := List.getElem?_eq_some_iff.mp hparameter
  calc entry.position = candidate.parameter.position := by rw [hbound.eq_bind]; rfl
    _ = index := hget ▸ hnumbered index hindex

/-- The first parameter of a numbered signature takes the placeholder that it answers. -/
theorem takes_of_answers_first {entries : List BoundParameter} {parameter : DeclaredParameter}
    {name : String} (hnumbered : signature.IsNumbered)
    (hbind : bindParameters context signature = .ok entries)
    (hfirst : signature.parameters[0]? = some parameter)
    (hname : name ∈ placeholderNames context.route) (hanswers : parameter.answers name = true) :
    ∃ entry, entries[0]? = some entry ∧ entry.takes name = true := by
  obtain ⟨-, -, candidates, bound, left, -, others, hcandidates, -, hplaceholders, -, -, -,
    hentries⟩ := bindParameters_opens hbind
  obtain ⟨hparameters, hconsistent⟩ := candidatesOf_ok hcandidates
  obtain ⟨rest, hrest⟩ := List.head?_eq_some_iff.mp (List.head?_eq_getElem?.trans hfirst)
  rw [eq_map_candidate hparameters hconsistent, hrest, List.map_cons] at hplaceholders
  simp only [DeclaredParameter.answers, Bool.and_eq_true, decide_eq_true_eq] at hanswers
  obtain ⟨hfits, rfl⟩ := hanswers
  obtain ⟨isRequired, hmem⟩ := bindPlaceholders_head
    ((DeclaredParameter.fitsPath_candidate parameter).trans hfits) hname hplaceholders
  have hentry : parameter.candidate.bind .path isRequired ∈ entries := by
    rw [hentries, byPosition, List.mem_mergeSort]
    exact List.mem_append_left others hmem
  obtain ⟨index, hindex⟩ := List.mem_iff_getElem?.mp hentry
  have hposition : parameter.position = index := positions_bindParameters hnumbered hbind hindex
  obtain ⟨hlt, hget⟩ := List.getElem?_eq_some_iff.mp hfirst
  have hzero : parameter.position = 0 := hget ▸ hnumbered 0 hlt
  rw [← hposition, hzero] at hindex
  exact ⟨_, hindex, Bool.and_eq_true_iff.mpr ⟨decide_eq_true rfl, decide_eq_true rfl⟩⟩

/-- Where two parameters compete, one of them stands where it does not get the placeholder, and
gets it when it is exchanged with the first. -/
theorem exists_not_agreesOn {entries : List BoundParameter} (hnumbered : signature.IsNumbered)
    (hbind : bindParameters context signature = .ok entries)
    (hcontested : ¬ IsUncontested context.route signature.parameters) :
    ∃ order, ¬ AgreesOn context signature order := by
  simp only [IsUncontested, not_forall, Nat.not_le] at hcontested
  obtain ⟨name, hname, hmore⟩ := hcontested
  obtain ⟨hnodup, candidates, hparameters, hconsistent, hbinds⟩ :=
    bindParameters_ok hnumbered.increasing hbind
  rw [eq_map_candidate hparameters hconsistent] at hbinds
  rw [← hbinds.countP_takes hnodup hname] at hmore
  obtain ⟨index, parameter, entry, hparameter, hentry, hanswers, huntaken⟩ :=
    (countP_lt_iff_of_forall₂ (List.forall₂_map_left_iff.mp hbinds.each)
      fun _ _ hbound => hbound.answers_of_takes).mp hmore
  obtain ⟨hindex, rfl⟩ := List.getElem?_eq_some_iff.mp hparameter
  have hpositive : 0 < signature.parameters.length := Nat.zero_lt_of_lt hindex
  refine ⟨Equiv.swap ⟨0, hpositive⟩ ⟨index, hindex⟩, fun hagrees => ?_⟩
  have hsucceeds := hagrees.isOk_eq.trans (isOk_eq_true_iff.mpr ⟨entries, hbind⟩)
  obtain ⟨reordered, hreordered⟩ := isOk_eq_true_iff.mp hsucceeds
  obtain ⟨same, hsame, hplaced⟩ :=
    hagrees.entry_eq entries reordered hbind hreordered ⟨0, hpositive⟩
  have hswap := Equiv.swap_apply_left (⟨0, hpositive⟩ : Fin _) ⟨index, hindex⟩
  rw [hswap] at hsame
  cases hentry.symm.trans hsame
  obtain ⟨first, hfirst, htakes⟩ := takes_of_answers_first (isNumbered_reorder _) hreordered
    (getElem?_reorder hswap) hname hanswers
  cases hplaced.symm.trans hfirst
  exact absurd htakes (Bool.eq_false_iff.mp huntaken)

/-! ### Order independence -/

/-- Without competition, binding succeeds exactly on the signatures that fit the route. -/
theorem isOk_bindParameters_iff (huncontested : IsUncontested context.route signature.parameters) :
    (bindParameters context signature).isOk = true ↔ FitsRoute context.route signature := by
  rw [isOk_eq_true_iff]
  constructor
  · rintro ⟨entries, hbind⟩
    exact fitsRoute_of_bindParameters hbind huncontested
  · intro hfits
    obtain ⟨unsorted, hbind, -⟩ := bindParameters_eq hfits
    exact ⟨_, hbind⟩

theorem IsUncontested.reorder (huncontested : IsUncontested route signature.parameters)
    (order : Equiv.Perm (Fin signature.parameters.length)) :
    IsUncontested route (signature.reorder order).parameters := by
  intro name hname
  rw [(reordered_reorder order).countP_eq fun _ => rfl]
  exact huncontested name hname

theorem fitsRoute_reorder_iff (order : Equiv.Perm (Fin signature.parameters.length)) :
    FitsRoute route (signature.reorder order) ↔ FitsRoute route signature :=
  ⟨fun hfits => hfits.reordered (reordered_reorder order) rfl rfl,
    fun hfits => hfits.reordered (reordered_reorder order).symm rfl rfl⟩

theorem agreesOn_of_isUncontested (hnumbered : signature.IsNumbered)
    (huncontested : IsUncontested context.route signature.parameters)
    (order : Equiv.Perm (Fin signature.parameters.length)) : AgreesOn context signature order where
  isOk_eq := by
    rw [Bool.eq_iff_iff, isOk_bindParameters_iff (huncontested.reorder order),
      isOk_bindParameters_iff huncontested, fitsRoute_reorder_iff]
  entry_eq := by
    intro entries reordered hbind hreordered index
    have hfits := fitsRoute_of_bindParameters hbind huncontested
    have hentries := bindParameters_inOrder hfits hnumbered.increasing
    have hothers := bindParameters_inOrder ((fitsRoute_reorder_iff order).mpr hfits)
      (isNumbered_reorder order).increasing
    cases hbind.symm.trans hentries
    cases hreordered.symm.trans hothers
    refine ⟨signature.parameters[order index].entryOn (placeholderNames context.route), ?_, ?_⟩
    · simp
    · rw [List.getElem?_map, getElem?_reorder rfl]
      rfl

/-- Binding does not depend on the order of parameters exactly when no two of them compete for a
placeholder or no order can be bound. -/
theorem forall_agreesOn_iff (hnumbered : signature.IsNumbered) :
    (∀ order, AgreesOn context signature order) ↔
      IsUncontested context.route signature.parameters ∨
        ∀ order, (bindParameters context (signature.reorder order)).isOk = false := by
  constructor
  · intro hagrees
    by_contra hcontested
    rw [not_or, not_forall] at hcontested
    obtain ⟨hcontested, order, hsome⟩ := hcontested
    rw [Bool.not_eq_false, (hagrees order).isOk_eq, isOk_eq_true_iff] at hsome
    obtain ⟨entries, hbind⟩ := hsome
    obtain ⟨other, hdiffers⟩ := exists_not_agreesOn hnumbered hbind hcontested
    exact hdiffers (hagrees other)
  · rintro (huncontested | hfails) order
    · exact agreesOn_of_isUncontested hnumbered huncontested order
    · have hfail := hfails 1
      rw [reorder_one hnumbered] at hfail
      refine ⟨(hfails order).trans hfail.symm, ?_⟩
      intro entries reordered hbind
      rw [hbind] at hfail
      cases hfail

end Orders

section Standard

attribute [local instance] SourceParser.standard

/-- With its first two parameters exchanged, `edit` is bound as before. -/
theorem agreesOn_edit :
    (HandlerSignature.ofSignature editSignature).IsNumbered ∧
      IsUncontested showContext.route (HandlerSignature.ofSignature editSignature).parameters ∧
      ∀ order, AgreesOn showContext (.ofSignature editSignature) order := by
  have hnumbered := isNumbered_ofSignature editSignature
  have huncontested : IsUncontested showContext.route
      (HandlerSignature.ofSignature editSignature).parameters := by
    decide
  exact ⟨hnumbered, huncontested, (forall_agreesOn_iff hnumbered).mpr (Or.inl huncontested)⟩

end Standard

/-- The signature of `fn show(#[path("id")] key: u32, id: Note)`, where both parameters answer
`id`. -/
def contestedSignature : HandlerSignature where
  parameters :=
    [⟨some "key", namedType "u32", 0, [.path (some "id")]⟩, ⟨some "id", namedType "Note", 1, []⟩]
  output := none
  isAsync := false
  hasReceiver := false
  hasGenerics := false

def exchanged : Equiv.Perm (Fin contestedSignature.parameters.length) :=
  Equiv.swap ⟨0, by decide⟩ ⟨1, by decide⟩

/-- As it stands, the signature is bound; with its parameters exchanged, it is not. -/
theorem bindParameters_contested :
    (bindParameters showContext contestedSignature).isOk = true ∧
      bindParameters showContext (contestedSignature.reorder exchanged) =
        .error (.pathParameterMismatch showContext.location showContext.route
          (.stray "key" "id")) ∧
      ¬ AgreesOn showContext contestedSignature exchanged := by
  have hfirst : (bindParameters showContext contestedSignature).isOk = true := rfl
  have hsecond : bindParameters showContext (contestedSignature.reorder exchanged) =
      .error (.pathParameterMismatch showContext.location showContext.route
        (.stray "key" "id")) := by
    rfl
  refine ⟨hfirst, hsecond, fun hagrees => ?_⟩
  have hsame := hagrees.isOk_eq
  rw [hfirst, hsecond] at hsame
  cases hsame

end MarkedRoutes
