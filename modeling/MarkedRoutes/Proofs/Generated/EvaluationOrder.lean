import Mathlib.Data.List.Perm.Basic
import MarkedRoutes.Generated.Dispatch

/-!
# The order of evaluation

A dispatch function binds its parameters class by class: first what providers
supply, then what texts hold, then the pipeline handle and at last the body, and
in declaration order inside each class.  No parameter is left out or bound
twice.
-/

namespace MarkedRoutes

/-- The class of a kind, by which parameters are evaluated. -/
def BindingKind.rank : BindingKind → ℕ
  | provided => 0
  | path => 1
  | query => 1
  | header => 1
  | pipeline => 2
  | body => 3

/-- Whether one parameter is evaluated before another: it belongs to an earlier class, or it
is declared earlier in the same class. -/
def EvaluatedBefore (first second : ResolvedParameter) : Prop :=
  first.kind.rank < second.kind.rank ∨
    first.kind.rank = second.kind.rank ∧ first.position < second.position

/-- The order in which the parameters of a route are evaluated. -/
structure IsEvaluationOrder (parameters order : List ResolvedParameter) : Prop where
  perm : order.Perm parameters
  sorted : order.Pairwise EvaluatedBefore

/-- The parameters of one class, in declaration order. -/
def ofRank (rank : ℕ) (parameters : List ResolvedParameter) : List ResolvedParameter :=
  parameters.filter fun parameter => parameter.kind.rank = rank

/-- The parameters class by class. -/
def evaluationOrder (parameters : List ResolvedParameter) : List ResolvedParameter :=
  ofRank 0 parameters ++ (ofRank 1 parameters ++ (ofRank 2 parameters ++ ofRank 3 parameters))

theorem stepsWhere_eq {test : BindingKind → Bool} {rank : ℕ}
    (htest : ∀ kind : BindingKind, test kind = decide (kind.rank = rank))
    (parameters : List ResolvedParameter) :
    stepsWhere test parameters = (ofRank rank parameters).map ResolvedParameter.step := by
  rw [stepsWhere, ofRank]
  exact congrArg (List.map ResolvedParameter.step)
    (List.filter_congr fun parameter _ => htest parameter.kind)

/-- The steps of a dispatch function are those of the parameters class by class. -/
theorem dispatchSteps_eq (parameters : List ResolvedParameter) :
    dispatchSteps parameters = (evaluationOrder parameters).map ResolvedParameter.step := by
  rw [dispatchSteps, evaluationOrder, List.map_append, List.map_append, List.map_append,
    @stepsWhere_eq _ 0 fun kind => by cases kind <;> rfl,
    @stepsWhere_eq _ 1 fun kind => by cases kind <;> rfl,
    @stepsWhere_eq _ 2 fun kind => by cases kind <;> rfl,
    @stepsWhere_eq _ 3 fun kind => by cases kind <;> rfl]

/-- Every parameter belongs to one of the classes. -/
theorem mem_evaluationOrder {parameters : List ResolvedParameter}
    {parameter : ResolvedParameter} :
    parameter ∈ evaluationOrder parameters ↔ parameter ∈ parameters := by
  have hrank : parameter.kind.rank = 0 ∨ parameter.kind.rank = 1 ∨ parameter.kind.rank = 2 ∨
      parameter.kind.rank = 3 := by
    cases parameter.kind <;> decide
  simp only [evaluationOrder, ofRank, List.mem_append, List.mem_filter, decide_eq_true_eq]
  tauto

/-- The parameters of a class and the later ones. -/
def fromRank (rank : ℕ) (parameters : List ResolvedParameter) : List ResolvedParameter :=
  parameters.filter fun parameter => rank ≤ parameter.kind.rank

theorem rank_of_mem_ofRank {rank : ℕ} {parameters : List ResolvedParameter}
    {parameter : ResolvedParameter} (hmem : parameter ∈ ofRank rank parameters) :
    parameter.kind.rank = rank :=
  of_decide_eq_true (List.mem_filter.mp hmem).2

theorem rank_of_mem_fromRank {rank : ℕ} {parameters : List ResolvedParameter}
    {parameter : ResolvedParameter} (hmem : parameter ∈ fromRank rank parameters) :
    rank ≤ parameter.kind.rank :=
  of_decide_eq_true (List.mem_filter.mp hmem).2

/-- A class is split off from the classes that begin with it. -/
theorem ofRank_append_fromRank_perm (rank : ℕ) (parameters : List ResolvedParameter) :
    (ofRank rank parameters ++ fromRank (rank + 1) parameters).Perm (fromRank rank parameters) := by
  have hsplit := List.filter_append_perm
    (fun parameter : ResolvedParameter => parameter.kind.rank = rank) (fromRank rank parameters)
  have hown : ofRank rank parameters =
      (fromRank rank parameters).filter fun parameter => parameter.kind.rank = rank := by
    rw [ofRank, fromRank, List.filter_filter]
    apply List.filter_congr
    intro parameter _
    rw [← Bool.decide_and, decide_eq_decide]
    omega
  have hlater : fromRank (rank + 1) parameters =
      (fromRank rank parameters).filter fun parameter => !decide (parameter.kind.rank = rank) := by
    rw [fromRank, fromRank, List.filter_filter]
    apply List.filter_congr
    intro parameter _
    rw [← decide_not, ← Bool.decide_and, decide_eq_decide]
    omega
  rw [hown, hlater]
  exact hsplit

/-- An order of the parameters of a class and the later ones. -/
structure OrdersFrom (rank : ℕ) (parameters order : List ResolvedParameter) : Prop where
  perm : order.Perm (fromRank rank parameters)
  sorted : order.Pairwise EvaluatedBefore

/-- A class is put in front of the later ones. -/
theorem OrdersFrom.prepend {rank : ℕ} {parameters later : List ResolvedParameter}
    (hpositions : parameters.Pairwise fun left right => left.position < right.position)
    (hlater : OrdersFrom (rank + 1) parameters later) :
    OrdersFrom rank parameters (ofRank rank parameters ++ later) := by
  constructor
  · exact (hlater.perm.append_left _).trans (ofRank_append_fromRank_perm rank parameters)
  · refine List.pairwise_append.mpr ⟨?_, hlater.sorted, fun first hfirst second hsecond => ?_⟩
    · refine List.Pairwise.imp_of_mem ?_ (hpositions.filter _)
      intro first second hfirst hsecond hlt
      exact Or.inr ⟨(rank_of_mem_ofRank hfirst).trans (rank_of_mem_ofRank hsecond).symm, hlt⟩
    · have hrank := rank_of_mem_fromRank (hlater.perm.mem_iff.mp hsecond)
      rw [← rank_of_mem_ofRank hfirst] at hrank
      exact Or.inl hrank

/-- The parameters are evaluated class by class and in declaration order inside a class. -/
theorem isEvaluationOrder {parameters : List ResolvedParameter}
    (hpositions : parameters.Pairwise fun left right => left.position < right.position) :
    IsEvaluationOrder parameters (evaluationOrder parameters) := by
  have hnone : fromRank 4 parameters = [] := by
    apply List.filter_eq_nil_iff.mpr
    intro parameter _
    cases parameter.kind <;> decide
  have hend : OrdersFrom 4 parameters [] := ⟨hnone ▸ List.Perm.refl _, .nil⟩
  have horders := ((hend.prepend hpositions).prepend hpositions).prepend hpositions
    |>.prepend hpositions
  have hall : fromRank 0 parameters = parameters :=
    List.filter_eq_self.mpr fun parameter _ => decide_eq_true (Nat.zero_le _)
  rw [List.append_nil] at horders
  have hperm := horders.perm
  rw [hall] at hperm
  exact ⟨hperm, horders.sorted⟩

end MarkedRoutes
