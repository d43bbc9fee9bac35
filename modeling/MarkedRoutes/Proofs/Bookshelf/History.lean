import MarkedRoutes.Bookshelf.Store
import Mathlib.Data.List.Basic
import Mathlib.Data.List.Induction

/-!
# The catalog as a history

What the catalog holds is told by what was asked of it: a book is there when it was created and
not removed since, and its number is that of its creation.  The store of the service reflects
this history, and every operation keeps it so.
-/

namespace MarkedRoutes.Bookshelf

/-- What a request asks of the catalog.  A number, a limit or a date is missing when its text is,
or when it does not convert; a malformed body is one that is no new book. -/
inductive Operation where
  | listing (author : Option String) (limit : Option ℕ)
  | creation (book : NewBook)
  | malformed
  | showing (id : Option ℕ)
  | removal (id : Option ℕ)
  | shelf (name : String) (since : Option Date)
  deriving DecidableEq

def Operation.created? : Operation → Option NewBook
  | creation book => some book
  | _ => none

/-- The books that operations create, in order. -/
def created (past : List Operation) : List NewBook := past.filterMap Operation.created?

/-- A book is live after some operations: one of them created it, under the number of its
creation, and none removed its number since. -/
def Live (past : List Operation) (book : Book) : Prop :=
  ∃ before new after, past = before ++ .creation new :: after ∧
    book = new.withId ((created before).length + 1) ∧ .removal (some book.id) ∉ after

variable {past : List Operation} {operation : Operation} {book : Book}

/-! ### One more operation -/

theorem created_append (past more : List Operation) :
    created (past ++ more) = created past ++ created more :=
  List.filterMap_append

theorem not_live_nil (book : Book) : ¬ Live [] book := by
  rintro ⟨before, new, after, hpast, -⟩
  exact List.append_ne_nil_of_right_ne_nil before (List.cons_ne_nil _ _) hpast.symm

/-- After one more operation those books are live that were so and are not removed, and the one
that is created. -/
theorem live_append_iff :
    Live (past ++ [operation]) book ↔
      (Live past book ∧ operation ≠ .removal (some book.id)) ∨
        ∃ new, operation = .creation new ∧ book = new.withId ((created past).length + 1) := by
  constructor
  · rintro ⟨before, new, after, hpast, hbook, hkept⟩
    rcases List.eq_nil_or_concat' after with rfl | ⟨rest, last, rfl⟩
    · obtain ⟨rfl, hlast⟩ := List.append_inj' hpast rfl
      exact Or.inr ⟨new, List.head_eq_of_cons_eq hlast, hbook⟩
    · rw [← List.cons_append, ← List.append_assoc] at hpast
      obtain ⟨rfl, hlast⟩ := List.append_inj' hpast rfl
      cases hlast
      rw [List.mem_append, List.mem_singleton, not_or] at hkept
      exact Or.inl ⟨⟨before, new, rest, rfl, hbook, hkept.1⟩, Ne.symm hkept.2⟩
  · rintro (⟨⟨before, new, after, rfl, hbook, hkept⟩, hother⟩ | ⟨new, rfl, hbook⟩)
    · refine ⟨before, new, after ++ [operation], ?_, hbook, ?_⟩
      · rw [List.append_assoc, List.cons_append]
      · rw [List.mem_append, List.mem_singleton, not_or]
        exact ⟨hkept, hother.symm⟩
    · exact ⟨past, new, [], rfl, hbook, List.not_mem_nil⟩

/-- The number of a live book is that of a creation. -/
theorem Live.id_le (hlive : Live past book) : book.id ≤ (created past).length := by
  obtain ⟨before, new, after, rfl, rfl, -⟩ := hlive
  rw [created_append, List.length_append, NewBook.withId]
  exact Nat.add_le_add_left (Nat.succ_le_succ (Nat.zero_le _)) _

/-- A number that was given and belongs to no live book is never that of one again. -/
theorem not_live_append {id : ℕ} (hgiven : id ≤ (created past).length)
    (hgone : ∀ book, Live past book → book.id ≠ id) (more : List Operation) :
    ∀ book, Live (past ++ more) book → book.id ≠ id := by
  induction more using List.reverseRecOn with
  | nil => rwa [List.append_nil]
  | append_singleton more operation ih =>
      intro book hlive
      rw [← List.append_assoc, live_append_iff] at hlive
      rcases hlive with ⟨hlive, -⟩ | ⟨new, -, rfl⟩
      · exact ih book hlive
      · rw [NewBook.withId, created_append, List.length_append]
        exact Nat.ne_of_gt (Nat.lt_succ_of_le (Nat.le_trans hgiven (Nat.le_add_right _ _)))

/-- A number that was removed is never that of a live book again. -/
theorem not_live_of_removed {id : ℕ} (hgiven : id ≤ (created past).length)
    (more : List Operation) :
    ∀ book, Live (past ++ .removal (some id) :: more) book → book.id ≠ id := by
  rw [List.append_cons]
  refine not_live_append ?_ ?_ more
  · rw [created_append, List.length_append]
    exact Nat.le_trans hgiven (Nat.le_add_right _ _)
  · rintro book hlive rfl
    rcases live_append_iff.mp hlive with ⟨-, hother⟩ | ⟨new, hcreates, -⟩
    · exact hother rfl
    · cases hcreates

/-! ### The store -/

/-- A store reflects what was asked: it holds the live books by rising number, and has counted
the creations. -/
structure Reflects (past : List Operation) (store : Store) : Prop where
  lastId_eq : store.lastId = (created past).length
  rising : store.books.Pairwise fun first second => first.id < second.id
  mem_iff : ∀ book, book ∈ store.books ↔ Live past book

namespace Reflects

variable {store : Store}

theorem empty : Reflects [] .empty where
  lastId_eq := rfl
  rising := .nil
  mem_iff book := iff_of_false List.not_mem_nil (not_live_nil book)

/-- An operation that neither creates nor removes changes nothing. -/
theorem keep (hreflects : Reflects past store) (hcreates : operation.created? = none)
    (hremoves : ∀ id, operation ≠ .removal (some id)) :
    Reflects (past ++ [operation]) store where
  lastId_eq := by
    rw [hreflects.lastId_eq, created_append, created, created, List.filterMap_cons, hcreates]
    simp
  rising := hreflects.rising
  mem_iff book := by
    rw [hreflects.mem_iff, live_append_iff]
    refine ⟨fun hlive => Or.inl ⟨hlive, hremoves book.id⟩, ?_⟩
    rintro (⟨hlive, -⟩ | ⟨new, rfl, -⟩)
    · exact hlive
    · cases hcreates

theorem add (hreflects : Reflects past store) (new : NewBook) :
    Reflects (past ++ [.creation new]) (store.add new).2 where
  lastId_eq := by
    rw [created_append, List.length_append, ← hreflects.lastId_eq]
    rfl
  rising := by
    refine List.pairwise_append.mpr ⟨hreflects.rising, List.pairwise_singleton _ _, ?_⟩
    intro first hfirst second hsecond
    rw [List.mem_singleton.mp hsecond]
    refine Nat.lt_succ_of_le ?_
    rw [hreflects.lastId_eq]
    exact ((hreflects.mem_iff first).mp hfirst).id_le
  mem_iff book := by
    have hmem : book ∈ (store.add new).2.books ↔
        book ∈ store.books ∨ book = new.withId (store.lastId + 1) := by
      rw [Store.add, List.mem_append, List.mem_singleton]
    rw [hmem, live_append_iff, hreflects.mem_iff, hreflects.lastId_eq]
    constructor
    · rintro (hlive | hadded)
      · exact Or.inl ⟨hlive, nofun⟩
      · exact Or.inr ⟨new, rfl, hadded⟩
    · rintro (⟨hlive, -⟩ | ⟨other, hother, hadded⟩)
      · exact Or.inl hlive
      · cases hother
        exact Or.inr hadded

theorem remove (hreflects : Reflects past store) (id : ℕ) :
    Reflects (past ++ [.removal (some id)]) (store.remove id).2 where
  lastId_eq := by
    rw [created_append, List.length_append, ← hreflects.lastId_eq]
    rfl
  rising := hreflects.rising.filter _
  mem_iff book := by
    rw [live_append_iff, ← hreflects.mem_iff, Store.remove, List.mem_filter, decide_eq_true_iff]
    constructor
    · rintro ⟨hmem, hother⟩
      refine Or.inl ⟨hmem, fun hremoves => hother ?_⟩
      cases hremoves
      rfl
    · rintro (⟨hmem, hother⟩ | ⟨new, hcreates, -⟩)
      · exact ⟨hmem, fun hsame => hother (by rw [hsame])⟩
      · cases hcreates

/-- The store finds a book by its number exactly when it is live. -/
theorem get?_eq_some_iff (hreflects : Reflects past store) {id : ℕ} :
    store.get? id = some book ↔ Live past book ∧ book.id = id := by
  rw [← hreflects.mem_iff, Store.get?]
  constructor
  · intro hfound
    have hid := List.find?_some hfound
    exact ⟨List.mem_of_find?_eq_some hfound, of_decide_eq_true hid⟩
  · rintro ⟨hmem, rfl⟩
    rw [List.find?_eq_some_iff_append]
    obtain ⟨before, after, hbooks⟩ := List.append_of_mem hmem
    refine ⟨decide_eq_true rfl, before, after, hbooks, fun other hother => ?_⟩
    have hrising := hreflects.rising
    rw [hbooks, List.pairwise_append] at hrising
    have hless := hrising.2.2 other hother book List.mem_cons_self
    simpa using Nat.ne_of_lt hless

theorem get?_eq_none_iff (hreflects : Reflects past store) {id : ℕ} :
    store.get? id = none ↔ ∀ book, Live past book → book.id ≠ id := by
  rw [Option.eq_none_iff_forall_ne_some]
  constructor
  · intro hnone book hlive hid
    exact hnone book (hreflects.get?_eq_some_iff.mpr ⟨hlive, hid⟩)
  · intro hgone book hfound
    obtain ⟨hlive, hid⟩ := hreflects.get?_eq_some_iff.mp hfound
    exact hgone book hlive hid

end Reflects

end MarkedRoutes.Bookshelf
