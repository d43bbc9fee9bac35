import MarkedRoutes.Bookshelf.Book
import MarkedRoutes.Proofs.Bookshelf.DateTexts
import MarkedRoutes.Proofs.Json.RecordTexts

/-!
# Texts of new books

A body posts a new book when it is an object that names the title, the author, the shelf and the
date exactly once each, in any order and with members of other names among them, or the list of
the four.  Exactly the bodies that post a book are decoded, each to the book that it posts.
-/

namespace MarkedRoutes.Bookshelf

open MarkedRoutes.Json

/-- The names of the members that tell a new book. -/
def bookNames : List String := ["title", "author", "shelf", "added"]

/-- Exactly one member has a name, and its value is a string. -/
def NamesOnce (members : List (String × Option String)) (name value : String) : Prop :=
  (members.filter fun member => member.1 = name) = [(name, some value)]

/-- A text writes the date of a new book. -/
def WritesDate (text : String) (date : Date) : Prop :=
  Denotes (IsHyphenated WritesSigned) text.toList date

/-- The members of an object tell a new book. -/
structure TellBook (members : List (String × Option String)) (book : NewBook) : Prop where
  title : NamesOnce members "title" book.title
  author : NamesOnce members "author" book.author
  shelf : NamesOnce members "shelf" book.shelf
  added : ∃ text, NamesOnce members "added" text ∧ WritesDate text book.added

/-- A body posts a new book. -/
inductive PostsBook (body : List UInt8) (book : NewBook) : Prop
  | object {inner rest : List UInt8} {members : List (String × Option String)}
      (hopens : afterBlanks body = 123 :: inner)
      (hmembers : WritesMembers bookNames true inner members rest) (htell : TellBook members book)
      (hends : afterBlanks rest = [])
  | list {inner last rest : List UInt8} {date : String} (hopens : afterBlanks body = 91 :: inner)
      (hstrings : WritesStrings true inner [book.title, book.author, book.shelf, date] last)
      (hcloses : afterBlanks last = 93 :: rest) (hadded : WritesDate date book.added)
      (hends : afterBlanks rest = [])

/-! ### Fields -/

namespace NewBook

/-- What the fields become by the string of a member. -/
def setField (name : String) (fields : Fields) (value : String) : Option Fields :=
  match name with
  | "title" => some { fields with title := some value }
  | "author" => some { fields with author := some value }
  | "shelf" => some { fields with shelf := some value }
  | "added" => (Date.ofText? value).map fun date => { fields with added := some date }
  | _ => none

theorem leaves_textField_iff {name : String} {get : Fields → Option String}
    {set : Fields → String → Fields} {fields next : Fields} {level : ℕ} {text rest : List UInt8}
    {place : Json.Place} :
    Leaves ((textField name get set).read fields level ⟨text, place⟩) next rest ↔
      ∃ string, WritesString text string rest ∧ some (set fields string) = some next := by
  refine leaves_map_iff.trans ?_
  simp only [stringDecoder, leaves_textDecoder_iff, Option.some.injEq]

theorem leaves_dateDecoder_iff {level : ℕ} {text rest : List UInt8} {place : Json.Place}
    {date : Date} :
    Leaves (Date.decoder level ⟨text, place⟩) date rest ↔
      ∃ string, WritesString text string rest ∧ Date.ofText? string = some date := by
  refine (leaves_bind_iff (Q := fun string middle =>
      Date.ofText? string = some date ∧ middle = rest)
    (fun _ _ => leaves_textDecoder_iff) fun string middle place _ => ?_).trans ?_
  · dsimp only
    cases Date.ofText? string with
    | some found => exact leaves_ok_iff.trans (and_congr_left fun _ => Option.some_inj.symm)
    | none => exact iff_of_false not_leaves_error fun hboth => by cases hboth.1
  constructor
  · rintro ⟨string, middle, hstring, hdate, rfl⟩
    exact ⟨string, hstring, hdate⟩
  · rintro ⟨string, hstring, hdate⟩
    exact ⟨string, rest, hstring, hdate, rfl⟩

/-- The fields of a new book are read from strings. -/
theorem readsStrings_shape : shape.ReadsStrings setField := by
  intro field hfield level record text place next rest
  simp only [shape, List.mem_cons, List.not_mem_nil, or_false] at hfield
  rcases hfield with rfl | rfl | rfl | rfl
  · exact leaves_textField_iff
  · exact leaves_textField_iff
  · exact leaves_textField_iff
  · have hmap := @leaves_map_iff Date Fields rest (Date.decoder level ⟨text, place⟩)
      (fun value => { record with added := some value }) next
    refine hmap.trans ?_
    simp only [leaves_dateDecoder_iff, setField, Option.map_eq_some_iff]
    constructor
    · rintro ⟨date, ⟨string, hstring, hdate⟩, hnext⟩
      exact ⟨string, hstring, date, hdate, hnext⟩
    · rintro ⟨string, hstring, date, hdate, hnext⟩
      exact ⟨date, ⟨string, hstring, hdate⟩, hnext⟩

/-! ### Members -/

section

variable {β : Type} {read : String → Option β} {name text : String}
  {members : List (String × Option String)} {first last : Option β}

/-- What the members of a name make of a field: nothing when there is none, and else there is one,
which sets it. -/
def Collects (read : String → Option β) (name : String) (members : List (String × Option String))
    (first last : Option β) : Prop :=
  ((members.filter fun member => member.1 = name) = [] ∧ first = last) ∨
    first = none ∧ ∃ text value, NamesOnce members name text ∧ read text = some value ∧
      last = some value

theorem collects_nil : Collects read name [] first last ↔ first = last := by
  simp [Collects, NamesOnce]

theorem collects_cons_of_ne {other : String} {content : Option String} (hother : other ≠ name) :
    Collects read name ((other, content) :: members) first last ↔
      Collects read name members first last := by
  have hfilter : (((other, content) :: members).filter fun member => member.1 = name) =
      members.filter fun member => member.1 = name :=
    List.filter_cons_of_neg (by simpa using hother)
  simp only [Collects, NamesOnce, hfilter]

theorem collects_cons :
    Collects read name ((name, some text) :: members) first last ↔
      first = none ∧ ∃ value, read text = some value ∧
        Collects read name members (some value) last := by
  have hfilter : (((name, some text) :: members).filter fun member => member.1 = name) =
      (name, some text) :: members.filter fun member => member.1 = name :=
    List.filter_cons_of_pos (decide_eq_true rfl)
  constructor
  · rintro (⟨hnone, -⟩ | ⟨hfirst, other, value, honce, hvalue, hlast⟩)
    · cases hfilter.symm.trans hnone
    · obtain ⟨hmember, hrest⟩ := List.cons.inj (hfilter.symm.trans honce)
      cases hmember
      exact ⟨hfirst, value, hvalue, Or.inl ⟨hrest, hlast.symm⟩⟩
  · rintro ⟨hfirst, value, hvalue, (⟨hrest, hlast⟩ | ⟨hnone, -⟩)⟩
    · exact Or.inr ⟨hfirst, text, value, hfilter.trans (by rw [hrest]), hvalue, hlast.symm⟩
    · cases hnone

end

/-- Every field is made of the members of its name. -/
@[mk_iff]
structure Collected (members : List (String × Option String)) (first last : Fields) : Prop where
  title : Collects some "title" members first.title last.title
  author : Collects some "author" members first.author last.author
  shelf : Collects some "shelf" members first.shelf last.shelf
  added : Collects Date.ofText? "added" members first.added last.added

theorem collected_cons_iff {name value : String} {members : List (String × Option String)}
    {first last : Fields} (hname : name ∈ bookNames) :
    Collected ((name, some value) :: members) first last ↔
      ∃ next, shape.takeMember setField first (name, some value) = some next ∧
        Collected members next last := by
  simp only [bookNames, List.mem_cons, List.not_mem_nil, or_false] at hname
  rcases hname with rfl | rfl | rfl | rfl
  · have htake : shape.takeMember setField first ("title", some value) =
        if first.title.isSome then none else some { first with title := some value } := rfl
    simp [collected_iff, collects_cons, collects_cons_of_ne, htake, and_assoc]
  · have htake : shape.takeMember setField first ("author", some value) =
        if first.author.isSome then none else some { first with author := some value } := rfl
    simp [collected_iff, collects_cons, collects_cons_of_ne, htake]
    tauto
  · have htake : shape.takeMember setField first ("shelf", some value) =
        if first.shelf.isSome then none else some { first with shelf := some value } := rfl
    simp [collected_iff, collects_cons, collects_cons_of_ne, htake]
    tauto
  · have htake : shape.takeMember setField first ("added", some value) =
        if first.added.isSome then none
        else (Date.ofText? value).map fun date => { first with added := some date } := rfl
    simp [collected_iff, collects_cons, collects_cons_of_ne, htake]
    tauto

theorem collected_cons_none_iff {name : String} {members : List (String × Option String)}
    {first last : Fields} (hname : name ∉ bookNames) :
    Collected ((name, none) :: members) first last ↔ Collected members first last := by
  simp only [bookNames, List.mem_cons, List.not_mem_nil, or_false, not_or] at hname
  obtain ⟨htitle, hauthor, hshelf, hadded⟩ := hname
  simp only [collected_iff, collects_cons_of_ne htitle, collects_cons_of_ne hauthor,
    collects_cons_of_ne hshelf, collects_cons_of_ne hadded]

/-- The members of a name set a field one after the other. -/
theorem foldlM_takeMember_iff {members : List (String × Option String)}
    (hnames : ∀ member ∈ members, member.1 ∈ bookNames ↔ member.2.isSome) {first last : Fields} :
    members.foldlM (shape.takeMember setField) first = some last ↔
      Collected members first last := by
  induction members generalizing first with
  | nil =>
      obtain ⟨title, author, shelf, added⟩ := first
      obtain ⟨lastTitle, lastAuthor, lastShelf, lastAdded⟩ := last
      simp [collected_iff, collects_nil]
  | cons member members ih =>
      rw [List.forall_mem_cons] at hnames
      rw [List.foldlM_cons, Option.bind_eq_bind, Option.bind_eq_some_iff]
      simp only [ih hnames.2]
      obtain ⟨name, _ | value⟩ := member
      · have hother : name ∉ bookNames := fun hname => nomatch hnames.1.mp hname
        have htake : shape.takeMember setField first (name, none) = some first := rfl
        rw [collected_cons_none_iff hother, htake]
        simp only [Option.some.injEq, exists_eq_left']
      · exact (collected_cons_iff (hnames.1.mpr rfl)).symm

theorem finish_eq_ok_iff {fields : Fields} {book : NewBook} :
    shape.finish fields = .ok book ↔ fields.title = some book.title ∧
      fields.author = some book.author ∧ fields.shelf = some book.shelf ∧
      fields.added = some book.added := by
  obtain ⟨title, author, shelf, added⟩ := fields
  obtain ⟨bookTitle, bookAuthor, bookShelf, bookAdded⟩ := book
  cases title <;> cases author <;> cases shelf <;> cases added <;>
    simp [shape, required, Bind.bind, Except.bind]

theorem collects_none_iff {β : Type} {read : String → Option β} {name : String}
    {members : List (String × Option String)} {value : β} :
    Collects read name members none (some value) ↔
      ∃ text, NamesOnce members name text ∧ read text = some value := by
  constructor
  · rintro (⟨-, hnone⟩ | ⟨-, text, found, honce, hread, hvalue⟩)
    · cases hnone
    · exact ⟨text, honce, hread.trans hvalue.symm⟩
  · rintro ⟨text, honce, hread⟩
    exact Or.inr ⟨rfl, text, value, honce, hread, rfl⟩

/-- The members of a new book are those that its fields are collected from. -/
theorem exists_collected_iff {members : List (String × Option String)} {book : NewBook} :
    (∃ last, Collected members shape.start last ∧ shape.finish last = .ok book) ↔
      TellBook members book := by
  constructor
  · rintro ⟨⟨title, author, shelf, added⟩, ⟨htitle, hauthor, hshelf, hadded⟩, hfinish⟩
    obtain ⟨rfl, rfl, rfl, rfl⟩ := finish_eq_ok_iff.mp hfinish
    obtain ⟨_, htitle, ⟨⟩⟩ := collects_none_iff.mp htitle
    obtain ⟨_, hauthor, ⟨⟩⟩ := collects_none_iff.mp hauthor
    obtain ⟨_, hshelf, ⟨⟩⟩ := collects_none_iff.mp hshelf
    obtain ⟨text, hadded, hdate⟩ := collects_none_iff.mp hadded
    exact ⟨htitle, hauthor, hshelf, text, hadded, Date.ofText?_eq_some_iff.mp hdate⟩
  · rintro ⟨htitle, hauthor, hshelf, text, hadded, hdate⟩
    exact ⟨⟨some book.title, some book.author, some book.shelf, some book.added⟩,
      ⟨collects_none_iff.mpr ⟨_, htitle, rfl⟩, collects_none_iff.mpr ⟨_, hauthor, rfl⟩,
        collects_none_iff.mpr ⟨_, hshelf, rfl⟩,
        collects_none_iff.mpr ⟨text, hadded, Date.ofText?_eq_some_iff.mpr hdate⟩⟩,
      finish_eq_ok_iff.mpr ⟨rfl, rfl, rfl, rfl⟩⟩

theorem exists_members_iff {isFirst : Bool} {text rest : List UInt8}
    {members : List (String × Option String)} {book : NewBook}
    (hmembers : WritesMembers bookNames isFirst text members rest) :
    (∃ last, members.foldlM (shape.takeMember setField) shape.start = some last ∧
      shape.finish last = .ok book) ↔ TellBook members book := by
  simp only [foldlM_takeMember_iff hmembers.mem_names_iff, exists_collected_iff]

/-! ### Lists -/

theorem takeStrings_eq (title author shelf date : String) :
    takeStrings setField shape.start (shape.fields.zip [title, author, shelf, date]) =
      (Date.ofText? date).map fun added => ⟨some title, some author, some shelf, some added⟩ := by
  change ((Date.ofText? date).map _).bind some = _
  exact Option.bind_fun_some _

theorem exists_strings_iff {strings : List String} {book : NewBook} :
    (∃ pairs last, pairs.map Prod.fst = shape.fields ∧ pairs.map Prod.snd = strings ∧
        takeStrings setField shape.start pairs = some last ∧ shape.finish last = .ok book) ↔
      ∃ date, strings = [book.title, book.author, book.shelf, date] ∧
        WritesDate date book.added := by
  constructor
  · rintro ⟨pairs, last, hnames, rfl, htakes, hfinish⟩
    have hpairs := List.zip_of_prod hnames rfl
    have hlength : (pairs.map Prod.snd).length = 4 := by
      rw [List.length_map, ← List.length_map Prod.fst, hnames]
      rfl
    obtain ⟨title, author, shelf, date, hstrings⟩ := List.length_eq_four.mp hlength
    rw [hpairs, hstrings, takeStrings_eq] at htakes
    obtain ⟨added, hdate, rfl⟩ := Option.map_eq_some_iff.mp htakes
    obtain ⟨htitle, hauthor, hshelf, hadded⟩ := finish_eq_ok_iff.mp hfinish
    cases htitle
    cases hauthor
    cases hshelf
    cases hadded
    exact ⟨date, hstrings, Date.ofText?_eq_some_iff.mp hdate⟩
  · rintro ⟨date, rfl, hdate⟩
    refine ⟨shape.fields.zip [book.title, book.author, book.shelf, date],
      ⟨some book.title, some book.author, some book.shelf, some book.added⟩, rfl, rfl, ?_,
      finish_eq_ok_iff.mpr ⟨rfl, rfl, rfl, rfl⟩⟩
    rw [takeStrings_eq, Date.ofText?_eq_some_iff.mpr hdate, Option.map_some]

/-- Exactly the bodies that post a new book are decoded, each to the book that it posts. -/
theorem decode_eq_ok_iff_postsBook {bytes : List UInt8} {book : NewBook} :
    decode body.decoder bytes = .ok book ↔ PostsBook bytes book := by
  have hlevels : maxLevels = 126 + 1 := rfl
  have hdecoder : body.decoder = shape.decoder := rfl
  rw [decode_eq_ok_iff, hlevels, hdecoder]
  simp only [leaves_recordDecoder_iff readsStrings_shape]
  constructor
  · rintro ⟨rest, ⟨last, (⟨inner, members, hopens, hmembers, htakes⟩ |
        ⟨inner, pairs, middle, hopens,
      hnames, hstrings, hcloses, htakes⟩), hfinish⟩, hends⟩
    · exact .object hopens hmembers ((exists_members_iff hmembers).mp ⟨last, htakes, hfinish⟩) hends
    · obtain ⟨date, hpairs, hdate⟩ :=
        exists_strings_iff.mp ⟨pairs, last, hnames, rfl, htakes, hfinish⟩
      exact .list hopens (hpairs ▸ hstrings) hcloses hdate hends
  · rintro (⟨hopens, hmembers, htell, hends⟩ | ⟨hopens, hstrings, hcloses, hadded, hends⟩)
    · obtain ⟨last, htakes, hfinish⟩ := (exists_members_iff hmembers).mpr htell
      exact ⟨_, ⟨last, Or.inl ⟨_, _, hopens, hmembers, htakes⟩, hfinish⟩, hends⟩
    · obtain ⟨pairs, last, hnames, hpairs, htakes, hfinish⟩ :=
        exists_strings_iff.mpr ⟨_, rfl, hadded⟩
      exact ⟨_, ⟨last, Or.inr ⟨_, pairs, _, hopens, hnames, hpairs ▸ hstrings, hcloses, htakes⟩,
        hfinish⟩, hends⟩

end NewBook

end MarkedRoutes.Bookshelf
