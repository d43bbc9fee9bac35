import MarkedRoutes.Proofs.Json.SkippedValues

/-!
# Records as texts write them

A record whose fields hold strings is written as an object that names each field at most once,
in any order and with any values under other names among them, or as the list of its fields.
Exactly these texts are decoded, and what is decoded is told by the strings that they hold.
-/

namespace MarkedRoutes.Json

open MarkedRoutes.Text

variable {α ρ : Type} {text rest : List UInt8} {place : Place} {cursor : Cursor} {taken : Unit}
  {level : ℕ}

/-! ### Strings -/

theorem not_leaves_bind {β : Type} {outcome : Except Failure (α × Cursor)}
    {next : α × Cursor → Except Failure (β × Cursor)} {value : β}
    (hnext : ∀ first, ¬ Leaves (next first) value rest) :
    ¬ Leaves (outcome >>= next) value rest := by
  rintro ⟨place, hboth⟩
  obtain ⟨first, -, hvalue⟩ := bind_eq_ok_iff.mp hboth
  exact hnext first ⟨place, hvalue⟩

/-- Nothing is read of a value of the wrong kind. -/
theorem not_leaves_wrongType {expected : String} {value : α} :
    ¬ Leaves (wrongType cursor expected) value rest := by
  rw [wrongType]
  split
  · exact not_leaves_bind fun _ => not_leaves_error
  · exact not_leaves_bind fun _ => not_leaves_error
  · exact not_leaves_bind fun _ => not_leaves_error
  · exact not_leaves_bind fun _ => not_leaves_error
  · exact not_leaves_bind fun _ => not_leaves_error
  · exact not_leaves_error
  · exact not_leaves_error
  · split
    · exact not_leaves_bind fun _ => not_leaves_error
    · exact not_leaves_error

theorem leaves_textDecoder_iff {expected string : String} :
    Leaves (textDecoder expected level ⟨text, place⟩) string rest ↔
      WritesString text string rest := by
  rw [textDecoder, leaves_beginValue_iff (P := fun byte more =>
    byte = 34 ∧ WritesBytes more (bytesOf string) rest)]
  · constructor
    · rintro ⟨byte, more, htext, rfl, hbytes⟩
      exact ⟨more, htext, hbytes⟩
    · rintro ⟨next, htext, hbytes⟩
      exact ⟨34, next, htext, rfl, hbytes⟩
  · intro byte more place htext
    split
    · next hquote =>
      obtain rfl := (byteChar_eq_iff (by decide)).mp hquote
      refine leaves_readStringRest_iff.trans ?_
      exact (and_iff_right rfl).symm
    · next hquote =>
      refine iff_of_false not_leaves_wrongType ?_
      rintro ⟨rfl, -⟩
      exact hquote rfl

/-! ### Members -/

/-- A text goes on with the members of an object and its end.  The value of a member that has one
of the names is a string; any other value is passed. -/
inductive WritesMembers (names : List String) :
    Bool → List UInt8 → List (String × Option String) → List UInt8 → Prop
  | close {isFirst : Bool} {text rest : List UInt8} (hcloses : afterBlanks text = 125 :: rest) :
      WritesMembers names isFirst text [] rest
  | field {isFirst : Bool} {text first second third fourth rest : List UInt8}
      {name value : String} {members : List (String × Option String)}
      (hcomma : PassesComma isFirst text first) (hname : WritesString first name second)
      (hcolon : PassesColon second third) (hfield : name ∈ names)
      (hvalue : WritesString third value fourth)
      (hmore : WritesMembers names false fourth members rest) :
      WritesMembers names isFirst text ((name, some value) :: members) rest
  | other {isFirst : Bool} {text first second third fourth rest : List UInt8}
      {name : String} {members : List (String × Option String)}
      (hcomma : PassesComma isFirst text first) (hname : WritesString first name second)
      (hcolon : PassesColon second third) (hother : name ∉ names)
      (hvalue : Passes .value third fourth)
      (hmore : WritesMembers names false fourth members rest) :
      WritesMembers names isFirst text ((name, none) :: members) rest

theorem WritesMembers.mem_names_iff {names : List String} {isFirst : Bool}
    {members : List (String × Option String)}
    (hmembers : WritesMembers names isFirst text members rest) :
    ∀ member ∈ members, member.1 ∈ names ↔ member.2.isSome := by
  induction hmembers with
  | close => exact nofun
  | field _ _ _ hfield _ _ ih => exact List.forall_mem_cons.mpr ⟨iff_of_true hfield rfl, ih⟩
  | other _ _ _ hother _ _ ih => exact List.forall_mem_cons.mpr ⟨iff_of_false hother nofun, ih⟩

/-- A text goes on with strings that are the items of a list. -/
inductive WritesStrings : Bool → List UInt8 → List String → List UInt8 → Prop
  | nil {isFirst : Bool} {text : List UInt8} : WritesStrings isFirst text [] text
  | cons {isFirst : Bool} {text first second rest : List UInt8} {value : String}
      {values : List String} (hcomma : PassesComma isFirst text first)
      (hvalue : WritesString first value second)
      (hmore : WritesStrings false second values rest) :
      WritesStrings isFirst text (value :: values) rest

/-- A reader of items stands in front of the end of their list or object, or in front of the
next item. -/
theorem leaves_nextItem_iff {isFirst more : Bool} {closing : Char} {behind : Cursor}
    {atEnd start again otherwise : Except Failure (Bool × Cursor)} {P : List UInt8 → Prop}
    (hblanks : behind.rest = afterBlanks text) (hclosing : UInt8.ofNat closing.toNat ≠ 44)
    (hitem : P rest → rest ≠ [] ∧ ∀ last, rest ≠ UInt8.ofNat closing.toNat :: last)
    (hend : ¬ Leaves atEnd more rest)
    (hstart : (∀ last, behind.rest ≠ UInt8.ofNat closing.toNat :: last) →
      behind.rest ≠ [] → (Leaves start more rest ↔ more = true ∧ behind.rest = rest ∧ P rest))
    (hagain : Leaves again more rest ↔
      more = true ∧ afterBlanks behind.advance.rest = rest ∧ P rest)
    (hother : ¬ Leaves otherwise more rest) :
    Leaves (if behind.rest.isEmpty then atEnd
        else if behind.startsWith closing then .ok (false, behind)
        else if isFirst then start
        else if behind.startsWith ',' then again
        else otherwise) more rest ↔
      (more = false ∧ afterBlanks text = rest ∧
        ∃ last, rest = UInt8.ofNat closing.toNat :: last) ∨
      (more = true ∧ ∃ first, PassesComma isFirst text first ∧ afterBlanks first = rest ∧
        P rest) := by
  have hstarts : ∀ c, behind.startsWith c = true ↔
      ∃ last, behind.rest = UInt8.ofNat c.toNat :: last := fun c => by
    rw [startsWith_iff, List.head?_eq_some_iff]
  have hcomma : ∀ first, PassesComma isFirst text first → afterBlanks first = rest →
      behind.rest = rest ∨ behind.rest = 44 :: first := by
    intro first hcomma hrest
    rw [hblanks]
    cases isFirst with
    | true => exact Or.inl ((congrArg afterBlanks hcomma).trans hrest)
    | false => exact Or.inr hcomma
  rw [← hblanks]
  by_cases hempty : behind.rest = []
  · rw [if_pos (List.isEmpty_iff.mpr hempty)]
    refine iff_of_false hend ?_
    rintro (⟨-, rfl, last, hlast⟩ | ⟨-, first, hpasses, hrest, hP⟩)
    · cases hempty.symm.trans hlast
    · rcases hcomma first hpasses hrest with hsame | hsame
      · exact (hitem hP).1 (hsame.symm.trans hempty)
      · cases hempty.symm.trans hsame
  rw [if_neg fun hnil => hempty (List.isEmpty_iff.mp hnil)]
  by_cases hcloses : ∃ last, behind.rest = UInt8.ofNat closing.toNat :: last
  · rw [if_pos ((hstarts closing).mpr hcloses), leaves_ok_iff]
    obtain ⟨last, hlast⟩ := hcloses
    constructor
    · rintro ⟨rfl, rfl⟩
      exact Or.inl ⟨rfl, rfl, last, hlast⟩
    · rintro (⟨rfl, hrest, -⟩ | ⟨-, first, hpasses, hrest, hP⟩)
      · exact ⟨rfl, hrest⟩
      · rcases hcomma first hpasses hrest with hsame | hsame
        · exact absurd (hsame.symm.trans hlast) ((hitem hP).2 last)
        · exact absurd (List.cons.inj (hlast.symm.trans hsame)).1 hclosing
  have hopen : ¬ (more = false ∧ behind.rest = rest ∧
      ∃ last, rest = UInt8.ofNat closing.toNat :: last) := by
    rintro ⟨-, rfl, hlast⟩
    exact hcloses hlast
  rw [if_neg fun hfound => hcloses ((hstarts closing).mp hfound), or_iff_right hopen]
  cases isFirst with
  | true =>
      rw [if_pos rfl]
      refine (hstart (fun last hlast => hcloses ⟨last, hlast⟩) hempty).trans ?_
      constructor
      · rintro ⟨hmore, hrest, hP⟩
        exact ⟨hmore, text, rfl, hblanks.symm.trans hrest, hP⟩
      · rintro ⟨hmore, first, rfl, hrest, hP⟩
        exact ⟨hmore, hblanks.trans hrest, hP⟩
  | false =>
      rw [if_neg Bool.false_ne_true]
      split
      · next hfound =>
        obtain ⟨first, hfirst⟩ := (hstarts ',').mp hfound
        rw [hagain, rest_advance_of_cons hfirst]
        constructor
        · rintro ⟨hmore, hrest, hP⟩
          exact ⟨hmore, first, hblanks.symm.trans hfirst, hrest, hP⟩
        · rintro ⟨hmore, other, hsame, hrest, hP⟩
          obtain ⟨-, rfl⟩ := List.cons.inj (hfirst.symm.trans (hblanks.trans hsame))
          exact ⟨hmore, hrest, hP⟩
      · next hfound =>
        refine iff_of_false hother ?_
        rintro ⟨-, first, hsame, -⟩
        exact hfound ((hstarts ',').mpr ⟨first, hblanks.trans hsame⟩)

/-- A reader stands in front of a member when its name does. -/
theorem leaves_memberStart_iff {more : Bool} {otherwise : Except Failure (Bool × Cursor)}
    (hother : ¬ Leaves otherwise more rest) :
    Leaves (if cursor.startsWith '"' then .ok (true, cursor) else otherwise) more rest ↔
      more = true ∧ cursor.rest = rest ∧ ∃ behind, rest = 34 :: behind := by
  split
  · next hquote =>
    obtain ⟨behind, hbehind⟩ := List.head?_eq_some_iff.mp (startsWith_iff.mp hquote)
    rw [leaves_ok_iff]
    constructor
    · rintro ⟨rfl, rfl⟩
      exact ⟨rfl, rfl, behind, hbehind⟩
    · rintro ⟨rfl, rfl, -⟩
      exact ⟨rfl, rfl⟩
  · next hquote =>
    refine iff_of_false hother ?_
    rintro ⟨-, rfl, behind, hbehind⟩
    exact hquote (startsWith_iff.mpr (by rw [hbehind]; rfl))

/-- A member stands in front of what is left, or the end of the object does. -/
theorem leaves_nextMember_iff {isFirst more : Bool} :
    Leaves (nextMember isFirst ⟨text, place⟩) more rest ↔
      (more = false ∧ afterBlanks text = rest ∧ ∃ behind, rest = 125 :: behind) ∨
      (more = true ∧ ∃ first, PassesComma isFirst text first ∧ afterBlanks first = rest ∧
        ∃ behind, rest = 34 :: behind) := by
  refine leaves_nextItem_iff (P := fun rest => ∃ behind, rest = 34 :: behind)
    (rest_skipBlanks ⟨text, place⟩) (by decide) ?_ not_leaves_error
    (fun _ _ => leaves_memberStart_iff not_leaves_error) ?_ not_leaves_error
  · rintro ⟨behind, rfl⟩
    exact ⟨List.cons_ne_nil _ _, fun last hlast => by cases hlast⟩
  · rw [← rest_skipBlanks]
    dsimp only
    split
    · next hempty =>
      refine iff_of_false not_leaves_error ?_
      rintro ⟨-, hrest, behind, rfl⟩
      rw [hrest] at hempty
      cases hempty
    · refine leaves_memberStart_iff ?_
      split <;> exact not_leaves_error

/-! ### Records -/

variable {shape : RecordShape ρ α} {set : String → ρ → String → Option ρ}

def RecordShape.names (shape : RecordShape ρ α) : List String := shape.fields.map Field.name

def RecordShape.ReadsStrings (shape : RecordShape ρ α) (set : String → ρ → String → Option ρ) :
    Prop :=
  ∀ field ∈ shape.fields, ∀ level record text place next rest,
    Leaves (field.read record level ⟨text, place⟩) next rest ↔
      ∃ string, WritesString text string rest ∧ set field.name record string = some next

/-- What a record becomes by a member: one that names a field sets it, unless it is set. -/
def RecordShape.takeMember (shape : RecordShape ρ α) (set : String → ρ → String → Option ρ)
    (record : ρ) : String × Option String → Option ρ
  | (_, none) => some record
  | (name, some value) =>
    match shape.fields.find? fun field => field.name = name with
    | some field => if field.isSet record then none else set name record value
    | none => none

/-- A text goes on with the colon and the value of a member, which takes a record to the next. -/
inductive ReadsMember (shape : RecordShape ρ α) (set : String → ρ → String → Option ρ) (record : ρ)
    (name : String) : List UInt8 → ρ → List UInt8 → Prop
  | field {text third rest : List UInt8} {value : String} {next : ρ}
      (hcolon : PassesColon text third)
      (hfield : name ∈ shape.names) (hvalue : WritesString third value rest)
      (htakes : shape.takeMember set record (name, some value) = some next) :
      ReadsMember shape set record name text next rest
  | other {text third rest : List UInt8} (hcolon : PassesColon text third)
      (hother : name ∉ shape.names) (hvalue : Passes .value third rest) :
      ReadsMember shape set record name text record rest

theorem find?_eq_none_iff {name : String} :
    (shape.fields.find? fun field => field.name = name) = none ↔ name ∉ shape.names := by
  simp [RecordShape.names]

theorem leaves_readMember_iff (hreads : shape.ReadsStrings set) {record next : ρ} {name : String} :
    Leaves (shape.readMember level record name ⟨text, place⟩) next rest ↔
      ReadsMember shape set record name text next rest := by
  rw [RecordShape.readMember]
  cases hfield : shape.fields.find? fun field => field.name = name with
  | none =>
      have hother := find?_eq_none_iff.mp hfield
      have hskip : ∀ (_ : Unit) third place, PassesColon text third →
          (Leaves (skipValue ⟨third, place⟩ >>= fun skipped => .ok (record, skipped.2)) next rest ↔
            Passes .value third rest ∧ record = next) := by
        intro _ third place _
        rw [leaves_bind_ok_iff (f := fun _ => record)]
        simp only [leaves_skipValue_iff, exists_const]
      refine (leaves_bind_iff (fun _ _ => leaves_readColon_iff) hskip).trans ?_
      constructor
      · rintro ⟨-, third, hcolon, hvalue, rfl⟩
        exact .other hcolon hother hvalue
      · intro htakes
        cases htakes with
        | field _ hmem => exact absurd hmem hother
        | other hcolon _ hvalue => exact ⟨(), _, hcolon, hvalue, rfl⟩
  | some field =>
      have hmem := List.mem_of_find?_eq_some hfield
      have hname : field.name = name := by simpa using List.find?_some hfield
      have hnames : name ∈ shape.names := hname ▸ List.mem_map_of_mem hmem
      have htake : ∀ value, shape.takeMember set record (name, some value) =
          if field.isSet record then none else set name record value := by
        intro value
        rw [RecordShape.takeMember, hfield]
      dsimp only
      split
      · next hset =>
        refine iff_of_false not_leaves_error fun htakes => ?_
        cases htakes with
        | field _ _ _ htaken =>
            rw [htake, if_pos hset] at htaken
            cases htaken
        | other _ hother => exact hother hnames
      · next hset =>
        refine (leaves_bind_iff (fun _ _ => leaves_readColon_iff) fun _ third place _ =>
          hreads field hmem level record third place next rest).trans ?_
        constructor
        · rintro ⟨-, third, hcolon, value, hvalue, htaken⟩
          refine .field hcolon hnames hvalue ?_
          rw [htake, if_neg hset, ← hname, htaken]
        · intro htakes
          cases htakes with
          | field hcolon _ hvalue htaken =>
              rw [htake, if_neg hset, ← hname] at htaken
              exact ⟨(), _, hcolon, _, hvalue, htaken⟩
          | other _ hother => exact absurd hnames hother

theorem ReadsMember.length_lt {record next : ρ} {name : String}
    (hreads : ReadsMember shape set record name text next rest) : rest.length < text.length := by
  cases hreads with
  | field hcolon _ hvalue _ => exact hvalue.length_lt.trans (length_of_afterBlanks hcolon)
  | other hcolon _ hvalue => exact hvalue.length_lt.trans (length_of_afterBlanks hcolon)

/-- What stands behind the name of a member: its value, and the further members. -/
def LeadsTo (shape : RecordShape ρ α) (set : String → ρ → String → Option ρ) (record last : ρ)
    (isFirst : Bool) (text left : List UInt8) : Prop :=
  ∃ members rest, left = 125 :: rest ∧ WritesMembers shape.names isFirst text members rest ∧
    members.foldlM (shape.takeMember set) record = some last

theorem leadsTo_iff {record last : ρ} {isFirst : Bool} {left : List UInt8} :
    LeadsTo shape set record last isFirst text left ↔
      (record = last ∧ afterBlanks text = left ∧ ∃ rest, left = 125 :: rest) ∨
      ∃ first second third name next, PassesComma isFirst text first ∧
        WritesString first name second ∧ ReadsMember shape set record name second next third ∧
        LeadsTo shape set next last false third left := by
  constructor
  · rintro ⟨members, rest, rfl, hmembers, hlast⟩
    cases hmembers with
    | close hcloses => exact Or.inl ⟨Option.some.inj hlast, hcloses, rest, rfl⟩
    | field hcomma hname hcolon hfield hvalue hmore =>
        rw [List.foldlM_cons] at hlast
        obtain ⟨next, htaken, hlast⟩ := Option.bind_eq_some_iff.mp hlast
        exact Or.inr ⟨_, _, _, _, next, hcomma, hname, .field hcolon hfield hvalue htaken, _, rest,
          rfl, hmore, hlast⟩
    | other hcomma hname hcolon hother hvalue hmore =>
        exact Or.inr ⟨_, _, _, _, record, hcomma, hname, .other hcolon hother hvalue, _, rest, rfl,
          hmore, hlast⟩
  · rintro (⟨rfl, htext, rest, rfl⟩ | ⟨first, second, third, name, next, hcomma, hname, hmember,
      members, rest, rfl, hmembers, hlast⟩)
    · exact ⟨[], rest, rfl, .close htext, rfl⟩
    · cases hmember with
      | field hcolon hfield hvalue htaken =>
          refine ⟨_, rest, rfl, .field hcomma hname hcolon hfield hvalue hmembers, ?_⟩
          rw [List.foldlM_cons, htaken]
          exact hlast
      | other hcolon hother hvalue =>
          exact ⟨_, rest, rfl, .other hcomma hname hcolon hother hvalue hmembers, hlast⟩

/-- Exactly the members that the grammar derives are read, and their fields are taken in turn. -/
theorem leaves_readMembers_iff (hreads : shape.ReadsStrings set) {fuel : ℕ} {isFirst : Bool}
    {record last : ρ} {left : List UInt8} (hfuel : text.length < fuel) :
    Leaves (shape.readMembers level fuel isFirst record ⟨text, place⟩) last left ↔
      LeadsTo shape set record last isFirst text left := by
  induction fuel generalizing text place isFirst record with
  | zero => cases hfuel
  | succ fuel ih =>
      have hread : ∀ cursor, shape.readMembers level (fuel + 1) isFirst record cursor =
          nextMember isFirst cursor >>= fun found =>
            if found.1 then readStringRest found.2.advance >>= fun named =>
              shape.readMember level record named.1 named.2 >>= fun taken =>
                shape.readMembers level fuel false taken.1 taken.2
            else .ok (record, found.2) := fun _ => rfl
      have hmember : ∀ {behind : List UInt8} (name : String) second place, behind.length < fuel →
          WritesBytes behind (bytesOf name) second →
          (Leaves (shape.readMember level record name ⟨second, place⟩ >>= fun taken =>
              shape.readMembers level fuel false taken.1 taken.2) last left ↔
            ∃ next third, ReadsMember shape set record name second next third ∧
              LeadsTo shape set next last false third left) := by
        intro behind name second place hbehind hname
        exact leaves_bind_iff (fun _ _ => leaves_readMember_iff hreads)
          fun next third place htakes =>
          ih (htakes.length_lt.trans (hname.length_lt.trans hbehind))
      have hnext : ∀ more middle place, ((more = false ∧ afterBlanks text = middle ∧
            ∃ behind, middle = 125 :: behind) ∨
          (more = true ∧ ∃ first, PassesComma isFirst text first ∧ afterBlanks first = middle ∧
            ∃ behind, middle = 34 :: behind)) →
          (Leaves (if more then readStringRest (Cursor.mk middle place).advance >>= fun named =>
              shape.readMember level record named.1 named.2 >>= fun taken =>
                shape.readMembers level fuel false taken.1 taken.2
            else .ok (record, ⟨middle, place⟩)) last left ↔
          (more = false ∧ record = last ∧ middle = left) ∨
            more = true ∧ ∃ behind name second, middle = 34 :: behind ∧
              WritesBytes behind (bytesOf name) second ∧ ∃ next third,
                ReadsMember shape set record name second next third ∧
                  LeadsTo shape set next last false third left) := by
        rintro more middle place (⟨rfl, rfl, -⟩ | ⟨rfl, first, hcomma, hfirst, behind, rfl⟩)
        · rw [if_neg Bool.false_ne_true, leaves_ok_iff]
          simp
        · have hbehind : behind.length < fuel := by
            have hless := (length_of_afterBlanks hfirst).trans_le hcomma.length_le
            omega
          rw [if_pos rfl]
          refine (leaves_bind_iff (fun _ _ => leaves_readStringRest_iff) fun name second place =>
            hmember name second place hbehind).trans ?_
          constructor
          · rintro ⟨name, second, hname, hrest⟩
            exact Or.inr ⟨rfl, behind, name, second, rfl, hname, hrest⟩
          · rintro (⟨hmore, -⟩ | ⟨-, other, name, second, hother, hname, hrest⟩)
            · cases hmore
            · obtain ⟨-, rfl⟩ := List.cons.inj hother
              exact ⟨name, second, hname, hrest⟩
      rw [hread, leadsTo_iff]
      refine (leaves_bind_iff (fun _ _ => leaves_nextMember_iff) hnext).trans ?_
      constructor
      · rintro ⟨more, middle, (⟨rfl, htext, hcloses⟩ | ⟨rfl, first, hcomma, hfirst, -⟩),
          (⟨hmore, hlast, rfl⟩ | ⟨hmore, behind, name, second, rfl, hname, next, third, hmember,
            hrest⟩)⟩
        · exact Or.inl ⟨hlast, htext, hcloses⟩
        · cases hmore
        · cases hmore
        · exact Or.inr ⟨first, second, third, name, next, hcomma, ⟨behind, hfirst, hname⟩, hmember,
            hrest⟩
      · rintro (⟨hlast, htext, hcloses⟩ | ⟨first, second, third, name, next, hcomma,
          ⟨behind, hfirst, hname⟩, hmember, hrest⟩)
        · exact ⟨false, left, Or.inl ⟨rfl, htext, hcloses⟩, Or.inl ⟨rfl, hlast, rfl⟩⟩
        · exact ⟨true, _, Or.inr ⟨rfl, first, hcomma, hfirst, behind, rfl⟩,
            Or.inr ⟨rfl, behind, name, second, rfl, hname, next, third, hmember, hrest⟩⟩

/-! ### Lists of fields -/

/-- An item stands in front of what is left, or the end of the list does. -/
theorem leaves_nextElement_iff {isFirst more : Bool} :
    Leaves (nextElement isFirst ⟨text, place⟩) more rest ↔
      (more = false ∧ afterBlanks text = rest ∧ ∃ behind, rest = 93 :: behind) ∨
      (more = true ∧ ∃ first, PassesComma isFirst text first ∧ afterBlanks first = rest ∧
        rest ≠ [] ∧ ∀ behind, rest ≠ 93 :: behind) := by
  refine leaves_nextItem_iff (P := fun rest => rest ≠ [] ∧ ∀ behind, rest ≠ 93 :: behind)
    (rest_skipBlanks ⟨text, place⟩) (by decide) id not_leaves_error
    (fun hcloses hempty => ?_) ?_ not_leaves_error
  · rw [leaves_ok_iff]
    constructor
    · rintro ⟨rfl, rfl⟩
      exact ⟨rfl, rfl, hempty, hcloses⟩
    · rintro ⟨rfl, rfl, -⟩
      exact ⟨rfl, rfl⟩
  · rw [← rest_skipBlanks]
    dsimp only
    split
    · next hempty =>
      refine iff_of_false not_leaves_error ?_
      rintro ⟨-, rfl, hrest, -⟩
      exact hrest (List.isEmpty_iff.mp hempty)
    · next hempty =>
      split
      · next hcloses =>
        refine iff_of_false not_leaves_error ?_
        rintro ⟨-, rfl, -, hrest⟩
        obtain ⟨behind, hbehind⟩ := List.head?_eq_some_iff.mp (startsWith_iff.mp hcloses)
        exact hrest behind hbehind
      · next hcloses =>
        rw [leaves_ok_iff]
        constructor
        · rintro ⟨rfl, rfl⟩
          refine ⟨rfl, rfl, fun hnil => hempty (List.isEmpty_iff.mpr hnil), fun behind hrest => ?_⟩
          exact hcloses (startsWith_iff.mpr (by rw [hrest]; rfl))
        · rintro ⟨rfl, rfl, -⟩
          exact ⟨rfl, rfl⟩

def takeStrings (set : String → ρ → String → Option ρ) (record : ρ)
    (strings : List (Field ρ × String)) : Option ρ :=
  strings.foldlM (fun record string => set string.1.name record string.2) record

theorem leaves_readFields_iff {fields : List (Field ρ)}
    (hreads : ∀ field ∈ fields, ∀ level record text place next rest,
      Leaves (field.read record level ⟨text, place⟩) next rest ↔
        ∃ string, WritesString text string rest ∧ set field.name record string = some next)
    {expected : String} {index : ℕ} {record last : ρ} :
    Leaves (RecordShape.readFields level expected fields index record ⟨text, place⟩) last rest ↔
      ∃ strings, strings.map Prod.fst = fields ∧
        WritesStrings (index == 0) text (strings.map Prod.snd) rest ∧
        takeStrings set record strings = some last := by
  induction fields generalizing text place index record with
  | nil =>
      rw [RecordShape.readFields, leaves_ok_iff]
      constructor
      · rintro ⟨rfl, rfl⟩
        exact ⟨[], rfl, .nil, rfl⟩
      · rintro ⟨strings, hfields, hstrings, hlast⟩
        obtain rfl := List.map_eq_nil_iff.mp hfields
        cases hstrings with
        | nil => exact ⟨Option.some.inj hlast, rfl⟩
  | cons field fields ih =>
      rw [List.forall_mem_cons] at hreads
      have hread : ∀ cursor, RecordShape.readFields level expected (field :: fields) index record
          cursor = nextElement (index == 0) cursor >>= fun found =>
            if found.1 then field.read record level found.2 >>= fun taken =>
              RecordShape.readFields level expected fields (index + 1) taken.1 taken.2
            else found.2.failUnplaced (.invalidLength index expected) := fun _ => rfl
      have hnext : ∀ more middle place, ((more = false ∧ afterBlanks text = middle ∧
            ∃ behind, middle = 93 :: behind) ∨
          (more = true ∧ ∃ first, PassesComma (index == 0) text first ∧
            afterBlanks first = middle ∧ middle ≠ [] ∧ ∀ behind, middle ≠ 93 :: behind)) →
          (Leaves (if more then field.read record level ⟨middle, place⟩ >>= fun taken =>
              RecordShape.readFields level expected fields (index + 1) taken.1 taken.2
            else (Cursor.mk middle place).failUnplaced (.invalidLength index expected)) last rest ↔
          more = true ∧ ∃ next second, (∃ value, WritesString middle value second ∧
            set field.name record value = some next) ∧ ∃ strings, strings.map Prod.fst = fields ∧
              WritesStrings false second (strings.map Prod.snd) rest ∧
              takeStrings set next strings = some last) := by
        rintro more middle place (⟨rfl, -, -⟩ | ⟨rfl, -⟩)
        · exact iff_of_false not_leaves_error fun hmore => nomatch hmore.1
        · rw [if_pos rfl]
          have hothers : ∀ next second place, (∃ value, WritesString middle value second ∧
              set field.name record value = some next) →
              (Leaves (RecordShape.readFields level expected fields (index + 1) next
                ⟨second, place⟩) last rest ↔
              ∃ strings, strings.map Prod.fst = fields ∧
                WritesStrings false second (strings.map Prod.snd) rest ∧
                takeStrings set next strings = some last) := fun _ _ _ _ => ih hreads.2
          refine (leaves_bind_iff (fun _ _ => hreads.1 _ _ _ _ _ _) hothers).trans ?_
          exact (and_iff_right rfl).symm
      rw [hread]
      refine (leaves_bind_iff (fun _ _ => leaves_nextElement_iff) hnext).trans ?_
      constructor
      · rintro ⟨more, middle, (⟨rfl, -⟩ | ⟨rfl, first, hcomma, rfl, -⟩), hmore, next, second,
          ⟨value, ⟨behind, hquote, hbytes⟩, hset⟩, strings, rfl, hstrings, hlast⟩
        · cases hmore
        · rw [afterBlanks_afterBlanks] at hquote
          refine ⟨(field, value) :: strings, rfl,
            .cons hcomma ⟨behind, hquote, hbytes⟩ hstrings, ?_⟩
          rw [takeStrings, List.foldlM_cons, hset]
          exact hlast
      · rintro ⟨strings, hfields, hstrings, hlast⟩
        obtain ⟨⟨_, value⟩, strings, rfl, rfl, rfl⟩ := List.map_eq_cons_iff.mp hfields
        obtain ⟨next, hset, hlast⟩ := Option.bind_eq_some_iff.mp hlast
        cases hstrings with
        | @cons _ _ first second _ _ _ hcomma hvalue hmore =>
            obtain ⟨behind, hquote, hbytes⟩ := hvalue
            refine ⟨true, afterBlanks first, Or.inr ⟨rfl, first, hcomma, rfl, ?_⟩, rfl, next,
              second, ⟨value, ⟨behind, (afterBlanks_afterBlanks _).trans hquote, hbytes⟩, hset⟩,
              strings, rfl, hmore, hlast⟩
            rw [hquote]
            exact ⟨List.cons_ne_nil _ _, fun more hmore => by cases hmore⟩

/-! ### Whole texts -/

theorem leaves_endObject_iff :
    Leaves (endObject ⟨text, place⟩) taken rest ↔ afterBlanks text = 125 :: rest := by
  rw [← rest_skipBlanks ⟨text, place⟩]
  refine leaves_mark_iff not_leaves_error ?_
  split <;> exact not_leaves_error

theorem leaves_endList_iff :
    Leaves (endList ⟨text, place⟩) taken rest ↔ afterBlanks text = 93 :: rest := by
  rw [← rest_skipBlanks ⟨text, place⟩]
  refine leaves_mark_iff not_leaves_error ?_
  dsimp only
  split_ifs <;> exact not_leaves_error

theorem leaves_closeWith_iff {finish : Cursor → Except Failure (Unit × Cursor)}
    {content : Except Failure (α × Cursor)} {value : α} {P : List UInt8 → Prop}
    (hfinish : ∀ middle place taken, Leaves (finish ⟨middle, place⟩) taken rest ↔ P middle) :
    Leaves (closeWith finish content) value rest ↔
      ∃ middle, Leaves content value middle ∧ P middle := by
  constructor
  · rintro ⟨place, hclosed⟩
    rw [closeWith.eq_def] at hclosed
    split at hclosed
    · next found cursor =>
      obtain ⟨⟨taken, behind⟩, hends, hsame⟩ := map_eq_ok_iff.mp hclosed
      cases hsame
      exact ⟨cursor.rest, ⟨cursor.place, rfl⟩, (hfinish _ _ taken).mp ⟨place, hends⟩⟩
    · next failure =>
      rw [placeFault.eq_def] at hclosed
      split at hclosed <;> cases hclosed
  · rintro ⟨middle, ⟨between, rfl⟩, hends⟩
    obtain ⟨place, hends⟩ := (hfinish middle between ()).mpr hends
    exact ⟨place, by rw [closeWith, hends]; rfl⟩

theorem leaves_finished_iff {outcome : Except Failure (ρ × Cursor)} {value : α} :
    Leaves (shape.finished outcome) value rest ↔
      ∃ record, Leaves outcome record rest ∧ shape.finish record = .ok value := by
  rw [RecordShape.finished]
  cases outcome with
  | error failure =>
      refine iff_of_false not_leaves_error ?_
      rintro ⟨record, hleaves, -⟩
      exact not_leaves_error hleaves
  | ok found =>
      obtain ⟨record, cursor⟩ := found
      rw [ok_bind]
      dsimp only
      simp only [leaves_ok_iff]
      cases hfinish : shape.finish record with
      | error fault =>
          refine iff_of_false not_leaves_error ?_
          rintro ⟨other, ⟨rfl, -⟩, hother⟩
          cases hfinish.symm.trans hother
      | ok found =>
          rw [leaves_ok_iff]
          constructor
          · rintro ⟨rfl, hrest⟩
            exact ⟨record, ⟨rfl, hrest⟩, hfinish⟩
          · rintro ⟨other, ⟨rfl, hrest⟩, hother⟩
            exact ⟨Except.ok.inj (hfinish.symm.trans hother), hrest⟩

/-- A text begins with the members of a record, which lead to the record. -/
def WritesRecord (shape : RecordShape ρ α) (set : String → ρ → String → Option ρ)
    (text : List UInt8) (record : ρ) (rest : List UInt8) : Prop :=
  (∃ inner members, afterBlanks text = 123 :: inner ∧
    WritesMembers shape.names true inner members rest ∧
    members.foldlM (shape.takeMember set) shape.start = some record) ∨
  ∃ inner strings last, afterBlanks text = 91 :: inner ∧ strings.map Prod.fst = shape.fields ∧
    WritesStrings true inner (strings.map Prod.snd) last ∧ afterBlanks last = 93 :: rest ∧
    takeStrings set shape.start strings = some record

/-- Exactly the texts that write a record are decoded, when the record is complete. -/
theorem leaves_recordDecoder_iff (hreads : shape.ReadsStrings set) {value : α} :
    Leaves (shape.decoder (level + 1) ⟨text, place⟩) value rest ↔
      ∃ record, WritesRecord shape set text record rest ∧ shape.finish record = .ok value := by
  have hbyte : ∀ byte more place, afterBlanks text = byte :: more →
      (Leaves (if byteChar byte = '[' then
          openLevel (level + 1) ⟨byte :: more, place⟩ fun level cursor =>
            closeWith endList (shape.finished (RecordShape.readFields level shape.expectedElements
              shape.fields 0 shape.start cursor))
        else if byteChar byte = '\x7b' then
          openLevel (level + 1) ⟨byte :: more, place⟩ fun level cursor =>
            closeWith endObject (shape.finished (shape.readMembers level (cursor.rest.length + 1)
              true shape.start cursor))
        else wrongType ⟨byte :: more, place⟩ shape.name) value rest ↔
      ∃ record, WritesRecord shape set text record rest ∧ shape.finish record = .ok value) := by
    intro byte more place htext
    split_ifs with hlist hobject
    · obtain rfl := (byteChar_eq_iff (by decide)).mp hlist
      refine (leaves_closeWith_iff fun _ _ _ => leaves_endList_iff).trans ?_
      simp only [leaves_finished_iff]
      constructor
      · rintro ⟨last, ⟨record, hfields, hfinish⟩, hcloses⟩
        obtain ⟨strings, hnames, hstrings, htaken⟩ := (leaves_readFields_iff hreads).mp hfields
        exact ⟨record, Or.inr ⟨more, strings, last, htext, hnames, hstrings, hcloses, htaken⟩,
          hfinish⟩
      · rintro ⟨record, (⟨inner, members, hopens, -⟩ | ⟨inner, strings, last, hopens, hnames,
          hstrings, hcloses, htaken⟩), hfinish⟩
        · exact absurd (List.cons.inj (htext.symm.trans hopens)).1 (by decide)
        · obtain ⟨-, rfl⟩ := List.cons.inj (htext.symm.trans hopens)
          exact ⟨last, ⟨record, (leaves_readFields_iff hreads).mpr
            ⟨strings, hnames, hstrings, htaken⟩, hfinish⟩, hcloses⟩
    · obtain rfl := (byteChar_eq_iff (by decide)).mp hobject
      refine (leaves_closeWith_iff fun _ _ _ => leaves_endObject_iff).trans ?_
      simp only [leaves_finished_iff]
      constructor
      · rintro ⟨left, ⟨record, hmembers, hfinish⟩, hcloses⟩
        obtain ⟨members, behind, rfl, hmembers, htaken⟩ :=
          (leaves_readMembers_iff hreads (Nat.lt_succ_self _)).mp hmembers
        obtain ⟨-, rfl⟩ := List.cons.inj hcloses
        exact ⟨record, Or.inl ⟨more, members, htext, hmembers, htaken⟩, hfinish⟩
      · rintro ⟨record, (⟨inner, members, hopens, hmembers, htaken⟩ | ⟨inner, strings, last, hopens,
          -⟩), hfinish⟩
        · obtain ⟨-, rfl⟩ := List.cons.inj (htext.symm.trans hopens)
          exact ⟨125 :: rest, ⟨record, (leaves_readMembers_iff hreads (Nat.lt_succ_self _)).mpr
            ⟨members, rest, rfl, hmembers, htaken⟩, hfinish⟩, rfl⟩
        · exact absurd (List.cons.inj (htext.symm.trans hopens)).1 (by decide)
    · refine iff_of_false not_leaves_wrongType ?_
      rintro ⟨record, (⟨inner, members, hopens, -⟩ | ⟨inner, strings, last, hopens, -⟩), -⟩
      · exact hobject (by rw [(List.cons.inj (htext.symm.trans hopens)).1]; rfl)
      · exact hlist (by rw [(List.cons.inj (htext.symm.trans hopens)).1]; rfl)
  refine (leaves_beginValue_iff hbyte).trans ?_
  constructor
  · rintro ⟨-, -, -, hrecord⟩
    exact hrecord
  · rintro ⟨record, hwrites, hfinish⟩
    obtain ⟨byte, more, htext⟩ : ∃ byte more, afterBlanks text = byte :: more := by
      rcases hwrites with ⟨inner, members, hopens, -⟩ | ⟨inner, strings, last, hopens, -⟩
      · exact ⟨_, _, hopens⟩
      · exact ⟨_, _, hopens⟩
    exact ⟨byte, more, htext, record, hwrites, hfinish⟩

theorem decode_eq_ok_iff {decoder : Decoder α} {value : α} :
    decode decoder text = .ok value ↔
      ∃ rest, Leaves (decoder maxLevels ⟨text, ⟨1, 0⟩⟩) value rest ∧ afterBlanks rest = [] := by
  rw [decode, Cursor.start]
  cases hdecoder : decoder maxLevels ⟨text, ⟨1, 0⟩⟩ with
  | error failure =>
      refine iff_of_false (fun hok => by cases hok) ?_
      rintro ⟨rest, hleaves, -⟩
      exact not_leaves_error hleaves
  | ok found =>
      obtain ⟨first, cursor⟩ := found
      dsimp only
      rw [rest_skipBlanks]
      simp only [leaves_ok_iff]
      split
      · next hempty =>
        rw [Except.ok.injEq]
        constructor
        · rintro rfl
          exact ⟨cursor.rest, ⟨rfl, rfl⟩, List.isEmpty_iff.mp hempty⟩
        · rintro ⟨rest, ⟨rfl, -⟩, -⟩
          rfl
      · next hempty =>
        refine iff_of_false (fun hok => by cases hok) ?_
        rintro ⟨rest, ⟨rfl, rfl⟩, hnil⟩
        exact hempty (List.isEmpty_iff.mpr hnil)

end MarkedRoutes.Json
