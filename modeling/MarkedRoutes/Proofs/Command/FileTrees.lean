import MarkedRoutes.Command.FileTree
import MarkedRoutes.Proofs.Results
import Mathlib.Tactic.SplitIfs

/-!
# Writing into file trees

A text that is written to a path is read back from there, and every other file keeps its
content.  The directories that are made on the way hold no files, and no directory is taken
away.  So a path of another name leads to where it led before, and to the same text.
-/

namespace MarkedRoutes.FileTree

variable {tree made before between after : FileTree} {names written : List String}
  {path content : String}

/-- The content of the file at a place given by names. -/
def content? (tree : FileTree) (names : List String) : Option String :=
  (tree.files.find? fun file => file.1 = names).map Prod.snd

theorem entry_eq_content? (tree : FileTree) (names : List String) :
    tree.entry names =
      match tree.content? names with
      | some content => .file content
      | none =>
          if names.isEmpty || tree.directories.contains names then .directory else .missing := by
  rw [entry, content?]
  cases tree.files.find? fun file => file.1 = names <;> rfl

/-! ### One file -/

/-- Giving the files at a place another content changes nothing at other places. -/
theorem find?_map_replaced (files : List (List String × String)) (written : List String)
    (content : String) (names : List String) :
    ((files.map fun file => if file.1 = written then (written, content) else file).find?
        fun file => file.1 = names) =
      (files.find? fun file => file.1 = names).map fun file =>
        if names = written then (written, content) else file := by
  have hsame : ∀ file : List String × String,
      (if file.1 = written then (written, content) else file).1 = file.1 := by
    intro file
    split_ifs with hfile
    · exact hfile.symm
    · rfl
  rw [List.find?_map]
  simp only [Function.comp_def, hsame]
  cases hfind : files.find? fun file => file.1 = names with
  | none => rfl
  | some file =>
      have hnames : file.1 = names := by simpa using List.find?_some hfind
      rw [Option.map_some, Option.map_some, hnames]

theorem content?_setFile (tree : FileTree) (written : List String) (content : String)
    (names : List String) :
    (tree.setFile written content).content? names =
      if names = written then some content else tree.content? names := by
  rw [setFile]
  split_ifs with hthere hnames hnames
  · simp only [content?, find?_map_replaced, if_pos hnames]
    rw [hnames]
    have hfind : (tree.files.find? fun file => file.1 = written).isSome = true :=
      List.find?_isSome.mpr (List.any_eq_true.mp hthere)
    obtain ⟨found, hfound⟩ := Option.isSome_iff_exists.mp hfind
    rw [hfound]
    rfl
  · simp only [content?, find?_map_replaced, if_neg hnames, Option.map_id']
  · have hfresh : tree.files.find? (fun file => file.1 = written) = none := by
      rw [List.find?_eq_none]
      exact fun file hmem hfile => hthere (List.any_eq_true.mpr ⟨file, hmem, hfile⟩)
    rw [content?, hnames, List.find?_append, hfresh]
    simp
  · rw [content?, List.find?_append, content?]
    simp [Ne.symm hnames]

theorem directories_setFile (tree : FileTree) (written : List String) (content : String) :
    (tree.setFile written content).directories = tree.directories := by
  rw [setFile]
  split_ifs <;> rfl

theorem entry_setFile_self : (tree.setFile names content).entry names = .file content := by
  rw [entry_eq_content?, content?_setFile, if_pos rfl]

theorem entry_setFile_of_ne (hne : names ≠ written) :
    (tree.setFile written content).entry names = tree.entry names := by
  rw [entry_eq_content?, content?_setFile, if_neg hne, directories_setFile, ← entry_eq_content?]

/-- Every directory of one tree is one in another tree. -/
def Covers (before after : FileTree) : Prop :=
  ∀ names, before.entry names = .directory → after.entry names = .directory

theorem Covers.refl (tree : FileTree) : tree.Covers tree := fun _ hnames => hnames

theorem Covers.trans (hfirst : before.Covers between) (hsecond : between.Covers after) :
    before.Covers after := fun names hnames => hsecond names (hfirst names hnames)

/-- Path pieces lead to the same place as long as the directories on the way are there. -/
theorem Covers.walk_eq (hcovers : before.Covers after) {pieces start reached : List String}
    (hwalk : before.walk start pieces = .ok reached) :
    after.walk start pieces = .ok reached := by
  induction pieces generalizing start with
  | nil => exact hwalk
  | cons piece rest ih =>
      rw [walk] at hwalk
      have hstart : before.entry start = .directory := by
        cases hentry : before.entry start with
        | directory => rfl
        | missing => rw [hentry] at hwalk; cases hwalk
        | file content => rw [hentry] at hwalk; cases hwalk
      rw [walk, hcovers start hstart]
      rw [hstart] at hwalk
      dsimp only at hwalk ⊢
      split_ifs at hwalk ⊢
      · exact ih hwalk
      · exact ih hwalk
      · exact ih hwalk

theorem Covers.place_eq (hcovers : before.Covers after)
    (hplace : before.place path = .ok names) : after.place path = .ok names := by
  rw [place] at hplace ⊢
  split_ifs at hplace ⊢
  exact hcovers.walk_eq hplace

/-- A file that is set takes no directory away. -/
theorem covers_setFile (content : String) (hwritten : tree.entry written ≠ .directory) :
    tree.Covers (tree.setFile written content) := by
  intro names hnames
  have hne : names ≠ written := fun heq => hwritten (heq ▸ hnames)
  rw [entry_setFile_of_ne hne, hnames]

/-! ### Directories -/

/-- One tree is another one with more directories. -/
structure Extends (before after : FileTree) : Prop where
  files : after.files = before.files
  directories : before.directories ⊆ after.directories

theorem Extends.refl (tree : FileTree) : tree.Extends tree := ⟨rfl, List.Subset.refl _⟩

theorem Extends.trans (hfirst : before.Extends between) (hsecond : between.Extends after) :
    before.Extends after :=
  ⟨hsecond.files.trans hfirst.files, List.Subset.trans hfirst.directories hsecond.directories⟩

theorem Extends.content?_eq (hextends : before.Extends after) (names : List String) :
    after.content? names = before.content? names := by
  rw [content?, hextends.files, content?]

/-- More directories beside the same files take no directory away. -/
theorem Extends.covers (hextends : before.Extends after) : before.Covers after := by
  intro names hnames
  rw [entry_eq_content?] at hnames ⊢
  rw [hextends.content?_eq]
  cases hfile : before.content? names with
  | some content => rw [hfile] at hnames; cases hnames
  | none =>
      rw [hfile] at hnames
      simp only [ite_eq_left_iff, reduceCtorEq, imp_false, not_not, Bool.or_eq_true,
        List.contains_eq_mem, decide_eq_true_eq] at hnames ⊢
      exact hnames.imp_right fun hmem => hextends.directories hmem

theorem extends_makeDirectory {components : List String}
    (hmake : tree.makeDirectory components = .ok made) : tree.Extends made := by
  rw [makeDirectory] at hmake
  split at hmake
  · cases hmake
  · split at hmake
    · cases hmake
      exact ⟨rfl, List.subset_append_left _ _⟩
    · cases hmake

theorem extends_ensureDirectory {components : List String}
    (hmake : tree.ensureDirectory components = .ok made) : tree.Extends made := by
  rw [ensureDirectory] at hmake
  split at hmake
  · next hmade =>
    cases hmake
    exact extends_makeDirectory hmade
  · split_ifs at hmake
    cases hmake
    exact .refl tree

/-- Making directories leaves the files alone, and the directories that are there. -/
theorem extends_makeDirectories {components : List String}
    (hmake : tree.makeDirectories components = .ok made) : tree.Extends made := by
  induction components generalizing made with
  | nil =>
      cases hmake
      exact .refl tree
  | cons last outer ih =>
      rw [makeDirectories] at hmake
      split at hmake
      · next hmade =>
        cases hmake
        exact extends_ensureDirectory hmade
      · obtain ⟨above, habove, hlast⟩ := bind_eq_ok_iff.mp hmake
        exact (ih habove).trans (extends_ensureDirectory hlast)
      · cases hmake

/-! ### Writing -/

/-- One tree is another one into which a text was written: it is read at the path, and no other
file has changed. -/
structure Rewrites (before : FileTree) (path content : String) (after : FileTree) : Prop where
  written : after.read path = .ok content
  others : ∀ names, after.place path ≠ .ok names → after.content? names = before.content? names

theorem rewrites_writeFile (hwrite : tree.writeFile path content = .ok after) :
    tree.Rewrites path content after := by
  rw [writeFile] at hwrite
  split at hwrite
  · cases hwrite
  · cases hwrite
  · next names hplace =>
    split at hwrite
    · cases hwrite
    · next hentry =>
      cases hwrite
      have hafter := (covers_setFile content hentry).place_eq hplace
      constructor
      · rw [read, hafter]
        dsimp only
        rw [entry_setFile_self]
      · intro other hother
        rw [content?_setFile, if_neg]
        exact fun heq => hother (heq ▸ hafter)

/-- Whether a text can be written does not depend on the text. -/
theorem isOk_write (other : String) :
    (tree.write path content).isOk = (tree.write path other).isOk := by
  rw [write, write]
  cases tree.makeDirectories (pathComponents path).dropLast.reverse with
  | error fault => rfl
  | ok made =>
      change (made.writeFile path content).isOk = (made.writeFile path other).isOk
      rw [writeFile, writeFile]
      split
      · rfl
      · rfl
      · split <;> rfl

theorem rewrites_write (hwrite : tree.write path content = .ok after) :
    tree.Rewrites path content after := by
  obtain ⟨made, hmake, hfile⟩ := bind_eq_ok_iff.mp hwrite
  have hrewrites := rewrites_writeFile hfile
  exact ⟨hrewrites.written, fun names hnames =>
    (hrewrites.others names hnames).trans ((extends_makeDirectories hmake).content?_eq names)⟩

/-! ### Names of paths -/

/-- The names that path pieces lead to from a directory, whatever stands there. -/
def resolve (names : List String) : List String → Option (List String)
  | [] => some names
  | piece :: rest =>
    if piece = "" ∨ piece = "." then resolve names rest
    else if piece = ".." then if names.isEmpty then none else resolve names.dropLast rest
    else resolve (names ++ [piece]) rest

/-- The names that a path leads to from the working directory, whatever stands there. -/
def namesOf? (path : String) : Option (List String) :=
  if path.isEmpty || path.startsWith "/" then none else resolve [] (pathPieces path)

/-- Where path pieces lead to a place in a tree, they name it. -/
theorem resolve_of_walk {pieces start : List String} (hwalk : tree.walk start pieces = .ok names) :
    resolve start pieces = some names := by
  induction pieces generalizing start with
  | nil => exact congrArg some (Except.ok.inj hwalk)
  | cons piece rest ih =>
      rw [walk] at hwalk
      split at hwalk
      · cases hwalk
      · cases hwalk
      · rw [resolve]
        split_ifs at hwalk ⊢
        · exact ih hwalk
        · exact ih hwalk
        · exact ih hwalk

theorem namesOf?_of_place (hplace : tree.place path = .ok names) :
    namesOf? path = some names := by
  rw [place] at hplace
  rw [namesOf?]
  split_ifs at hplace ⊢
  exact resolve_of_walk hplace

/-- Two paths do not name the same file. -/
def NamesApart (path other : String) : Prop :=
  ∀ names, namesOf? path = some names → namesOf? other ≠ some names

theorem namesApart_of_ne {other : String} {otherNames : List String}
    (hpath : namesOf? path = some names) (hother : namesOf? other = some otherNames)
    (hne : names ≠ otherNames) : NamesApart path other := by
  intro found hfound hsame
  rw [hpath] at hfound
  rw [hother] at hsame
  exact hne (Option.some.inj (hfound.trans hsame.symm))

/-! ### What reading depends on -/

theorem toOption_read (hplace : tree.place path = .ok names) :
    (tree.read path).toOption = tree.content? names := by
  rw [read, hplace]
  dsimp only
  rw [entry_eq_content?]
  cases tree.content? names with
  | some content => rfl
  | none =>
      dsimp only
      split_ifs <;> rfl

theorem isFile_eq_isSome (tree : FileTree) (path : String) :
    tree.isFile path = (tree.read path).toOption.isSome := by
  rw [isFile]
  cases tree.read path <;> rfl

theorem exists_place_of_read (hread : tree.read path = .ok content) :
    ∃ names, tree.place path = .ok names := by
  rw [read] at hread
  split at hread
  · cases hread
  · next names hplace => exact ⟨names, hplace⟩

/-- Where any path leads to a place, the working directory is a directory. -/
theorem entry_root_of_place (hplace : tree.place path = .ok names) :
    tree.entry [] = .directory := by
  rw [place] at hplace
  split_ifs at hplace
  obtain ⟨piece, rest, hpieces⟩ := List.exists_cons_of_ne_nil (l := pathPieces path)
    (by simp [pathPieces, Text.splitOnChar_ne_nil])
  rw [hpieces, walk] at hplace
  cases hentry : tree.entry [] with
  | directory => rfl
  | missing => rw [hentry] at hplace; cases hplace
  | file content => rw [hentry] at hplace; cases hplace

/-! ### Writing leaves other files alone -/

theorem covers_writeFile (hwrite : tree.writeFile path content = .ok after) :
    tree.Covers after := by
  rw [writeFile] at hwrite
  split at hwrite
  · cases hwrite
  · cases hwrite
  · split at hwrite
    · cases hwrite
    · next hentry =>
        cases hwrite
        exact covers_setFile _ hentry

theorem covers_write (hwrite : tree.write path content = .ok after) : tree.Covers after := by
  obtain ⟨made, hmake, hfile⟩ := bind_eq_ok_iff.mp hwrite
  exact (extends_makeDirectories hmake).covers.trans (covers_writeFile hfile)

/-- One tree has the files of another one but for the file that a path names, and all of its
directories. -/
structure KeepsOthers (before : FileTree) (path : String) (after : FileTree) : Prop where
  covers : before.Covers after
  content : ∀ names, namesOf? path ≠ some names → after.content? names = before.content? names

theorem KeepsOthers.refl (tree : FileTree) (path : String) : tree.KeepsOthers path tree :=
  ⟨.refl tree, fun _ _ => rfl⟩

theorem KeepsOthers.trans (hfirst : before.KeepsOthers path between)
    (hsecond : between.KeepsOthers path after) : before.KeepsOthers path after :=
  ⟨hfirst.covers.trans hsecond.covers, fun names hnames =>
    (hsecond.content names hnames).trans (hfirst.content names hnames)⟩

/-- Rewriting the file at a path keeps all others. -/
theorem Rewrites.keepsOthers (hrewrites : before.Rewrites path content after)
    (hcovers : before.Covers after) : before.KeepsOthers path after :=
  ⟨hcovers, fun names hnames => hrewrites.others names fun hplace =>
    hnames (namesOf?_of_place hplace)⟩

/-- What is read at a place of another name stays the same. -/
theorem KeepsOthers.toOption_read_eq {other : String} (hkeeps : before.KeepsOthers path after)
    (hapart : NamesApart path other) (hplace : before.place other = .ok names) :
    (after.read other).toOption = (before.read other).toOption := by
  have hother : namesOf? path ≠ some names := fun hpath =>
    hapart names hpath (namesOf?_of_place hplace)
  calc (after.read other).toOption
      = after.content? names := toOption_read (hkeeps.covers.place_eq hplace)
    _ = before.content? names := hkeeps.content names hother
    _ = (before.read other).toOption := (toOption_read hplace).symm

end MarkedRoutes.FileTree
