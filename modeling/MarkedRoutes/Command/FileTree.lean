import MarkedRoutes.Text.Split

/-!
# File trees

The files below a working directory.  A path is read from that directory, name
by name; `.` stays, `..` climbs, and nothing outside the directory exists.
-/

namespace MarkedRoutes

/-- Why a file operation fails. -/
inductive FileFault where
  | notFound
  | alreadyThere
  | notDirectory
  | isDirectory
  deriving DecidableEq, Repr

def FileFault.message : FileFault → String
  | notFound => "No such file or directory (os error 2)"
  | alreadyThere => "File exists (os error 17)"
  | notDirectory => "Not a directory (os error 20)"
  | isDirectory => "Is a directory (os error 21)"

/-- The files and directories below a working directory, by their names from there. -/
structure FileTree where
  files : List (List String × String)
  directories : List (List String)
  deriving DecidableEq, Repr

/-- What stands at a place. -/
inductive FileEntry where
  | file (content : String)
  | directory
  | missing
  deriving DecidableEq, Repr

/-- The pieces of a path between its slashes. -/
def pathPieces (path : String) : List String :=
  (Text.splitOnChar '/' path.toList).map String.ofList

/-- The pieces of a path that matter: all but empty ones and dots, a leading dot apart. -/
def pathComponents (path : String) : List String :=
  match pathPieces path with
  | [] => []
  | first :: rest =>
    (if first.isEmpty then [] else [first]) ++ rest.filter fun piece => piece != "" && piece != "."

namespace FileTree

/-- What stands at a place given by names. -/
def entry (tree : FileTree) (names : List String) : FileEntry :=
  match tree.files.find? fun file => file.1 = names with
  | some file => .file file.2
  | none => if names.isEmpty || tree.directories.contains names then .directory else .missing

/-- The names of the place that path pieces lead to from a directory. -/
def walk (tree : FileTree) (names : List String) : List String → Except FileFault (List String)
  | [] => .ok names
  | piece :: rest =>
    match tree.entry names with
    | .missing => .error .notFound
    | .file _ => .error .notDirectory
    | .directory =>
      if piece = "" ∨ piece = "." then tree.walk names rest
      else if piece = ".." then
        if names.isEmpty then .error .notFound else tree.walk names.dropLast rest
      else tree.walk (names ++ [piece]) rest

/-- The names of the place that a path leads to.  Absolute paths lead out of the tree. -/
def place (tree : FileTree) (path : String) : Except FileFault (List String) :=
  if path.isEmpty || path.startsWith "/" then .error .notFound
  else tree.walk [] (pathPieces path)

def read (tree : FileTree) (path : String) : Except FileFault String :=
  match tree.place path with
  | .error fault => .error fault
  | .ok names =>
    match tree.entry names with
    | .file content => .ok content
    | .directory => .error .isDirectory
    | .missing => .error .notFound

def isFile (tree : FileTree) (path : String) : Bool := (tree.read path).toBool

/-- Replaces the content of a file, or adds the file. -/
def setFile (tree : FileTree) (names : List String) (content : String) : FileTree :=
  if tree.files.any fun file => file.1 = names then
    { tree with
      files := tree.files.map fun file => if file.1 = names then (names, content) else file }
  else { tree with files := tree.files ++ [(names, content)] }

def makeDirectory (tree : FileTree) (components : List String) : Except FileFault FileTree :=
  match tree.walk [] components with
  | .error fault => .error fault
  | .ok names =>
    match tree.entry names with
    | .missing => .ok { tree with directories := tree.directories ++ [names] }
    | _ => .error .alreadyThere

/-- Whether path pieces lead to a directory. -/
def isDirectory (tree : FileTree) (components : List String) : Bool :=
  match tree.walk [] components with
  | .ok names => tree.entry names = .directory
  | .error _ => false

/-- Makes one directory unless it is there. -/
def ensureDirectory (tree : FileTree) (components : List String) : Except FileFault FileTree :=
  match tree.makeDirectory components with
  | .ok made => .ok made
  | .error fault => if tree.isDirectory components then .ok tree else .error fault

/-- Makes a directory and those above it that are missing.  The components come last
first. -/
def makeDirectories (tree : FileTree) : List String → Except FileFault FileTree
  | [] => .ok tree
  | last :: outer =>
    match tree.ensureDirectory (outer.reverse ++ [last]) with
    | .ok made => .ok made
    | .error .notFound => do
      let above ← tree.makeDirectories outer
      above.ensureDirectory (outer.reverse ++ [last])
    | .error fault => .error fault

/-- Writes a file whose directory exists. -/
def writeFile (tree : FileTree) (path content : String) : Except FileFault FileTree :=
  match tree.place path with
  | .error .notFound => .error (if path.endsWith "/" then .isDirectory else .notFound)
  | .error fault => .error fault
  | .ok names =>
    match tree.entry names with
    | .directory => .error .isDirectory
    | _ => .ok (tree.setFile names content)

/-- Writes a file, making the directories above it. -/
def write (tree : FileTree) (path content : String) : Except FileFault FileTree := do
  let made ← tree.makeDirectories (pathComponents path).dropLast.reverse
  made.writeFile path content

/-- Every proper beginning of a list of names. -/
def properPrefixes : List String → List (List String)
  | [] => []
  | [_] => []
  | first :: second :: rest =>
    [first] :: (properPrefixes (second :: rest)).map (first :: ·)

def ofFiles (files : List (String × String)) : FileTree where
  files := files.map fun file => (pathPieces file.1, file.2)
  directories := (files.flatMap fun file => properPrefixes (pathPieces file.1)).eraseDups

def toFiles (tree : FileTree) : List (String × String) :=
  tree.files.map fun file => (Text.joinTexts "/" file.1, file.2)

end FileTree

end MarkedRoutes
