import BundleBinding.Registry

/-!
Paths as texts whose parts are joined by slashes, and directory trees: the texts of files and the
directories that hold them, by their paths below a root.
-/

namespace BundleBinding

abbrev Location := List String

structure FileTree where
  files : Registry Location String
  directories : List Location
  deriving Repr

inductive ReadFault where
  | missing
  | notADirectory
  | isADirectory
  deriving Repr, DecidableEq

def ReadFault.message : ReadFault → String
  | missing => "No such file or directory (os error 2)"
  | notADirectory => "Not a directory (os error 20)"
  | isADirectory => "Is a directory (os error 21)"

namespace FilePath

/-- The path one part further; an absolute part begins anew. -/
def push (path part : String) : String :=
  if part.startsWith "/" || path.isEmpty then part
  else if path.endsWith "/" then path ++ part
  else path ++ "/" ++ part

def ofParts (parts : List String) : String :=
  parts.foldl push ""

/-- The parts between the slashes of a path. -/
def split : List Char → List (List Char)
  | [] => [[]]
  | '/' :: text => [] :: split text
  | c :: text =>
      match split text with
      | [] => [[c]]
      | part :: others => (c :: part) :: others

/-- Where a path leads from the root; none if it climbs above the root. -/
def locate (path : String) : Option Location :=
  ((split path.toList).map String.ofList).foldlM
    (fun location part =>
      if part.isEmpty || part == "." then some location
      else if part == ".." then
        if location.isEmpty then none else some location.dropLast
      else some (location ++ [part]))
    []

/-- No directory holds an entry of more than 255 bytes or with a NUL in its name. -/
def isEntryName (part : String) : Bool :=
  part.utf8ByteSize ≤ 255 && !part.toList.contains '\x00'

end FilePath

namespace FileTree

def empty : FileTree :=
  ⟨Registry.empty, []⟩

def isFile (tree : FileTree) (location : Location) : Bool :=
  tree.files.contains location

def isDirectory (tree : FileTree) (location : Location) : Bool :=
  location.isEmpty || decide (location ∈ tree.directories)

/-- The locations on the way to one, the root and itself excluded. -/
def above (location : Location) : List Location :=
  (List.range (location.length - 1)).map fun count => location.take (count + 1)

def addDirectories (tree : FileTree) (locations : List Location) : FileTree :=
  let new := locations.filter fun location => decide (location ∉ tree.directories)
  { tree with directories := tree.directories ++ new }

/-- Writes a file and makes the directories above it; none if something on the way is a file, if the
place is taken by a directory, or if a name is none for an entry. -/
def write? (tree : FileTree) (location : Location) (text : String) : Option FileTree :=
  let parents := above location
  if location.all FilePath.isEntryName && !parents.any tree.isFile &&
      !tree.isDirectory location then
    some { tree.addDirectories parents with files := tree.files.insert location text }
  else none

/-- The tree of the given files; a path that none can have is left out. -/
def ofTexts (texts : List (String × String)) : FileTree :=
  texts.foldl (fun tree (path, text) =>
    ((FilePath.locate path).bind fun location => tree.write? location text).getD tree) empty

/-- The paths and texts of the files that are new or different since the tree `before`. -/
def changesSince (tree before : FileTree) : List (String × String) :=
  let changed := tree.files.entries.filter fun (location, text) =>
    before.files.get? location != some text
  changed.map fun (location, text) => ("/".intercalate location, text)

def read (tree : FileTree) (path : String) : Except ReadFault String :=
  match FilePath.locate path with
  | none => throw .missing
  | some location =>
      match tree.files.get? location with
      | some text => if path.endsWith "/" then throw .notADirectory else pure text
      | none =>
          if tree.isDirectory location then throw .isADirectory
          else if (above location).any tree.isFile then throw .notADirectory
          else throw .missing

end FileTree

/-- What a program can do with files: read the text at a path, and write a text to a path, which
tells whether that worked. -/
structure FileAccess (m : Type → Type) where
  read : String → m (Except ReadFault String)
  write : String → String → m Bool

namespace FileTree

def access : FileAccess (StateM FileTree) where
  read path := do return (← get).read path
  write path text := do
    let tree ← get
    match (FilePath.locate path).bind fun location => tree.write? location text with
    | some tree => set tree; return true
    | none => return false

end FileTree

end BundleBinding
