import ClusterHarness.Path
import ClusterHarness.System
import ClusterHarness.Text.Utf8

/-!
# File trees

Directories and files, and the operations that a harness needs on them. A path is walked name by
name from the directory that it counts from; every name but the last one must be a directory.
There are no links.
-/

namespace ClusterHarness

/-- What a name in a directory stands for, and all that is below it. -/
inductive FileTree where
  | directory (entries : List (String × FileTree))
  | file (content : Bytes) (executable : Bool)
  /-- A program that the machine brings along. -/
  | tool (name : String)
  /-- What stands for no file of its own, such as the file that swallows everything. -/
  | device (name : String)
deriving Repr, Inhabited

/-- A place in a file tree: the names on the way from the root. -/
abbrev Location := List String

namespace FileTree

def isDirectory : FileTree → Bool
  | directory _ => true
  | _ => false

/-- What is at a location. -/
def find : FileTree → Location → Except IoError FileTree
  | t, [] => .ok t
  | directory entries, name :: rest =>
    match entries.lookup name with
    | some t => t.find rest
    | none => .error .notFound
  | _, _ :: _ => .error .notADirectory

/-- Change the entry of a name; nothing stands for no entry. A new entry comes last. -/
def alter (name : String) (f : Option FileTree → Option FileTree) :
    List (String × FileTree) → List (String × FileTree)
  | [] => ((f none).map (name, ·)).toList
  | e :: es =>
    if e.1 = name then ((f (some e.2)).map (name, ·)).toList ++ es else e :: alter name f es

/-- Change what is at a location, where its directory exists. -/
def update (f : Option FileTree → Option FileTree) :
    Location → Option FileTree → Option FileTree
  | [], t => f t
  | name :: rest, some (directory entries) => some (directory (alter name (update f rest) entries))
  | _ :: _, t => t

/-- Put a tree at a location, in the place of what was there. -/
def put (root : FileTree) (place : Location) (t : FileTree) : FileTree :=
  (update (fun _ => some t) place (some root)).getD root

/-- Remove what is at a location. The root stays. -/
def remove (root : FileTree) (place : Location) : FileTree :=
  (update (fun _ => none) place (some root)).getD (directory [])

/-! ## Paths in a tree -/

/-- The greatest number of bytes of one name. -/
def maxName : Nat := 255

/-- The least number of bytes that is too long for a path. -/
def pathLimit : Nat := 4096

/-- The location that names lead to from a directory. The last one need not exist. -/
def walk (root : FileTree) (place : Location) : List String → Except IoError Location
  | [] => .ok place
  | name :: rest =>
    match root.find place with
    | .error e => .error e
    | .ok t =>
      if !t.isDirectory then .error .notADirectory
      else if name = ".." then walk root place.dropLast rest
      else if maxName < name.utf8ByteSize then .error .nameTooLong
      else walk root (place ++ [name]) rest

/-- The names of a path. -/
def names (p : Path) : List String :=
  ((Path.segments p.text.toList).filter (!Path.isSilent ·)).map String.ofList

/-- Whether a path can only stand for a directory: nothing, `.` or `..` comes after its last
separator. -/
def meansDirectory (p : Path) : Bool :=
  match (Path.segments p.text.toList).getLast? with
  | none => true
  | some s => Path.isSilent s || s == ['.', '.']

/-- The location of a path that counts from the directory at `base`. -/
def locate (root : FileTree) (base : Location) (p : Path) : Except IoError Location :=
  if p.text.toList.contains '\x00' then .error .containsNul
  else if p.text.isEmpty then .error .notFound
  else if pathLimit ≤ p.text.utf8ByteSize then .error .nameTooLong
  else walk root (if p.isAbsolute then [] else base) (names p)

/-- What a path stands for, and where that is. -/
def resolve (root : FileTree) (base : Location) (p : Path) :
    Except IoError (Location × FileTree) :=
  match locate root base p with
  | .error e => .error e
  | .ok place =>
    match root.find place with
    | .error e => .error e
    | .ok t =>
      if meansDirectory p && !t.isDirectory then .error .notADirectory else .ok (place, t)

def isDirectoryAt (root : FileTree) (base : Location) (p : Path) : Bool :=
  match resolve root base p with
  | .ok (_, t) => t.isDirectory
  | .error _ => false

def isFileAt (root : FileTree) (base : Location) (p : Path) : Bool :=
  match resolve root base p with
  | .ok (_, file ..) => true
  | .ok (_, tool _) => true
  | _ => false

/-- The content of the file at a path. -/
def read (root : FileTree) (base : Location) (p : Path) : Except IoError Bytes :=
  match resolve root base p with
  | .error e => .error e
  | .ok (_, directory _) => .error .isADirectory
  | .ok (_, file content _) => .ok content
  | .ok _ => .ok []

/-- The text of the file at a path. -/
def readText (root : FileTree) (base : Location) (p : Path) : Except IoError String :=
  match read root base p with
  | .error e => .error e
  | .ok content =>
    match Text.ofBytes? content with
    | some text => .ok text
    | none => .error .notText

/-- The location of a file that is to be written: the file exists, or its directory does. -/
def locateFile (root : FileTree) (base : Location) (p : Path) : Except IoError Location :=
  match locate root base p with
  | .error e => .error e
  | .ok place =>
    match root.find place with
    | .ok (directory _) => .error .isADirectory
    | .ok _ => if meansDirectory p then .error .notADirectory else .ok place
    | .error .notFound => if meansDirectory p then .error .isADirectory else .ok place
    | .error e => .error e

/-- Create one directory, whose own directory exists. -/
def createDir (base : Location) (p : Path) (root : FileTree) : Except IoError FileTree :=
  match locate root base p with
  | .error e => .error e
  | .ok place =>
    match root.find place with
    | .ok _ => .error .alreadyExists
    | .error .notFound => .ok (root.put place (directory []))
    | .error e => .error e

/-- Create a directory at the end of at most `depth` missing ones. -/
def createDirsTo (base : Location) : Nat → Path → FileTree → Except IoError Unit × FileTree
  | 0, _, root => (.error .notFound, root)
  | depth + 1, p, root =>
    if p.text.isEmpty then (.ok (), root)
    else
      match createDir base p root with
      | .ok root => (.ok (), root)
      | .error .notFound =>
        match p.parent with
        | none => (.error .notFound, root)
        | some parent =>
          match createDirsTo base depth parent root with
          | (.error e, root) => (.error e, root)
          | (.ok (), root) =>
            match createDir base p root with
            | .ok root => (.ok (), root)
            | .error e => if isDirectoryAt root base p then (.ok (), root) else (.error e, root)
      | .error e => if isDirectoryAt root base p then (.ok (), root) else (.error e, root)

/-- Create a directory and the missing ones above it. A directory that exists is kept. -/
def createDirs (base : Location) (p : Path) (root : FileTree) : Except IoError Unit × FileTree :=
  createDirsTo base (p.text.length + 1) p root

/-- Remove a directory and all that is in it. -/
def removeTree (base : Location) (p : Path) (root : FileTree) : Except IoError Unit × FileTree :=
  match resolve root base p with
  | .error e => (.error e, root)
  | .ok (place, t) =>
    if t.isDirectory then (.ok (), root.remove place) else (.error .notADirectory, root)

/-! ## Listing -/

mutual

/-- Every path in a tree after `before`; those of directories end with a separator. -/
def pathsBelow (before : String) : FileTree → List String
  | directory entries => entryPaths before entries
  | _ => []

def entryPaths (before : String) : List (String × FileTree) → List String
  | [] => []
  | (name, t) :: rest =>
    let path := if t.isDirectory then before ++ name ++ "/" else before ++ name
    path :: pathsBelow path t ++ entryPaths before rest

end

/-- Every path below a location, sorted. -/
def listing (root : FileTree) (place : Location) : List String :=
  match root.find place with
  | .ok t => (pathsBelow "" t).mergeSort fun a b => decide (a ≤ b)
  | .error _ => []

end FileTree
end ClusterHarness
