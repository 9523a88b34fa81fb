import ClusterLock.Text.Segments
import ClusterLock.Text.Utf8

/-
  Files and directories below a root, and the working directory among them. A path is looked up
  part by part: a point stays where it is, two points go up, and everything before the last part
  must be a directory. Making a directory makes those on the way to it, unless a file is in the
  way.
-/
namespace ClusterLock

/-- A place in a tree, by the names on the way from the root. -/
abbrev Place := List String

structure FileTree where
  /-- The working directory. -/
  here : Place := []
  files : List (Place × Content) := []
  /-- Directories that are there even if no file is in them. -/
  dirs : List Place := []
deriving Repr

/-- Why a directory cannot be made. -/
inductive DirectoryFault
  | taken
  | notDirectory
  | nameTooLong
  | nullInName
deriving DecidableEq, Repr

def DirectoryFault.message : DirectoryFault → String
  | taken => "File exists (os error 17)"
  | notDirectory => "Not a directory (os error 20)"
  | nameTooLong => "File name too long (os error 36)"
  | nullInName => "file name contained an unexpected NUL byte"

/-- The parts of a path. -/
def pathParts (path : String) : List String := partsOf '/' path

/-- Parts that lead nowhere else. -/
def staysPut (part : String) : Bool := part == "" || part == "."

namespace FileTree

/-- Files by their paths below a working directory; a path without content is a directory. -/
def ofList (here : Place) (entries : List (String × Option Content)) : FileTree :=
  entries.foldl (fun t (path, content) =>
    let place := here ++ (pathParts path).filter (!staysPut ·)
    match content with
    | some c => { t with files := t.files ++ [(place, c)] }
    | none => { t with dirs := t.dirs ++ [place] }) { here }

def file? (t : FileTree) (p : Place) : Option Content := t.files.lookup p

/-- Whether there is a directory: the root, one that is there on its own, or one in which
something is. -/
def isDir (t : FileTree) (p : Place) : Bool :=
  (t.file? p).isNone && ([] :: t.here :: t.files.map (·.1) ++ t.dirs).any p.isPrefixOf

/-- Where the parts of a path lead from a place, if every part but the last is a directory. -/
def walk (t : FileTree) : Place → List String → Option Place
  | p, [] => some p
  | p, part :: rest =>
    if !t.isDir p then none
    else if staysPut part then walk t p rest
    else if part = ".." then walk t p.dropLast rest
    else walk t (p ++ [part]) rest

/-- The place from which a path is looked up. -/
def origin (t : FileTree) (path : String) : Place := if path.startsWith "/" then [] else t.here

/-- Where a path leads if everything on the way is a directory. -/
def placeOf (t : FileTree) (path : String) : Place :=
  (pathParts path).foldl (fun p part =>
    if staysPut part then p else if part = ".." then p.dropLast else p ++ [part]) (t.origin path)

/-- Where a path leads. -/
def locate (t : FileTree) (path : String) : Option Place :=
  t.walk (t.origin path) (pathParts path)

/-- The file that a path leads to. A path that ends like one of a directory leads to none. -/
def read? (t : FileTree) (path : String) : Option Content := do
  let p ← t.locate path
  if (pathParts path).getLast?.any staysPut then none else t.file? p

/-- Adds a directory if it is not there. -/
def addDir (t : FileTree) (p : Place) : FileTree :=
  if t.isDir p then t else { t with dirs := t.dirs ++ [p] }

/-- The longest name, in bytes. -/
def maxNameLength : Nat := 255

/-- The longest path, in bytes. -/
def maxPathLength : Nat := 4095

/-- Goes along the parts of a path and makes the directories that are missing. A file in the way
stops the walk. -/
def walkMaking (t : FileTree) : Place → List String → Except DirectoryFault Place × FileTree
  | p, [] => (.ok p, t)
  | p, part :: rest =>
    if staysPut part then walkMaking t p rest
    else if part = ".." then walkMaking t p.dropLast rest
    else if part.utf8ByteSize > maxNameLength then (.error .nameTooLong, t)
    else match t.file? (p ++ [part]) with
      | some _ => (.error (if rest.all (· == "") then .taken else .notDirectory), t)
      | none => walkMaking (t.addDir (p ++ [part])) (p ++ [part]) rest

/-- Makes a directory and those on the way to it, and says where it is. -/
def makeDirs (t : FileTree) (path : String) : Except DirectoryFault Place × FileTree :=
  if path.toList.contains '\x00' then (.error .nullInName, t)
  else if path.utf8ByteSize > maxPathLength then (.error .nameTooLong, t)
  else t.walkMaking (t.origin path) (pathParts path)

/-- Adds a text at the end of a file, which is made if it is not there. -/
def append (t : FileTree) (p : Place) (text : String) : FileTree :=
  match t.file? p with
  | none => { t with files := t.files ++ [(p, .text text)] }
  | some _ =>
    { t with files := t.files.map fun (q, c) => if q = p then (q, c.append text) else (q, c) }

/-- What is below the working directory, in the order of the texts: files by their relative
paths, directories with a slash at the end. -/
def listing (t : FileTree) : List String :=
  let below (p : Place) : Option Place :=
    if t.here.isPrefixOf p then some (p.drop t.here.length) else none
  let above (p : Place) : List Place := (List.range p.length).map fun n => p.take (n + 1)
  let files := t.files.filterMap fun f => below f.1
  let dirs := (t.dirs.filterMap below ++ files.map List.dropLast).flatMap above
  let shown := files.map "/".intercalate ++ dirs.map fun p => "/".intercalate p ++ "/"
  shown.eraseDups.mergeSort

end FileTree

/-- The last part of a path that names something, if it does not go up. -/
def fileName? (path : String) : Option String :=
  ((pathParts path).filter (!staysPut ·)).getLast?.filter (· ≠ "..")

/-- The part of a path's last name after its last point; a point in front begins no extension. -/
def extension? (path : String) : Option String := do
  let name ← fileName? path
  match (partsOf '.' name).reverse with
  | last :: before :: more => if before.isEmpty ∧ more.isEmpty then none else some last
  | _ => none

/-- A path without the slashes and points at its end. -/
def trimPath (path : String) : String :=
  "/".intercalate ((pathParts path).reverse.dropWhile staysPut).reverse

/-- The path of what is named from the directory of a file. -/
def siblingPath (file name : String) : String :=
  let dir := (pathParts (trimPath file)).dropLast
  if name.startsWith "/" ∨ dir = [] then name else "/".intercalate (dir ++ [name])

end ClusterLock
