/-!
Files and directories below a working directory. Paths are relative, and their parts are followed
one by one.
-/
namespace Walkthrough

namespace Path

def pieces (path : String) : List String := path.splitOn "/"

def isRooted (path : String) : Bool :=
  match path.toList with
  | '/' :: _ => true
  | drive :: ':' :: slash :: _ => drive.isAlpha && (slash == '\\' || slash == '/')
  | _ => false

def below (directory path : String) : String :=
  match directory.toList.getLast? with
  | none => path
  | some '/' => directory ++ path
  | some _ => directory ++ "/" ++ path

end Path

inductive FileFault where
  | notFound
  | notDirectory
  | isDirectory
  | denied
  | notText
  | badPath
deriving DecidableEq, Repr

def FileFault.message : FileFault → String
  | .notFound => "No such file or directory (os error 2)"
  | .notDirectory => "Not a directory (os error 20)"
  | .isDirectory => "Is a directory (os error 21)"
  | .denied => "Permission denied (os error 13)"
  | .notText => "stream did not contain valid UTF-8"
  | .badPath => "file name contained an unexpected NUL byte"

inductive Entry where
  | file (bytes : List UInt8)
  | directory
deriving DecidableEq, Repr

/-- A place is named by the parts of its path, the last one first. -/
abbrev Place := List String

/-- Every part of a file's or directory's place names a directory, its own name aside. -/
structure FileTree where
  files : List (Place × List UInt8) := []
  directories : List Place := []
deriving Repr

namespace FileTree

def place (path : String) : Place :=
  ((Path.pieces path).filter fun part => part != "" && part != ".").reverse

def ofFiles (files : List (String × List UInt8)) (directories : List String) : FileTree :=
  ⟨files.map fun (path, bytes) => (place path, bytes), directories.map place⟩

def isDirectoryPlace (t : FileTree) (p : Place) : Bool :=
  p.isEmpty || t.directories.any p.isSuffixOf || t.files.any fun (q, _) => p != q && p.isSuffixOf q

def entry? (t : FileTree) (p : Place) : Option Entry :=
  match t.files.lookup p with
  | some bytes => some (.file bytes)
  | none => if t.isDirectoryPlace p then some .directory else none

def follow (t : FileTree) : Place → List String → Except FileFault Place
  | here, [] => .ok here
  | here, part :: rest =>
    match t.entry? here with
    | none => .error .notFound
    | some (.file _) => .error .notDirectory
    | some .directory =>
      if part = "" ∨ part = "." then t.follow here rest
      else if part = ".." then t.follow here.tail rest
      else t.follow (part :: here) rest

def find (t : FileTree) (path : String) : Except FileFault (Place × Entry) := do
  if path.toList.any (·.toNat == 0) then throw .badPath
  if path = "" ∨ path.startsWith "/" then throw .notFound
  let here ← t.follow [] (Path.pieces path)
  match t.entry? here with
  | some found => return (here, found)
  | none => throw .notFound

def fileNames (t : FileTree) (directory : Place) : List String :=
  t.files.filterMap fun (p, _) =>
    match p with
    | name :: parent => if parent = directory then some name else none
    | [] => none

def list (t : FileTree) (path : String) : Option (List String) :=
  match t.find path with
  | .ok (here, .directory) => some (t.fileNames here)
  | _ => none

def readText (t : FileTree) (path : String) : Except FileFault String := do
  match ← t.find path with
  | (_, .directory) => throw .isDirectory
  | (_, .file bytes) =>
    match String.fromUTF8? ⟨bytes.toArray⟩ with
    | some text => return text
    | none => throw .notText

def save (t : FileTree) (path text : String) : Except FileFault FileTree := do
  if path.toList.any (·.toNat == 0) then throw .badPath
  if path = "" ∨ path.startsWith "/" then throw .notFound
  match ((Path.pieces path).filter (· != "")).reverse with
  | [] => throw .isDirectory
  | name :: parents =>
    let here ← t.follow [] parents.reverse
    match t.entry? here with
    | none => throw .notFound
    | some (.file _) => throw .notDirectory
    | some .directory =>
      let place := name :: here
      if name = "." ∨ name = ".." ∨ path.endsWith "/" ∨ t.isDirectoryPlace place then
        throw .isDirectory
      let others := t.files.filter fun (p, _) => p != place
      return { t with files := (place, text.toUTF8.toList) :: others }

end FileTree

end Walkthrough
