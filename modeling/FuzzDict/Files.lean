import FuzzDict.Failure
/-!
# A tree of files

The files a run can read, below its working directory: the directories, and
the files with their bytes. A directory exists when it is named, or when a
file or a named directory lies below it.

A path is read name by name from the working directory. Empty names and
`.` stay where they are. A name that does not exist fails with `notFound`;
a file followed by more of the path, even a bare trailing `/`, fails with
`notDirectory`. Reading a directory fails with `isDirectory`; the empty path
names nothing.

Before any name is looked up, a path with a NUL character is refused, and so
is a path of `pathMax` bytes or more. A name of more than `nameMax` bytes is
refused when the walk reaches it, inside a directory that exists.

A path that starts with `/` leaves the working directory for the root of the
file system. Of that tree a run knows only that the root is a directory: the
walk goes through a tree with no files in it.
-/

namespace FuzzDict

/-- Files and directories below a working directory, each named by its path
of names. -/
structure Files where
  dirs : List (List String)
  files : List (List String × List UInt8)

/-- What a path leads to. -/
inductive Node where
  | dir
  | file (bytes : List UInt8)

namespace Files

/-- The names of a relative path, without empty names and `.`. -/
def names (path : String) : List String :=
  (path.splitOn "/").filter fun n => n ≠ "" && n ≠ "."

/-- A tree with the given directories and files, each given by its path. -/
def ofPaths (dirs : List String) (files : List (String × List UInt8)) : Files :=
  ⟨dirs.map names, files.map fun (p, b) => (names p, b)⟩

/-- The bytes of the file at a path of names. -/
def fileAt? (fs : Files) (p : List String) : Option (List UInt8) :=
  (fs.files.find? (·.1 = p)).map (·.2)

/-- A path of names is a directory: the working directory, a named directory,
or a directory above a file or a named directory. -/
def isDirAt (fs : Files) (p : List String) : Bool :=
  p.isEmpty || fs.dirs.any (fun d => p.isPrefixOf d) ||
    fs.files.any (fun f => p.isPrefixOf f.1 && p ≠ f.1)

/-- The most bytes of one name in a path. -/
def nameMax : Nat := 255

/-- A path must be shorter than this many bytes. -/
def pathMax : Nat := 4096

/-- Follows the names of a path from the directory `here`. -/
def walk (fs : Files) (here : List String) : List String → Except ReadError Node
  | [] => .ok .dir
  | n :: rest =>
    if n = "" ∨ n = "." then fs.walk here rest
    else if n.utf8ByteSize > nameMax then .error .nameTooLong
    else
      let p := here ++ [n]
      match fs.fileAt? p with
      | some bytes => if rest.isEmpty then .ok (.file bytes) else .error .notDirectory
      | none => if fs.isDirAt p then fs.walk p rest else .error .notFound

/-- The tree outside the working directory, as a run sees it: the root alone. -/
def outside : Files :=
  ⟨[], []⟩

/-- The bytes of the file at a path. -/
def read (fs : Files) (path : String) : Except ReadError (List UInt8) :=
  if path.contains '\x00' then .error .nulInName
  else if path.isEmpty then .error .notFound
  else if path.utf8ByteSize ≥ pathMax then .error .nameTooLong
  else
    let tree := if path.startsWith "/" then outside else fs
    match tree.walk [] (path.splitOn "/") with
    | .ok (.file bytes) => .ok bytes
    | .ok .dir => .error .isDirectory
    | .error e => .error e

end Files

end FuzzDict
