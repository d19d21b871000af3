import NetNode.Os.IoError

/-!
# The files a program sees

A file tree holds the directories that exist and the files with their bytes, each named by its
absolute path (`/` alone for the root, otherwise components joined by single slashes).

A path is resolved one component at a time, from the root or, when it is relative, from the
working directory. Empty components and `.` stay where they are and `..` goes up, staying at
the root. Every component with another after it must name a directory: a missing one fails
with `ENOENT` and a file with `ENOTDIR`. A path that ends with a slash, `.` or `..` asks for a
directory.

Reading a directory opens it and then fails with `EISDIR`. Writing creates or replaces a
file; it fails with `EISDIR` on a directory and on a missing name that is asked to be a
directory, and with `ENOTDIR` on a file that is asked to be one.
-/

namespace NetNode.Files

open NetNode.Os

/-- What a path names: a directory, or a file with its bytes. -/
inductive Entry where
  | dir
  | file (bytes : ByteArray)

/-- Directories and files by absolute path, and the working directory. -/
structure Tree where
  dirs : List String := ["/"]
  files : List (String × ByteArray) := []
  cwd : String := "/"
  deriving Inhabited

/-- The non-empty components of a path. -/
def parts (path : String) : List String := (path.splitOn "/").filter (· ≠ "")

/-- The absolute path of a list of components. -/
def join (cs : List String) : String := "/" ++ "/".intercalate cs

/-- What the components name, if anything. -/
def Tree.entry? (t : Tree) (cs : List String) : Option Entry :=
  let p := join cs
  if t.dirs.contains p then some .dir
  else (t.files.find? (·.1 == p)).map fun f => .file f.2

/-- Walk the remaining components from `cur`: every component followed by another must be a
directory. -/
def Tree.walk (t : Tree) (cur : List String) : List String → Except IoError (List String)
  | [] => .ok cur
  | c :: rest =>
    if c = "." then t.walk cur rest
    else if c = ".." then t.walk cur.dropLast rest
    else
      let next := cur ++ [c]
      if rest.isEmpty then .ok next
      else
        match t.entry? next with
        | some .dir => t.walk next rest
        | some (.file _) => .error (.os ENOTDIR)
        | none => .error (.os ENOENT)

/-- Where a path leads, and whether it asks for a directory. The empty path leads nowhere. -/
def Tree.resolve (t : Tree) (path : String) : Except IoError (List String × Bool) :=
  if path.isEmpty then .error (.os ENOENT)
  else
    let start := if path.startsWith "/" then [] else parts t.cwd
    let cs := parts path
    let asksDir := path.endsWith "/" || cs.getLast? == some "." || cs.getLast? == some ".."
    (t.walk start cs).map fun r => (r, asksDir)

/-- What a path names, or why it cannot be looked at. -/
def Tree.stat (t : Tree) (path : String) : Except IoError Entry := do
  let (cs, asksDir) ← t.resolve path
  match t.entry? cs with
  | some .dir => pure .dir
  | some (.file b) => if asksDir then throw (.os ENOTDIR) else pure (.file b)
  | none => throw (.os ENOENT)

/-- Whether a path names something. -/
def Tree.exists (t : Tree) (path : String) : Bool :=
  match t.stat path with
  | .ok _ => true
  | .error _ => false

/-- The bytes of the file at a path. -/
def Tree.read (t : Tree) (path : String) : Except IoError ByteArray := do
  match ← t.stat path with
  | .dir => throw (.os EISDIR)
  | .file b => pure b

/-- Create or replace the file at a path. -/
def Tree.write (t : Tree) (path : String) (bytes : ByteArray) : Except IoError Tree := do
  let (cs, asksDir) ← t.resolve path
  let p := join cs
  let put : Tree := { t with files := (p, bytes) :: t.files.filter (·.1 != p) }
  match t.entry? cs with
  | some .dir => throw (.os EISDIR)
  | some (.file _) => if asksDir then throw (.os ENOTDIR) else pure put
  | none => if asksDir then throw (.os EISDIR) else pure put

/-- The directories of a usual host. -/
def standardDirs : List String :=
  ["/", "/bin", "/boot", "/dev", "/dev/shm", "/etc", "/home", "/lib", "/lib64", "/media",
   "/mnt", "/opt", "/proc", "/root", "/run", "/sbin", "/srv", "/sys", "/tmp", "/usr",
   "/usr/bin", "/usr/include", "/usr/lib", "/usr/local", "/usr/local/bin", "/usr/sbin",
   "/usr/share", "/var", "/var/cache", "/var/lib", "/var/log", "/var/tmp"]

/-- A usual host: its directories, and the empty device file `/dev/null`. -/
def Tree.standard : Tree :=
  { dirs := standardDirs, files := [("/dev/null", ByteArray.empty)] }

/-- The tree with the directory `path` and the directories above it added. -/
def Tree.withDir (t : Tree) (path : String) : Tree :=
  let cs := parts path
  let above := (List.range (cs.length + 1)).map fun n => join (cs.take n)
  { t with dirs := t.dirs ++ above.filter (!t.dirs.contains ·) }

/-- The tree with the file `path` holding `bytes`, and the directories above it added. -/
def Tree.withFile (t : Tree) (path : String) (bytes : ByteArray) : Tree :=
  let cs := parts path
  let t := t.withDir (join cs.dropLast)
  let p := join cs
  { t with files := (p, bytes) :: t.files.filter (·.1 != p) }

end NetNode.Files
