import Sluice.Error
import Sluice.Text.Ascii
import Sluice.Text.Percent

/-!
# Where a database is

A database lives in memory, in a file, or where a `file:` URI says. Paths of files are made absolute
first, and the directory of a file must exist.
-/

namespace Sluice.Sqlite

open Text

/-- What is known about the files around. -/
structure Surroundings where
  /-- The home directory of the user. -/
  home : Option String := none
  workingDirectory : String := "/"
  isDirectory : String → Bool
  /-- Whether there is something else at a path. -/
  isFile : String → Bool := fun _ => false

namespace Location

/-- A path relative to a directory, or itself if it is absolute. -/
def join (directory path : String) : String :=
  if path.startsWith "/" || directory.isEmpty then path
  else if directory.endsWith "/" then directory ++ path
  else directory ++ "/" ++ path

/-- Drop what names no further component at the end of a reversed path: slashes, and dots that stand
alone. -/
def dropIdle : List Char → List Char
  | '/' :: rest => dropIdle rest
  | '.' :: '/' :: rest => dropIdle rest
  | cs => cs

/-- The directory of an absolute path; the root has none. -/
def parent? (path : String) : Option String :=
  match dropIdle path.toList.reverse with
  | [] => none
  | cs =>
    let rest := dropIdle (cs.dropWhile (· ≠ '/'))
    some (if rest.isEmpty then "/" else String.ofList rest.reverse)

/-- The absolute path of a database file. -/
def expand (s : Surroundings) (path : String) : Except Error String :=
  match path.toList with
  | '~' :: '/' :: rest =>
    match s.home with
    | none => .error (.configuration .homeUnknown)
    | some home => .ok (join s.workingDirectory (join home (String.ofList rest)))
  | '~' :: _ => .error (.configuration .homeOfOtherUser)
  | _ => .ok (join s.workingDirectory path)

/-- Whether a file can be opened, or made where it is missing. No path holds a zero byte. -/
def isOpenable (s : Surroundings) (path : String) : Bool :=
  !s.isDirectory path && (parent? path).any s.isDirectory && !path.toList.contains '\x00'

def parameters (cs : List Char) : List (String × String) :=
  (splitChar '&' (cs.takeWhile (· ≠ '#'))).map fun part =>
    let key := part.takeWhile (· ≠ '=')
    let value := part.drop (key.length + 1)
    (ofUtf8Lossy (percentBytes key), ofUtf8Lossy (percentBytes value))

def fileSystems : List String := ["unix", "unix-none", "unix-dotfile", "unix-excl", "memdb"]

/-- Whether the database of a URI, without its scheme, can be opened. -/
def isOpenableUri (s : Surroundings) (cs : List Char) : Bool :=
  let (authorityFits, cs) := match cs with
    | '/' :: '/' :: rest =>
      let authority := rest.takeWhile (· ≠ '/')
      (authority.isEmpty || authority = "localhost".toList, rest.drop authority.length)
    | cs => (true, cs)
  let path := cs.takeWhile fun c => c ≠ '?' && c ≠ '#'
  let options := match cs.drop path.length with
    | '?' :: rest => parameters rest
    | _ => []
  let modes := options.filter (·.1 = "mode")
  let caches := options.filter (·.1 = "cache")
  let systems := options.filter (·.1 = "vfs")
  let path := ofUtf8Lossy (percentBytes path)
  let inMemory := path.isEmpty || path = ":memory:" || modes.any (·.2 = "memory")
  let full := join s.workingDirectory path
  authorityFits && modes.all (fun m => ["ro", "rw", "rwc", "memory"].contains m.2) &&
    caches.all (fun c => ["shared", "private"].contains c.2) &&
    systems.all (fun v => fileSystems.contains v.2) &&
    (inMemory || (if modes.any fun m => m.2 = "ro" || m.2 = "rw" then s.isFile full
      else isOpenable s full))

/-- Check that a database can be opened. -/
def resolve (s : Surroundings) (path : String) : Except Error Unit :=
  let failed (path : String) : Except Error Unit :=
    .error (.connection (.cannotOpenDatabase path ("unable to open database file: " ++ path)))
  if path = ":memory:" then .ok ()
  else
    match dropPrefix? "file:".toList path.toList with
    | some uri => if isOpenableUri s uri then .ok () else failed path
    | none =>
      match expand s path with
      | .error e => .error e
      | .ok full =>
        match parent? full with
        | none => failed full
        | some directory =>
          if !s.isDirectory directory && !s.isFile directory then
            .error (.connection (.missingParentDirectory directory))
          else if isOpenable s full then .ok ()
          else failed full

example : parent? "/a/./x.db" = some "/a" ∧ parent? "/a/" = some "/" ∧ parent? "/" = none := by
  decide +kernel
example : parent? "/./a/../é/x" = some "/./a/../é" := by decide +kernel

end Location

end Sluice.Sqlite
