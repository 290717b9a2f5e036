import NetTimeline.Files.Path
import NetTimeline.Text.Quoted

/-!
# File systems

Reference model of `exists`, `is_file`, `open` and `glob`. A file system is what looking up a path
finds: a file with its bytes, a directory with the names of its entries, or a reason why there is
neither.

Main statement: `FileSystem.exists?_eq_true_iff` — a path leads somewhere exactly if looking it up
finds an entry.
-/

set_option autoImplicit false

namespace NetTimeline.Files

/-- What a path leads to; the entries of a directory come in any order. -/
inductive Entry where
  | file (bytes : List UInt8)
  | directory (names : List String)
  deriving DecidableEq, Repr

/-- Why a path leads nowhere, or not to a file. -/
inductive PathProblem where
  | notFound
  | notDirectory
  | isDirectory
  | nameTooLong
  | tooManyLinks
  /-- The path has a null character in it. -/
  | nullCharacter
  deriving DecidableEq, Repr

/-- The system's number and text of a problem; a null character has none, as such a path is never
looked up. -/
def PathProblem.system? : PathProblem → Option (Nat × String)
  | .notFound => some (2, "No such file or directory")
  | .notDirectory => some (20, "Not a directory")
  | .isDirectory => some (21, "Is a directory")
  | .nameTooLong => some (36, "File name too long")
  | .tooManyLinks => some (40, "Too many levels of symbolic links")
  | .nullCharacter => none

/-- A path that cannot be opened. -/
structure FileError where
  problem : PathProblem
  path : String
  deriving DecidableEq, Repr

def FileError.message (error : FileError) : String :=
  match error.problem.system? with
  | some (number, text) =>
    "[Errno " ++ toString number ++ "] " ++ text ++ ": " ++ Text.quoted error.path
  | none => "embedded null byte"

/-- What looking up a path finds. -/
structure FileSystem where
  find : String → Except PathProblem Entry

namespace FileSystem

/-- The file system of paths that have been looked up; there is nothing else. -/
def ofList (found : List (String × Except PathProblem Entry)) : FileSystem :=
  ⟨fun path => (found.lookup path).getD (.error .notFound)⟩

/-- Whether a path leads somewhere. That a name is too long is no answer to it. -/
def exists? (files : FileSystem) (path : String) : Except FileError Bool :=
  match files.find path with
  | .ok _ => .ok true
  | .error .nameTooLong => .error ⟨.nameTooLong, path⟩
  | .error _ => .ok false

theorem exists?_eq_true_iff (files : FileSystem) (path : String) :
    files.exists? path = .ok true ↔ ∃ entry, files.find path = .ok entry := by
  unfold exists?
  split <;> simp_all

/-- The bytes of a file. -/
def read (files : FileSystem) (path : String) : Except FileError (List UInt8) :=
  match files.find path with
  | .ok (.file bytes) => .ok bytes
  | .ok (.directory _) => .error ⟨.isDirectory, path⟩
  | .error problem => .error ⟨problem, path⟩

/-- Whether a path leads to a file. -/
def isFile (files : FileSystem) (path : String) : Bool :=
  match files.find path with
  | .ok (.file _) => true
  | _ => false

/-- The names in a directory; none if the path leads to anything else, or nowhere. -/
def names (files : FileSystem) (path : String) : Except FileError (List String) :=
  match files.find path with
  | .ok (.directory names) => .ok names
  | .error .nameTooLong => .error ⟨.nameTooLong, path⟩
  | _ => .ok []

end FileSystem

end NetTimeline.Files
