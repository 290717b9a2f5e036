import NetTimeline.Files.System

/-!
# File trees

Reference model of how an operating system resolves a path. A tree of files, directories and
symbolic links is a file system: `Tree.find` follows a path from the directory where the program
works. What lies outside that directory is taken to be empty. A link is followed wherever it stands
on the way; a path that meets more than `maxLinks` of them leads nowhere.

Main statements: `Entries.lookup?_set` — the entry that was set is found; `Tree.resolve_nil` — a
path without further steps leads to the directory it has come to; `Tree.resolve_file` — a last step
to a file leads to it.
-/

set_option autoImplicit false

namespace NetTimeline.Files

/-- A file, a directory or a symbolic link. -/
inductive Node where
  | file (bytes : List UInt8)
  | directory (entries : List (String × Node))
  | link (target : String)

/-- The entries of a directory. -/
abbrev Entries := List (String × Node)

/-- The names of the entries. -/
def Entries.names (entries : Entries) : List String := entries.map Prod.fst

/-- The entry of a name. -/
def Entries.lookup? (name : String) : Entries → Option Node
  | [] => none
  | (other, node) :: entries => if other = name then some node else Entries.lookup? name entries

/-- The entries with one set, in its place or behind the others. -/
def Entries.set (name : String) (node : Node) : Entries → Entries
  | [] => [(name, node)]
  | (other, old) :: entries =>
    if other = name then (name, node) :: entries else (other, old) :: Entries.set name node entries

theorem Entries.lookup?_set (name : String) (node : Node) (entries : Entries) :
    (entries.set name node).lookup? name = some node := by
  induction entries with
  | nil => simp [Entries.set, Entries.lookup?]
  | cons entry entries ih =>
    obtain ⟨other, old⟩ := entry
    by_cases h : other = name <;> simp [Entries.set, Entries.lookup?, h, ih]

/-- The entries with a node at a path; directories on the way are made as needed. -/
def Entries.insert (node : Node) : List String → Entries → Entries
  | [], entries => entries
  | [name], entries => entries.set name node
  | name :: path, entries =>
    let below := match entries.lookup? name with
      | some (.directory below) => below
      | _ => []
    entries.set name (.directory (Entries.insert node path below))

/-- A file stands somewhere in a tree. -/
inductive Entries.HasFile (bytes : List UInt8) : Entries → Prop
  | here {entries : Entries} (name : String) (h : (name, .file bytes) ∈ entries) :
    HasFile bytes entries
  | inside {entries inner : Entries} (name : String) (h : (name, .directory inner) ∈ entries)
      (hinner : HasFile bytes inner) : HasFile bytes entries

/-- The most links that are followed on one path. -/
def maxLinks : Nat := 40

/-- The most bytes in a name. -/
def maxNameBytes : Nat := 255

/-- The most bytes in a path. -/
def maxPathBytes : Nat := 4095

/-- The directories from where a path has come to up to the one where it started; past that one
there is nothing. -/
abbrev Trail := List Entries

/-- The entries of the directory a path has come to. -/
def Trail.here (trail : Trail) : Entries := trail.headD []

/-- Whether a path starts at the root of all files, outside the tree. -/
def isAbsolute (path : String) : Bool := path.toList.head? = some '/'

namespace Tree

/-- What the steps of a path lead to from where it has come to, if at most `links` more links are
met. -/
def resolve (links : Nat) (trail : Trail) : List String → Except PathProblem Entry
  | [] => .ok (.directory trail.here.names)
  | name :: path =>
    if name = "" ∨ name = "." then resolve links trail path
    else if name = ".." then resolve links trail.tail path
    else if maxNameBytes < name.utf8ByteSize then .error .nameTooLong
    else match trail.here.lookup? name with
      | none => .error .notFound
      | some (.directory entries) => resolve links (entries :: trail) path
      | some (.file bytes) => if path = [] then .ok (.file bytes) else .error .notDirectory
      | some (.link target) =>
        match links with
        | 0 => .error .tooManyLinks
        | links + 1 =>
          resolve links (if isAbsolute target then [] else trail) (components target ++ path)
termination_by path => (links, path.length)

/-- What a path leads to in a tree. -/
def find (tree : Entries) (path : String) : Except PathProblem Entry :=
  if path.toList.contains '\x00' then .error .nullCharacter
  else if path = "" then .error .notFound
  else if maxPathBytes < path.utf8ByteSize then .error .nameTooLong
  else resolve maxLinks (if isAbsolute path then [] else [tree]) (components path)

theorem resolve_nil (links : Nat) (trail : Trail) :
    resolve links trail [] = .ok (.directory trail.here.names) := by
  simp [resolve]

theorem resolve_file {links : Nat} {trail : Trail} {name : String} {bytes : List UInt8}
    (hempty : name ≠ "") (hhere : name ≠ ".") (habove : name ≠ "..")
    (hshort : name.utf8ByteSize ≤ maxNameBytes)
    (hfile : trail.here.lookup? name = some (.file bytes)) :
    resolve links trail [name] = .ok (.file bytes) := by
  simp [resolve, hempty, hhere, habove, hfile, Nat.not_lt.2 hshort]

/-- A path that leads somewhere has no null character, is neither empty nor too long, and the walk
along its pieces arrives. -/
theorem find_eq_ok_iff {tree : Entries} {path : String} {entry : Entry} :
    find tree path = .ok entry ↔
      path.toList.contains '\x00' = false ∧ path ≠ "" ∧ path.utf8ByteSize ≤ maxPathBytes ∧
        resolve maxLinks (if isAbsolute path then [] else [tree]) (components path) =
          .ok entry := by
  unfold find
  constructor
  · intro h
    split at h
    · cases h
    · split at h
      · cases h
      · split at h
        · cases h
        · rename_i hnull hempty hlong
          exact ⟨Bool.eq_false_iff.2 hnull, hempty, Nat.le_of_not_lt hlong, h⟩
  · rintro ⟨hnull, hempty, hshort, h⟩
    rw [if_neg (Bool.eq_false_iff.1 hnull), if_neg hempty, if_neg (Nat.not_lt.2 hshort), h]

/-- The file system of a tree. -/
def system (tree : Entries) : FileSystem := ⟨find tree⟩

@[simp]
theorem system_find (tree : Entries) (path : String) : (system tree).find path = find tree path :=
  rfl

end Tree

end NetTimeline.Files
