import NetTimeline.Text.Part

/-!
# Paths

A path is a root, which an absolute one has, and the names on the way. Repeated slashes, and steps
to the same place (`.`), do not count; steps upward (`..`) do, since a name may be a link. This is
what `pathlib.PurePosixPath` makes of a text, and `Path.text` what it is shown as.
-/

set_option autoImplicit false

namespace NetTimeline.Files

/-- The pieces of a text between its slashes, as texts. -/
def components (s : String) : List String := (Text.split '/' s.toList).map String.ofList

/-- Whether a piece is a step of the path: not if it is empty or stays at the same place. -/
def isStep (piece : String) : Bool := piece ≠ "" && piece ≠ "."

theorem isStep_eq_false_iff {piece : String} : isStep piece = false ↔ piece = "" ∨ piece = "." := by
  simp [isStep, Decidable.or_iff_not_imp_left]

/-- Where a path starts. -/
inductive Root where
  /-- Where the program works. -/
  | here
  /-- The root of all files. -/
  | top
  /-- The root of all files, written with two slashes. -/
  | doubled
  deriving DecidableEq, Repr

/-- The text of a root. -/
def Root.text : Root → String
  | .here => ""
  | .top => "/"
  | .doubled => "//"

/-- The root of a text: exactly two slashes are a root of their own. -/
def Root.ofChars : List Char → Root
  | '/' :: '/' :: '/' :: _ => .top
  | '/' :: '/' :: _ => .doubled
  | '/' :: _ => .top
  | _ => .here

/-- A path: where it starts and the names on the way. -/
structure Path where
  root : Root
  parts : List String
  deriving DecidableEq, Repr

namespace Path

def ofString (s : String) : Path := ⟨.ofChars s.toList, (components s).filter isStep⟩

/-- The path as text; the one that leads nowhere is a point. -/
def text (path : Path) : String :=
  let text := path.root.text ++ "/".intercalate path.parts
  if text.isEmpty then "." else text

/-- The path of a name below a path. -/
def child (path : Path) (name : String) : Path := ⟨path.root, path.parts ++ [name]⟩

end Path

example : (Path.ofString "./logs//a/").text = "logs/a" := by decide +kernel
example : (Path.ofString "///x/..").text = "/x/.." := by decide +kernel

end NetTimeline.Files
