import Mathlib.Data.List.Forall2
import Mathlib.Logic.Relation
import NetTimeline.Files.Tree

/-!
# A file tree that gains an entry

`Gains name node before after` says that a tree is another one with a single new entry, somewhere in
it: nothing stood there under that name. Whatever a path led to before, it leads to afterwards. A
path that met the place of the new entry on its way led nowhere before, so that every path that led
somewhere takes the same steps in both trees, through the same links; only a listing can be longer.

Principal results:

* `Gains.lookup` — an entry that is not the new one is still there, with the new one in it perhaps;
* `Tree.resolve_kept` — every walk that arrives still does, from wherever it starts;
* `Tree.find_kept` — what a path leads to is kept, but for one name in the listing of one directory.
-/

set_option autoImplicit false

namespace NetTimeline.Files

open Relation (ReflGen)

/-! ## The entries of one directory -/

theorem Entries.lookup?_set_of_ne {name other : String} (h : other ≠ name) (node : Node)
    (entries : Entries) : (entries.set name node).lookup? other = entries.lookup? other := by
  induction entries with
  | nil => simp [Entries.set, Entries.lookup?, Ne.symm h]
  | cons entry entries ih =>
    obtain ⟨first, old⟩ := entry
    by_cases hfirst : first = name
    · have hne : ¬ name = other := Ne.symm h
      subst hfirst
      simp [Entries.set, Entries.lookup?, hne]
    · simp [Entries.set, Entries.lookup?, hfirst, ih]

/-- A new entry stands behind the others. -/
theorem Entries.names_set_of_fresh {name : String} {entries : Entries}
    (h : entries.lookup? name = none) (node : Node) :
    (entries.set name node).names = entries.names ++ [name] := by
  induction entries with
  | nil => rfl
  | cons entry entries ih =>
    obtain ⟨first, old⟩ := entry
    by_cases hfirst : first = name
    · simp [Entries.lookup?, hfirst] at h
    · simp only [Entries.lookup?, hfirst, if_false] at h
      simp only [Entries.names] at ih
      simp [Entries.set, Entries.names, hfirst, ih h]

/-- An entry that is there already is set in its place. -/
theorem Entries.names_set_of_found {name : String} {entries : Entries} {old : Node}
    (h : entries.lookup? name = some old) (node : Node) :
    (entries.set name node).names = entries.names := by
  induction entries with
  | nil => cases h
  | cons entry entries ih =>
    obtain ⟨first, other⟩ := entry
    by_cases hfirst : first = name
    · simp [Entries.set, Entries.names, hfirst]
    · simp only [Entries.lookup?, hfirst, if_false] at h
      simp only [Entries.names] at ih
      simp [Entries.set, Entries.names, hfirst, ih h]

/-! ## A tree -/

/-- The second tree is the first with one entry more: in the directory at its top, or in one below. -/
inductive Gains (name : String) (node : Node) : Entries → Entries → Prop
  | here {entries : Entries} (fresh : entries.lookup? name = none) :
    Gains name node entries (entries.set name node)
  | inside {entries inner grown : Entries} {step : String}
      (hstep : entries.lookup? step = some (.directory inner)) (h : Gains name node inner grown) :
    Gains name node entries (entries.set step (.directory grown))

/-- What becomes of an entry: only a directory can change. -/
inductive KeptNode (name : String) (node : Node) : Node → Node → Prop
  | same (old : Node) : KeptNode name node old old
  | grown {inner grown : Entries} (h : Gains name node inner grown) :
    KeptNode name node (.directory inner) (.directory grown)

/-- What becomes of that which a path leads to: only a listing can change. -/
inductive KeptEntry (name : String) : Entry → Entry → Prop
  | same (entry : Entry) : KeptEntry name entry entry
  | listed (names : List String) :
    KeptEntry name (.directory names) (.directory (names ++ [name]))

section

variable {name : String} {node : Node}

namespace Gains

variable {before after : Entries}

/-- The new entry does not take the place of another. -/
theorem lookup (h : Gains name node before after) {other : String} {old : Node}
    (hold : before.lookup? other = some old) :
    ∃ kept, after.lookup? other = some kept ∧ KeptNode name node old kept := by
  cases h with
  | here fresh =>
    have hne : other ≠ name := by
      rintro rfl
      rw [fresh] at hold
      cases hold
    exact ⟨old, (Entries.lookup?_set_of_ne hne node before).trans hold, .same old⟩
  | @inside _ inner grown step hstep h =>
    by_cases hother : other = step
    · subst hother
      rw [hstep] at hold
      cases hold
      exact ⟨.directory grown, Entries.lookup?_set other _ before, .grown h⟩
    · exact ⟨old, (Entries.lookup?_set_of_ne hother _ before).trans hold, .same old⟩

theorem names (h : Gains name node before after) :
    KeptEntry name (.directory before.names) (.directory after.names) := by
  cases h with
  | here fresh =>
    rw [Entries.names_set_of_fresh fresh]
    exact .listed _
  | inside hstep h =>
    rw [Entries.names_set_of_found hstep]
    exact .same _

end Gains

/-- The directories on the way are the same, or have gained the entry. -/
def Trail.Kept (name : String) (node : Node) : Trail → Trail → Prop :=
  List.Forall₂ (ReflGen (Gains name node))

namespace Trail.Kept

variable {trail grown : Trail}

theorem here (h : Trail.Kept name node trail grown) :
    ReflGen (Gains name node) trail.here grown.here := by
  cases h with
  | nil => exact .refl
  | cons hfirst _ => exact hfirst

theorem tail (h : Trail.Kept name node trail grown) : Trail.Kept name node trail.tail grown.tail := by
  cases h with
  | nil => exact .nil
  | cons _ hrest => exact hrest

theorem lookup (h : Trail.Kept name node trail grown) {other : String} {old : Node}
    (hold : trail.here.lookup? other = some old) :
    ∃ kept, grown.here.lookup? other = some kept ∧ KeptNode name node old kept := by
  have hhere := h.here
  generalize trail.here = before at hhere hold
  cases hhere with
  | refl => exact ⟨old, hold, .same old⟩
  | single hgains => exact hgains.lookup hold

theorem names (h : Trail.Kept name node trail grown) :
    KeptEntry name (.directory trail.here.names) (.directory grown.here.names) := by
  have hhere := h.here
  generalize trail.here = before at hhere
  cases hhere with
  | refl => exact .same _
  | single hgains => exact hgains.names

end Trail.Kept

/-- **A walk that arrives still does**, and at what it arrived at before. The induction follows the
walk; the trails that it leaves behind in both trees stay side by side. -/
theorem Tree.resolve_kept {links : Nat} {trail grown : Trail} {path : List String} {entry : Entry}
    (htrail : Trail.Kept name node trail grown) (h : resolve links trail path = .ok entry) :
    ∃ kept, resolve links grown path = .ok kept ∧ KeptEntry name entry kept := by
  induction links, trail, path using resolve.induct generalizing grown with
  | case1 links trail =>
    rw [resolve_nil] at h ⊢
    cases h
    exact ⟨_, rfl, htrail.names⟩
  | case2 links trail step path hstay ih =>
    rw [resolve, if_pos hstay] at h ⊢
    exact ih htrail h
  | case3 links trail path hstay ih =>
    rw [resolve, if_neg hstay, if_pos rfl] at h ⊢
    exact ih htrail.tail h
  | case4 links trail step path hstay hup hlong =>
    rw [resolve, if_neg hstay, if_neg hup, if_pos hlong] at h
    cases h
  | case5 links trail step path hstay hup hlong hnone =>
    rw [resolve, if_neg hstay, if_neg hup, if_neg hlong, hnone] at h
    cases h
  | case6 links trail step path hstay hup hlong entries hfound ih =>
    obtain ⟨kept, hkept, hnode⟩ := htrail.lookup hfound
    rw [resolve, if_neg hstay, if_neg hup, if_neg hlong, hfound] at h
    rw [resolve, if_neg hstay, if_neg hup, if_neg hlong, hkept]
    cases hnode with
    | same => exact ih (.cons .refl htrail) h
    | grown hgains => exact ih (.cons (.single hgains) htrail) h
  | case7 links trail step hstay hup hlong bytes hfound =>
    obtain ⟨kept, hkept, hnode⟩ := htrail.lookup hfound
    cases hnode
    rw [resolve, if_neg hstay, if_neg hup, if_neg hlong, hfound] at h
    rw [resolve, if_neg hstay, if_neg hup, if_neg hlong, hkept]
    exact ⟨entry, h, .same entry⟩
  | case8 links trail step path hstay hup hlong bytes hfound hmore =>
    rw [resolve, if_neg hstay, if_neg hup, if_neg hlong, hfound] at h
    simp only [hmore, if_false] at h
    cases h
  | case9 trail step path hstay hup hlong target hfound =>
    rw [resolve, if_neg hstay, if_neg hup, if_neg hlong, hfound] at h
    cases h
  | case10 trail step path hstay hup hlong target hfound links ih =>
    obtain ⟨kept, hkept, hnode⟩ := htrail.lookup hfound
    cases hnode
    rw [resolve, if_neg hstay, if_neg hup, if_neg hlong, hfound] at h
    rw [resolve, if_neg hstay, if_neg hup, if_neg hlong, hkept]
    refine ih ?_ h
    split
    · exact .nil
    · exact htrail

/-- A step into a directory. -/
theorem Tree.resolve_directory {links : Nat} {trail : Trail} {name : String} {path : List String}
    {entries : Entries} (hempty : name ≠ "") (hhere : name ≠ ".") (habove : name ≠ "..")
    (hshort : name.utf8ByteSize ≤ maxNameBytes)
    (hentries : trail.here.lookup? name = some (.directory entries)) :
    resolve links trail (name :: path) = resolve links (entries :: trail) path := by
  rw [resolve, if_neg (not_or.2 ⟨hempty, hhere⟩), if_neg habove, if_neg (Nat.not_lt.2 hshort),
    hentries]

/-- **What a path leads to is kept** when the tree gains an entry. -/
theorem Tree.find_kept {tree grown : Entries} (hgains : Gains name node tree grown) {path : String}
    {entry : Entry} (h : (system tree).find path = .ok entry) :
    ∃ kept, (system grown).find path = .ok kept ∧ KeptEntry name entry kept := by
  obtain ⟨hnull, hempty, hshort, hwalk⟩ := find_eq_ok_iff.1 h
  have htrail : Trail.Kept name node (if isAbsolute path then [] else [tree])
      (if isAbsolute path then [] else [grown]) := by
    split
    · exact .nil
    · exact .cons (.single hgains) .nil
  obtain ⟨kept, hkept, hentry⟩ := resolve_kept htrail hwalk
  exact ⟨kept, find_eq_ok_iff.2 ⟨hnull, hempty, hshort, hkept⟩, hentry⟩

end

end NetTimeline.Files
