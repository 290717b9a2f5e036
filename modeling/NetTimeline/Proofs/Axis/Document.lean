import NetTimeline.Axis.Document
import NetTimeline.Proofs.Json.RoundTrip

/-!
# Reading the document of an axis back

The document of an axis is an object of exactly three fields, and each division in it is one, too.
All numbers in it are binary64 values with their signs, so nothing of the axis is lost, however it
is indented.

Principal results:

* `Axis.read_toJson_blanks` — a document with blanks behind it is read as the value of the axis;
* `Axis.read_toJson` — what the fields of the value are, and that no other axis has the document.
-/

set_option autoImplicit false

namespace NetTimeline

open Json (Value lookup?)

/-- The value is an object of exactly the three fields of a division. -/
def Division.ShownBy (division : Division) (item : Value) : Prop :=
  ∃ fields, item = .object fields ∧ fields.map Prod.fst = ["offset_ms", "unit", "label"] ∧
    lookup? "offset_ms" fields = some (.float (.finite division.offset)) ∧
    lookup? "unit" fields = some (.string division.unit.name) ∧
    lookup? "label" fields = some (.string division.label)

theorem Division.shownBy_toValue (division : Division) : division.ShownBy division.toValue :=
  ⟨_, rfl, rfl, rfl, rfl, rfl⟩

theorem Division.readable_toValue (division : Division) : division.toValue.Readable := by
  refine .object _ (by simp) ?_
  intro field hfield
  simp only [List.mem_cons, List.not_mem_nil, or_false] at hfield
  rcases hfield with rfl | rfl | rfl
  · exact .float _
  · exact .string _
  · exact .string _

namespace Axis

theorem readable_toValue (axis : Axis) : axis.toValue.Readable := by
  refine .object _ (by simp) ?_
  intro field hfield
  simp only [List.mem_cons, List.not_mem_nil, or_false] at hfield
  rcases hfield with rfl | rfl | rfl
  · exact .float _
  · exact .float _
  · refine .array _ fun item hitem => ?_
    obtain ⟨division, -, rfl⟩ := List.mem_map.1 hitem
    exact division.readable_toValue

/-- A document with blanks behind it, such as a line break, is read as the value of the axis. -/
theorem read_toJson_blanks (axis : Axis) (indent : Option Nat) {blanks : List Char}
    (hblanks : ∀ c ∈ blanks, Json.isSpace c = true) :
    Json.read ((axis.toJson indent).toList ++ blanks) = .ok axis.toValue := by
  rw [toJson, Json.document, String.toList_ofList]
  exact Json.read_write axis.readable_toValue indent hblanks

theorem toValue_injective {axis other : Axis} (h : axis.toValue = other.toValue) :
    axis = other := by
  have hread := ofValue?_toValue axis
  rw [h, ofValue?_toValue] at hread
  exact (Option.some.inj hread).symm

theorem toJson_injective {axis other : Axis} {indent otherIndent : Option Nat}
    (h : axis.toJson indent = other.toJson otherIndent) : axis = other :=
  toValue_injective (Json.document_injective axis.readable_toValue other.readable_toValue h)

/-- **Nothing of an axis is lost in its document.** With an indent or without, it is read as an
object of exactly a duration, a step and a list of divisions; the numbers are the binary64 values of
the axis, with their signs, and the divisions stand in their order with their offsets, units and
labels. So no other axis has the document. -/
theorem read_toJson (axis : Axis) (indent : Option Nat) :
    ∃ fields, Json.read (axis.toJson indent).toList = .ok (.object fields) ∧
      fields.map Prod.fst = ["duration_ms", "step_ms", "divisions"] ∧
      lookup? "duration_ms" fields = some (.float (.finite axis.span)) ∧
      lookup? "step_ms" fields = some (.float (.finite axis.step)) ∧
      (∃ items, lookup? "divisions" fields = some (.array items) ∧
        List.Forall₂ Division.ShownBy axis.divisions items) ∧
      ∀ other : Axis, ∀ otherIndent, other.toJson otherIndent = axis.toJson indent →
        other = axis := by
  have hread := axis.read_toJson_blanks indent (List.forall_mem_nil _)
  rw [List.append_nil] at hread
  refine ⟨_, hread, rfl, rfl, rfl, ⟨_, rfl, ?_⟩, fun other otherIndent => toJson_injective⟩
  rw [List.forall₂_map_right_iff]
  exact List.forall₂_same.2 fun division _ => division.shownBy_toValue

end Axis

end NetTimeline
