import NetTimeline.Number.Decimal

/-!
# Zones

A zone tells how far a time of day is ahead of universal time. It is a name, or a distance such as
`+05:30`, and ends a text; a name does not follow a letter. Only those distances are zones that
clocks are somewhere set to.

This stands for the table of zones of the library dateparser.

Main statement: `eq_append_of_splitZone?` — a text with a zone is the text in front of it and then
the zone.
-/

set_option autoImplicit false

namespace NetTimeline.Calendar

/-- The named zones, each with its distance from universal time in minutes. -/
def zoneNames : List (List Char × Int) :=
  [("z".toList, 0), ("utc".toList, 0), ("gmt".toList, 0), ("est".toList, -300),
    ("edt".toList, -240), ("cst".toList, -360), ("cdt".toList, -300), ("mst".toList, -420),
    ("mdt".toList, -360), ("pst".toList, -480), ("pdt".toList, -420)]

/-- The distances from universal time that are not whole hours, in minutes. -/
def brokenOffsets : List Int :=
  [-570, -270, -210, 210, 270, 330, 345, 390, 525, 570, 630, 690, 765]

/-- Whether clocks are somewhere set to a distance from universal time. -/
def isOffset (minutes : Int) : Bool :=
  (minutes % 60 = 0 && -720 ≤ minutes && minutes ≤ 840) || brokenOffsets.contains minutes

/-- A distance from universal time in minutes, written with a sign, hours and minutes. -/
def readOffset? : List Char → Option Int
  | [sign, a, b, ':', c, d] =>
    let hours := digitsValue [a, b]
    let minutes := digitsValue [c, d]
    if [a, b, c, d].all Char.isDigit && minutes < 60 then
      let size : Int := Int.ofNat (hours * 60 + minutes)
      (if sign = '+' then some size else if sign = '-' then some (-size) else none).filter isOffset
    else none
  | _ => none

/-- The distance of a zone in minutes. -/
def readZone? (cs : List Char) : Option Int := (readOffset? cs).or (zoneNames.lookup cs)

/-- The zone that makes up the last characters of a text, and the text in front of it. -/
def splitZoneAt? (cs : List Char) (length : Nat) : Option (List Char × Int) :=
  let front := cs.take (cs.length - length)
  if front.getLast?.all Char.isAlpha then none
  else (readZone? (cs.drop (cs.length - length))).map fun zone => (front, zone)

/-- The zone that ends a text, and the text in front of it. -/
def splitZone? (cs : List Char) : Option (List Char × Int) := [6, 3, 1].findSome? (splitZoneAt? cs)

theorem eq_append_of_splitZone? {cs front : List Char} {zone : Int}
    (h : splitZone? cs = some (front, zone)) :
    ∃ back, readZone? back = some zone ∧ cs = front ++ back := by
  obtain ⟨length, -, hlength⟩ := List.exists_of_findSome?_eq_some h
  unfold splitZoneAt? at hlength
  dsimp only at hlength
  split at hlength
  · contradiction
  · obtain ⟨found, hfound, heq⟩ := Option.map_eq_some_iff.1 hlength
    obtain ⟨rfl, rfl⟩ := Prod.mk.inj heq
    exact ⟨_, hfound, (List.take_append_drop _ cs).symm⟩

end NetTimeline.Calendar
