import KanjiSearch.Json.Basic
import KanjiSearch.Record.Basic

/-!
# Records as JSON

A record is an object, or an array of its values in order. Values that are left out are empty, and only the kanji itself
may not be left out. Objects may have further keys; a key of a record may not be repeated.
-/

namespace KanjiSearch.Record

/-- A part of a record that is being read. -/
inductive Slot where
  | text (set : Record → String → Record)
  | list (set : Record → List String → Record)
  | number (set : Record → Option UInt64 → Record)

/-- The keys of a record in order, with the part that each one sets. -/
def slots : List (String × Slot) :=
  [("kanji", .text fun r s => { r with kanji := s }),
   ("hanViet", .text fun r s => { r with hanViet := s }),
   ("meaning", .text fun r s => { r with meaning := s }),
   ("vietnameseMeaning", .text fun r s => { r with vietnameseMeaning := s }),
   ("onyomi", .list fun r l => { r with onyomi := l }),
   ("kunyomi", .list fun r l => { r with kunyomi := l }),
   ("components", .text fun r s => { r with components := s }),
   ("jlptLevel", .text fun r s => { r with jlptLevel := s }),
   ("frequency", .number fun r n => { r with frequency := n }),
   ("category", .list fun r l => { r with category := l })]

/-- A frequency: a 64-bit number, or null for none. -/
def frequency? : Json → Option (Option UInt64)
  | .null => some none
  | .natural n => (Text.fit? n).map some
  | _ => none

/-- A record with one more part, if the value suits it. -/
def set? (r : Record) (slot : Slot) (value : Json) : Option Record :=
  match slot with
  | .text set => value.string?.map (set r)
  | .list set => value.strings?.map (set r)
  | .number set => (frequency? value).map (set r)

/-- A record with the members of an object; `seen` are the keys that have been read. -/
def setMembers? (r : Record) (seen : List String) : List (String × Json) → Option Record
  | [] => if seen.contains "kanji" then some r else none
  | (key, value) :: members =>
    match slots.lookup key with
    | none => setMembers? r seen members
    | some slot =>
      if seen.contains key then none
      else
        match set? r slot value with
        | some r => setMembers? r (key :: seen) members
        | none => none

/-- A record with values for the given slots in order. -/
def setItems? (r : Record) : List Slot → List Json → Option Record
  | _, [] => some r
  | [], _ :: _ => none
  | slot :: slots, value :: values =>
    match set? r slot value with
    | some r => setItems? r slots values
    | none => none

/-- The record that a JSON value describes. -/
def ofJson? : Json → Option Record
  | .object members => setMembers? { kanji := "" } [] members
  | .array [] => none
  | .array values => setItems? { kanji := "" } (slots.map (·.2)) values
  | _ => none

/-- The records of a JSON array. -/
def listOfJson? : Json → Option (List Record)
  | .array items => items.mapM ofJson?
  | _ => none

/-- The JSON object of a record. -/
def toJson (r : Record) : Json :=
  let list (items : List String) : Json := .array (items.map .string)
  .object
    [("kanji", .string r.kanji), ("hanViet", .string r.hanViet), ("meaning", .string r.meaning),
     ("vietnameseMeaning", .string r.vietnameseMeaning), ("onyomi", list r.onyomi), ("kunyomi", list r.kunyomi),
     ("components", .string r.components), ("jlptLevel", .string r.jlptLevel),
     ("frequency", match r.frequency with
       | some n => .natural n.toNat
       | none => .null),
     ("category", list r.category)]

end KanjiSearch.Record
