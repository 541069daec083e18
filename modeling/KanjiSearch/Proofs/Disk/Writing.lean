import KanjiSearch.Disk.Environment
import KanjiSearch.Proofs.Path.Components

/-!
# Files that are written

Writing puts a file at the place to which a path leads. Nothing is walked through there, before or after, and so every
path leads to the same place as before (`locate_put_eq_ok_iff`). What is written is read again (`read_of_write`), and
at other places nothing changes (`entry_put_of_ne`). A write that fails leaves the disk alone, or has broken off behind
some of the bytes (`disk_of_write_error`).

* `walk_eq_follow`: where a walk arrives is decided by the steps of its pieces, so that paths with the same components
  lead to the same place, if they lead anywhere (`locate_join_of_same`).
-/

namespace KanjiSearch

namespace Disk

variable {d d' : Disk} {place q : Place} {entry : Option Entry} {p : Path}

/-! ## Places -/

theorem entry_put_self (hplace : place ≠ []) : entry? (d.put place entry) place = entry := by
  obtain ⟨name, above, rfl⟩ := List.exists_cons_of_ne_nil hplace
  exact if_pos rfl

theorem entry_put_of_ne (h : q ≠ place) : entry? (d.put place entry) q = d.entry? q := by
  cases q with
  | nil => rfl
  | cons name above => exact if_neg h

/-- A place at which there is no directory. -/
def IsFree (d : Disk) (place : Place) : Prop :=
  d.entry? place ≠ some .directory

theorem IsFree.ne_nil (h : d.IsFree place) : place ≠ [] := by
  rintro rfl
  exact h rfl

theorem isFree_of_none (h : d.entry? place = none) : d.IsFree place := by
  simp [IsFree, h]

/-- Directories stay where they are. -/
theorem entry_put_eq_directory_iff (h : d.IsFree place) (hentry : entry ≠ some .directory) :
    entry? (d.put place entry) q = some .directory ↔ d.entry? q = some .directory := by
  by_cases hq : q = place
  · subst hq
    rw [entry_put_self h.ne_nil]
    exact iff_of_false hentry h
  · rw [entry_put_of_ne hq]

/-! ## Walks -/

/-- The place at which a walk arrives: names lead down, two dots lead up. -/
def follow (start : Place) (steps : List Component) : Place :=
  steps.foldl (fun place step => match step with
    | .name name => name :: place
    | .up => place.tail
    | _ => place) start

theorem follow_append (start : Place) (steps steps' : List Component) :
    follow start (steps ++ steps') = follow (follow start steps) steps' :=
  List.foldl_append

/-- One piece of a walk is walked in a directory only. -/
theorem walk_cons_eq_ok_iff {start : Place} {piece : List Char} {pieces : List (List Char)} :
    d.walk start (piece :: pieces) = .ok q ↔ d.entry? start = some .directory ∧
      (∀ name, Path.step? piece = some (.name name) → byteCount name ≤ maxName) ∧
      d.walk (follow start (Path.step? piece).toList) pieces = .ok q := by
  rw [walk]
  split
  · next h => simp [h]
  · next h => simp [h]
  · next h =>
    split
    · next name hstep =>
      split
      · next hlong => simp [h, hstep, Nat.not_le.mpr hlong]
      · next hlong => simp [h, hstep, Nat.le_of_not_lt hlong, follow]
    · next hstep => simp [h, hstep, follow]
    · next hname hup =>
      have hstay : follow start (Path.step? piece).toList = start := by
        cases hstep : Path.step? piece with
        | none => rfl
        | some step =>
          cases step with
          | name name => exact (hname name hstep).elim
          | up => exact (hup hstep).elim
          | root | here => rfl
      rw [hstay]
      exact ⟨fun hwalk => ⟨h, fun name hstep => (hname name hstep).elim, hwalk⟩, fun hwalk => hwalk.2.2⟩

/-- Where a walk arrives is decided by the steps of its pieces. -/
theorem walk_eq_follow {start : Place} {pieces : List (List Char)} (h : d.walk start pieces = .ok q) :
    q = follow start (pieces.filterMap Path.step?) := by
  induction pieces generalizing start with
  | nil =>
    cases h
    rfl
  | cons piece pieces ih =>
    have hrest := ih (walk_cons_eq_ok_iff.mp h).2.2
    rw [hrest]
    cases hstep : Path.step? piece <;> simp [hstep, follow]

/-- A file that is put somewhere, or taken away, does not change where walks arrive. -/
theorem walk_put_eq_ok_iff (h : d.IsFree place) (hentry : entry ≠ some .directory) {start : Place}
    {pieces : List (List Char)} : (d.put place entry).walk start pieces = .ok q ↔ d.walk start pieces = .ok q := by
  induction pieces generalizing start with
  | nil => exact Iff.rfl
  | cons piece pieces ih => rw [walk_cons_eq_ok_iff, walk_cons_eq_ok_iff, entry_put_eq_directory_iff h hentry, ih]

theorem locate_eq_ok_iff : d.locate p = .ok q ↔
    '\x00' ∉ p.text ∧ byteCount p.text ≤ maxPath ∧ d.walk [] p.pieces = .ok q := by
  unfold locate
  split
  · next h => simp [List.contains_iff_mem.mp h]
  · next h =>
    rw [List.contains_iff_mem] at h
    split
    · next hlong => simp [Nat.not_le.mpr hlong]
    · next hlong => simp [h, Nat.le_of_not_lt hlong]

theorem locate_put_eq_ok_iff (h : d.IsFree place) (hentry : entry ≠ some .directory) :
    (d.put place entry).locate p = .ok q ↔ d.locate p = .ok q := by
  rw [locate_eq_ok_iff, locate_eq_ok_iff, walk_put_eq_ok_iff h hentry]

theorem eq_follow_of_locate (h : d.locate p = .ok q) : q = follow [] p.steps :=
  walk_eq_follow (locate_eq_ok_iff.mp h).2.2

/-- Paths that are the same do not lead to different places. -/
theorem locate_join_of_same {p p' base : Path} {q q' : Place} (hsame : p.same p' = true)
    (h : d.locate (base.join p) = .ok q) (h' : d.locate (base.join p') = .ok q') : q = q' := by
  rw [eq_follow_of_locate h, eq_follow_of_locate h', Path.steps_join_of_same base hsame]

theorem entry?_withObstacle (o : Option Obstacle) : entry? { d with obstacle := o } q = d.entry? q := by
  cases q <;> rfl

theorem walk_withObstacle (o : Option Obstacle) {start : Place} {pieces : List (List Char)} :
    walk { d with obstacle := o } start pieces = d.walk start pieces := by
  induction pieces generalizing start with
  | nil => rfl
  | cons piece pieces ih => simp only [walk, entry?_withObstacle, ih]

/-! ## What is found -/

/-- What keeps files from being written does not keep them from being found. -/
theorem find_withObstacle (o : Option Obstacle) : find { d with obstacle := o } p = d.find p := by
  simp only [find, locate, walk_withObstacle, entry?_withObstacle]

theorem find_eq_ok_iff {e : Entry} : d.find p = .ok e ↔ ∃ q, d.locate p = .ok q ∧ d.entry? q = some e := by
  unfold find
  cases d.locate p with
  | error failure => simp
  | ok q => cases h : d.entry? q <;> simp [h]

/-- Where a path leads to nothing, nothing is. -/
theorem entry_eq_none_of_locate (hlocate : d.locate p = .ok place) (hnone : d.hasEntry p = false) :
    d.entry? place = none := by
  refine Option.eq_none_iff_forall_ne_some.mpr fun e he => ?_
  have hfind : d.find p = .ok e := find_eq_ok_iff.mpr ⟨place, hlocate, he⟩
  rw [hasEntry, hfind] at hnone
  cases hnone

theorem find_put_eq_ok_iff (h : d.IsFree place) (hentry : entry ≠ some .directory) {e : Entry} :
    (d.put place entry).find p = .ok e ↔
      d.locate p = .ok place ∧ entry = some e ∨ d.locate p ≠ .ok place ∧ d.find p = .ok e := by
  simp only [find_eq_ok_iff, locate_put_eq_ok_iff h hentry]
  by_cases hp : d.locate p = .ok place
  · simp [hp, entry_put_self h.ne_nil]
  · have hne : ∀ q, d.locate p = .ok q → q ≠ place := fun q hq hqp => hp (hqp ▸ hq)
    simp only [hp, false_and, not_false_eq_true, true_and, false_or, ne_eq]
    refine exists_congr fun q => and_congr_right fun hq => ?_
    rw [entry_put_of_ne (hne q hq)]

/-! ## Writing -/

/-- Whether so many bytes can be written to a file. -/
def HasRoom (d : Disk) (size : Nat) : Prop :=
  d.obstacle = none ∨ ∃ room cause, d.obstacle = some (.full room cause) ∧ size ≤ room

/-- The disk is left behind by a write that broke off: the file at the place holds the bytes there was room for. -/
def BrokenOff (d : Disk) (place : Place) (bytes : ByteArray) (d' : Disk) : Prop :=
  ∃ room cause, d.obstacle = some (.full room cause) ∧ room < bytes.size ∧
    d' = d.put place (some (.file (bytes.extract 0 room)))

section Fill

variable {bytes : ByteArray} {u : Unwritten}

theorem fill_eq_ok_iff :
    d.fill place bytes = .ok d' ↔ d.HasRoom bytes.size ∧ d' = d.put place (some (.file bytes)) := by
  unfold fill HasRoom
  cases h : d.obstacle with
  | none => simp [eq_comm]
  | some o =>
    cases o with
    | closed cause => simp
    | full room cause =>
      by_cases hroom : bytes.size ≤ room
      · simp [hroom, eq_comm]
      · simp [hroom]

/-- A file that cannot be filled is left alone, or its bytes break off. -/
theorem fill_error (h : d.fill place bytes = .error u) : u.disk = d ∨ d.BrokenOff place bytes u.disk := by
  unfold fill at h
  split at h
  · cases h
  · cases h
    exact .inl rfl
  · next room cause hobstacle =>
    split at h
    · cases h
    · next hroom =>
      cases h
      exact .inr ⟨room, cause, hobstacle, Nat.lt_of_not_le hroom, rfl⟩

end Fill

/-- Writing puts a file where the path leads, if there is no directory, and room for the text. -/
theorem write_eq_ok_iff {text : String} : d.write p text = .ok d' ↔
    ∃ place, d.locate p = .ok place ∧ d.IsFree place ∧ d.HasRoom text.toUTF8.size ∧
      d' = d.put place (some (.file text.toUTF8)) := by
  unfold write IsFree
  cases d.locate p with
  | error failure => simp
  | ok place =>
    cases h : d.entry? place with
    | none => simp [h, fill_eq_ok_iff]
    | some e => cases e <;> simp [h, fill_eq_ok_iff]

/-- A write that fails leaves the disk alone, or breaks off. -/
theorem disk_of_write_error {text : String} {u : Unwritten} (h : d.write p text = .error u) :
    u.disk = d ∨ ∃ place, d.locate p = .ok place ∧ d.IsFree place ∧ d.BrokenOff place text.toUTF8 u.disk := by
  unfold write at h
  split at h
  · cases h
    exact .inl rfl
  · next place hlocate =>
    split at h
    · cases h
      exact .inl rfl
    · next hfree => exact (fill_error h).imp_right fun hbroken => ⟨place, hlocate, hfree, hbroken⟩

/-- A write that has no room for its text breaks off. -/
theorem write_of_full {text : String} {room : Nat} {cause : Failure} (hlocate : d.locate p = .ok place)
    (hfree : d.IsFree place) (hobstacle : d.obstacle = some (.full room cause)) (hroom : room < text.toUTF8.size) :
    d.write p text = .error ⟨cause, d.put place (some (.file (text.toUTF8.extract 0 room)))⟩ := by
  have hfill : d.fill place text.toUTF8 = .error ⟨cause, d.put place (some (.file (text.toUTF8.extract 0 room)))⟩ := by
    rw [fill, hobstacle]
    exact if_neg (Nat.not_le.mpr hroom)
  rw [write, hlocate, ← hfill]
  dsimp only
  split
  · next hdirectory => exact absurd hdirectory hfree
  · rfl

theorem fromUTF8?_toUTF8 (text : String) : String.fromUTF8? text.toUTF8 = some text :=
  dif_pos text.isValidUTF8

section Small

variable {text : String}

theorem size_utf8Encode {cs : List Char} (h : ∀ c ∈ cs, c.utf8Size = 1) : cs.utf8Encode.size = cs.length := by
  induction cs with
  | nil => simp
  | cons c cs ih =>
    obtain ⟨hc, hcs⟩ := List.forall_mem_cons.mp h
    rw [List.utf8Encode_cons, ByteArray.size_append, ih hcs, List.utf8Encode_singleton, List.size_toByteArray,
      String.length_utf8EncodeChar, hc, List.length_cons, Nat.add_comm]

theorem size_toUTF8 (h : ∀ c ∈ text.toList, c.utf8Size = 1) : text.toUTF8.size = text.toList.length := by
  rw [String.toUTF8_eq_toByteArray, ← String.utf8Encode_toList, size_utf8Encode h]

/-- The first bytes of a text whose characters take one byte each are those of its first characters. -/
theorem extract_toUTF8 (h : ∀ c ∈ text.toList, c.utf8Size = 1) {room : Nat} (hroom : room < text.toUTF8.size) :
    text.toUTF8.extract 0 room = (String.ofList (text.toList.take room)).toUTF8 := by
  have hsize : room = (text.toList.take room).utf8Encode.size := by
    rw [size_toUTF8 h] at hroom
    rw [size_utf8Encode fun c hc => h c (List.mem_of_mem_take hc), List.length_take, Nat.min_eq_left hroom.le]
  have hsplit : text.toUTF8 = (text.toList.take room).utf8Encode ++ (text.toList.drop room).utf8Encode := by
    rw [← List.utf8Encode_append, List.take_append_drop, String.utf8Encode_toList, String.toUTF8_eq_toByteArray]
  rw [hsplit, ByteArray.extract_append_eq_left hsize]
  rfl

end Small

theorem find_of_write {text : String} (h : d.write p text = .ok d') : d'.find p = .ok (.file text.toUTF8) := by
  obtain ⟨place, hlocate, hfree, -, rfl⟩ := write_eq_ok_iff.mp h
  exact (find_put_eq_ok_iff hfree (by simp)).mpr (.inl ⟨hlocate, rfl⟩)

/-- **What is written is read again.** -/
theorem read_of_write {text : String} (h : d.write p text = .ok d') : d'.read p = .ok text := by
  rw [read, find_of_write h]
  simp only [fromUTF8?_toUTF8]

end Disk

end KanjiSearch
