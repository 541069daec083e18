import KanjiSearch.Proofs.Json.RoundTrip
import KanjiSearch.Record.File

/-!
# Records survive being written

The JSON form of a record has all its parts, each under its own key, and so the record is read from it again
(`ofJson?_toJson`). The same holds for rows of records (`listOfJson?_toJson`), and so for every text that is read as
such a row (`listOfText?_of_read?`).
-/

namespace KanjiSearch.Record

open Json (IsPlain)

/-! ## Parts -/

theorem strings?_texts (texts : List String) : (Json.array (texts.map .string)).strings? = some texts := by
  have hpure : texts.mapM (some : String → Option String) = some (texts.map id) := List.mapM_pure
  rw [Json.strings?, List.mapM_map]
  exact hpure.trans (congrArg some (List.map_id _))

theorem frequency?_written (n : Option UInt64) :
    frequency? (match n with | some n => .natural n.toNat | none => .null) = some n := by
  cases n with
  | none => rfl
  | some n =>
    rw [frequency?, Text.fit?_eq_some_iff.mpr rfl]
    rfl

/-- A member sets its part, if this has not been set before it. -/
theorem setMembers?_cons {r r' : Record} {seen : List String} (key : String) {value : Json} {slot : Slot}
    (hslot : slots.lookup key = some slot) (hnew : seen.contains key = false) (hset : set? r slot value = some r')
    (members : List (String × Json)) :
    setMembers? r seen ((key, value) :: members) = setMembers? r' (key :: seen) members := by
  rw [setMembers?, hslot]
  dsimp only
  rw [hnew, hset]
  rfl

/-! ## Records -/

/-- **A record is read from its JSON form.** -/
theorem ofJson?_toJson (r : Record) : ofJson? r.toJson = some r := by
  have htext : ∀ (r' : Record) (set : Record → String → Record) (s : String),
      set? r' (.text set) (.string s) = some (set r' s) := fun _ _ _ => rfl
  have hlist : ∀ (r' : Record) (set : Record → List String → Record) (texts : List String),
      set? r' (.list set) (.array (texts.map .string)) = some (set r' texts) := fun _ _ texts => by
    rw [set?, strings?_texts]
    rfl
  have hnumber : ∀ (r' : Record) (set : Record → Option UInt64 → Record),
      set? r' (.number set) (match r.frequency with | some n => .natural n.toNat | none => .null) =
        some (set r' r.frequency) := fun _ _ => by
    rw [set?, frequency?_written]
    rfl
  rw [toJson, ofJson?]
  dsimp only
  -- one step for each member; the record that has been read is put in order after a few of them
  rw [setMembers?_cons "kanji" rfl rfl (htext _ _ _), setMembers?_cons "hanViet" rfl rfl (htext _ _ _),
    setMembers?_cons "meaning" rfl rfl (htext _ _ _), setMembers?_cons "vietnameseMeaning" rfl rfl (htext _ _ _)]
  dsimp only
  rw [setMembers?_cons "onyomi" rfl rfl (hlist _ _ _), setMembers?_cons "kunyomi" rfl rfl (hlist _ _ _),
    setMembers?_cons "components" rfl rfl (htext _ _ _), setMembers?_cons "jlptLevel" rfl rfl (htext _ _ _)]
  dsimp only
  refine (setMembers?_cons "frequency" rfl rfl (hnumber _ _) _).trans ?_
  rw [setMembers?_cons "category" rfl rfl (hlist _ _ _)]
  rfl

theorem listOfJson?_toJson (records : List Record) :
    listOfJson? (.array (records.map (·.toJson))) = some records := by
  have hpure : records.mapM (some : Record → Option Record) = some (records.map id) := List.mapM_pure
  have hread : ∀ r : Record, (ofJson? ∘ toJson) r = some r := ofJson?_toJson
  rw [listOfJson?, List.mapM_map, funext hread]
  exact hpure.trans (congrArg some (List.map_id _))

theorem isPlain_texts (texts : List String) : IsPlain (.array (texts.map .string)) := by
  refine .array fun j hj => ?_
  obtain ⟨s, -, rfl⟩ := List.mem_map.mp hj
  exact .string s

theorem isPlain_toJson (r : Record) : IsPlain r.toJson := by
  refine .object fun m hm => ?_
  have hnumber : IsPlain (match r.frequency with | some n => .natural n.toNat | none => .null) := by
    cases r.frequency with
    | none => exact .null
    | some n => exact .natural _
  simp only [List.mem_cons, List.not_mem_nil, or_false] at hm
  rcases hm with rfl | rfl | rfl | rfl | rfl | rfl | rfl | rfl | rfl | rfl
  all_goals first | exact .string _ | exact isPlain_texts _ | exact hnumber

theorem isPlain_list (records : List Record) : IsPlain (.array (records.map (·.toJson))) := by
  refine .array fun j hj => ?_
  obtain ⟨r, -, rfl⟩ := List.mem_map.mp hj
  exact isPlain_toJson r

/-- A text that spells the JSON form of records is that of a record file with these records. -/
theorem listOfText?_of_read? {text : List Char} {records : List Record}
    (h : Json.read? text = some (.array (records.map (·.toJson)))) : listOfText? text = some records := by
  rw [listOfText?, h]
  exact listOfJson?_toJson records

end KanjiSearch.Record
