import KanjiSearch.Proofs.Lists
import KanjiSearch.Proofs.Settings.Discovery

/-!
# The settings file of the home directory

The file of the home directory is looked for last, and so it comes behind all others, unless the walk up from the
current directory meets it. There it has its place like any other file, and the files of directories above the home
directory come behind it.

* `exists_split_localFiles`: what comes behind a file on the way up is what the walk finds above its directory.
* `home_file_last_iff`: when the file of the home directory is the last one. It is, if it is marked as the root, if it
  is not met on the way up, or if no directory above the home directory has a settings file.
* `home_file_not_last`: a file above the home directory that it overrides.
-/

namespace KanjiSearch

/-- A path is not above one that is above it. -/
theorem Path.IsAbove.asymm {p q : Path} (h : p.IsAbove q) (h' : q.IsAbove p) : False := by
  obtain ⟨hle, hne⟩ := h
  exact hne (hle.eq_of_length (Nat.le_antisymm hle.length_le h'.1.length_le))

theorem Path.isAbove_congr {d p q : Path} (h : p.same q = true) : d.IsAbove p ↔ d.IsAbove q := by
  rw [Path.same, beq_iff_eq] at h
  rw [Path.IsAbove, Path.IsAbove, h]

namespace Settings

variable {env : Environment} {dir home p : Path} {dirs before after : List Path}

/-! ## The walk, from one of its files on -/

/-- Behind a file on the way up comes what is found further up, and nothing behind a mark. -/
theorem exists_split_localFiles (h : (localFiles env dirs).1 = before ++ p :: after) :
    ∃ below d above, dirs = below ++ d :: above ∧ p = fileIn d ∧
      after = if isRoot env p then [] else (localFiles env above).1 := by
  induction dirs generalizing before with
  | nil => cases List.append_eq_nil_iff.mp h.symm |>.2
  | cons d dirs ih =>
    cases hfile : env.isFile (fileIn d) with
    | false =>
      have hskip : (localFiles env (d :: dirs)).1 = (localFiles env dirs).1 := by simp [localFiles, hfile]
      obtain ⟨below, e, above, rfl, hrest⟩ := ih (hskip ▸ h)
      exact ⟨d :: below, e, above, rfl, hrest⟩
    | true =>
      rw [localFiles_cons_of_isFile hfile] at h
      cases before with
      | nil =>
        obtain ⟨rfl, hafter⟩ := List.cons.inj h
        exact ⟨[], d, dirs, rfl, rfl, hafter.symm⟩
      | cons q before =>
        obtain ⟨-, hafter⟩ := List.cons.inj h
        split at hafter
        · cases List.append_eq_nil_iff.mp hafter.symm |>.2
        · obtain ⟨below, e, above, rfl, hrest⟩ := ih hafter
          exact ⟨d :: below, e, above, rfl, hrest⟩

/-- Without a mark, no file on the way up is left out. -/
theorem mem_localFiles (hmark : (localFiles env dirs).2 = false) {d : Path} (hd : d ∈ dirs)
    (hfile : env.isFile (fileIn d) = true) : fileIn d ∈ (localFiles env dirs).1 := by
  induction dirs with
  | nil => cases hd
  | cons e dirs ih =>
    rw [localFiles] at hmark ⊢
    dsimp only at hmark ⊢
    split at hmark
    · next hnone =>
      rw [if_pos hnone]
      rcases List.mem_cons.mp hd with rfl | hd
      · simp [hfile] at hnone
      · exact ih hmark hd
    · next hsome =>
      rw [if_neg hsome]
      split at hmark
      · cases hmark
      · next hroot =>
        rw [if_neg hroot]
        rcases List.mem_cons.mp hd with rfl | hd
        · exact List.mem_cons_self
        · exact List.mem_cons_of_mem _ (ih hmark hd)

/-! ## The place of the file of the home directory -/

theorem same_of_isGlobal (hhome : env.home = some home) (hp : isGlobal env.home p = true) :
    p.same (fileIn home) = true := by
  simpa [isGlobal, globalFile?, hhome] using hp

/-- A walk that meets the file of the home directory goes on with the directories above the home directory. -/
theorem exists_above_home (hhome : env.home = some home) (hp : isGlobal env.home p = true)
    (hwalk : (localFiles env (dir :: dir.parents)).1 = before ++ p :: after) :
    ∃ above : List Path, (∀ d, d ∈ above ↔ d ∈ dir.parents ∧ d.IsAbove home) ∧
      after = if isRoot env p then [] else (localFiles env above).1 := by
  obtain ⟨below, e, above, hchain, rfl, hafter⟩ := exists_split_localFiles hwalk
  have hsame : e.same home = true := same_fileIn_iff.mp (same_of_isGlobal hhome hp)
  have hpairwise := dir.parents_pairwise
  rw [hchain, List.pairwise_append, List.pairwise_cons] at hpairwise
  obtain ⟨-, ⟨habove, -⟩, hbelow⟩ := hpairwise
  refine ⟨above, fun d => ⟨fun hd => ⟨?_, (Path.isAbove_congr hsame).mp (habove d hd)⟩, fun ⟨hd, hup⟩ => ?_⟩, hafter⟩
  · cases below with
    | nil => exact (List.cons.inj hchain).2 ▸ hd
    | cons _ below =>
      rw [(List.cons.inj hchain).2]
      exact List.mem_append_right _ (List.mem_cons_of_mem _ hd)
  · have hup' : d.IsAbove e := (Path.isAbove_congr hsame).mpr hup
    have hmem : d ∈ below ++ e :: above := hchain ▸ List.mem_cons_of_mem _ hd
    rcases List.mem_append.mp hmem with hd | hd
    · exact (hup'.asymm (hbelow d hd e List.mem_cons_self)).elim
    · rcases List.mem_cons.mp hd with rfl | hd
      · exact (hup'.asymm hup').elim
      · exact hd

/-- Behind the file of the home directory there are only those of other directories. -/
theorem not_mem_localFiles_above (hsame : p.same (fileIn home) = true) (hdirs : ∀ d ∈ dirs, d.IsAbove home) :
    p ∉ (localFiles env dirs).1 := by
  intro hp
  obtain ⟨d, hd, rfl⟩ := List.mem_map.mp ((localFiles_sublist env dirs).mem hp)
  have hcomponents := same_fileIn_iff.mp hsame
  rw [Path.same, beq_iff_eq] at hcomponents
  exact (hdirs d hd).2 hcomponents

/-- A walk that meets the file of the home directory ends with it if it is marked, or if there is no file above. -/
theorem getLast?_localFiles_iff (hhome : env.home = some home) (hp : isGlobal env.home p = true)
    (hmem : p ∈ (localFiles env (dir :: dir.parents)).1) :
    (localFiles env (dir :: dir.parents)).1.getLast? = some p ↔
      isRoot env p = true ∨ ∀ d ∈ dir.parents, d.IsAbove home → env.isFile (fileIn d) = false := by
  obtain ⟨before, after, hwalk⟩ := List.append_of_mem hmem
  obtain ⟨above, habove, hafter⟩ := exists_above_home hhome hp hwalk
  have hempty : after = [] ↔ isRoot env p = true ∨ ∀ d ∈ above, env.isFile (fileIn d) = false := by
    rw [hafter, ← localFiles_eq_nil_iff]
    split <;> simp [*]
  have hnot : p ∉ after := fun hmem' => by
    rw [hafter] at hmem'
    split at hmem'
    · cases hmem'
    · exact not_mem_localFiles_above (same_of_isGlobal hhome hp) (fun d hd => ((habove d).mp hd).2) hmem'
  rw [hwalk, getLast?_eq_some_iff_of_not_mem hnot, hempty]
  simp only [habove, and_imp]

/-- A walk that meets the file of the home directory does so in a directory that is the home directory. -/
theorem exists_same_home (hhome : env.home = some home) (hp : isGlobal env.home p = true)
    (hmem : p ∈ (localFiles env dirs).1) : ∃ d ∈ dirs, d.same home = true ∧ env.isFile (fileIn d) = true := by
  obtain ⟨d, hd, rfl⟩ := List.mem_map.mp ((localFiles_sublist env _).mem hmem)
  exact ⟨d, hd, same_fileIn_iff.mp (same_of_isGlobal hhome hp), isFile_of_mem_localFiles hmem⟩

/-- A walk that meets neither a mark nor the file of the home directory finds no such file. -/
theorem not_isFile_of_not_met (hmark : (localFiles env dirs).2 = false)
    (hnone : ∀ q ∈ (localFiles env dirs).1, q.same (fileIn home) = false) :
    ∀ d ∈ dirs, d.same home = true → env.isFile (fileIn d) = false := by
  intro d hd hsame
  refine Bool.eq_false_iff.mpr fun hfile => ?_
  have hother := hnone (fileIn d) (mem_localFiles hmark hd hfile)
  rw [same_fileIn_iff.mpr hsame] at hother
  cases hother

/-- **When the file of the home directory is the last one**: if nothing is found behind it on the way up. -/
theorem home_file_last_iff (hhome : env.home = some home) (hmem : p ∈ discover env dir)
    (hp : isGlobal env.home p = true) :
    (discover env dir).getLast? = some p ↔
      isRoot env p = true ∨ (∀ d ∈ dir :: dir.parents, d.same home = true → env.isFile (fileIn d) = false) ∨
        ∀ d ∈ dir.parents, d.IsAbove home → env.isFile (fileIn d) = false := by
  rcases discover_cases env dir with hdiscover | ⟨file, hfile, -, hmark, hnone, hdiscover⟩
  · rw [hdiscover] at hmem ⊢
    have hmet : ¬ ∀ d ∈ dir :: dir.parents, d.same home = true → env.isFile (fileIn d) = false := fun hnofile => by
      obtain ⟨d, hd, hsame, hisFile⟩ := exists_same_home hhome hp hmem
      rw [hnofile d hd hsame] at hisFile
      cases hisFile
    rw [getLast?_localFiles_iff hhome hp hmem, or_iff_right hmet]
  · obtain ⟨home', hhome', rfl⟩ := Option.map_eq_some_iff.mp hfile
    cases hhome.symm.trans hhome'
    have hadded : p = fileIn home := by
      rw [hdiscover, List.mem_append, List.mem_singleton] at hmem
      refine hmem.resolve_left fun hmem => ?_
      have hother := hnone p hmem
      rw [same_of_isGlobal hhome hp] at hother
      cases hother
    rw [hdiscover, List.getLast?_concat, hadded]
    exact iff_of_true rfl (.inr (.inl (not_isFile_of_not_met hmark hnone)))

/-- The home directory of `me`, with a settings file in it and one above it. -/
def sharedHome : Environment where
  disk := ((Disk.empty.withDirectories ["work".toList, "me".toList, "home".toList]).put
    [".kanji.toml".toList, "home".toList] (some (.file "[search]\nlimit = 7\n".toUTF8))).put
    [".kanji.toml".toList, "me".toList, "home".toList] (some (.file "[search]\nlimit = 20\n".toUTF8))
  directory := .ofString "/home/me/work"
  home := some (.ofString "/home/me")

theorem home_file_last_shared :
    fileIn (.ofString "/home/me") ∈ discover sharedHome sharedHome.directory ∧
      (discover sharedHome sharedHome.directory).getLast? ≠ some (fileIn (.ofString "/home/me")) := by
  have hmem : fileIn (.ofString "/home/me") ∈ discover sharedHome sharedHome.directory := by decide +kernel
  refine ⟨hmem, fun hlast => ?_⟩
  have hup : (Path.ofString "/home").IsAbove (.ofString "/home/me") := ⟨by decide +kernel, by decide +kernel⟩
  rcases (@home_file_last_iff sharedHome (.ofString "/home/me/work") (.ofString "/home/me") _ rfl hmem
    (by decide +kernel)).mp hlast with h | h | h
  · exact absurd h (by decide +kernel)
  · exact absurd (h (.ofString "/home/me") (by decide +kernel) (by decide +kernel)) (by decide +kernel)
  · exact absurd (h (.ofString "/home") (by decide +kernel) hup) (by decide +kernel)

/-- **The file of the home directory is not always the last one.** Below a settings file further up it comes first, and
its limit is in force. -/
theorem home_file_not_last :
    ∃ (env : Environment) (dir home p : Path), env.home = some home ∧ home.isAbsolute = true ∧ dir.isAbsolute = true ∧
      p ∈ discover env dir ∧ isGlobal env.home p = true ∧ (discover env dir).getLast? ≠ some p ∧
      ∃ s, load env dir = .ok s ∧ s.limit = 20 :=
  ⟨sharedHome, .ofString "/home/me/work", .ofString "/home/me", .ofString "/home/me/.kanji.toml", rfl, rfl, rfl,
    by decide +kernel, by decide +kernel, by decide +kernel,
    { limit := 20, directory := some (.ofString "/home/me") }, by decide +kernel, rfl⟩

end Settings

end KanjiSearch
