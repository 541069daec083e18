import KanjiSearch.Proofs.Path.Folding
import KanjiSearch.Proofs.Settings.Discovery
import KanjiSearch.Proofs.Settings.RootMark

/-!
# Which settings files apply

The walk up from a directory meets the settings files of the directory and of those above it, and ends behind the first
one that is marked as the root. Nothing else ends it.

* `IsMarked`, `PassedOver`: what marks a file as the root, and all the reasons for which a path is passed over.
* `localFiles_of_unmarked`, `localFiles_of_marked`: what the walk finds without and with a mark on the way.
* `discover_pairwise`: no path is found twice.
* `discover_exactly`: the files that apply, in their order. The directory and those above it are its path without the
  last components, one more each time. The file of the home directory comes last, if it is a file and not among the
  others. No file is found twice, as long as no path leads up again. What is passed over is a directory or nothing at
  all, a file that cannot be read, one that is no settings file, or one that is not marked.
-/

namespace KanjiSearch.Settings

variable {env : Environment} {dir home p : Path} {dirs before after : List Path}

/-! ## Marks -/

/-- At `p` there is a settings file that can be read and says that it is the root. -/
def IsMarked (env : Environment) (p : Path) : Prop :=
  ∃ text settings, env.read p = .ok text ∧ FileSettings.ofText? text.toList = some settings ∧ settings.root = some true

/-- Why the walk goes on behind `p`. -/
inductive PassedOver (env : Environment) (p : Path) : Prop
  /-- there is nothing, or a directory -/
  | noFile (h : env.isFile p = false)
  | unreadable {cause} (h : env.read p = .error cause)
  | malformed {text} (h : env.read p = .ok text) (hsettings : FileSettings.ofText? text.toList = none)
  | unmarked {text settings} (h : env.read p = .ok text) (hsettings : FileSettings.ofText? text.toList = some settings)
      (hroot : settings.root ≠ some true)

theorem isRoot_iff : isRoot env p = true ↔ IsMarked env p := by
  unfold isRoot readFile IsMarked
  cases hread : env.read p with
  | error cause => simp
  | ok text => cases hsettings : FileSettings.ofText? text.toList <;> simp [hsettings]

theorem passedOver_iff : PassedOver env p ↔ ¬ IsMarked env p := by
  constructor
  · rintro h ⟨text, settings, hread, hsettings, hroot⟩
    cases h with
    | noFile h =>
      have hfile := isFile_of_isRoot (isRoot_iff.mpr ⟨text, settings, hread, hsettings, hroot⟩)
      rw [h] at hfile
      cases hfile
    | unreadable h => cases h.symm.trans hread
    | malformed h hnone =>
      cases h.symm.trans hread
      cases hnone.symm.trans hsettings
    | unmarked h hother hunmarked =>
      cases h.symm.trans hread
      cases hother.symm.trans hsettings
      exact hunmarked hroot
  · intro h
    cases hread : env.read p with
    | error cause => exact .unreadable hread
    | ok text =>
      cases hsettings : FileSettings.ofText? text.toList with
      | none => exact .malformed hread hsettings
      | some settings => exact .unmarked hread hsettings fun hroot => h ⟨text, settings, hread, hsettings, hroot⟩

theorem isRoot_eq_false_iff : isRoot env p = false ↔ ¬ IsMarked env p := by
  rw [← isRoot_iff, Bool.not_eq_true]

/-! ## The walk -/

/-- The settings files of directories, in their order. -/
def filesOf (env : Environment) (dirs : List Path) : List Path :=
  (dirs.map fileIn).filter env.isFile

theorem filesOf_cons_of_isFile (h : env.isFile (fileIn dir) = true) :
    filesOf env (dir :: dirs) = fileIn dir :: filesOf env dirs := by
  simp [filesOf, h]

theorem filesOf_cons_of_not_isFile (h : env.isFile (fileIn dir) = false) :
    filesOf env (dir :: dirs) = filesOf env dirs := by
  simp [filesOf, h]

/-- Without a mark, all files on the way are found. -/
theorem localFiles_of_unmarked (h : ∀ p ∈ filesOf env dirs, ¬ IsMarked env p) :
    localFiles env dirs = (filesOf env dirs, false) := by
  induction dirs with
  | nil => rfl
  | cons dir dirs ih =>
    cases hfile : env.isFile (fileIn dir) with
    | false =>
      rw [filesOf_cons_of_not_isFile hfile] at h ⊢
      simp [localFiles, hfile, ih h]
    | true =>
      rw [filesOf_cons_of_isFile hfile] at h ⊢
      obtain ⟨hdir, hdirs⟩ := List.forall_mem_cons.mp h
      simp [localFiles, hfile, isRoot_eq_false_iff.mpr hdir, ih hdirs]

/-- With a mark on the way, the files up to the first marked one are found. -/
theorem localFiles_of_marked (h : filesOf env dirs = before ++ p :: after) (hbefore : ∀ q ∈ before, ¬ IsMarked env q)
    (hp : IsMarked env p) : localFiles env dirs = (before ++ [p], true) := by
  induction dirs generalizing before with
  | nil => cases List.append_eq_nil_iff.mp h.symm |>.2
  | cons dir dirs ih =>
    cases hfile : env.isFile (fileIn dir) with
    | false =>
      rw [filesOf_cons_of_not_isFile hfile] at h
      simp [localFiles, hfile, ih h hbefore]
    | true =>
      rw [filesOf_cons_of_isFile hfile] at h
      cases before with
      | nil =>
        obtain ⟨rfl, -⟩ := List.cons.inj h
        simp [localFiles, hfile, isRoot_iff.mpr hp]
      | cons q before =>
        obtain ⟨rfl, hmore⟩ := List.cons.inj h
        obtain ⟨hdir, hdirs⟩ := List.forall_mem_cons.mp hbefore
        simp [localFiles, hfile, isRoot_eq_false_iff.mpr hdir, ih hmore hdirs]

/-! ## All files that apply -/

/-- The file of the home directory comes behind files without a mark, if it is a file and not one of them. -/
theorem discover_of_unrooted {files : List Path} (h : localFiles env (dir :: dir.parents) = (files, false)) :
    (∀ home, env.home = some home → discover env dir =
      if env.isFile (fileIn home) = true ∧ ∀ q ∈ files, q.same (fileIn home) = false then files ++ [fileIn home]
      else files) ∧
    (env.home = none → discover env dir = files) := by
  unfold discover globalFile?
  rw [h]
  refine ⟨fun home hhome => ?_, fun hhome => ?_⟩
  · simp [hhome]
  · simp [hhome]

theorem localFiles_pairwise (env : Environment) (dir : Path) :
    (localFiles env (dir :: dir.parents)).1.Pairwise fun p q => p.same q = false := by
  refine List.Pairwise.sublist (localFiles_sublist env _) (List.pairwise_map.mpr ?_)
  refine dir.parents_pairwise.imp fun {p q} habove => ?_
  refine Bool.eq_false_iff.mpr fun hsame => habove.2 ?_
  have hcomponents := same_fileIn_iff.mp hsame
  rw [Path.same, beq_iff_eq] at hcomponents
  exact hcomponents.symm

/-- No path is found twice. -/
theorem discover_pairwise (env : Environment) (dir : Path) :
    (discover env dir).Pairwise fun p q => p.same q = false := by
  rcases discover_cases env dir with h | ⟨file, -, -, -, hnone, h⟩
  · exact h ▸ localFiles_pairwise env dir
  · rw [h]
    exact List.pairwise_append.mpr ⟨localFiles_pairwise env dir, List.pairwise_singleton _ _, fun p hp q hq =>
      List.mem_singleton.mp hq ▸ hnone p hp⟩

/-- Paths of settings files that lead nowhere up lead to different files. -/
theorem locate_ne_of_not_same {q : Path} (hp : p.isAbsolute = true) (hq : q.isAbsolute = true)
    (hpup : .up ∉ p.components) (hqup : .up ∉ q.components) (hfile : env.isFile p = true) (hne : p.same q = false) :
    env.disk.locate p ≠ env.disk.locate q := by
  intro hlocate
  obtain ⟨place, hplace⟩ : ∃ place, env.disk.locate p = .ok place := by
    unfold Environment.isFile Disk.isFile at hfile
    rw [Path.join_of_isAbsolute hp] at hfile
    split at hfile
    · next bytes hfind =>
      obtain ⟨place, hplace, -⟩ := Disk.find_eq_ok_iff.mp hfind
      exact ⟨place, hplace⟩
    · cases hfile
  have hsame : p.place = q.place :=
    (Disk.eq_follow_of_locate hplace).symm.trans (Disk.eq_follow_of_locate (hlocate ▸ hplace))
  rw [Path.components_of_isAbsolute hp] at hpup
  rw [Path.components_of_isAbsolute hq] at hqup
  have hsteps := Path.steps_eq_of_place_eq (List.not_mem_of_not_mem_cons hpup) (List.not_mem_of_not_mem_cons hqup) hsame
  rw [Path.same, Path.components_of_isAbsolute hp, Path.components_of_isAbsolute hq, hsteps, beq_self_eq_true] at hne
  cases hne

/-- A settings file of an absolute directory without steps up has such a path, too. -/
theorem isAbsolute_fileIn (hdir : dir.isAbsolute = true ∧ .up ∉ dir.components) :
    (fileIn dir).isAbsolute = true ∧ .up ∉ (fileIn dir).components := by
  refine ⟨Path.isAbsolute_join hdir.1 _, ?_⟩
  rw [components_fileIn, List.mem_append, not_or]
  exact ⟨hdir.2, by decide⟩

/-- What is found from directories without steps up has none either. -/
theorem isAbsolute_of_mem_discover (hdir : dir.isAbsolute = true ∧ .up ∉ dir.components)
    (hhome : ∀ home, env.home = some home → home.isAbsolute = true ∧ .up ∉ home.components)
    (hp : p ∈ discover env dir) : p.isAbsolute = true ∧ .up ∉ p.components := by
  rcases mem_discover hp with ⟨d, hd, rfl⟩ | ⟨home, h, rfl⟩
  · rcases List.mem_cons.mp hd with rfl | hd
    · exact isAbsolute_fileIn hdir
    · obtain ⟨habove, -⟩ := (List.pairwise_cons.mp dir.parents_pairwise).1 d hd
      exact isAbsolute_fileIn ⟨Path.isAbsolute_of_mem_parents hdir.1 hd, fun hup => hdir.2 (habove.mem hup)⟩
  · exact isAbsolute_fileIn (hhome home h)

/-- No file is found twice, unless paths lead up again. -/
theorem discover_locate_pairwise (hdir : dir.isAbsolute = true ∧ .up ∉ dir.components)
    (hhome : ∀ home, env.home = some home → home.isAbsolute = true ∧ .up ∉ home.components) :
    (discover env dir).Pairwise fun p q => env.disk.locate p ≠ env.disk.locate q := by
  refine (discover_pairwise env dir).imp_of_mem fun {p q} hp hq hne => ?_
  obtain ⟨hpabs, hpup⟩ := isAbsolute_of_mem_discover hdir hhome hp
  obtain ⟨hqabs, hqup⟩ := isAbsolute_of_mem_discover hdir hhome hq
  exact locate_ne_of_not_same hpabs hqabs hpup hqup (isFile_of_mem_discover hp) hne

/-- A file is found if all that stands in nearer directories is passed over. -/
theorem mem_localFiles_of_passedOver {below above : List Path} (hbelow : ∀ e ∈ below, PassedOver env (fileIn e))
    (hfile : env.isFile (fileIn dir) = true) : fileIn dir ∈ (localFiles env (below ++ dir :: above)).1 := by
  induction below with
  | nil =>
    rw [List.nil_append, localFiles_cons_of_isFile hfile]
    exact List.mem_cons_self
  | cons e below ih =>
    obtain ⟨he, hbelow⟩ := List.forall_mem_cons.mp hbelow
    rw [List.cons_append]
    cases hfile' : env.isFile (fileIn e) with
    | false => simpa [localFiles, hfile'] using ih hbelow
    | true =>
      rw [localFiles_cons_of_isFile hfile', isRoot_eq_false_iff.mpr (passedOver_iff.mp he)]
      exact List.mem_cons_of_mem _ (ih hbelow)

theorem mem_discover_of_mem_localFiles (hp : p ∈ (localFiles env (dir :: dir.parents)).1) : p ∈ discover env dir := by
  rcases discover_cases env dir with h | ⟨file, -, -, -, -, h⟩
  · exact h ▸ hp
  · exact h ▸ List.mem_append_left _ hp

/-- **The files that apply in a directory** are those up to the first root mark or, without one, also that of the home
directory. -/
theorem discover_exactly (env : Environment) (hdir : dir.isAbsolute = true) :
    (dir :: dir.parents).map Path.components = (List.range dir.components.length).map dir.components.rdrop ∧
    (∀ before p after, filesOf env (dir :: dir.parents) = before ++ p :: after → (∀ q ∈ before, ¬ IsMarked env q) →
      IsMarked env p → discover env dir = before ++ [p]) ∧
    ((∀ p ∈ filesOf env (dir :: dir.parents), ¬ IsMarked env p) →
      (∀ home, env.home = some home → discover env dir =
        if env.isFile (fileIn home) = true ∧ ∀ q ∈ filesOf env (dir :: dir.parents), q.same (fileIn home) = false then
          filesOf env (dir :: dir.parents) ++ [fileIn home]
        else filesOf env (dir :: dir.parents)) ∧
      (env.home = none → discover env dir = filesOf env (dir :: dir.parents))) ∧
    (discover env dir).Pairwise (fun p q => p.same q = false) ∧
    (.up ∉ dir.components → (∀ home, env.home = some home → home.isAbsolute = true ∧ .up ∉ home.components) →
      (discover env dir).Pairwise fun p q => env.disk.locate p ≠ env.disk.locate q) ∧
    (∀ below d above, dir :: dir.parents = below ++ d :: above → (∀ e ∈ below, PassedOver env (fileIn e)) →
      env.isFile (fileIn d) = true → fileIn d ∈ discover env dir) := by
  refine ⟨Path.map_components_parents hdir, fun before p after hfiles hbefore hp => ?_, fun hnone => ?_,
    discover_pairwise env dir, fun hup hhome => discover_locate_pairwise ⟨hdir, hup⟩ hhome,
    fun below d above hway hbelow hfile => ?_⟩
  · exact discover_of_rooted (localFiles_of_marked hfiles hbefore hp)
  · exact discover_of_unrooted (localFiles_of_unmarked hnone)
  · apply mem_discover_of_mem_localFiles
    rw [hway]
    exact mem_localFiles_of_passedOver hbelow hfile

/-- A directory that has the name of a settings file, a file that is no settings file, a mark, and what the mark keeps
out. -/
theorem discover_exactly_marked :
    let disk := (((Disk.empty.withDirectories [".kanji.toml".toList, "sub".toList, "in".toList, "work".toList]).put
      [".kanji.toml".toList, "in".toList, "work".toList] (some (.file "[search".toUTF8))).put
      [".kanji.toml".toList, "work".toList] (some (.file "root = true\n".toUTF8))).put
      [".kanji.toml".toList] (some (.file "[search]\nlimit = 7\n".toUTF8))
    let env : Environment := ⟨disk, .ofString "/work/in/sub", some (.ofString "/")⟩
    discover env env.directory = [.ofString "/work/in/.kanji.toml", .ofString "/work/.kanji.toml"] := by
  intro disk env
  have hfiles : filesOf env (env.directory :: env.directory.parents) =
      [.ofString "/work/in/.kanji.toml"] ++ .ofString "/work/.kanji.toml" :: [.ofString "/.kanji.toml"] := by
    decide +kernel
  have hdir : env.directory.isAbsolute = true := by decide
  refine (discover_exactly env hdir).2.1 _ _ _ hfiles ?_ ?_
  · rw [List.forall_mem_singleton, ← isRoot_eq_false_iff]
    decide +kernel
  · rw [← isRoot_iff]
    decide +kernel

end KanjiSearch.Settings
