import KanjiSearch.Proofs.Path.Components
import KanjiSearch.Settings.Discovery

/-!
# Which settings files are found

* `localFiles_sublist`, `mem_discover`: all files that are found are those of directories on the way up, in this order,
  and perhaps the one of the home directory.
* `components_fileIn`, `exists_parent?_fileIn`: a settings file and its directory.
* `discover_cases`: when the one of the home directory is added.
-/

namespace KanjiSearch.Settings

variable {env : Environment} {dir home p q : Path} {dirs : List Path}

/-! ## Settings files and their directories -/

/-- The component that settings files add to their directories. -/
def fileStep : Component :=
  .name fileName.toList

theorem components_fileIn (dir : Path) : (fileIn dir).components = dir.components ++ [fileStep] :=
  Path.components_join dir (p := .ofString fileName) (by decide)

theorem same_fileIn_iff : (fileIn dir).same (fileIn home) = true ↔ dir.same home = true := by
  simp [Path.same, components_fileIn]

theorem exists_parent?_fileIn (dir : Path) : ∃ q, (fileIn dir).parent? = some q ∧ q.components = dir.components :=
  Path.exists_parent?_join dir fileName.toList (by decide) (by decide)

theorem isAbsolute_directory {f : SettingsFile} (hf : f.path = fileIn dir) (h : dir.isAbsolute = true) :
    f.directory.isAbsolute = true := by
  obtain ⟨q, hq, hcomponents⟩ := exists_parent?_fileIn dir
  rw [SettingsFile.directory, hf, hq]
  rw [Path.isAbsolute_iff_head?] at h ⊢
  rw [← h, ← hcomponents]
  rfl

/-! ## The walk -/

theorem localFiles_sublist (env : Environment) (dirs : List Path) :
    (localFiles env dirs).1.Sublist (dirs.map fileIn) := by
  induction dirs with
  | nil => exact List.Sublist.refl _
  | cons dir dirs ih =>
    rw [localFiles]
    dsimp only
    split
    · exact ih.cons _
    · split
      · exact (List.nil_sublist _).cons_cons _
      · exact ih.cons_cons _

theorem localFiles_cons_of_isFile (hfile : env.isFile (fileIn dir) = true) :
    (localFiles env (dir :: dirs)).1 =
      fileIn dir :: if isRoot env (fileIn dir) then [] else (localFiles env dirs).1 := by
  rw [localFiles]
  simp only [hfile, Bool.not_true, Bool.false_eq_true, if_false]
  split <;> rfl

theorem localFiles_eq_nil_iff : (localFiles env dirs).1 = [] ↔ ∀ dir ∈ dirs, env.isFile (fileIn dir) = false := by
  induction dirs with
  | nil => simp [localFiles]
  | cons dir dirs ih =>
    cases hfile : env.isFile (fileIn dir) with
    | true => simp [localFiles_cons_of_isFile hfile, hfile]
    | false => simp [localFiles, hfile, ih]

theorem isFile_of_mem_localFiles (h : p ∈ (localFiles env dirs).1) : env.isFile p = true := by
  induction dirs with
  | nil => cases h
  | cons dir dirs ih =>
    cases hfile : env.isFile (fileIn dir) with
    | true =>
      rw [localFiles_cons_of_isFile hfile, List.mem_cons] at h
      rcases h with rfl | h
      · exact hfile
      · split at h
        · cases h
        · exact ih h
    | false =>
      rw [localFiles] at h
      simp only [hfile, Bool.not_false, if_true] at h
      exact ih h

/-- Behind the files on the way up there is at most the one of the home directory. -/
theorem discover_cases (env : Environment) (dir : Path) :
    discover env dir = (localFiles env (dir :: dir.parents)).1 ∨
      ∃ file, globalFile? env.home = some file ∧ env.isFile file = true ∧
        (localFiles env (dir :: dir.parents)).2 = false ∧
        (∀ p ∈ (localFiles env (dir :: dir.parents)).1, p.same file = false) ∧
        discover env dir = (localFiles env (dir :: dir.parents)).1 ++ [file] := by
  unfold discover
  dsimp only
  split
  · next file hfile =>
    split
    · next h =>
      simp only [Bool.and_eq_true, Bool.not_eq_true', List.any_eq_false] at h
      exact .inr ⟨file, hfile, h.1.2, h.1.1, fun p hp => by simpa using h.2 p hp, rfl⟩
    · exact .inl rfl
  · exact .inl rfl

theorem isFile_of_mem_discover (h : p ∈ discover env dir) : env.isFile p = true := by
  rcases discover_cases env dir with hdiscover | ⟨file, -, hfile, -, -, hdiscover⟩
  · rw [hdiscover] at h
    exact isFile_of_mem_localFiles h
  · rw [hdiscover, List.mem_append, List.mem_singleton] at h
    rcases h with h | rfl
    · exact isFile_of_mem_localFiles h
    · exact hfile

theorem mem_discover (h : p ∈ discover env dir) :
    (∃ d ∈ dir :: dir.parents, p = fileIn d) ∨ ∃ home, env.home = some home ∧ p = fileIn home := by
  have hlocal : p ∈ (localFiles env (dir :: dir.parents)).1 → ∃ d ∈ dir :: dir.parents, p = fileIn d := fun hp => by
    obtain ⟨d, hd, rfl⟩ := List.mem_map.mp ((localFiles_sublist env _).mem hp)
    exact ⟨d, hd, rfl⟩
  rcases discover_cases env dir with hdiscover | ⟨file, hfile, -, -, -, hdiscover⟩
  · rw [hdiscover] at h
    exact .inl (hlocal h)
  · rw [hdiscover, List.mem_append, List.mem_singleton] at h
    rcases h with h | rfl
    · exact .inl (hlocal h)
    · obtain ⟨home, hhome, rfl⟩ := Option.map_eq_some_iff.mp hfile
      exact .inr ⟨home, hhome, rfl⟩

end KanjiSearch.Settings
