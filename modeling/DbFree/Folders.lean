import Mathlib

/- Folders whose files are told apart by a key of their names, such as the name with its
case folded. -/
namespace DbFree.Folders

variable {Name Key Content : Type} [DecidableEq Key] (key : Name → Key)

abbrev Folder (Name Content : Type) := List (Name × Content)

/-- A file put under a name takes the place of the one that has it. -/
def put (folder : Folder Name Content) (name : Name) (content : Content) : Folder Name Content :=
  folder.filter (key ·.1 ≠ key name) ++ [(name, content)]

def read (folder : Folder Name Content) (name : Name) : Option Content :=
  (folder.find? (key ·.1 = key name)).map (·.2)

def putAll (folder : Folder Name Content) (files : List (Name × Content)) :
    Folder Name Content :=
  files.foldl (fun folder file => put key folder file.1 file.2) folder

theorem length_put_le (folder : Folder Name Content) (name : Name) (content : Content) :
    (put key folder name content).length ≤ folder.length + 1 := by
  have fewer := List.length_filter_le (fun file => decide (key file.1 ≠ key name)) folder
  rw [put, List.length_append, List.length_singleton]
  omega

theorem length_putAll_le (folder : Folder Name Content) (files : List (Name × Content)) :
    (putAll key folder files).length ≤ folder.length + files.length := by
  induction files generalizing folder with
  | nil => simp [putAll]
  | cons file rest hypothesis =>
    have later := hypothesis (put key folder file.1 file.2)
    have now := length_put_le key folder file.1 file.2
    show (putAll key (put key folder file.1 file.2) rest).length ≤ _
    rw [List.length_cons]
    omega

variable {key}

theorem put_fresh {folder : Folder Name Content} {name : Name}
    (fresh : key name ∉ folder.map (key ·.1)) (content : Content) :
    put key folder name content = folder ++ [(name, content)] := by
  rw [put, List.filter_eq_self.mpr]
  intro file inside
  have differs : key file.1 ≠ key name := by
    intro same
    apply fresh
    rw [← same]
    exact List.mem_map.mpr ⟨file, inside, rfl⟩
  exact decide_eq_true differs

theorem length_put_lt {folder : Folder Name Content} {name : Name}
    (taken : key name ∈ folder.map (key ·.1)) (content : Content) :
    (put key folder name content).length < folder.length + 1 := by
  obtain ⟨file, inside, same⟩ := List.mem_map.mp taken
  have fewer : (folder.filter (key ·.1 ≠ key name)).length < folder.length := by
    apply List.length_filter_lt_length_iff_exists.mpr
    exact ⟨file, inside, by simp [same]⟩
  rw [put, List.length_append, List.length_singleton]
  omega

/-- As many files as were put are there only when none had the name of another. -/
theorem nodup_of_length (folder : Folder Name Content) (files : List (Name × Content))
    (distinct : (folder.map (key ·.1)).Nodup)
    (kept : (putAll key folder files).length = folder.length + files.length) :
    ((folder ++ files).map (key ·.1)).Nodup := by
  induction files generalizing folder with
  | nil => simpa using distinct
  | cons file rest hypothesis =>
    have bound := length_putAll_le key (put key folder file.1 file.2) rest
    change (putAll key (put key folder file.1 file.2) rest).length = _ at kept
    rw [List.length_cons] at kept
    by_cases taken : key file.1 ∈ folder.map (key ·.1)
    · have fewer := length_put_lt taken file.2
      omega
    · have put_eq := put_fresh taken file.2
      rw [put_eq] at kept
      have longer : ((folder ++ [(file.1, file.2)]).map (key ·.1)).Nodup := by
        rw [List.map_append, List.nodup_append]
        refine ⟨distinct, List.nodup_singleton _, fun other first last second => ?_⟩
        rw [List.map_singleton, List.mem_singleton] at second
        rintro rfl
        exact taken (second ▸ first)
      have all_kept : (putAll key (folder ++ [(file.1, file.2)]) rest).length =
          (folder ++ [(file.1, file.2)]).length + rest.length := by
        rw [kept, List.length_append, List.length_singleton]
        omega
      have rest_nodup := hypothesis _ longer all_kept
      rwa [List.append_assoc] at rest_nodup

theorem putAll_nodup (folder : Folder Name Content) (files : List (Name × Content))
    (distinct : ((folder ++ files).map (key ·.1)).Nodup) :
    putAll key folder files = folder ++ files := by
  induction files generalizing folder with
  | nil => simp [putAll]
  | cons file rest hypothesis =>
    have fresh : key file.1 ∉ folder.map (key ·.1) := by
      rw [List.map_append, List.nodup_append] at distinct
      intro taken
      exact distinct.2.2 _ taken _ (by simp) rfl
    show putAll key (put key folder file.1 file.2) rest = _
    rw [put_fresh fresh, hypothesis _ (by rwa [List.append_assoc]), List.append_assoc]
    rfl

/-- In a folder without two files of one name each file is read under its own. -/
theorem read_of_mem {folder : Folder Name Content} {file : Name × Content}
    (distinct : (folder.map (key ·.1)).Nodup) (inside : file ∈ folder) :
    read key folder file.1 = some file.2 := by
  rw [read]
  cases found : folder.find? (key ·.1 = key file.1) with
  | none =>
    have absent := List.find?_eq_none.mp found file inside
    simp at absent
  | some other =>
    have same : key other.1 = key file.1 := by simpa using List.find?_some found
    have there := List.mem_of_find?_eq_some found
    have equal := List.inj_on_of_nodup_map distinct there inside same
    rw [equal]
    rfl

end DbFree.Folders
