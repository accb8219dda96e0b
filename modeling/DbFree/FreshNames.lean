import Mathlib

/- A name that nobody has yet, taken from a row of candidates. Names are told apart by a
key, such as the name with its case folded. -/
namespace DbFree.FreshNames

variable {Name Key : Type} [DecidableEq Key] (key : Name → Key) (candidate : Nat → Name)

/-- The place of the first candidate from `place` on whose key is not used, sought for
`tries` turns. -/
def seek (used : List Key) : Nat → Nat → Nat
  | 0, place => place
  | tries + 1, place =>
    if key (candidate place) ∈ used then seek used tries (place + 1) else place

/-- As many candidates as there are used keys may be taken, and the first one besides. -/
def choose (used : List Key) : Name :=
  candidate (seek key candidate used (used.length + 1) 0)

variable {key candidate}

theorem seek_eq {used : List Key} {free : Nat} (unused : key (candidate free) ∉ used)
    (tries place : Nat) (reached : place ≤ free) (enough : free ≤ place + tries)
    (taken : ∀ other, place ≤ other → other < free → key (candidate other) ∈ used) :
    seek key candidate used tries place = free := by
  induction tries generalizing place with
  | zero =>
    show place = free
    omega
  | succ tries hypothesis =>
    rw [seek]
    by_cases there : place = free
    · subst there
      rw [if_neg unused]
    · rw [if_pos (taken place (Nat.le_refl place) (by omega))]
      apply hypothesis (place + 1) (by omega) (by omega)
      intro other above below
      exact taken other (by omega) below

theorem seek_le (used : List Key) (tries place : Nat) :
    seek key candidate used tries place ≤ place + tries := by
  induction tries generalizing place with
  | zero => exact Nat.le_refl _
  | succ tries hypothesis =>
    rw [seek]
    split_ifs with taken
    · have later := hypothesis (place + 1)
      omega
    · omega

variable (key candidate) in
/-- The candidate chosen is one of the first ones, as many as there are used keys and two. -/
theorem choose_within (used : List Key) :
    ∃ place, place ≤ used.length + 1 ∧ choose key candidate used = candidate place :=
  ⟨_, (seek_le used (used.length + 1) 0).trans (Nat.le_of_eq (Nat.zero_add _)), rfl⟩

/-- One of the candidates after the first is free, when their keys differ. -/
theorem exists_free (distinct : ∀ m n, key (candidate (m + 1)) = key (candidate (n + 1)) → m = n)
    (used : List Key) :
    ∃ place, place ≤ used.length + 1 ∧ key (candidate place) ∉ used := by
  by_contra all_taken
  have different : ((List.range (used.length + 1)).map fun n => key (candidate (n + 1))).Nodup :=
    List.Nodup.map (fun m n same => distinct m n same) List.nodup_range
  have inside : ((List.range (used.length + 1)).map fun n => key (candidate (n + 1))) ⊆ used := by
    intro taken member
    obtain ⟨n, small, rfl⟩ := List.mem_map.mp member
    by_contra unused
    have short := List.mem_range.mp small
    exact all_taken ⟨n + 1, by omega, unused⟩
  have count := different.length_le_of_subset inside
  rw [List.length_map, List.length_range] at count
  omega

/-- The name chosen is the first of the candidates that nobody has. -/
theorem choose_spec (distinct : ∀ m n, key (candidate (m + 1)) = key (candidate (n + 1)) → m = n)
    (used : List Key) :
    ∃ place, choose key candidate used = candidate place ∧ key (candidate place) ∉ used ∧
      ∀ other, other < place → key (candidate other) ∈ used := by
  obtain ⟨some_place, bound, free⟩ := exists_free distinct used
  have exists_first : ∃ place, key (candidate place) ∉ used := ⟨some_place, free⟩
  have first := Nat.find_spec exists_first
  have least : ∀ other, other < Nat.find exists_first → key (candidate other) ∈ used := by
    intro other below
    by_contra unused
    exact Nat.find_min exists_first below unused
  refine ⟨Nat.find exists_first, ?_, first, least⟩
  have within := Nat.find_min' exists_first free
  rw [choose, seek_eq first _ _ (by omega) (by omega)]
  intro other _ below
  exact least other below

theorem key_choose_notMem
    (distinct : ∀ m n, key (candidate (m + 1)) = key (candidate (n + 1)) → m = n)
    (used : List Key) : key (choose key candidate used) ∉ used := by
  obtain ⟨place, chosen, free, _⟩ := choose_spec distinct used
  rw [chosen]
  exact free

/-- More used keys change the choice only where they hold the key of the name chosen. -/
theorem choose_of_subset
    (distinct : ∀ m n, key (candidate (m + 1)) = key (candidate (n + 1)) → m = n)
    {used more : List Key} (fewer : used ⊆ more)
    (free : key (choose key candidate used) ∉ more) :
    choose key candidate more = choose key candidate used := by
  obtain ⟨place, chosen, _, taken⟩ := choose_spec distinct used
  obtain ⟨place', chosen', free', taken'⟩ := choose_spec distinct more
  rw [chosen] at free ⊢
  rw [chosen']
  rcases Nat.lt_trichotomy place place' with before | same | after
  · exact absurd (taken' place before) free
  · rw [same]
  · exact absurd (fewer (taken place' after)) free'

theorem choose_congr
    (distinct : ∀ m n, key (candidate (m + 1)) = key (candidate (n + 1)) → m = n)
    {used used' : List Key} (same : ∀ taken, taken ∈ used ↔ taken ∈ used') :
    choose key candidate used' = choose key candidate used := by
  apply choose_of_subset distinct
  · intro taken member
    exact (same taken).mp member
  · intro member
    exact key_choose_notMem distinct used ((same _).mpr member)

end DbFree.FreshNames
