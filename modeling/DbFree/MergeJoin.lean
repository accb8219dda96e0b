import Mathlib

/- The merge join of two sorted association lists: every key of either side once,
with the values the sides hold for it. -/
namespace MergeJoin

/-- What the two sides hold for one key. -/
inductive Joined (α β : Type) where
  | left (value : α)
  | right (value : β)
  | both (first : α) (second : β)
deriving DecidableEq

variable {κ α β : Type} [Ord κ]

/-- The join of one entry of the left side, where `later` joins what follows it. -/
def joinEntry (later : List (κ × β) → List (κ × Joined α β)) (key : κ) (value : α) :
    List (κ × β) → List (κ × Joined α β)
  | [] => (key, .left value) :: later []
  | (other, found) :: right =>
    match compare key other with
    | .lt => (key, .left value) :: later ((other, found) :: right)
    | .gt => (other, .right found) :: joinEntry later key value right
    | .eq => (key, .both value found) :: later right

def mergeJoin : List (κ × α) → List (κ × β) → List (κ × Joined α β)
  | [], right => right.map fun entry => (entry.1, .right entry.2)
  | (key, value) :: left, right => joinEntry (mergeJoin left) key value right

/-- An entry is what both lists hold for its key. -/
def Holds (left : List (κ × α)) (right : List (κ × β)) (key : κ) : Joined α β → Prop
  | .left value => (key, value) ∈ left ∧ ∀ found, (key, found) ∉ right
  | .right found => (key, found) ∈ right ∧ ∀ value, (key, value) ∉ left
  | .both value found => (key, value) ∈ left ∧ (key, found) ∈ right

omit [Ord κ] in
/-- A key that the right side does not hold comes from the left entry alone. -/
theorem holds_left (left : List (κ × α)) (right : List (κ × β)) (first key : κ) (value : α)
    (entry : Joined α β) (once : ∀ other, (first, other) ∉ left)
    (absent : ∀ found, (first, found) ∉ right) :
    Holds ((first, value) :: left) right key entry ↔
      (key, entry) = (first, .left value) ∨ Holds left right key entry := by
  by_cases same : key = first
  · subst same
    cases entry <;> simp [Holds, once, absent]
  · cases entry <;> simp [Holds, same]

omit [Ord κ] in
theorem holds_right (left : List (κ × α)) (right : List (κ × β)) (first key : κ) (found : β)
    (entry : Joined α β) (once : ∀ other, (first, other) ∉ right)
    (absent : ∀ value, (first, value) ∉ left) :
    Holds left ((first, found) :: right) key entry ↔
      (key, entry) = (first, .right found) ∨ Holds left right key entry := by
  by_cases same : key = first
  · subst same
    cases entry <;> simp [Holds, once, absent]
  · cases entry <;> simp [Holds, same]

omit [Ord κ] in
theorem holds_both (left : List (κ × α)) (right : List (κ × β)) (first key : κ) (value : α)
    (found : β) (entry : Joined α β) (onceLeft : ∀ other, (first, other) ∉ left)
    (onceRight : ∀ other, (first, other) ∉ right) :
    Holds ((first, value) :: left) ((first, found) :: right) key entry ↔
      (key, entry) = (first, .both value found) ∨ Holds left right key entry := by
  by_cases same : key = first
  · subst same
    cases entry <;> simp [Holds, onceLeft, onceRight]
  · cases entry <;> simp [Holds, same]

/-- The keys of a list strictly increase. -/
def Increasing {γ : Type} (entries : List (κ × γ)) : Prop :=
  entries.Pairwise fun first second => compare first.1 second.1 = .lt

variable [Std.TransOrd κ] [Std.LawfulEqOrd κ]

theorem absent_of_lt {γ : Type} {key first : κ} {value : γ} {entries : List (κ × γ)}
    (increasing : Increasing ((first, value) :: entries)) (less : compare key first = .lt) :
    ∀ other, (key, other) ∉ (first, value) :: entries := by
  intro other member
  have itself : compare key key = .lt := by
    rcases List.mem_cons.mp member with same | later
    · cases same
      exact less
    · exact Std.TransCmp.lt_trans less ((List.pairwise_cons.mp increasing).1 _ later)
  rw [Std.ReflOrd.compare_self] at itself
  exact Ordering.noConfusion itself

omit [Std.TransOrd κ] in
theorem absent_of_cons {γ : Type} {key : κ} {value : γ} {entries : List (κ × γ)}
    (increasing : Increasing ((key, value) :: entries)) :
    ∀ other, (key, other) ∉ entries := by
  intro other member
  have itself := (List.pairwise_cons.mp increasing).1 _ member
  rw [Std.ReflOrd.compare_self] at itself
  exact Ordering.noConfusion itself

theorem mem_joinEntry (left : List (κ × α)) (first : κ) (value : α)
    (increasing : Increasing ((first, value) :: left))
    (later : ∀ right : List (κ × β), Increasing right → ∀ key entry,
      (key, entry) ∈ mergeJoin left right ↔ Holds left right key entry)
    (right : List (κ × β)) (rightIncreasing : Increasing right) (key : κ)
    (entry : Joined α β) :
    (key, entry) ∈ joinEntry (mergeJoin left) first value right ↔
      Holds ((first, value) :: left) right key entry := by
  have once := absent_of_cons increasing
  induction right with
  | nil =>
    rw [joinEntry, List.mem_cons, later [] List.Pairwise.nil, holds_left _ _ _ _ _ _ once]
    intro found member
    cases member
  | cons other right ih =>
    obtain ⟨other, found⟩ := other
    have behind : Increasing right := (List.pairwise_cons.mp rightIncreasing).2
    have onceRight := absent_of_cons rightIncreasing
    rw [joinEntry]
    split
    · rename_i less
      rw [List.mem_cons, later _ rightIncreasing, holds_left _ _ _ _ _ _ once]
      exact absent_of_lt rightIncreasing less
    · rename_i greater
      rw [List.mem_cons, holds_right _ _ _ _ _ _ onceRight]
      · exact or_congr_right (ih behind)
      · exact absent_of_lt increasing (Std.OrientedCmp.lt_of_gt greater)
    · rename_i equal
      have same := Std.LawfulEqCmp.eq_of_compare equal
      subst same
      rw [List.mem_cons, later _ behind, holds_both _ _ _ _ _ _ _ once onceRight]

/-- The join of two sides with increasing keys holds exactly what the sides hold. -/
theorem mem_mergeJoin (left : List (κ × α)) (right : List (κ × β))
    (leftIncreasing : Increasing left) (rightIncreasing : Increasing right) (key : κ)
    (entry : Joined α β) :
    (key, entry) ∈ mergeJoin left right ↔ Holds left right key entry := by
  induction left generalizing right key entry with
  | nil =>
    cases entry <;> simp [mergeJoin, Holds]
  | cons first left ih =>
    have behind : Increasing left := (List.pairwise_cons.mp leftIncreasing).2
    rw [mergeJoin]
    apply mem_joinEntry left first.1 first.2 leftIncreasing
    · intro right increasing key entry
      exact ih right behind increasing key entry
    · exact rightIncreasing

omit [Ord κ] [Std.TransOrd κ] [Std.LawfulEqOrd κ] in
/-- An entry's key is one of the left side's or of the right side's. -/
theorem Holds.key {left : List (κ × α)} {right : List (κ × β)} {key : κ} {entry : Joined α β}
    (holds : Holds left right key entry) :
    (∃ value, (key, value) ∈ left) ∨ ∃ found, (key, found) ∈ right := by
  cases entry with
  | left value => exact Or.inl ⟨value, holds.1⟩
  | right found => exact Or.inr ⟨found, holds.1⟩
  | both value found => exact Or.inl ⟨value, holds.1⟩

theorem increasing_joinEntry (left : List (κ × α)) (first : κ) (value : α)
    (increasing : Increasing ((first, value) :: left))
    (later : ∀ right : List (κ × β), Increasing right → Increasing (mergeJoin left right))
    (right : List (κ × β)) (rightIncreasing : Increasing right) :
    Increasing (joinEntry (mergeJoin left) first value right) := by
  obtain ⟨above, behind⟩ := List.pairwise_cons.mp increasing
  induction right with
  | nil =>
    refine List.pairwise_cons.mpr ⟨?_, later [] rightIncreasing⟩
    intro entry member
    rcases ((mem_mergeJoin _ _ behind rightIncreasing _ _).mp member).key with inside | inside
    · exact above _ inside.choose_spec
    · cases inside.choose_spec
  | cons other right hypothesis =>
    obtain ⟨other, found⟩ := other
    obtain ⟨aboveRight, behindRight⟩ := List.pairwise_cons.mp rightIncreasing
    rw [joinEntry]
    split
    · rename_i less
      refine List.pairwise_cons.mpr ⟨?_, later _ rightIncreasing⟩
      intro entry member
      rcases ((mem_mergeJoin _ _ behind rightIncreasing _ _).mp member).key with inside | inside
      · exact above _ inside.choose_spec
      · rcases List.mem_cons.mp inside.choose_spec with same | inside'
        · rw [(Prod.mk.inj same).1]
          exact less
        · exact Std.TransCmp.lt_trans less (aboveRight _ inside')
    · rename_i greater
      have less := Std.OrientedCmp.lt_of_gt greater
      refine List.pairwise_cons.mpr ⟨?_, hypothesis behindRight⟩
      intro entry member
      have holds := (mem_joinEntry left first value increasing
        (fun right increasing => mem_mergeJoin left right behind increasing) right behindRight
        entry.1 entry.2).mp member
      rcases holds.key with inside | inside
      · rcases List.mem_cons.mp inside.choose_spec with same | inside'
        · rw [(Prod.mk.inj same).1]
          exact less
        · exact Std.TransCmp.lt_trans less (above _ inside')
      · exact aboveRight _ inside.choose_spec
    · rename_i equal
      have same := Std.LawfulEqCmp.eq_of_compare equal
      subst same
      refine List.pairwise_cons.mpr ⟨?_, later _ behindRight⟩
      intro entry member
      rcases ((mem_mergeJoin _ _ behind behindRight _ _).mp member).key with inside | inside
      · exact above _ inside.choose_spec
      · exact aboveRight _ inside.choose_spec

theorem increasing_mergeJoin (left : List (κ × α)) (right : List (κ × β))
    (leftIncreasing : Increasing left) (rightIncreasing : Increasing right) :
    Increasing (mergeJoin left right) := by
  induction left generalizing right with
  | nil =>
    rw [mergeJoin]
    exact List.pairwise_map.mpr rightIncreasing
  | cons first left hypothesis =>
    rw [mergeJoin]
    apply increasing_joinEntry left first.1 first.2 leftIncreasing _ right rightIncreasing
    intro right increasing
    exact hypothesis right (List.pairwise_cons.mp leftIncreasing).2 increasing

end MergeJoin
