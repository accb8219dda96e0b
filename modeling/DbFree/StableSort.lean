import Mathlib

/- Stable sorting by a comparison that is an order on the elements at hand, and when two
comparisons sort a list alike. -/
namespace DbFree.StableSort

variable {α : Type*} {before before' : α → α → Prop}

/-- The comparison orders the elements of the list. -/
structure Consistent (before : α → α → Prop) (list : List α) : Prop where
  total : ∀ a ∈ list, ∀ b ∈ list, before a b ∨ before b a
  trans : ∀ a ∈ list, ∀ b ∈ list, ∀ c ∈ list, before a b → before b c → before a c

instance (before : α → α → Prop) [DecidableRel before] (list : List α) :
    Decidable (Consistent before list) :=
  decidable_of_iff
    ((∀ a ∈ list, ∀ b ∈ list, before a b ∨ before b a) ∧
      ∀ a ∈ list, ∀ b ∈ list, ∀ c ∈ list, before a b → before b c → before a c)
    ⟨fun both => ⟨both.1, both.2⟩, fun consistent => ⟨consistent.total, consistent.trans⟩⟩

variable [DecidableRel before] [DecidableRel before'] {list : List α}

theorem sorted_of_consistent (consistent : Consistent before list) :
    (list.insertionSort before).Pairwise before := by
  let within : {a // a ∈ list} → {a // a ∈ list} → Prop := fun a b => before a.1 b.1
  have total : Std.Total within := ⟨fun a b => consistent.total a.1 a.2 b.1 b.2⟩
  have trans : IsTrans _ within := ⟨fun a b c => consistent.trans a.1 a.2 b.1 b.2 c.1 c.2⟩
  have mapped := List.map_insertionSort (r := within) before Subtype.val list.attach
    fun a _ b _ => Iff.rfl
  rw [List.attach_map_subtype_val] at mapped
  rw [← mapped, List.pairwise_map]
  exact List.pairwise_insertionSort within list.attach

theorem orderedInsert_congr {a : α} (same : ∀ b ∈ list, before a b ↔ before' a b) :
    list.orderedInsert before a = list.orderedInsert before' a := by
  induction list with
  | nil => rfl
  | cons first rest hypothesis =>
    rw [List.orderedInsert_cons, List.orderedInsert_cons,
      hypothesis fun b member => same b (List.mem_cons_of_mem first member)]
    simp only [same first List.mem_cons_self]

/-- Comparisons that agree on each element and those behind it sort alike. -/
theorem insertionSort_congr (agree : list.Pairwise fun a b => before a b ↔ before' a b) :
    list.insertionSort before = list.insertionSort before' := by
  induction list with
  | nil => rfl
  | cons first rest hypothesis =>
    rw [List.pairwise_cons] at agree
    rw [List.insertionSort_cons, List.insertionSort_cons, hypothesis agree.2]
    exact orderedInsert_congr fun b member =>
      agree.1 b ((List.mem_insertionSort before').mp member)

/-- Orders that sort a list alike agree on each element and those behind it. -/
theorem insertionSort_eq_iff (consistent : Consistent before list)
    (consistent' : Consistent before' list) :
    list.insertionSort before = list.insertionSort before' ↔
      list.Pairwise fun a b => before a b ↔ before' a b := by
  refine ⟨fun same => ?_, insertionSort_congr⟩
  rw [List.pairwise_iff_forall_sublist]
  intro a b inside
  constructor
  · intro ordered
    have kept := List.pair_sublist_insertionSort ordered inside
    rw [same] at kept
    exact List.pairwise_pair.mp ((sorted_of_consistent consistent').sublist kept)
  · intro ordered
    have kept := List.pair_sublist_insertionSort ordered inside
    rw [← same] at kept
    exact List.pairwise_pair.mp ((sorted_of_consistent consistent).sublist kept)

end DbFree.StableSort
