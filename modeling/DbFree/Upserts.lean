import Mathlib

/- Lists that hold at most one element of each class of an equivalence, and the
insertion that puts a new element in the place of the old one of its class. -/
namespace DbFree.Upserts

variable {α : Type*}

/-- The first element asked for gives its place to the new one, which goes to the end
where there is none. -/
def upsert (replaces : α → Bool) (new : α) (list : List α) : List α :=
  match list.findIdx? replaces with
  | some index => list.set index new
  | none => list ++ [new]

theorem upsert_parts (replaces : α → Bool) (new : α) (list : List α) :
    (∃ front old back, list = front ++ old :: back ∧ replaces old = true ∧
      upsert replaces new list = front ++ new :: back) ∨
    ((∀ old ∈ list, replaces old = false) ∧ upsert replaces new list = list ++ [new]) := by
  unfold upsert
  cases found : list.findIdx? replaces with
  | none =>
    rw [List.findIdx?_eq_none_iff] at found
    exact Or.inr ⟨found, rfl⟩
  | some index =>
    rw [List.findIdx?_eq_some_iff_getElem] at found
    obtain ⟨inside, asked, _⟩ := found
    refine Or.inl ⟨list.take index, list[index], list.drop (index + 1), ?_, asked, ?_⟩
    · rw [List.getElem_cons_drop, List.take_append_drop]
    · dsimp only
      rw [List.set_eq_take_append_cons_drop, if_pos inside]

/-- At most one element of each class. -/
def OneEach (same : α → α → Prop) (list : List α) : Prop := list.Pairwise fun a b => ¬same a b

variable {same : α → α → Prop}

theorem oneEach_split (equivalence : Equivalence same) {front back : List α} {a : α} :
    OneEach same (front ++ a :: back) ↔
      OneEach same (front ++ back) ∧ ∀ b ∈ front ++ back, ¬same b a := by
  have swap : ∀ {x y : α}, ¬same x y → ¬same y x :=
    fun apart close => apart (equivalence.symm close)
  unfold OneEach
  rw [List.pairwise_middle swap, List.pairwise_cons]
  constructor
  · rintro ⟨apart, rest⟩
    exact ⟨rest, fun b member => swap (apart b member)⟩
  · rintro ⟨rest, apart⟩
    exact ⟨fun b member => swap (apart b member), rest⟩

/-- Where the elements asked for are those of the new one's class, the new one stands
for its class and the others stay. -/
theorem upsert_spec (equivalence : Equivalence same) {replaces : α → Bool} {new : α}
    {list : List α} (asks : ∀ old ∈ list, replaces old = true ↔ same old new)
    (one : OneEach same list) :
    OneEach same (upsert replaces new list) ∧
      ∀ a, a ∈ upsert replaces new list ↔ a = new ∨ (a ∈ list ∧ ¬same a new) := by
  rcases upsert_parts replaces new list with ⟨front, old, back, split, asked, replaced⟩ |
    ⟨none, appended⟩
  · have close : same old new := (asks old (by simp [split])).mp asked
    rw [split, oneEach_split equivalence] at one
    have apart : ∀ b ∈ front ++ back, ¬same b new := fun b member near =>
      one.2 b member (equivalence.trans near (equivalence.symm close))
    rw [replaced, oneEach_split equivalence]
    refine ⟨⟨one.1, apart⟩, fun a => ?_⟩
    have outside : a ∈ list ∧ ¬same a new ↔ a ∈ front ++ back := by
      constructor
      · rintro ⟨member, far⟩
        rw [split, List.mem_append, List.mem_cons] at member
        rcases member with ahead | rfl | behind
        · exact List.mem_append_left _ ahead
        · exact absurd close far
        · exact List.mem_append_right _ behind
      · intro member
        refine ⟨?_, apart a member⟩
        rw [split, List.mem_append, List.mem_cons]
        exact (List.mem_append.mp member).imp_right Or.inr
    rw [outside, List.mem_append, List.mem_append, List.mem_cons]
    tauto
  · have apart : ∀ b ∈ list, ¬same b new := fun b member close => by
      have asked := (asks b member).mpr close
      rw [none b member] at asked
      exact Bool.false_ne_true asked
    rw [appended, oneEach_split equivalence, List.append_nil]
    refine ⟨⟨one, apart⟩, fun a => ?_⟩
    rw [List.mem_append, List.mem_singleton]
    constructor
    · rintro (member | rfl)
      · exact Or.inr ⟨member, apart a member⟩
      · exact Or.inl rfl
    · rintro (rfl | ⟨member, _⟩)
      · exact Or.inr rfl
      · exact Or.inl member

end DbFree.Upserts
