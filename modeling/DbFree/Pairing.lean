import Mathlib

/- Two lists whose entries are matched by a key, the unmatched ones of both with no partner. -/
namespace DbFree.Pairing

variable {Item Key : Type} [DecidableEq Key] (key : Item → Key)

/-- The first item of the other side that has the key. -/
def partner (others : List Item) (item : Item) : Option Item :=
  others.find? fun other => key other = key item

def pairs (left right : List Item) : List (Option Item × Option Item) :=
  (left.map fun item => (some item, partner key right item)) ++
  (right.filter fun item => (partner key left item).isNone).map fun item => (none, some item)

/-- What makes a pair, said of both sides alike. -/
def Paired (left right : List Item) : Option Item × Option Item → Prop
  | (some first, some second) => first ∈ left ∧ second ∈ right ∧ key first = key second
  | (some first, none) => first ∈ left ∧ ∀ other ∈ right, key other ≠ key first
  | (none, some second) => second ∈ right ∧ ∀ other ∈ left, key other ≠ key second
  | (none, none) => False

variable {key}

omit [DecidableEq Key] in
theorem eq_of_key {items : List Item} (distinct : (items.map key).Nodup) {first second : Item}
    (member : first ∈ items) (member' : second ∈ items) (same : key first = key second) :
    first = second :=
  List.inj_on_of_nodup_map distinct member member' same

theorem partner_eq_none_iff {others : List Item} {item : Item} :
    partner key others item = none ↔ ∀ other ∈ others, key other ≠ key item := by
  rw [partner, List.find?_eq_none]
  simp

theorem partner_eq_some_iff {others : List Item} (distinct : (others.map key).Nodup)
    {item found : Item} :
    partner key others item = some found ↔ found ∈ others ∧ key found = key item := by
  constructor
  · intro here
    have same := List.find?_some here
    exact ⟨List.mem_of_find?_eq_some here, by simpa using same⟩
  · rintro ⟨member, same⟩
    cases here : partner key others item with
    | none => exact absurd same (partner_eq_none_iff.mp here found member)
    | some other =>
      have other_same := List.find?_some here
      have equal := eq_of_key distinct (List.mem_of_find?_eq_some here) member
        ((by simpa using other_same : key other = key item).trans same.symm)
      rw [equal]

theorem mem_pairs_iff {left right : List Item} (distinct : (right.map key).Nodup)
    (pair : Option Item × Option Item) :
    pair ∈ pairs key left right ↔ Paired key left right pair := by
  rw [pairs, List.mem_append, List.mem_map, List.mem_map]
  obtain ⟨first, second⟩ := pair
  cases first with
  | none =>
    cases second with
    | none => simp [Paired]
    | some second =>
      simp only [Prod.mk.injEq, reduceCtorEq, false_and, and_false, exists_false, false_or,
        List.mem_filter, true_and, Option.some.injEq, exists_eq_right, Paired,
        Option.isNone_iff_eq_none, partner_eq_none_iff]
  | some first =>
    simp only [Prod.mk.injEq, Option.some.injEq, reduceCtorEq, false_and, and_false, exists_false,
      or_false]
    cases second with
    | none =>
      simp only [Paired, ← partner_eq_none_iff]
      constructor
      · rintro ⟨item, member, rfl, alone⟩
        exact ⟨member, alone⟩
      · rintro ⟨member, alone⟩
        exact ⟨first, member, rfl, alone⟩
    | some second =>
      simp only [Paired]
      constructor
      · rintro ⟨item, member, rfl, found⟩
        obtain ⟨member', same⟩ := (partner_eq_some_iff distinct).mp found
        exact ⟨member, member', same.symm⟩
      · rintro ⟨member, member', same⟩
        exact ⟨first, member, rfl, (partner_eq_some_iff distinct).mpr ⟨member', same.symm⟩⟩

omit [DecidableEq Key] in
theorem nodup_of_keys {items : List Item} (distinct : (items.map key).Nodup) : items.Nodup :=
  List.Nodup.of_map key distinct

theorem pairs_nodup {left right : List Item} (distinct : (left.map key).Nodup)
    (distinct' : (right.map key).Nodup) : (pairs key left right).Nodup := by
  refine List.nodup_append.mpr ⟨?_, ?_, ?_⟩
  · apply (nodup_of_keys distinct).map
    intro first second same
    exact Option.some.inj (congrArg Prod.fst same)
  · apply ((nodup_of_keys distinct').filter _).map
    intro first second same
    exact Option.some.inj (congrArg Prod.snd same)
  · intro pair member other member' same
    obtain ⟨item, _, rfl⟩ := List.mem_map.mp member
    obtain ⟨item', _, rfl⟩ := List.mem_map.mp member'
    cases congrArg Prod.fst same

omit [DecidableEq Key] in
theorem paired_swap (left right : List Item) (pair : Option Item × Option Item) :
    Paired key right left pair ↔ Paired key left right pair.swap := by
  obtain ⟨first, second⟩ := pair
  cases first <;> cases second <;> simp only [Paired, Prod.swap]
  exact ⟨fun both => ⟨both.2.1, both.1, both.2.2.symm⟩, fun both => ⟨both.2.1, both.1, both.2.2.symm⟩⟩

/-- Which side comes first changes the order of the pairs only. -/
theorem pairs_swap {left right : List Item} (distinct : (left.map key).Nodup)
    (distinct' : (right.map key).Nodup) :
    (pairs key right left).Perm ((pairs key left right).map Prod.swap) := by
  apply (List.perm_ext_iff_of_nodup (pairs_nodup distinct' distinct)
    ((pairs_nodup distinct distinct').map Prod.swap_injective)).mpr
  intro pair
  rw [mem_pairs_iff distinct, paired_swap, List.mem_map]
  constructor
  · intro paired
    exact ⟨pair.swap, (mem_pairs_iff distinct' _).mpr paired, Prod.swap_swap pair⟩
  · rintro ⟨other, member, rfl⟩
    rw [Prod.swap_swap]
    exact (mem_pairs_iff distinct' other).mp member

theorem mem_of_mem_pairs {left right : List Item} {pair : Option Item × Option Item}
    (member : pair ∈ pairs key left right) :
    (∀ item, pair.1 = some item → item ∈ left) ∧ (∀ item, pair.2 = some item → item ∈ right) := by
  rw [pairs, List.mem_append, List.mem_map, List.mem_map] at member
  rcases member with ⟨first, inside, rfl⟩ | ⟨second, inside, rfl⟩
  · constructor
    · intro item same
      rw [← Option.some.inj same]
      exact inside
    · intro item found
      exact List.mem_of_find?_eq_some found
  · constructor
    · intro item same
      cases same
    · intro item same
      rw [← Option.some.inj same]
      exact (List.mem_filter.mp inside).1

theorem key_eq_of_mem_pairs {left right : List Item} {first second : Item}
    (member : (some first, some second) ∈ pairs key left right) : key second = key first := by
  rw [pairs, List.mem_append, List.mem_map, List.mem_map] at member
  rcases member with ⟨item, _, same⟩ | ⟨item, _, same⟩
  · rw [Prod.mk.injEq, Option.some.injEq] at same
    obtain ⟨rfl, found⟩ := same
    have key_eq := List.find?_some found
    simpa using key_eq
  · cases congrArg Prod.fst same

theorem pairs_left (left right : List Item) : (pairs key left right).filterMap Prod.fst = left := by
  rw [pairs, List.filterMap_append, List.filterMap_map, List.filterMap_map]
  have all : (Prod.fst ∘ fun item => (some item, partner key right item)) = some := rfl
  have none_there : (Prod.fst ∘ fun item : Item => ((none : Option Item), some item)) =
    fun _ => none := rfl
  rw [all, none_there, List.filterMap_some]
  simp

theorem pairs_right {left right : List Item} (distinct : (left.map key).Nodup)
    (distinct' : (right.map key).Nodup) :
    ((pairs key left right).filterMap Prod.snd).Perm right := by
  have swapped := (pairs_swap distinct' distinct).filterMap Prod.snd
  rw [List.filterMap_map] at swapped
  have first : (Prod.snd ∘ Prod.swap : Option Item × Option Item → Option Item) = Prod.fst := rfl
  rw [first, pairs_left] at swapped
  exact swapped

/-- The key of a pair. -/
def pairKey (key : Item → Key) (pair : Option Item × Option Item) : Option Key :=
  (pair.1.map key).or (pair.2.map key)

theorem pairs_keys_nodup {left right : List Item} (distinct : (left.map key).Nodup)
    (distinct' : (right.map key).Nodup) : ((pairs key left right).map (pairKey key)).Nodup := by
  apply (List.nodup_map_iff_inj_on (pairs_nodup distinct distinct')).mpr
  intro pair member other member' same
  have paired := (mem_pairs_iff distinct' pair).mp member
  have paired' := (mem_pairs_iff distinct' other).mp member'
  obtain ⟨first, second⟩ := pair
  obtain ⟨first', second'⟩ := other
  cases first with
  | none =>
    cases second with
    | none => exact paired.elim
    | some second =>
      cases first' with
      | some first' =>
        -- The first item of the other pair would have been a partner.
        have key_eq : key second = key first' := Option.some.inj same
        have inside : first' ∈ left := by cases second' <;> exact paired'.1
        exact absurd key_eq.symm (paired.2 first' inside)
      | none =>
        cases second' with
        | none => exact paired'.elim
        | some second' =>
          have key_eq : key second = key second' := Option.some.inj same
          rw [eq_of_key distinct' paired.1 paired'.1 key_eq]
  | some first =>
    cases first' with
    | none =>
      cases second' with
      | none => exact paired'.elim
      | some second' =>
        have key_eq : key first = key second' := Option.some.inj same
        have inside : first ∈ left := by cases second <;> exact paired.1
        exact absurd key_eq (paired'.2 first inside)
    | some first' =>
      have key_eq : key first = key first' := Option.some.inj same
      have inside : first ∈ left := by cases second <;> exact paired.1
      have inside' : first' ∈ left := by cases second' <;> exact paired'.1
      have first_eq := eq_of_key distinct inside inside' key_eq
      subst first_eq
      cases second with
      | none =>
        cases second' with
        | none => rfl
        | some second' => exact absurd paired'.2.2.symm (paired.2 second' paired'.2.1)
      | some second =>
        cases second' with
        | none => exact absurd paired.2.2.symm (paired'.2 second paired.2.1)
        | some second' =>
          rw [eq_of_key distinct' paired.2.1 paired'.2.1 (paired.2.2.symm.trans paired'.2.2)]

end DbFree.Pairing
