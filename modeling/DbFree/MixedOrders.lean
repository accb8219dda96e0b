import Mathlib

/- Comparisons that order a set of elements as a total preorder, one after the other and, for
elements of two kinds, one for each kind. -/
namespace DbFree.MixedOrders

variable {α β κ : Type*}

/-- The comparison is a total preorder on the elements: it turns around with its arguments, so it
is reflexive, total and antisymmetric up to equality, and it is transitive. -/
structure Orders (cmp : α → α → Ordering) (elements : Set α) : Prop where
  swap : ∀ a ∈ elements, ∀ b ∈ elements, cmp b a = (cmp a b).swap
  trans : ∀ a ∈ elements, ∀ b ∈ elements, ∀ c ∈ elements,
    cmp a b ≠ .gt → cmp b c ≠ .gt → cmp a c ≠ .gt

theorem swap_ne_gt {order : Ordering} : order.swap ≠ .gt ↔ order ≠ .lt := by
  cases order <;> decide

theorem ne_gt_of_eq {order : Ordering} (same : order = .eq) : order ≠ .gt := by
  rw [same]
  decide

theorem eq_of_ne_gt {order : Ordering} (notGreater : order ≠ .gt) (notLess : order.swap ≠ .gt) :
    order = .eq := by
  cases order with
  | lt => exact absurd rfl (swap_ne_gt.mp notLess)
  | eq => rfl
  | gt => exact absurd rfl notGreater

namespace Orders

variable {cmp : α → α → Ordering} {elements others : Set α}

theorem total (orders : Orders cmp elements) {a b : α} (first : a ∈ elements)
    (second : b ∈ elements) : cmp a b ≠ .gt ∨ cmp b a ≠ .gt := by
  rw [orders.swap a first b second]
  cases cmp a b <;> decide

theorem mono (orders : Orders cmp elements) (inside : others ⊆ elements) : Orders cmp others where
  swap a first b second := orders.swap a (inside first) b (inside second)
  trans a first b second c third := orders.trans a (inside first) b (inside second) c (inside third)

/-- Equal elements stand alike to a third one. -/
theorem congr (orders : Orders cmp elements) {a b c : α} (first : a ∈ elements)
    (second : b ∈ elements) (third : c ∈ elements) (same : cmp a b = .eq) : cmp a c = cmp b c := by
  have back : cmp b a = .eq := by
    rw [orders.swap a first b second, same]
    rfl
  have less : cmp a c ≠ .gt ↔ cmp b c ≠ .gt :=
    ⟨orders.trans b second a first c third (ne_gt_of_eq back),
      orders.trans a first b second c third (ne_gt_of_eq same)⟩
  have greater : cmp c a ≠ .gt ↔ cmp c b ≠ .gt :=
    ⟨fun le => orders.trans c third a first b second le (ne_gt_of_eq same),
      fun le => orders.trans c third b second a first le (ne_gt_of_eq back)⟩
  rw [orders.swap a first c third, orders.swap b second c third, swap_ne_gt, swap_ne_gt] at greater
  cases left : cmp a c <;> cases right : cmp b c <;> simp [left, right] at less greater ⊢

theorem of_eq (same : ∀ a ∈ elements, ∀ b ∈ elements, cmp a b = .eq) : Orders cmp elements where
  swap a first b second := by
    rw [same a first b second, same b second a first]
    rfl
  trans a first _ _ c third _ _ := ne_gt_of_eq (same a first c third)

/-- Comparisons that agree on the elements order them alike. -/
theorem iff_of_agree {cmp' : α → α → Ordering}
    (agree : ∀ a ∈ elements, ∀ b ∈ elements, cmp a b = cmp' a b) :
    Orders cmp elements ↔ Orders cmp' elements := by
  constructor
  · rintro ⟨swap, trans⟩
    refine ⟨?_, ?_⟩
    · intro a first b second
      rw [← agree a first b second, ← agree b second a first]
      exact swap a first b second
    · intro a first b second c third
      rw [← agree a first b second, ← agree b second c third, ← agree a first c third]
      exact trans a first b second c third
  · rintro ⟨swap, trans⟩
    refine ⟨?_, ?_⟩
    · intro a first b second
      rw [agree a first b second, agree b second a first]
      exact swap a first b second
    · intro a first b second c third
      rw [agree a first b second, agree b second c third, agree a first c third]
      exact trans a first b second c third

theorem reverse (orders : Orders cmp elements) :
    Orders (fun a b => (cmp a b).swap) elements where
  swap a first b second := by rw [orders.swap a first b second]
  trans a first b second c third left right := by
    rw [swap_ne_gt] at left right ⊢
    have turned := orders.trans c third b second a first
    rw [orders.swap a first b second, orders.swap a first c third, orders.swap b second c third,
      swap_ne_gt, swap_ne_gt, swap_ne_gt] at turned
    exact turned right left

/-- Elements that are compared by a key are ordered as their keys are. -/
theorem of_key [Ord κ] [Std.TransOrd κ] (key : α → κ) (elements : Set α) :
    Orders (fun a b => compare (key a) (key b)) elements where
  swap _ _ _ _ := Std.OrientedOrd.eq_swap
  trans a _ b _ c _ left right := by
    apply Ordering.ne_gt_iff_isLE.mpr
    exact Std.TransOrd.isLE_trans (Ordering.ne_gt_iff_isLE.mp left)
      (Ordering.ne_gt_iff_isLE.mp right)

theorem orders_image_iff {cmp : β → β → Ordering} {part : α → β} :
    Orders cmp (part '' elements) ↔ Orders (fun a b => cmp (part a) (part b)) elements := by
  constructor
  · intro orders
    refine ⟨?_, ?_⟩
    · intro a first b second
      exact orders.swap _ (Set.mem_image_of_mem part first) _ (Set.mem_image_of_mem part second)
    · intro a first b second c third
      exact orders.trans _ (Set.mem_image_of_mem part first) _ (Set.mem_image_of_mem part second) _
        (Set.mem_image_of_mem part third)
  · intro orders
    refine ⟨?_, ?_⟩
    · rintro _ ⟨a, first, rfl⟩ _ ⟨b, second, rfl⟩
      exact orders.swap a first b second
    · rintro _ ⟨a, first, rfl⟩ _ ⟨b, second, rfl⟩ _ ⟨c, third, rfl⟩
      exact orders.trans a first b second c third

/-- A second comparison decides where the first one finds no difference. -/
theorem orders_then {next : α → α → Ordering} (orders : Orders cmp elements)
    (follows : Orders next elements) :
    Orders (fun a b => (cmp a b).then (next a b)) elements where
  swap a first b second := by
    rw [orders.swap a first b second, follows.swap a first b second, Ordering.swap_then]
  trans a first b second c third left right := by
    have ahead := orders.trans a first b second c third
    cases ab : cmp a b with
    | gt =>
      rw [ab] at left
      exact absurd rfl left
    | eq =>
      rw [orders.congr first second third ab]
      cases bc : cmp b c with
      | lt => simp
      | gt => simp [bc] at right
      | eq =>
        simp only [ab, bc, Ordering.then] at left right ⊢
        exact follows.trans a first b second c third left right
    | lt =>
      cases bc : cmp b c with
      | gt => simp [bc] at right
      | eq =>
        have same : cmp a c = cmp a b := by
          have back : cmp c b = .eq := by
            rw [orders.swap b second c third, bc]
            rfl
          rw [orders.swap c third a first, orders.swap b second a first,
            orders.congr third second first back]
        rw [same, ab]
        intro greater
        cases greater
      | lt =>
        have le : cmp a c ≠ .gt := ahead (by rw [ab]; decide) (by rw [bc]; decide)
        have apart : cmp a c ≠ .eq := by
          intro same
          have turned := orders.congr first third second same
          rw [ab, orders.swap b second c third, bc] at turned
          cases turned
        cases ac : cmp a c with
        | lt =>
          intro greater
          cases greater
        | eq => exact absurd ac apart
        | gt => exact absurd ac le

end Orders

section Mixed

variable (special : α → Bool) (own other : α → α → Ordering)

/-- Two special elements are compared in their own way, all others in the other way. -/
def mixed (a b : α) : Ordering := if special a && special b then own a b else other a b

variable {special own other} {elements : Set α}

/-- No other element stands, in the other way, from a special one back to a special one that is
not before it; the three may only be all alike. -/
def NoneBetween (special : α → Bool) (own other : α → α → Ordering) (elements : Set α) : Prop :=
  ∀ a ∈ elements, ∀ b ∈ elements, ∀ c ∈ elements,
    special a = true → special b = true → special c = false →
      own a b ≠ .gt → other b c ≠ .gt → other c a ≠ .gt →
        own a b = .eq ∧ other b c = .eq ∧ other c a = .eq

theorem mixed_special {a b : α} (first : special a = true) (second : special b = true) :
    mixed special own other a b = own a b := by
  rw [mixed, first, second]
  rfl

theorem mixed_left {a b : α} (first : special a = false) :
    mixed special own other a b = other a b := by
  rw [mixed, first]
  rfl

theorem mixed_right {a b : α} (second : special b = false) :
    mixed special own other a b = other a b := by
  rw [mixed, second, Bool.and_false]
  rfl

theorem swap_mixed (owns : ∀ a ∈ elements, ∀ b ∈ elements, special a = true → special b = true →
      own b a = (own a b).swap) (others : Orders other elements) :
    ∀ a ∈ elements, ∀ b ∈ elements,
      mixed special own other b a = (mixed special own other a b).swap := by
  intro a first b second
  cases isA : special a with
  | false => rw [mixed_right isA, mixed_left isA, others.swap a first b second]
  | true =>
    cases isB : special b with
    | false => rw [mixed_left isB, mixed_right isB, others.swap a first b second]
    | true => rw [mixed_special isB isA, mixed_special isA isB, owns a first b second isA isB]

/-- Mixed elements are ordered exactly where the special ones are, and no other element stands
between special ones in the wrong order. -/
theorem orders_mixed_iff (others : Orders other elements) :
    Orders (mixed special own other) elements ↔
      Orders own {a ∈ elements | special a = true} ∧ NoneBetween special own other elements := by
  constructor
  · intro orders
    refine ⟨⟨?_, ?_⟩, ?_⟩
    · intro a first b second
      have turned := orders.swap a first.1 b second.1
      rwa [mixed_special second.2 first.2, mixed_special first.2 second.2] at turned
    · intro a first b second c third
      have chained := orders.trans a first.1 b second.1 c third.1
      rwa [mixed_special first.2 second.2, mixed_special second.2 third.2,
        mixed_special first.2 third.2] at chained
    · intro a first b second c third isA isB isC less behind ahead
      have ab : mixed special own other a b ≠ .gt := by rwa [mixed_special isA isB]
      have bc : mixed special own other b c ≠ .gt := by rwa [mixed_right isC]
      have ca : mixed special own other c a ≠ .gt := by rwa [mixed_left isC]
      have ba := orders.trans b second c third a first bc ca
      have cb := orders.trans c third a first b second ca ab
      have ac := orders.trans a first b second c third ab bc
      rw [orders.swap a first b second] at ba
      rw [orders.swap b second c third] at cb
      rw [orders.swap c third a first] at ac
      refine ⟨?_, ?_, ?_⟩
      · have alike := eq_of_ne_gt ab ba
        rwa [mixed_special isA isB] at alike
      · have alike := eq_of_ne_gt bc cb
        rwa [mixed_right isC] at alike
      · have alike := eq_of_ne_gt ca ac
        rwa [mixed_left isC] at alike
  · rintro ⟨owns, apart⟩
    have turns : ∀ a ∈ elements, ∀ b ∈ elements, special a = true → special b = true →
        own b a = (own a b).swap := fun a first b second isA isB =>
      owns.swap a ⟨first, isA⟩ b ⟨second, isB⟩
    refine ⟨swap_mixed turns others, ?_⟩
    intro a first b second c third left right
    cases isA : special a with
    | false =>
      rw [mixed_left isA] at left ⊢
      cases isB : special b with
      | false =>
        rw [mixed_left isB] at right
        exact others.trans a first b second c third left right
      | true =>
        cases isC : special c with
        | false =>
          rw [mixed_right isC] at right
          exact others.trans a first b second c third left right
        | true =>
          rw [mixed_special isB isC] at right
          intro greater
          -- `c` stands before `a` and `a` before `b`, so they would be alike
          have behind : other c a ≠ .gt := by
            rw [others.swap a first c third, greater]
            decide
          have alike := apart b second c third a first isB isC isA right behind left
          rw [others.swap a first c third, greater] at alike
          exact absurd alike.2.1 (by decide)
    | true =>
      cases isB : special b with
      | false =>
        rw [mixed_right isB] at left
        rw [mixed_left isB] at right
        cases isC : special c with
        | false =>
          rw [mixed_right isC]
          exact others.trans a first b second c third left right
        | true =>
          rw [mixed_special isA isC]
          intro greater
          have back : own c a ≠ .gt := by
            rw [turns a first c third isA isC, greater]
            decide
          have alike := apart c third a first b second isC isA isB back left right
          rw [turns a first c third isA isC, greater] at alike
          exact absurd alike.1 (by decide)
      | true =>
        rw [mixed_special isA isB] at left
        cases isC : special c with
        | true =>
          rw [mixed_special isB isC] at right
          rw [mixed_special isA isC]
          exact owns.trans a ⟨first, isA⟩ b ⟨second, isB⟩ c ⟨third, isC⟩ left right
        | false =>
          rw [mixed_right isC] at right ⊢
          intro greater
          have ahead : other c a ≠ .gt := by
            rw [others.swap a first c third, greater]
            decide
          have alike := apart a first b second c third isA isB isC left right ahead
          rw [others.swap a first c third, greater] at alike
          exact absurd alike.2.2 (by decide)

end Mixed

section Wild

variable {cmp : α → α → Ordering} {elements : Set α} {wild : α → Bool}

/-- Where a comparison calls some elements alike to every other, it orders exactly those sets that
it orders without them and that have such an element only if all are alike. -/
theorem orders_wild_iff (alike : ∀ a b, wild a = true ∨ wild b = true → cmp a b = .eq) :
    Orders cmp elements ↔ Orders cmp {a ∈ elements | wild a = false} ∧
      ((∃ a ∈ elements, wild a = true) → ∀ a ∈ elements, ∀ b ∈ elements, cmp a b = .eq) := by
  constructor
  · intro orders
    refine ⟨orders.mono fun a member => member.1, ?_⟩
    rintro ⟨joker, inside, isWild⟩ a first b second
    rw [orders.congr first inside second (alike a joker (Or.inr isWild))]
    exact alike joker b (Or.inl isWild)
  · rintro ⟨tame, flat⟩
    by_cases joker : ∃ a ∈ elements, wild a = true
    · exact Orders.of_eq (flat joker)
    · refine tame.mono fun a member => ⟨member, ?_⟩
      rw [← Bool.not_eq_true]
      exact fun isWild => joker ⟨a, member, isWild⟩

end Wild

/-- The first comparison of a list that finds a difference decides. -/
def lexical : List (α → α → Ordering) → α → α → Ordering
  | [], _, _ => .eq
  | cmp :: rest, a, b => (cmp a b).then (lexical rest a b)

theorem orders_lexical {elements : Set α} {list : List (α → α → Ordering)}
    (orders : ∀ cmp ∈ list, Orders cmp elements) : Orders (lexical list) elements := by
  induction list with
  | nil => exact Orders.of_eq fun _ _ _ _ => rfl
  | cons cmp rest hypothesis =>
    exact (orders cmp List.mem_cons_self).orders_then
      (hypothesis fun later member => orders later (List.mem_cons_of_mem cmp member))

/-- A comparison, turned around where the order is to be a descending one. -/
def directed (desc : Bool) (cmp : α → α → Ordering) (a b : α) : Ordering :=
  if desc then (cmp a b).swap else cmp a b

theorem orders_directed {elements : Set α} {cmp : α → α → Ordering} (orders : Orders cmp elements)
    (desc : Bool) : Orders (directed desc cmp) elements := by
  cases desc with
  | false => exact orders
  | true => exact orders.reverse

end DbFree.MixedOrders
