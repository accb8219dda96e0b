import Mathlib.Data.List.Basic

/- Histories: lists that only grow at their end, with a rule for each entry in the light of
those before it. -/
namespace DbFree.History

variable {Entry : Type*}

/-- Every entry is in order with what stands before it. -/
def Always (rule : List Entry → Entry → Prop) (history : List Entry) : Prop :=
  ∀ before entry after, history = before ++ entry :: after → rule before entry

variable {rule : List Entry → Entry → Prop} {history added : List Entry}

theorem always_nil : Always rule [] := by
  intro before entry after split
  exact absurd split.symm (List.append_ne_nil_of_right_ne_nil _ (List.cons_ne_nil _ _))

/-- A history stays in order if what is added to it is. -/
theorem Always.append (always : Always rule history)
    (later : ∀ before entry after, added = before ++ entry :: after →
      rule (history ++ before) entry) : Always rule (history ++ added) := by
  intro before entry after split
  rcases List.append_eq_append_iff.mp split with ⟨gap, rfl, rest⟩ | ⟨gap, rfl, rest⟩
  · exact later gap entry after rest
  · cases gap with
    | nil =>
      have first := later [] entry after rest.symm
      rwa [List.append_nil, List.append_nil] at first
    | cons first gap =>
      obtain ⟨rfl, rfl⟩ := List.cons.inj rest
      exact always before entry gap rfl

theorem Always.snoc (always : Always rule history) {entry : Entry} (last : rule history entry) :
    Always rule (history ++ [entry]) := by
  refine always.append fun before other after split => ?_
  cases before with
  | nil =>
    obtain ⟨rfl, -⟩ := List.cons.inj split
    rwa [List.append_nil]
  | cons first before =>
    obtain ⟨-, none⟩ := List.cons.inj split
    exact absurd none.symm (List.append_ne_nil_of_right_ne_nil _ (List.cons_ne_nil _ _))

end DbFree.History
