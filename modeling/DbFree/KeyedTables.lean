import Mathlib.Data.List.AList

/- Tables with one value for a key: changing every entry at once, and loops that change one key
after the other. -/
namespace DbFree.KeyedTables

variable {Key Value Item : Type*} [DecidableEq Key]

abbrev Table (Key Value : Type*) := AList fun _ : Key => Value

abbrev Entry (Key Value : Type*) := Sigma fun _ : Key => Value

def changed (f : Key → Value → Option Value) (entry : Entry Key Value) :
    Option (Entry Key Value) :=
  (f entry.1 entry.2).map (Sigma.mk entry.1)

/-- Every value made a new one, or taken out. -/
def update (f : Key → Value → Option Value) (table : Table Key Value) : Table Key Value where
  entries := table.entries.filterMap (changed f)
  nodupKeys := by
    rw [List.nodupKeys_iff_pairwise, List.pairwise_filterMap]
    apply (List.nodupKeys_iff_pairwise.mp table.nodupKeys).imp
    intro first second differ one is_one other is_other
    obtain ⟨value, -, rfl⟩ := Option.map_eq_some_iff.mp is_one
    obtain ⟨newer, -, rfl⟩ := Option.map_eq_some_iff.mp is_other
    exact differ

theorem dlookup_filterMap (f : Key → Value → Option Value) (key : Key)
    (entries : List (Entry Key Value)) (distinct : entries.NodupKeys) :
    (entries.filterMap (changed f)).dlookup key = (entries.dlookup key).bind (f key) := by
  induction entries with
  | nil => rfl
  | cons entry rest hypothesis =>
    have later := hypothesis (List.nodupKeys_of_nodupKeys_cons distinct)
    have absent : rest.dlookup entry.1 = none :=
      List.dlookup_eq_none.mpr (List.notMem_keys_of_nodupKeys_cons distinct)
    by_cases same : key = entry.1
    · subst same
      rw [List.dlookup_cons_eq, Option.bind_some]
      cases result : f entry.1 entry.2 with
      | none =>
        rw [List.filterMap_cons_none (by rw [changed, result]; rfl), later, absent]
        rfl
      | some value =>
        rw [List.filterMap_cons_some (by rw [changed, result]; rfl), List.dlookup_cons_eq]
    · rw [List.dlookup_cons_ne _ _ same, ← later]
      cases result : f entry.1 entry.2 with
      | none => rw [List.filterMap_cons_none (by rw [changed, result]; rfl)]
      | some value =>
        rw [List.filterMap_cons_some (by rw [changed, result]; rfl)]
        exact List.dlookup_cons_ne _ _ same

@[simp]
theorem lookup_update (f : Key → Value → Option Value) (table : Table Key Value) (key : Key) :
    (update f table).lookup key = (table.lookup key).bind (f key) :=
  dlookup_filterMap f key table.entries table.nodupKeys

section Loops

variable {step : Table Key Value → Entry Key Item → Table Key Value}
  (frame : ∀ table entry key, key ≠ entry.1 → (step table entry).lookup key = table.lookup key)
include frame

/-- A loop whose passes change only their own key leaves the others as they are. -/
theorem lookup_foldl_absent {entries : List (Entry Key Item)} {key : Key}
    (absent : key ∉ entries.keys) (table : Table Key Value) :
    (entries.foldl step table).lookup key = table.lookup key := by
  induction entries generalizing table with
  | nil => rfl
  | cons entry rest hypothesis =>
    rw [List.keys_cons, List.mem_cons, not_or] at absent
    rw [List.foldl_cons, hypothesis absent.2, frame _ _ _ absent.1]

/-- What the loop leaves at one of its keys is what the pass for the key leaves there. -/
theorem lookup_foldl_present {entries : List (Entry Key Item)}
    (distinct : entries.NodupKeys) {key : Key} {item : Item}
    {result : Option Value → Option Value}
    (own : ∀ table, (step table ⟨key, item⟩).lookup key = result (table.lookup key))
    (present : entries.dlookup key = some item) (table : Table Key Value) :
    (entries.foldl step table).lookup key = result (table.lookup key) := by
  induction entries generalizing table with
  | nil => cases present
  | cons entry rest hypothesis =>
    rw [List.foldl_cons]
    by_cases same : key = entry.1
    · have absent : key ∉ rest.keys := by
        rw [same]
        exact List.notMem_keys_of_nodupKeys_cons distinct
      obtain ⟨other, value⟩ := entry
      cases same
      rw [List.dlookup_cons_eq] at present
      cases present
      rw [lookup_foldl_absent frame absent, own]
    · rw [List.dlookup_cons_ne _ _ same] at present
      rw [hypothesis (List.nodupKeys_of_nodupKeys_cons distinct) present, frame _ _ _ same]

end Loops

end DbFree.KeyedTables
