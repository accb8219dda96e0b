import Mathlib

/- Finite maps with their keys in order: built from a list of keys, with all values
changed at once. -/
namespace DbFree.Records

variable {Key Item Item' : Type}

/-- A finite map whose keys stand in an order. -/
abbrev Record (Key Item : Type) := AList fun _ : Key => Item

section Values

/-- Every value changed, each under its own key. -/
def mapValues (change : Item → Item') (record : Record Key Item) : Record Key Item' where
  entries := record.entries.map (.map id fun _ => change)
  nodupKeys := List.NodupKeys.map₂ (fun _ => change) record.entries record.nodupKeys

@[simp]
theorem keys_mapValues (change : Item → Item') (record : Record Key Item) :
    (mapValues change record).keys = record.keys :=
  List.map₂_keys (fun _ => change) record.entries

variable [DecidableEq Key]

@[simp]
theorem lookup_mapValues (change : Item → Item') (record : Record Key Item) (key : Key) :
    (mapValues change record).lookup key = (record.lookup key).map change :=
  List.dlookup_map₂ key

end Values

variable [DecidableEq Key]

/-- The record that has a value for each of the keys. -/
def build (value : Key → Item) (keys : List Key) : Record Key Item :=
  keys.foldl (fun record key => record.insert key (value key)) ∅

theorem lookup_foldl_insert (value : Key → Item) (keys : List Key) (record : Record Key Item)
    (key : Key) :
    (keys.foldl (fun record key => record.insert key (value key)) record).lookup key =
      if key ∈ keys then some (value key) else record.lookup key := by
  induction keys generalizing record with
  | nil => simp
  | cons first rest hypothesis =>
    rw [List.foldl_cons, hypothesis]
    by_cases later : key ∈ rest
    · simp [later]
    · by_cases here : key = first
      · subst here
        simp [later]
      · rw [if_neg later, if_neg (by simp [here, later]), AList.lookup_insert_ne here]

@[simp]
theorem lookup_build (value : Key → Item) (keys : List Key) (key : Key) :
    (build value keys).lookup key = if key ∈ keys then some (value key) else none := by
  rw [build, lookup_foldl_insert, AList.lookup_empty]

theorem build_congr {value value' : Key → Item} {keys : List Key}
    (same : ∀ key ∈ keys, value key = value' key) : build value keys = build value' keys :=
  List.foldl_ext _ _ _ fun record key member => by rw [same key member]

theorem keys_foldl_insert (value value' : Key → Item) (keys : List Key)
    (record record' : Record Key Item) (same : record.keys = record'.keys) :
    (keys.foldl (fun record key => record.insert key (value key)) record).keys =
      (keys.foldl (fun record key => record.insert key (value' key)) record').keys := by
  induction keys generalizing record record' with
  | nil => exact same
  | cons first rest hypothesis =>
    exact hypothesis _ _ (by rw [AList.keys_insert, AList.keys_insert, same])

/-- The keys of a built record do not depend on the values. -/
theorem keys_build (value value' : Key → Item) (keys : List Key) :
    (build value keys).keys = (build value' keys).keys :=
  keys_foldl_insert value value' keys ∅ ∅ rfl

/-- A change that keeps the values of a built record keeps the record. -/
theorem mapValues_build {change : Item → Item} {value : Key → Item} {keys : List Key}
    (same : ∀ key ∈ keys, change (value key) = value key) :
    mapValues change (build value keys) = build value keys := by
  apply AList.ext
  have kept : ∀ entry ∈ (build value keys).entries, entry.map id (fun _ => change) = entry := by
    rintro ⟨key, item⟩ member
    have found : (build value keys).lookup key = some item :=
      AList.mem_lookup_iff.mpr member
    rw [lookup_build] at found
    split at found
    · rename_i inside
      cases found
      exact congrArg (Sigma.mk key) (same key inside)
    · cases found
  exact (List.map_congr_left (g := id) kept).trans (List.map_id _)

end DbFree.Records
