import DbFree.DdlTypes
import DbFree.Trimming

/- The names of types: letter case, and the catalogue's spelling of a name. -/
namespace DbFree.Ddl

open Texts

section Case

theorem lower_upper (text : Text) :
    toAsciiLowercase (toAsciiUppercase text) = toAsciiLowercase text := by
  unfold toAsciiLowercase toAsciiUppercase
  rw [List.map_map]
  congr 1
  funext c
  exact Char.toLower_toUpper_eq_toLower c

theorem upper_lower (text : Text) :
    toAsciiUppercase (toAsciiLowercase text) = toAsciiUppercase text := by
  unfold toAsciiLowercase toAsciiUppercase
  rw [List.map_map]
  congr 1
  funext c
  exact Char.toUpper_toLower_eq_toUpper c

theorem upper_upper (text : Text) :
    toAsciiUppercase (toAsciiUppercase text) = toAsciiUppercase text := by
  unfold toAsciiUppercase
  rw [List.map_map]
  congr 1
  funext c
  exact Char.toUpper_toUpper_eq_toUpper c

theorem lower_lower (text : Text) :
    toAsciiLowercase (toAsciiLowercase text) = toAsciiLowercase text := by
  unfold toAsciiLowercase
  rw [List.map_map]
  congr 1
  funext c
  exact Char.toLower_toLower_eq_toLower c

/-- A character that is no letter is no letter's upper case. -/
theorem upper_eq_iff {c mark : Char} (other : mark.isAlpha = false) :
    c.toUpper = mark ↔ c = mark := by
  by_cases lower : c.isLower = true
  · have alpha : c.isAlpha = true := by
      unfold Char.isAlpha
      rw [lower, Bool.or_true]
    constructor
    · intro same
      rw [← same, Char.isAlpha_toUpper_eq_isAlpha, alpha] at other
      cases other
    · intro same
      rw [← same, alpha] at other
      cases other
  · rw [Char.toUpper_eq_of_not_isLower lower]

theorem white_of_alpha {c : Char} (alpha : c.isAlpha = true) : Chars.isWhitespace c = false := by
  have bounds : 65 ≤ c.toNat ∧ c.toNat ≤ 122 := by
    unfold Char.isAlpha Char.isUpper Char.isLower at alpha
    simp only [Bool.or_eq_true, decide_eq_true_eq, ge_iff_le, UInt32.le_iff_toNat_le] at alpha
    have same : c.val.toNat = c.toNat := rfl
    rw [same] at alpha
    rw [Bool.and_eq_true, decide_eq_true_eq, decide_eq_true_eq] at alpha
    have upper : 'A'.val.toNat = 65 ∧ 'Z'.val.toNat = 90 := ⟨rfl, rfl⟩
    have lower : 'a'.val.toNat = 97 ∧ 'z'.val.toNat = 122 := ⟨rfl, rfl⟩
    omega
  unfold Chars.isWhitespace Chars.within
  simp only [List.any_cons, List.any_nil, Bool.or_false, Bool.or_eq_false_iff,
    Bool.and_eq_false_iff, decide_eq_false_iff_not]
  omega

theorem white_upper (c : Char) : Chars.isWhitespace c.toUpper = Chars.isWhitespace c := by
  by_cases lower : c.isLower = true
  · have alpha : c.isAlpha = true := by
      unfold Char.isAlpha
      rw [lower, Bool.or_true]
    rw [white_of_alpha alpha, white_of_alpha]
    rw [Char.isAlpha_toUpper_eq_isAlpha]
    exact alpha
  · rw [Char.toUpper_eq_of_not_isLower lower]

theorem trim_upper {text : Text} (trimmed : trim text = text) :
    trim (toAsciiUppercase text) = toAsciiUppercase text := by
  have ⟨start, ends⟩ := trimmed_ends trimmed
  unfold trimStart at start
  unfold trimEnd at ends
  rw [List.dropWhile_eq_self_iff] at start
  rw [List.rdropWhile_eq_self_iff] at ends
  have start' : trimStart (toAsciiUppercase text) = toAsciiUppercase text := by
    unfold trimStart
    rw [List.dropWhile_eq_self_iff]
    intro filled
    unfold toAsciiUppercase at filled ⊢
    rw [List.getElem_map, white_upper]
    rw [List.length_map] at filled
    exact start filled
  unfold trim
  rw [start']
  unfold trimEnd
  rw [List.rdropWhile_eq_self_iff]
  intro filled
  unfold toAsciiUppercase at filled ⊢
  rw [List.getLast_map, white_upper]
  exact ends _

theorem mem_upper {text : Text} {mark : Char} (other : mark.isAlpha = false) :
    mark ∈ toAsciiUppercase text ↔ mark ∈ text := by
  unfold toAsciiUppercase
  rw [List.mem_map]
  constructor
  · intro found
    have ⟨c, mem, same⟩ := found
    rwa [← (upper_eq_iff other).mp same]
  · intro mem
    exact ⟨mark, mem, (upper_eq_iff other).mpr rfl⟩

theorem mem_lower {text : Text} {mark : Char} (other : mark.isAlpha = false) :
    mark ∈ toAsciiLowercase text ↔ mark ∈ text := by
  rw [← mem_upper other, upper_lower, mem_upper other]

end Case

section Canonical

variable (dialect : Dialect)

/-- No name of the catalogue is an alias, and none has blanks around it. -/
theorem rows_spelled : ∀ dialect, ∀ row ∈ rows dialect,
    aliasOf dialect (toAsciiLowercase row.1.toList) = none ∧
      trim row.1.toList = row.1.toList := by
  intro dialect
  cases dialect <;> decide +kernel

theorem aliases_plain : ∀ dialect, ∀ entry ∈ aliases dialect,
    '(' ∉ entry.2.toList ∧ '[' ∉ entry.2.toList := by
  intro dialect
  cases dialect <;> decide +kernel

theorem oracle_upper : ∀ row ∈ rows .oracle, toAsciiUppercase row.1.toList = row.1.toList := by
  decide +kernel

/-- How `canonical` comes to the spelling of a name. -/
inductive Spelling (dialect : Dialect) (name : Text) : Prop where
  | listed (row : String × TypeParams) (mem : row ∈ rows dialect)
      (isRow : canonical dialect name = row.1.toList)
      (same : toAsciiLowercase row.1.toList = toAsciiLowercase (lookupName dialect name))
      (picked : lookup dialect (lookupName dialect name) = some row)
  | kept (unknown : lookup dialect (lookupName dialect name) = none)
      (same : canonical dialect name = name)
  | upper (unknown : lookup dialect (lookupName dialect name) = none)
      (cased : dialect = .sqlite ∨ dialect = .oracle)
      (isUpper : canonical dialect name = toAsciiUppercase name)

theorem lookup_mem {name : Text} {row : String × TypeParams} (found : lookup dialect name = some row) :
    row ∈ rows dialect ∧ toAsciiLowercase row.1.toList = toAsciiLowercase name := by
  unfold lookup at found
  have same := List.find?_some found
  unfold sameName at same
  exact ⟨List.mem_of_find?_eq_some found, beq_iff_eq.mp same⟩

theorem lookup_congr {first second : Text} (same : toAsciiLowercase first = toAsciiLowercase second) :
    lookup dialect first = lookup dialect second := by
  unfold lookup sameName
  rw [same]

theorem lookupName_congr {first second : Text}
    (same : toAsciiLowercase first = toAsciiLowercase second) :
    lookupName dialect first = lookupName dialect second := by
  unfold lookupName
  rw [same]

theorem canonical_spelling (name : Text) : Spelling dialect name := by
  have spelled : canonical dialect name =
      (lookup dialect (lookupName dialect name)).elim
        (if dialect = .sqlite ∨ dialect = .oracle then toAsciiUppercase name else name)
        (·.1.toList) := by
    unfold canonical
    cases lookup dialect (lookupName dialect name) with
    | some row => rfl
    | none => cases dialect <;> rfl
  cases found : lookup dialect (lookupName dialect name) with
  | some row =>
    have ⟨mem, same⟩ := lookup_mem dialect found
    rw [found] at spelled
    exact .listed row mem spelled same found
  | none =>
    rw [found] at spelled
    by_cases cased : dialect = .sqlite ∨ dialect = .oracle
    · exact .upper found cased (spelled.trans (if_pos cased))
    · exact .kept found (spelled.trans (if_neg cased))

/-- A name that was found or kept is found or kept as it is. -/
theorem canonical_idem (name : Text) :
    canonical dialect (canonical dialect name) = canonical dialect name := by
  cases canonical_spelling dialect name with
  | listed row mem isRow same picked =>
    have ownName : lookupName dialect row.1.toList = toAsciiLowercase row.1.toList := by
      unfold lookupName
      dsimp only
      rw [(rows_spelled dialect row mem).1]
      rfl
    have again : lookup dialect (lookupName dialect row.1.toList) = some row := by
      rw [ownName, ← picked]
      apply lookup_congr
      rw [lower_lower, same]
    rw [isRow]
    unfold canonical
    rw [again]
  | kept _ same => rw [same, same]
  | upper unknown cased isUpper =>
    have key := lookupName_congr dialect (lower_upper name)
    rw [isUpper]
    unfold canonical
    rw [key, unknown]
    cases cased with
    | inl sqlite =>
      subst sqlite
      exact upper_upper name
    | inr oracle =>
      subst oracle
      exact upper_upper name

theorem canonical_trimmed {name : Text} (trimmed : trim name = name) :
    trim (canonical dialect name) = canonical dialect name := by
  cases canonical_spelling dialect name with
  | listed row mem isRow =>
    rw [isRow]
    exact (rows_spelled dialect row mem).2
  | kept _ same => rwa [same]
  | upper _ _ isUpper =>
    rw [isUpper]
    exact trim_upper trimmed

theorem lookupName_plain {name : Text} {mark : Char} (bracket : mark = '(' ∨ mark = '[')
    (plain : mark ∉ name) : mark ∉ lookupName dialect name := by
  have other : mark.isAlpha = false := by
    cases bracket with
    | inl paren => rw [paren]; decide
    | inr square => rw [square]; decide
  cases found : (aliases dialect).find? fun entry =>
      entry.1.toList == toAsciiLowercase name with
  | none =>
    have key : lookupName dialect name = toAsciiLowercase name := by
      simp only [lookupName, aliasOf, found, Option.map_none, Option.elim_none]
    rwa [key, mem_lower other]
  | some entry =>
    have key : lookupName dialect name = toAsciiLowercase entry.2.toList := by
      simp only [lookupName, aliasOf, found, Option.map_some, Option.elim_some]
    have ⟨noParen, noSquare⟩ := aliases_plain dialect entry (List.mem_of_find?_eq_some found)
    rw [key, mem_lower other]
    cases bracket with
    | inl paren => rwa [paren]
    | inr square => rwa [square]

theorem canonical_plain {name : Text} {mark : Char} (bracket : mark = '(' ∨ mark = '[')
    (plain : mark ∉ name) : mark ∉ canonical dialect name := by
  have other : mark.isAlpha = false := by
    cases bracket with
    | inl paren => rw [paren]; decide
    | inr square => rw [square]; decide
  cases canonical_spelling dialect name with
  | listed row _ isRow same =>
    rw [isRow, ← mem_lower other, same, mem_lower other]
    exact lookupName_plain dialect bracket plain
  | kept _ same => rwa [same]
  | upper _ _ isUpper => rwa [isUpper, mem_upper other]

theorem canonical_oracle (name : Text) : canonical .oracle name = toAsciiUppercase name := by
  have noAlias : lookupName .oracle name = toAsciiLowercase name := rfl
  cases canonical_spelling .oracle name with
  | listed row mem isRow same =>
    rw [isRow, ← oracle_upper row mem, ← upper_lower, same, noAlias, lower_lower, upper_lower]
  | kept unknown =>
    unfold canonical
    rw [unknown]
  | upper _ _ isUpper => exact isUpper

end Canonical

end DbFree.Ddl
