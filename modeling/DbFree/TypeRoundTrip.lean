import DbFree.DdlDescribe
import DbFree.TypeArguments

/- A type that is read and written again says what it said. -/
namespace DbFree.Ddl

open Texts SqlText

section Attributes

/-- A text that ends with no attribute of MySQL's. -/
def Unmarked (text : Text) : Prop :=
  " unsigned".toList.isSuffixOf (toAsciiLowercase text) = false ∧
    " zerofill".toList.isSuffixOf (toAsciiLowercase text) = false

theorem strip_unmarked {text : Text} (unmarked : Unmarked text) (turns : Nat) :
    stripAttributes turns text = (text, false) := by
  cases turns with
  | zero => rfl
  | succ turns =>
    rw [stripAttributes]
    rw [unmarked.1, unmarked.2, if_neg Bool.false_ne_true, if_neg Bool.false_ne_true]

theorem attribute_fits {word : String} {text : Text} (nine : word.toList.length = 9)
    (ends : word.toList.isSuffixOf (toAsciiLowercase text) = true) :
    (text.take (text.length - 9)).length + 9 = text.length := by
  have fits := (List.isSuffixOf_iff_suffix.mp ends).length_le
  unfold toAsciiLowercase at fits
  rw [nine, List.length_map] at fits
  rw [List.length_take]
  omega

/-- What is left of a text is its start, and ends with no attribute. -/
theorem strip_ok (turns : Nat) : ∀ text : Text, text.length ≤ turns →
    Unmarked (stripAttributes turns text).1 ∧ (stripAttributes turns text).1 <+: text := by
  induction turns with
  | zero =>
    intro text short
    rw [List.length_eq_zero_iff.mp (Nat.le_zero.mp short)]
    exact ⟨⟨by decide, by decide⟩, List.prefix_rfl⟩
  | succ turns ih =>
    intro text short
    rw [stripAttributes]
    by_cases unsigned : " unsigned".toList.isSuffixOf (toAsciiLowercase text) = true
    · have fits := attribute_fits (by decide) unsigned
      have ⟨unmarked, starts⟩ := ih (text.take (text.length - 9)) (by omega)
      rw [if_pos unsigned]
      exact ⟨unmarked, starts.trans (List.take_prefix _ _)⟩
    · rw [if_neg unsigned]
      by_cases zerofill : " zerofill".toList.isSuffixOf (toAsciiLowercase text) = true
      · have fits := attribute_fits (by decide) zerofill
        have ⟨unmarked, starts⟩ := ih (text.take (text.length - 9)) (by omega)
        rw [if_pos zerofill]
        exact ⟨unmarked, starts.trans (List.take_prefix _ _)⟩
      · rw [if_neg zerofill]
        exact ⟨⟨Bool.eq_false_of_not_eq_true unsigned, Bool.eq_false_of_not_eq_true zerofill⟩,
          List.prefix_rfl⟩

/-- The attribute that is written is the one that is read. -/
theorem strip_written {text : Text} (unmarked : Unmarked text) (unsigned : Bool) (turns : Nat) :
    stripAttributes (turns + 1) (text ++ if unsigned then " UNSIGNED".toList else []) =
      (text, unsigned) := by
  cases unsigned with
  | false =>
    rw [if_neg Bool.false_ne_true, List.append_nil]
    exact strip_unmarked unmarked _
  | true =>
    have ends : " unsigned".toList.isSuffixOf
        (toAsciiLowercase (text ++ " UNSIGNED".toList)) = true := by
      rw [List.isSuffixOf_iff_suffix]
      unfold toAsciiLowercase
      rw [List.map_append]
      exact List.suffix_append _ _
    have size : (text ++ " UNSIGNED".toList).length - 9 = text.length := by
      rw [List.length_append]
      exact Nat.add_sub_cancel _ _
    rw [if_pos rfl, stripAttributes]
    rw [if_pos ends, size, List.take_left, strip_unmarked unmarked]

theorem unmarked_inParens (front text : Text) : Unmarked (front ++ inParens text) := by
  have last : (toAsciiLowercase (front ++ inParens text)).getLast? = some ')' := by
    unfold toAsciiLowercase inParens
    rw [List.getLast?_map, ← List.append_assoc, List.getLast?_concat]
    rfl
  have notEnd {word : Text} (other : word.getLast? ≠ some ')') (filled : word ≠ []) :
      word.isSuffixOf (toAsciiLowercase (front ++ inParens text)) = false := by
    apply Bool.eq_false_of_not_eq_true
    intro ends
    have ⟨start, whole⟩ := List.isSuffixOf_iff_suffix.mp ends
    rw [← whole, List.getLast?_append_of_ne_nil _ filled] at last
    exact other last
  exact ⟨notEnd (by decide) (by decide), notEnd (by decide) (by decide)⟩

end Attributes

section Reading

variable (dialect : Dialect)

/-- A type with arguments: its name, the arguments, and what stands behind them. -/
structure Applied (text start args after spelled : Text) : Prop where
  noArray : '[' ∉ text
  split : text = start ++ '(' :: (args ++ ')' :: after)
  plain : '(' ∉ start
  closed : Closed args
  named : spelledName dialect (trim start) (trim after) = some spelled

theorem parseInner_array {raw text : Text} {parsed : ParsedType} (array : '[' ∈ text) :
    parseInner dialect raw parsed text = { parsed with base := text } := by
  unfold parseInner
  rw [if_pos array]

theorem parseInner_name {raw text : Text} {parsed : ParsedType} (noArray : '[' ∉ text)
    (plain : '(' ∉ text) :
    parseInner dialect raw parsed text = { parsed with base := canonical dialect (trim text) } := by
  unfold parseInner
  rw [if_neg noArray, beforeParen_plain plain]

theorem parseInner_applied {raw text start args after spelled : Text} {parsed : ParsedType}
    (applied : Applied dialect text start args after spelled) :
    parseInner dialect raw parsed text =
      parseArgs dialect { parsed with base := canonical dialect spelled } text args := by
  have found := matchingParen_closed applied.closed after
  unfold parseInner
  rw [if_neg applied.noArray, applied.split, beforeParen_append applied.plain]
  simp only [found, applied.named]

theorem parseInner_cases (raw text : Text) :
    '[' ∈ text ∨ '[' ∉ text ∧ '(' ∉ text ∨
      ('[' ∉ text ∧ '(' ∈ text ∧
        ∀ parsed, parseInner dialect raw parsed text = .verbatim raw) ∨
      ∃ start args after spelled, Applied dialect text start args after spelled := by
  by_cases array : '[' ∈ text
  · exact Or.inl array
  · cases beforeParen_cases text with
    | inl none => exact Or.inr (Or.inl ⟨array, none.1⟩)
    | inr found =>
      have ⟨start, rest, split, plain, isBefore⟩ := found
      have opening : '(' ∈ text := by
        rw [split]
        exact List.mem_append_right _ List.mem_cons_self
      right
      right
      cases inside : matchingParen 0 none rest with
      | none =>
        refine Or.inl ⟨array, opening, ?_⟩
        intro parsed
        unfold parseInner
        rw [if_neg array, isBefore]
        simp only [inside]
      | some parts =>
        have ⟨args, after⟩ := parts
        have ⟨split', closed⟩ := matchingParen_parts rest 0 none _ inside
        cases named : spelledName dialect (trim start) (trim after) with
        | none =>
          refine Or.inl ⟨array, opening, ?_⟩
          intro parsed
          unfold parseInner
          rw [if_neg array, isBefore]
          simp only [inside, named]
        | some spelled =>
          refine Or.inr ⟨start, args, after, spelled, array, ?_, plain, closed, named⟩
          rw [split, split']

theorem spelled_cases {name tail spelled : Text}
    (named : spelledName dialect name tail = some spelled) :
    tail = [] ∧ spelled = name ∨
      spelled = name ++ ' ' :: toAsciiLowercase tail ∧
        (dialect = .oracle ∨
          isIn (toAsciiLowercase tail) ["with time zone", "without time zone"] = true) := by
  have ending : (if tail = [] then some name else none) = some spelled →
      tail = [] ∧ spelled = name := by
    intro found
    split at found
    · next none => exact ⟨none, (Option.some.inj found).symm⟩
    · cases found
  unfold spelledName at named
  dsimp only at named
  split at named
  · split at named
    · next zone => exact Or.inr ⟨(Option.some.inj named).symm, Or.inr zone⟩
    · exact Or.inl (ending named)
  · split at named
    · next zone => exact Or.inr ⟨(Option.some.inj named).symm, Or.inl zone.1⟩
    · exact Or.inl (ending named)

variable {dialect}

theorem applied_args {text start args after spelled : Text}
    (applied : Applied dialect text start args after spelled) : '[' ∉ args := by
  intro mem
  apply applied.noArray
  rw [applied.split]
  exact List.mem_append_right _ (List.mem_cons_of_mem _ (List.mem_append_left _ mem))

theorem trim_subset {text : Text} {c : Char} (mem : c ∈ trim text) : c ∈ text := by
  have ⟨front, back, split, _, _⟩ := strip_parts Chars.isWhitespace text
  have split : text = front ++ trim text ++ back := split
  rw [split]
  exact List.mem_append_left _ (List.mem_append_right _ mem)

/-- The name of a type holds no mark of an array. -/
theorem applied_noArray {text start args after spelled : Text}
    (applied : Applied dialect text start args after spelled) : '[' ∉ canonical dialect spelled := by
  apply canonical_plain dialect (Or.inr rfl)
  have noName : '[' ∉ trim start := by
    intro mem
    apply applied.noArray
    rw [applied.split]
    exact List.mem_append_left _ (trim_subset mem)
  have noTail : '[' ∉ trim after := by
    intro mem
    apply applied.noArray
    rw [applied.split]
    exact List.mem_append_right _ (List.mem_cons_of_mem _
      (List.mem_append_right _ (List.mem_cons_of_mem _ (trim_subset mem))))
  cases spelled_cases dialect applied.named with
  | inl bare =>
    rw [bare.2]
    exact noName
  | inr zone =>
    rw [zone.1]
    intro mem
    cases List.mem_append.mp mem with
    | inl name => exact noName name
    | inr words =>
      cases List.mem_cons.mp words with
      | inl blank => cases blank
      | inr tail => exact noTail ((mem_lower (by decide)).mp tail)

/-- It holds no parenthesis but on Oracle, where any words behind `WITH` are a part of it. -/
theorem applied_plain {text start args after spelled : Text}
    (applied : Applied dialect text start args after spelled) (other : dialect ≠ .oracle) :
    '(' ∉ canonical dialect spelled := by
  apply canonical_plain dialect (Or.inl rfl)
  have noName : '(' ∉ trim start := fun mem => applied.plain (trim_subset mem)
  cases spelled_cases dialect applied.named with
  | inl bare =>
    rw [bare.2]
    exact noName
  | inr zone =>
    rw [zone.1]
    intro mem
    cases List.mem_append.mp mem with
    | inl name => exact noName name
    | inr words =>
      cases List.mem_cons.mp words with
      | inl blank => cases blank
      | inr tail =>
        cases zone.2 with
        | inl oracle => exact other oracle
        | inr zoned =>
          unfold isIn at zoned
          have ⟨entry, isEntry, same⟩ := List.any_eq_true.mp zoned
          have zoneWords : ∀ entry ∈ ["with time zone", "without time zone"],
              '(' ∉ entry.toList := by decide
          rw [← eq_of_beq same] at tail
          exact zoneWords entry isEntry tail

/-- The name of a type as it is written. -/
structure Named (dialect : Dialect) (base : Text) : Prop where
  canon : canonical dialect base = base
  trimmed : trim base = base
  plain : '(' ∉ base
  noArray : '[' ∉ base

/-- The words behind Oracle's `TIMESTAMP` are those of a zone. -/
def Zoned (dialect : Dialect) (base : Text) : Prop :=
  dialect = .oracle → startsWith base "TIMESTAMP " = true →
    startsWith (base.drop 10) "WITH " = true

theorem spelledName_bare (dialect : Dialect) (name : Text) :
    spelledName dialect name [] = some name := by
  cases dialect <;> rfl

theorem upper_append (front rest : Text) :
    toAsciiUppercase (front ++ rest) = toAsciiUppercase front ++ toAsciiUppercase rest :=
  List.map_append

/-- What is written of a name and arguments is read as these. -/
theorem applied_written {base args : Text} (named : Named dialect base)
    (zoned : Zoned dialect base) (closed : Closed args) (noArray : '[' ∉ args) : ∃ start after spelled,
      Applied dialect (placeParams dialect base (inParens args)) start args after spelled ∧
        canonical dialect spelled = base := by
  have notIn {front after : Text} (noFront : '[' ∉ front) (noAfter : '[' ∉ after) :
      '[' ∉ front ++ '(' :: (args ++ ')' :: after) := by
    intro mem
    cases List.mem_append.mp mem with
    | inl front => exact noFront front
    | inr later =>
      cases List.mem_cons.mp later with
      | inl wrong => cases wrong
      | inr inside =>
        cases List.mem_append.mp inside with
        | inl arg => exact noArray arg
        | inr behind =>
          cases List.mem_cons.mp behind with
          | inl wrong => cases wrong
          | inr last => exact noAfter last
  unfold placeParams
  by_cases zone : dialect = .oracle ∧ startsWith base "TIMESTAMP " = true
  · rw [if_pos zone]
    have oracle := zone.1
    have withWords := zoned zone.1 zone.2
    have ⟨rest, isBase⟩ := List.isPrefixOf_iff_prefix.mp zone.2
    have isRest : base.drop 10 = rest := by
      rw [← isBase]
      rfl
    rw [isRest] at withWords ⊢
    have ⟨more, isWith⟩ := List.isPrefixOf_iff_prefix.mp withWords
    have trimmedRest : trim (' ' :: rest) = rest := by
      have ends := (trimmed_ends named.trimmed).2
      rw [← isBase] at ends
      unfold trimEnd at ends
      rw [List.rdropWhile_eq_self_iff] at ends
      have dropped : trimStart (' ' :: rest) = rest := by
        unfold trimStart
        rw [List.dropWhile_cons_of_pos (by decide), ← isWith]
        exact List.dropWhile_cons_of_neg (by decide)
      unfold trim trimEnd
      rw [dropped, List.rdropWhile_eq_self_iff]
      intro filled
      have last := ends (List.append_ne_nil_of_right_ne_nil _ filled)
      rw [List.getLast_append_of_ne_nil _ filled] at last
      exact last
    have split : "TIMESTAMP".toList ++ inParens args ++ ' ' :: rest =
        "TIMESTAMP".toList ++ '(' :: (args ++ ')' :: ' ' :: rest) := by
      unfold inParens
      simp only [List.append_assoc, List.cons_append, List.nil_append]
    have noRest : '[' ∉ ' ' :: rest := by
      intro mem
      cases List.mem_cons.mp mem with
      | inl wrong => cases wrong
      | inr inside =>
        apply named.noArray
        rw [← isBase]
        exact List.mem_append_right _ inside
    have name : trim "TIMESTAMP".toList = "TIMESTAMP".toList := by decide
    have withLower : startsWith (toAsciiLowercase rest) "with " = true := by
      rw [← isWith]
      unfold toAsciiLowercase
      rw [List.map_append]
      exact List.isPrefixOf_iff_prefix.mpr (List.prefix_append _ _)
    refine ⟨"TIMESTAMP".toList, ' ' :: rest, "TIMESTAMP".toList ++ ' ' :: toAsciiLowercase rest,
      ⟨?_, split, by decide, closed, ?_⟩, ?_⟩
    · rw [split]
      exact notIn (by decide) noRest
    · rw [name, trimmedRest, oracle]
      unfold spelledName
      dsimp only
      rw [if_neg (by decide), if_pos ⟨rfl, withLower⟩]
    · have cased := named.canon
      have head : toAsciiUppercase "TIMESTAMP ".toList = "TIMESTAMP ".toList := by decide
      rw [oracle, canonical_oracle] at cased ⊢
      rw [← isBase, upper_append, head] at cased
      have isUpper := List.append_cancel_left cased
      have blankUpper : toAsciiUppercase (' ' :: toAsciiLowercase rest) = ' ' :: rest := by
        have same := upper_lower rest
        rw [isUpper] at same
        exact congrArg (' ' :: ·) same
      rw [upper_append, blankUpper, ← isBase]
      rfl
  · rw [if_neg zone]
    refine ⟨base, [], base, ⟨notIn named.noArray nofun, rfl, named.plain, closed, ?_⟩, named.canon⟩
    rw [named.trimmed]
    exact spelledName_bare dialect base

end Reading

section Standing

variable {dialect : Dialect}

/-- A name that can stand in the place of a type's own. -/
structure Standing (dialect : Dialect) (text base : Text) : Prop where
  named : Named dialect base
  unmarked : dialect = .mysql → Unmarked base
  closed : dialect = .clickhouse → Closed text → Closed base

theorem rows_unwrapped : ∀ row ∈ rows .clickhouse,
    isIn row.1.toList ["Nullable", "LowCardinality", "Array"] = false ∧
      openAfter 0 none row.1.toList = some (0, none) := by
  decide +kernel

theorem clickhouse_canonical (name : Text) :
    (∃ row ∈ rows .clickhouse, canonical .clickhouse name = row.1.toList) ∨
      canonical .clickhouse name = name := by
  cases canonical_spelling .clickhouse name with
  | listed row mem isRow => exact Or.inl ⟨row, mem, isRow⟩
  | kept _ same => exact Or.inr same
  | upper _ cased => simp at cased

theorem blank_of_trim {text : Text} (empty : trim text = []) :
    ∀ c ∈ text, Chars.isWhitespace c = true := by
  have ⟨front, back, split, left, right⟩ := strip_parts Chars.isWhitespace text
  have split : text = front ++ trim text ++ back := split
  rw [empty, List.append_nil] at split
  intro c mem
  rw [split] at mem
  cases List.mem_append.mp mem with
  | inl inFront => exact left c inFront
  | inr inBack => exact right c inBack

/-- On ClickHouse nothing stands behind the arguments. -/
theorem clickhouse_spelled {text start args after spelled : Text}
    (applied : Applied .clickhouse text start args after spelled) :
    spelled = trim start ∧ ∀ c ∈ after, Chars.isWhitespace c = true := by
  have named := applied.named
  unfold spelledName at named
  dsimp only at named
  rw [if_neg (by decide), if_neg (by intro wrong; cases wrong.1)] at named
  split at named
  · next empty => exact ⟨(Option.some.inj named).symm, blank_of_trim empty⟩
  · cases named

/-- The name of a bare type is no wrapper's. -/
theorem applied_unwrapped {text start args after spelled : Text}
    (applied : Applied .clickhouse text start args after spelled) (bare : Bare text) :
    isIn (canonical .clickhouse spelled) ["Nullable", "LowCardinality", "Array"] = false := by
  obtain ⟨isName, white⟩ := clickhouse_spelled applied
  cases clickhouse_canonical spelled with
  | inl found =>
    obtain ⟨row, mem, isRow⟩ := found
    rw [isRow]
    exact (rows_unwrapped row mem).1
  | inr same =>
    rw [same, isName]
    apply Bool.eq_false_of_not_eq_true
    intro wrapper
    have filled : ∃ turns, text.length = turns + 1 := by
      rw [applied.split, List.length_append, List.length_cons]
      exact ⟨_, (Nat.add_assoc _ _ _).symm⟩
    obtain ⟨turns, size⟩ := filled
    have isBefore : beforeParen text = (start, some (args ++ ')' :: after)) := by
      rw [applied.split]
      exact beforeParen_append applied.plain _
    have isBlank : blank after = true := List.all_eq_true.mpr white
    unfold Bare at bare
    rw [size, layersOf, isBefore] at bare
    dsimp only at bare
    rw [if_pos wrapper, matchingParen_closed applied.closed] at bare
    dsimp only at bare
    rw [if_pos isBlank] at bare
    obtain ⟨found, -, wrong⟩ := Option.map_eq_some_iff.mp bare
    cases wrong

theorem applied_standing {text start args after spelled : Text}
    (applied : Applied dialect text start args after spelled)
    (trimmed : trim (canonical dialect spelled) = canonical dialect spelled)
    (plain : '(' ∉ canonical dialect spelled)
    (unmarked : dialect = .mysql → Unmarked (canonical dialect spelled)) :
    Standing dialect text (canonical dialect spelled) := by
  refine ⟨⟨canonical_idem dialect spelled, trimmed, plain, applied_noArray applied⟩, unmarked, ?_⟩
  intro clickhouse whole
  subst clickhouse
  have ⟨isName, white⟩ := clickhouse_spelled applied
  cases clickhouse_canonical spelled with
  | inl found =>
    have ⟨row, mem, isRow⟩ := found
    rw [isRow]
    exact (rows_unwrapped row mem).2
  | inr same =>
    rw [same, isName]
    rw [applied.split] at whole
    exact closed_trim (closed_name applied.plain applied.closed white whole)

theorem name_standing {text : Text} (noArray : '[' ∉ text) (plain : '(' ∉ text)
    (unmarked : dialect = .mysql → Unmarked (canonical dialect (trim text))) :
    Standing dialect text (canonical dialect (trim text)) := by
  have noParen : '(' ∉ trim text := fun mem => plain (trim_subset mem)
  have noMark : '[' ∉ trim text := fun mem => noArray (trim_subset mem)
  refine ⟨⟨canonical_idem dialect _, canonical_trimmed dialect (trim_trim text),
    canonical_plain dialect (Or.inl rfl) noParen, canonical_plain dialect (Or.inr rfl) noMark⟩,
    unmarked, ?_⟩
  intro clickhouse whole
  subst clickhouse
  cases clickhouse_canonical (trim text) with
  | inl found =>
    have ⟨row, mem, isRow⟩ := found
    rw [isRow]
    exact (rows_unwrapped row mem).2
  | inr same =>
    rw [same]
    exact closed_trim whole

end Standing

section Writing

variable {dialect : Dialect}

theorem placeParams_nil (dialect : Dialect) (base : Text) : placeParams dialect base [] = base := by
  unfold placeParams
  split
  · next zone =>
    have ⟨rest, isBase⟩ := List.isPrefixOf_iff_prefix.mp zone.2
    rw [← isBase, List.append_nil]
    rfl
  · exact List.append_nil base

theorem placeParams_filled {base params : Text} (named : base ≠ []) :
    placeParams dialect base params ≠ [] := by
  unfold placeParams
  split
  · nofun
  · exact List.append_ne_nil_of_left_ne_nil named _

theorem trim_params {base args : Text} (trimmed : trim base = base) (zoned : Zoned dialect base) :
    trim (placeParams dialect base (inParens args)) = placeParams dialect base (inParens args) := by
  have ⟨starts, ends⟩ := ends_of_trim trimmed
  unfold placeParams
  split
  · next zone =>
    have withWords := zoned zone.1 zone.2
    have ⟨more, isWith⟩ := List.isPrefixOf_iff_prefix.mp withWords
    have ⟨rest, isBase⟩ := List.isPrefixOf_iff_prefix.mp zone.2
    have isRest : base.drop 10 = rest := by
      rw [← isBase]
      rfl
    have filled : rest ≠ [] := by
      rw [← isRest, ← isWith]
      nofun
    apply trim_of_ends
    · intro c head
      have first : 'T' = c := Option.some.inj head
      rw [← first]
      decide
    · intro c last
      rw [isRest, List.getLast?_append_of_ne_nil _ (List.cons_ne_nil _ _),
        List.getLast?_cons_of_ne_nil filled] at last
      apply ends c
      rw [← isBase, List.getLast?_append_of_ne_nil _ filled]
      exact last
  · apply trim_of_ends
    · intro c head
      cases base with
      | nil =>
        have first : '(' = c := Option.some.inj head
        rw [← first]
        decide
      | cons first rest => exact starts c head
    · intro c last
      unfold inParens at last
      rw [← List.append_assoc, List.getLast?_concat] at last
      rw [← Option.some.inj last]
      decide

theorem placed_plain (other : dialect ≠ .oracle) (base params : Text) :
    placeParams dialect base params = base ++ params := by
  unfold placeParams
  rw [if_neg fun zone => other zone.1]

theorem bare_applied {base args : Text} (plain : '(' ∉ base) (trimmed : trim base = base)
    (unwrapped : isIn base ["Nullable", "LowCardinality", "Array"] = false) :
    Bare (base ++ inParens args) := by
  have isBefore : beforeParen (base ++ inParens args) = (base, some (args ++ [')'])) :=
    beforeParen_append plain _
  unfold Bare
  have size : (base ++ inParens args).length = base.length + (args ++ [')']).length + 1 :=
    List.length_append
  rw [size, layersOf, isBefore]
  dsimp only
  rw [trimmed, unwrapped, if_neg Bool.false_ne_true]

variable {column : ColumnSpec} {base params : Text}

theorem writtenParams_custom (custom : '(' ∈ base ∨ '[' ∈ base) :
    writtenParams dialect column base = .ok [] := by
  unfold writtenParams
  rw [if_pos custom]

theorem writtenParams_plain (plain : '(' ∉ base) (noArray : '[' ∉ base) :
    writtenParams dialect column base = typeParams dialect column base := by
  unfold writtenParams
  rw [if_neg (not_or.mpr ⟨plain, noArray⟩)]

theorem typeParams_labels (labels : column.enumValues ≠ []) :
    typeParams dialect column base = .ok (inParens (labelList dialect column.enumValues)) := by
  unfold typeParams
  dsimp only
  rw [if_pos labels]

theorem typeParams_noLabels (empty : column.enumValues = [])
    (written : typeParams dialect column base = .ok params) :
    isIn (toAsciiLowercase base) ["enum", "set", "enum8", "enum16"] = false := by
  unfold typeParams at written
  dsimp only at written
  rw [if_neg fun some => some empty] at written
  cases labelled : isIn (toAsciiLowercase base) ["enum", "set", "enum8", "enum16"] with
  | false => rfl
  | true =>
    rw [if_pos labelled] at written
    cases written

theorem typeParams_length {length : Nat} (empty : column.enumValues = [])
    (isLength : column.length = some length)
    (written : typeParams dialect column base = .ok params) : params = inParens (decimal length) := by
  have other := typeParams_noLabels empty written
  unfold typeParams at written
  dsimp only at written
  rw [if_neg fun some => some empty, other, if_neg Bool.false_ne_true, isLength] at written
  exact (Except.ok.inj written).symm

theorem typeParams_numbers {precision : Nat} (empty : column.enumValues = [])
    (noLength : column.length = none) (isPrecision : column.precision = some precision)
    (written : typeParams dialect column base = .ok params) :
    params = inParens (numberList precision column.scale) := by
  have other := typeParams_noLabels empty written
  unfold typeParams at written
  dsimp only at written
  rw [if_neg fun some => some empty, other, if_neg Bool.false_ne_true, noLength,
    isPrecision] at written
  rw [← Except.ok.inj written]
  cases column.scale <;> rfl

theorem typeParams_name (empty : column.enumValues = []) (noLength : column.length = none)
    (noPrecision : column.precision = none)
    (written : typeParams dialect column base = .ok params) :
    params = (requiredLength dialect (toAsciiLowercase base)).elim []
      fun length => inParens (decimal length) := by
  have other := typeParams_noLabels empty written
  unfold typeParams at written
  dsimp only at written
  rw [if_neg fun some => some empty, other, if_neg Bool.false_ne_true, noLength,
    noPrecision] at written
  cases required : requiredLength dialect (toAsciiLowercase base) with
  | some length =>
    rw [required] at written
    exact (Except.ok.inj written).symm
  | none =>
    rw [required] at written
    dsimp only at written
    split at written
    · cases written
    · exact (Except.ok.inj written).symm

theorem required_words {lower : Text} {length : Nat}
    (required : requiredLength dialect lower = some length) :
    ∃ word ∈ ["varchar", "varbinary", "char", "binary", "nvarchar", "varchar2", "nvarchar2", "raw"],
      word.toList = lower := by
  have found {table : List String} (known : isIn lower table = true)
      (subset : ∀ word ∈ table, word ∈
        ["varchar", "varbinary", "char", "binary", "nvarchar", "varchar2", "nvarchar2", "raw"]) :
      ∃ word ∈ ["varchar", "varbinary", "char", "binary", "nvarchar", "varchar2", "nvarchar2",
        "raw"], word.toList = lower := by
    have ⟨word, mem, same⟩ := List.any_eq_true.mp known
    exact ⟨word, subset word mem, eq_of_beq same⟩
  unfold requiredLength at required
  split at required
  · split at required
    · next known => exact found known (by decide)
    · split at required
      · next known => exact found known (by decide)
      · cases required
  · split at required
    · next known => exact found known (by decide)
    · cases required
  · split at required
    · next known => exact found known (by decide)
    · cases required
  · cases required

theorem required_class : ∀ dialect, ∀ word ∈ ["varchar", "varbinary", "char", "binary", "nvarchar",
    "varchar2", "nvarchar2", "raw"], (requiredLength dialect word.toList).isSome = true →
      (lookup dialect word.toList).map Prod.snd = some .length ∧
        ((requiredLength dialect word.toList).all fun length => length < 2 ^ 32) = true ∧
        dialect ≠ .clickhouse := by
  intro dialect
  cases dialect <;> decide +kernel

/-- The types that need a length take one, and nothing else. -/
theorem requiredLength_class {length : Nat}
    (required : requiredLength dialect (toAsciiLowercase base) = some length) :
    (lookup dialect base).map Prod.snd = some .length ∧ length < 2 ^ 32 ∧
      isIn base ["Enum8", "Enum16", "enum", "set"] = false ∧ isInteger base = false ∧
      Zoned dialect base ∧ dialect ≠ .clickhouse := by
  have ⟨word, mem, same⟩ := required_words required
  have others : ∀ word ∈ ["varchar", "varbinary", "char", "binary", "nvarchar", "varchar2",
      "nvarchar2", "raw"], ∀ entry ∈ ["Enum8", "Enum16", "enum", "set", "tinyint", "smallint",
        "mediumint", "int", "bigint"], toAsciiLowercase entry.toList ≠ word.toList := by
    decide +kernel
  have notIn {table : List String} (subset : ∀ entry ∈ table, entry ∈ ["Enum8", "Enum16", "enum",
      "set", "tinyint", "smallint", "mediumint", "int", "bigint"]) : isIn base table = false := by
    apply Bool.eq_false_of_not_eq_true
    intro known
    have ⟨entry, isEntry, isBase⟩ := List.any_eq_true.mp known
    have lowered := congrArg toAsciiLowercase (eq_of_beq isBase)
    exact others word mem entry (subset entry isEntry) (lowered.trans same.symm)
  have known : (requiredLength dialect word.toList).isSome = true := by
    rw [same, required]
    rfl
  have ⟨classed, small, dialects⟩ := required_class dialect word mem known
  have found : lookup dialect base = lookup dialect word.toList := by
    apply lookup_congr
    rw [same, lower_lower]
  have zoned : Zoned dialect base := by
    intro _ zone
    exfalso
    have notTime : ∀ word ∈ ["varchar", "varbinary", "char", "binary", "nvarchar", "varchar2",
        "nvarchar2", "raw"], ("timestamp ".toList.isPrefixOf word.toList) = false := by decide +kernel
    have ⟨rest, isBase⟩ := List.isPrefixOf_iff_prefix.mp zone
    have starts : "timestamp ".toList.isPrefixOf word.toList = true := by
      rw [same, ← isBase]
      unfold toAsciiLowercase
      rw [List.map_append]
      exact List.isPrefixOf_iff_prefix.mpr (List.prefix_append _ _)
    rw [notTime word mem] at starts
    cases starts
  rw [same, required] at small
  rw [found]
  exact ⟨classed, of_decide_eq_true small, notIn (by decide), notIn (by decide), zoned, dialects⟩

end Writing

section Arguments

variable (dialect : Dialect) (parsed : ParsedType) (text args : Text)

theorem rows_labelled : ∀ dialect, ∀ row ∈ rows dialect, row.2 = .values →
    isIn (toAsciiLowercase row.1.toList) ["enum", "set", "enum8", "enum16"] = true := by
  intro dialect
  cases dialect <;> decide +kernel

/-- A type that takes labels. -/
def Labelled : Prop :=
  (lookup dialect parsed.base).map Prod.snd = some .values ∨
    isIn parsed.base ["Enum8", "Enum16", "enum", "set"] = true

theorem labelled_lower {dialect : Dialect} {parsed : ParsedType} (labelled : Labelled dialect parsed) :
    isIn (toAsciiLowercase parsed.base) ["enum", "set", "enum8", "enum16"] = true := by
  cases labelled with
  | inl listed =>
    have ⟨row, found, class_⟩ := Option.map_eq_some_iff.mp listed
    have ⟨mem, same⟩ := lookup_mem dialect found
    rw [← same]
    exact rows_labelled dialect row mem class_
  | inr named =>
    have ⟨entry, mem, same⟩ := List.any_eq_true.mp named
    have lowered : ∀ entry ∈ ["Enum8", "Enum16", "enum", "set"],
        isIn (toAsciiLowercase entry.toList) ["enum", "set", "enum8", "enum16"] = true := by
      decide +kernel
    rw [← eq_of_beq same]
    exact lowered entry mem

theorem parseArgs_labelled (labelled : Labelled dialect parsed) :
    parseArgs dialect parsed text args =
      (enumLabels args).elim (keptWhole parsed text)
        fun labels => { parsed with enumValues := labels } := by
  unfold Labelled at labelled
  unfold parseArgs
  dsimp only
  rw [if_pos labelled]
  cases enumLabels args <;> rfl

/-- What some numbers behind a type say. -/
def withNumbers (values : List Nat) : ParsedType :=
  if dialect = .mysql ∧ isInteger parsed.base = true then
    if isIn parsed.base ["tinyint"] = true ∧ values = [1] then { parsed with length := some 1 }
    else parsed
  else
    match values with
    | [value] =>
      if (lookup dialect parsed.base).map Prod.snd = some .length then
        { parsed with length := some value }
      else { parsed with precision := some value }
    | [precision, scale] => { parsed with precision := some precision, scale := some scale }
    | _ => keptWhole parsed text

theorem parseArgs_numbers (other : ¬Labelled dialect parsed) :
    parseArgs dialect parsed text args =
      (numbers args dialect).elim { keptWhole parsed text with unsigned := parsed.unsigned }
        (withNumbers dialect parsed text) := by
  unfold Labelled at other
  unfold parseArgs
  dsimp only
  rw [if_neg other]
  cases numbers args dialect <;> rfl

/-- The ways the arguments of a type can be read, and what else reads the same. -/
theorem parseArgs_cases (unscaled : parsed.scale = none) :
    (∃ labels, enumLabels args = some labels ∧
      parseArgs dialect parsed text args = { parsed with enumValues := labels } ∧
      isIn (toAsciiLowercase parsed.base) ["enum", "set", "enum8", "enum16"] = true ∧
      ∀ text' args', enumLabels args' = some labels →
        parseArgs dialect parsed text' args' = { parsed with enumValues := labels }) ∨
    (∃ unsigned, parseArgs dialect parsed text args =
        { keptWhole parsed text with unsigned := unsigned } ∧
      parseArgs dialect { parsed with unsigned := unsigned } text args =
        { keptWhole parsed text with unsigned := unsigned }) ∨
    (dialect = .mysql ∧ isInteger parsed.base = true ∧
      (∃ values, numbers args dialect = some values) ∧
      parseArgs dialect parsed text args = parsed) ∨
    ∃ precision scale, numbers args dialect = some (numbersGiven precision scale) ∧
      (scale = none ∧ parseArgs dialect parsed text args =
          { parsed with length := some precision } ∨
        parseArgs dialect parsed text args =
          { parsed with precision := some precision, scale := scale }) ∧
      ∀ text' args', numbers args' dialect = some (numbersGiven precision scale) →
        parseArgs dialect parsed text' args' = parseArgs dialect parsed text args := by
  have whole (unsigned : Bool) (same : parseArgs dialect parsed text args =
        { keptWhole parsed text with unsigned := unsigned })
      (again : parseArgs dialect { parsed with unsigned := unsigned } text args =
        { keptWhole parsed text with unsigned := unsigned }) : ∃ unsigned,
      parseArgs dialect parsed text args = { keptWhole parsed text with unsigned := unsigned } ∧
        parseArgs dialect { parsed with unsigned := unsigned } text args =
          { keptWhole parsed text with unsigned := unsigned } := ⟨unsigned, same, again⟩
  by_cases labelled : Labelled dialect parsed
  · have read := parseArgs_labelled dialect parsed text args labelled
    cases isRead : enumLabels args with
    | none =>
      have again := parseArgs_labelled dialect { parsed with unsigned := false } text args labelled
      rw [isRead] at read again
      exact Or.inr (Or.inl ⟨false, read, again⟩)
    | some labels =>
      rw [isRead] at read
      refine Or.inl ⟨labels, rfl, read, labelled_lower labelled, ?_⟩
      intro text' args' isRead'
      have read' := parseArgs_labelled dialect parsed text' args' labelled
      rw [isRead'] at read'
      exact read'
  · have read := parseArgs_numbers dialect parsed text args labelled
    right
    cases isRead : numbers args dialect with
    | none =>
      rw [isRead] at read
      exact Or.inl ⟨parsed.unsigned, read, read⟩
    | some values =>
      have numbered (text' args' : Text) (isRead' : numbers args' dialect = some values) :
          parseArgs dialect parsed text' args' = withNumbers dialect parsed text' values := by
        rw [parseArgs_numbers dialect parsed text' args' labelled, isRead']
        rfl
      have read := numbered text args isRead
      have again := parseArgs_numbers dialect { parsed with unsigned := false } text args labelled
      rw [isRead] at again
      have again : parseArgs dialect { parsed with unsigned := false } text args =
        withNumbers dialect { parsed with unsigned := false } text values := again
      by_cases integer : dialect = .mysql ∧ isInteger parsed.base = true
      · by_cases tiny : isIn parsed.base ["tinyint"] = true ∧ values = [1]
        · have value (text' : Text) : withNumbers dialect parsed text' values =
              { parsed with length := some 1 } := by
            unfold withNumbers
            rw [if_pos integer, if_pos tiny]
          rw [value] at read
          refine Or.inr (Or.inr ⟨1, none, congrArg some tiny.2, Or.inl ⟨rfl, read⟩, ?_⟩)
          intro text' args' isRead'
          rw [numbered text' args' (isRead'.trans (congrArg some tiny.2.symm)), value, read]
        · have value : withNumbers dialect parsed text values = parsed := by
            unfold withNumbers
            rw [if_pos integer, if_neg tiny]
          rw [value] at read
          exact Or.inr (Or.inl ⟨integer.1, integer.2, ⟨values, rfl⟩, read⟩)
      · have kept (more : ∀ text', withNumbers dialect parsed text' values = keptWhole parsed text')
            (more' : withNumbers dialect { parsed with unsigned := false } text values =
              keptWhole parsed text) := whole false (read.trans (more text)) (again.trans more')
        cases values with
        | nil =>
          refine Or.inl (kept ?_ ?_)
          · intro text'
            unfold withNumbers
            rw [if_neg integer]
          · unfold withNumbers
            rw [if_neg integer]
            rfl
        | cons first rest =>
          cases rest with
          | nil =>
            have value (text' : Text) : withNumbers dialect parsed text' [first] =
                if (lookup dialect parsed.base).map Prod.snd = some .length then
                  { parsed with length := some first }
                else { parsed with precision := some first } := by
              unfold withNumbers
              rw [if_neg integer]
            rw [value] at read
            have same (text' args' : Text)
                (isRead' : numbers args' dialect = some (numbersGiven first none)) :
                parseArgs dialect parsed text' args' = parseArgs dialect parsed text args := by
              rw [numbered text' args' isRead', value, read]
            refine Or.inr (Or.inr ⟨first, none, rfl, ?_, same⟩)
            by_cases class_ : (lookup dialect parsed.base).map Prod.snd = some .length
            · rw [if_pos class_] at read
              exact Or.inl ⟨rfl, read⟩
            · have shape : { parsed with precision := some first } =
                  { parsed with precision := some first, scale := none } := by
                rw [← unscaled]
              rw [if_neg class_, shape] at read
              exact Or.inr read
          | cons second rest =>
            cases rest with
            | nil =>
              have value (text' : Text) : withNumbers dialect parsed text' [first, second] =
                  { parsed with precision := some first, scale := some second } := by
                unfold withNumbers
                rw [if_neg integer]
              rw [value] at read
              have same (text' args' : Text)
                  (isRead' : numbers args' dialect = some (numbersGiven first (some second))) :
                  parseArgs dialect parsed text' args' = parseArgs dialect parsed text args := by
                rw [numbered text' args' isRead', value, read]
              exact Or.inr (Or.inr ⟨first, some second, rfl, Or.inr read, same⟩)
            | cons third rest =>
              refine Or.inl (kept ?_ ?_)
              · intro text'
                unfold withNumbers
                rw [if_neg integer]
              · unfold withNumbers
                rw [if_neg integer]
                rfl

end Arguments

section Surviving

variable {dialect : Dialect} {wrapper : Option Text} {nullable unsigned : Bool}

/-- What is known of a type before its name is read. -/
def marks (wrapper : Option Text) (nullable unsigned : Bool) : ParsedType :=
  { wrapper := wrapper, nullable := nullable, unsigned := unsigned }

/-- A parsed type with the length that is put in where its name alone needs one. -/
def filled (dialect : Dialect) (parsed : ParsedType) : ParsedType :=
  if '(' ∈ parsed.base ∨ '[' ∈ parsed.base ∨ parsed.enumValues ≠ [] ∨ parsed.length ≠ none ∨
      parsed.precision ≠ none then parsed
  else { parsed with length := requiredLength dialect (toAsciiLowercase parsed.base) }

/-- A type without its wrappers and attributes, written again: as it stands, or under its name in
the catalogue with the arguments it had. -/
inductive Restated (dialect : Dialect) (text : Text) : Text → Prop where
  | whole : Restated dialect text text
  | name (noArray : '[' ∉ text) (plain : '(' ∉ text) :
    Restated dialect text (canonical dialect (trim text))
  | lengthened (noArray : '[' ∉ text) (plain : '(' ∉ text) {length : Nat}
    (required : requiredLength dialect
      (toAsciiLowercase (canonical dialect (trim text))) = some length) :
    Restated dialect text (placeParams dialect (canonical dialect (trim text))
      (inParens (decimal length)))
  | numbered {start args after spelled args' : Text} {values : List Nat}
    (applied : Applied dialect text start args after spelled)
    (read : numbers args dialect = some values) (again : numbers args' dialect = some values) :
    Restated dialect text (placeParams dialect (canonical dialect spelled) (inParens args'))
  | labelled {start args after spelled args' : Text} {labels : List Text}
    (applied : Applied dialect text start args after spelled)
    (read : enumLabels args = some labels) (again : enumLabels args' = some labels) :
    Restated dialect text (placeParams dialect (canonical dialect spelled) (inParens args'))
  | width {start args after spelled : Text} {values : List Nat} (mysql : dialect = .mysql)
    (applied : Applied dialect text start args after spelled)
    (integer : isInteger (canonical dialect spelled) = true)
    (read : numbers args dialect = some values) :
    Restated dialect text (canonical dialect spelled)

/-- What a type written again is, where it is read. -/
structure Survives (dialect : Dialect) (wrapper : Option Text) (nullable : Bool)
    (parsed : ParsedType) (text written : Text) : Prop where
  trimmed : trim written = written
  unmarked : dialect = .mysql → Unmarked written
  bare : dialect = .clickhouse → Bare text → Bare written
  closed : dialect = .clickhouse → Closed text → Closed written
  restated : Restated dialect text written
  reread : ∀ raw, parseInner dialect raw (marks wrapper nullable parsed.unsigned) written =
    filled dialect parsed

/-- A parsed type that is named as types are: white space, an attribute or a parenthesis in a name
comes of a spelling that no catalogue reports. -/
structure Regular (dialect : Dialect) (parsed : ParsedType) : Prop where
  trimmed : trim parsed.base = parsed.base
  unmarked : dialect = .mysql → '(' ∉ parsed.base → Unmarked parsed.base
  placed : dialect = .oracle →
    parsed.enumValues ≠ [] ∨ parsed.length ≠ none ∨ parsed.precision ≠ none →
      '(' ∉ parsed.base ∧ Zoned dialect parsed.base

theorem filled_custom {parsed : ParsedType} (custom : '(' ∈ parsed.base ∨ '[' ∈ parsed.base) :
    filled dialect parsed = parsed := by
  unfold filled
  rw [if_pos (custom.elim Or.inl fun array => Or.inr (Or.inl array))]

theorem survives_whole {column : ColumnSpec} {parsed : ParsedType} {text params : Text}
    (regular : Regular dialect parsed) (unmarked : dialect = .mysql → Unmarked text)
    (isBase : parsed.base = text) (custom : '(' ∈ text ∨ '[' ∈ text)
    (written : writtenParams dialect column parsed.base = .ok params)
    (reread : ∀ raw, parseInner dialect raw (marks wrapper nullable parsed.unsigned) text = parsed) :
    Survives dialect wrapper nullable parsed text (placeParams dialect parsed.base params) := by
  have trimmed := regular.trimmed
  rw [isBase] at trimmed
  rw [isBase, writtenParams_custom custom] at written
  rw [isBase, ← Except.ok.inj written, placeParams_nil]
  refine ⟨trimmed, unmarked, fun _ bare => bare, fun _ closed => closed, .whole, ?_⟩
  intro raw
  rw [← isBase] at custom
  rw [reread, filled_custom custom]

theorem survives_applied {parsed : ParsedType} {text base args : Text}
    (standing : Standing dialect text base) (zoned : Zoned dialect base) (closed : Closed args)
    (noArray : '[' ∉ args)
    (bare : dialect = .clickhouse → Bare text →
      isIn base ["Nullable", "LowCardinality", "Array"] = false)
    (restated : Restated dialect text (placeParams dialect base (inParens args)))
    (reread : ∀ text', parseArgs dialect { marks wrapper nullable parsed.unsigned with base := base }
      text' args = filled dialect parsed) :
    Survives dialect wrapper nullable parsed text (placeParams dialect base (inParens args)) := by
  have ⟨named, _, closedBase⟩ := standing
  have ⟨start, after, spelled, applied, isBase⟩ := applied_written named zoned closed noArray
  refine ⟨trim_params named.trimmed zoned, ?_, ?_, ?_, restated, ?_⟩
  · intro mysql
    rw [placed_plain (by rw [mysql]; decide)]
    exact unmarked_inParens base args
  · intro clickhouse isBare
    rw [placed_plain (by rw [clickhouse]; decide)]
    exact bare_applied named.plain named.trimmed (bare clickhouse isBare)
  · intro clickhouse isClosed
    rw [placed_plain (by rw [clickhouse]; decide)]
    exact closed_append (closedBase clickhouse isClosed) (closed_inParens closed)
  · intro raw
    rw [parseInner_applied dialect applied, isBase]
    exact reread _

theorem survives_name {parsed : ParsedType} {text base : Text}
    (standing : Standing dialect text base) (restated : Restated dialect text base)
    (reread : { marks wrapper nullable parsed.unsigned with base := base } =
      filled dialect parsed) :
    Survives dialect wrapper nullable parsed text base := by
  have ⟨named, unmarked, closedBase⟩ := standing
  refine ⟨named.trimmed, unmarked, fun _ _ => bare_plain named.plain, closedBase, restated, ?_⟩
  intro raw
  rw [parseInner_name dialect named.noArray named.plain, named.trimmed, named.canon]
  exact reread

theorem filled_given {parsed : ParsedType}
    (given : parsed.enumValues ≠ [] ∨ parsed.length ≠ none ∨ parsed.precision ≠ none) :
    filled dialect parsed = parsed := by
  unfold filled
  rw [if_pos (Or.inr (Or.inr given))]

theorem parseArgs_required {base text : Text} {length : Nat}
    (required : requiredLength dialect (toAsciiLowercase base) = some length) :
    parseArgs dialect { marks wrapper nullable unsigned with base := base } text (decimal length) =
      { marks wrapper nullable unsigned with base := base, length := some length } := by
  have ⟨classed, small, notLabelled, notInteger, _, _⟩ := requiredLength_class required
  have other : ¬Labelled dialect { marks wrapper nullable unsigned with base := base } := by
    intro labelled
    cases labelled with
    | inl listed =>
      have same := classed.symm.trans listed
      cases same
    | inr named =>
      have same := notLabelled.symm.trans named
      cases same
  have smallValue : ∀ value ∈ numbersGiven length none, value < 2 ^ 32 := by
    intro value mem
    rw [List.mem_singleton.mp mem]
    exact small
  have read : numbers (decimal length) dialect = some [length] := numbers_numberList dialect smallValue
  rw [parseArgs_numbers dialect _ _ _ other, read, Option.elim_some]
  unfold withNumbers
  dsimp only
  rw [if_neg (by rw [notInteger]; intro integer; cases integer.2), if_pos classed]

theorem survives_named {column : ColumnSpec} {text base params : Text}
    (standing : Standing dialect text base) (restated : Restated dialect text base)
    (lengthened : ∀ length, requiredLength dialect (toAsciiLowercase base) = some length →
      Restated dialect text (placeParams dialect base (inParens (decimal length))))
    (empty : column.enumValues = []) (noLength : column.length = none)
    (noPrecision : column.precision = none)
    (written : writtenParams dialect column base = .ok params) :
    Survives dialect wrapper nullable { marks wrapper nullable unsigned with base := base } text
      (placeParams dialect base params) := by
  have plain := standing.named.plain
  have noArray := standing.named.noArray
  have isFilled : filled dialect { marks wrapper nullable unsigned with base := base } =
      { marks wrapper nullable unsigned with
        base := base, length := requiredLength dialect (toAsciiLowercase base) } := by
    unfold filled
    rw [if_neg]
    intro given
    cases given with
    | inl paren => exact plain paren
    | inr given => cases given with
      | inl array => exact noArray array
      | inr given => cases given with
        | inl labels => exact labels rfl
        | inr given => cases given with
          | inl length => exact length rfl
          | inr precision => exact precision rfl
  rw [writtenParams_plain plain noArray] at written
  rw [typeParams_name empty noLength noPrecision written]
  cases required : requiredLength dialect (toAsciiLowercase base) with
  | none =>
    rw [Option.elim_none, placeParams_nil]
    apply survives_name standing restated
    rw [isFilled, required]
    rfl
  | some length =>
    have ⟨_, small, _, _, zoned, notClickhouse⟩ := requiredLength_class required
    have digits := numberList_plain length none
    rw [Option.elim_some]
    apply survives_applied standing zoned (closed_plain digits)
    · intro mem
      exact (digits _ mem).2.2.2 rfl
    · intro clickhouse
      exact absurd clickhouse notClickhouse
    · exact lengthened length required
    · intro text'
      rw [isFilled, required]
      exact parseArgs_required required

variable {column : ColumnSpec} {reported : Bool}

theorem survives_args {text start args after spelled params : Text} {parsed : ParsedType}
    (unmarked : dialect = .mysql → Unmarked text) (short : text.length < 2 ^ 63)
    (applied : Applied dialect text start args after spelled)
    (isParsed : parsed = parseArgs dialect
      { marks wrapper nullable unsigned with base := canonical dialect spelled } text args)
    (regular : Regular dialect parsed)
    (written : writtenParams dialect (applyParsed column parsed dialect reported) parsed.base =
      .ok params) :
    Survives dialect wrapper nullable parsed text (placeParams dialect parsed.base params) ∧
      parsed.wrapper = wrapper ∧ parsed.nullable = nullable := by
  have opening : '(' ∈ text := by
    rw [applied.split]
    exact List.mem_append_right _ List.mem_cons_self
  have fits : args.length < 2 ^ 63 := by
    have size := congrArg List.length applied.split
    simp only [List.length_append, List.length_cons] at size
    omega
  have standing (isBase : parsed.base = canonical dialect spelled)
      (plain : '(' ∉ canonical dialect spelled) :
      Standing dialect text (canonical dialect spelled) := by
    have regularTrim := regular.trimmed
    have regularMark := regular.unmarked
    rw [isBase] at regularTrim regularMark
    exact applied_standing applied regularTrim plain fun mysql => regularMark mysql plain
  have zoned (isBase : parsed.base = canonical dialect spelled)
      (given : parsed.enumValues ≠ [] ∨ parsed.length ≠ none ∨ parsed.precision ≠ none) :
      Zoned dialect (canonical dialect spelled) := by
    intro oracle
    have placed := regular.placed oracle given
    rw [isBase] at placed
    exact placed.2 oracle
  have unwrapped : dialect = .clickhouse → Bare text →
      isIn (canonical dialect spelled) ["Nullable", "LowCardinality", "Array"] = false := by
    intro clickhouse
    subst clickhouse
    exact applied_unwrapped applied
  cases parseArgs_cases dialect
      { marks wrapper nullable unsigned with base := canonical dialect spelled } text args rfl with
  | inl labelled =>
    have ⟨labels, read, same, lower, again⟩ := labelled
    rw [same] at isParsed
    subst isParsed
    have ⟨fewer, own⟩ := enumLabels_parts read
    have plain : '(' ∉ canonical dialect spelled := by
      intro mem
      have names : ∀ entry ∈ ["enum", "set", "enum8", "enum16"], '(' ∉ entry.toList := by decide
      have ⟨entry, isEntry, same⟩ := List.any_eq_true.mp lower
      apply names entry isEntry
      rw [eq_of_beq same]
      exact (mem_lower (by decide)).mpr mem
    have stands := standing rfl plain
    have written := (writtenParams_plain plain (applied_noArray applied)).symm.trans written
    have filledLabels : labels ≠ [] := by
      intro empty
      have other := typeParams_noLabels empty written
      rw [show isIn _ _ = true from lower] at other
      cases other
    have isParams : params = inParens (labelList dialect labels) :=
      (Except.ok.inj ((typeParams_labels filledLabels).symm.trans written)).symm
    have noArray : ∀ label ∈ labels, '[' ∉ label :=
      fun label mem isIn => applied_args applied (own label mem _ isIn)
    have reads := enumLabels_labelList dialect (Nat.lt_of_le_of_lt fewer fits)
    rw [isParams]
    refine ⟨?_, rfl, rfl⟩
    apply survives_applied stands (zoned rfl (Or.inl filledLabels))
      (labelList_closed dialect labels) (labelList_plain dialect noArray) unwrapped
      (.labelled applied read reads)
    intro text'
    rw [filled_given (Or.inl filledLabels)]
    exact again text' _ reads
  | inr rest =>
    cases rest with
    | inl whole =>
      have ⟨unsigned', same, again⟩ := whole
      rw [same] at isParsed
      subst isParsed
      have custom : '(' ∈ text ∨ '[' ∈ text := Or.inl opening
      refine ⟨?_, rfl, rfl⟩
      apply survives_whole regular unmarked rfl custom written
      intro raw
      rw [parseInner_applied dialect applied]
      exact again
    | inr rest =>
      cases rest with
      | inl width =>
        have ⟨mysql, integer, read, same⟩ := width
        have ⟨values, read⟩ := read
        rw [same] at isParsed
        subst isParsed
        have plain := applied_plain applied (by rw [mysql]; decide)
        refine ⟨?_, rfl, rfl⟩
        apply survives_named (standing rfl plain) (.width mysql applied integer read) _ rfl rfl rfl
          written
        intro length required
        have other := (requiredLength_class required).2.2.2.1
        rw [show isInteger _ = true from integer] at other
        cases other
      | inr numbered =>
        have ⟨precision, scale, read, reads, again⟩ := numbered
        have small := numbersOf_small dialect _ _ read
        have plainNumbers := numberList_plain precision scale
        have reread := numbers_numberList dialect small
        have noArray : '[' ∉ numberList precision scale := fun mem => (plainNumbers _ mem).2.2.2 rfl
        have survives (isBase : parsed.base = canonical dialect spelled)
            (given : parsed.length ≠ none ∨ parsed.precision ≠ none)
            (isUnsigned : parsed.unsigned = unsigned) (plain : '(' ∉ canonical dialect spelled) :
            Survives dialect wrapper nullable parsed text
              (placeParams dialect (canonical dialect spelled)
                (inParens (numberList precision scale))) := by
          apply survives_applied (standing isBase plain) (zoned isBase (Or.inr given))
            (closed_plain plainNumbers) noArray unwrapped (.numbered applied read reread)
          intro text'
          rw [filled_given (Or.inr given), isUnsigned, isParsed]
          exact again text' _ reread
        have placed (isBase : parsed.base = canonical dialect spelled)
            (given : parsed.length ≠ none ∨ parsed.precision ≠ none) :
            '(' ∉ canonical dialect spelled := by
          by_cases oracle : dialect = .oracle
          · have placed := regular.placed oracle (Or.inr given)
            rw [isBase] at placed
            exact placed.1
          · exact applied_plain applied oracle
        cases reads with
        | inl length =>
          have ⟨unscaled, same⟩ := length
          subst unscaled
          rw [same] at isParsed
          have isBase := congrArg ParsedType.base isParsed
          have isLength := congrArg ParsedType.length isParsed
          have given : parsed.length ≠ none ∨ parsed.precision ≠ none := by
            rw [isLength]
            exact Or.inl nofun
          have plain := placed isBase given
          have survived := survives isBase given (congrArg ParsedType.unsigned isParsed) plain
          rw [isBase, writtenParams_plain plain (applied_noArray applied)] at written
          have isParams := typeParams_length (congrArg ParsedType.enumValues isParsed) isLength written
          rw [isBase, isParams]
          exact ⟨survived, congrArg ParsedType.wrapper isParsed,
            congrArg ParsedType.nullable isParsed⟩
        | inr same =>
          rw [same] at isParsed
          have isBase := congrArg ParsedType.base isParsed
          have isPrecision := congrArg ParsedType.precision isParsed
          have isScale := congrArg ParsedType.scale isParsed
          have given : parsed.length ≠ none ∨ parsed.precision ≠ none := by
            rw [isPrecision]
            exact Or.inr nofun
          have plain := placed isBase given
          have survived := survives isBase given (congrArg ParsedType.unsigned isParsed) plain
          rw [isBase, writtenParams_plain plain (applied_noArray applied)] at written
          have isParams := typeParams_numbers (congrArg ParsedType.enumValues isParsed)
            (congrArg ParsedType.length isParsed) isPrecision written
          rw [isBase, isParams]
          rw [show (applyParsed column parsed dialect reported).scale = scale from isScale]
          exact ⟨survived, congrArg ParsedType.wrapper isParsed,
            congrArg ParsedType.nullable isParsed⟩

/-- A type without its wrappers and attributes, written and read again. -/
theorem survives_inner {raw text params : Text} {parsed : ParsedType}
    (unmarked : dialect = .mysql → Unmarked text) (short : text.length < 2 ^ 63)
    (isParsed : parsed = parseInner dialect raw (marks wrapper nullable unsigned) text)
    (regular : Regular dialect parsed)
    (written : writtenParams dialect (applyParsed column parsed dialect reported) parsed.base =
      .ok params) :
    parsed = .verbatim raw ∧ '(' ∈ text ∨
      Survives dialect wrapper nullable parsed text (placeParams dialect parsed.base params) ∧
        parsed.wrapper = wrapper ∧ parsed.nullable = nullable := by
  cases parseInner_cases dialect raw text with
  | inl array =>
    rw [parseInner_array dialect array] at isParsed
    subst isParsed
    have custom : '(' ∈ text ∨ '[' ∈ text := Or.inr array
    refine Or.inr ⟨?_, rfl, rfl⟩
    apply survives_whole regular unmarked rfl custom written
    intro raw
    rw [parseInner_array dialect array]
    rfl
  | inr rest =>
    cases rest with
    | inl named =>
      have ⟨noArray, plain⟩ := named
      rw [parseInner_name dialect noArray plain] at isParsed
      subst isParsed
      have noParen : '(' ∉ canonical dialect (trim text) :=
        canonical_plain dialect (Or.inl rfl) fun mem => plain (trim_subset mem)
      have stands : Standing dialect text (canonical dialect (trim text)) :=
        name_standing noArray plain fun mysql => regular.unmarked mysql noParen
      refine Or.inr ⟨?_, rfl, rfl⟩
      exact survives_named stands (.name noArray plain)
        (fun length required => .lengthened noArray plain required) rfl rfl rfl written
    | inr rest =>
      cases rest with
      | inl verbatim =>
        have ⟨_, opening, same⟩ := verbatim
        rw [same] at isParsed
        exact Or.inl ⟨isParsed, opening⟩
      | inr found =>
        have ⟨start, args, after, spelled, applied⟩ := found
        rw [parseInner_applied dialect applied] at isParsed
        exact Or.inr (survives_args unmarked short applied isParsed regular written)

end Surviving

end DbFree.Ddl
