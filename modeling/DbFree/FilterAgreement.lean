import DbFree.WhereClause

/- When the WHERE clause of filters keeps the rows that the fallback keeps (integrations/sql.rs,
`where_clause`; integrations/http.rs, `local::apply_filters`). -/
namespace DbFree

open Texts SqlText LikePatterns QuotedTexts ThreeValued

/-- Literals and patterns as a reader has them to whom every character is welcome in quotes and a
bracket is nothing special. -/
def plainReading (rules : LikeRules) (family : Family) : Reading :=
  ⟨{ stringRules rules.other family with barred := fun _ => false }, defaultEscape rules family,
    false⟩

/-- A case-insensitive pattern: the characters that stand for themselves are lowered together. -/
def lowerItems (lower : Text → Text) : Text → List Item → List Item
  | run, [] => (lower run).map .exactly
  | run, .exactly c :: rest => lowerItems lower (run ++ [c]) rest
  | run, item :: rest => (lower run).map .exactly ++ item :: lowerItems lower [] rest

/-- The text matches the operand in whatever case. -/
def IsLikeLowered (lower : Text → Text) (reading : Reading) (operand text : Text) : Prop :=
  ∃ list, operandItems reading operand = some list ∧
    Matches ⟨Eq, fun _ => rfl⟩ (fun _ _ => False) (lowerItems lower [] list) (lower text)

section Verdicts

variable (lower : Text → Text) (reading : Reading)

/-- A comparison with a literal; of NULL nothing is known. -/
def compareVerdict (cell : Option Text) (comparison : Comparison) (literal : Text) : Verdict :=
  cell.bind fun text =>
    (readQuoted reading.strings literal).map fun read => comparison.holds (compare text read.1)

open Classical in
noncomputable def likeVerdict (cell : Option Text) (operand : Text) : Verdict :=
  cell.map fun text => decide (IsLikeLowered lower reading operand text)

/-- What a condition says of its column's cell. -/
noncomputable def SqlText.Condition.verdict (cell : Option Text) : Condition → Verdict
  | .compares _ comparison literal => compareVerdict reading cell comparison literal
  | .likes _ operand => likeVerdict lower reading cell operand
  | .nullOrUnlike _ operand =>
    either (some cell.isNone) (negated (likeVerdict lower reading cell operand))
  | .isIn _ literals => any (literals.map (compareVerdict reading cell .eq))
  | .never => some false
  | .isNull _ => some cell.isNone
  | .isNotNull _ => some cell.isSome

/-- The conditions of a clause together. -/
def clauseVerdict (mode : FilterMode) (verdicts : List Verdict) : Verdict :=
  if mode = .any ∧ 1 < verdicts.length then any verdicts else all verdicts

end Verdicts

/-- A cell as the engine has it, text or NULL. -/
def sqlCell (crates : Crates) : Value → Option Text
  | .null => none
  | cell => some (Server.cellText crates cell)

/-- The cell of a row under a column's name. -/
def cellUnder (columns : List Text) (row : Row) (name : Text) : Option Value :=
  (columns.findIdx? (· = name)).bind fun index => row[index]?

/-- The WHERE clause of the filters is true of the row; no clause is true of every row. -/
noncomputable def WhereTrue (crates : Crates) (rules : LikeRules) (engine : Engine)
    (columns : List Text) (row : Row) (filters : List FilterRule) (mode : FilterMode) : Prop :=
  filters = [] ∨
    clauseVerdict mode (filters.map fun rule =>
      (Condition.of engine rule).verdict crates.toLowercase (plainReading rules engine.family)
        ((cellUnder columns row rule.column).bind (sqlCell crates))) = some true

/-- The filtered cells of the row are there, and are text or NULL. -/
def TextCells (columns : List Text) (row : Row) (filters : List FilterRule) : Prop :=
  ∀ rule ∈ filters, cellUnder columns row rule.column = some .null ∨
    ∃ text, cellUnder columns row rule.column = some (.text text)

/-- Two numbers that compare by value otherwise than by text. -/
def ComparesApart (comparison : Comparison) (text needle : Text) : Prop :=
  ∃ x y, F64.parse text = some x ∧ F64.parse needle = some y ∧
    comparison.holds ((x.partialCmp y).getD .eq) ≠ comparison.holds (compare text needle)

/-- Some item of the list is blank. -/
def BlankItem (needle : Text) : Prop := [] ∈ (needle.splitOn ',').map trim

/-- The cells on which a rule is read in two ways. The fallback takes NULL for an empty text, but
for the two operators about NULL; it compares two numbers by value; and a blank item of a list is
an item. -/
def Differs (rule : FilterRule) (cell : Option Text) : Prop :=
  let needle := trim rule.value
  match rule.op, cell with
  | .ne, none | .lt, none => needle ≠ []
  | .lte, none => True
  | .gt, none => False
  | .eq, none | .gte, none | .contains, none | .notContains, none | .startsWith, none
  | .endsWith, none => needle = []
  | .isIn, none => BlankItem needle
  | .isIn, some text => text = [] ∧ BlankItem needle
  | .gt, some text => ComparesApart .gt text needle
  | .gte, some text => ComparesApart .gte text needle
  | .lt, some text => ComparesApart .lt text needle
  | .lte, some text => ComparesApart .lte text needle
  | _, _ => False

section Rules

variable {crates : Crates} {rules : LikeRules} {engine : Engine}

theorem reads_plainReading (rules : LikeRules) (family : Family) (value : Text) :
    ReadsFor (plainReading rules family) rules family value where
  strings := ⟨rfl, rfl⟩
  escape := rfl
  allowed _ _ := rfl

theorem readQuoted_literal (rules : LikeRules) (engine : Engine) (value : Text) :
    readQuoted (plainReading rules engine.family).strings (quoteLiteralFor engine value) =
      some (value, []) := by
  have read : readQuoted (plainReading rules engine.family).strings
      (quoteLiteralFor engine value ++ []) = some (value, []) :=
    readQuoted_quoteLiteralFor (reads_plainReading rules engine.family value).strings
      (fun _ _ => rfl) (by decide)
  rwa [List.append_nil] at read

theorem compareVerdict_literal (rules : LikeRules) (engine : Engine) (cell : Option Text)
    (comparison : Comparison) (value : Text) :
    compareVerdict (plainReading rules engine.family) cell comparison
        (quoteLiteralFor engine value) =
      cell.map fun text => comparison.holds (compare text value) := by
  rw [compareVerdict, readQuoted_literal]
  cases cell <;> rfl

theorem lowerItems_exactly (lower : Text → Text) (run value : Text) (isOpen : Bool)
    (empty : lower [] = []) :
    lowerItems lower run (value.map .exactly ++ wildcard isOpen) =
      (lower (run ++ value)).map .exactly ++ wildcard isOpen := by
  induction value generalizing run with
  | nil =>
    rw [List.append_nil]
    cases isOpen with
    | true =>
      change (lower run).map .exactly ++ .many :: lowerItems lower [] [] = _
      rw [lowerItems, empty]
      rfl
    | false => exact (List.append_nil _).symm
  | cons c value hypothesis =>
    change lowerItems lower (run ++ [c]) (value.map .exactly ++ wildcard isOpen) = _
    rw [hypothesis, List.append_assoc, List.singleton_append]

theorem lowerItems_wildcard (lower : Text → Text) (value : Text) (openStart openEnd : Bool)
    (empty : lower [] = []) :
    lowerItems lower [] (wildcard openStart ++ (value.map .exactly ++ wildcard openEnd)) =
      wildcard openStart ++ ((lower value).map .exactly ++ wildcard openEnd) := by
  have lowered := lowerItems_exactly lower [] value openEnd empty
  cases openStart with
  | true =>
    change (lower []).map .exactly ++
      .many :: lowerItems lower [] (value.map .exactly ++ wildcard openEnd) = _
    rw [lowered, empty]
    rfl
  | false => exact lowered

/-- A filter's operand asks for the lowered value in the lowered text. -/
theorem isLikeLowered_iff (rules : LikeRules) (engine : Engine) (lower : Text → Text)
    (empty : lower [] = []) (value text : Text) (openStart openEnd : Bool) :
    IsLikeLowered lower (plainReading rules engine.family)
        (likeOperand engine value (percent openStart) (percent openEnd)) text ↔
      Stands ⟨Eq, fun _ => rfl⟩ openStart openEnd (lower value) (lower text) := by
  have read := operandItems_likeOperand (reads_plainReading rules engine.family value)
    (fun both => Bool.false_ne_true both.1) openStart openEnd
  rw [IsLikeLowered, read, ← matches_stands fun _ _ => False]
  constructor
  · rintro ⟨list, same, found⟩
    cases same
    rwa [lowerItems_wildcard lower value openStart openEnd empty] at found
  · intro found
    refine ⟨_, rfl, ?_⟩
    rwa [lowerItems_wildcard lower value openStart openEnd empty]

theorem stands_iff (openStart openEnd : Bool) (value text : Text) :
    Stands ⟨Eq, fun _ => rfl⟩ openStart openEnd value text ↔
      ∃ before after, text = before ++ value ++ after ∧ (openStart = false → before = []) ∧
        (openEnd = false → after = []) := by
  constructor
  · rintro ⟨before, part, after, same, alike, atStart, atEnd⟩
    rw [List.forall₂_eq_eq_eq] at alike
    subst alike
    exact ⟨before, after, same, atStart, atEnd⟩
  · rintro ⟨before, after, same, atStart, atEnd⟩
    exact ⟨before, value, after, same, List.forall₂_eq_eq_eq ▸ rfl, atStart, atEnd⟩

/-- A text or NULL as a cell. -/
def textCell : Option Text → Value
  | none => .null
  | some text => .text text

/-- How the fallback compares: by value where both are numbers. -/
def localOrder (text needle : Text) : Ordering :=
  match F64.parse text, F64.parse needle with
  | some x, some y => (x.partialCmp y).getD .eq
  | _, _ => compare text needle

theorem compare_nil (needle : Text) :
    compare [] needle = if needle = [] then .eq else .lt := by
  cases needle <;> rfl

theorem localOrder_nil (needle : Text) :
    localOrder [] needle = if needle = [] then .eq else .lt := by
  have none : F64.parse [] = none := by decide
  rw [localOrder, none]
  exact compare_nil needle

/-- Both orders give a comparison the same verdict unless two numbers stand otherwise as texts. -/
theorem holds_iff (comparison : Comparison) (text needle : Text) :
    (comparison.holds (localOrder text needle) = true ↔
        comparison.holds (compare text needle) = true) ↔
      ¬ComparesApart comparison text needle := by
  rw [localOrder, ComparesApart]
  cases first : F64.parse text with
  | none =>
    refine iff_of_true Iff.rfl ?_
    rintro ⟨x, y, reads, -⟩
    cases reads
  | some x =>
    cases second : F64.parse needle with
    | none =>
      refine iff_of_true Iff.rfl ?_
      rintro ⟨x, y, -, reads, -⟩
      cases reads
    | some y =>
      rw [← Bool.eq_iff_iff]
      constructor
      · rintro same ⟨_, _, isX, isY, apart⟩
        cases isX
        cases isY
        exact apart same
      · intro alike
        by_contra apart
        exact alike ⟨x, y, rfl, rfl, apart⟩

theorem startsWith_iff (value text : Text) :
    Stands ⟨Eq, fun _ => rfl⟩ false true value text ↔ value <+: text := by
  rw [stands_iff]
  constructor
  · rintro ⟨before, after, same, atStart, -⟩
    rw [atStart rfl] at same
    exact ⟨after, same.symm⟩
  · rintro ⟨after, same⟩
    exact ⟨[], after, same.symm, fun _ => rfl, nofun⟩

theorem endsWith_iff (value text : Text) :
    Stands ⟨Eq, fun _ => rfl⟩ true false value text ↔ value <:+ text := by
  rw [stands_iff]
  constructor
  · rintro ⟨before, after, same, -, atEnd⟩
    rw [atEnd rfl, List.append_nil] at same
    exact ⟨before, same.symm⟩
  · rintro ⟨before, same⟩
    exact ⟨before, [], by rw [← same, List.append_nil], nofun, fun _ => rfl⟩

theorem contains_iff (value text : Text) :
    Stands ⟨Eq, fun _ => rfl⟩ true true value text ↔ value <:+: text := by
  rw [stands_iff]
  constructor
  · rintro ⟨before, after, same, -, -⟩
    exact ⟨before, after, same.symm⟩
  · rintro ⟨before, after, same⟩
    exact ⟨before, after, same.symm, nofun, nofun⟩

end Rules

section Agreement

variable {crates : Crates} (rules : LikeRules) (engine : Engine)

/-- The fallback and the clause say the same of a cell. -/
def SaysAlike (crates : Crates) (rules : LikeRules) (engine : Engine) (rule : FilterRule)
    (cell : Option Text) : Prop :=
  Server.matches_ crates rule (textCell cell) = true ↔
    (Condition.of engine rule).verdict crates.toLowercase (plainReading rules engine.family) cell =
      some true

variable {rules engine}

theorem iff_unknown {said : Prop} : (said ↔ (none : Verdict) = some true) ↔ ¬said := by
  constructor
  · intro agree holds
    cases agree.mp holds
  · exact fun not => iff_of_false not nofun

theorem eq_holds_iff (text needle : Text) :
    Comparison.eq.holds (compare text needle) = true ↔ text = needle := by
  rw [Comparison.holds, beq_iff_eq]
  exact Std.LawfulEqOrd.compare_eq_iff_eq

theorem ne_holds_iff (text needle : Text) :
    Comparison.ne.holds (compare text needle) = true ↔ text ≠ needle := by
  rw [Ne, ← eq_holds_iff, Comparison.holds, Comparison.holds, bne_iff_ne, beq_iff_eq]

theorem any_unknown (literals : List Text) (reading : Reading) :
    any (literals.map (compareVerdict reading none .eq)) ≠ some true := by
  intro found
  obtain ⟨literal, -, isTrue⟩ := List.mem_map.mp ((any_eq_true_iff _).mp found)
  cases isTrue

theorem any_equal_iff (items : List Text) (text : Text) :
    any ((items.map (quoteLiteralFor engine)).map
        (compareVerdict (plainReading rules engine.family) (some text) .eq)) = some true ↔
      text ∈ items := by
  rw [any_eq_true_iff, List.map_map, List.mem_map]
  constructor
  · rintro ⟨item, member, isTrue⟩
    rw [Function.comp_apply, compareVerdict_literal, Option.map_some, Option.some.injEq,
      eq_holds_iff] at isTrue
    rwa [isTrue]
  · intro member
    refine ⟨text, member, ?_⟩
    rw [Function.comp_apply, compareVerdict_literal, Option.map_some, Option.some.injEq,
      eq_holds_iff]

theorem isIn_verdict (column value : Text) (cell : Option Text) (lower : Text → Text) :
    (Condition.of engine ⟨column, .isIn, value⟩).verdict lower (plainReading rules engine.family)
        cell = some true ↔
      ∃ text, cell = some text ∧ text ∈ inItems (trim value) := by
  have spelled : Condition.of engine ⟨column, .isIn, value⟩ =
      if inItems (trim value) = [] then .never
      else .isIn column ((inItems (trim value)).map (quoteLiteralFor engine)) := rfl
  rw [spelled]
  split
  · next empty =>
    refine iff_of_false (fun wrong => ?_) ?_
    · cases wrong
    · rintro ⟨text, -, member⟩
      rw [empty] at member
      cases member
  · cases cell with
    | none => exact iff_of_false (any_unknown _ _) nofun
    | some text =>
      rw [Condition.verdict, any_equal_iff]
      constructor
      · exact fun member => ⟨text, rfl, member⟩
      · rintro ⟨_, same, member⟩
        cases same
        exact member

theorem mem_inItems_iff (value text : Text) :
    text ∈ inItems value ↔ text ∈ (value.splitOn ',').map trim ∧ text ≠ [] := by
  rw [inItems, List.mem_filter, decide_eq_true_eq]

theorem mem_items_iff (value text : Text) :
    ((value.splitOn ',').any fun part => trim part == text) = true ↔
      text ∈ (value.splitOn ',').map trim := by
  rw [List.any_eq_true, List.mem_map]
  simp only [beq_iff_eq]

/-- On NULL, of which the clause knows nothing, the fallback must say no; but for the operators
about NULL and for the filter that keeps what does not hold a text. -/
theorem agrees_null (lowered : ∀ text, crates.toLowercase text = [] ↔ text = [])
    (rule : FilterRule) : SaysAlike crates rules engine rule none ↔ ¬Differs rule none := by
  have within : ∀ needle : Text, crates.toLowercase needle <:+: crates.toLowercase [] ↔
      needle = [] := by
    intro needle
    rw [(lowered []).mpr rfl, List.infix_nil, lowered]
  obtain ⟨column, op, value⟩ := rule
  cases op with
  | eq =>
    refine iff_unknown.trans (not_congr ?_)
    exact beq_iff_eq.trans eq_comm
  | ne =>
    refine iff_unknown.trans (not_congr ?_)
    exact bne_iff_ne.trans ne_comm
  | gt =>
    refine iff_unknown.trans (not_congr ?_)
    change (localOrder [] (trim value) == .gt) = true ↔ False
    rw [localOrder_nil]
    split <;> decide
  | gte =>
    refine iff_unknown.trans (not_congr ?_)
    change (localOrder [] (trim value) != .lt) = true ↔ trim value = []
    rw [localOrder_nil]
    split <;> simp [*]
  | lt =>
    refine iff_unknown.trans (not_congr ?_)
    change (localOrder [] (trim value) == .lt) = true ↔ trim value ≠ []
    rw [localOrder_nil]
    split <;> simp [*]
  | lte =>
    refine iff_unknown.trans (not_congr ?_)
    change (localOrder [] (trim value) != .gt) = true ↔ True
    rw [localOrder_nil]
    split <;> decide
  | contains =>
    refine iff_unknown.trans (not_congr ?_)
    exact decide_eq_true_iff.trans (within (trim value))
  | startsWith =>
    refine iff_unknown.trans (not_congr (decide_eq_true_iff.trans ?_))
    change crates.toLowercase (trim value) <+: crates.toLowercase [] ↔ trim value = []
    rw [(lowered []).mpr rfl, List.prefix_nil, lowered]
  | endsWith =>
    refine iff_unknown.trans (not_congr (decide_eq_true_iff.trans ?_))
    change crates.toLowercase (trim value) <:+ crates.toLowercase [] ↔ trim value = []
    rw [(lowered []).mpr rfl, List.suffix_nil, lowered]
  | notContains =>
    have kept : (Condition.of engine ⟨column, .notContains, value⟩).verdict crates.toLowercase
        (plainReading rules engine.family) none = some true := rfl
    have said : Server.matches_ crates ⟨column, .notContains, value⟩ .null = true ↔
        ¬crates.toLowercase (trim value) <:+: crates.toLowercase [] := by
      change (!decide _) = true ↔ _
      rw [Bool.not_eq_true']
      exact decide_eq_false_iff_not
    rw [SaysAlike, kept, textCell, said, within]
    exact iff_true_right rfl
  | isIn =>
    have said : Server.matches_ crates ⟨column, .isIn, value⟩ .null = true ↔
        [] ∈ ((trim value).splitOn ',').map trim := mem_items_iff (trim value) []
    rw [SaysAlike, isIn_verdict, textCell, said]
    constructor
    · intro agree blank
      obtain ⟨text, same, -⟩ := agree.mp blank
      cases same
    · exact fun none => iff_of_false none nofun
  | isNull => exact iff_of_true (iff_of_true rfl rfl) not_false
  | isNotNull => exact iff_of_true (iff_of_false nofun nofun) not_false

/-- On a text the two differ only in the order of numbers and about blank items. -/
theorem agrees_text (lowered : ∀ text, crates.toLowercase text = [] ↔ text = [])
    (rule : FilterRule) (text : Text) :
    SaysAlike crates rules engine rule (some text) ↔ ¬Differs rule (some text) := by
  have empty : crates.toLowercase [] = [] := (lowered []).mpr rfl
  have compared : ∀ (comparison : Comparison) (needle : Text),
      compareVerdict (plainReading rules engine.family) (some text) comparison
        (quoteLiteralFor engine needle) = some true ↔
          comparison.holds (compare text needle) = true := by
    intro comparison needle
    rw [compareVerdict_literal, Option.map_some, Option.some.injEq]
  have like : ∀ (needle : Text) (openStart openEnd : Bool),
      likeVerdict crates.toLowercase (plainReading rules engine.family) (some text)
        (likeOperand engine needle (percent openStart) (percent openEnd)) = some true ↔
          Stands ⟨Eq, fun _ => rfl⟩ openStart openEnd (crates.toLowercase needle)
            (crates.toLowercase text) := by
    intro needle openStart openEnd
    rw [likeVerdict, Option.map_some, Option.some.injEq]
    refine Iff.trans ?_
      (isLikeLowered_iff rules engine crates.toLowercase empty needle text openStart openEnd)
    exact @decide_eq_true_iff _ (Classical.propDecidable _)
  obtain ⟨column, op, value⟩ := rule
  cases op with
  | eq =>
    refine iff_of_true ?_ not_false
    exact beq_iff_eq.trans (((compared .eq (trim value)).trans (eq_holds_iff text _)).symm)
  | ne =>
    refine iff_of_true ?_ not_false
    exact bne_iff_ne.trans (((compared .ne (trim value)).trans (ne_holds_iff text _)).symm)
  | gt => exact (iff_congr Iff.rfl (compared .gt (trim value))).trans (holds_iff .gt text _)
  | gte => exact (iff_congr Iff.rfl (compared .gte (trim value))).trans (holds_iff .gte text _)
  | lt => exact (iff_congr Iff.rfl (compared .lt (trim value))).trans (holds_iff .lt text _)
  | lte => exact (iff_congr Iff.rfl (compared .lte (trim value))).trans (holds_iff .lte text _)
  | contains =>
    refine iff_of_true (decide_eq_true_iff.trans ?_) not_false
    exact ((like (trim value) true true).trans (contains_iff _ _)).symm
  | startsWith =>
    refine iff_of_true (decide_eq_true_iff.trans ?_) not_false
    exact ((like (trim value) false true).trans (startsWith_iff _ _)).symm
  | endsWith =>
    refine iff_of_true (decide_eq_true_iff.trans ?_) not_false
    exact ((like (trim value) true false).trans (endsWith_iff _ _)).symm
  | notContains =>
    have said : Server.matches_ crates ⟨column, .notContains, value⟩ (.text text) = true ↔
        ¬crates.toLowercase (trim value) <:+: crates.toLowercase text := by
      change (!decide _) = true ↔ _
      rw [Bool.not_eq_true']
      exact decide_eq_false_iff_not
    have found := (like (trim value) true true).trans (contains_iff _ _)
    refine iff_of_true (said.trans ?_) not_false
    have known : ∃ isLike, likeVerdict crates.toLowercase (plainReading rules engine.family)
        (some text) (likeOperand engine (trim value) (percent true) (percent true)) =
          some isLike := ⟨_, rfl⟩
    obtain ⟨isLike, same⟩ := known
    have kept : (Condition.of engine ⟨column, .notContains, value⟩).verdict crates.toLowercase
        (plainReading rules engine.family) (some text) =
          either (some false) (negated (some isLike)) :=
      congrArg (fun verdict => either (some false) (negated verdict)) same
    rw [kept, ← found, same]
    cases isLike <;> decide
  | isIn =>
    have said : Server.matches_ crates ⟨column, .isIn, value⟩ (.text text) = true ↔
        text ∈ ((trim value).splitOn ',').map trim := mem_items_iff (trim value) text
    have kept : (∃ known, some text = some known ∧ known ∈ inItems (trim value)) ↔
        text ∈ ((trim value).splitOn ',').map trim ∧ text ≠ [] := by
      rw [← mem_inItems_iff]
      constructor
      · rintro ⟨_, same, member⟩
        cases same
        exact member
      · exact fun member => ⟨text, rfl, member⟩
    rw [SaysAlike, isIn_verdict, textCell, said, kept]
    constructor
    · rintro agree ⟨rfl, blank⟩
      exact (agree.mp blank).2 rfl
    · intro alike
      refine ⟨fun member => ⟨member, ?_⟩, fun both => both.1⟩
      rintro rfl
      exact alike ⟨rfl, member⟩
  | isNull => exact iff_of_true (iff_of_false nofun nofun) not_false
  | isNotNull => exact iff_of_true (iff_of_true rfl rfl) not_false

theorem agrees_iff (lowered : ∀ text, crates.toLowercase text = [] ↔ text = [])
    (rule : FilterRule) (cell : Option Text) :
    SaysAlike crates rules engine rule cell ↔ ¬Differs rule cell := by
  cases cell with
  | none => exact agrees_null lowered rule
  | some text => exact agrees_text lowered rule text

end Agreement

section Rows

variable {crates : Crates} {rules : LikeRules} {engine : Engine} {columns : List Text} {row : Row}

/-- What the clause has under a rule's column. -/
def cellFor (crates : Crates) (columns : List Text) (row : Row) (rule : FilterRule) :
    Option Text :=
  (cellUnder columns row rule.column).bind (sqlCell crates)

theorem cellUnder_eq (crates : Crates) {filters : List FilterRule}
    (texts : TextCells columns row filters) {rule : FilterRule} (member : rule ∈ filters) :
    cellUnder columns row rule.column = some (textCell (cellFor crates columns row rule)) := by
  rcases texts rule member with isNull | ⟨text, isText⟩
  · rw [cellFor, isNull]
    rfl
  · rw [cellFor, isText]
    rfl

theorem hit_eq {filters : List FilterRule} (texts : TextCells columns row filters)
    {rule : FilterRule} (member : rule ∈ filters) :
    Server.hit crates columns row rule =
      Server.matches_ crates rule (textCell (cellFor crates columns row rule)) := by
  have found := cellUnder_eq crates texts member
  rw [cellUnder] at found
  rw [Server.hit, found, Option.any_some]

theorem mem_applyFilters_iff {rows : List Row} (member : row ∈ rows) (filters : List FilterRule)
    (mode : FilterMode) :
    row ∈ Server.applyFilters crates columns rows filters mode ↔
      filters = [] ∨ Server.keeps crates columns filters mode row = true := by
  rw [Server.applyFilters]
  split
  · next none => exact iff_of_true member (Or.inl (List.isEmpty_iff.mp none))
  · next some =>
    rw [List.isEmpty_iff] at some
    rw [List.mem_filter, or_iff_right some]
    exact and_iff_right member

/-- The clause asks for some condition in the mode any, and for all of them otherwise. -/
theorem clauseVerdict_eq_true_iff {verdicts : List Verdict} (filled : verdicts ≠ [])
    (mode : FilterMode) :
    clauseVerdict mode verdicts = some true ↔
      match mode with
      | .any => some true ∈ verdicts
      | .all => ∀ verdict ∈ verdicts, verdict = some true := by
  rw [clauseVerdict]
  cases mode with
  | all =>
    rw [if_neg fun wrong => nomatch wrong.1]
    exact all_eq_true_iff verdicts
  | any =>
    split
    · exact any_eq_true_iff verdicts
    · next short =>
      obtain ⟨verdict, rest, rfl⟩ := List.exists_cons_of_ne_nil filled
      have single : rest = [] := by
        by_contra more
        refine short ⟨rfl, ?_⟩
        have := List.length_pos_iff.mpr more
        rw [List.length_cons]
        omega
      subst single
      rw [all_eq_true_iff, List.forall_mem_singleton, List.mem_singleton, eq_comm]

/-- Where no rule differs the row is kept by both or by none. -/
theorem kept_iff_whereTrue {filters : List FilterRule} (texts : TextCells columns row filters)
    (agree : ∀ rule ∈ filters, SaysAlike crates rules engine rule (cellFor crates columns row rule))
    (mode : FilterMode) {rows : List Row} (member : row ∈ rows) :
    row ∈ Server.applyFilters crates columns rows filters mode ↔
      WhereTrue crates rules engine columns row filters mode := by
  rw [mem_applyFilters_iff member, WhereTrue]
  by_cases empty : filters = []
  · exact iff_of_true (Or.inl empty) (Or.inl empty)
  · rw [or_iff_right empty, or_iff_right empty,
      clauseVerdict_eq_true_iff (fun none => empty (List.map_eq_nil_iff.mp none)), Server.keeps]
    have hits : ∀ rule ∈ filters, Server.hit crates columns row rule = true ↔
        (Condition.of engine rule).verdict crates.toLowercase (plainReading rules engine.family)
          (cellFor crates columns row rule) = some true := by
      intro rule inFilters
      rw [hit_eq texts inFilters]
      exact agree rule inFilters
    cases mode with
    | all =>
      rw [FilterMode.passes, List.all_eq_true, List.forall_mem_map]
      exact forall₂_congr hits
    | any =>
      rw [FilterMode.passes, List.any_eq_true, List.mem_map]
      exact exists_congr fun rule => and_congr_right fun inFilters => hits rule inFilters

end Rows

/-- Lowering of texts that have no capital letters. -/
def smallLetters : Crates := ⟨fun _ => [], fun _ => [], fun _ => none, id⟩

def anyRules : LikeRules := ⟨fun c => [c], false, ⟨Eq, fun _ => rfl⟩, fun _ _ => False⟩

end DbFree
