import DbFree.FilterExprTokens
import DbFree.Trimming
import DbFree.WhereClause

/- Filters through the text of the filter bar: what is written for rules is read as the same
rules, and the lists that are typed reach the engines item by item. -/
namespace DbFree.FilterExpr

open SqlText
open Browser (trim)

section Reading

variable (lowercase : Lowercase)

theorem lower_word (text : String) (plain : (text.toList.all fun c => 'a' ≤ c && c ≤ 'z') = true) :
    lowercase.lower (word text).text = text.toList := lowercase.plain _ plain

theorem wordIs_word (text : String)
    (plain : (text.toList.all fun c => 'a' ≤ c && c ≤ 'z') = true) (other : String) :
    wordIs lowercase (word text) other = decide (text.toList = other.toList) := by
  rw [wordIs, lower_word lowercase text plain]
  rfl

theorem readOperator_tokens (op : FilterOp) (tail : List Token) :
    readOperator lowercase (opTokens op ++ tail) =
      { op := some op, used := (opTokens op).length } := by
  have kind : ∀ text, (word text).kind = .word := fun _ => rfl
  cases op with
  | eq | ne | gt | gte | lt | lte => rfl
  | contains =>
    simp only [opTokens, List.singleton_append, readOperator, kind,
      lower_word lowercase "contains" (by decide)]
    rfl
  | notContains =>
    simp only [opTokens, List.cons_append, readOperator, kind,
      lower_word lowercase "not" (by decide), wordIs_word lowercase "contains" (by decide)]
    rfl
  | startsWith =>
    simp only [opTokens, List.cons_append, readOperator, kind,
      lower_word lowercase "starts" (by decide), wordIs_word lowercase "with" (by decide)]
    rfl
  | endsWith =>
    simp only [opTokens, List.cons_append, readOperator, kind,
      lower_word lowercase "ends" (by decide), wordIs_word lowercase "with" (by decide)]
    rfl
  | isIn =>
    simp only [opTokens, List.cons_append, readOperator, kind,
      lower_word lowercase "in" (by decide)]
    rfl
  | isNull =>
    simp only [opTokens, List.cons_append, readOperator, kind,
      lower_word lowercase "is" (by decide), wordIs_word lowercase "null" (by decide)]
    rfl
  | isNotNull =>
    simp only [opTokens, List.cons_append, readOperator, kind,
      lower_word lowercase "is" (by decide), wordIs_word lowercase "null" (by decide),
      wordIs_word lowercase "not" (by decide)]
    rfl

theorem valueToken_text (value : Text) : (valueToken lowercase value).text = value := by
  unfold valueToken
  split <;> rfl

theorem valueToken_kind (value : Text) : (valueToken lowercase value).kind ≠ .symbol := by
  unfold valueToken
  split <;> exact TokenKind.noConfusion

theorem valueToken_not_null (value : Text) :
    wordIs lowercase (valueToken lowercase value) "null" = false := by
  unfold valueToken
  split
  · rename_i bare
    rw [Bool.eq_false_iff]
    intro isNull
    rw [wordIs, Bool.and_eq_true, decide_eq_true_eq] at isNull
    rw [of_decide_eq_true isNull.2] at bare
    exact bare.2 (by decide)
  · rfl

theorem readItems_tokens {items : List Text} (filled : items ≠ []) (tail : List Token) :
    readItems true (listTokens lowercase items ++ tail) =
      { items := some items, used := (listTokens lowercase items).length } := by
  induction items with
  | nil => exact absurd rfl filled
  | cons item items hypothesis =>
    cases items with
    | nil =>
      rw [listTokens, List.cons_append, readItems.eq_def]
      dsimp only
      rw [if_neg (valueToken_kind lowercase item), valueToken_text]
      rfl
    | cons next items =>
      rw [listTokens, List.cons_append, List.cons_append, readItems.eq_def]
      dsimp only
      rw [if_neg (valueToken_kind lowercase item), valueToken_text, if_pos rfl,
        hypothesis (List.cons_ne_nil _ _)]
      rfl
      exact List.cons_ne_nil _ _

/-- A rule as it is read back. -/
def normal (rule : FilterRule) : Typed :=
  if needsValue rule.op then
    let items := if rule.op = .isIn then listItems rule.value else [trim rule.value]
    { column := rule.column, op := rule.op, value := join [','] items, items := items }
  else { column := rule.column, op := rule.op, value := [], items := [] }

theorem readRest_tokens {rule : FilterRule} (listed : rule.op = .isIn → listItems rule.value ≠ [])
    (tail : List Token) :
    readRest lowercase rule.column rule.op ((if needsValue rule.op then
        if rule.op = .isIn then symbol "(" :: listTokens lowercase (listItems rule.value)
        else [valueToken lowercase (trim rule.value)]
      else []) ++ tail) = .ok (normal rule, tail) := by
  unfold readRest normal
  split
  · split
    · rename_i needs isList
      have read : readValue lowercase (symbol "(" :: listTokens lowercase (listItems rule.value) ++
          tail) rule.op =
            { items := some (listItems rule.value)
              used := (listTokens lowercase (listItems rule.value)).length + 1 } := by
        rw [readValue.eq_def, List.cons_append]
        dsimp only
        have opens : isSymbol (symbol "(") "(" = true := by decide
        rw [if_pos isList, if_pos opens, readItems_tokens lowercase (listed isList)]
      rw [read]
      simp only [Bool.false_eq_true, if_false, false_and, List.cons_append, List.drop_succ_cons,
        List.drop_left]
    · rename_i needs single
      have read : readValue lowercase ([valueToken lowercase (trim rule.value)] ++ tail) rule.op =
          { items := some [trim rule.value], used := 1 } := by
        rw [readValue.eq_def, List.singleton_append]
        dsimp only
        rw [if_neg single, if_neg (valueToken_kind lowercase _), valueToken_text,
          valueToken_not_null]
      rw [read]
      simp only [Bool.false_eq_true, if_false, false_and, List.singleton_append,
        List.drop_succ_cons, List.drop_zero]
  · rfl

theorem nameToken_text (name : Text) : (nameToken lowercase name).text = name := by
  unfold nameToken
  split <;> rfl

theorem nameToken_kind (name : Text) :
    ¬((nameToken lowercase name).kind = .symbol ∨ (nameToken lowercase name).kind = .string) := by
  unfold nameToken
  split <;> exact not_or.mpr ⟨TokenKind.noConfusion, TokenKind.noConfusion⟩

theorem resolveColumn_exact {name : Text} {columns : List Text} (known : name ∈ columns) :
    resolveColumn lowercase name columns = some name := by
  unfold resolveColumn
  cases found : columns.find? fun c => decide (c = name) with
  | none =>
    have missed := List.find?_eq_none.mp found name known
    simp at missed
  | some c =>
    have same : c = name := by simpa using List.find?_some found
    rw [same]

theorem resolveColumn_known {name column : Text} {columns : List Text}
    (resolved : resolveColumn lowercase name columns = some column) : column ∈ columns := by
  unfold resolveColumn at resolved
  split at resolved
  · rename_i found
    cases resolved
    exact List.mem_of_find?_eq_some found
  · exact List.mem_of_find?_eq_some resolved

theorem opTokens_ne_nil (op : FilterOp) (tail : List Token) : opTokens op ++ tail ≠ [] := by
  cases op <;> exact List.cons_ne_nil _ _

theorem readRule_tokens {columns : List Text} {rule : FilterRule} (known : rule.column ∈ columns)
    (listed : rule.op = .isIn → listItems rule.value ≠ []) (tail : List Token) :
    readRule lowercase columns (ruleTokens lowercase rule ++ tail) = .ok (normal rule, tail) := by
  rw [ruleTokens, List.cons_append, readRule.eq_def]
  dsimp only
  rw [if_neg (nameToken_kind lowercase rule.column), nameToken_text,
    resolveColumn_exact lowercase known, List.append_assoc (opTokens rule.op)]
  dsimp only
  rw [if_neg (opTokens_ne_nil rule.op _), readOperator_tokens]
  dsimp only
  rw [List.drop_left]
  exact readRest_tokens lowercase listed tail

theorem connectorMode_connector (mode : FilterMode) :
    connectorMode lowercase (connector mode) = some mode := by
  cases mode with
  | all =>
    show connectorMode lowercase (word "and") = _
    rw [connectorMode, wordIs_word lowercase "and" (by decide)]
    rfl
  | any =>
    show connectorMode lowercase (word "or") = _
    rw [connectorMode, wordIs_word lowercase "or" (by decide),
      wordIs_word lowercase "or" (by decide)]
    rfl

theorem readRules_eq (columns : List Text) (mode : Option FilterMode) (tokens : List Token) :
    readRules lowercase columns mode tokens = match readRule lowercase columns tokens with
      | .error message => .error message
      | .ok (rule, []) => .ok ([rule], mode.getD .all)
      | .ok (rule, connector :: later) =>
        match connectorMode lowercase connector with
        | none => .error "Expected \"and\" or \"or\".".toList
        | some kind =>
          if mode ≠ none ∧ mode ≠ some kind then
            .error
              ("Use \"and\" or \"or\" throughout, not both. Use the filter popover for mixed " ++
                "logic.").toList
          else
            (readRules lowercase columns (some kind) later).map fun found =>
              (rule :: found.1, found.2) := by
  rw [readRules]
  rcases step : readRule lowercase columns tokens with message | ⟨rule, rest⟩
  · rfl
  · cases rest <;> rfl

theorem readRules_tokens {columns : List Text} (mode : FilterMode) {rules : List FilterRule}
    (filled : rules ≠ []) (known : ∀ rule ∈ rules, rule.column ∈ columns)
    (listed : ∀ rule ∈ rules, rule.op = .isIn → listItems rule.value ≠ [])
    (before : Option FilterMode) (same : before = none ∨ before = some mode) :
    readRules lowercase columns before (rulesTokens lowercase mode rules) =
      .ok (rules.map normal, if rules.length = 1 then before.getD .all else mode) := by
  induction rules generalizing before with
  | nil => exact absurd rfl filled
  | cons rule rules hypothesis =>
    have own := readRule_tokens lowercase (known rule List.mem_cons_self)
      (listed rule List.mem_cons_self)
    cases rules with
    | nil =>
      have read := own []
      rw [List.append_nil] at read
      rw [rulesTokens, readRules_eq, read]
      rfl
    | cons next rules =>
      have read := own (connector mode :: rulesTokens lowercase mode (next :: rules))
      have later := hypothesis (List.cons_ne_nil next rules)
        (fun other member => known other (List.mem_cons_of_mem rule member))
        (fun other member => listed other (List.mem_cons_of_mem rule member))
        (some mode) (Or.inr rfl)
      have fits : ¬(before ≠ none ∧ before ≠ some mode) := by
        rintro ⟨some_mode, other⟩
        exact same.elim some_mode other
      have several : (rule :: next :: rules).length ≠ 1 := by simp
      rw [rulesTokens, readRules_eq, read]
      · dsimp only
        rw [connectorMode_connector]
        dsimp only
        rw [if_neg fits, later, if_neg several]
        split <;> rfl
      · exact List.cons_ne_nil next rules

/-- Every text that is written for rules is read. -/
theorem parseTyped_format {columns : List Text} (mode : FilterMode) {rules : List FilterRule}
    (known : ∀ rule ∈ rules, rule.column ∈ columns)
    (listed : ∀ rule ∈ rules, rule.op = .isIn → listItems rule.value ≠ []) :
    parseTyped lowercase (formatFilterExpr lowercase rules mode) columns =
      .ok (rules.map normal, if 2 ≤ rules.length then mode else .all) := by
  rw [parseTyped, tokenize_rules lowercase mode listed]
  cases rules with
  | nil => rfl
  | cons rule rules =>
    have some_token : rulesTokens lowercase mode (rule :: rules) ≠ [] := by
      cases rules <;> exact List.cons_ne_nil _ _
    have read := readRules_tokens lowercase mode (List.cons_ne_nil rule rules) known listed none
      (Or.inl rfl)
    split
    · rename_i failed
      cases failed
    · rename_i none_left
      injection none_left with none_left
      exact absurd none_left some_token
    · rename_i found
      injection found with found
      rw [← found, read]
      cases rules with
      | nil => rfl
      | cons next rules =>
        rw [if_neg (by simp), if_pos (by simp)]

end Reading

section Claims

variable (lowercase : Lowercase)

/-- The text written for the rules is read as the same rules, and the same mode where there are
two rules for it to join. -/
def ReadsBack (columns : List Text) (rules : List FilterRule) (mode : FilterMode) : Prop :=
  parseFilterExpr lowercase (formatFilterExpr lowercase rules mode) columns =
    .ok (rules, if 2 ≤ rules.length then mode else .all)

/-- A rule that is all in its text: its column is there, and it has no value that is not
written, nor blanks around the items of a list. -/
structure Written (columns : List Text) (rule : FilterRule) : Prop where
  known : rule.column ∈ columns
  valueless : needsValue rule.op = false → rule.value = []
  items : rule.op = .isIn → ∀ item ∈ rule.value.splitOn ',', trim item = item

/-- Every item that was typed in a list is one value of it for the engines. -/
def ReachesEngines (rules : List Typed) : Prop :=
  ∀ rule ∈ rules, rule.op = .isIn → inItems (Texts.trim rule.value) = rule.items

/-- An item without commas, blanks around it or nothing in it. -/
def Whole (item : Text) : Prop := ',' ∉ item ∧ Texts.trim item = item ∧ item ≠ []

theorem readItems_filled {parenthesised : Bool} {tokens : List Token} {items : List Text}
    (read : (readItems parenthesised tokens).items = some items)
    (closed : (readItems parenthesised tokens).unclosed = false) : items ≠ [] := by
  cases tokens with
  | nil => cases closed
  | cons item rest =>
    rw [readItems.eq_def] at read
    dsimp only at read
    split at read
    · cases read
    · split at read
      · cases read
        exact List.cons_ne_nil _ _
      · split at read
        · obtain ⟨later, -, same⟩ := Option.map_eq_some_iff.mp read
          rw [← same]
          exact List.cons_ne_nil _ _
        · split at read
          · split at read
            · cases read
              exact List.cons_ne_nil _ _
            · cases read
          · cases read
            exact List.cons_ne_nil _ _

/-- What is known of a rule that was read. -/
structure Typed.Sound (columns : List Text) (rule : Typed) : Prop where
  known : rule.column ∈ columns
  joined : rule.op = .isIn → rule.value = join [','] rule.items ∧ rule.items ≠ []

theorem readRest_sound {columns : List Text} {column : Text} (known : column ∈ columns)
    {op : FilterOp} {tokens behind : List Token} {rule : Typed}
    (read : readRest lowercase column op tokens = .ok (rule, behind)) :
    rule.Sound columns := by
  unfold readRest at read
  dsimp only at read
  split at read
  · split at read
    · cases read
    · cases read
    · rename_i items _ found
      split at read
      · cases read
      · rename_i closed
        split at read
        · cases read
          refine ⟨known, fun isList => ?_⟩
          dsimp only at isList
          split at isList <;> cases isList
        · cases read
          refine ⟨known, fun isList => ⟨rfl, ?_⟩⟩
          rw [Bool.not_eq_true] at closed
          have isIn : op = .isIn := isList
          cases tokens with
          | nil => cases found
          | cons first rest =>
            rw [readValue.eq_def] at found closed
            dsimp only at found closed
            rw [if_pos isIn] at found closed
            split at found
            · rename_i opens
              rw [if_pos opens] at closed
              exact readItems_filled found closed
            · rename_i bare
              rw [if_neg bare] at closed
              exact readItems_filled found closed
  · rename_i valueless
    cases read
    refine ⟨known, fun isList => ?_⟩
    have isIn : op = .isIn := isList
    rw [isIn] at valueless
    exact absurd rfl valueless

theorem readRule_sound {columns : List Text} {tokens behind : List Token} {rule : Typed}
    (read : readRule lowercase columns tokens = .ok (rule, behind)) : rule.Sound columns := by
  unfold readRule at read
  dsimp only at read
  split at read
  · cases read
  · split at read
    · cases read
    · split at read
      · cases read
      · rename_i resolved
        split at read
        · cases read
        · split at read
          · cases read
          · cases read
          · exact readRest_sound lowercase (resolveColumn_known lowercase resolved) read

theorem readRules_sound {columns : List Text} {mode : Option FilterMode} {tokens : List Token}
    {rules : List Typed} {found : FilterMode}
    (read : readRules lowercase columns mode tokens = .ok (rules, found)) :
    ∀ rule ∈ rules, rule.Sound columns := by
  induction size : tokens.length using Nat.strong_induction_on generalizing mode tokens rules found
  rename_i size hypothesis
  rw [readRules_eq] at read
  split at read
  · cases read
  · rename_i rule step
    cases read
    intro other only
    rw [List.mem_singleton.mp only]
    exact readRule_sound lowercase step
  · rename_i rule connector later step
    split at read
    · cases read
    · split at read
      · cases read
      · rename_i kind _ _
        cases rest : readRules lowercase columns (some kind) later with
        | error message =>
          rw [rest] at read
          cases read
        | ok behind =>
          rw [rest] at read
          cases read
          have shorter := readRule_length lowercase step
          rw [List.length_cons] at shorter
          intro other member
          rcases List.mem_cons.mp member with rfl | inside
          · exact readRule_sound lowercase step
          · exact hypothesis later.length (by omega) rest rfl other inside

theorem parseTyped_sound {source : Text} {columns : List Text} {rules : List Typed}
    {mode : FilterMode} (read : parseTyped lowercase source columns = .ok (rules, mode)) :
    ∀ rule ∈ rules, rule.Sound columns := by
  unfold parseTyped at read
  split at read
  · cases read
  · cases read
    intro rule member
    cases member
  · exact readRules_sound lowercase read

/-- Pieces between commas are read back from the text they are joined to. -/
theorem pieces_join {strip : Text → Text} {items : List Text}
    (each : ∀ item ∈ items, ',' ∉ item ∧ strip item = item ∧ item ≠ []) (filled : items ≠ []) :
    (((join [','] items).splitOn ',').map strip).filter (fun piece => decide (piece ≠ [])) =
      items := by
  have split : (join [','] items).splitOn ',' = items :=
    List.splitOn_intercalate ',' (fun item member => (each item member).1) filled
  have same : items.map strip = items := by
    rw [List.map_congr_left fun item member => (each item member).2.1, List.map_id']
  rw [split, same, List.filter_eq_self]
  exact fun item member => decide_eq_true (each item member).2.2

theorem join_head {items : List Text} (filled : items ≠ []) (each : ∀ item ∈ items, item ≠ []) :
    (∃ item ∈ items, (join [','] items).head? = item.head?) ∧
      ∃ item ∈ items, (join [','] items).getLast? = item.getLast? := by
  induction items with
  | nil => exact absurd rfl filled
  | cons item items hypothesis =>
    cases items with
    | nil =>
      rw [join_singleton]
      exact ⟨⟨item, List.mem_cons_self, rfl⟩, item, List.mem_cons_self, rfl⟩
    | cons next items =>
      obtain ⟨-, other, member, last⟩ := hypothesis (List.cons_ne_nil next items)
        fun d inside => each d (List.mem_cons_of_mem item inside)
      rw [join_cons_cons]
      refine ⟨⟨item, List.mem_cons_self, ?_⟩, other, List.mem_cons_of_mem item member, ?_⟩
      · rw [List.head?_append_of_ne_nil _ (each item List.mem_cons_self)]
      · have some_last : (join [','] (next :: items)).getLast? ≠ none := by
          rw [last, ne_eq, List.getLast?_eq_none_iff]
          exact each other (List.mem_cons_of_mem item member)
        have behind : join [','] (next :: items) ≠ [] := by
          rw [ne_eq, ← List.getLast?_eq_none_iff]
          exact some_last
        have more : [','] ++ join [','] (next :: items) ≠ [] := List.cons_ne_nil _ _
        rw [List.getLast?_append_of_ne_nil _ more, List.getLast?_append_of_ne_nil _ behind, last]

theorem reachesEngines_iff {columns : List Text} {rules : List Typed}
    (sound : ∀ rule ∈ rules, rule.Sound columns) :
    ReachesEngines rules ↔ ∀ rule ∈ rules, rule.op = .isIn → ∀ item ∈ rule.items, Whole item := by
  constructor
  · intro reaches rule member isList item inside
    rw [← reaches rule member isList] at inside
    obtain ⟨mapped, visible⟩ := List.mem_filter.mp inside
    obtain ⟨piece, within, rfl⟩ := List.mem_map.mp mapped
    have apart := Texts.not_mem_splitOn ',' _ piece within
    refine ⟨fun comma => apart ?_, Texts.trim_trim piece, of_decide_eq_true visible⟩
    exact (Texts.strip_sublist Chars.isWhitespace piece).subset comma
  · intro whole rule member isList
    obtain ⟨value, filled⟩ := (sound rule member).joined isList
    have each := whole rule member isList
    have trimmed : Texts.trim (join [','] rule.items) = join [','] rule.items := by
      obtain ⟨⟨first, inside, starts⟩, last, within, ends⟩ :=
        join_head filled fun item inside => (each item inside).2.2
      apply Texts.trim_of_ends
      · intro c head
        rw [starts] at head
        exact (Texts.ends_of_trim (each first inside).2.1).1 c head
      · intro c final
        rw [ends] at final
        exact (Texts.ends_of_trim (each last within).2.1).2 c final
    rw [value, trimmed]
    exact pieces_join each filled

theorem listItems_eq {value : Text} (filled : ∀ item ∈ value.splitOn ',', trim item ≠ []) :
    listItems value = (value.splitOn ',').map trim := by
  rw [listItems, List.filter_eq_self]
  intro item member
  obtain ⟨piece, inside, rfl⟩ := List.mem_map.mp member
  exact decide_eq_true (filled piece inside)

/-- A rule that is read back as it is, where its values have no blanks around them. -/
theorem normal_eq_iff {columns : List Text} {rule : FilterRule} (known : rule.column ∈ columns)
    (trimmed : trim rule.value = rule.value)
    (filled : rule.op = .isIn → ∀ item ∈ rule.value.splitOn ',', trim item ≠ []) :
    (normal rule).toFilterRule = rule ↔ Written columns rule := by
  obtain ⟨column, op, value⟩ := rule
  dsimp only at known trimmed filled
  have value_eq : (normal ⟨column, op, value⟩).toFilterRule = ⟨column, op, value⟩ ↔
      (normal ⟨column, op, value⟩).value = value := by
    unfold normal
    dsimp only
    split <;> simp
  rw [value_eq]
  unfold normal
  dsimp only
  split
  · rename_i needs
    dsimp only
    split
    · rename_i isList
      subst isList
      have pieces := listItems_eq (filled rfl)
      constructor
      · intro same
        refine ⟨known, fun valueless => absurd (needs.symm.trans valueless) Bool.noConfusion, ?_⟩
        intro _
        have split : ((join [','] (listItems value)).splitOn ',') = listItems value := by
          apply List.splitOn_intercalate
          · intro item member comma
            rw [pieces] at member
            obtain ⟨piece, inside, rfl⟩ := List.mem_map.mp member
            exact Texts.not_mem_splitOn ',' value piece inside
              ((Texts.strip_sublist Browser.isSpace piece).subset comma)
          · rw [pieces, ne_eq, List.map_eq_nil_iff]
            exact List.splitOn_ne_nil ',' value
        rw [same, pieces] at split
        have each : (value.splitOn ',').map trim = (value.splitOn ',').map id := by
          rw [List.map_id, ← split]
        exact fun item member => List.map_inj_left.mp each item member
      · intro written
        have same : (value.splitOn ',').map trim = value.splitOn ',' := by
          rw [List.map_congr_left (written.items rfl), List.map_id']
        rw [pieces, same]
        exact List.intercalate_splitOn ','
    · rename_i single
      rw [join_singleton, trimmed]
      refine iff_of_true rfl ⟨known, ?_, fun isList => absurd isList single⟩
      exact fun valueless => absurd (needs.symm.trans valueless) Bool.noConfusion
  · rename_i needless
    constructor
    · intro same
      refine ⟨known, fun _ => same.symm, fun isList => ?_⟩
      have isIn : op = .isIn := isList
      rw [isIn] at needless
      exact absurd rfl needless
    · intro written
      exact (written.valueless (Bool.eq_false_iff.mpr needless)).symm

theorem readsBack_iff {columns : List Text} {rules : List FilterRule} (mode : FilterMode)
    (trimmed : ∀ rule ∈ rules, trim rule.value = rule.value)
    (filled : ∀ rule ∈ rules, rule.op = .isIn → ∀ item ∈ rule.value.splitOn ',', trim item ≠ []) :
    ReadsBack lowercase columns rules mode ↔ ∀ rule ∈ rules, Written columns rule := by
  have listed : ∀ rule ∈ rules, rule.op = .isIn → listItems rule.value ≠ [] := by
    intro rule member isList
    rw [listItems_eq (filled rule member isList), ne_eq, List.map_eq_nil_iff]
    exact List.splitOn_ne_nil ',' rule.value
  have back : (∀ rule ∈ rules, rule.column ∈ columns) →
      (ReadsBack lowercase columns rules mode ↔
        ∀ rule ∈ rules, (normal rule).toFilterRule = rule) := by
    intro known
    unfold ReadsBack parseFilterExpr
    rw [parseTyped_format lowercase mode known listed]
    show Except.ok _ = Except.ok _ ↔ _
    rw [Except.ok.injEq, Prod.mk.injEq, and_iff_left rfl, List.map_map]
    constructor
    · intro same
      have each : rules.map (Typed.toFilterRule ∘ normal) = rules.map id := by
        rw [List.map_id, same]
      exact fun rule member => List.map_inj_left.mp each rule member
    · intro each
      exact (List.map_congr_left (g := id) each).trans (List.map_id rules)
  constructor
  · intro reads
    have known : ∀ rule ∈ rules, rule.column ∈ columns := by
      have read := reads
      unfold ReadsBack parseFilterExpr at read
      cases parsed : parseTyped lowercase (formatFilterExpr lowercase rules mode) columns with
      | error message =>
        rw [parsed] at read
        cases read
      | ok found =>
        rw [parsed] at read
        injection read with read
        injection read with same _
        intro rule member
        rw [← same] at member
        obtain ⟨typed, inside, rfl⟩ := List.mem_map.mp member
        exact (parseTyped_sound lowercase parsed typed inside).known
    intro rule member
    exact (normal_eq_iff (known rule member) (trimmed rule member) (filled rule member)).mp
      ((back known).mp reads rule member)
  · intro written
    refine (back fun rule member => (written rule member).known).mpr fun rule member => ?_
    exact (normal_eq_iff (written rule member).known (trimmed rule member)
      (filled rule member)).mpr (written rule member)

/-- A typed filter is the filter: both ways, exactly where the text can hold the rules and the
rules the items. -/
theorem typed_filter_iff :
    (∀ (columns : List Text) (rules : List FilterRule) (mode : FilterMode),
      (∀ rule ∈ rules, trim rule.value = rule.value) →
      (∀ rule ∈ rules, rule.op = .isIn → ∀ item ∈ rule.value.splitOn ',', trim item ≠ []) →
        (ReadsBack lowercase columns rules mode ↔ ∀ rule ∈ rules, Written columns rule)) ∧
      ∀ (source : Text) (columns : List Text) (rules : List Typed) (mode : FilterMode),
        parseTyped lowercase source columns = .ok (rules, mode) →
          (ReachesEngines rules ↔
            ∀ rule ∈ rules, rule.op = .isIn → ∀ item ∈ rule.items, Whole item) :=
  ⟨fun _ _ mode trimmed filled => readsBack_iff lowercase mode trimmed filled,
    fun _ _ _ _ read => reachesEngines_iff (parseTyped_sound lowercase read)⟩

/-- The ASCII part of lower-casing. -/
def asciiLowercase : Lowercase where
  lower := Texts.toAsciiLowercase
  plain _ small := Texts.toAsciiLowercase_small small

/-- `name in ('a,b')`: one item is typed, and the engines get two. -/
theorem quoted_comma_is_split :
    ¬∀ (lowercase : Lowercase) (source : Text) (columns : List Text) (rules : List Typed)
        (mode : FilterMode),
      parseTyped lowercase source columns = .ok (rules, mode) → ReachesEngines rules := by
  intro all
  have tokens : tokenize "name in ('a,b')".toList =
      .ok (word "name" :: (opTokens .isIn ++
        symbol "(" :: listTokens asciiLowercase ["a,b".toList])) := by
    have finished : tokenize [] = .ok [] := by rw [tokenize]
    have whole := reads_spaced (reads_plain "name".toList (by decide) (by decide))
      (reads_spaced (reads_operator .isIn)
        (reads_list asciiLowercase (List.cons_ne_nil "a,b".toList []))) [] ends_nil
    rw [finished] at whole
    exact whole
  have read : parseTyped asciiLowercase "name in ('a,b')".toList ["name".toList] =
      .ok ([{ column := "name".toList, op := .isIn, value := "a,b".toList,
              items := ["a,b".toList] }], .all) := by
    unfold parseTyped
    rw [tokens]
    dsimp only
    rw [readRules_eq]
    rfl
  have reaches := all _ _ _ _ _ read _ List.mem_cons_self rfl
  exact absurd reaches (by decide)

/-- A rule for `name in (a, b)`, written and read. -/
theorem named_list_reads_back :
    (ReadsBack asciiLowercase ["name".toList] [⟨"name".toList, .isIn, "a,b".toList⟩] .all ↔
        ∀ rule ∈ [FilterRule.mk "name".toList .isIn "a,b".toList],
          Written ["name".toList] rule) ∧
      (ReachesEngines [normal ⟨"name".toList, .isIn, "a,b".toList⟩] ↔
        ∀ rule ∈ [normal ⟨"name".toList, .isIn, "a,b".toList⟩], rule.op = .isIn →
          ∀ item ∈ rule.items, Whole item) := by
  obtain ⟨back, reaches⟩ := typed_filter_iff asciiLowercase
  have read := @parseTyped_format asciiLowercase ["name".toList] .all
    [⟨"name".toList, .isIn, "a,b".toList⟩] (by decide) (by decide)
  exact ⟨back ["name".toList] _ .all (by decide) (by decide), reaches _ _ _ _ read⟩

end Claims

end DbFree.FilterExpr
