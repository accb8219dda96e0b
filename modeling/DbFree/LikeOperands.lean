import DbFree.LikePatterns
import DbFree.SqlReading

/- The right-hand side of LIKE (integrations/sql.rs, `like_operand`), and the texts that match it
as the engine reads the literal and the pattern in it. -/
namespace DbFree.SqlText

open QuotedTexts LikePatterns

/-- The character patterns escape with where the engine has an ESCAPE clause. -/
def likeEscape : Char := '!'

def likeOperand (engine : Engine) (value before after : Text) : Text :=
  if engine.family = .clickhouse ∨ engine.family = .bigquery then
    let escaped := replaceChar (replaceChar (replaceChar value '\\' ['\\', '\\']) '%' ['\\', '%'])
      '_' ['\\', '_']
    quoteLiteralFor engine (before ++ escaped ++ after)
  else if value.any (· ∈ ['%', '_', '\\', likeEscape]) then
    let escaped := value.flatMap fun c =>
      if c ∈ ['%', '_', likeEscape] then [likeEscape, c] else [c]
    quoteLiteralFor engine (before ++ escaped ++ after) ++ " ESCAPE '".toList ++ [likeEscape] ++
      ['\'']
  else quoteLiteralFor engine (before ++ value ++ after)

/-- What engines leave open: what a backslash makes of other characters in a literal, whether it
escapes in patterns without an ESCAPE clause, the case rule, and what sets in brackets hold. -/
structure LikeRules where
  other : Char → Text
  backslash : Bool
  case : CaseRule
  holds : List Token → Char → Prop

/-- The escape character of a pattern that names none. -/
def defaultEscape (rules : LikeRules) : Family → Option Char
  | .clickhouse | .bigquery => some '\\'
  | _ => if rules.backslash then some '\\' else none

/-- How operands are read: the literals, the escape character of a pattern that names none, and
whether patterns have sets. -/
structure Reading where
  strings : Rules
  escape : Option Char
  sets : Bool

/-- An engine's way; only SQL Server has sets. -/
def engineReading (rules : LikeRules) (family : Family) : Reading :=
  ⟨stringRules rules.other family, defaultEscape rules family, decide (family = .mssql)⟩

/-- The escape character of an ESCAPE clause. -/
def readEscape (strings : Rules) (rest : Text) : Option Char :=
  if rest.take 8 = " ESCAPE ".toList then
    match readQuoted strings (rest.drop 8) with
    | some ([c], []) => some c
    | _ => none
  else none

/-- The pattern of an operand and its escape character. -/
def readOperand (reading : Reading) (operand : Text) : Option (Text × Option Char) :=
  (readQuoted reading.strings operand).bind fun read =>
    if read.2 = [] then some (read.1, reading.escape)
    else (readEscape reading.strings read.2).map fun c => (read.1, some c)

/-- The items of the operand's pattern. -/
def operandItems (reading : Reading) (operand : Text) : Option (List Item) :=
  (readOperand reading operand).bind fun read => readPattern read.2 reading.sets read.1

/-- `text LIKE operand` is true. -/
def IsLike (rules : LikeRules) (family : Family) (operand text : Text) : Prop :=
  ∃ list, operandItems (engineReading rules family) operand = some list ∧
    Matches rules.case rules.holds list text

/-- A wildcard on an open side. -/
def percent (isOpen : Bool) : Text := if isOpen then ['%'] else []

/-- How one character of a value is spelled in a pattern. -/
def patternSpelled (escape : Option Char) (c : Char) : Text :=
  match escape with
  | none => [c]
  | some mark => if c = '%' ∨ c = '_' ∨ c = mark then [mark, c] else [c]

def patternToken (escape : Option Char) (c : Char) : Token :=
  match escape with
  | none => (false, c)
  | some mark => if c = '%' ∨ c = '_' ∨ c = mark then (true, c) else (false, c)

/-- The escape character a value's pattern is written with. -/
def escapeFor (rules : LikeRules) (family : Family) (value : Text) : Option Char :=
  if family = .clickhouse ∨ family = .bigquery then some '\\'
  else if value.any (· ∈ ['%', '_', '\\', likeEscape]) then some likeEscape
  else defaultEscape rules family

/-- The ESCAPE clause a value asks for. -/
def clauseFor (family : Family) (value : Text) : Text :=
  if family = .clickhouse ∨ family = .bigquery then []
  else if value.any (· ∈ ['%', '_', '\\', likeEscape]) then
    " ESCAPE '".toList ++ [likeEscape] ++ ['\'']
  else []

variable {rules : LikeRules} {engine : Engine} {family : Family} {value : Text}

theorem escapes_backslash (value : Text) :
    replaceChar (replaceChar (replaceChar value '\\' ['\\', '\\']) '%' ['\\', '%']) '_'
        ['\\', '_'] = value.flatMap (patternSpelled (some '\\')) := by
  rw [replaceChar, replaceChar, replaceChar, List.flatMap_assoc, List.flatMap_assoc]
  congr 1
  funext c
  by_cases backslash : c = '\\'
  · subst backslash
    decide
  · by_cases percent : c = '%'
    · subst percent
      decide
    · by_cases underscore : c = '_'
      · subst underscore
        decide
      · simp [patternSpelled, backslash, percent, underscore]

theorem patternSpelled_plain {escape : Option Char} {c : Char} (notMany : c ≠ '%')
    (notOne : c ≠ '_') (notEscape : escape ≠ some c) : patternSpelled escape c = [c] := by
  cases escape with
  | none => rfl
  | some mark =>
    have notMark : c ≠ mark := fun same => notEscape (congrArg some same.symm)
    rw [patternSpelled, if_neg]
    rintro (same | same | same) <;> contradiction

theorem patternToken_plain {escape : Option Char} {c : Char} (notMany : c ≠ '%')
    (notOne : c ≠ '_') (notEscape : escape ≠ some c) : patternToken escape c = (false, c) := by
  cases escape with
  | none => rfl
  | some mark =>
    have notMark : c ≠ mark := fun same => notEscape (congrArg some same.symm)
    rw [patternToken, if_neg]
    rintro (same | same | same) <;> contradiction

theorem defaultEscape_cases (rules : LikeRules) (family : Family) :
    defaultEscape rules family = none ∨ defaultEscape rules family = some '\\' := by
  have byDefault : (if rules.backslash then some '\\' else none) = none ∨
      (if rules.backslash then some '\\' else none) = some '\\' := by
    cases rules.backslash with
    | true => exact Or.inr rfl
    | false => exact Or.inl rfl
  cases family <;> first | exact byDefault | exact Or.inr rfl

/-- What a value holds when its pattern names no escape character. -/
theorem plain_of_any {c : Char} (none : value.any (· ∈ ['%', '_', '\\', likeEscape]) = false)
    (member : c ∈ value) : c ≠ '%' ∧ c ≠ '_' ∧ c ≠ '\\' ∧ c ≠ likeEscape := by
  have outside := List.any_eq_false.mp none c member
  simpa using outside

theorem likeOperand_eq (rules : LikeRules) (engine : Engine) (value before after : Text) :
    likeOperand engine value before after =
      quoteLiteralFor engine
          (before ++ value.flatMap (patternSpelled (escapeFor rules engine.family value)) ++
            after) ++
        clauseFor engine.family value := by
  rw [likeOperand, escapeFor, clauseFor]
  split
  · rw [escapes_backslash, List.append_nil]
  · split
    · rw [List.append_assoc, List.append_assoc, ← List.append_assoc " ESCAPE '".toList]
      congr 5
      funext c
      simp [patternSpelled]
    · next special =>
      rw [Bool.not_eq_true] at special
      have plain : value.flatMap (patternSpelled (defaultEscape rules engine.family)) = value := by
        conv_rhs => rw [← List.flatMap_singleton' value]
        apply List.flatMap_congr
        intro c member
        obtain ⟨notMany, notOne, notBackslash, -⟩ := plain_of_any special member
        apply patternSpelled_plain notMany notOne
        rcases defaultEscape_cases rules engine.family with none | backslash
        · rw [none]
          nofun
        · rw [backslash]
          exact fun same => notBackslash (Option.some.inj same).symm
      rw [plain, List.append_nil]

theorem clauseFor_apart (family : Family) (value : Text) :
    (clauseFor family value).head? ≠ some '\'' := by
  rw [clauseFor]
  split
  · nofun
  · split
    · decide
    · nofun

/-- The reading of an engine's literals and patterns, where nothing bars the value. -/
structure ReadsFor (reading : Reading) (rules : LikeRules) (family : Family) (value : Text) :
    Prop where
  strings : Reads reading.strings rules.other family
  escape : reading.escape = defaultEscape rules family
  allowed : ∀ c, c ∈ value ∨ c = '%' ∨ c = '\\' ∨ c = '!' → reading.strings.barred c = false

theorem reads_engineReading (rules : LikeRules) (holdable : Holdable family value) :
    ReadsFor (engineReading rules family) rules family value where
  strings := reads_stringRules
  escape := rfl
  allowed := by
    rintro c (member | rfl | rfl | rfl)
    · exact not_barred holdable member
    all_goals exact decide_eq_false fun wrong => absurd wrong.2 (by decide)

variable {reading : Reading}

/-- The clause, or its absence, says which escape character the pattern has. -/
theorem readEscape_clauseFor (reads : ReadsFor reading rules family value) (pattern : Text) :
    (if clauseFor family value = [] then some (pattern, reading.escape)
      else (readEscape reading.strings (clauseFor family value)).map fun c => (pattern, some c)) =
      some (pattern, escapeFor rules family value) := by
  rw [clauseFor, escapeFor, reads.escape]
  split
  · next special =>
    rcases special with rfl | rfl <;> rfl
  · split
    · have allowed : reading.strings.barred '!' = false :=
        reads.allowed '!' (Or.inr (Or.inr (Or.inr rfl)))
      have read : readQuoted reading.strings ("'!'".toList) = some (['!'], []) :=
        readQuoted_spelled
          (spells_plain (by decide) (fun wrong => absurd wrong (by decide)) allowed) (by decide)
      have escape : readEscape reading.strings (" ESCAPE '".toList ++ [likeEscape] ++ ['\'']) =
          some '!' := by
        have back : (" ESCAPE '".toList ++ [likeEscape] ++ ['\'']).drop 8 = "'!'".toList := by
          decide
        rw [readEscape, if_pos (by decide), back, read]
      rw [if_neg (by decide), escape]
      rfl
    · rw [if_pos rfl]

/-- The characters that spell a value in a pattern: its own, a mark and wildcards. -/
theorem mem_pattern_iff (value : Text) {escape : Option Char} {c : Char}
    (notMark : escape ≠ some c) (notMany : c ≠ '%') (openStart openEnd : Bool) :
    c ∈ percent openStart ++ value.flatMap (patternSpelled escape) ++ percent openEnd ↔
      c ∈ value := by
  have outside : ∀ isOpen, c ∉ percent isOpen := by
    intro isOpen
    cases isOpen <;> simp [percent, notMany]
  have spelled : ∀ d, c ∈ patternSpelled escape d ↔ c = d := by
    intro d
    cases escape with
    | none => exact List.mem_singleton
    | some mark =>
      have apart : c ≠ mark := fun same => notMark (congrArg some same.symm)
      rw [patternSpelled]
      split <;> simp [apart]
  rw [List.mem_append, List.mem_append, List.mem_flatMap]
  constructor
  · rintro ((front | ⟨d, member, inSpelled⟩) | back)
    · exact absurd front (outside openStart)
    · rwa [(spelled d).mp inSpelled]
    · exact absurd back (outside openEnd)
  · intro member
    exact Or.inl (Or.inr ⟨c, member, (spelled c).mpr rfl⟩)

theorem escapeFor_cases (rules : LikeRules) (family : Family) (value : Text) :
    escapeFor rules family value = none ∨ escapeFor rules family value = some '\\' ∨
      escapeFor rules family value = some '!' := by
  rw [escapeFor]
  split
  · exact Or.inr (Or.inl rfl)
  · split
    · exact Or.inr (Or.inr rfl)
    · rcases defaultEscape_cases rules family with none | backslash
      · exact Or.inl none
      · exact Or.inr (Or.inl backslash)

theorem escapeFor_ne (rules : LikeRules) (family : Family) (value : Text) {c : Char}
    (notBackslash : c ≠ '\\') (notMark : c ≠ '!') : escapeFor rules family value ≠ some c := by
  rcases escapeFor_cases rules family value with same | same | same
  · rw [same]
    nofun
  · rw [same]
    exact fun wrong => notBackslash (Option.some.inj wrong).symm
  · rw [same]
    exact fun wrong => notMark (Option.some.inj wrong).symm

/-- The pattern of a value, open at its start or end. -/
def patternFor (rules : LikeRules) (family : Family) (value : Text) (openStart openEnd : Bool) :
    Text :=
  percent openStart ++ value.flatMap (patternSpelled (escapeFor rules family value)) ++
    percent openEnd

theorem holdable_patternFor_iff (rules : LikeRules) (openStart openEnd : Bool) :
    Holdable family (patternFor rules family value openStart openEnd) ↔ Holdable family value := by
  have newline := mem_pattern_iff value (escapeFor_ne rules family value (c := '\n')
    (by decide) (by decide)) (by decide) openStart openEnd
  have ret := mem_pattern_iff value (escapeFor_ne rules family value (c := '\r')
    (by decide) (by decide)) (by decide) openStart openEnd
  rw [Holdable, Holdable, patternFor, newline, ret]

theorem allowed_patternFor (reads : ReadsFor reading rules family value) (openStart openEnd : Bool)
    {c : Char} (member : c ∈ patternFor rules family value openStart openEnd) :
    reading.strings.barred c = false := by
  apply reads.allowed
  by_cases percent : c = '%'
  · exact Or.inr (Or.inl percent)
  · by_cases special : c = '\\' ∨ c = '!'
    · exact Or.inr (Or.inr special)
    · rw [not_or] at special
      exact Or.inl ((mem_pattern_iff value (escapeFor_ne rules family value special.1 special.2)
        percent openStart openEnd).mp member)

/-- The reader finds the pattern that was written, and the escape character it was written with. -/
theorem readOperand_likeOperand (reads : ReadsFor reading rules engine.family value)
    (openStart openEnd : Bool) :
    readOperand reading (likeOperand engine value (percent openStart) (percent openEnd)) =
      some (patternFor rules engine.family value openStart openEnd,
        escapeFor rules engine.family value) := by
  have read := readQuoted_quoteLiteralFor reads.strings
    (fun c member => allowed_patternFor reads openStart openEnd member)
    (clauseFor_apart engine.family value)
  rw [readOperand, likeOperand_eq rules, ← patternFor, read, Option.bind_some]
  exact readEscape_clauseFor reads _

theorem operandItems_unholdable (rules : LikeRules) (openStart openEnd : Bool)
    (unholdable : ¬Holdable engine.family value) :
    operandItems (engineReading rules engine.family)
      (likeOperand engine value (percent openStart) (percent openEnd)) = none := by
  have unread := readQuoted_unholdable rules.other
    (mt (holdable_patternFor_iff rules openStart openEnd).mp unholdable)
    (clauseFor engine.family value)
  rw [operandItems, readOperand, likeOperand_eq rules, ← patternFor, engineReading, unread]
  rfl

theorem tokens_percent {escape : Option Char} (notMark : escape ≠ some '%') (isOpen : Bool)
    (rest : Text) :
    tokens escape (percent isOpen ++ rest) =
      (tokens escape rest).map ((percent isOpen).map (fun c => (false, c)) ++ ·) := by
  cases isOpen with
  | true => exact tokens_plain notMark rest
  | false => exact Option.map_id'.symm

/-- The tokens of a pattern: the wildcards and the value's characters, escaped or not. -/
theorem tokens_patternFor (openStart openEnd : Bool) :
    tokens (escapeFor rules family value) (patternFor rules family value openStart openEnd) =
      some ((percent openStart).map (fun c => (false, c)) ++
        (value.map (patternToken (escapeFor rules family value)) ++
          (percent openEnd).map fun c => (false, c))) := by
  have notMark := escapeFor_ne rules family value (c := '%') (by decide) (by decide)
  have inner : ∀ c ∈ value, ∀ rest, tokens (escapeFor rules family value)
      (patternSpelled (escapeFor rules family value) c ++ rest) =
        (tokens (escapeFor rules family value) rest).map
          (patternToken (escapeFor rules family value) c :: ·) := by
    intro c _ rest
    cases escape : escapeFor rules family value with
    | none => exact tokens_plain (by simp) rest
    | some mark =>
      rw [patternSpelled, patternToken]
      split
      · exact tokens_escaped c rest
      · next plain =>
        exact tokens_plain (fun same => plain (Or.inr (Or.inr (Option.some.inj same).symm))) rest
  have ending := tokens_percent notMark openEnd []
  rw [List.append_nil, tokens] at ending
  rw [patternFor, List.append_assoc, tokens_percent notMark, tokens_flatMap inner, ending]
  simp

/-- Only an opening bracket of a value may not stand for itself, where there are sets. -/
theorem patternToken_cases (rules : LikeRules) (family : Family) (value : Text) {sets : Bool}
    {c : Char} (member : c ∈ value) (noSet : ¬(sets = true ∧ c = '[')) :
    patternToken (escapeFor rules family value) c = (true, c) ∨
      (patternToken (escapeFor rules family value) c = (false, c) ∧ c ≠ '%' ∧ c ≠ '_' ∧
        ¬(sets = true ∧ c = '[')) := by
  have marked : ∀ mark, patternToken (some mark) c = (true, c) ∨
      (patternToken (some mark) c = (false, c) ∧ c ≠ '%' ∧ c ≠ '_' ∧
        ¬(sets = true ∧ c = '[')) := by
    intro mark
    rw [patternToken]
    split
    · exact Or.inl rfl
    · next plain =>
      exact Or.inr ⟨rfl, fun same => plain (Or.inl same), fun same => plain (Or.inr (Or.inl same)),
        noSet⟩
  rw [escapeFor]
  split
  · exact marked '\\'
  · split
    · exact marked likeEscape
    · next special =>
      rw [Bool.not_eq_true] at special
      obtain ⟨notMany, notOne, -⟩ := plain_of_any special member
      rcases defaultEscape_cases rules family with none | backslash
      · rw [none]
        exact Or.inr ⟨rfl, notMany, notOne, noSet⟩
      · rw [backslash]
        exact marked '\\'

/-- Where no bracket opens a set the pattern asks for the value between its wildcards. -/
theorem operandItems_likeOperand (reads : ReadsFor reading rules engine.family value)
    (noSet : ¬(reading.sets = true ∧ '[' ∈ value)) (openStart openEnd : Bool) :
    operandItems reading (likeOperand engine value (percent openStart) (percent openEnd)) =
      some (wildcard openStart ++ (value.map .exactly ++ wildcard openEnd)) := by
  have apart : ∀ c ∈ value, ¬(reading.sets = true ∧ c = '[') := by
    rintro c member ⟨sets, rfl⟩
    exact noSet ⟨sets, member⟩
  have ending : items reading.sets none ((percent openEnd).map fun c => (false, c)) =
      some (wildcard openEnd) := by
    cases openEnd <;> rfl
  have middle : items reading.sets none
      (value.map (patternToken (escapeFor rules engine.family value)) ++
        (percent openEnd).map fun c => (false, c)) =
      some (value.map .exactly ++ wildcard openEnd) := by
    rw [items_exactly fun c member =>
      patternToken_cases rules engine.family value member (apart c member), ending]
    rfl
  rw [operandItems, readOperand_likeOperand reads, Option.bind_some, readPattern,
    tokens_patternFor, Option.bind_some]
  cases openStart with
  | true => exact congrArg (Option.map (Item.many :: ·)) middle
  | false => exact middle

/-- Where a bracket opens a set the pattern does not ask for the value. -/
theorem bracket_differs (rules : LikeRules) (bracket : engine.family = .mssql ∧ '[' ∈ value)
    (openStart openEnd : Bool) :
    ¬∀ text, IsLike rules engine.family
        (likeOperand engine value (percent openStart) (percent openEnd)) text ↔
      Stands rules.case openStart openEnd value text := by
  obtain ⟨isMssql, member⟩ := bracket
  have holdable : Holdable engine.family value := by
    intro isBigquery
    rw [isMssql] at isBigquery
    cases isBigquery
  have isFound : operandItems (engineReading rules engine.family)
      (likeOperand engine value (percent openStart) (percent openEnd)) =
        items true none ((percent openStart).map (fun c => (false, c)) ++
          (value.map (patternToken (escapeFor rules engine.family value)) ++
            (percent openEnd).map fun c => (false, c))) := by
    rw [operandItems, readOperand_likeOperand (reads_engineReading rules holdable),
      Option.bind_some, readPattern, tokens_patternFor, Option.bind_some, engineReading, isMssql]
    rfl
  have opens : patternToken (escapeFor rules engine.family value) '[' = (false, '[') :=
    patternToken_plain (by decide) (by decide)
      (escapeFor_ne rules engine.family value (by decide) (by decide))
  refine bracket_apart isFound ?_ ?_ openStart openEnd
  · refine List.mem_append_right _ (List.mem_append_left _ ?_)
    rw [← opens]
    exact List.mem_map_of_mem member
  · have free : ∀ isOpen, cost ((percent isOpen).map fun c => (false, c)) = 0 := by decide
    have inner := cost_le_length (value.map (patternToken (escapeFor rules engine.family value)))
    rw [List.length_map] at inner
    rw [cost_append, cost_append, free, free]
    omega

/-- The pattern asks for the value itself, at the start, at the end or anywhere, exactly if a
literal can hold the value and no bracket of it opens a set. -/
theorem like_literal_iff (rules : LikeRules) (engine : Engine) (value : Text) :
    (∀ text,
      (IsLike rules engine.family (likeOperand engine value ['%'] ['%']) text ↔
        Stands rules.case true true value text) ∧
      (IsLike rules engine.family (likeOperand engine value [] ['%']) text ↔
        Stands rules.case false true value text) ∧
      (IsLike rules engine.family (likeOperand engine value ['%'] []) text ↔
        Stands rules.case true false value text)) ↔
    Holdable engine.family value ∧ ¬(engine.family = .mssql ∧ '[' ∈ value) := by
  constructor
  · intro agree
    constructor
    · by_contra unholdable
      have stands : Stands rules.case true true value value := stands_self true true
      obtain ⟨list, read, -⟩ := (agree value).1.mpr stands
      have unread := operandItems_unholdable rules true true unholdable
      cases unread.symm.trans read
    · intro bracket
      exact bracket_differs rules bracket true true fun text => (agree text).1
  · rintro ⟨holdable, noSet⟩ text
    have likes : ∀ openStart openEnd, IsLike rules engine.family
        (likeOperand engine value (percent openStart) (percent openEnd)) text ↔
          Stands rules.case openStart openEnd value text := by
      intro openStart openEnd
      have isSets : ¬((engineReading rules engine.family).sets = true ∧ '[' ∈ value) :=
        fun both => noSet ⟨of_decide_eq_true both.1, both.2⟩
      rw [IsLike, operandItems_likeOperand (reads_engineReading rules holdable) isSets,
        ← matches_stands rules.holds]
      constructor
      · rintro ⟨list, same, found⟩
        cases same
        exact found
      · exact fun found => ⟨_, rfl, found⟩
    exact ⟨likes true true, likes false true, likes true false⟩

/-- On SQL Server a filter for `[a]` finds the text `a`. -/
theorem bracket_finds_letter :
    ¬∀ (rules : LikeRules) (engine : Engine) (value text : Text),
      IsLike rules engine.family (likeOperand engine value ['%'] ['%']) text ↔
        Stands rules.case true true value text := by
  intro agree
  let rules : LikeRules := ⟨fun c => [c], false, ⟨Eq, fun _ => rfl⟩, fun set c => (false, c) ∈ set⟩
  have found : IsLike rules .mssql (likeOperand .mssql "[a]".toList ['%'] ['%']) ['a'] :=
    ⟨[.many, .oneOf [(false, 'a')], .many], by decide, [], ['a'], rfl, 'a', [], rfl,
      List.mem_singleton.mpr rfl, [], [], rfl, rfl⟩
  have stands := (agree rules .mssql "[a]".toList ['a']).mp found
  exact absurd (length_le_of_stands stands) (by decide)

end DbFree.SqlText
