import DbFree.ResultView

/- The language of the typed filter bar (lib/filterExpr.ts): text to rules and back. Where in the
text an error is, and completions, are left out. -/
namespace DbFree.FilterExpr

open SqlText
open Browser (isSpace trim)

/-- How each operator is typed. -/
def opText : FilterOp → Text
  | .eq => "=".toList
  | .ne => "!=".toList
  | .gt => ">".toList
  | .gte => ">=".toList
  | .lt => "<".toList
  | .lte => "<=".toList
  | .contains => "contains".toList
  | .notContains => "not contains".toList
  | .startsWith => "starts with".toList
  | .endsWith => "ends with".toList
  | .isIn => "in".toList
  | .isNull => "is null".toList
  | .isNotNull => "is not null".toList

def symbolOps : List (Text × FilterOp) :=
  [("=".toList, .eq), ("==".toList, .eq), ("!=".toList, .ne), ("<>".toList, .ne),
    (">".toList, .gt), (">=".toList, .gte), ("<".toList, .lt), ("<=".toList, .lte)]

def needsValue : FilterOp → Bool
  | .isNull | .isNotNull => false
  | _ => true

def keywords : List Text :=
  ["and", "or", "not", "in", "is", "null", "contains", "starts", "ends", "with", "like"].map
    String.toList

section Tokens

inductive TokenKind where
  | word | string | ident | symbol
deriving DecidableEq

/-- The text is decoded: no quotes, and doubled ones collapsed. -/
structure Token where
  kind : TokenKind
  text : Text
deriving DecidableEq

def symbols : List Text :=
  ["<=", ">=", "<>", "!=", "==", "=", "<", ">", ",", "(", ")"].map String.toList

def wordStop (c : Char) : Bool := isSpace c || c ∈ "=<>!(),'\"`".toList

def isQuote (c : Char) : Bool := c = '\'' || c = '"' || c = '`'

/-- What stands in quotes, and what is behind them. -/
def readQuoted (quote : Char) : Text → Option (Text × Text)
  | [] => none
  | [c] => if c = quote then some ([], []) else none
  | c :: d :: rest =>
    if c = quote then
      if d = quote then (readQuoted quote rest).map fun read => (quote :: read.1, read.2)
      else some ([], d :: rest)
    else (readQuoted quote (d :: rest)).map fun read => (c :: read.1, read.2)

/-- A quoted text ends behind where it starts. -/
theorem readQuoted_length (quote : Char) (text : Text) {content rest : Text}
    (read : readQuoted quote text = some (content, rest)) : rest.length < text.length := by
  induction text using readQuoted.induct quote generalizing content rest with
  | case1 => cases read
  | case2 =>
    rw [readQuoted, if_pos rfl] at read
    cases read
    exact Nat.zero_lt_one
  | case3 c other =>
    rw [readQuoted, if_neg other] at read
    cases read
  | case4 after hypothesis =>
    rw [readQuoted, if_pos rfl, if_pos rfl] at read
    obtain ⟨⟨inner, behind⟩, found, same⟩ := Option.map_eq_some_iff.mp read
    cases same
    have := hypothesis found
    simp only [List.length_cons]
    omega
  | case5 d after other =>
    rw [readQuoted, if_pos rfl, if_neg other] at read
    cases read
    exact Nat.lt_succ_self _
  | case6 c d after other hypothesis =>
    rw [readQuoted, if_neg other] at read
    obtain ⟨⟨inner, behind⟩, found, same⟩ := Option.map_eq_some_iff.mp read
    cases same
    have := hypothesis found
    simp only [List.length_cons] at this ⊢
    omega

/-- The first symbol, in the order of the table, that the text starts with. -/
def symbolAt (text : Text) : Option Text := symbols.find? fun symbol => symbol.isPrefixOf text

theorem symbolAt_nonempty {text symbol : Text} (found : symbolAt text = some symbol) :
    0 < symbol.length := by
  have each : ∀ symbol ∈ symbols, 0 < symbol.length := by decide
  exact each symbol (List.mem_of_find?_eq_some found)

/-- The tokens of a text, or what is wrong with it. -/
def tokenize (source : Text) : Except Text (List Token) :=
  match source with
  | [] => .ok []
  | ch :: rest =>
    if isSpace ch then tokenize rest
    else if isQuote ch then
      match _read : readQuoted ch rest with
      | none => .error "This quote is never closed.".toList
      | some (text, behind) =>
        (tokenize behind).map
          ({ kind := if ch = '\'' then .string else .ident, text := text } :: ·)
    else
      match _found : symbolAt (ch :: rest) with
      | some symbol =>
        (tokenize ((ch :: rest).drop symbol.length)).map ({ kind := .symbol, text := symbol } :: ·)
      | none =>
        if wordStop ch then .error ("Unexpected \"".toList ++ ch :: "\".".toList)
        else
          (tokenize (rest.dropWhile fun c => !wordStop c)).map
            ({ kind := .word, text := ch :: rest.takeWhile fun c => !wordStop c } :: ·)
termination_by source.length
decreasing_by
  · exact Nat.lt_succ_self _
  · exact Nat.lt_succ_of_lt (readQuoted_length ch rest _read)
  · have := symbolAt_nonempty _found
    simp only [List.length_drop, List.length_cons]
    omega
  · exact Nat.lt_succ_of_le (List.dropWhile_sublist _).length_le

end Tokens

section Parsing

/-- `String.prototype.toLowerCase`. -/
structure Lowercase where
  lower : Text → Text
  plain : ∀ text : Text, (text.all fun c => 'a' ≤ c && c ≤ 'z') = true → lower text = text

variable (lowercase : Lowercase)

def wordIs (token : Token) (word : String) : Bool :=
  token.kind = .word && lowercase.lower token.text = word.toList

/-- What the user typed as a real column: exact, then ignoring case. -/
def resolveColumn (name : Text) (columns : List Text) : Option Text :=
  match columns.find? fun c => c = name with
  | some exact_ => some exact_
  | none => columns.find? fun c => lowercase.lower c = lowercase.lower name

structure OperatorRead where
  op : Option FilterOp := none
  /-- Tokens consumed, including a partial operator word. -/
  used : Nat := 0
  /-- What would complete a half-typed operator. -/
  expects : List Text := []
  error : Option Text := none

/-- Reads the operator at the head: a symbol or an operator of one or more words. -/
def readOperator (tokens : List Token) : OperatorRead :=
  match tokens with
  | [] => {}
  | first :: others =>
    match first.kind with
    | .symbol =>
      match symbolOps.lookup first.text with
      | some op => { op := some op, used := 1 }
      | none => { error := some ('"' :: first.text ++ "\" is not an operator.".toList) }
    | .string | .ident =>
      { error := some "Expected an operator such as = or contains.".toList }
    | .word =>
      let word := lowercase.lower first.text
      if word = "contains".toList then { op := some .contains, used := 1 }
      else if word = "not".toList then
        match others with
        | [] => { used := 1, expects := ["contains".toList] }
        | second :: _ =>
          if wordIs lowercase second "contains" then { op := some .notContains, used := 2 }
          else { error := some "Only \"not contains\" can follow \"not\" here.".toList }
      else if word = "startswith".toList then { op := some .startsWith, used := 1 }
      else if word = "starts".toList then
        match others with
        | [] => { used := 1, expects := ["with".toList] }
        | second :: _ =>
          if wordIs lowercase second "with" then { op := some .startsWith, used := 2 }
          else { error := some "Write \"starts with\".".toList }
      else if word = "endswith".toList then { op := some .endsWith, used := 1 }
      else if word = "ends".toList then
        match others with
        | [] => { used := 1, expects := ["with".toList] }
        | second :: _ =>
          if wordIs lowercase second "with" then { op := some .endsWith, used := 2 }
          else { error := some "Write \"ends with\".".toList }
      else if word = "in".toList then { op := some .isIn, used := 1 }
      else if word = "is".toList then
        let wrong : OperatorRead :=
          { error := some "Write \"is null\" or \"is not null\".".toList }
        match others with
        | [] => { used := 1, expects := ["null".toList, "not null".toList] }
        | second :: others =>
          if wordIs lowercase second "null" then { op := some .isNull, used := 2 }
          else if wordIs lowercase second "not" then
            match others with
            | [] => { used := 2, expects := ["null".toList] }
            | third :: _ =>
              if wordIs lowercase third "null" then { op := some .isNotNull, used := 3 } else wrong
          else wrong
      else
        { error := some ('"' :: first.text ++
            "\" is not an operator. Try =, !=, >, contains, starts with, in, is null.".toList) }

structure ValueRead where
  /-- The value, or the items of a list before they are joined; `none` for nothing read. -/
  items : Option (List Text) := none
  used : Nat := 0
  /-- Only the list opened, so more is expected. -/
  unclosed : Bool := false
  error : Option Text := none
  /-- A bare `null` was written. -/
  bareNull : Bool := false

def isSymbol (token : Token) (text : String) : Bool :=
  token.kind = .symbol && token.text = text.toList

/-- The items from here to the end of a list. -/
def readItems (parenthesised : Bool) : List Token → ValueRead
  | [] => { items := some [], unclosed := true }
  | item :: rest =>
    if item.kind = .symbol then { error := some "Expected a value in the list.".toList }
    else
      match rest with
      | [] => { items := some [item.text], used := 1, unclosed := parenthesised }
      | next :: later =>
        if isSymbol next "," then
          let read := readItems parenthesised later
          { read with items := read.items.map (item.text :: ·), used := read.used + 2 }
        else if parenthesised then
          if isSymbol next ")" then { items := some [item.text], used := 2 }
          else { error := some "Expected \",\" or \")\" in the list.".toList }
        else { items := some [item.text], used := 1 }

/-- Reads a value: one token, or for `in` a list, with or without parentheses. -/
def readValue (tokens : List Token) (op : FilterOp) : ValueRead :=
  match tokens with
  | [] => {}
  | first :: rest =>
    if op = .isIn then
      if isSymbol first "(" then
        let read := readItems true rest
        { read with used := read.used + 1 }
      else readItems false tokens
    else if first.kind = .symbol then { error := some "Expected a value.".toList }
    else { items := some [first.text], used := 1, bareNull := wordIs lowercase first "null" }

/-- A rule with what was typed for its value: the items of a list, or the one value. -/
structure Typed extends FilterRule where
  items : List Text

/-- The value of a rule behind its operator, and what is left behind it. -/
def readRest (column : Text) (op : FilterOp) (tokens : List Token) :
    Except Text (Typed × List Token) :=
  if needsValue op then
    let read := readValue lowercase tokens op
    match read.error, read.items with
    | some message, _ => .error message
    | none, none => .error ("Expected a value after ".toList ++ opText op ++ ".".toList)
    | none, some items =>
      if read.unclosed then .error "Close the list with \")\".".toList
      else
        let behind := tokens.drop read.used
        if read.bareNull ∧ (op = .eq ∨ op = .ne) then
          .ok ({ column, op := if op = .eq then .isNull else .isNotNull, value := [], items := [] },
            behind)
        else .ok ({ column, op, value := join [','] items, items }, behind)
  else .ok ({ column, op, value := [], items := [] }, tokens)

/-- One rule, and the tokens behind it. -/
def readRule (columns : List Text) (tokens : List Token) : Except Text (Typed × List Token) :=
  match tokens with
  | [] => .error "Expected a column name after the connector.".toList
  | columnToken :: others =>
    if columnToken.kind = .symbol ∨ columnToken.kind = .string then
      .error "Expected a column name.".toList
    else
      match resolveColumn lowercase columnToken.text columns with
      | none =>
        let near := columns.find? fun c =>
          (lowercase.lower columnToken.text).isPrefixOf (lowercase.lower c)
        .error ("There is no column \"".toList ++ columnToken.text ++ '"' ::
          near.elim ".".toList fun near =>
            ". Did you mean \"".toList ++ near ++ "\"?".toList)
      | some column =>
        if others = [] then
          .error ("Expected an operator after \"".toList ++ column ++ "\".".toList)
        else
          let operator := readOperator lowercase others
          match operator.error, operator.op with
          | some message, _ => .error message
          | none, none =>
            .error ("Finish the operator (".toList ++ join " or ".toList operator.expects ++
              ").".toList)
          | none, some op => readRest lowercase column op (others.drop operator.used)

theorem readRest_length {column : Text} {op : FilterOp} {tokens behind : List Token} {rule : Typed}
    (read : readRest lowercase column op tokens = .ok (rule, behind)) :
    behind.length ≤ tokens.length := by
  unfold readRest at read
  dsimp only at read
  split at read
  · split at read
    · cases read
    · cases read
    · split at read
      · cases read
      · split at read <;> cases read <;> exact (List.drop_sublist _ _).length_le
  · cases read
    exact Nat.le_refl _

/-- A rule takes tokens away. -/
theorem readRule_length {columns : List Text} {tokens behind : List Token} {rule : Typed}
    (read : readRule lowercase columns tokens = .ok (rule, behind)) :
    behind.length < tokens.length := by
  unfold readRule at read
  dsimp only at read
  split at read
  · cases read
  · split at read
    · cases read
    · split at read
      · cases read
      · split at read
        · cases read
        · split at read
          · cases read
          · cases read
          · have shorter := readRest_length lowercase read
            exact Nat.lt_succ_of_le (shorter.trans (List.drop_sublist _ _).length_le)

/-- The mode that a connector stands for. -/
def connectorMode (token : Token) : Option FilterMode :=
  if wordIs lowercase token "and" then some .all
  else if wordIs lowercase token "or" then some .any
  else none

/-- The rules from here on; one kind of connector throughout. -/
def readRules (columns : List Text) (mode : Option FilterMode) (tokens : List Token) :
    Except Text (List Typed × FilterMode) :=
  match _read : readRule lowercase columns tokens with
  | .error message => .error message
  | .ok (rule, []) => .ok ([rule], mode.getD .all)
  | .ok (rule, connector :: later) =>
    match connectorMode lowercase connector with
    | none => .error "Expected \"and\" or \"or\".".toList
    | some kind =>
      if mode ≠ none ∧ mode ≠ some kind then
        .error
          ("Use \"and\" or \"or\" throughout, not both. Use the filter popover for mixed " ++
            "logic.").toList
      else (readRules columns (some kind) later).map fun found => (rule :: found.1, found.2)
termination_by tokens.length
decreasing_by
  have := readRule_length lowercase _read
  simp only [List.length_cons] at this
  omega

/-- The typed filter as rules, with what was typed for their values. -/
def parseTyped (source : Text) (columns : List Text) : Except Text (List Typed × FilterMode) :=
  match tokenize source with
  | .error message => .error message
  | .ok [] => .ok ([], .all)
  | .ok tokens => readRules lowercase columns none tokens

def parseFilterExpr (source : Text) (columns : List Text) :
    Except Text (List FilterRule × FilterMode) :=
  (parseTyped lowercase source columns).map fun read => (read.1.map Typed.toFilterRule, read.2)

end Parsing

section Formatting

variable (lowercase : Lowercase)

/-- `^[A-Za-z_][\w$]*$`. -/
def isBareName (name : Text) : Bool :=
  match name with
  | [] => false
  | c :: rest => (c.isAlpha || c = '_') && rest.all fun c => c.isAlphanum || c = '_' || c = '$'

def isNumber (text : Text) : Bool :=
  let body := if text.head? = some '-' then text.tail else text
  match body.span Char.isDigit with
  | (whole, []) => whole ≠ []
  | (whole, point :: fraction) =>
    whole ≠ [] && point = '.' && fraction ≠ [] && fraction.all Char.isDigit

/-- `^(?:-?\d+(?:\.\d+)?|[A-Za-z_][\w@.:-]*)$`. -/
def isBareValue (value : Text) : Bool :=
  isNumber value ||
    match value with
    | [] => false
    | c :: rest =>
      (c.isAlpha || c = '_') && rest.all fun c => c.isAlphanum || c ∈ "_@.:-".toList

def formatName (name : Text) : Text :=
  if isBareName name ∧ lowercase.lower name ∉ keywords then name else quoteIdent name

def formatValue (value : Text) : Text :=
  if isBareValue value ∧ lowercase.lower value ∉ keywords then value else quoteLiteral value

/-- The items of a list as the rule's value has them, without blank ones. -/
def listItems (value : Text) : List Text := ((value.splitOn ',').map trim).filter (· ≠ [])

def formatRule (rule : FilterRule) : Text :=
  let name := formatName lowercase rule.column
  if needsValue rule.op then
    if rule.op = .isIn then
      name ++ " in (".toList ++
        join ", ".toList ((listItems rule.value).map (formatValue lowercase)) ++ ")".toList
    else name ++ ' ' :: opText rule.op ++ ' ' :: formatValue lowercase (trim rule.value)
  else name ++ ' ' :: opText rule.op

/-- Rules as the text the bar would accept. -/
def formatFilterExpr (rules : List FilterRule) (mode : FilterMode) : Text :=
  join (if mode = .any then " or ".toList else " and ".toList) (rules.map (formatRule lowercase))

end Formatting

end DbFree.FilterExpr
