import DbFree.FilterExpr

/- The tokens of the text that is written for filter rules: each piece of it is read as its own
tokens, wherever it ends. -/
namespace DbFree.FilterExpr

open SqlText
open Browser (isSpace trim)

/-- What is behind a piece of the text: a blank, a comma, a closing parenthesis or the end. -/
def Ends (rest : Text) : Prop := ∀ c, rest.head? = some c → c = ' ' ∨ c = ',' ∨ c = ')'

/-- The text is read as these tokens wherever it ends. -/
def Reads (text : Text) (tokens : List Token) : Prop :=
  ∀ rest, Ends rest → tokenize (text ++ rest) = (tokenize rest).map (tokens ++ ·)

theorem ends_nil : Ends [] := by
  intro c head
  cases head

theorem ends_space (rest : Text) : Ends (' ' :: rest) := by
  intro c head
  cases head
  exact Or.inl rfl

theorem map_map_append (first second : List Token) (read : Except Text (List Token)) :
    (read.map (second ++ ·)).map (first ++ ·) = read.map ((first ++ second) ++ ·) := by
  cases read with
  | error message => rfl
  | ok tokens => exact congrArg Except.ok (List.append_assoc _ _ _).symm

theorem tokenize_space (rest : Text) : tokenize (' ' :: rest) = tokenize rest := by
  rw [tokenize, if_pos (by decide)]

theorem reads_spaced {first second : Text} {tokens others : List Token}
    (reads : Reads first tokens) (reads' : Reads second others) :
    Reads (first ++ ' ' :: second) (tokens ++ others) := by
  intro rest ends
  rw [List.append_assoc, List.cons_append, reads _ (ends_space _), tokenize_space, reads' rest ends,
    map_map_append]

/-- Characters that stand in no way for anything but themselves. -/
def isPlain (c : Char) : Bool := c.isAlphanum || c ∈ "_$@.:-".toList

theorem wordStop_of_isPlain {c : Char} (plain : isPlain c = true) : wordStop c = false := by
  have each : ∀ n < 128, isPlain (Char.ofNat n) = true → wordStop (Char.ofNat n) = false := by
    decide +kernel
  have low : c.toNat < 128 := by
    by_contra high
    have outside : ∀ d ∈ "_$@.:-".toList, d.toNat < 128 := by simp
    rw [isPlain, Bool.or_eq_true, decide_eq_true_eq] at plain
    rcases plain with ascii | listed
    · simp only [Char.isAlphanum, Char.isAlpha, Char.isUpper, Char.isLower, Char.isDigit,
        Bool.or_eq_true, Bool.and_eq_true, decide_eq_true_eq, ge_iff_le, UInt32.le_iff_toNat_le]
        at ascii
      have value : c.toNat = c.val.toNat := rfl
      rcases ascii with (⟨-, upper⟩ | ⟨-, upper⟩) | ⟨-, upper⟩ <;> simp at upper <;> omega
    · exact high (outside c listed)
  have same := each c.toNat low
  rw [Char.ofNat_toNat] at same
  exact same plain

theorem not_special {c : Char} (plain : wordStop c = false) (rest : Text) :
    isSpace c = false ∧ isQuote c = false ∧ symbolAt (c :: rest) = none := by
  have parts := plain
  rw [wordStop, Bool.or_eq_false_iff, decide_eq_false_iff_not] at parts
  obtain ⟨visible, unlisted⟩ := parts
  refine ⟨visible, ?_, ?_⟩
  · rw [Bool.eq_false_iff]
    intro quote
    rw [isQuote, Bool.or_eq_true, Bool.or_eq_true, decide_eq_true_eq, decide_eq_true_eq,
      decide_eq_true_eq] at quote
    rcases quote with (rfl | rfl) | rfl <;> exact unlisted (by decide)
  · rw [symbolAt, List.find?_eq_none]
    intro symbol member starts
    have stops : ∀ symbol ∈ symbols, ∃ d more, symbol = d :: more ∧ wordStop d = true := by
      intro symbol member
      have heads : ∀ symbol ∈ symbols, (symbol.head?.map wordStop) = some true := by decide
      have head := heads symbol member
      cases symbol with
      | nil => cases head
      | cons d more => exact ⟨d, more, rfl, by simpa using head⟩
    obtain ⟨d, more, rfl, stop⟩ := stops symbol member
    rw [List.isPrefixOf_cons_cons, Bool.and_eq_true, beq_iff_eq] at starts
    rw [starts.1, plain] at stop
    cases stop

theorem reads_word {word : Text} (filled : word ≠ []) (plain : ∀ c ∈ word, wordStop c = false) :
    Reads word [⟨.word, word⟩] := by
  obtain ⟨c, more, rfl⟩ := List.exists_cons_of_ne_nil filled
  intro rest ends
  have first := plain c List.mem_cons_self
  obtain ⟨visible, unquoted, unsigned⟩ := not_special first (more ++ rest)
  have going : ∀ d ∈ more, (!wordStop d) = true := by
    intro d member
    rw [plain d (List.mem_cons_of_mem c member)]
    rfl
  have stopped : rest.takeWhile (fun d => !wordStop d) = [] ∧
      rest.dropWhile (fun d => !wordStop d) = rest := by
    cases rest with
    | nil => exact ⟨rfl, rfl⟩
    | cons d behind =>
      have stop : wordStop d = true := by
        rcases ends d rfl with rfl | rfl | rfl <;> decide
      simp [stop]
  rw [List.cons_append, tokenize, visible, unquoted]
  simp only [Bool.false_eq_true, if_false]
  split
  · rename_i symbol found
    rw [unsigned] at found
    cases found
  · rw [if_neg (by rw [first]; exact Bool.false_ne_true), List.takeWhile_append_of_pos going,
      List.dropWhile_append_of_pos going, stopped.1, stopped.2, List.append_nil]
    rfl

theorem readQuoted_written (quote : Char) (content rest : Text) (apart : rest.head? ≠ some quote) :
    readQuoted quote (replaceChar content quote [quote, quote] ++ quote :: rest) =
      some (content, rest) := by
  induction content with
  | nil =>
    cases rest with
    | nil =>
      show readQuoted quote [quote] = _
      rw [readQuoted, if_pos rfl]
    | cons d rest =>
      show readQuoted quote (quote :: d :: rest) = _
      rw [readQuoted, if_pos rfl, if_neg]
      rintro rfl
      exact apart rfl
  | cons c content hypothesis =>
    rw [replaceChar, List.flatMap_cons, List.append_assoc]
    rw [replaceChar] at hypothesis
    split
    · rename_i same
      rw [List.cons_append, List.singleton_append, readQuoted, if_pos rfl, if_pos rfl, hypothesis,
        same]
      rfl
    · rename_i other
      have behind : ∃ d more,
          content.flatMap (fun d => if d = quote then [quote, quote] else [d]) ++ quote :: rest =
            d :: more := by
        apply List.exists_cons_of_ne_nil
        exact List.append_ne_nil_of_right_ne_nil _ (List.cons_ne_nil _ _)
      obtain ⟨d, more, shape⟩ := behind
      rw [shape] at hypothesis ⊢
      show readQuoted quote (c :: d :: more) = _
      rw [readQuoted, if_neg other, hypothesis]
      rfl

theorem reads_quoted {quote : Char} (isMark : quote = '\'' ∨ quote = '"') (content : Text) :
    Reads (quote :: replaceChar content quote [quote, quote] ++ [quote])
      [⟨if quote = '\'' then .string else .ident, content⟩] := by
  intro rest ends
  have apart : rest.head? ≠ some quote := by
    intro head
    rcases ends quote head with rfl | rfl | rfl <;> rcases isMark with same | same <;> cases same
  have visible : isSpace quote = false := by rcases isMark with rfl | rfl <;> decide
  have quoted : isQuote quote = true := by rcases isMark with rfl | rfl <;> decide
  have read := readQuoted_written quote content rest apart
  rw [List.cons_append, List.cons_append, List.append_assoc, List.singleton_append, tokenize,
    visible, quoted]
  simp only [Bool.false_eq_true, if_false, if_true]
  split
  · rename_i missing
    rw [read] at missing
    cases missing
  · rename_i text behind found
    rw [read] at found
    cases found
    rfl

/-- A symbol that none goes on from. -/
theorem tokenize_symbol (symbol : Text) {rest : Text} (first : Char)
    (starts : symbol.head? = some first)
    (special : isSpace first = false ∧ isQuote first = false)
    (found : symbolAt (symbol ++ rest) = some symbol) :
    tokenize (symbol ++ rest) = (tokenize rest).map ([⟨.symbol, symbol⟩] ++ ·) := by
  obtain ⟨more, rfl⟩ := List.head?_eq_some_iff.mp starts
  rw [List.cons_append] at found ⊢
  rw [tokenize, special.1, special.2]
  simp only [Bool.false_eq_true, if_false]
  split
  · rename_i other again
    rw [found] at again
    cases again
    rw [← List.cons_append, List.drop_left]
    rfl
  · rename_i missing
    rw [found] at missing
    cases missing

/-- Symbols that are read as such whatever is behind them. -/
theorem tokenize_mark {mark : Char} (isMark : mark = ',' ∨ mark = '(' ∨ mark = ')')
    (rest : Text) :
    tokenize (mark :: rest) = (tokenize rest).map ([⟨.symbol, [mark]⟩] ++ ·) := by
  apply tokenize_symbol [mark] mark rfl
  · rcases isMark with rfl | rfl | rfl <;> decide
  · rcases isMark with rfl | rfl | rfl <;> rfl

def word (text : String) : Token := ⟨.word, text.toList⟩

def symbol (text : String) : Token := ⟨.symbol, text.toList⟩

def opTokens : FilterOp → List Token
  | .contains => [word "contains"]
  | .notContains => [word "not", word "contains"]
  | .startsWith => [word "starts", word "with"]
  | .endsWith => [word "ends", word "with"]
  | .isIn => [word "in"]
  | .isNull => [word "is", word "null"]
  | .isNotNull => [word "is", word "not", word "null"]
  | op => [⟨.symbol, opText op⟩]

theorem reads_plain (text : Text) (filled : text ≠ []) (plain : text.all isPlain = true) :
    Reads text [⟨.word, text⟩] :=
  reads_word filled fun c member => wordStop_of_isPlain (List.all_eq_true.mp plain c member)

theorem reads_symbol {op : FilterOp} {first : Char} (starts : (opText op).head? = some first)
    (special : isSpace first = false ∧ isQuote first = false)
    (found : symbolAt (opText op) = some (opText op) ∧ ∀ rest,
      symbolAt (opText op ++ ' ' :: rest) = some (opText op) ∧
        symbolAt (opText op ++ ',' :: rest) = some (opText op) ∧
          symbolAt (opText op ++ ')' :: rest) = some (opText op)) :
    Reads (opText op) [⟨.symbol, opText op⟩] := by
  intro rest ends
  apply tokenize_symbol _ first starts special
  cases rest with
  | nil =>
    rw [List.append_nil]
    exact found.1
  | cons c rest =>
    rcases ends c rfl with rfl | rfl | rfl
    · exact (found.2 rest).1
    · exact (found.2 rest).2.1
    · exact (found.2 rest).2.2

theorem reads_operator (op : FilterOp) : Reads (opText op) (opTokens op) := by
  have plain : ∀ text : String, text.toList ≠ [] → text.toList.all isPlain = true →
      Reads text.toList [word text] := fun text => reads_plain text.toList
  cases op with
  | eq => exact reads_symbol rfl (by decide) ⟨rfl, fun _ => ⟨rfl, rfl, rfl⟩⟩
  | ne => exact reads_symbol rfl (by decide) ⟨rfl, fun _ => ⟨rfl, rfl, rfl⟩⟩
  | gt => exact reads_symbol rfl (by decide) ⟨rfl, fun _ => ⟨rfl, rfl, rfl⟩⟩
  | gte => exact reads_symbol rfl (by decide) ⟨rfl, fun _ => ⟨rfl, rfl, rfl⟩⟩
  | lt => exact reads_symbol rfl (by decide) ⟨rfl, fun _ => ⟨rfl, rfl, rfl⟩⟩
  | lte => exact reads_symbol rfl (by decide) ⟨rfl, fun _ => ⟨rfl, rfl, rfl⟩⟩
  | contains => exact plain "contains" (by decide) (by decide)
  | notContains =>
    exact reads_spaced (plain "not" (by decide) (by decide))
      (plain "contains" (by decide) (by decide))
  | startsWith =>
    exact reads_spaced (plain "starts" (by decide) (by decide))
      (plain "with" (by decide) (by decide))
  | endsWith =>
    exact reads_spaced (plain "ends" (by decide) (by decide)) (plain "with" (by decide) (by decide))
  | isIn => exact plain "in" (by decide) (by decide)
  | isNull =>
    exact reads_spaced (plain "is" (by decide) (by decide)) (plain "null" (by decide) (by decide))
  | isNotNull =>
    exact reads_spaced (plain "is" (by decide) (by decide))
      (reads_spaced (plain "not" (by decide) (by decide)) (plain "null" (by decide) (by decide)))

theorem plain_of_isBareName {name : Text} (bare : isBareName name = true) :
    name ≠ [] ∧ name.all isPlain = true := by
  cases name with
  | nil => cases bare
  | cons c rest =>
    refine ⟨List.cons_ne_nil c rest, ?_⟩
    simp only [isBareName, Bool.and_eq_true, List.all_eq_true, Bool.or_eq_true] at bare
    rw [List.all_cons, Bool.and_eq_true, List.all_eq_true]
    constructor
    · rw [isPlain, Char.isAlphanum]
      rcases bare.1 with alpha | underscore
      · simp [alpha]
      · simp [of_decide_eq_true underscore]
    · intro d member
      rw [isPlain]
      rcases bare.2 d member with (alpha | underscore) | dollar
      · simp [alpha]
      · simp [of_decide_eq_true underscore]
      · simp [of_decide_eq_true dollar]

theorem plain_of_isNumber {text : Text} (number : isNumber text = true) :
    text ≠ [] ∧ text.all isPlain = true := by
  have digits : ∀ part : Text, part.all Char.isDigit = true → part.all isPlain = true := by
    intro part all
    rw [List.all_eq_true] at all ⊢
    intro c member
    rw [isPlain, Char.isAlphanum, all c member, Bool.or_true]
    rfl
  dsimp only [isNumber] at number
  generalize unsigned : (if text.head? = some '-' then text.tail else text) = part at number
  have body : part ≠ [] ∧ part.all isPlain = true := by
    have parts : part.takeWhile Char.isDigit ++ part.dropWhile Char.isDigit = part :=
      List.takeWhile_append_dropWhile
    have whole : (part.takeWhile Char.isDigit).all isPlain = true :=
      digits _ List.all_takeWhile
    rw [List.span_eq_takeWhile_dropWhile] at number
    cases rest : part.dropWhile Char.isDigit with
    | nil =>
      rw [rest] at number parts
      rw [List.append_nil] at parts
      rw [parts] at number whole
      exact ⟨of_decide_eq_true number, whole⟩
    | cons point fraction =>
      rw [rest] at number parts
      simp only [Bool.and_eq_true, decide_eq_true_eq] at number
      obtain ⟨⟨⟨filled, rfl⟩, -⟩, all⟩ := number
      rw [← parts]
      refine ⟨List.append_ne_nil_of_left_ne_nil filled _, ?_⟩
      rw [List.all_append, List.all_cons, whole, digits fraction all]
      rfl
  by_cases sign : text.head? = some '-'
  · obtain ⟨more, rfl⟩ := List.head?_eq_some_iff.mp sign
    rw [if_pos sign, List.tail_cons] at unsigned
    refine ⟨List.cons_ne_nil _ _, ?_⟩
    rw [List.all_cons, unsigned, body.2]
    rfl
  · rw [if_neg sign] at unsigned
    rw [unsigned]
    exact body

theorem plain_of_isBareValue {value : Text} (bare : isBareValue value = true) :
    value ≠ [] ∧ value.all isPlain = true := by
  cases value with
  | nil => cases bare
  | cons c rest =>
    simp only [isBareValue, Bool.or_eq_true] at bare
    rcases bare with number | named
    · exact plain_of_isNumber number
    · refine ⟨List.cons_ne_nil c rest, ?_⟩
      simp only [Bool.and_eq_true, List.all_eq_true, Bool.or_eq_true] at named
      rw [List.all_cons, Bool.and_eq_true, List.all_eq_true]
      constructor
      · rw [isPlain, Char.isAlphanum]
        rcases named.1 with alpha | underscore
        · simp [alpha]
        · simp [of_decide_eq_true underscore]
      · intro d member
        rw [isPlain]
        rcases named.2 d member with alpha | listed
        · simp [alpha]
        · have kept := of_decide_eq_true listed
          simp at kept ⊢
          tauto

variable (lowercase : Lowercase)

def nameToken (name : Text) : Token :=
  if isBareName name ∧ lowercase.lower name ∉ keywords then ⟨.word, name⟩ else ⟨.ident, name⟩

def valueToken (value : Text) : Token :=
  if isBareValue value ∧ lowercase.lower value ∉ keywords then ⟨.word, value⟩ else ⟨.string, value⟩

theorem reads_name (name : Text) :
    Reads (formatName lowercase name) [nameToken lowercase name] := by
  unfold formatName nameToken
  split
  · rename_i bare
    obtain ⟨filled, plain⟩ := plain_of_isBareName bare.1
    exact reads_plain _ filled plain
  · exact reads_quoted (Or.inr rfl) name

theorem reads_value (value : Text) :
    Reads (formatValue lowercase value) [valueToken lowercase value] := by
  unfold formatValue valueToken
  split
  · rename_i bare
    obtain ⟨filled, plain⟩ := plain_of_isBareValue bare.1
    exact reads_plain _ filled plain
  · exact reads_quoted (Or.inl rfl) value

def listTokens : List Text → List Token
  | [] => [symbol ")"]
  | [item] => [valueToken lowercase item, symbol ")"]
  | item :: items => valueToken lowercase item :: symbol "," :: listTokens items

def ruleTokens (rule : FilterRule) : List Token :=
  nameToken lowercase rule.column :: (opTokens rule.op ++
    if needsValue rule.op then
      if rule.op = .isIn then symbol "(" :: listTokens lowercase (listItems rule.value)
      else [valueToken lowercase (trim rule.value)]
    else [])

def connector (mode : FilterMode) : Token := if mode = .any then word "or" else word "and"

def rulesTokens (mode : FilterMode) : List FilterRule → List Token
  | [] => []
  | [rule] => ruleTokens lowercase rule
  | rule :: rules => ruleTokens lowercase rule ++ connector mode :: rulesTokens mode rules

theorem tokenize_list {items : List Text} (filled : items ≠ []) (rest : Text) :
    tokenize (join ", ".toList (items.map (formatValue lowercase)) ++ ')' :: rest) =
      (tokenize rest).map (listTokens lowercase items ++ ·) := by
  have closes : Ends (')' :: rest) := by
    intro c head
    cases head
    exact Or.inr (Or.inr rfl)
  induction items with
  | nil => exact absurd rfl filled
  | cons item items hypothesis =>
    cases items with
    | nil =>
      rw [List.map_singleton, join_singleton, reads_value lowercase item _ closes,
        tokenize_mark (Or.inr (Or.inr rfl)), map_map_append]
      rfl
    | cons next items =>
      have goes : ∀ behind, Ends (',' :: behind) := by
        intro behind c head
        cases head
        exact Or.inr (Or.inl rfl)
      rw [List.map_cons, List.map_cons, join_cons_cons, List.append_assoc, List.append_assoc]
      show tokenize (_ ++ ',' :: ' ' :: (join ", ".toList
        ((next :: items).map (formatValue lowercase)) ++ ')' :: rest)) = _
      rw [reads_value lowercase item _ (goes _), tokenize_mark (Or.inl rfl), tokenize_space,
        hypothesis (List.cons_ne_nil _ _), map_map_append, map_map_append]
      rfl

theorem reads_list {items : List Text} (filled : items ≠ []) :
    Reads ('(' :: (join ", ".toList (items.map (formatValue lowercase)) ++ ")".toList))
      (symbol "(" :: listTokens lowercase items) := by
  intro rest ends
  rw [List.cons_append, List.append_assoc, tokenize_mark (Or.inr (Or.inl rfl))]
  show (tokenize (_ ++ ')' :: rest)).map _ = _
  rw [tokenize_list lowercase filled, map_map_append]
  rfl

theorem reads_rule {rule : FilterRule} (listed : rule.op = .isIn → listItems rule.value ≠ []) :
    Reads (formatRule lowercase rule) (ruleTokens lowercase rule) := by
  have named := reads_name lowercase rule.column
  unfold formatRule ruleTokens
  dsimp only
  split
  · split
    · rename_i needs isList
      have whole := reads_spaced named
        (reads_spaced (reads_operator .isIn) (reads_list lowercase (listed isList)))
      rw [isList]
      have shape : formatName lowercase rule.column ++ " in (".toList ++ join ", ".toList
          ((listItems rule.value).map (formatValue lowercase)) ++ ")".toList =
          formatName lowercase rule.column ++ ' ' :: (opText .isIn ++ ' ' :: '(' ::
            (join ", ".toList ((listItems rule.value).map (formatValue lowercase)) ++
              ")".toList)) := by
        rw [List.append_assoc, List.append_assoc]
        rfl
      rw [shape]
      exact whole
    · have whole := reads_spaced named
        (reads_spaced (reads_operator rule.op) (reads_value lowercase (trim rule.value)))
      rw [List.append_assoc]
      exact whole
  · rw [List.append_nil]
    exact reads_spaced named (reads_operator rule.op)

theorem tokenize_rules (mode : FilterMode) {rules : List FilterRule}
    (listed : ∀ rule ∈ rules, rule.op = .isIn → listItems rule.value ≠ []) :
    tokenize (formatFilterExpr lowercase rules mode) = .ok (rulesTokens lowercase mode rules) := by
  have finished : tokenize [] = .ok [] := by rw [tokenize]
  induction rules with
  | nil => exact finished
  | cons rule rules hypothesis =>
    have first := reads_rule lowercase (listed rule List.mem_cons_self)
    have later := hypothesis fun other member => listed other (List.mem_cons_of_mem rule member)
    cases rules with
    | nil =>
      have alone : formatFilterExpr lowercase [rule] mode = formatRule lowercase rule :=
        join_singleton _ _
      have whole := first [] ends_nil
      rw [List.append_nil, finished] at whole
      rw [alone, whole]
      exact congrArg Except.ok (List.append_nil _)
    | cons next rules =>
      have between : ∀ behind, tokenize ((if mode = .any then " or ".toList else " and ".toList) ++
          behind) = (tokenize behind).map ([connector mode] ++ ·) := by
        intro behind
        have spaced : ∀ text : String, text.toList ≠ [] → text.toList.all isPlain = true →
            tokenize (' ' :: (text.toList ++ ' ' :: behind)) =
              (tokenize behind).map ([word text] ++ ·) := by
          intro text filled plain
          rw [tokenize_space, reads_plain _ filled plain _ (ends_space behind), tokenize_space]
          rfl
        unfold connector
        split
        · exact spaced "or" (by decide) (by decide)
        · exact spaced "and" (by decide) (by decide)
      have shape : formatFilterExpr lowercase (rule :: next :: rules) mode =
          formatRule lowercase rule ++ ((if mode = .any then " or ".toList else " and ".toList) ++
            formatFilterExpr lowercase (next :: rules) mode) := join_cons_cons _ _ _ _
      have blank : ∃ more,
          (if mode = .any then " or ".toList else " and ".toList) = ' ' :: more := by
        split
        · exact ⟨_, rfl⟩
        · exact ⟨_, rfl⟩
      have ends : Ends ((if mode = .any then " or ".toList else " and ".toList) ++
          formatFilterExpr lowercase (next :: rules) mode) := by
        obtain ⟨more, starts⟩ := blank
        rw [starts]
        exact ends_space _
      rw [shape, first _ ends, between, later, map_map_append]
      exact congrArg Except.ok (List.append_assoc _ _ _)

end DbFree.FilterExpr
