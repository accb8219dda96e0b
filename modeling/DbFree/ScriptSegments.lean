import DbFree.StatementCuts

/- The verdicts of a part of a script: what stands between two separators, and what is
left of it when the white space around it goes. -/
namespace DbFree.Destructive

open Chars Texts Lexing

/-- The statements that are not blank. -/
def shown (statements : List (List Tok)) : List (List Tok) :=
  statements.filter fun statement => !blank (text statement)

theorem kinds_eq_shown (sql : Text) :
    kinds sql = (shown (statementTokens [] (scanTokens sql))).map kindOf :=
  kinds_eq sql

theorem shown_current (current : List Tok) :
    shown (statementTokens current []) = shown [current] := by
  rw [statementTokens]
  split
  · rename_i hidden
    simp [shown, hidden]
  · rfl

/-- A separator parts the statements before it from those behind it. -/
theorem shown_separated (current front back : List Tok) (separator : Tok)
    (kind : separator.kind = .separator) :
    shown (statementTokens current (front ++ separator :: back)) =
      shown (statementTokens current front) ++ shown (statementTokens [] back) := by
  induction front generalizing current with
  | nil =>
    rw [List.nil_append, statementTokens_separator _ _ _ kind, shown_current, shown, shown, shown,
      ← List.filter_append]
    rfl
  | cons token front ih =>
    by_cases ends : token.kind = .separator
    · rw [List.cons_append, statementTokens_separator _ _ _ ends,
        statementTokens_separator _ _ _ ends]
      have rest := ih []
      simp only [shown, List.filter_cons] at rest ⊢
      rw [rest]
      split <;> simp
    by_cases line : token.kind = .shell
    · rw [List.cons_append, statementTokens_shell _ _ _ line, statementTokens_shell _ _ _ line]
      have rest := ih []
      simp only [shown, List.filter_cons] at rest ⊢
      rw [rest]
      split <;> simp
    · have inside : ¬Boundary token := fun either => either.elim ends line
      rw [List.cons_append, statementTokens_inside _ _ _ inside,
        statementTokens_inside _ _ _ inside, ih]

theorem after_separator (fresh : Bool) (front : List Tok) (separator : Tok)
    (kind : separator.kind = .separator) :
    scanner.after fresh (front ++ [separator]) = true := by
  simp [scanner, kind]

/-- The verdicts of a script are those of its parts on both sides of a separator. -/
theorem kinds_separated (sql : Text) (front back : List Tok) (separator : Tok)
    (tokens : scanTokens sql = front ++ separator :: back) (kind : separator.kind = .separator) :
    kinds sql = kinds (text front) ++ kinds (text back) ∧
      scanTokens (text front) = front ∧ scanTokens (text back) = back := by
  have reads := reads_scan sql
  rw [tokens] at reads
  have first : scanTokens (text front) = front :=
    tokens_text_of_reads true front ((scanner.reads_append _ _ _ _).mp reads).1
  have second : scanTokens (text back) = back := by
    rw [List.append_cons] at reads
    have behind := ((scanner.reads_append _ _ _ _).mp reads).2
    rw [after_separator true front separator kind] at behind
    exact tokens_text_of_reads true back behind
  refine ⟨?_, first, second⟩
  rw [kinds_eq_shown, kinds_eq_shown, kinds_eq_shown, tokens, first, second,
    shown_separated _ _ _ _ kind, List.map_append]

section Trailing

variable (w : Char)

/-- A length that takes a character behind the text only when it took the whole text. -/
def Grows (before after : Nat) (rest : Text) : Prop :=
  after = before ∨ before = rest.length ∧ after = rest.length + 1

theorem quotedLen_trailing (quote : Char) (other : w ≠ quote) : ∀ rest : Text,
    Grows (quotedLen quote rest) (quotedLen quote (rest ++ [w])) rest
  | [] => Or.inr ⟨rfl, quotedLen_inside quote w [] other⟩
  | [c] => by
    by_cases close : c = quote
    · subst close
      refine Or.inl ?_
      rw [List.singleton_append, quotedLen_close c [w] (by simpa using other),
        quotedLen_close c [] (by simp)]
    · rw [List.singleton_append, quotedLen_inside quote c _ close, quotedLen_inside quote c _ close,
        quotedLen_inside quote w _ other]
      exact Or.inr ⟨rfl, rfl⟩
  | c :: d :: rest => by
    by_cases close : c = quote
    · subst close
      by_cases double : d = c
      · subst double
        rw [List.cons_append, List.cons_append, quotedLen_double, quotedLen_double]
        rcases quotedLen_trailing d other rest with same | ⟨whole, more⟩
        · exact Or.inl (by rw [same])
        · refine Or.inr ⟨?_, ?_⟩ <;> simp only [List.length_cons] <;> omega
      · refine Or.inl ?_
        rw [List.cons_append, quotedLen_close c _ (by simpa using double),
          quotedLen_close c _ (by simpa using double)]
    · rw [List.cons_append, quotedLen_inside quote c _ close, quotedLen_inside quote c _ close]
      rcases quotedLen_trailing quote other (d :: rest) with same | ⟨whole, more⟩
      · exact Or.inl (by rw [same])
      · refine Or.inr ⟨?_, ?_⟩ <;> simp only [List.length_cons] at whole more ⊢ <;> omega

theorem lineLen_trailing (rest : Text) : Grows (lineLen rest) (lineLen (rest ++ [w])) rest := by
  induction rest with
  | nil =>
    by_cases feed : w = '\n'
    · exact Or.inl (by simp [lineLen, feed])
    · exact Or.inr ⟨rfl, by simp [lineLen, feed]⟩
  | cons c rest ih =>
    by_cases feed : c = '\n'
    · exact Or.inl (by simp [lineLen, feed])
    · have step : ∀ later : Text, lineLen (c :: later) = lineLen later + 1 := by
        simp [lineLen, feed]
      rw [List.cons_append, step, step]
      rcases ih with same | ⟨whole, more⟩
      · exact Or.inl (by rw [same])
      · exact Or.inr ⟨by rw [List.length_cons]; omega, by rw [List.length_cons]; omega⟩

theorem head_trailing (rest : Text) (d : Char) (other : w ≠ d) :
    (rest ++ [w]).head? = some d ↔ rest.head? = some d := by
  cases rest with
  | nil => simp [other]
  | cons e later => simp

theorem blockLen_trailing (slash : w ≠ '/') (rest : Text) :
    Grows (blockLen rest) (blockLen (rest ++ [w])) rest := by
  induction rest with
  | nil => exact Or.inr ⟨rfl, by simp [blockLen]⟩
  | cons c rest ih =>
    simp only [List.cons_append, blockLen, head_trailing w rest '/' slash]
    split
    · exact Or.inl rfl
    · rcases ih with same | ⟨whole, more⟩
      · exact Or.inl (by rw [same])
      · exact Or.inr ⟨by rw [List.length_cons]; omega, by rw [List.length_cons]; omega⟩

variable (dollar : w ≠ '$')

include dollar

theorem prefix_trailing (tag rest : Text) (ends : tag.getLast? = some '$') :
    tag <+: rest ++ [w] ↔ tag <+: rest := by
  rw [List.prefix_concat_iff]
  constructor
  · rintro (whole | inside)
    · rw [whole, List.getLast?_append] at ends
      exact absurd (Option.some.inj ends) dollar
    · exact inside
  · exact Or.inr

theorem closingLen_trailing (tag rest : Text) (ends : tag.getLast? = some '$') :
    Grows (closingLen tag rest) (closingLen tag (rest ++ [w])) rest := by
  induction rest with
  | nil =>
    have open₀ : ¬tag.isPrefixOf [w] = true := by
      rw [List.isPrefixOf_iff_prefix]
      intro inside
      have none := (prefix_trailing w dollar tag [] ends).mp inside
      rw [List.prefix_nil.mp none] at ends
      cases ends
    exact Or.inr ⟨rfl, by rw [List.nil_append, closingLen, if_neg open₀]; rfl⟩
  | cons c rest ih =>
    have close : tag.isPrefixOf (c :: (rest ++ [w])) = true ↔ tag.isPrefixOf (c :: rest) = true := by
      rw [List.isPrefixOf_iff_prefix, List.isPrefixOf_iff_prefix, ← List.cons_append]
      exact prefix_trailing w dollar tag (c :: rest) ends
    simp only [List.cons_append, closingLen, close]
    split
    · exact Or.inl rfl
    · rcases ih with same | ⟨whole, more⟩
      · exact Or.inl (by rw [same])
      · exact Or.inr ⟨by rw [List.length_cons]; omega, by rw [List.length_cons]; omega⟩

theorem dollarTag_trailing (rest : Text) : dollarTag (rest ++ [w]) = dollarTag rest := by
  refine Option.ext fun tag => ?_
  rw [dollarTag_eq_some_iff, dollarTag_eq_some_iff]
  constructor
  · rintro ⟨name, later, split, word, rfl⟩
    rcases List.eq_nil_or_concat later with rfl | ⟨init, final, rfl⟩
    · have last := congrArg List.getLast? split
      rw [List.getLast?_append, List.getLast?_append] at last
      exact absurd (Option.some.inj last) dollar
    · rw [List.concat_eq_append, ← List.cons_append, ← List.append_assoc] at split
      exact ⟨name, init, (List.append_inj' split rfl).1, word, rfl⟩
  · rintro ⟨name, later, rfl, word, rfl⟩
    exact ⟨name, later ++ [w], by simp, word, rfl⟩

theorem dollarLen_trailing (rest : Text) (tag : Text) (opens : dollarTag rest = some tag) :
    Grows (dollarLen rest) (dollarLen (rest ++ [w])) rest := by
  have opens' := (dollarTag_trailing w dollar rest).trans opens
  obtain ⟨name, later, split, -, rfl⟩ := (dollarTag_eq_some_iff _ _).mp opens
  have ends : ('$' :: name ++ ['$']).getLast? = some '$' := by
    rw [List.getLast?_append]
    rfl
  have size : ('$' :: name ++ ['$']).length - 1 ≤ rest.length := by
    rw [split]
    simp
  rw [dollarLen, dollarLen, opens, opens']
  dsimp only
  rw [List.drop_append_of_le_length size]
  have closing := closingLen_trailing w dollar ('$' :: name ++ ['$'])
    (rest.drop (('$' :: name ++ ['$']).length - 1)) ends
  rcases closing with same | ⟨whole, more⟩
  · exact Or.inl (by rw [same])
  · rw [List.length_drop] at whole more
    exact Or.inr ⟨by omega, by omega⟩

end Trailing

/-- White space behind a text changes none of its tokens, but joins one that was open. -/
theorem tokenLen_trailing (w : Char) (white : isWhitespace w = true) (c : Char) (rest : Text) :
    tokenKind c (rest ++ [w]) = tokenKind c rest ∧
      (tokenLen c (rest ++ [w]) = tokenLen c rest ∨
        tokenKind c rest ≠ .plain ∧ tokenLen c rest = rest.length ∧
          tokenLen c (rest ++ [w]) = rest.length + 1) := by
  have apart := ne_of_whitespace w
  have dash := head_trailing w rest '-' (apart '-' white (by decide))
  have star := head_trailing w rest '*' (apart '*' white (by decide))
  have dollar := apart '$' white (by decide)
  have line : startsLineComment c (rest ++ [w]).head? = startsLineComment c rest.head? := by
    rw [Bool.eq_iff_iff, startsLineComment_iff, startsLineComment_iff, dash]
  have block : startsBlockComment c (rest ++ [w]).head? = startsBlockComment c rest.head? := by
    rw [Bool.eq_iff_iff, startsBlockComment_iff, startsBlockComment_iff, star]
  simp only [tokenKind, tokenLen, line, block, dollarTag_trailing w dollar]
  refine ⟨trivial, ?_⟩
  by_cases quote : isQuote c = true
  · have other : w ≠ c := by
      simp only [isQuote, Bool.or_eq_true, beq_iff_eq] at quote
      rcases quote with (rfl | rfl) | rfl
      · exact apart '\'' white (by decide)
      · exact apart '"' white (by decide)
      · exact apart '`' white (by decide)
    simp only [if_pos quote]
    rcases quotedLen_trailing w c other rest with same | grown
    · exact Or.inl same
    · exact Or.inr ⟨by simp, grown⟩
  simp only [if_neg quote]
  by_cases opensLine : startsLineComment c rest.head? = true
  · simp only [if_pos opensLine]
    rcases lineLen_trailing w rest with same | grown
    · exact Or.inl same
    · exact Or.inr ⟨by simp, grown⟩
  simp only [if_neg opensLine]
  by_cases opensBlock : startsBlockComment c rest.head? = true
  · simp only [if_pos opensBlock]
    obtain ⟨later, rfl⟩ := List.head?_eq_some_iff.mp ((startsBlockComment_iff _ _).mp opensBlock).2
    rcases blockLen_trailing w (apart '/' white (by decide)) later with same | grown
    · exact Or.inl (by simpa using same)
    · refine Or.inr ⟨by simp, ?_⟩
      simpa using grown
  simp only [if_neg opensBlock]
  by_cases tagged : (c == '$') = true
  · simp only [if_pos tagged]
    cases opens : dollarTag rest with
    | none =>
      refine Or.inl ?_
      rw [dollarLen, dollarLen, opens, dollarTag_trailing w dollar, opens]
    | some tag =>
      rcases dollarLen_trailing w dollar rest tag opens with same | grown
      · exact Or.inl same
      · exact Or.inr ⟨by simp, grown⟩
  · simp only [if_neg tagged]
    exact Or.inl trivial

/-- The tokens of a text with white space behind it: one token more, or the last
token, still open, with the white space in it. -/
inductive Widened (w : Char) : List Tok → List Tok → Prop where
  | add (kind : TokenKind) (inside : ¬Boundary ⟨kind, [w]⟩) : Widened w [] [⟨kind, [w]⟩]
  | grow (kind : TokenKind) (chars : Text) (inside : kind ≠ .separator) :
    Widened w [⟨kind, chars⟩] [⟨kind, chars ++ [w]⟩]
  | cons (token : Tok) (later later' : List Tok) (rest : Widened w later later') :
    Widened w (token :: later) (token :: later')

theorem scanner_trailing (w : Char) (white : isWhitespace w = true) (fresh : Bool) (c : Char)
    (rest : Text) :
    scanner.kind fresh c (rest ++ [w]) = scanner.kind fresh c rest ∧
      (scanner.extra fresh c (rest ++ [w]) = scanner.extra fresh c rest ∨
        scanner.kind fresh c rest ≠ .separator ∧ scanner.extra fresh c rest = rest.length ∧
          scanner.extra fresh c (rest ++ [w]) = rest.length + 1) := by
  have shell : startsShellCommand c (rest ++ [w]).head? = startsShellCommand c rest.head? := by
    cases rest with
    | cons d later => rfl
    | nil =>
      have letter := not_alpha_of_whitespace w white
      simp [startsShellCommand, letter]
  obtain ⟨kind, length⟩ := tokenLen_trailing w white c rest
  have spec := tokenKind_spec c rest
  simp only [scanner, shell, kind]
  refine ⟨trivial, ?_⟩
  by_cases space : (fresh && isWhitespace c) = true
  · simp only [if_pos space]
    exact Or.inl trivial
  simp only [if_neg space]
  by_cases command : (fresh && startsShellCommand c rest.head?) = true
  · simp only [if_pos command]
    rcases lineLen_trailing w rest with same | grown
    · exact Or.inl same
    · exact Or.inr ⟨by simp, grown⟩
  simp only [if_neg command]
  by_cases separator : (c == ';') = true
  · simp only [if_pos separator]
    exact Or.inl trivial
  simp only [if_neg separator]
  rcases length with same | ⟨-, grown⟩
  · exact Or.inl same
  · exact Or.inr ⟨spec.2.2, grown⟩

theorem tokens_trailing (w : Char) (white : isWhitespace w = true) (fresh : Bool) :
    ∀ chars : Text, Widened w (scanner.tokens fresh chars) (scanner.tokens fresh (chars ++ [w]))
  | [] => by
    rw [List.nil_append, Lexer.tokens_nil, Lexer.tokens_cons, List.drop_nil, Lexer.tokens_nil]
    by_cases space : (fresh && isWhitespace w) = true
    · rw [(scanner_blank fresh w [] space).1]
      exact .add .blank (by simp [Boundary])
    · have apart := ne_of_whitespace w
      have new : fresh = false := by simpa [white] using space
      have token := scanner_token fresh w [] space (by simp [new])
        (by simpa using apart ';' white (by decide))
      rw [token.1, tokenKind_whitespace w [] white, List.take_nil]
      exact .add .plain (by simp [Boundary])
  | c :: rest => by
    obtain ⟨kind, same | ⟨inside, whole, more⟩⟩ := scanner_trailing w white fresh c rest
    · have bound := scanner.extra_le fresh c rest
      have head : scanner.head fresh c (rest ++ [w]) = scanner.head fresh c rest := by
        simp only [Lexer.head, kind, same, List.take_append_of_le_length bound]
      rw [List.cons_append, Lexer.tokens_cons, Lexer.tokens_cons, head, same,
        List.drop_append_of_le_length bound]
      exact .cons _ _ _ (tokens_trailing w white _ _)
    · have head : scanner.head fresh c rest = ⟨scanner.kind fresh c rest, c :: rest⟩ := by
        rw [Lexer.head, whole, List.take_length]
      have head' : scanner.head fresh c (rest ++ [w]) =
          ⟨scanner.kind fresh c rest, c :: rest ++ [w]⟩ := by
        rw [Lexer.head, more, kind, List.take_of_length_le (by simp)]
        rfl
      rw [List.cons_append, Lexer.tokens_cons, Lexer.tokens_cons, head, head', whole, more,
        List.drop_length, List.drop_of_length_le (by simp), Lexer.tokens_nil, Lexer.tokens_nil]
      exact .grow _ _ inside
termination_by chars => chars.length
decreasing_by simp only [List.length_drop, List.length_cons]; omega

theorem plain_whitespace (w : Char) (white : isWhitespace w = true) (state : WordState) :
    state.plain w = state.flush := by
  have apart := ne_of_whitespace w
  simp [WordState.plain, apart '(' white (by decide), apart ')' white (by decide),
    not_wordChar_of_whitespace w white]

theorem wordsLoop_trailing (w : Char) (white : isWhitespace w = true) (chars : Text) :
    ∀ (skip : Nat) (state : WordState), skip ≤ chars.length + 1 →
      (wordsLoop skip state (chars ++ [w])).words =
        (wordsLoop (min skip chars.length) state chars).words := by
  induction chars with
  | nil =>
    intro skip state bound
    rw [List.nil_append, List.length_nil, Nat.min_zero]
    cases skip with
    | zero =>
      rw [wordsLoop_plain state w [] (hiddenLen_bare w [] (bare_of_whitespace w white)), plain_whitespace w white,
        wordsLoop, wordsLoop, WordState.flush_flush]
    | succ skip =>
      obtain rfl : skip = 0 := by simpa using bound
      rfl
  | cons c rest ih =>
    intro skip state bound
    cases skip with
    | succ skip =>
      rw [List.length_cons, Nat.add_min_add_right]
      exact ih skip state (by simpa using bound)
    | zero =>
      obtain ⟨kind, length⟩ := tokenLen_trailing w white c rest
      have hidden := hiddenLen_eq c rest
      have hidden' := hiddenLen_eq c (rest ++ [w])
      rw [kind] at hidden'
      have jump : tokenLen c (rest ++ [w]) ≤ rest.length + 1 ∧
          min (tokenLen c (rest ++ [w])) rest.length = tokenLen c rest := by
        have bound := tokenLen_le c rest
        rcases length with same | ⟨-, whole, more⟩ <;> omega
      rw [Nat.zero_min, List.cons_append, wordsLoop, wordsLoop]
      rw [hidden, hidden']
      cases tokenKind c rest with
      | quoted quote => exact (ih _ _ jump.1).trans (by rw [jump.2])
      | lineComment => exact (ih _ _ jump.1).trans (by rw [jump.2])
      | blockComment => exact (ih _ _ jump.1).trans (by rw [jump.2])
      | _ => exact (ih 0 _ (Nat.zero_le _)).trans (by rw [Nat.zero_min])

/-- White space behind a text changes none of its words. -/
theorem topLevelWords_trailing (w : Char) (white : isWhitespace w = true) (chars : Text) :
    topLevelWords (chars ++ [w]) = topLevelWords chars := by
  rw [topLevelWords, wordsLoop_trailing w white chars 0 .start (Nat.zero_le _), Nat.zero_min]
  rfl

theorem topLevelWords_leading (w : Char) (white : isWhitespace w = true) (chars : Text) :
    topLevelWords (w :: chars) = topLevelWords chars := by
  rw [topLevelWords, wordsLoop_plain .start w chars 
    (hiddenLen_bare w chars (bare_of_whitespace w white)),
    plain_whitespace w white]
  rfl

/-- Statements with the same words, and blank where the other is. -/
def SameVerdict (statement statement' : List Tok) : Prop :=
  blank (text statement) = blank (text statement') ∧ kindOf statement = kindOf statement'

theorem kinds_of_sameVerdict (first second : List (List Tok))
    (same : List.Forall₂ SameVerdict first second) :
    (shown first).map kindOf = (shown second).map kindOf := by
  induction same with
  | nil => rfl
  | cons head tail ih =>
    simp only [shown, List.filter_cons, head.1] at ih ⊢
    split
    · rw [List.map_cons, List.map_cons, head.2, ih]
    · exact ih

theorem statements_widened (w : Char) (white : isWhitespace w = true) (tokens tokens' : List Tok)
    (widened : Widened w tokens tokens') :
    ∀ current, List.Forall₂ SameVerdict (statementTokens current tokens)
      (statementTokens current tokens') := by
  have same : ∀ statement, SameVerdict statement statement := fun _ => ⟨rfl, rfl⟩
  have longer : ∀ statement statement', text statement' = text statement ++ [w] →
      SameVerdict statement statement' := by
    intro statement statement' more
    refine ⟨?_, ?_⟩
    · simp [more, blank, white]
    · rw [kindOf, kindOf, more, topLevelWords_trailing w white]
  have last : ∀ statement statement', SameVerdict statement statement' →
      List.Forall₂ SameVerdict (statementTokens statement []) (statementTokens statement' []) := by
    intro statement statement' alike
    rw [statementTokens, statementTokens, alike.1]
    split
    · exact .nil
    · exact .cons alike .nil
  induction widened with
  | add kind inside =>
    intro current
    rw [statementTokens_inside _ _ _ inside]
    exact last _ _ (longer _ _ (by simp))
  | grow kind chars inside =>
    intro current
    have more : text (current ++ [(⟨kind, chars ++ [w]⟩ : Tok)]) =
        text (current ++ [(⟨kind, chars⟩ : Tok)]) ++ [w] := by simp
    by_cases line : kind = .shell
    · rw [statementTokens_shell _ _ _ line, statementTokens_shell _ _ _ line]
      exact .cons (longer _ _ more) (last _ _ (same []))
    · have none : ∀ chars : Text, ¬Boundary ⟨kind, chars⟩ :=
        fun chars either => either.elim inside line
      rw [statementTokens_inside _ _ _ (none _), statementTokens_inside _ _ _ (none _)]
      exact last _ _ (longer _ _ more)
  | cons token later later' rest ih =>
    intro current
    by_cases separator : token.kind = .separator
    · rw [statementTokens_separator _ _ _ separator, statementTokens_separator _ _ _ separator]
      exact .cons (same _) (ih [])
    by_cases line : token.kind = .shell
    · rw [statementTokens_shell _ _ _ line, statementTokens_shell _ _ _ line]
      exact .cons (same _) (ih [])
    · have inside : ¬Boundary token := fun either => either.elim separator line
      rw [statementTokens_inside _ _ _ inside, statementTokens_inside _ _ _ inside]
      exact ih _

theorem kinds_trailing (w : Char) (white : isWhitespace w = true) (sql : Text) :
    kinds (sql ++ [w]) = kinds sql := by
  rw [kinds_eq_shown, kinds_eq_shown]
  exact (kinds_of_sameVerdict _ _ (statements_widened w white _ _
    (tokens_trailing w white true sql) [])).symm

theorem statements_leading (w : Char) (white : isWhitespace w = true) (tokens : List Tok) :
    ∀ current, List.Forall₂ SameVerdict (statementTokens current tokens)
      (statementTokens (⟨.blank, [w]⟩ :: current) tokens) := by
  have longer : ∀ statement : List Tok, SameVerdict statement (⟨.blank, [w]⟩ :: statement) := by
    intro statement
    refine ⟨?_, ?_⟩
    · simp [blank, white]
    · rw [kindOf, kindOf, text_cons, List.singleton_append, topLevelWords_leading w white]
  have same : ∀ statements : List (List Tok), List.Forall₂ SameVerdict statements statements :=
    fun statements => List.forall₂_same.mpr fun _ _ => ⟨rfl, rfl⟩
  induction tokens with
  | nil =>
    intro current
    rw [statementTokens, statementTokens, (longer current).1]
    split
    · exact .nil
    · exact .cons (longer current) .nil
  | cons token later ih =>
    intro current
    by_cases separator : token.kind = .separator
    · rw [statementTokens_separator _ _ _ separator, statementTokens_separator _ _ _ separator]
      exact .cons (longer _) (same _)
    by_cases line : token.kind = .shell
    · rw [statementTokens_shell _ _ _ line, statementTokens_shell _ _ _ line]
      exact .cons (longer _) (same _)
    · have inside : ¬Boundary token := fun either => either.elim separator line
      rw [statementTokens_inside _ _ _ inside, statementTokens_inside _ _ _ inside]
      exact ih _

theorem kinds_leading (w : Char) (white : isWhitespace w = true) (sql : Text) :
    kinds (w :: sql) = kinds sql := by
  obtain ⟨head, extra⟩ := scanner_blank true w sql (by simpa using white)
  have tokens : scanTokens (w :: sql) = ⟨.blank, [w]⟩ :: scanTokens sql := by
    rw [scanTokens, Lexer.tokens_cons, head, extra]
    rfl
  rw [kinds_eq_shown, kinds_eq_shown, tokens, statementTokens_inside _ _ _ (by simp [Boundary])]
  exact (kinds_of_sameVerdict _ _ (statements_leading w white _ [])).symm

theorem kinds_surrounded (front back sql : Text) (left : ∀ c ∈ front, isWhitespace c = true)
    (right : ∀ c ∈ back, isWhitespace c = true) : kinds (front ++ sql ++ back) = kinds sql := by
  have trailing : ∀ back sql : Text, (∀ c ∈ back, isWhitespace c = true) →
      kinds (sql ++ back) = kinds sql := by
    intro back
    induction back with
    | nil => simp
    | cons c back ih =>
      intro sql white
      rw [List.append_cons, ih _ fun d member => white d (List.mem_cons_of_mem c member),
        kinds_trailing c (white c List.mem_cons_self)]
  rw [trailing back _ right]
  induction front with
  | nil => rfl
  | cons c front ih =>
    rw [List.cons_append, kinds_leading c (left c List.mem_cons_self),
      ih fun d member => left d (List.mem_cons_of_mem c member)]

/-- The white space around a script has no part in its verdicts. -/
theorem kinds_trim (sql : Text) : kinds (trim sql) = kinds sql := by
  obtain ⟨front, back, split, left, right⟩ := strip_parts isWhitespace sql
  conv => rhs; rw [split]
  exact (kinds_surrounded front back _ left right).symm

/-- A statement that is cut from a script is one statement alone, of the same kind. -/
theorem kinds_own (sql : Text) (statement : List Tok)
    (member : statement ∈ statementTokens [] (scanTokens sql))
    (visible : blank (text statement) = false) : kinds (text statement) = [kindOf statement] := by
  have single : statementTokens [] statement = [statement] := by
    obtain ⟨run, ending, rfl, inside, rfl | ⟨token, rfl, kind⟩⟩ :=
      statementTokens_shape [] (scanTokens sql) (by simp) statement member
    · rw [List.append_nil] at visible ⊢
      have whole := statementTokens_run [] run [] inside
      rw [List.append_nil, List.nil_append] at whole
      rw [whole, statementTokens, visible]
      rfl
    · rw [statementTokens_run _ _ _ inside, statementTokens_shell _ _ _ kind]
      rfl
  rw [kinds_eq, statement_tokens sql statement member, single]
  simp [visible]

/-- The verdicts on a script are those on the statements of its plan, each read alone. -/
theorem kinds_plan (sql : Text) :
    kinds sql = (planStatements sql true).flatMap fun planned => kinds planned.text := by
  have texts : (planStatements sql true).map Planned.text =
      RunTargets.visibleTexts (splitStatements sql) := by
    rw [planStatements_eq ⟨fun _ => none, by simp⟩ .postgres sql rfl, cutStatements_texts]
    exact RunTargets.rangeTexts_scan sql
  have own := kinds_own sql
  rw [← List.flatMap_map, texts, splitStatements_eq, kinds_eq]
  generalize statementTokens [] (scanTokens sql) = statements at own
  induction statements with
  | nil => rfl
  | cons first later ih =>
    obtain ⟨this, others⟩ := List.forall_mem_cons.mp own
    rw [List.map_cons, RunTargets.visibleTexts_cons, List.flatMap_append, ← ih others,
      List.filter_cons]
    cases empty : blank (text first) with
    | true => rfl
    | false => simp [kinds_trim, this empty]

/-- A script passes the gate exactly where each statement of its plan, gated alone, passes it. -/
theorem gate_passes_plan (readOnly confirm : Bool) (sql : Text) :
    Guard.scriptGate readOnly (classify (trim sql)) confirm = .ok () ↔
      ∀ planned ∈ planStatements sql true,
        Guard.scriptGate readOnly (classify (trim planned.text)) confirm = .ok () := by
  have passes : ∀ part, Guard.scriptGate readOnly (classify (trim part)) confirm = .ok () ↔
      ∀ kind ∈ kinds part, (readOnly = true → kind = .read) ∧
        (confirm = false → kind ≠ .destructive) := by
    intro part
    rw [← kinds_trim, Guard.scriptGate_ok_iff, kinds, List.forall_mem_map]
    exact ⟨fun both kind member => ⟨fun locked => both.1 locked kind member,
      fun unsure => both.2 unsure kind member⟩, fun all =>
        ⟨fun locked kind member => (all kind member).1 locked,
          fun unsure kind member => (all kind member).2 unsure⟩⟩
  simp only [passes]
  rw [kinds_plan, List.forall_mem_flatMap]

end DbFree.Destructive
