import DbFree.DestructiveTokens

/- What a token of the scanner depends on beyond its own text: whether one more
character follows, and whether a dollar tag does. -/
namespace DbFree.Destructive

open Chars Lexing

theorem dollar_not_wordChar : isWordChar '$' = false := by decide +kernel

/-- A dollar tag is a run of word characters between two dollars. -/
theorem dollarTag_eq_some_iff (rest tag : Text) :
    dollarTag rest = some tag ↔
      ∃ name later, rest = name ++ '$' :: later ∧ (∀ c ∈ name, isWordChar c = true) ∧
        tag = '$' :: name ++ ['$'] := by
  simp only [dollarTag, Option.ite_none_right_eq_some, Option.some.injEq]
  constructor
  · rintro ⟨closes, rfl⟩
    obtain ⟨later, split⟩ := List.head?_eq_some_iff.mp closes
    refine ⟨rest.takeWhile isWordChar, later, ?_, ?_, rfl⟩
    · rw [← split, List.prefix_iff_eq_append.mp (List.takeWhile_prefix isWordChar)]
    · intro c member
      exact List.mem_takeWhile_imp member
  · rintro ⟨name, later, rfl, word, rfl⟩
    have run : (name ++ '$' :: later).takeWhile isWordChar = name := by
      rw [List.takeWhile_append_of_pos word, List.takeWhile_cons_of_neg, List.append_nil]
      simp [dollar_not_wordChar]
    rw [run, List.drop_left]
    exact ⟨rfl, rfl⟩

/-- `rest'` may stand for `rest` behind a token: it begins with the same character or
is empty, and opens no dollar quote that `rest` does not open. -/
structure StandsFor (rest' rest : Text) : Prop where
  head : rest' = [] ∨ rest'.head? = rest.head?
  tag : dollarTag rest = none → dollarTag rest' = none

theorem StandsFor.nil {rest' : Text} (stands : StandsFor rest' []) : rest' = [] := by
  rcases stands.head with empty | same
  · exact empty
  · simpa using same

theorem StandsFor.head_of_ne {rest' rest : Text} (stands : StandsFor rest' rest) {c : Char}
    (first : rest'.head? = some c) : rest.head? = some c := by
  rcases stands.head with rfl | same
  · simp at first
  · rw [← same, first]

theorem quotedLen_inside (quote c : Char) (rest : Text) (other : c ≠ quote) :
    quotedLen quote (c :: rest) = quotedLen quote rest + 1 := by
  rw [quotedLen.eq_def]
  simp only [if_neg other]

theorem quotedLen_double (quote : Char) (rest : Text) :
    quotedLen quote (quote :: quote :: rest) = quotedLen quote rest + 2 := by
  simp [quotedLen]

theorem quotedLen_close (quote : Char) (rest : Text) (other : rest.head? ≠ some quote) :
    quotedLen quote (quote :: rest) = 1 := by
  cases rest with
  | nil => simp [quotedLen]
  | cons d later =>
    have different : d ≠ quote := by simpa using other
    simp [quotedLen, different]

theorem quotedLen_pos (quote c : Char) (later : Text) : 0 < quotedLen quote (c :: later) := by
  unfold quotedLen
  split
  · split
    · split <;> omega
    · omega
  · omega

section Lengths

variable {rest' rest : Text}

theorem quotedLen_stands (stands : StandsFor rest' rest) (quote : Char) : ∀ tail : Text,
    quotedLen quote (tail ++ rest) = tail.length → quotedLen quote (tail ++ rest') = tail.length
  | [], whole => by
    cases rest with
    | nil => rw [stands.nil]; exact whole
    | cons c later =>
      have positive := quotedLen_pos quote c later
      simp only [List.nil_append, List.length_nil] at whole
      omega
  | [c], whole => by
    by_cases close : c = quote
    · subst close
      by_cases double : rest.head? = some c
      · obtain ⟨later, rfl⟩ := List.head?_eq_some_iff.mp double
        rw [List.singleton_append, quotedLen_double, List.length_singleton] at whole
        omega
      · have single : rest'.head? ≠ some c := fun first => double (stands.head_of_ne first)
        rw [List.singleton_append, quotedLen_close c rest' single, List.length_singleton]
    · rw [List.singleton_append, quotedLen_inside quote c _ close, List.length_singleton] at whole ⊢
      have shorter := quotedLen_stands stands quote [] (by simpa using whole)
      simpa using shorter
  | c :: d :: tail, whole => by
    by_cases close : c = quote
    · subst close
      by_cases double : d = c
      · subst double
        simp only [List.cons_append, quotedLen_double, List.length_cons] at whole ⊢
        have shorter := quotedLen_stands stands d tail (by omega)
        omega
      · have single : (d :: tail ++ rest).head? ≠ some c := by simpa using double
        rw [List.cons_append, quotedLen_close c _ single] at whole
        simp only [List.length_cons] at whole
        omega
    · rw [List.cons_append, quotedLen_inside quote c _ close, List.length_cons] at whole ⊢
      have shorter := quotedLen_stands stands quote (d :: tail) (by omega)
      omega

theorem lineLen_append (tail after : Text) :
    lineLen (tail ++ after) = tail.length ↔
      '\n' ∉ tail ∧ (after = [] ∨ after.head? = some '\n') := by
  induction tail with
  | nil =>
    cases after with
    | nil => simp [lineLen]
    | cons c later =>
      by_cases feed : c = '\n' <;> simp [lineLen, feed]
  | cons c tail ih =>
    by_cases feed : c = '\n'
    · simp [lineLen, feed]
    · have step : lineLen (c :: tail ++ after) = lineLen (tail ++ after) + 1 := by
        simp [lineLen, feed]
      rw [step, List.length_cons, Nat.add_right_cancel_iff, ih, List.mem_cons]
      simp [Ne.symm feed]

theorem lineLen_stands (stands : StandsFor rest' rest) (tail : Text)
    (whole : lineLen (tail ++ rest) = tail.length) : lineLen (tail ++ rest') = tail.length := by
  rw [lineLen_append] at whole ⊢
  refine ⟨whole.1, ?_⟩
  rcases stands.head with empty | same
  · exact Or.inl empty
  · rcases whole.2 with rfl | feed
    · exact Or.inl (stands.nil)
    · exact Or.inr (same.trans feed)

theorem blockLen_stands (stands : StandsFor rest' rest) : ∀ tail : Text,
    blockLen (tail ++ rest) = tail.length → blockLen (tail ++ rest') = tail.length
  | [], whole => by
    cases rest with
    | nil => rw [stands.nil]; exact whole
    | cons c later =>
      rw [List.nil_append, blockLen] at whole
      split at whole <;> simp at whole
  | [c], whole => by
    rw [List.cons_append, List.nil_append, blockLen] at whole ⊢
    split at whole
    · simp at whole
    · rename_i open₀
      have none' : ¬(c = '*' ∧ rest'.head? = some '/') :=
        fun close => open₀ ⟨close.1, stands.head_of_ne close.2⟩
      rw [if_neg none']
      simp only [List.length_cons, List.length_nil, Nat.zero_add, Nat.add_eq_right] at whole ⊢
      exact blockLen_stands stands [] whole
  | c :: d :: tail, whole => by
    rw [List.cons_append, blockLen] at whole ⊢
    by_cases close : c = '*' ∧ d = '/'
    · have closed : c = '*' ∧ (d :: tail ++ rest).head? = some '/' := ⟨close.1, by simp [close.2]⟩
      have closed' : c = '*' ∧ (d :: tail ++ rest').head? = some '/' :=
        ⟨close.1, by simp [close.2]⟩
      rw [if_pos closed] at whole
      rw [if_pos closed', whole]
    · have still : ∀ after : Text, ¬(c = '*' ∧ (d :: tail ++ after).head? = some '/') := by
        simpa using close
      rw [if_neg (still _), List.length_cons, Nat.add_right_cancel_iff] at whole ⊢
      exact blockLen_stands stands (d :: tail) whole

/-- A dollar quote that more text follows has been closed. -/
theorem closingLen_closed (tag : Text) (c : Char) (later : Text) : ∀ tail : Text,
    closingLen tag (tail ++ c :: later) = tail.length → tag.length ≤ tail.length
  | [], whole => by
    rw [List.nil_append, closingLen] at whole
    split at whole <;> simp only [List.length_nil] at whole ⊢ <;> omega
  | d :: tail, whole => by
    rw [List.cons_append, closingLen] at whole
    split at whole
    · exact whole.le
    · rw [List.length_cons, Nat.add_right_cancel_iff] at whole
      have shorter := closingLen_closed tag c later tail whole
      rw [List.length_cons]
      omega

theorem closingLen_stands (stands : StandsFor rest' rest) (tag : Text) : ∀ tail : Text,
    closingLen tag (tail ++ rest) = tail.length → closingLen tag (tail ++ rest') = tail.length := by
  cases rest with
  | nil =>
    intro tail whole
    rwa [stands.nil]
  | cons d later =>
    intro tail whole
    induction tail with
    | nil =>
      have short := closingLen_closed tag d later [] whole
      have empty : tag = [] := List.length_eq_zero_iff.mp (Nat.le_zero.mp short)
      subst empty
      cases rest' <;> simp [closingLen]
    | cons c tail ih =>
      have long := closingLen_closed tag d later (c :: tail) whole
      have local₀ : ∀ after : Text,
          tag.isPrefixOf (c :: tail ++ after) = true ↔ tag <+: c :: tail := by
        intro after
        rw [List.isPrefixOf_iff_prefix]
        exact ⟨fun close => List.prefix_of_prefix_length_le close (List.prefix_append _ _) long,
          fun close => close.trans (List.prefix_append _ _)⟩
      rw [List.cons_append, closingLen, ← List.cons_append] at whole ⊢
      by_cases close : tag <+: c :: tail
      · rw [if_pos ((local₀ _).mpr close)] at whole ⊢
        exact whole
      · rw [if_neg (mt (local₀ _).mp close), List.length_cons, Nat.add_right_cancel_iff] at whole ⊢
        exact ih whole

theorem dollarLen_stands (stands : StandsFor rest' rest) (tail : Text)
    (whole : dollarLen (tail ++ rest) = tail.length) :
    dollarLen (tail ++ rest') = tail.length ∧
      dollarTag (tail ++ rest') = dollarTag (tail ++ rest) := by
  cases opens : dollarTag (tail ++ rest) with
  | none =>
    rw [dollarLen, opens] at whole
    have empty : tail = [] := List.length_eq_zero_iff.mp whole.symm
    subst empty
    rw [List.nil_append] at opens ⊢
    rw [dollarLen, stands.tag opens, List.length_nil]
    exact ⟨rfl, rfl⟩
  | some tag =>
    rw [dollarLen, opens] at whole
    dsimp only at whole
    obtain ⟨name, later, split, word, rfl⟩ := (dollarTag_eq_some_iff _ _).mp opens
    have short : (name ++ ['$']).length ≤ tail.length := by
      simp only [List.length_cons, List.length_append, List.length_nil] at whole ⊢
      omega
    have opened : name ++ ['$'] <+: tail := by
      refine List.prefix_of_prefix_length_le ?_ (List.prefix_append tail rest) short
      exact ⟨later, by rw [split, List.append_assoc, List.singleton_append]⟩
    obtain ⟨body, rfl⟩ := opened
    have size : ('$' :: name ++ ['$']).length - 1 = (name ++ ['$']).length := by simp
    have again : ∀ after : Text,
        dollarTag (name ++ ['$'] ++ body ++ after) = some ('$' :: name ++ ['$']) := by
      intro after
      exact (dollarTag_eq_some_iff _ _).mpr ⟨name, body ++ after, by simp, word, rfl⟩
    rw [size, List.append_assoc, List.drop_left] at whole
    refine ⟨?_, again rest'⟩
    rw [dollarLen, again]
    dsimp only
    rw [size, List.append_assoc, List.drop_left]
    simp only [List.length_append] at whole ⊢
    have closed := closingLen_stands stands ('$' :: name ++ ['$']) body (by omega)
    omega

end Lengths

theorem dollarTag_cons_eq_none_iff (c : Char) (rest : Text) :
    dollarTag (c :: rest) = none ↔ c ≠ '$' ∧ (isWordChar c = true → dollarTag rest = none) := by
  by_cases word : isWordChar c = true
  · have apart : c ≠ '$' := by
      rintro rfl
      rw [dollar_not_wordChar] at word
      cases word
    simp [dollarTag, word, apart]
  · simp [dollarTag, word]

theorem standsFor_nil (rest : Text) : StandsFor [] rest :=
  ⟨Or.inl rfl, fun _ => rfl⟩

/-- Nothing a token depends on lies beyond a character that is in no word. -/
theorem standsFor_change (c : Char) (apart : isWordChar c = false) (later later' : Text) :
    StandsFor (c :: later') (c :: later) := by
  refine ⟨Or.inr rfl, ?_⟩
  rw [dollarTag_cons_eq_none_iff, dollarTag_cons_eq_none_iff, apart]
  simp

theorem StandsFor.append {rest' rest : Text} (stands : StandsFor rest' rest) :
    ∀ front : Text, StandsFor (front ++ rest') (front ++ rest)
  | [] => stands
  | c :: front => by
    refine ⟨Or.inr rfl, ?_⟩
    rw [List.cons_append, List.cons_append, dollarTag_cons_eq_none_iff, dollarTag_cons_eq_none_iff]
    rintro ⟨apart, word⟩
    exact ⟨apart, fun member => (stands.append front).tag (word member)⟩

theorem startsLineComment_iff (c : Char) (next : Option Char) :
    startsLineComment c next = true ↔ c = '-' ∧ next = some '-' := by
  simp [startsLineComment]

theorem startsBlockComment_iff (c : Char) (next : Option Char) :
    startsBlockComment c next = true ↔ c = '/' ∧ next = some '*' := by
  simp [startsBlockComment]

variable {rest' rest : Text}

theorem lineLen_pos (c : Char) (text : Text) (line : startsLineComment c text.head? = true) :
    0 < lineLen text := by
  obtain ⟨-, next⟩ := (startsLineComment_iff _ _).mp line
  obtain ⟨later, rfl⟩ := List.head?_eq_some_iff.mp next
  simp [lineLen]

/-- A token outside shell lines is read in the same way in front of what stands for the
text behind it. -/
theorem tokenLen_stands (stands : StandsFor rest' rest) (c : Char) (tail : Text)
    (whole : tokenLen c (tail ++ rest) = tail.length) :
    tokenLen c (tail ++ rest') = tail.length ∧
      tokenKind c (tail ++ rest') = tokenKind c (tail ++ rest) := by
  by_cases quote : isQuote c = true
  · simp only [tokenLen, tokenKind, if_pos quote] at whole ⊢
    exact ⟨quotedLen_stands stands c tail whole, trivial⟩
  rw [tokenLen, if_neg quote] at whole
  simp only [tokenLen, tokenKind, if_neg quote]
  cases tail with
  | nil =>
    rw [List.nil_append, List.length_nil] at whole
    rw [List.nil_append, List.nil_append, List.length_nil]
    -- No token of one character is a comment or a dollar quote.
    by_cases line : startsLineComment c rest.head? = true
    · have long := lineLen_pos c rest line
      rw [if_pos line] at whole
      omega
    rw [if_neg line] at whole
    by_cases block : startsBlockComment c rest.head? = true
    · rw [if_pos block] at whole
      omega
    rw [if_neg block] at whole
    have line' : ¬startsLineComment c rest'.head? = true := by
      intro starts
      obtain ⟨dash, next⟩ := (startsLineComment_iff _ _).mp starts
      exact line ((startsLineComment_iff _ _).mpr ⟨dash, stands.head_of_ne next⟩)
    have block' : ¬startsBlockComment c rest'.head? = true := by
      intro starts
      obtain ⟨slash, next⟩ := (startsBlockComment_iff _ _).mp starts
      exact block ((startsBlockComment_iff _ _).mpr ⟨slash, stands.head_of_ne next⟩)
    rw [if_neg line, if_neg line', if_neg line', if_neg block, if_neg block', if_neg block']
    by_cases dollar : (c == '$') = true
    · rw [if_pos dollar] at whole
      rw [if_pos dollar, if_pos dollar, if_pos dollar]
      obtain ⟨length, tag⟩ := dollarLen_stands stands [] whole
      rw [List.nil_append, List.nil_append] at tag
      exact ⟨length, by rw [tag]⟩
    · rw [if_neg dollar, if_neg dollar, if_neg dollar]
      exact ⟨rfl, rfl⟩
  | cons d tail =>
    simp only [List.cons_append, List.head?_cons] at whole ⊢
    by_cases line : startsLineComment c (some d) = true
    · rw [if_pos line] at whole
      rw [if_pos line, if_pos line, if_pos line]
      exact ⟨lineLen_stands stands (d :: tail) whole, rfl⟩
    rw [if_neg line] at whole
    rw [if_neg line, if_neg line, if_neg line]
    by_cases block : startsBlockComment c (some d) = true
    · rw [if_pos block] at whole
      rw [if_pos block, if_pos block, if_pos block]
      simp only [List.drop_succ_cons, List.drop_zero, List.length_cons,
        Nat.add_right_cancel_iff] at whole ⊢
      exact ⟨blockLen_stands stands tail whole, trivial⟩
    rw [if_neg block] at whole
    rw [if_neg block, if_neg block, if_neg block]
    by_cases dollar : (c == '$') = true
    · rw [if_pos dollar] at whole
      rw [if_pos dollar, if_pos dollar, if_pos dollar]
      obtain ⟨length, tag⟩ := dollarLen_stands stands (d :: tail) whole
      rw [List.cons_append, List.cons_append] at tag
      exact ⟨length, by rw [tag]⟩
    · rw [if_neg dollar, List.length_cons] at whole
      omega

theorem startsShellCommand_iff (c : Char) (next : Option Char) :
    startsShellCommand c next = true ↔ c = '\\' ∨ c = '.' ∧ ∃ d, next = some d ∧ d.isAlpha := by
  cases next <;> simp [startsShellCommand]

theorem readsOne_stands (stands : StandsFor rest' rest) (fresh : Bool) (token : Tok)
    (reads : scanner.ReadsOne fresh token rest) : scanner.ReadsOne fresh token rest' := by
  obtain ⟨c, tail, shape, kind, extra⟩ := reads
  refine ⟨c, tail, shape, ?_⟩
  simp only [scanner] at kind extra ⊢
  by_cases white : (fresh && isWhitespace c) = true
  · simp only [if_pos white] at kind extra ⊢
    exact ⟨kind, extra⟩
  simp only [if_neg white] at kind extra ⊢
  -- Whether a shell command starts shows in the token itself, its line feed excluded.
  have shell : (fresh && startsShellCommand c (tail ++ rest').head?) =
      (fresh && startsShellCommand c (tail ++ rest).head?) := by
    cases tail with
    | cons d tail => rfl
    | nil =>
      rw [List.nil_append, List.nil_append] at *
      rw [Bool.eq_iff_iff, Bool.and_eq_true_iff, Bool.and_eq_true_iff, startsShellCommand_iff,
        startsShellCommand_iff]
      constructor
      · rintro ⟨new, backslash | ⟨dot, d, first, letter⟩⟩
        · exact ⟨new, Or.inl backslash⟩
        · exact ⟨new, Or.inr ⟨dot, d, stands.head_of_ne first, letter⟩⟩
      · rintro ⟨new, backslash | ⟨dot, d, first, letter⟩⟩
        · exact ⟨new, Or.inl backslash⟩
        · have starts : (fresh && startsShellCommand c rest.head?) = true := by
            rw [new, Bool.true_and, startsShellCommand_iff]
            exact Or.inr ⟨dot, d, first, letter⟩
          rw [if_pos starts] at extra
          obtain ⟨later, rfl⟩ := List.head?_eq_some_iff.mp first
          have feed : d ≠ '\n' := by
            rintro rfl
            simp [Char.isAlpha, Char.isUpper, Char.isLower] at letter
          simp [lineLen, feed] at extra
  rw [shell]
  by_cases command : (fresh && startsShellCommand c (tail ++ rest).head?) = true
  · rw [if_pos command] at kind extra
    rw [if_pos command, if_pos command]
    exact ⟨kind, lineLen_stands stands tail extra⟩
  rw [if_neg command] at kind extra
  rw [if_neg command, if_neg command]
  by_cases separator : (c == ';') = true
  · rw [if_pos separator] at kind extra ⊢
    rw [if_pos separator]
    exact ⟨kind, extra⟩
  rw [if_neg separator] at kind extra ⊢
  rw [if_neg separator]
  obtain ⟨length, same⟩ := tokenLen_stands stands c tail extra
  exact ⟨same.trans kind, length⟩

theorem reads_stands (stands : StandsFor rest' rest) (fresh : Bool) (tokens : List Tok)
    (reads : scanner.Reads fresh tokens rest) : scanner.Reads fresh tokens rest' := by
  induction tokens generalizing fresh with
  | nil => trivial
  | cons token later ih =>
    exact ⟨readsOne_stands (stands.append _) fresh token reads.1, ih _ reads.2⟩

/-- Tokens that are read in front of some text are the tokens of their own text. -/
theorem tokens_text_of_reads (fresh : Bool) (tokens : List Tok)
    (reads : scanner.Reads fresh tokens rest) :
    scanner.tokens fresh (text tokens) = tokens :=
  (scanner.tokens_text_iff fresh tokens).mpr (reads_stands (standsFor_nil rest) fresh tokens reads)

theorem reads_scan (sql : Text) : scanner.Reads true (scanTokens sql) [] :=
  scanner.reads_tokens true sql

/-- Each statement of a script is read on its own as it is read in the script. -/
theorem statementTokens_reads (current later : List Tok) (rest : Text)
    (reads : scanner.Reads true (current ++ later) rest) :
    ∀ statement ∈ statementTokens current later, scanner.Reads true statement [] := by
  induction later generalizing current with
  | nil =>
    intro statement member
    rw [List.append_nil] at reads
    simp only [statementTokens] at member
    split at member
    · cases member
    · rw [List.mem_singleton.mp member]
      exact reads_stands (standsFor_nil rest) true current reads
  | cons token later ih =>
    have front := ((scanner.reads_append true current (token :: later) rest).mp reads)
    have grown : scanner.Reads true (current ++ [token] ++ later) rest := by simpa using reads
    have parts := (scanner.reads_append true (current ++ [token]) later rest).mp grown
    have closed := reads_stands (standsFor_nil _) true current front.1
    have closed' := reads_stands (standsFor_nil _) true (current ++ [token]) parts.1
    cases kind : token.kind with
    | separator =>
      have again : scanner.Reads true ([] ++ later) rest := by
        have behind := parts.2
        simp only [Lexer.after_append, Lexer.after_cons, Lexer.after_nil, scanner, kind] at behind
        exact behind
      simp only [statementTokens, kind, List.mem_cons]
      rintro statement (rfl | member)
      · exact closed
      · exact ih [] again statement member
    | shell =>
      have again : scanner.Reads true ([] ++ later) rest := by
        have behind := parts.2
        simp only [Lexer.after_append, Lexer.after_cons, Lexer.after_nil, scanner, kind] at behind
        exact behind
      simp only [statementTokens, kind, List.mem_cons]
      rintro statement (rfl | member)
      · exact closed'
      · exact ih [] again statement member
    | _ =>
      simp only [statementTokens, kind]
      exact ih (current ++ [token]) grown

theorem reads_statement (sql : Text) (statement : List Tok)
    (member : statement ∈ statementTokens [] (scanTokens sql)) :
    scanner.Reads true statement [] :=
  statementTokens_reads [] (scanTokens sql) [] (reads_scan sql) statement member

theorem statement_tokens (sql : Text) (statement : List Tok)
    (member : statement ∈ statementTokens [] (scanTokens sql)) :
    scanTokens (text statement) = statement :=
  tokens_text_of_reads true statement (reads_statement sql statement member)

end DbFree.Destructive
