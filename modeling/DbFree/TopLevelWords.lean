import DbFree.DestructiveReading

/- The words the verdict is taken from, read token by token. The scanner and
`top_level_words` agree on every kind of token but dollar quotes and shell lines. -/
namespace DbFree.Destructive

open Chars Texts Lexing

/-- A token that both tokenizers know, or that neither does. -/
def Agreed (token : Tok) : Prop :=
  match token.kind with
  | .shell | .dollar _ => False
  | _ => True

namespace WordState

@[simp] theorem flush_word (state : WordState) : state.flush.word = [] := by
  unfold flush
  split
  · exact List.isEmpty_iff.mp ‹_›
  · rfl

@[simp] theorem flush_depth (state : WordState) : state.flush.depth = state.depth := by
  unfold flush
  split <;> rfl

theorem flush_of_empty (state : WordState) (empty : state.word = []) : state.flush = state := by
  simp [flush, empty]

@[simp] theorem flush_flush (state : WordState) : state.flush.flush = state.flush :=
  flush_of_empty _ (flush_word state)

theorem words_flush (state : WordState) : state.words <+: state.flush.words := by
  unfold flush
  split
  · exact List.prefix_rfl
  · dsimp only
    split
    · exact List.prefix_append _ _
    · exact List.prefix_rfl

theorem words_plain (state : WordState) (c : Char) : state.words <+: (state.plain c).words := by
  unfold plain
  split
  · exact words_flush state
  · split
    · exact words_flush state
    · split
      · exact List.prefix_rfl
      · exact words_flush state

/-- The state with words read before those it has. -/
def before (words : List Text) (state : WordState) : WordState :=
  { state with words := words ++ state.words }

@[simp] theorem before_flush (words : List Text) (state : WordState) :
    (state.before words).flush = state.flush.before words := by
  by_cases empty : state.word.isEmpty = true
  · simp [flush, before, empty]
  · by_cases ground : state.depth = 0 <;> simp [flush, before, empty, ground]

@[simp] theorem before_plain (words : List Text) (state : WordState) (c : Char) :
    (state.before words).plain c = (state.plain c).before words := by
  simp only [plain, openParen, closeParen, before_flush]
  split
  · rfl
  · split
    · rfl
    · split <;> rfl

end WordState

open WordState

/-- What a token that both tokenizers know does to the words. -/
def absorb (state : WordState) (token : Tok) : WordState :=
  match token.kind with
  | .quoted _ | .lineComment | .blockComment => state.flush
  | _ => token.text.foldl WordState.plain state

theorem wordsLoop_skip (skip : Nat) (state : WordState) (chars : Text)
    (inside : skip ≤ chars.length) :
    wordsLoop skip state chars = wordsLoop 0 state (chars.drop skip) := by
  induction skip generalizing chars with
  | zero => rfl
  | succ skip ih =>
    cases chars with
    | nil => simp at inside
    | cons c rest =>
      rw [wordsLoop, List.drop_succ_cons]
      exact ih rest (Nat.le_of_succ_le_succ inside)

theorem wordsLoop_plain (state : WordState) (c : Char) (rest : Text)
    (shown : hiddenLen c rest = none) :
    wordsLoop 0 state (c :: rest) = wordsLoop 0 (state.plain c) rest := by
  rw [wordsLoop]
  simp only [shown]

theorem wordsLoop_hidden (state : WordState) (c : Char) (tail rest : Text)
    (hidden : hiddenLen c (tail ++ rest) = some tail.length) :
    wordsLoop 0 state (c :: (tail ++ rest)) = wordsLoop 0 state.flush rest := by
  rw [wordsLoop]
  simp only [hidden]
  rw [wordsLoop_skip _ _ _ (by simp), List.drop_left]

/-- `top_level_words` passes over the tokens of the scanner that it knows. -/
theorem hiddenLen_eq (c : Char) (rest : Text) :
    hiddenLen c rest =
      match tokenKind c rest with
      | .quoted _ | .lineComment | .blockComment => some (tokenLen c rest)
      | _ => none := by
  unfold hiddenLen tokenKind tokenLen
  by_cases quote : isQuote c = true
  · simp only [quote, if_true]
  by_cases line : startsLineComment c rest.head? = true
  · simp only [quote, line, Bool.false_eq_true, if_false, if_true]
  by_cases block : startsBlockComment c rest.head? = true
  · simp only [quote, line, block, Bool.false_eq_true, if_false, if_true]
  rw [if_neg quote, if_neg line, if_neg block, if_neg quote, if_neg line, if_neg block]
  by_cases dollar : (c == '$') = true
  · rw [if_pos dollar]
    cases dollarTag rest <;> rfl
  · rw [if_neg dollar]

theorem tokenLen_of_plain (c : Char) (rest : Text) (plain : tokenKind c rest = .plain) :
    tokenLen c rest = 0 := by
  unfold tokenKind at plain
  unfold tokenLen
  by_cases quote : isQuote c = true
  · simp [if_pos quote] at plain
  by_cases line : startsLineComment c rest.head? = true
  · simp [if_neg quote, if_pos line] at plain
  by_cases block : startsBlockComment c rest.head? = true
  · simp [if_neg quote, if_neg line, if_pos block] at plain
  rw [if_neg quote, if_neg line, if_neg block]
  by_cases dollar : (c == '$') = true
  · rw [if_neg quote, if_neg line, if_neg block, if_pos dollar] at plain
    rw [if_pos dollar, dollarLen]
    cases opens : dollarTag rest with
    | none => rfl
    | some tag => simp [opens] at plain
  · rw [if_neg dollar]

/-- A character that begins no token of `top_level_words`, whatever follows it. -/
def Bare (c : Char) : Prop := isQuote c = false ∧ c ≠ '-' ∧ c ≠ '/'

instance (c : Char) : Decidable (Bare c) := inferInstanceAs (Decidable (_ ∧ _))

theorem bare_of_wordChar (c : Char) (word : isWordChar c = true) : Bare c := by
  have apart := ne_of_wordChar c
  refine ⟨?_, apart '-' word (by decide), apart '/' word (by decide)⟩
  simp [isQuote, apart '\'' word (by decide), apart '"' word (by decide),
    apart '`' word (by decide)]

theorem bare_of_whitespace (c : Char) (white : isWhitespace c = true) : Bare c := by
  have apart := ne_of_whitespace c
  refine ⟨?_, apart '-' white (by decide), apart '/' white (by decide)⟩
  simp [isQuote, apart '\'' white (by decide), apart '"' white (by decide),
    apart '`' white (by decide)]

theorem hiddenLen_bare (c : Char) (rest : Text) (bare : Bare c) : hiddenLen c rest = none := by
  obtain ⟨quote, dash, slash⟩ := bare
  simp [hiddenLen, quote, startsLineComment, startsBlockComment, dash, slash]

theorem tokenKind_whitespace (c : Char) (rest : Text) (white : isWhitespace c = true) :
    tokenKind c rest = .plain := by
  obtain ⟨quote, dash, slash⟩ := bare_of_whitespace c white
  have dollar := ne_of_whitespace c '$' white (by decide)
  simp [tokenKind, quote, startsLineComment, startsBlockComment, dash, slash, dollar]

theorem wordsLoop_token (fresh : Bool) (state : WordState) (token : Tok) (rest : Text)
    (reads : scanner.ReadsOne fresh token rest) (agreed : Agreed token) :
    wordsLoop 0 state (token.text ++ rest) = wordsLoop 0 (absorb state token) rest := by
  obtain ⟨c, tail, shape, kind, extra⟩ := reads
  obtain ⟨tokenKind₀, tokenText⟩ := token
  dsimp only at shape kind extra
  subst shape
  simp only [scanner] at kind extra
  by_cases white : (fresh && isWhitespace c) = true
  · rw [if_pos white] at kind extra
    have single : tail = [] := List.length_eq_zero_iff.mp extra.symm
    subst single kind
    exact wordsLoop_plain state c rest
      (hiddenLen_bare c rest (bare_of_whitespace c (Bool.and_eq_true_iff.mp white).2))
  rw [if_neg white] at kind extra
  by_cases shell : (fresh && startsShellCommand c (tail ++ rest).head?) = true
  · rw [if_pos shell] at kind
    subst kind
    exact agreed.elim
  rw [if_neg shell] at kind extra
  by_cases separator : (c == ';') = true
  · rw [if_pos separator] at kind extra
    have single : tail = [] := List.length_eq_zero_iff.mp extra.symm
    subst single kind
    have semicolon : c = ';' := by simpa using separator
    subst semicolon
    exact wordsLoop_plain state ';' rest (hiddenLen_bare ';' rest (by decide))
  rw [if_neg separator] at kind extra
  have hidden := hiddenLen_eq c (tail ++ rest)
  rw [kind, extra] at hidden
  have spec := tokenKind_spec c (tail ++ rest)
  rw [kind] at spec
  cases tokenKind₀ with
  | blank => exact absurd rfl spec.1
  | shell => exact absurd rfl spec.2.1
  | separator => exact absurd rfl spec.2.2
  | dollar tag => exact agreed.elim
  | quoted quote => exact wordsLoop_hidden state c tail rest hidden
  | lineComment => exact wordsLoop_hidden state c tail rest hidden
  | blockComment => exact wordsLoop_hidden state c tail rest hidden
  | plain =>
    have single : tail = [] :=
      List.length_eq_zero_iff.mp (extra.symm.trans (tokenLen_of_plain c _ kind))
    subst single
    exact wordsLoop_plain state c rest hidden

/-- Over tokens that both tokenizers know, `top_level_words` goes token by token. -/
theorem wordsLoop_tokens (fresh : Bool) (state : WordState) (tokens : List Tok) (rest : Text)
    (reads : scanner.Reads fresh tokens rest) (agreed : ∀ token ∈ tokens, Agreed token) :
    wordsLoop 0 state (text tokens ++ rest) = wordsLoop 0 (tokens.foldl absorb state) rest := by
  induction tokens generalizing fresh state with
  | nil => rfl
  | cons token later ih =>
    rw [text_cons, List.append_assoc,
      wordsLoop_token fresh state token _ reads.1 (agreed token List.mem_cons_self),
      ih _ _ reads.2 fun other member => agreed other (List.mem_cons_of_mem _ member),
      List.foldl_cons]

theorem words_wordsLoop (skip : Nat) (state : WordState) (chars : Text) :
    state.words <+: (wordsLoop skip state chars).words := by
  induction chars generalizing skip state with
  | nil => exact words_flush state
  | cons c rest ih =>
    cases skip with
    | succ skip => exact ih skip state
    | zero =>
      rw [wordsLoop]
      split
      · exact (words_flush state).trans (ih _ _)
      · exact (words_plain state c).trans (ih _ _)

@[simp] theorem before_wordsLoop (words : List Text) (skip : Nat) (state : WordState)
    (chars : Text) :
    wordsLoop skip (state.before words) chars = (wordsLoop skip state chars).before words := by
  induction chars generalizing skip state with
  | nil => exact before_flush words state
  | cons c rest ih =>
    cases skip with
    | succ skip => exact ih skip state
    | zero =>
      rw [wordsLoop, wordsLoop]
      cases hiddenLen c rest with
      | some hidden => exact (before_flush words state ▸ ih hidden state.flush)
      | none => exact (before_plain words state c ▸ ih 0 (state.plain c))

theorem wordsLoop_bare (state : WordState) (front rest : Text) (bare : ∀ c ∈ front, Bare c) :
    wordsLoop 0 state (front ++ rest) = wordsLoop 0 (front.foldl WordState.plain state) rest := by
  induction front generalizing state with
  | nil => rfl
  | cons c front ih =>
    rw [List.cons_append,
      wordsLoop_plain state c _ (hiddenLen_bare c _ (bare c List.mem_cons_self)),
      ih _ fun d member => bare d (List.mem_cons_of_mem c member), List.foldl_cons]

theorem foldl_wordChars (front : Text) (state : WordState)
    (word : ∀ c ∈ front, isWordChar c = true) :
    front.foldl WordState.plain state = { state with word := state.word ++ front } := by
  induction front generalizing state with
  | nil => simp
  | cons c front ih =>
    have first := word c List.mem_cons_self
    have apart := ne_of_wordChar c
    have pushed : state.plain c = state.push c := by
      simp [WordState.plain, first, apart '(' first (by decide),
        apart ')' first (by decide)]
    rw [List.foldl_cons, pushed, ih _ fun d member => word d (List.mem_cons_of_mem c member)]
    simp [push]

theorem before_foldl (words : List Text) (state : WordState) (front : Text) :
    front.foldl WordState.plain (state.before words) =
      (front.foldl WordState.plain state).before words := by
  induction front generalizing state with
  | nil => rfl
  | cons c front ih => rw [List.foldl_cons, before_plain, ih, List.foldl_cons]

theorem plain_open (state : WordState) (empty : state.word = []) :
    state.plain '(' = { state with depth := state.depth + 1 } := by
  simp [WordState.plain, openParen, flush_of_empty state empty]

theorem plain_close (state : WordState) (empty : state.word = []) :
    state.plain ')' = { state with depth := state.depth - 1 } := by
  simp [WordState.plain, closeParen, flush_of_empty state empty]

theorem foldl_open (count : Nat) (state : WordState) (empty : state.word = []) :
    (List.replicate count '(').foldl WordState.plain state =
      { state with depth := state.depth + count } := by
  induction count generalizing state with
  | zero => simp
  | succ count ih =>
    have step := ih { state with depth := state.depth + 1 } empty
    rw [List.replicate_succ, List.foldl_cons, plain_open state empty, step]
    simp only [WordState.mk.injEq, true_and]
    omega

theorem foldl_close (count : Nat) (state : WordState) (empty : state.word = []) :
    (List.replicate count ')').foldl WordState.plain state =
      { state with depth := state.depth - count } := by
  induction count generalizing state with
  | zero => simp
  | succ count ih =>
    have step := ih { state with depth := state.depth - 1 } empty
    rw [List.replicate_succ, List.foldl_cons, plain_close state empty, step]
    simp only [WordState.mk.injEq, true_and]
    omega

theorem flush_words_deep (state : WordState) (deep : state.depth ≠ 0) :
    state.flush.words = state.words := by
  unfold flush
  split
  · rfl
  · rfl

theorem plain_deep (state : WordState) (c : Char) (deep : 0 < state.depth) :
    (state.plain c).words = state.words ∧ state.depth - 1 ≤ (state.plain c).depth := by
  have kept := flush_words_deep state (by omega)
  unfold WordState.plain
  split
  · refine ⟨kept, ?_⟩
    simp only [openParen, flush_depth]
    omega
  · split
    · refine ⟨kept, ?_⟩
      simp only [closeParen, flush_depth]
      omega
    · split
      · refine ⟨rfl, ?_⟩
        simp only [push]
        omega
      · refine ⟨kept, ?_⟩
        simp only [flush_depth]
        omega

/-- Inside more open parentheses than characters are left, no word counts any more. -/
theorem wordsLoop_deep (skip : Nat) (state : WordState) (chars : Text)
    (deep : (chars.length : Int) < state.depth) :
    (wordsLoop skip state chars).words = state.words := by
  induction chars generalizing skip state with
  | nil =>
    have below : 0 < state.depth := by simpa using deep
    exact flush_words_deep state (by omega)
  | cons c rest ih =>
    rw [List.length_cons] at deep
    cases skip with
    | succ skip =>
      rw [wordsLoop]
      exact ih skip state (by omega)
    | zero =>
      rw [wordsLoop]
      cases hiddenLen c rest with
      | some hidden =>
        have kept := flush_words_deep state (by omega)
        exact (ih hidden state.flush (by rw [flush_depth]; omega)).trans kept
      | none =>
        obtain ⟨kept, depth⟩ := plain_deep state c (by omega)
        exact (ih 0 (state.plain c) (by omega)).trans kept

end DbFree.Destructive
