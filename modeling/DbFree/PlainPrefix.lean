import DbFree.StatementTokens

/- Words, spaces and parentheses in front of a statement: how the scanner reads what
stands behind them. -/
namespace DbFree.Destructive

open Chars Texts Lexing

/-- A character that is a token of its own inside a statement, whatever follows it. -/
def Inert (c : Char) : Prop := Bare c ∧ c ≠ '$' ∧ c ≠ ';'

instance (c : Char) : Decidable (Inert c) := inferInstanceAs (Decidable (_ ∧ _))

theorem inert_of_wordChar (c : Char) (word : isWordChar c = true) : Inert c := by
  have apart := ne_of_wordChar c
  exact ⟨bare_of_wordChar c word, apart '$' word (by decide),
    apart ';' word (by decide)⟩

theorem inert_of_whitespace (c : Char) (white : isWhitespace c = true) : Inert c := by
  have apart := ne_of_whitespace c
  exact ⟨bare_of_whitespace c white, apart '$' white (by decide),
    apart ';' white (by decide)⟩

def plainTokens (front : Text) : List Tok := front.map fun c => ⟨.plain, [c]⟩

@[simp] theorem text_plainTokens (front : Text) : text (plainTokens front) = front := by
  induction front with
  | nil => rfl
  | cons c front ih => simpa [plainTokens] using ih

theorem plainTokens_inside (front : Text) : ∀ token ∈ plainTokens front, ¬Boundary token := by
  intro token member
  obtain ⟨c, -, rfl⟩ := List.mem_map.mp member
  simp [Boundary]

theorem tokenKind_inert (c : Char) (rest : Text) (inert : Inert c) :
    tokenKind c rest = .plain ∧ tokenLen c rest = 0 := by
  obtain ⟨⟨quote, dash, slash⟩, dollar, -⟩ := inert
  simp [tokenKind, tokenLen, quote, startsLineComment, startsBlockComment, dash, slash, dollar]

theorem readsOne_inert (c : Char) (rest : Text) (inert : Inert c) (fresh : Bool)
    (inside : fresh = true → isWhitespace c = false ∧ startsShellCommand c rest.head? = false) :
    scanner.ReadsOne fresh ⟨.plain, [c]⟩ rest := by
  obtain ⟨kind, length⟩ := tokenKind_inert c rest inert
  have white : ¬(fresh && isWhitespace c) = true := by
    cases fresh <;> simp_all
  have shell : ¬(fresh && startsShellCommand c rest.head?) = true := by
    cases fresh <;> simp_all
  obtain ⟨head, extra⟩ := scanner_token fresh c rest white shell (by simpa using inert.2.2)
  refine ⟨c, [], rfl, ?_, ?_⟩
  · exact (congrArg Token.kind head).trans kind
  · exact extra.trans length

theorem reads_plainTokens (front rest : Text) (inert : ∀ c ∈ front, Inert c) :
    scanner.Reads false (plainTokens front) rest := by
  induction front with
  | nil => trivial
  | cons c front ih =>
    refine ⟨readsOne_inert c _ (inert c List.mem_cons_self) false (by simp), ?_⟩
    exact ih fun d member => inert d (List.mem_cons_of_mem c member)

/-- A front that begins with a visible character that starts no shell command. -/
def Opens (front : Text) : Prop :=
  ∃ c rest, front = c :: rest ∧ isWhitespace c = false ∧ c ≠ '\\' ∧ c ≠ '.'

theorem reads_opening (front rest : Text) (inert : ∀ c ∈ front, Inert c) (opens : Opens front) :
    scanner.Reads true (plainTokens front) rest := by
  obtain ⟨c, later, rfl, visible, backslash, dot⟩ := opens
  refine ⟨readsOne_inert c _ (inert c List.mem_cons_self) true fun _ => ⟨visible, ?_⟩, ?_⟩
  · simp [startsShellCommand, backslash, dot]
  · exact reads_plainTokens later rest fun d member => inert d (List.mem_cons_of_mem c member)

theorem after_plainTokens (front : Text) (opens : Opens front) (fresh : Bool) :
    scanner.after fresh (plainTokens front) = false := by
  have settled : ∀ front : Text, scanner.after false (plainTokens front) = false := by
    intro front
    induction front with
    | nil => rfl
    | cons d front ih => exact ih
  obtain ⟨c, later, rfl, -⟩ := opens
  exact settled later

theorem blank_of_opens (front rest : Text) (opens : Opens front) :
    blank (front ++ rest) = false := by
  obtain ⟨c, later, rfl, visible, -⟩ := opens
  simp [blank, visible]

/-- The white space that opens a statement, once it stands inside another one. -/
def unblank (token : Tok) : Tok := if token.kind = .blank then ⟨.plain, token.text⟩ else token

@[simp] theorem unblank_text (token : Tok) : (unblank token).text = token.text := by
  unfold unblank
  split <;> rfl

@[simp] theorem text_map_unblank (tokens : List Tok) : text (tokens.map unblank) = text tokens := by
  induction tokens with
  | nil => rfl
  | cons token later ih => rw [List.map_cons, text_cons, text_cons, ih, unblank_text]

theorem unblank_inside (token : Tok) (inside : ¬Boundary token) : ¬Boundary (unblank token) := by
  unfold unblank
  split
  · simp [Boundary]
  · exact inside

theorem readsOne_unblank (fresh : Bool) (token : Tok) (rest : Text)
    (reads : scanner.ReadsOne fresh token rest) (inside : ¬Boundary token) :
    scanner.ReadsOne false (unblank token) rest := by
  obtain ⟨c, tail, shape, kind, extra⟩ := reads
  obtain ⟨tokenKind₀, tokenText⟩ := token
  dsimp only at shape kind extra
  subst shape
  have stopped : scanner.kind false c (tail ++ rest) =
        (if c == ';' then .separator else tokenKind c (tail ++ rest)) ∧
      scanner.extra false c (tail ++ rest) =
        (if c == ';' then 0 else tokenLen c (tail ++ rest)) := by
    simp [scanner]
  simp only [scanner] at kind extra
  by_cases white : (fresh && isWhitespace c) = true
  · rw [if_pos white] at kind extra
    have space := (Bool.and_eq_true_iff.mp white).2
    have single : tail = [] := List.length_eq_zero_iff.mp extra.symm
    subst single kind
    exact readsOne_inert c rest (inert_of_whitespace c space) false (by simp)
  rw [if_neg white] at kind extra
  by_cases shell : (fresh && startsShellCommand c (tail ++ rest).head?) = true
  · rw [if_pos shell] at kind
    exact absurd (Or.inr kind.symm) inside
  rw [if_neg shell] at kind extra
  by_cases separator : (c == ';') = true
  · rw [if_pos separator] at kind
    exact absurd (Or.inl kind.symm) inside
  rw [if_neg separator] at kind extra
  have visible : unblank ⟨tokenKind₀, c :: tail⟩ = ⟨tokenKind₀, c :: tail⟩ :=
    if_neg (kind ▸ (tokenKind_spec c (tail ++ rest)).1)
  rw [visible]
  refine ⟨c, tail, rfl, ?_, ?_⟩
  · rw [stopped.1, if_neg separator, kind]
  · rw [stopped.2, if_neg separator, extra]

theorem next_unblank (token : Tok) (inside : ¬Boundary token) :
    scanner.next false (unblank token) = false := by
  obtain ⟨kind, chars⟩ := token
  cases kind with
  | separator => exact absurd (Or.inl rfl) inside
  | shell => exact absurd (Or.inr rfl) inside
  | _ => rfl

/-- What is one statement on its own is read in the same way inside another one. -/
theorem reads_unblank (fresh : Bool) (tokens : List Tok) (rest : Text)
    (reads : scanner.Reads fresh tokens rest) (inside : ∀ token ∈ tokens, ¬Boundary token) :
    scanner.Reads false (tokens.map unblank) rest ∧
      scanner.after false (tokens.map unblank) = false := by
  induction tokens generalizing fresh with
  | nil => exact ⟨trivial, rfl⟩
  | cons token later ih =>
    have first := inside token List.mem_cons_self
    obtain ⟨front, back⟩ := reads
    obtain ⟨rest₁, mode⟩ := ih _ back fun other member => inside other (List.mem_cons_of_mem _ member)
    rw [List.map_cons, Lexer.after_cons, next_unblank token first]
    refine ⟨⟨?_, ?_⟩, mode⟩
    · rw [text_map_unblank]
      exact readsOne_unblank fresh token _ front first
    · rw [next_unblank token first]
      exact rest₁

end DbFree.Destructive
