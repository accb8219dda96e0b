import Mathlib

/- Lexers that cut a list of symbols into tokens, each token decided by the
lexer's mode, its first symbol and everything that follows it. -/
namespace DbFree.Lexing

variable {σ α κ : Type}

structure Token (κ α : Type) where
  kind : κ
  text : List α
deriving DecidableEq

/-- In a mode, in front of `first` and what follows it, a lexer tells the kind
of the token that starts there and how many of the following symbols it takes. -/
structure Lexer (σ α κ : Type) where
  kind : σ → α → List α → κ
  extra : σ → α → List α → Nat
  extra_le : ∀ mode first rest, extra mode first rest ≤ rest.length
  next : σ → Token κ α → σ

/-- The symbols a list of tokens covers. -/
def text (tokens : List (Token κ α)) : List α := tokens.flatMap Token.text

@[simp] theorem text_nil : text ([] : List (Token κ α)) = [] := rfl

@[simp] theorem text_cons (token : Token κ α) (later : List (Token κ α)) :
    text (token :: later) = token.text ++ text later := rfl

@[simp] theorem text_append (first second : List (Token κ α)) :
    text (first ++ second) = text first ++ text second := by
  simp only [text, List.flatMap_append]

namespace Lexer

variable (lexer : Lexer σ α κ)

def head (mode : σ) (first : α) (rest : List α) : Token κ α :=
  ⟨lexer.kind mode first rest, first :: rest.take (lexer.extra mode first rest)⟩

def tokensWithin : Nat → σ → List α → List (Token κ α)
  | _, _, [] => []
  | 0, _, _ :: _ => []
  | count + 1, mode, first :: rest =>
    lexer.head mode first rest ::
      tokensWithin count (lexer.next mode (lexer.head mode first rest))
        (rest.drop (lexer.extra mode first rest))

/-- No lexing has more tokens than symbols. -/
def tokens (mode : σ) (symbols : List α) : List (Token κ α) :=
  lexer.tokensWithin symbols.length mode symbols

theorem tokensWithin_eq (count : Nat) (mode : σ) (symbols : List α)
    (enough : symbols.length ≤ count) :
    lexer.tokensWithin count mode symbols = lexer.tokens mode symbols := by
  have stable : ∀ (count count' : Nat) (mode : σ) (symbols : List α),
      symbols.length ≤ count → symbols.length ≤ count' →
      lexer.tokensWithin count mode symbols = lexer.tokensWithin count' mode symbols := by
    intro count
    induction count with
    | zero =>
      intro count' mode symbols empty _
      rw [List.length_eq_zero_iff.mp (Nat.le_zero.mp empty), tokensWithin, tokensWithin]
    | succ count ih =>
      intro count' mode symbols enough enough'
      cases symbols with
      | nil => rw [tokensWithin, tokensWithin]
      | cons first rest =>
        cases count' with
        | zero => simp at enough'
        | succ count' =>
          simp only [List.length_cons, Nat.add_le_add_iff_right] at enough enough'
          rw [tokensWithin, tokensWithin,
            ih count' _ _ (by rw [List.length_drop]; omega) (by rw [List.length_drop]; omega)]
  exact stable count symbols.length mode symbols enough (Nat.le_refl _)

/-- The mode after some tokens have been read. -/
def after (mode : σ) (read : List (Token κ α)) : σ := read.foldl lexer.next mode

@[simp] theorem after_nil (mode : σ) : lexer.after mode [] = mode := rfl

@[simp] theorem after_cons (mode : σ) (token : Token κ α) (later : List (Token κ α)) :
    lexer.after mode (token :: later) = lexer.after (lexer.next mode token) later := rfl

@[simp] theorem after_append (mode : σ) (first second : List (Token κ α)) :
    lexer.after mode (first ++ second) = lexer.after (lexer.after mode first) second := by
  simp only [after, List.foldl_append]

/-- `token` is the token the lexer reads in front of `rest`. -/
def ReadsOne (mode : σ) (token : Token κ α) (rest : List α) : Prop :=
  ∃ first tail, token.text = first :: tail ∧
    lexer.kind mode first (tail ++ rest) = token.kind ∧
    lexer.extra mode first (tail ++ rest) = tail.length

/-- The lexer reads exactly these tokens when `rest` follows them. A token is
checked with its actual following symbols present, so that reading composes. -/
def Reads (mode : σ) : List (Token κ α) → List α → Prop
  | [], _ => True
  | token :: later, rest =>
    lexer.ReadsOne mode token (text later ++ rest) ∧ Reads (lexer.next mode token) later rest

instance [DecidableEq κ] (mode : σ) (token : Token κ α) (rest : List α) :
    Decidable (lexer.ReadsOne mode token rest) :=
  match shape : token.text with
  | [] => .isFalse (by rintro ⟨first, tail, same, -⟩; rw [shape] at same; cases same)
  | first :: tail =>
    decidable_of_iff (lexer.kind mode first (tail ++ rest) = token.kind ∧
        lexer.extra mode first (tail ++ rest) = tail.length)
      ⟨fun reads => ⟨first, tail, shape, reads⟩, by
        rintro ⟨first', tail', same, reads⟩
        obtain ⟨rfl, rfl⟩ := List.cons.inj (shape.symm.trans same)
        exact reads⟩

instance decidableReads [DecidableEq κ] : (mode : σ) → (read : List (Token κ α)) →
    (rest : List α) → Decidable (lexer.Reads mode read rest)
  | _, [], _ => .isTrue trivial
  | mode, token :: later, rest =>
    let _behind := decidableReads (lexer.next mode token) later rest
    inferInstanceAs (Decidable (lexer.ReadsOne mode token (text later ++ rest) ∧
      lexer.Reads (lexer.next mode token) later rest))

@[simp] theorem tokens_nil (mode : σ) : lexer.tokens mode [] = [] := rfl

theorem tokens_cons (mode : σ) (first : α) (rest : List α) :
    lexer.tokens mode (first :: rest) =
      lexer.head mode first rest ::
        lexer.tokens (lexer.next mode (lexer.head mode first rest))
          (rest.drop (lexer.extra mode first rest)) := by
  rw [tokens, List.length_cons, tokensWithin, tokensWithin_eq]
  rw [List.length_drop]
  omega

theorem head_text_append (mode : σ) (first : α) (rest : List α) :
    (lexer.head mode first rest).text ++ rest.drop (lexer.extra mode first rest) =
      first :: rest := by
  simp only [head, List.cons_append, List.take_append_drop]

/-- Lexing neither loses nor moves a symbol. -/
@[simp] theorem text_tokens (mode : σ) : ∀ symbols : List α,
    text (lexer.tokens mode symbols) = symbols
  | [] => by simp
  | first :: rest => by
    rw [tokens_cons, text_cons, text_tokens]
    exact lexer.head_text_append mode first rest
termination_by symbols => symbols.length
decreasing_by simp only [List.length_drop, List.length_cons]; omega

theorem readsOne_head (mode : σ) (first : α) (rest : List α) :
    lexer.ReadsOne mode (lexer.head mode first rest)
      (rest.drop (lexer.extra mode first rest)) := by
  refine ⟨first, rest.take (lexer.extra mode first rest), rfl, ?_, ?_⟩
  · simp only [List.take_append_drop, head]
  · rw [List.take_append_drop, List.length_take,
      Nat.min_eq_left (lexer.extra_le mode first rest)]

theorem reads_append (mode : σ) (first second : List (Token κ α)) (rest : List α) :
    lexer.Reads mode (first ++ second) rest ↔
      lexer.Reads mode first (text second ++ rest) ∧
        lexer.Reads (lexer.after mode first) second rest := by
  induction first generalizing mode with
  | nil => simp [Reads]
  | cons token later ih =>
    simp only [List.cons_append, Reads, ih, text_append, List.append_assoc, after_cons, and_assoc]

theorem readsOne_iff (mode : σ) (token : Token κ α) (rest : List α) :
    lexer.ReadsOne mode token rest ↔
      ∃ first tail, token.text = first :: tail ∧
        lexer.head mode first (tail ++ rest) = token ∧
        (tail ++ rest).drop (lexer.extra mode first (tail ++ rest)) = rest := by
  constructor
  · rintro ⟨first, tail, shape, kind, extra⟩
    refine ⟨first, tail, shape, ?_, ?_⟩
    · simp only [head, kind, extra, List.take_left', ← shape]
    · rw [extra, List.drop_left' rfl]
  · rintro ⟨first, tail, shape, head, dropped⟩
    refine ⟨first, tail, shape, congrArg Token.kind head, ?_⟩
    have bound := lexer.extra_le mode first (tail ++ rest)
    have lengths := congrArg List.length dropped
    simp only [List.length_drop, List.length_append] at lengths bound
    omega

/-- Tokens that the lexer reads in front of `rest` come first in the lexing of
their text followed by `rest`. -/
theorem tokens_of_reads (mode : σ) (read : List (Token κ α)) (rest : List α)
    (reads : lexer.Reads mode read rest) :
    lexer.tokens mode (text read ++ rest) = read ++ lexer.tokens (lexer.after mode read) rest := by
  induction read generalizing mode with
  | nil => simp
  | cons token later ih =>
    obtain ⟨first, tail, shape, head, dropped⟩ := (lexer.readsOne_iff _ _ _).mp reads.1
    rw [text_cons, shape, List.append_assoc, List.cons_append, tokens_cons, head, dropped,
      ih _ reads.2, List.cons_append, after_cons]

theorem reads_tokens (mode : σ) : ∀ symbols : List α,
    lexer.Reads mode (lexer.tokens mode symbols) []
  | [] => by simp [Reads]
  | first :: rest => by
    rw [tokens_cons]
    refine ⟨?_, reads_tokens _ _⟩
    simpa using lexer.readsOne_head mode first rest
termination_by symbols => symbols.length
decreasing_by simp only [List.length_drop, List.length_cons]; omega

/-- A token list is the lexing of its own text exactly when the lexer reads it. -/
theorem tokens_text_iff (mode : σ) (read : List (Token κ α)) :
    lexer.tokens mode (text read) = read ↔ lexer.Reads mode read [] := by
  constructor
  · intro same
    have reads := lexer.reads_tokens mode (text read)
    rwa [same] at reads
  · intro reads
    simpa using lexer.tokens_of_reads mode read [] reads

/-- A lexing may be resumed at any of its token boundaries. -/
theorem tokens_split (mode : σ) (symbols : List α) (first second : List (Token κ α))
    (split : lexer.tokens mode symbols = first ++ second) :
    symbols = text first ++ text second ∧
      lexer.Reads mode first (text second) ∧
      lexer.tokens (lexer.after mode first) (text second) = second := by
  have reads := lexer.reads_tokens mode symbols
  rw [split, reads_append, List.append_nil] at reads
  refine ⟨?_, reads.1, (lexer.tokens_text_iff _ _).mpr reads.2⟩
  rw [← text_append, ← split, text_tokens]

theorem readsOne_of_reads (mode : σ) (read : List (Token κ α)) (rest : List α)
    (reads : lexer.Reads mode read rest) :
    ∀ token ∈ read, ∃ mode' rest', lexer.ReadsOne mode' token rest' := by
  induction read generalizing mode with
  | nil => simp
  | cons token later ih =>
    intro other member
    rcases List.mem_cons.mp member with rfl | inside
    · exact ⟨mode, _, reads.1⟩
    · exact ih _ reads.2 other inside

theorem readsOne_of_mem (mode : σ) (symbols : List α) (token : Token κ α)
    (member : token ∈ lexer.tokens mode symbols) :
    ∃ mode' rest', lexer.ReadsOne mode' token rest' :=
  lexer.readsOne_of_reads mode _ [] (lexer.reads_tokens mode symbols) token member

theorem text_ne_nil_of_readsOne (mode : σ) (token : Token κ α) (rest : List α)
    (reads : lexer.ReadsOne mode token rest) : token.text ≠ [] := by
  obtain ⟨first, tail, shape, -⟩ := reads
  simp [shape]

end Lexer

end DbFree.Lexing
