import DbFree.Lexing
import DbFree.Template

/- The renderer's copying loop as a lexer, and what it reads in the texts the
renderer splices in. -/
namespace DbFree.Template

open Lexing SqlText

theorem advance_alone (backslash : Bool) (state : SqlState) (c : Char) :
    (advance backslash state c none).1 = false := by
  cases state <;> simp only [advance] <;> split_ifs <;> simp_all

/-- A character that stands by itself leads to the same state whatever follows. -/
theorem advance_single (backslash : Bool) (state : SqlState) (c : Char) (next : Option Char)
    (single : (advance backslash state c next).1 = false) :
    (advance backslash state c next).2 = (advance backslash state c none).2 := by
  cases state <;> simp only [advance] at single ⊢ <;> split_ifs at single ⊢ <;> simp_all

/-- The character that is taken along is one of those that are left. -/
theorem consumed_le (backslash : Bool) (state : SqlState) (c : Char) (rest : Text) :
    (if (advance backslash state c rest.head?).1 then 1 else 0) ≤ rest.length := by
  cases rest with
  | nil => simp [advance_alone]
  | cons next rest =>
    show (if (advance backslash state c (some next)).1 then 1 else 0) ≤ rest.length + 1
    split <;> omega

/-- The copying loop: its tokens are the characters it copies at once, each of the
kind of the state it is in. -/
def sqlLexer (backslash : Bool) : Lexer SqlState Char SqlState where
  kind := fun state _ _ => state
  extra := fun state c rest => if (advance backslash state c rest.head?).1 then 1 else 0
  extra_le := consumed_le backslash
  next := fun state token =>
    match token.text with
    | [] => state
    | c :: tail => (advance backslash state c tail.head?).2

abbrev SqlToken := Token SqlState Char

/-- The tokens of a text in a state. -/
def sqlTokens (backslash : Bool) (state : SqlState) (text : Text) : List SqlToken :=
  (sqlLexer backslash).tokens state text

/-- The state behind a text that is read by itself. -/
def stateAfter (backslash : Bool) (state : SqlState) (text : Text) : SqlState :=
  (sqlLexer backslash).after state (sqlTokens backslash state text)

theorem stateAfter_single (backslash : Bool) (state : SqlState) (c : Char) (rest : Text)
    (single : (advance backslash state c rest.head?).1 = false) :
    stateAfter backslash state (c :: rest) =
      stateAfter backslash (advance backslash state c none).2 rest := by
  rw [stateAfter, sqlTokens, Lexer.tokens_cons]
  simp only [sqlLexer, single, Lexer.head, Bool.false_eq_true, if_false, List.take_zero,
    List.drop_zero, Lexer.after_cons]
  rfl

theorem stateAfter_pair (backslash : Bool) (state : SqlState) (c next : Char) (rest : Text)
    (pair : (advance backslash state c (some next)).1 = true) :
    stateAfter backslash state (c :: next :: rest) =
      stateAfter backslash (advance backslash state c (some next)).2 rest := by
  rw [stateAfter, sqlTokens, Lexer.tokens_cons]
  simp only [sqlLexer, pair, Lexer.head, if_true, List.head?_cons, List.take_succ_cons,
    List.take_zero, List.drop_succ_cons, List.drop_zero, Lexer.after_cons]
  rfl

/-- The renderer copies a text unchanged and ends in the state of its lexing. -/
theorem copySqlText_eq (backslash : Bool) (state : SqlState) (text : Text) :
    copySqlText backslash state text = (text, stateAfter backslash state text) := by
  fun_induction copySqlText backslash state text with
  | case1 state => rfl
  | case2 state c =>
    rw [stateAfter_single backslash state c [] (advance_alone backslash state c)]
    rfl
  | case3 state c next rest behind out last copied moved ih =>
    have pair : (advance backslash state c (some next)).1 = true := by rw [moved]
    rw [copied] at ih
    obtain ⟨sameText, sameState⟩ := Prod.mk.inj ih
    rw [stateAfter_pair backslash state c next rest pair, moved, sameText, sameState]
  | case4 state c next rest pair behind moved alone out last copied ih =>
    have single : (advance backslash state c (some next)).1 = false := by
      rw [moved]
      exact Bool.eq_false_iff.mpr alone
    have same := advance_single backslash state c (some next) single
    rw [moved] at same
    rw [copied] at ih
    obtain ⟨sameText, sameState⟩ := Prod.mk.inj ih
    rw [stateAfter_single backslash state c (next :: rest) single, ← same, sameText, sameState]

/-- What a token is read in front of matters by its first character only. -/
theorem readsOne_congr (backslash : Bool) (state : SqlState) (token : SqlToken)
    (rest rest' : Text) (same : rest.head? = rest'.head?)
    (reads : (sqlLexer backslash).ReadsOne state token rest) :
    (sqlLexer backslash).ReadsOne state token rest' := by
  obtain ⟨c, tail, shape, kind, extra⟩ := reads
  refine ⟨c, tail, shape, kind, ?_⟩
  have looked : (tail ++ rest').head? = (tail ++ rest).head? := by
    rw [List.head?_append, List.head?_append, same]
  show (if (advance backslash state c (tail ++ rest').head?).1 then 1 else 0) = tail.length
  rw [looked]
  exact extra

theorem readsOne_alone (backslash : Bool) (state : SqlState) (token : SqlToken) (rest : Text)
    (reads : (sqlLexer backslash).ReadsOne state token rest) :
    (sqlLexer backslash).ReadsOne state token [] := by
  obtain ⟨c, tail, shape, kind, extra⟩ := reads
  refine ⟨c, tail, shape, kind, ?_⟩
  cases tail with
  | nil =>
    show (if (advance backslash state c none).1 then 1 else 0) = 0
    rw [advance_alone]
    rfl
  | cons next tail => exact extra

/-- A token that is read by itself is read in front of a text, unless it is one
character that the text's first one goes with. -/
theorem readsOne_iff_apart (backslash : Bool) (state : SqlState) (token : SqlToken)
    (rest : Text) (alone : (sqlLexer backslash).ReadsOne state token []) :
    (sqlLexer backslash).ReadsOne state token rest ↔
      ∀ c, token.text = [c] → (advance backslash token.kind c rest.head?).1 = false := by
  obtain ⟨c, tail, shape, kind, extra⟩ := alone
  have inState : state = token.kind := kind
  constructor
  · rintro ⟨d, tail', shape', -, extra'⟩ e single
    rw [shape'] at single
    cases single
    rw [← inState]
    by_contra pair
    rw [Bool.not_eq_false] at pair
    have lone : (if (advance backslash state d rest.head?).1 then 1 else 0) = 0 := extra'
    rw [pair] at lone
    cases lone
  · intro apart
    refine ⟨c, tail, shape, kind, ?_⟩
    cases tail with
    | nil =>
      show (if (advance backslash state c rest.head?).1 then 1 else 0) = 0
      rw [inState, apart c shape]
      rfl
    | cons next tail => exact extra

/-- The last token of some tokens does not go with the first character of `rest`. -/
def Apart (backslash : Bool) (read : List SqlToken) (rest : Text) : Prop :=
  ∀ token, read.getLast? = some token →
    ∀ c, token.text = [c] → (advance backslash token.kind c rest.head?).1 = false

theorem reads_iff_apart (backslash : Bool) (state : SqlState) (read : List SqlToken)
    (rest : Text) (alone : (sqlLexer backslash).Reads state read []) :
    (sqlLexer backslash).Reads state read rest ↔ Apart backslash read rest := by
  induction read generalizing state with
  | nil =>
    constructor
    · intro _ token last
      cases last
    · intro _
      trivial
  | cons token later ih =>
    obtain ⟨first, behind⟩ := alone
    cases later with
    | nil =>
      have one := readsOne_iff_apart backslash state token rest first
      constructor
      · intro reads last same
        cases same
        exact one.mp reads.1
      · intro apart
        exact ⟨one.mpr (apart token rfl), trivial⟩
    | cons second later =>
      have follows : (text (second :: later) ++ rest).head? = (text (second :: later) ++ []).head? := by
        obtain ⟨c, tail, shape, -⟩ := behind.1
        rw [text_cons, shape]
        rfl
      have same : Apart backslash (token :: second :: later) rest ↔
          Apart backslash (second :: later) rest := by
        rw [Apart, List.getLast?_cons_cons]
        exact Iff.rfl
      rw [same, ← ih ((sqlLexer backslash).next state token) behind]
      constructor
      · intro reads
        exact reads.2
      · intro reads
        exact ⟨readsOne_congr backslash state token _ _ follows.symm first, reads⟩

theorem reads_alone (backslash : Bool) (state : SqlState) (read : List SqlToken) (rest : Text)
    (reads : (sqlLexer backslash).Reads state read rest) :
    (sqlLexer backslash).Reads state read [] := by
  induction read generalizing state with
  | nil => trivial
  | cons token later ih =>
    refine ⟨?_, ih _ reads.2⟩
    cases later with
    | nil => exact readsOne_alone backslash state token rest reads.1
    | cons second later =>
      apply readsOne_congr backslash state token _ _ _ reads.1
      obtain ⟨c, tail, shape, -⟩ := reads.2.1
      rw [text_cons, shape]
      rfl

end DbFree.Template
