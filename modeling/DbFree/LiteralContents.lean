import DbFree.StatementTokens

/- What the content of a literal or a comment can do to the verdicts. The words are
blind to all of it but the bodies of dollar quotes, which `top_level_words` reads. -/
namespace DbFree.Destructive

open Texts Lexing

/-- The kinds of token whose content carries no code. -/
def Literal (kind : TokenKind) : Prop :=
  match kind with
  | .quoted _ | .lineComment | .blockComment | .dollar _ => True
  | _ => False

instance (kind : TokenKind) : Decidable (Literal kind) :=
  match kind with
  | .quoted _ | .lineComment | .blockComment | .dollar _ => .isTrue trivial
  | .blank | .shell | .separator | .plain => .isFalse id

/-- Tokens of one kind, with the same text where it is code. -/
structure SameToken (token token' : Tok) : Prop where
  kind : token.kind = token'.kind
  code : Literal token.kind ∨ token.text = token'.text

instance (token token' : Tok) : Decidable (SameToken token token') :=
  decidable_of_iff (token.kind = token'.kind ∧ (Literal token.kind ∨ token.text = token'.text))
    ⟨fun both => ⟨both.1, both.2⟩, fun same => ⟨same.kind, same.code⟩⟩

/-- The scripts differ in the content of their literals and comments only. -/
def SameSkeleton (sql sql' : Text) : Prop :=
  List.Forall₂ SameToken (scanTokens sql) (scanTokens sql')

instance (sql sql' : Text) : Decidable (SameSkeleton sql sql') :=
  inferInstanceAs (Decidable (List.Forall₂ SameToken (scanTokens sql) (scanTokens sql')))

/-- No words read after these can change the verdict. -/
def decided (words : List Text) : Bool :=
  match words with
  | [] => false
  | first :: _ =>
    if first = "DELETE".toList ∨ first = "UPDATE".toList then has words "WHERE"
    else if first = "ALTER".toList then has words "DROP"
    else if first = "WITH".toList then dmlWriters.any (has words)
    else if first = "PRAGMA".toList then words.length > 2
    else true

/-- Before the body of its first dollar quote, each statement that has one has read
the words that settle its verdict. -/
def DollarQuotesDecided (sql : Text) : Prop :=
  ∀ statement ∈ statementTokens [] (scanTokens sql), ∀ before tag body after,
    statement = before ++ ⟨.dollar tag, body⟩ :: after →
    (∀ token ∈ before, Agreed token) →
    decided (tag.foldl WordState.plain (before.foldl absorb .start)).words = true

theorem has_append (words more : List Text) (keyword : String) :
    has (words ++ more) keyword = (has words keyword || has more keyword) := by
  simp [has]

theorem any_has_append (words more : List Text) (table : List String) :
    table.any (has (words ++ more)) = (table.any (has words) || table.any (has more)) := by
  induction table with
  | nil => rfl
  | cons keyword table ih =>
    simp only [List.any_cons, has_append, ih]
    cases has words keyword <;> cases has more keyword <;> simp

theorem classifyWords_of_decided (words more : List Text) (settled : decided words = true) :
    classifyWords (words ++ more) = classifyWords words := by
  cases words with
  | nil => cases settled
  | cons first rest =>
    have grows := has_append (first :: rest) more
    have growsAny := any_has_append (first :: rest) more dmlWriters
    rw [List.cons_append] at grows growsAny ⊢
    by_cases special : first ∈ specialLeaders
    · simp only [specialLeaders, List.mem_cons, List.not_mem_nil, or_false] at special
      rcases special with rfl | rfl | rfl | rfl | rfl | rfl | rfl
      · rfl
      · rfl
      · have bounded : has ("DELETE".toList :: rest) "WHERE" = true := settled
        rw [classifyWords_delete, classifyWords_delete, grows, bounded]
        rfl
      · have bounded : has ("UPDATE".toList :: rest) "WHERE" = true := settled
        rw [classifyWords_update, classifyWords_update, grows, bounded]
        rfl
      · have drops : has ("ALTER".toList :: rest) "DROP" = true := settled
        rw [classifyWords_alter, classifyWords_alter, grows, drops]
        rfl
      · have writes : dmlWriters.any (has ("WITH".toList :: rest)) = true := settled
        rw [classifyWords_with, classifyWords_with, growsAny, writes]
        rfl
      · have long : ("PRAGMA".toList :: rest).length > 2 := of_decide_eq_true settled
        have longer : ("PRAGMA".toList :: (rest ++ more)).length > 2 := by
          simp only [List.length_cons, List.length_append] at long ⊢
          omega
        rw [classifyWords_pragma, classifyWords_pragma, if_pos long, if_pos longer]
    · rw [classifyWords_other _ _ special, classifyWords_other _ _ special]

/-- Words that turn any verdict that is still open. -/
def turning : List Text := ["DROP".toList, "WHERE".toList, "INSERT".toList]

theorem classifyWords_of_undecided (words : List Text) (undecided : decided words = false) :
    (classifyWords (words ++ turning)).1 ≠ (classifyWords words).1 := by
  cases words with
  | nil => decide
  | cons first rest =>
    have grows := has_append (first :: rest) turning
    have growsAny := any_has_append (first :: rest) turning dmlWriters
    rw [List.cons_append] at grows growsAny ⊢
    by_cases special : first ∈ specialLeaders
    · simp only [specialLeaders, List.mem_cons, List.not_mem_nil, or_false] at special
      rcases special with rfl | rfl | rfl | rfl | rfl | rfl | rfl
      · cases undecided
      · cases undecided
      · have unbounded : has ("DELETE".toList :: rest) "WHERE" = false := undecided
        rw [classifyWords_delete, classifyWords_delete, grows, unbounded]
        decide
      · have unbounded : has ("UPDATE".toList :: rest) "WHERE" = false := undecided
        rw [classifyWords_update, classifyWords_update, grows, unbounded]
        decide
      · have keeps : has ("ALTER".toList :: rest) "DROP" = false := undecided
        rw [classifyWords_alter, classifyWords_alter, grows, keeps]
        decide
      · have reads : dmlWriters.any (has ("WITH".toList :: rest)) = false := undecided
        rw [classifyWords_with, classifyWords_with, growsAny, reads]
        decide
      · have short : ¬("PRAGMA".toList :: rest).length > 2 := of_decide_eq_false undecided
        have longer : ("PRAGMA".toList :: (rest ++ turning)).length > 2 := by
          simp only [List.length_cons, List.length_append, turning]
          omega
        rw [classifyWords_pragma, classifyWords_pragma, if_neg short, if_pos longer]
        decide
    · have settled : decided (first :: rest) = true := by
        simp only [specialLeaders, List.mem_cons, List.not_mem_nil, or_false, not_or] at special
        obtain ⟨-, -, delete, update, alter, with₀, pragma⟩ := special
        simp only [decided, delete, update, alter, with₀, pragma, or_self, if_false]
      rw [undecided] at settled
      cases settled

end DbFree.Destructive
