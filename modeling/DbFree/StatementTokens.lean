import DbFree.TopLevelWords

/- How the tokens of a script fall into statements, and the verdicts of the
statements as a function of their tokens. -/
namespace DbFree.Destructive

open Texts Lexing

/-- A token that ends the statement in progress. -/
def Boundary (token : Tok) : Prop := token.kind = .separator ∨ token.kind = .shell

instance (token : Tok) : Decidable (Boundary token) := inferInstanceAs (Decidable (_ ∨ _))

/-- The kind of the statement with these tokens. -/
def kindOf (statement : List Tok) : StatementKind :=
  (classifyWords (topLevelWords (text statement))).1

theorem kinds_eq (sql : Text) :
    kinds sql =
      ((statementTokens [] (scanTokens sql)).filter fun statement =>
        !blank (text statement)).map kindOf := by
  simp only [kinds, classify, splitStatements_eq, List.filter_map, List.map_map]
  rfl

theorem statementTokens_separator (current later : List Tok) (token : Tok)
    (kind : token.kind = .separator) :
    statementTokens current (token :: later) = current :: statementTokens [] later := by
  simp only [statementTokens, kind]

theorem statementTokens_shell (current later : List Tok) (token : Tok)
    (kind : token.kind = .shell) :
    statementTokens current (token :: later) =
      (current ++ [token]) :: statementTokens [] later := by
  simp only [statementTokens, kind]

theorem statementTokens_inside (current later : List Tok) (token : Tok)
    (inside : ¬Boundary token) :
    statementTokens current (token :: later) = statementTokens (current ++ [token]) later := by
  simp only [Boundary, not_or] at inside
  rw [statementTokens]
  split
  · exact absurd ‹_› inside.1
  · exact absurd ‹_› inside.2
  · rfl

theorem statementTokens_run (current run later : List Tok)
    (inside : ∀ token ∈ run, ¬Boundary token) :
    statementTokens current (run ++ later) = statementTokens (current ++ run) later := by
  induction run generalizing current with
  | nil => simp
  | cons token run ih =>
    rw [List.cons_append, statementTokens_inside _ _ _ (inside token List.mem_cons_self),
      ih _ fun other member => inside other (List.mem_cons_of_mem _ member)]
    simp

theorem kinds_single (sql : Text) (visible : blank sql = false)
    (inside : ∀ token ∈ scanTokens sql, ¬Boundary token) :
    kinds sql = [(classifyWords (topLevelWords sql)).1] := by
  have one : statementTokens [] (scanTokens sql) = [scanTokens sql] := by
    have run := statementTokens_run [] (scanTokens sql) [] inside
    rw [List.append_nil, List.nil_append] at run
    rw [run, statementTokens, Lexer.text_tokens, visible]
    rfl
  rw [kinds_eq, one]
  simp [visible, kindOf]

/-- A statement is a run of tokens without boundary, with the shell line that ends it
when one does. -/
theorem statementTokens_shape (current later : List Tok)
    (inside : ∀ token ∈ current, ¬Boundary token) :
    ∀ statement ∈ statementTokens current later, ∃ run ending, statement = run ++ ending ∧
      (∀ token ∈ run, ¬Boundary token) ∧
      (ending = [] ∨ ∃ token, ending = [token] ∧ token.kind = .shell) := by
  induction later generalizing current with
  | nil =>
    intro statement member
    simp only [statementTokens] at member
    split at member
    · cases member
    · rw [List.mem_singleton.mp member]
      exact ⟨current, [], by simp, inside, Or.inl rfl⟩
  | cons token later ih =>
    intro statement member
    by_cases separator : token.kind = .separator
    · rw [statementTokens_separator _ _ _ separator, List.mem_cons] at member
      rcases member with rfl | member
      · exact ⟨statement, [], by simp, inside, Or.inl rfl⟩
      · exact ih [] (by simp) statement member
    by_cases shell : token.kind = .shell
    · rw [statementTokens_shell _ _ _ shell, List.mem_cons] at member
      rcases member with rfl | member
      · exact ⟨current, [token], rfl, inside, Or.inr ⟨token, rfl, shell⟩⟩
      · exact ih [] (by simp) statement member
    · have open₀ : ¬Boundary token := fun either => either.elim separator shell
      rw [statementTokens_inside _ _ _ open₀] at member
      refine ih (current ++ [token]) ?_ statement member
      simpa [or_imp, forall_and] using ⟨inside, open₀⟩

/-- Tokens may be put in a statement's place, and only that statement changes. -/
theorem statementTokens_focus (current later : List Tok)
    (inside : ∀ token ∈ current, ¬Boundary token) :
    ∀ statement ∈ statementTokens current later, ∃ front back earlier others,
      current ++ later = front ++ statement ++ back ∧
      ∀ statement', statement'.map Token.kind = statement.map Token.kind →
        blank (text statement') = false →
        statementTokens [] (front ++ statement' ++ back) = earlier ++ statement' :: others := by
  have kindBoundary : ∀ (run run' : List Tok), run'.map Token.kind = run.map Token.kind →
      (∀ token ∈ run, ¬Boundary token) → ∀ token ∈ run', ¬Boundary token := by
    intro run run' same none token member
    obtain ⟨other, member', kind⟩ :=
      List.mem_map.mp (same ▸ List.mem_map_of_mem (f := Token.kind) member)
    have not := none other member'
    rwa [Boundary, kind] at not
  induction later generalizing current with
  | nil =>
    intro statement member
    simp only [statementTokens] at member
    split at member
    · cases member
    · rw [List.mem_singleton.mp member]
      refine ⟨[], [], [], [], by simp, ?_⟩
      intro statement' same visible
      have run := statementTokens_run [] statement' [] (kindBoundary current statement' same inside)
      rw [List.nil_append, run, List.nil_append, List.nil_append, statementTokens, visible]
      rfl
  | cons token later ih =>
    intro statement member
    by_cases separator : token.kind = .separator
    · rw [statementTokens_separator _ _ _ separator, List.mem_cons] at member
      rcases member with rfl | member
      · refine ⟨[], token :: later, [], statementTokens [] later, by simp, ?_⟩
        intro statement' same visible
        rw [List.nil_append, statementTokens_run _ _ _ (kindBoundary statement statement' same inside),
          statementTokens_separator _ _ _ separator]
        rfl
      · obtain ⟨front, back, earlier, others, split, replaced⟩ := ih [] (by simp) statement member
        refine ⟨current ++ token :: front, back, current :: earlier, others, ?_, ?_⟩
        · rw [List.nil_append] at split
          simp [split]
        · intro statement' same visible
          rw [List.append_assoc, List.append_assoc, statementTokens_run _ _ _ inside,
            List.cons_append, statementTokens_separator _ _ _ separator, ← List.append_assoc,
            replaced statement' same visible]
          rfl
    by_cases shell : token.kind = .shell
    · rw [statementTokens_shell _ _ _ shell, List.mem_cons] at member
      rcases member with rfl | member
      · refine ⟨[], later, [], statementTokens [] later, by simp, ?_⟩
        intro statement' same visible
        rw [List.map_append, List.map_cons, List.map_nil] at same
        obtain ⟨run, last, rfl, runKinds, lastKinds⟩ := List.map_eq_append_iff.mp same
        obtain ⟨token', rest, rfl, kind, empty⟩ := List.map_eq_cons_iff.mp lastKinds
        rw [List.map_eq_nil_iff.mp empty]
        rw [List.nil_append, List.append_assoc,
          statementTokens_run _ _ _ (kindBoundary current run runKinds inside), List.singleton_append,
          statementTokens_shell _ _ _ (kind.trans shell)]
        rfl
      · obtain ⟨front, back, earlier, others, split, replaced⟩ := ih [] (by simp) statement member
        refine ⟨current ++ token :: front, back, (current ++ [token]) :: earlier, others, ?_, ?_⟩
        · rw [List.nil_append] at split
          simp [split]
        · intro statement' same visible
          rw [List.append_assoc, List.append_assoc, statementTokens_run _ _ _ inside,
            List.cons_append, statementTokens_shell _ _ _ shell, ← List.append_assoc,
            replaced statement' same visible]
          rfl
    · have open₀ : ¬Boundary token := fun either => either.elim separator shell
      rw [statementTokens_inside _ _ _ open₀] at member
      have grown : ∀ other ∈ current ++ [token], ¬Boundary other := by
        simpa [or_imp, forall_and] using ⟨inside, open₀⟩
      obtain ⟨front, back, earlier, others, split, replaced⟩ := ih _ grown statement member
      exact ⟨front, back, earlier, others, by simpa using split, replaced⟩

theorem statementTokens_related (R : Tok → Tok → Prop)
    (kind : ∀ token token', R token token' → token.kind = token'.kind)
    (blanks : ∀ token token', R token token' → blank token.text = blank token'.text)
    (current current' later later' : List Tok) (same : List.Forall₂ R current current')
    (same' : List.Forall₂ R later later') :
    List.Forall₂ (List.Forall₂ R) (statementTokens current later)
      (statementTokens current' later') := by
  have texts : ∀ tokens tokens', List.Forall₂ R tokens tokens' →
      blank (text tokens) = blank (text tokens') := by
    intro tokens tokens' related
    induction related with
    | nil => rfl
    | cons head tail ih =>
      have headBlank := blanks _ _ head
      simp only [blank, text_cons, List.all_append] at ih headBlank ⊢
      rw [headBlank, ih]
  induction same' generalizing current current' with
  | nil =>
    simp only [statementTokens, texts _ _ same]
    split
    · exact .nil
    · exact .cons same .nil
  | @cons token token' later later' head tail ih =>
    have agree := kind _ _ head
    by_cases separator : token.kind = .separator
    · rw [statementTokens_separator _ _ _ separator,
        statementTokens_separator _ _ _ (agree ▸ separator)]
      exact .cons same (ih [] [] .nil)
    by_cases shell : token.kind = .shell
    · rw [statementTokens_shell _ _ _ shell, statementTokens_shell _ _ _ (agree ▸ shell)]
      exact .cons (List.rel_append same (.cons head .nil)) (ih [] [] .nil)
    · have open₀ : ¬Boundary token := fun either => either.elim separator shell
      have open₀' : ¬Boundary token' := by rwa [Boundary, ← agree]
      rw [statementTokens_inside _ _ _ open₀, statementTokens_inside _ _ _ open₀']
      exact ih _ _ (List.rel_append same (.cons head .nil))

end DbFree.Destructive
