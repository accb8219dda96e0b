import DbFree.Guard
import DbFree.PlainPrefix

/- A statement inside another one: in a `WITH` clause, behind a `WITH` clause, and
behind `EXPLAIN ANALYZE`. -/
namespace DbFree.Destructive

open Chars Texts Lexing Guard

/-- A text that is one statement: no separator and no shell line cuts it. -/
structure SingleStatement where
  sql : Text
  visible : blank sql = false
  single : ∀ token ∈ scanTokens sql, ¬Boundary token

/-- A statement that a parenthesis behind it closes: it ends inside no literal and no
comment that would take the parenthesis. -/
structure ClosedStatement extends SingleStatement where
  closed : scanner.Reads true (scanTokens sql) [')']

/-- The bare name of a common table expression. -/
structure CteName where
  name : Text
  word : ∀ c ∈ name, isWordChar c = true
  visible : name ≠ []

/-- `WITH name AS (` -/
def clauseFront (name : CteName) : Text :=
  "WITH ".toList ++ (name.name ++ ' ' :: "AS (".toList)

/-- `WITH name AS (query) statement` -/
def withClause (name : CteName) (query statement : Text) : Text :=
  clauseFront name ++ (query ++ ')' :: ' ' :: statement)

def explainFront : Text := "EXPLAIN ANALYZE ".toList

/-- `EXPLAIN ANALYZE statement` -/
def explainAnalyze (statement : Text) : Text := explainFront ++ statement

/-- The words of a statement that removes data. -/
def Removes (words : List Text) : Prop :=
  match words with
  | [] => False
  | first :: _ =>
    first = "DROP".toList ∨ first = "TRUNCATE".toList ∨
      (first = "DELETE".toList ∨ first = "UPDATE".toList) ∧ has words "WHERE" = false ∨
      first = "ALTER".toList ∧ has words "DROP" = true

/-- The words of a statement the guard takes for a read. -/
def OnlyReads (words : List Text) : Prop :=
  match words with
  | [] => True
  | first :: _ =>
    first = "WITH".toList ∧ dmlWriters.any (has words) = false ∨
      first = "PRAGMA".toList ∧ words.length ≤ 2 ∨ isIn first readLeaders = true

theorem destructive_iff (words : List Text) :
    (classifyWords words).1 = .destructive ↔ Removes words := by
  cases words with
  | nil => simp [classifyWords, Removes]
  | cons first rest =>
    by_cases special : first ∈ specialLeaders
    · simp only [specialLeaders, List.mem_cons, List.not_mem_nil, or_false] at special
      rcases special with rfl | rfl | rfl | rfl | rfl | rfl | rfl
      · exact iff_of_true rfl (Or.inl rfl)
      · exact iff_of_true rfl (Or.inr (Or.inl rfl))
      · rw [classifyWords_delete]
        unfold Removes
        generalize has ("DELETE".toList :: rest) "WHERE" = bounded
        cases bounded <;> simp
      · rw [classifyWords_update]
        unfold Removes
        generalize has ("UPDATE".toList :: rest) "WHERE" = bounded
        cases bounded <;> simp
      · rw [classifyWords_alter]
        unfold Removes
        generalize has ("ALTER".toList :: rest) "DROP" = drops
        cases drops <;> simp
      · rw [classifyWords_with]
        cases dmlWriters.any (has ("WITH".toList :: rest)) <;> simp [Removes]
      · rw [classifyWords_pragma]
        split <;> simp [Removes]
    · rw [classifyWords_other _ _ special]
      simp only [specialLeaders, List.mem_cons, List.not_mem_nil, or_false, not_or] at special
      simp only [Removes, special, false_and, or_self, iff_false]
      split <;> simp

theorem read_iff (words : List Text) : (classifyWords words).1 = .read ↔ OnlyReads words := by
  cases words with
  | nil => simp [classifyWords, OnlyReads]
  | cons first rest =>
    have leaders : ∀ keyword ∈ specialLeaders, isIn keyword readLeaders = false := by decide
    by_cases special : first ∈ specialLeaders
    · simp only [OnlyReads, leaders first special]
      simp only [specialLeaders, List.mem_cons, List.not_mem_nil, or_false] at special
      rcases special with rfl | rfl | rfl | rfl | rfl | rfl | rfl
      · simp [classifyWords]
      · simp [classifyWords]
      · rw [classifyWords_delete]
        generalize has ("DELETE".toList :: rest) "WHERE" = bounded
        cases bounded <;> simp
      · rw [classifyWords_update]
        generalize has ("UPDATE".toList :: rest) "WHERE" = bounded
        cases bounded <;> simp
      · rw [classifyWords_alter]
        generalize has ("ALTER".toList :: rest) "DROP" = drops
        cases drops <;> simp
      · rw [classifyWords_with]
        generalize dmlWriters.any (has ("WITH".toList :: rest)) = writes
        cases writes <;> simp
      · rw [classifyWords_pragma]
        generalize ("PRAGMA".toList :: rest).length = count
        by_cases long : count > 2
        · simp [long]
        · simp [long, Nat.le_of_not_lt long]
    · rw [classifyWords_other _ _ special]
      simp only [specialLeaders, List.mem_cons, List.not_mem_nil, or_false, not_or] at special
      unfold OnlyReads
      simp only [special, false_and, false_or]
      cases isIn first readLeaders <;> simp

theorem verdict_statement (statement : SingleStatement) :
    verdict statement.sql = (classifyWords (topLevelWords statement.sql)).1 :=
  verdict_of_words statement.sql statement.visible statement.single

/-- The words of a common table expression are those behind its opening parenthesis. -/
def behindClause (query statement : Text) : List Text :=
  topLevelWords ('(' :: (query ++ ')' :: ' ' :: statement))

/-- The verdict of a `WITH` clause covers both statements in it exactly when neither
removes data, and both only read unless a keyword that writes is seen outside the clause. -/
def KeptByWith (name : CteName) (query : ClosedStatement) (statement : SingleStatement) : Prop :=
  ¬Removes (topLevelWords query.sql) ∧ ¬Removes (topLevelWords statement.sql) ∧
    (OnlyReads (topLevelWords query.sql) ∧ OnlyReads (topLevelWords statement.sql) ∨
      dmlWriters.any
        (has (toAsciiUppercase name.name :: behindClause query.sql statement.sql)) = true)

theorem foldl_clauseFront (name : CteName) :
    (clauseFront name).foldl WordState.plain .start =
      WordState.before ["WITH".toList, toAsciiUppercase name.name, "AS".toList] ⟨[], [], 1⟩ := by
  have keyword : "WITH ".toList.foldl WordState.plain .start = ⟨[], ["WITH".toList], 0⟩ := by
    decide +kernel
  have space : WordState.plain ⟨name.name, ["WITH".toList], 0⟩ ' ' =
      ⟨[], ["WITH".toList, toAsciiUppercase name.name], 0⟩ := by
    have apart : isWordChar ' ' = false := by decide
    have named : name.name.isEmpty = false := by simpa using name.visible
    simp [WordState.plain, WordState.flush, apart, named]
  have opening : "AS (".toList.foldl WordState.plain ⟨[], [], 0⟩ = ⟨[], ["AS".toList], 1⟩ := by
    decide +kernel
  have behind := before_foldl ["WITH".toList, toAsciiUppercase name.name] ⟨[], [], 0⟩ "AS (".toList
  rw [opening] at behind
  rw [clauseFront, List.foldl_append, List.foldl_append, keyword,
    foldl_wordChars _ _ name.word, List.nil_append, List.foldl_cons, space]
  exact behind

theorem inert_clauseFront (name : CteName) : ∀ c ∈ clauseFront name, Inert c := by
  have left : ∀ c ∈ "WITH ".toList, Inert c := forall_mem_of_all _ (by decide)
  have right : ∀ c ∈ ' ' :: "AS (".toList, Inert c :=
    forall_mem_of_all _ (by decide)
  intro c member
  rcases List.mem_append.mp member with member | member
  · exact left c member
  · rcases List.mem_append.mp member with member | member
    · exact inert_of_wordChar c (name.word c member)
    · exact right c member

theorem opens_clauseFront (name : CteName) : Opens (clauseFront name) :=
  ⟨'W', "ITH ".toList ++ (name.name ++ ' ' :: "AS (".toList), by simp [clauseFront],
    by decide +kernel, by decide, by decide⟩

theorem words_withClause (name : CteName) (query statement : Text) :
    topLevelWords (withClause name query statement) =
      ["WITH".toList, toAsciiUppercase name.name, "AS".toList] ++
        behindClause query statement := by
  have opening : wordsLoop 0 .start ('(' :: (query ++ ')' :: ' ' :: statement)) =
      wordsLoop 0 ⟨[], [], 1⟩ (query ++ ')' :: ' ' :: statement) :=
    wordsLoop_plain .start '(' _ (hiddenLen_bare '(' _ (by decide))
  rw [withClause, topLevelWords, wordsLoop_bare _ _ _ fun c member =>
    (inert_clauseFront name c member).1, foldl_clauseFront, before_wordsLoop, behindClause,
    topLevelWords, opening, WordState.before]

theorem tokens_withClause (name : CteName) (query : ClosedStatement)
    (statement : SingleStatement) :
    ∀ token ∈ scanTokens (withClause name query.sql statement.sql), ¬Boundary token := by
  let tokens := plainTokens (clauseFront name) ++ ((scanTokens query.sql).map unblank ++
    (plainTokens [')', ' '] ++ (scanTokens statement.sql).map unblank))
  have whole : text tokens = withClause name query.sql statement.sql := by
    simp only [tokens, text_append, text_plainTokens, text_map_unblank, Lexer.text_tokens,
      withClause, List.cons_append, List.nil_append]
  have reads : scanner.Reads true tokens [] := by
    have enclosed : scanner.Reads true (scanTokens query.sql) (')' :: (' ' :: statement.sql)) :=
      reads_stands (standsFor_change ')' (by decide) [] _) true _ query.closed
    obtain ⟨inner, mode⟩ := reads_unblank true _ _ enclosed query.single
    obtain ⟨last, -⟩ := reads_unblank true _ _ (reads_scan statement.sql) statement.single
    simp only [tokens]
    rw [Lexer.reads_append, Lexer.reads_append, Lexer.reads_append,
      after_plainTokens _ (opens_clauseFront name), mode]
    refine ⟨reads_opening _ _ (inert_clauseFront name) (opens_clauseFront name), ?_, ?_, last⟩
    · simpa using inner
    · exact reads_plainTokens _ _ (forall_mem_of_all _ (by decide))
  have scanned : scanTokens (withClause name query.sql statement.sql) = tokens := by
    rw [← whole]
    exact (scanner.tokens_text_iff true tokens).mpr reads
  rw [scanned]
  intro token member
  simp only [tokens, List.mem_append, List.mem_map] at member
  rcases member with plain | ⟨inner, inside, rfl⟩ | plain | ⟨inner, inside, rfl⟩
  · exact plainTokens_inside _ token plain
  · exact unblank_inside inner (query.single inner inside)
  · exact plainTokens_inside _ token plain
  · exact unblank_inside inner (statement.single inner inside)

/-- The keywords of the clause itself write nothing. -/
theorem writes_behind (name : Text) (words : List Text) :
    dmlWriters.any (has ("WITH".toList :: ([name, "AS".toList] ++ words))) =
      dmlWriters.any (has (name :: words)) := by
  have apart : ∀ keyword ∈ dmlWriters,
      (keyword.toList == "WITH".toList) = false ∧ (keyword.toList == "AS".toList) = false := by
    decide
  have each : ∀ keyword ∈ dmlWriters,
      has ("WITH".toList :: ([name, "AS".toList] ++ words)) keyword = has (name :: words) keyword := by
    intro keyword member
    obtain ⟨left, right⟩ := apart keyword member
    simp only [has, List.cons_append, List.nil_append, List.contains_cons, left, right,
      Bool.false_or]
  rw [Bool.eq_iff_iff, List.any_eq_true, List.any_eq_true]
  constructor
  · rintro ⟨keyword, member, found⟩
    exact ⟨keyword, member, each keyword member ▸ found⟩
  · rintro ⟨keyword, member, found⟩
    exact ⟨keyword, member, (each keyword member).symm ▸ found⟩

theorem verdict_withClause (name : CteName) (query : ClosedStatement)
    (statement : SingleStatement) :
    verdict (withClause name query.sql statement.sql) =
      if dmlWriters.any
        (has (toAsciiUppercase name.name :: behindClause query.sql statement.sql)) then .write
      else .read := by
  have visible : blank (withClause name query.sql statement.sql) = false :=
    blank_of_opens _ _ (opens_clauseFront name)
  rw [verdict_of_words _ visible (tokens_withClause name query statement), words_withClause,
    List.cons_append, classifyWords_with, writes_behind]
  split <;> rfl

theorem inert_explainFront : ∀ c ∈ explainFront, Inert c :=
  forall_mem_of_all _ (by decide)

theorem opens_explainFront : Opens explainFront :=
  ⟨'E', "XPLAIN ANALYZE ".toList, by decide +kernel, by decide +kernel, by decide, by decide⟩

theorem words_explainAnalyze (statement : Text) :
    topLevelWords (explainAnalyze statement) =
      "EXPLAIN".toList :: "ANALYZE".toList :: topLevelWords statement := by
  have keywords : explainFront.foldl WordState.plain .start =
      WordState.before ["EXPLAIN".toList, "ANALYZE".toList] .start := by decide +kernel
  rw [explainAnalyze, topLevelWords, wordsLoop_bare _ _ _ fun c member =>
    (inert_explainFront c member).1, keywords, before_wordsLoop, WordState.before, topLevelWords,
    List.cons_append, List.singleton_append]

theorem tokens_explainAnalyze (statement : SingleStatement) :
    ∀ token ∈ scanTokens (explainAnalyze statement.sql), ¬Boundary token := by
  let tokens := plainTokens explainFront ++ (scanTokens statement.sql).map unblank
  have scanned : scanTokens (explainAnalyze statement.sql) = tokens := by
    have whole : text tokens = explainAnalyze statement.sql := by
      simp only [tokens, text_append, text_plainTokens, text_map_unblank, Lexer.text_tokens,
        explainAnalyze]
    rw [← whole]
    refine (scanner.tokens_text_iff true tokens).mpr ?_
    simp only [tokens]
    rw [Lexer.reads_append, after_plainTokens _ opens_explainFront]
    exact ⟨reads_opening _ _ inert_explainFront opens_explainFront,
      (reads_unblank true _ _ (reads_scan statement.sql) statement.single).1⟩
  rw [scanned]
  intro token member
  rcases List.mem_append.mp member with plain | later
  · exact plainTokens_inside _ token plain
  · obtain ⟨inner, member', rfl⟩ := List.mem_map.mp later
    exact unblank_inside inner (statement.single inner member')

theorem verdict_explainAnalyze (statement : SingleStatement) :
    verdict (explainAnalyze statement.sql) = .read := by
  have visible : blank (explainAnalyze statement.sql) = false :=
    blank_of_opens _ _ opens_explainFront
  rw [verdict_of_words _ visible (tokens_explainAnalyze statement), words_explainAnalyze]
  rfl

/-- Wrapping a statement lowers no verdict exactly when what is wrapped was a read, or the
clause holds no statement that removes data and a keyword that writes is seen outside it. -/
theorem wrapping_keeps_iff (name : CteName) (query : ClosedStatement)
    (statement : SingleStatement) :
    (max (verdict query.sql) (verdict statement.sql) ≤
        verdict (withClause name query.sql statement.sql) ↔ KeptByWith name query statement) ∧
      (verdict statement.sql ≤ verdict (explainAnalyze statement.sql) ↔
        OnlyReads (topLevelWords statement.sql)) := by
  rw [verdict_withClause, verdict_explainAnalyze, verdict_statement query.toSingleStatement,
    verdict_statement statement, KeptByWith, ← destructive_iff, ← destructive_iff, ← read_iff,
    ← read_iff]
  generalize (classifyWords (topLevelWords query.sql)).1 = first
  generalize (classifyWords (topLevelWords statement.sql)).1 = second
  generalize dmlWriters.any (has (toAsciiUppercase name.name ::
    behindClause query.sql statement.sql)) = writes
  constructor
  · cases first <;> cases second <;> cases writes <;> decide
  · cases second <;> decide

def deleteOne : ClosedStatement where
  sql := "DELETE FROM t WHERE id = 1".toList
  visible := by decide +kernel
  single := by decide +kernel
  closed := by decide +kernel

def selectOne : SingleStatement := ⟨"SELECT 1".toList, by decide +kernel, by decide +kernel⟩

/-- `WITH n AS (DELETE FROM t WHERE id = 1) SELECT 1` and `EXPLAIN ANALYZE DELETE FROM t
WHERE id = 1` are reads to the guard. -/
theorem wrapping_lowers :
    (¬∀ (name : CteName) (query : ClosedStatement) (statement : SingleStatement),
      max (verdict query.sql) (verdict statement.sql) ≤
        verdict (withClause name query.sql statement.sql)) ∧
      ¬∀ statement : SingleStatement,
        verdict statement.sql ≤ verdict (explainAnalyze statement.sql) := by
  constructor
  · intro covers
    have lowered :=
      covers ⟨['n'], forall_mem_of_all _ (by decide +kernel), by decide⟩ deleteOne selectOne
    revert lowered
    decide +kernel
  · intro covers
    have lowered := covers deleteOne.toSingleStatement
    revert lowered
    decide +kernel

end DbFree.Destructive
