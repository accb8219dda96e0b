import DbFree.LiteralNoninterference
import DbFree.PlainPrefix
import DbFree.SplitterAgreement

/- The two comment forms of MySQL that the splitter knows and the guard does not: a `#`
line, whose words the guard reads, and a `/*! … */` section, whose words it does not. -/
namespace DbFree.Destructive

open Chars Texts Lexing Guard SqlImport

/-- A `#` comment line in front of a statement. -/
def hashLine (comment statement : Text) : Text := '#' :: (comment ++ '\n' :: statement)

/-- A comment whose content the server runs. -/
def sectionText (body : Text) : Text := "/*!".toList ++ body ++ "*/".toList

/-- No `#` comment line in front of the statement changes its verdict. -/
def HashLinesInert (statement : Text) : Prop :=
  ∀ comment, '\n' ∉ comment → verdict (hashLine comment statement) = verdict statement

/-- A `/*! … */` section that a statement holds. -/
structure SectionOf (statement : Text) where
  front : List Tok
  body : Text
  back : List Tok
  tokens : scanTokens statement = front ++ ⟨.blockComment, sectionText body⟩ :: back

/-- The verdict of a statement covers the sections in it. -/
def SectionsCount (statement : Text) : Prop :=
  ∀ part : SectionOf statement, verdict part.body ≤ verdict statement

/-- The statement around a section, with nothing in it. -/
def SectionOf.around {statement : Text} (part : SectionOf statement) : Text :=
  text (part.front ++ ⟨.blockComment, sectionText []⟩ :: part.back)

theorem closingLen_short (tag : Text) : ∀ rest : Text, rest.length < tag.length →
    closingLen tag rest = rest.length
  | [], _ => rfl
  | c :: rest, short => by
    have open₀ : ¬tag.isPrefixOf (c :: rest) = true := by
      rw [List.isPrefixOf_iff_prefix]
      intro inside
      have long := inside.length_le
      omega
    rw [closingLen, if_neg open₀, closingLen_short tag rest (by simp at short; omega),
      List.length_cons]

/-- A tag that does not come again opens a dollar quote to the end of the text. -/
theorem reads_openDollar (name rest : Text) (word : ∀ c ∈ name, isWordChar c = true)
    (short : rest.length < name.length + 2) :
    scanner.ReadsOne false ⟨.dollar ('$' :: name ++ ['$']), '$' :: name ++ ['$'] ++ rest⟩ [] := by
  have opens : dollarTag (name ++ ['$'] ++ rest) = some ('$' :: name ++ ['$']) :=
    (dollarTag_eq_some_iff _ _).mpr ⟨name, rest, by simp, word, rfl⟩
  have size : ('$' :: name ++ ['$']).length - 1 = (name ++ ['$']).length := by simp
  obtain ⟨head, extra⟩ := scanner_token false '$' (name ++ ['$'] ++ rest) (by simp) (by simp)
    (by decide)
  refine ⟨'$', name ++ ['$'] ++ rest, by simp, ?_, ?_⟩
  · rw [List.append_nil]
    exact (congrArg Token.kind head).trans (tokenKind_of_tag _ _ opens)
  · rw [List.append_nil, extra, tokenLen_dollar, dollarLen, opens]
    dsimp only
    rw [size, List.drop_left, closingLen_short _ rest (by
      simp only [List.length_append, List.length_cons, List.length_nil]
      omega)]
    simp only [List.length_append]

/-- A `#` line that ends the statement in the guard's eyes after its first word: what
follows is inside parentheses for the words, and inside a dollar quote for the scanner. -/
def swallowing (keyword : Text) (statement : Text) : Text :=
  ' ' :: (keyword ++ ' ' :: (List.replicate (2 * statement.length + 6) '(' ++
    '$' :: (List.replicate (statement.length + 1) 'x' ++ ['$'])))

theorem verdict_swallowing (keyword statement : Text)
    (inert : ∀ c ∈ '#' :: ' ' :: (keyword ++ [' ']), Inert c)
    (read : ('#' :: ' ' :: (keyword ++ [' '])).foldl WordState.plain .start =
      ⟨[], [keyword], 0⟩) :
    verdict (hashLine (swallowing keyword statement) statement) =
      (classifyWords [keyword]).1 := by
  let front := '#' :: ' ' :: (keyword ++ [' ']) ++ List.replicate (2 * statement.length + 6) '('
  let name := List.replicate (statement.length + 1) 'x'
  let rest := '\n' :: statement
  have whole : hashLine (swallowing keyword statement) statement =
      front ++ ('$' :: name ++ ['$'] ++ rest) := by
    simp [hashLine, swallowing, front, name, rest]
  have word : ∀ c ∈ name, isWordChar c = true := by
    intro c member
    rw [(List.mem_replicate.mp member).2]
    decide +kernel
  have inertFront : ∀ c ∈ front, Inert c := by
    intro c member
    rcases List.mem_append.mp member with written | parenthesis
    · exact inert c written
    · rw [(List.mem_replicate.mp parenthesis).2]
      decide
  have opens : Opens front :=
    ⟨'#', ' ' :: (keyword ++ [' ']) ++ List.replicate (2 * statement.length + 6) '(', rfl,
      by decide +kernel, by decide, by decide⟩
  let tokens := plainTokens front ++
    [(⟨.dollar ('$' :: name ++ ['$']), '$' :: name ++ ['$'] ++ rest⟩ : Tok)]
  have reads : scanner.Reads true tokens [] := by
    rw [Lexer.reads_append, after_plainTokens front opens]
    exact ⟨reads_opening front _ inertFront opens,
      reads_openDollar name rest word (by simp [name, rest]), trivial⟩
  have scanned : scanTokens (hashLine (swallowing keyword statement) statement) = tokens := by
    have texts : hashLine (swallowing keyword statement) statement = text tokens := by
      rw [whole]
      simp [tokens]
    rw [texts]
    exact (scanner.tokens_text_iff true tokens).mpr reads
  have inside : ∀ token ∈ scanTokens (hashLine (swallowing keyword statement) statement),
      ¬Boundary token := by
    rw [scanned]
    intro token member
    rcases List.mem_append.mp member with plain | last
    · exact plainTokens_inside front token plain
    · rw [List.mem_singleton.mp last]
      simp [Boundary]
  have words : topLevelWords (hashLine (swallowing keyword statement) statement) = [keyword] := by
    rw [whole, topLevelWords, wordsLoop_bare _ _ _ fun c member => (inertFront c member).1,
      List.foldl_append, read, foldl_open _ _ rfl, wordsLoop_deep]
    simp only [name, rest, List.length_append, List.length_cons, List.length_replicate,
      List.length_nil]
    omega
  have visible : blank (hashLine (swallowing keyword statement) statement) = false := by
    rw [whole]
    exact blank_of_opens front _ opens
  rw [verdict_of_words _ visible inside, words]

/-- For every statement some `#` comment line in front of it changes its verdict. -/
theorem hashLines_not_inert (statement : Text) : ¬HashLinesInert statement := by
  intro inert
  have plain : ∀ keyword : Text, '\n' ∉ keyword → '\n' ∉ swallowing keyword statement := by
    intro keyword clear
    simp [swallowing, clear, List.mem_replicate]
  have drop := inert (swallowing "DROP".toList statement) (plain _ (by decide))
  have select := inert (swallowing "SELECT".toList statement) (plain _ (by decide))
  rw [verdict_swallowing _ _ (forall_mem_of_all _ (by decide)) (by decide +kernel)]
    at drop select
  rw [← drop] at select
  revert select
  decide

theorem verdict_of_kinds (sql sql' : Text) (same : kinds sql = kinds sql') :
    verdict sql = verdict sql' := by
  rw [kinds, kinds] at same
  rw [verdict, verdict, scriptIntent, scriptIntent, same]

theorem reads_emptySection (fresh : Bool) (rest : Text) :
    scanner.ReadsOne fresh ⟨.blockComment, sectionText []⟩ rest := by
  have white : isWhitespace '/' = false := by decide
  obtain ⟨head, extra⟩ := scanner_token fresh '/' ("*!*/".toList ++ rest) (by simp [white])
    (by simp [startsShellCommand]) (by decide)
  refine ⟨'/', "*!*/".toList, by decide +kernel, ?_, ?_⟩
  · refine (congrArg Token.kind head).trans ?_
    simp [tokenKind, isQuote, startsLineComment, startsBlockComment]
  · rw [extra]
    simp [tokenLen, isQuote, startsLineComment, startsBlockComment, blockLen]

/-- What a section holds has no part in the verdict of its statement. -/
theorem verdict_around (statement : Text) (part : SectionOf statement)
    (settled : DollarQuotesDecided statement) : verdict statement = verdict part.around := by
  obtain ⟨front, body, back, tokens⟩ := part
  have reads := reads_scan statement
  rw [tokens, Lexer.reads_append] at reads
  have emptied : scanner.Reads true (front ++ ⟨.blockComment, sectionText []⟩ :: back) [] := by
    rw [Lexer.reads_append]
    refine ⟨?_, reads_emptySection _ _, reads.2.2⟩
    exact reads_stands (standsFor_change '/' (by decide) _ _) true front reads.1
  have scanned : scanTokens (text (front ++ ⟨.blockComment, sectionText []⟩ :: back)) =
      front ++ ⟨.blockComment, sectionText []⟩ :: back :=
    (scanner.tokens_text_iff true _).mpr emptied
  have skeleton : SameSkeleton statement
      (text (front ++ ⟨.blockComment, sectionText []⟩ :: back)) := by
    have same : ∀ run : List Tok, List.Forall₂ SameToken run run :=
      fun run => List.forall₂_same.mpr fun token _ => ⟨rfl, Or.inr rfl⟩
    have changed : SameToken ⟨.blockComment, sectionText body⟩ ⟨.blockComment, sectionText []⟩ :=
      ⟨rfl, Or.inl trivial⟩
    rw [SameSkeleton, scanned, tokens]
    exact List.rel_append (same front) (.cons changed (same back))
  exact verdict_of_kinds _ _ (kinds_of_sameSkeleton statement _ skeleton settled).symm

end DbFree.Destructive
