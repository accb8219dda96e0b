import DbFree.RunTargets

/- How the statements of the guard are cut: off the front of a text, one boundary at a
time. What is proved of `split_statements` holds as well of the ranges Cypher's statements
are looked up by. -/
namespace DbFree.RunTargets

open Chars Texts Destructive Lexing

/-- No separator in the text, and nothing behind the line of a shell command. -/
def OneStatement (piece : Text) : Prop :=
  (∀ token ∈ (scanTokens piece).dropLast, ¬Boundary token) ∧
    ∀ token ∈ (scanTokens piece).getLast?, token.kind ≠ .separator

/-- A `;` written right behind the text is read as a separator: it does not fall into a
line comment, into the line of a shell command or into anything left open. -/
def Closes (piece : Text) : Prop :=
  scanTokens (piece ++ [';']) = scanTokens piece ++ [⟨.separator, [';']⟩]

instance (piece : Text) : Decidable (OneStatement piece) := inferInstanceAs (Decidable (_ ∧ _))

instance (piece : Text) : Decidable (Closes piece) := inferInstanceAs (Decidable (_ = _))

theorem separator_not_white : isWhitespace ';' = false := by decide

/-- In front of a separator nothing else can begin. -/
theorem readsOne_separator (fresh : Bool) (rest : Text) :
    scanner.ReadsOne fresh ⟨.separator, [';']⟩ rest := by
  have shell : startsShellCommand ';' rest.head? = false := rfl
  refine ⟨';', [], rfl, ?_, ?_⟩
  · simp [scanner, separator_not_white, shell]
  · simp [scanner, separator_not_white, shell]

theorem text_singleton (token : Tok) : text [token] = token.text := by simp

theorem separator_text (fresh : Bool) (token : Tok) (rest : Text)
    (reads : scanner.ReadsOne fresh token rest) (kind : token.kind = .separator) :
    token.text = [';'] := by
  obtain ⟨c, tail, shape, kind', extra⟩ := reads
  rw [kind] at kind'
  simp only [scanner] at kind' extra
  by_cases white : (fresh && isWhitespace c) = true
  · rw [if_pos white] at kind'
    cases kind'
  by_cases shell : (fresh && startsShellCommand c (tail ++ rest).head?) = true
  · rw [if_neg white, if_pos shell] at kind'
    cases kind'
  by_cases separator : (c == ';') = true
  · rw [if_neg white, if_neg shell, if_pos separator] at extra
    rw [shape, List.length_eq_zero_iff.mp extra.symm, beq_iff_eq.mp separator]
  · rw [if_neg white, if_neg shell, if_neg separator] at kind'
    exact absurd kind' (tokenKind_spec c (tail ++ rest)).2.2

/-- The line of a shell command ends the text or stands in front of a line feed. -/
theorem shell_rest (fresh : Bool) (token : Tok) (rest : Text)
    (reads : scanner.ReadsOne fresh token rest) (kind : token.kind = .shell) :
    (rest = [] ∨ rest.head? = some '\n') ∧ blank token.text = false := by
  obtain ⟨c, tail, shape, kind', extra⟩ := reads
  rw [kind] at kind'
  simp only [scanner] at kind' extra
  by_cases white : (fresh && isWhitespace c) = true
  · rw [if_pos white] at kind'
    cases kind'
  by_cases shell : (fresh && startsShellCommand c (tail ++ rest).head?) = true
  · rw [if_neg white, if_pos shell] at extra
    have starts := (startsShellCommand_iff _ _).mp (Bool.and_eq_true_iff.mp shell).2
    have visible : isWhitespace c = false := by
      rcases starts with rfl | ⟨rfl, -⟩ <;> decide
    refine ⟨((lineLen_append tail rest).mp extra).2, ?_⟩
    rw [shape, blank, List.all_cons, visible, Bool.false_and]
  · rw [if_neg white, if_neg shell] at kind'
    split at kind'
    · cases kind'
    · exact absurd kind' (tokenKind_spec c (tail ++ rest)).2.1

/-- How the first statement of a text ends. -/
inductive Front (chars : Text) : Prop where
  /-- Nothing ends it. -/
  | whole (inside : ∀ token ∈ scanTokens chars, ¬Boundary token)
  | separated (statement later : Text) (split : chars = statement ++ ';' :: later)
      (tokens : scanTokens chars =
        scanTokens statement ++ ⟨.separator, [';']⟩ :: scanTokens later)
      (inside : ∀ token ∈ scanTokens statement, ¬Boundary token)
  | command (statement later : Text) (run : List Tok) (token : Tok)
      (split : chars = statement ++ later)
      (own : scanTokens statement = run ++ [token])
      (tokens : scanTokens chars = scanTokens statement ++ scanTokens later)
      (inside : ∀ other ∈ run, ¬Boundary other) (kind : token.kind = .shell)
      (ends : later = [] ∨ later.head? = some '\n') (visible : blank statement = false)

theorem first_boundary (tokens : List Tok) :
    (∀ token ∈ tokens, ¬Boundary token) ∨
      ∃ run token later, tokens = run ++ token :: later ∧ Boundary token ∧
        ∀ other ∈ run, ¬Boundary other := by
  by_cases inside : ∀ token ∈ tokens, ¬Boundary token
  · exact Or.inl inside
  · right
    push Not at inside
    obtain ⟨token, member, boundary⟩ := inside
    have found : (tokens.find? fun other => decide (Boundary other)).isSome = true :=
      List.find?_isSome.mpr ⟨token, member, decide_eq_true boundary⟩
    obtain ⟨first, some₀⟩ := Option.isSome_iff_exists.mp found
    obtain ⟨isFirst, run, later, split, before⟩ := List.find?_eq_some_iff_append.mp some₀
    exact ⟨run, first, later, split, of_decide_eq_true isFirst,
      fun other inRun => by simpa using before other inRun⟩

theorem front_cases (chars : Text) : Front chars := by
  rcases first_boundary (scanTokens chars) with inside | ⟨run, token, later, split, ends, inside⟩
  · exact .whole inside
  · obtain ⟨textSplit, reads, again⟩ := scanner.tokens_split true chars run (token :: later) split
    have behind : scanner.Reads (scanner.after true run) (token :: later) [] := by
      rw [← again]
      exact scanner.reads_tokens _ _
    have reads' : scanner.Reads true (run ++ [token]) (text later) := by
      rw [scanner.reads_append]
      refine ⟨by simpa using reads, ?_, trivial⟩
      simpa using behind.1
    have first := behind.1
    rw [List.append_nil] at first
    rcases ends with separator | shell
    · have single := separator_text _ _ _ first separator
      have fresh : scanner.next (scanner.after true run) token = true := by
        simp only [scanner, separator]
      have own := tokens_text_of_reads true run reads
      have rest : scanTokens (text later) = later := by
        have tail := behind.2
        rw [fresh] at tail
        exact tokens_text_of_reads true later tail
      refine .separated (text run) (text later) ?_ ?_ ?_
      · rw [textSplit, text_cons, single, List.singleton_append]
      · rw [split, scanTokens, own, rest]
        congr 2
        rcases token with ⟨kind, read⟩
        simp only at separator single
        rw [separator, single]
      · rwa [scanTokens, own]
    · obtain ⟨after, visible⟩ := shell_rest _ _ _ first shell
      have fresh : scanner.next (scanner.after true run) token = true := by
        simp only [scanner, shell]
      have own := tokens_text_of_reads true (run ++ [token]) reads'
      have rest : scanTokens (text later) = later := by
        have tail := behind.2
        rw [fresh] at tail
        exact tokens_text_of_reads true later tail
      refine .command (text (run ++ [token])) (text later) run token ?_ own ?_ inside shell after ?_
      · rw [textSplit, text_cons, text_append, text_singleton, List.append_assoc]
      · rw [split, scanTokens, own, rest, List.append_assoc, List.singleton_append]
      · rw [blank] at visible ⊢
        rw [text_append, text_singleton, List.all_append, visible, Bool.and_false]

section Splitting

variable (chars statement later : Text)

theorem splitStatements_whole (inside : ∀ token ∈ scanTokens chars, ¬Boundary token) :
    splitStatements chars = if blank chars then [] else [chars] := by
  have run := statementTokens_run [] (scanTokens chars) [] inside
  rw [List.append_nil, List.nil_append] at run
  rw [splitStatements_eq, run, statementTokens, Lexer.text_tokens]
  split
  · rfl
  · rw [List.map_singleton, Lexer.text_tokens]

theorem splitStatements_separated
    (tokens : scanTokens chars = scanTokens statement ++ ⟨.separator, [';']⟩ :: scanTokens later)
    (inside : ∀ token ∈ scanTokens statement, ¬Boundary token) :
    splitStatements chars = statement :: splitStatements later := by
  rw [splitStatements_eq, tokens, statementTokens_run _ _ _ inside,
    statementTokens_separator _ _ _ rfl, List.map_cons, List.nil_append, Lexer.text_tokens,
    ← splitStatements_eq]

theorem splitStatements_command (run : List Tok) (token : Tok)
    (own : scanTokens statement = run ++ [token])
    (tokens : scanTokens chars = scanTokens statement ++ scanTokens later)
    (inside : ∀ other ∈ run, ¬Boundary other) (kind : token.kind = .shell) :
    splitStatements chars = statement :: splitStatements later := by
  have whole := scanner.text_tokens true statement
  rw [scanTokens] at own
  rw [own] at whole
  rw [splitStatements_eq, tokens, scanTokens, own, List.append_assoc, List.singleton_append,
    statementTokens_run _ _ _ inside, statementTokens_shell _ _ _ kind, List.map_cons,
    List.nil_append, whole, ← splitStatements_eq]

end Splitting

section Trimming

/-- The tokens of a text, and of the text with more white space behind it: all but the last
are the same. -/
theorem tokens_append_white (fresh : Bool) (chars : Text) (c : Char) (white : Text)
    (apart : isWordChar c = false) (other : c ≠ '$') (front : List Tok) (last : Tok)
    (tokens : scanner.tokens fresh chars = front ++ [last]) :
    scanner.tokens fresh (chars ++ c :: white) =
      front ++ scanner.tokens (scanner.after fresh front) (last.text ++ c :: white) := by
  obtain ⟨whole, reads, -⟩ := scanner.tokens_split fresh chars front [last] tokens
  have ne : last.text ≠ [] := by
    have behind := scanner.reads_tokens fresh chars
    rw [tokens, scanner.reads_append] at behind
    exact scanner.text_ne_nil_of_readsOne _ last _ behind.2.1
  rw [text_singleton] at whole reads
  have neutral : dollarTag (c :: white) = none :=
    (dollarTag_cons_eq_none_iff c white).mpr ⟨other, fun word => by rw [apart] at word; cases word⟩
  have keeps : ∀ text : Text, dollarTag text = none → dollarTag (text ++ c :: white) = none := by
    intro text
    induction text with
    | nil => exact fun _ => neutral
    | cons d text ih =>
      rw [List.cons_append, dollarTag_cons_eq_none_iff, dollarTag_cons_eq_none_iff]
      exact fun closed => ⟨closed.1, fun word => ih (closed.2 word)⟩
  have stands : StandsFor (last.text ++ c :: white) last.text := by
    refine ⟨Or.inr ?_, keeps last.text⟩
    obtain ⟨d, later, shape⟩ := List.exists_cons_of_ne_nil ne
    rw [shape, List.cons_append, List.head?_cons, List.head?_cons]
  have extended := reads_stands stands fresh front reads
  rw [whole, List.append_assoc, scanner.tokens_of_reads fresh front _ extended]

theorem not_wordChar_white (c : Char) (white : isWhitespace c = true) :
    isWordChar c = false ∧ c ≠ '$' := by
  refine ⟨not_wordChar_of_whitespace c white, ?_⟩
  rintro rfl
  revert white
  decide

theorem tokens_white (white rest : Text) (all : ∀ c ∈ white, isWhitespace c = true) :
    ∃ blanks, scanTokens (white ++ rest) = blanks ++ scanTokens rest ∧
      (∀ token ∈ blanks, token.kind = .blank) ∧ text blanks = white := by
  induction white with
  | nil => exact ⟨[], rfl, by simp, rfl⟩
  | cons c white ih =>
    obtain ⟨blanks, same, kinds, whole⟩ := ih fun d member => all d (List.mem_cons_of_mem c member)
    have first : (true && isWhitespace c) = true := by
      rw [all c List.mem_cons_self, Bool.and_self]
    obtain ⟨head, extra⟩ := scanner_blank true c (white ++ rest) first
    refine ⟨⟨.blank, [c]⟩ :: blanks, ?_, ?_, by rw [text_cons, whole]; rfl⟩
    · rw [List.cons_append, scanTokens, Lexer.tokens_cons, head, extra, List.drop_zero]
      simp only [scanner, List.cons_append, List.cons.injEq, true_and]
      exact same
    · intro token member
      rcases List.mem_cons.mp member with rfl | later
      · rfl
      · exact kinds token later

theorem oneStatement_iff (piece : Text) :
    OneStatement piece ↔ ∃ run ending, scanTokens piece = run ++ ending ∧
      (∀ token ∈ run, ¬Boundary token) ∧
      (ending = [] ∨ ∃ token, ending = [token] ∧ token.kind = .shell) := by
  unfold OneStatement
  rcases List.eq_nil_or_concat (scanTokens piece) with empty | ⟨front, last, split⟩
  · rw [empty]
    simp only [List.dropLast_nil, List.not_mem_nil, false_implies, implies_true, List.getLast?_nil,
      Option.mem_def, reduceCtorEq, and_self, true_iff]
    exact ⟨[], [], rfl, by simp, Or.inl rfl⟩
  · rw [List.concat_eq_append] at split
    rw [split]
    simp only [List.dropLast_concat, List.getLast?_concat, Option.mem_def, Option.some.injEq,
      forall_eq']
    constructor
    · rintro ⟨inside, ends⟩
      by_cases shell : last.kind = .shell
      · exact ⟨front, [last], rfl, inside, Or.inr ⟨last, rfl, shell⟩⟩
      · refine ⟨front ++ [last], [], by simp, ?_, Or.inl rfl⟩
        intro token member
        rcases List.mem_append.mp member with inFront | isLast
        · exact inside token inFront
        · rw [List.mem_singleton.mp isLast]
          exact fun either => either.elim ends shell
    · rintro ⟨run, ending, same, inside, rfl | ⟨token, rfl, kind⟩⟩
      · rw [List.append_nil] at same
        refine ⟨fun token member => inside token ?_, ?_⟩
        · rw [← same]
          exact List.mem_append_left _ member
        · intro separator
          refine inside last ?_ (Or.inl separator)
          rw [← same]
          exact List.mem_append_right _ List.mem_cons_self
      · obtain ⟨rfl, same'⟩ := List.append_inj' same rfl
        refine ⟨inside, ?_⟩
        rw [(List.cons.inj same').1, kind]
        exact TokenKind.noConfusion

/-- White space at the ends of a statement belongs to none of its boundaries. -/
theorem oneStatement_trim (statement : Text) (one : OneStatement statement) :
    OneStatement (trim statement) := by
  obtain ⟨back, parts, backWhite⟩ := trim_append_parts statement
  have frontWhite : ∀ c ∈ statement.takeWhile isWhitespace, isWhitespace c = true :=
    fun c member => List.mem_takeWhile_imp member
  obtain ⟨blanks, same, blankKinds, -⟩ :=
    tokens_white (statement.takeWhile isWhitespace) (trim statement ++ back) frontWhite
  rw [← List.append_assoc, ← parts] at same
  have inner : OneStatement (trim statement ++ back) := by
    obtain ⟨run, ending, split, inside, ends⟩ := (oneStatement_iff statement).mp one
    rw [same] at split
    rcases List.append_eq_append_iff.mp split with ⟨middle, runSplit, rest⟩ | ⟨middle, front, rest⟩
    · exact (oneStatement_iff _).mpr ⟨middle, ending, rest,
        fun token member => inside token (by rw [runSplit]; exact List.mem_append_right _ member),
        ends⟩
    · refine (oneStatement_iff _).mpr ⟨[], scanTokens (trim statement ++ back), rfl, by simp, ?_⟩
      rcases ends with rfl | ⟨token, rfl, kind⟩
      · exact Or.inl (List.append_eq_nil_iff.mp rest.symm).2
      · cases middle with
        | nil => exact Or.inr ⟨token, rest.symm, kind⟩
        | cons other middle =>
          have isBlank := blankKinds other (by rw [front]; simp)
          rw [List.cons_append, List.cons.injEq] at rest
          rw [← rest.1, kind] at isBlank
          cases isBlank
  cases back with
  | nil => rwa [List.append_nil] at inner
  | cons c white =>
    obtain ⟨apart, other⟩ := not_wordChar_white c (backWhite c List.mem_cons_self)
    rcases List.eq_nil_or_concat (scanTokens (trim statement)) with empty | ⟨front, last, split⟩
    · exact (oneStatement_iff _).mpr ⟨[], [], empty, by simp, Or.inl rfl⟩
    · rw [List.concat_eq_append] at split
      have extended := tokens_append_white true (trim statement) c white apart other front last split
      obtain ⟨d, tail, shape⟩ : ∃ d tail, last.text = d :: tail := by
        have behind := scanner.reads_tokens true (trim statement)
        rw [← scanTokens, split, scanner.reads_append] at behind
        exact List.exists_cons_of_ne_nil (scanner.text_ne_nil_of_readsOne _ last _ behind.2.1)
      obtain ⟨inside, ends⟩ := inner
      rw [scanTokens, extended] at inside ends
      rw [shape, List.cons_append, Lexer.tokens_cons] at inside ends
      rw [OneStatement, split, List.dropLast_concat, List.getLast?_concat]
      constructor
      · intro token member
        refine inside token ?_
        rw [List.dropLast_append_cons]
        exact List.mem_append_left _ member
      · intro token member separator
        obtain rfl := Option.some.inj member
        -- A separator is read in front of everything, so it would stand inside.
        have reads := scanner.reads_tokens true (trim statement)
        rw [← scanTokens, split, scanner.reads_append] at reads
        have lone := separator_text _ _ _ reads.2.1 separator
        rw [lone, List.cons.injEq] at shape
        obtain ⟨rfl, rfl⟩ := shape
        have head := (scanner.readsOne_iff _ _ _).mp
          (readsOne_separator (scanner.after true front) ([] ++ c :: white))
        obtain ⟨e, tail', shape', head, -⟩ := head
        obtain ⟨rfl, rfl⟩ := List.cons.inj shape'
        rw [List.nil_append, List.nil_append] at head
        rw [List.nil_append, head] at inside ends
        generalize scanner.tokens _ (List.drop _ (c :: white)) = behind at inside ends
        cases behind with
        | nil => exact ends ⟨.separator, [';']⟩ (by simp) rfl
        | cons next behind => exact inside ⟨.separator, [';']⟩ (by simp) (Or.inl rfl)

end Trimming

/-- Cutting as a language of the guard does it, seen at the front of a text. -/
structure CutsFronts (cut : Text → List Text) : Prop where
  nothing : ∀ chars, splitStatements chars = [] → cut chars = []
  whole : ∀ chars, splitStatements chars = [chars] → blank chars = false →
    cut chars = [trim chars]
  separated : ∀ statement later,
    splitStatements (statement ++ ';' :: later) = statement :: splitStatements later →
    cut (statement ++ ';' :: later) =
      (if blank statement then [] else [trim statement]) ++ cut later
  command : ∀ statement later, splitStatements (statement ++ later) =
    statement :: splitStatements later → blank statement = false →
    (cut (statement ++ later)).head? = some (trim statement)
  feed : ∀ chars, cut ('\n' :: chars) = cut chars

/-- A piece of a run: a text without white space at its ends. -/
structure Piece (piece : Text) : Prop where
  trimmed : trim piece = piece
  visible : piece ≠ []

theorem blank_cons (c : Char) (rest : Text) (visible : isWhitespace c = false) :
    blank (c :: rest) = false := by
  rw [blank, List.all_cons, visible, Bool.false_and]

/-- What stands behind a trimmed text, where nothing blank stands in front. -/
theorem trim_visible (c : Char) (rest : Text) (visible : isWhitespace c = false) :
    ∃ back, c :: rest = trim (c :: rest) ++ back ∧ ∀ d ∈ back, isWhitespace d = true := by
  obtain ⟨back, parts, white⟩ := trim_append_parts (c :: rest)
  refine ⟨back, ?_, white⟩
  rw [List.takeWhile_cons_of_neg (by simp [visible]), List.nil_append] at parts
  exact parts

theorem Piece.first {piece : Text} (own : Piece piece) :
    ∃ c rest, piece = c :: rest ∧ isWhitespace c = false := by
  obtain ⟨c, rest, shape⟩ := List.exists_cons_of_ne_nil own.visible
  refine ⟨c, rest, shape, ?_⟩
  by_contra white
  have shorter : (trim piece).length ≤ (trimStart piece).length :=
    (List.rdropWhile_prefix isWhitespace (trimStart piece)).length_le
  rw [own.trimmed, shape, trimStart, List.dropWhile_cons_of_pos (by simpa using white)] at shorter
  have bound := (List.dropWhile_sublist (l := rest) isWhitespace).length_le
  rw [List.length_cons] at shorter
  omega

theorem Piece.blank_eq {piece : Text} (own : Piece piece) : blank piece = false := by
  obtain ⟨c, rest, rfl, visible⟩ := own.first
  exact blank_cons c rest visible

theorem oneStatement_of_inside (chars : Text) (inside : ∀ token ∈ scanTokens chars, ¬Boundary token) :
    OneStatement chars :=
  (oneStatement_iff chars).mpr ⟨scanTokens chars, [], by simp, inside, Or.inl rfl⟩

theorem tokens_separator (fresh : Bool) (rest : Text) :
    scanner.tokens fresh (';' :: rest) = ⟨.separator, [';']⟩ :: scanTokens rest := by
  have reads : scanner.Reads fresh [⟨.separator, [';']⟩] rest :=
    ⟨readsOne_separator fresh _, trivial⟩
  exact scanner.tokens_of_reads fresh [⟨.separator, [';']⟩] rest reads

theorem OneStatement.first_ne {c : Char} {rest : Text} (one : OneStatement (c :: rest)) : c ≠ ';' := by
  rintro rfl
  obtain ⟨inside, ends⟩ := one
  rw [scanTokens, tokens_separator] at inside ends
  cases later : scanTokens rest with
  | nil =>
    rw [later] at ends
    exact ends ⟨.separator, [';']⟩ rfl rfl
  | cons token tokens =>
    rw [later] at inside
    exact inside ⟨.separator, [';']⟩ (by simp) (Or.inl rfl)

/-- Read in front of a separator, the tokens of a text are its own. -/
theorem closes_iff (piece rest : Text) :
    Closes piece ↔ scanTokens (piece ++ ';' :: rest) =
      scanTokens piece ++ ⟨.separator, [';']⟩ :: scanTokens rest := by
  have apart : isWordChar ';' = false := by decide
  have turn : ∀ rest rest', scanTokens (piece ++ ';' :: rest) =
      scanTokens piece ++ ⟨.separator, [';']⟩ :: scanTokens rest →
      scanTokens (piece ++ ';' :: rest') =
        scanTokens piece ++ ⟨.separator, [';']⟩ :: scanTokens rest' := by
    intro rest rest' tokens
    obtain ⟨-, reads, -⟩ := scanner.tokens_split true _ _ _ tokens
    rw [text_cons, scanner.text_tokens, List.singleton_append] at reads
    have reads' := reads_stands (standsFor_change ';' apart rest rest') true _ reads
    have extended := scanner.tokens_of_reads true _ _ reads'
    rwa [scanner.text_tokens, tokens_separator] at extended
  have none₀ : scanTokens [] = [] := rfl
  unfold Closes
  constructor
  · intro closes
    exact turn [] rest (by rw [none₀]; exact closes)
  · intro tokens
    have closes := turn rest [] tokens
    rwa [none₀] at closes

/-- A statement that closes holds no boundary. -/
theorem inside_of_closes (piece : Text) (one : OneStatement piece) (closes : Closes piece) :
    ∀ token ∈ scanTokens piece, ¬Boundary token := by
  obtain ⟨run, ending, split, inside, rfl | ⟨token, rfl, kind⟩⟩ := (oneStatement_iff piece).mp one
  · rwa [split, List.append_nil]
  · obtain ⟨-, reads, -⟩ := scanner.tokens_split true _ _ _ closes
    rw [split, scanner.reads_append] at reads
    obtain ⟨after, -⟩ := shell_rest _ _ _ reads.2.1 kind
    rw [text_nil, List.nil_append] at after
    simp at after

section Joining

variable {cut : Text → List Text} (cuts : CutsFronts cut)

include cuts

/-- The first statement that is cut holds no boundary but its end. -/
theorem oneStatement_of_head (chars first : Text) (cutFirst : (cut chars).head? = some first) :
    OneStatement first := by
  induction size : chars.length using Nat.strong_induction_on generalizing chars with
  | _ size ih =>
    cases front_cases chars with
    | whole inside =>
      have split := splitStatements_whole chars inside
      by_cases empty : blank chars = true
      · rw [if_pos empty] at split
        rw [cuts.nothing chars split] at cutFirst
        cases cutFirst
      · rw [if_neg empty] at split
        rw [cuts.whole chars split (by simpa using empty)] at cutFirst
        obtain rfl := Option.some.inj cutFirst
        exact oneStatement_trim chars (oneStatement_of_inside chars inside)
    | separated statement later shape tokens inside =>
      have split := splitStatements_separated chars statement later tokens inside
      rw [shape] at split
      rw [shape, cuts.separated statement later split] at cutFirst
      by_cases empty : blank statement = true
      · rw [if_pos empty, List.nil_append] at cutFirst
        refine ih later.length ?_ later cutFirst rfl
        rw [← size, shape, List.length_append, List.length_cons]
        omega
      · rw [if_neg empty] at cutFirst
        obtain rfl := Option.some.inj cutFirst
        exact oneStatement_trim statement (oneStatement_of_inside statement inside)
    | command statement later run token shape own tokens inside kind ends visible =>
      have split := splitStatements_command chars statement later run token own tokens inside kind
      rw [shape] at split
      rw [shape, cuts.command statement later split visible] at cutFirst
      obtain rfl := Option.some.inj cutFirst
      exact oneStatement_trim statement
        ((oneStatement_iff statement).mpr ⟨run, [token], own, inside, Or.inr ⟨token, rfl, kind⟩⟩)

/-- A piece that comes first out of what it was joined to is closed by the separator. -/
theorem closes_of_head (piece rest : Text) (own : Piece piece)
    (cutFirst : (cut (piece ++ ';' :: rest)).head? = some piece) : Closes piece := by
  have one := oneStatement_of_head cuts _ piece cutFirst
  obtain ⟨c, tail, shape, visible⟩ := own.first
  have apart : c ≠ ';' := by
    rw [shape] at one
    exact one.first_ne
  have beyond : ∀ back : Text, (∀ d ∈ back, isWhitespace d = true) →
      ∀ after, back ++ after = ';' :: rest → back = [] := by
    intro back white after same
    cases back with
    | nil => rfl
    | cons d back =>
      have first := white d List.mem_cons_self
      rw [(List.cons.inj same).1, separator_not_white] at first
      cases first
  cases front_cases (piece ++ ';' :: rest) with
  | whole inside =>
    have nonblank : blank (piece ++ ';' :: rest) = false := by
      rw [shape, List.cons_append]
      exact blank_cons c _ visible
    have split := splitStatements_whole _ inside
    rw [nonblank, if_neg Bool.false_ne_true] at split
    rw [cuts.whole _ split nonblank, List.head?_cons] at cutFirst
    obtain ⟨back, parts, white⟩ := trim_visible c (tail ++ ';' :: rest) visible
    rw [← List.cons_append, ← shape, Option.some.inj cutFirst, List.append_cancel_left_eq] at parts
    rw [beyond back white [] (by rw [List.append_nil, parts])] at parts
    cases parts
  | separated statement later same tokens inside =>
    have split := splitStatements_separated _ statement later tokens inside
    cases statement with
    | nil =>
      rw [shape, List.cons_append, List.nil_append] at same
      exact absurd (List.cons.inj same).1 apart
    | cons d statement =>
      have first : d = c := by
        rw [shape, List.cons_append, List.cons_append] at same
        exact (List.cons.inj same).1.symm
      subst first
      rw [same] at split
      have step := cuts.separated (d :: statement) later split
      rw [blank_cons d statement visible, if_neg Bool.false_ne_true] at step
      rw [same, step] at cutFirst
      obtain ⟨back, parts, white⟩ := trim_visible d statement visible
      have trimmed : trim (d :: statement) = piece := Option.some.inj cutFirst
      rw [trimmed] at parts
      have behind := same
      rw [parts, List.append_assoc, List.append_cancel_left_eq] at behind
      rw [beyond back white _ behind.symm, List.append_nil] at parts
      rw [parts] at tokens same
      rw [List.append_cancel_left_eq, List.cons.injEq] at same
      rw [← same.2] at tokens
      exact (closes_iff piece rest).mpr tokens
  | command statement later run token same tokensOwn tokens inside kind ends nonblank =>
    have split := splitStatements_command _ statement later run token tokensOwn tokens inside kind
    rw [same] at split
    rw [same, cuts.command statement later split nonblank] at cutFirst
    cases statement with
    | nil => cases nonblank
    | cons d statement =>
      have first : d = c := by
        rw [shape, List.cons_append, List.cons_append] at same
        exact (List.cons.inj same).1.symm
      subst first
      obtain ⟨back, parts, white⟩ := trim_visible d statement visible
      rw [Option.some.inj cutFirst] at parts
      rw [parts, List.append_assoc, List.append_cancel_left_eq] at same
      rw [beyond back white _ same.symm, List.nil_append] at same
      rw [← same] at ends
      simp at ends

theorem cut_closing (piece rest : Text) (own : Piece piece) (one : OneStatement piece)
    (closes : Closes piece) : cut (piece ++ ';' :: rest) = piece :: cut rest := by
  have tokens := (closes_iff piece rest).mp closes
  have split := splitStatements_separated _ piece rest tokens (inside_of_closes piece one closes)
  rw [cuts.separated piece rest split, own.blank_eq, if_neg Bool.false_ne_true, own.trimmed]
  rfl

theorem cut_one (piece : Text) (own : Piece piece) : cut piece = [piece] ↔ OneStatement piece := by
  constructor
  · intro single
    exact oneStatement_of_head cuts piece piece (by rw [single]; rfl)
  · intro one
    have split : splitStatements piece = [piece] := by
      obtain ⟨run, ending, tokens, inside, rfl | ⟨token, rfl, kind⟩⟩ := (oneStatement_iff piece).mp one
      · rw [List.append_nil] at tokens
        rw [splitStatements_whole piece (by rwa [tokens]), own.blank_eq,
          if_neg Bool.false_ne_true]
      · have alone : scanTokens piece = scanTokens piece ++ scanTokens [] := by
          rw [show scanTokens [] = [] from rfl, List.append_nil]
        rw [splitStatements_command piece piece [] run token tokens alone inside kind]
        rfl
    rw [cuts.whole piece split own.blank_eq, own.trimmed]

/-- Pieces joined by `;` and a line feed are cut apart again exactly when each of them is
one statement and each but the last is closed by the `;` behind it. -/
theorem cut_joined_iff (pieces : List Text) (own : ∀ piece ∈ pieces, Piece piece) :
    cut ([';', '\n'].intercalate pieces) = pieces ↔
      (∀ piece ∈ pieces, OneStatement piece) ∧ ∀ piece ∈ pieces.dropLast, Closes piece := by
  induction pieces with
  | nil => simpa using cuts.nothing [] rfl
  | cons piece later ih =>
    have first := own piece List.mem_cons_self
    cases later with
    | nil => simpa using cut_one cuts piece first
    | cons next later =>
      have rest := ih fun other member => own other (List.mem_cons_of_mem _ member)
      have joined : [';', '\n'].intercalate (piece :: next :: later) =
          piece ++ ';' :: '\n' :: [';', '\n'].intercalate (next :: later) := by
        simp
      rw [joined, List.dropLast_cons_of_ne_nil (List.cons_ne_nil next later)]
      constructor
      · intro same
        have head : (cut (piece ++ ';' :: '\n' :: [';', '\n'].intercalate (next :: later))).head? =
            some piece := by rw [same]; rfl
        have one := oneStatement_of_head cuts _ piece head
        have closes := closes_of_head cuts piece _ first head
        rw [cut_closing cuts piece _ first one closes, cuts.feed, List.cons.injEq] at same
        obtain ⟨ones, closed⟩ := rest.mp same.2
        exact ⟨List.forall_mem_cons.mpr ⟨one, ones⟩, List.forall_mem_cons.mpr ⟨closes, closed⟩⟩
      · rintro ⟨ones, closed⟩
        obtain ⟨one, ones⟩ := List.forall_mem_cons.mp ones
        obtain ⟨closes, closed⟩ := List.forall_mem_cons.mp closed
        rw [cut_closing cuts piece _ first one closes, cuts.feed, rest.mpr ⟨ones, closed⟩]

end Joining

/-- A text with more blank space in front, cut. -/
def withFeed : List Text → List Text
  | [] => []
  | first :: later => ('\n' :: first) :: later

theorem statementTokens_feed (current later : List Tok) :
    (statementTokens (⟨.blank, ['\n']⟩ :: current) later).map text =
      withFeed ((statementTokens current later).map text) := by
  induction later generalizing current with
  | nil =>
    have same : blank (text (⟨.blank, ['\n']⟩ :: current)) = blank (text current) := by
      rw [text_cons, blank, List.all_append]
      rfl
    simp only [statementTokens, same]
    split
    · rfl
    · simp [withFeed]
  | cons token later ih =>
    by_cases separator : token.kind = .separator
    · rw [statementTokens_separator _ _ _ separator, statementTokens_separator _ _ _ separator]
      simp [withFeed]
    by_cases shell : token.kind = .shell
    · rw [statementTokens_shell _ _ _ shell, statementTokens_shell _ _ _ shell]
      simp [withFeed]
    · have inside : ¬Boundary token := fun either => either.elim separator shell
      rw [statementTokens_inside _ _ _ inside, statementTokens_inside _ _ _ inside,
        List.cons_append, ih]

theorem splitStatements_feed (chars : Text) :
    splitStatements ('\n' :: chars) = withFeed (splitStatements chars) := by
  obtain ⟨head, extra⟩ := scanner_blank true '\n' chars rfl
  have tokens : scanTokens ('\n' :: chars) = ⟨.blank, ['\n']⟩ :: scanTokens chars := by
    rw [scanTokens, Lexer.tokens_cons, head, extra, List.drop_zero]
    rfl
  have boundary : ¬Boundary ⟨.blank, ['\n']⟩ := by decide
  rw [splitStatements_eq, tokens, statementTokens_inside _ _ _ boundary, List.nil_append,
    statementTokens_feed, splitStatements_eq]

theorem trim_feed (text : Text) : trim ('\n' :: text) = trim text := by
  rw [trim, trim, trimStart, List.dropWhile_cons_of_pos rfl, trimStart]

theorem trim_isEmpty (text : Text) : (trim text).isEmpty = blank text := by
  rw [Bool.eq_iff_iff, List.isEmpty_iff, trim_eq_nil_iff]

/-- The trimmed texts of some statements, the blank ones left out. -/
def visibleTexts (statements : List Text) : List Text :=
  (statements.map trim).filter fun text => !text.isEmpty

theorem visibleTexts_cons (first : Text) (later : List Text) :
    visibleTexts (first :: later) =
      (if blank first then [] else [trim first]) ++ visibleTexts later := by
  rw [visibleTexts, List.map_cons, List.filter_cons, trim_isEmpty]
  cases blank first <;> rfl

theorem rangeTexts_scan (chars : Text) :
    rangeTexts chars (scan chars) = visibleTexts (splitStatements chars) := by
  rw [rangeTexts, visibleTexts, splitStatements, List.map_map]
  rfl

/-- The guard's own statements. -/
theorem cutsFronts_scan : CutsFronts fun chars => rangeTexts chars (scan chars) := by
  simp only [rangeTexts_scan]
  constructor
  · intro chars none₀
    rw [none₀]
    rfl
  · intro chars single visible
    rw [single, visibleTexts_cons, visible, if_neg Bool.false_ne_true]
    rfl
  · intro statement later split
    rw [split, visibleTexts_cons]
  · intro statement later split visible
    rw [split, visibleTexts_cons, visible, if_neg Bool.false_ne_true]
    rfl
  · intro chars
    rw [splitStatements_feed]
    cases splitStatements chars with
    | nil => rfl
    | cons first later =>
      have same : blank ('\n' :: first) = blank first := rfl
      rw [withFeed, visibleTexts_cons, visibleTexts_cons, trim_feed, same]

section Lookup

open GuardDialect

/-- Ranges behind a text stand where they stand in the text alone, moved. -/
theorem piecesFrom_shift (front length cursor : Nat) (pieces : List Text) :
    piecesFrom (front + length) (front + cursor) pieces =
      (piecesFrom length cursor pieces).map fun range => (front + range.1, front + range.2) := by
  induction pieces generalizing cursor with
  | nil => rfl
  | cons piece later ih =>
    simp only [piecesFrom, List.map_cons]
    rw [show front + cursor + piece.length = front + (cursor + piece.length) by omega,
      Nat.add_min_add_left, Nat.add_assoc front (cursor + piece.length) 1, ih]

theorem slice_shift (front rest : Text) (range : Nat × Nat) :
    slice (front ++ rest) (front.length + range.1, front.length + range.2) = slice rest range := by
  simp only [slice, List.take_length_add_append, List.drop_length_add_append]

theorem rangeTexts_shift (front rest : Text) (found : List (Nat × Nat)) :
    rangeTexts (front ++ rest)
      (found.map fun range => (front.length + range.1, front.length + range.2)) =
      rangeTexts rest found := by
  rw [rangeTexts, rangeTexts, List.map_map]
  congr 2
  funext range
  simp only [Function.comp_apply, slice_shift]

theorem rangeTexts_cons (chars : Text) (range : Nat × Nat) (later : List (Nat × Nat)) :
    rangeTexts chars (range :: later) =
      (if blank (slice chars range) then [] else [trim (slice chars range)]) ++
        rangeTexts chars later := by
  rw [rangeTexts, List.map_cons, List.filter_cons, trim_isEmpty]
  cases blank (slice chars range) <;> rfl

theorem slice_front (statement later : Text) :
    slice (statement ++ later) (0, min (0 + statement.length) (statement ++ later).length) =
      statement := by
  rw [Nat.zero_add, List.length_append, Nat.min_eq_left (Nat.le_add_right _ _), slice,
    List.drop_zero, List.take_left]

/-- Cypher's statements, whose ranges are counted from the lengths of the pieces. -/
theorem cutsFronts_lookup : CutsFronts fun chars => rangeTexts chars (sqlRanges chars) := by
  constructor
  · intro chars none₀
    simp only [sqlRanges, none₀]
    rfl
  · intro chars single visible
    have whole := slice_front chars []
    rw [List.append_nil] at whole
    simp only [sqlRanges, single, piecesFrom]
    rw [rangeTexts_cons, whole, visible, if_neg Bool.false_ne_true]
    rfl
  · intro statement later split
    have front := slice_front statement (';' :: later)
    have size : (statement ++ ';' :: later).length =
        (statement ++ [';']).length + later.length := by
      simp only [List.length_append, List.length_cons, List.length_nil]
      omega
    have place : 0 + statement.length + 1 = (statement ++ [';']).length + 0 := by simp
    simp only [sqlRanges, split, piecesFrom]
    rw [rangeTexts_cons, front, place]
    congr 1
    rw [size, piecesFrom_shift]
    have shifted := rangeTexts_shift (statement ++ [';']) later (sqlRanges later)
    rw [List.append_assoc, List.singleton_append] at shifted
    exact shifted
  · intro statement later split visible
    have front := slice_front statement later
    simp only [sqlRanges, split, piecesFrom]
    rw [rangeTexts_cons, front, visible, if_neg Bool.false_ne_true]
    rfl
  · intro chars
    simp only [sqlRanges, splitStatements_feed]
    cases splitStatements chars with
    | nil => rfl
    | cons first later =>
      have size : ('\n' :: chars).length = ['\n'].length + chars.length := by
        rw [List.length_cons, List.length_singleton, Nat.add_comm]
      have place : 0 + ('\n' :: first).length + 1 = ['\n'].length + (0 + first.length + 1) := by
        simp only [List.length_cons, List.length_nil]
        omega
      have firstSlice : slice ('\n' :: chars)
          (0, min (0 + ('\n' :: first).length) ('\n' :: chars).length) =
          '\n' :: slice chars (0, min (0 + first.length) chars.length) := by
        have stop : min (0 + ('\n' :: first).length) ('\n' :: chars).length =
            min (0 + first.length) chars.length + 1 := by
          simp only [List.length_cons]
          omega
        rw [stop]
        rfl
      have sameBlank : ∀ text : Text, blank ('\n' :: text) = blank text := fun _ => rfl
      simp only [withFeed, piecesFrom]
      rw [rangeTexts_cons, rangeTexts_cons, firstSlice, sameBlank, trim_feed, place, size,
        piecesFrom_shift]
      congr 1
      exact rangeTexts_shift ['\n'] chars _

end Lookup

end DbFree.RunTargets
