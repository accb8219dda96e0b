import DbFree.Destructive
import DbFree.Lexing

/- The scanner of the guard as a lexer: its tokens, and the statements that
`scan` cuts between them. -/
namespace DbFree.Destructive

open Chars Texts Lexing

inductive TokenKind where
  /-- White space while nothing of a statement has been read. -/
  | blank
  /-- The line of a shell command. -/
  | shell
  | separator
  | quoted (quote : Char)
  | lineComment
  | blockComment
  | dollar (tag : Text)
  | plain
deriving DecidableEq

abbrev Tok := Token TokenKind Char

theorem quotedLen_le (quote : Char) : ∀ rest : Text, quotedLen quote rest ≤ rest.length
  | [] => Nat.le_refl 0
  | c :: rest => by
    unfold quotedLen
    split
    · cases rest with
      | nil => simp
      | cons d later =>
        have bound := quotedLen_le quote later
        dsimp only
        split <;> simp only [List.length_cons] <;> omega
    · have bound := quotedLen_le quote rest
      simp only [List.length_cons]
      omega

theorem lineLen_le (rest : Text) : lineLen rest ≤ rest.length :=
  (List.takeWhile_sublist _).length_le

theorem blockLen_le : ∀ rest : Text, blockLen rest ≤ rest.length
  | [] => Nat.le_refl 0
  | c :: rest => by
    unfold blockLen
    split
    · rename_i closes
      cases rest with
      | nil => simp at closes
      | cons d later => simp only [List.length_cons]; omega
    · have bound := blockLen_le rest
      simp only [List.length_cons]
      omega

theorem closingLen_le (tag : Text) : ∀ rest : Text, closingLen tag rest ≤ rest.length
  | [] => Nat.le_refl 0
  | c :: rest => by
    unfold closingLen
    split
    · rename_i closes
      exact (List.isPrefixOf_iff_prefix.mp closes).length_le
    · have bound := closingLen_le tag rest
      simp only [List.length_cons]
      omega

theorem dollarTag_opens (rest tag : Text) (opens : dollarTag rest = some tag) :
    tag <+: '$' :: rest := by
  simp only [dollarTag, Option.ite_none_right_eq_some, Option.some.injEq] at opens
  obtain ⟨closes, rfl⟩ := opens
  obtain ⟨later, split⟩ := List.head?_eq_some_iff.mp closes
  refine ⟨later, ?_⟩
  rw [List.cons_append, List.cons_append, List.append_assoc, List.singleton_append, ← split,
    List.prefix_iff_eq_append.mp (List.takeWhile_prefix isWordChar)]

theorem dollarLen_le (rest : Text) : dollarLen rest ≤ rest.length := by
  unfold dollarLen
  split
  · rename_i tag opens
    have opened := (dollarTag_opens rest tag opens).length_le
    have closed := closingLen_le tag (rest.drop (tag.length - 1))
    simp only [List.length_drop, List.length_cons] at closed opened
    omega
  · omega

theorem tokenLen_le (c : Char) (rest : Text) : tokenLen c rest ≤ rest.length := by
  unfold tokenLen
  split
  · exact quotedLen_le c rest
  · split
    · exact lineLen_le rest
    · split
      · rename_i opens
        have bound := blockLen_le (rest.drop 1)
        cases rest with
        | nil => simp [startsBlockComment] at opens
        | cons d later =>
          simp only [List.drop_succ_cons, List.drop_zero, List.length_cons] at bound ⊢
          omega
      · split
        · exact dollarLen_le rest
        · exact Nat.zero_le _

def tokenKind (c : Char) (rest : Text) : TokenKind :=
  if isQuote c then .quoted c
  else if startsLineComment c rest.head? then .lineComment
  else if startsBlockComment c rest.head? then .blockComment
  else if c == '$' then
    match dollarTag rest with
    | some tag => .dollar tag
    | none => .plain
  else .plain

/-- The mode is the source's `fresh`: nothing but white space and comments since
the last boundary. -/
def scanner : Lexer Bool Char TokenKind where
  kind fresh c rest :=
    if fresh && isWhitespace c then .blank
    else if fresh && startsShellCommand c rest.head? then .shell
    else if c == ';' then .separator
    else tokenKind c rest
  extra fresh c rest :=
    if fresh && isWhitespace c then 0
    else if fresh && startsShellCommand c rest.head? then lineLen rest
    else if c == ';' then 0
    else tokenLen c rest
  extra_le fresh c rest := by
    split
    · exact Nat.zero_le _
    · split
      · exact lineLen_le rest
      · split
        · exact Nat.zero_le _
        · exact tokenLen_le c rest
  next fresh token :=
    match token.kind with
    | .blank | .shell | .separator => true
    | .lineComment | .blockComment => fresh
    | .quoted _ | .dollar _ | .plain => false

/-- The tokens of a script. -/
abbrev scanTokens (chars : Text) : List Tok := scanner.tokens true chars

/-- The ranges between the boundaries of a token list that starts at `i`, the
statement in progress having begun at `start`; and where the last one begins. -/
def cuts (start i : Nat) : List Tok → List (Nat × Nat) × Nat
  | [] => ([], start)
  | token :: later =>
    match token.kind with
    | .separator =>
      let next := i + token.text.length
      let rest := cuts next next later
      ((start, i) :: rest.1, rest.2)
    | .shell =>
      let stop := i + token.text.length
      let rest := cuts stop stop later
      ((start, stop) :: rest.1, rest.2)
    | _ => cuts start (i + token.text.length) later

theorem scanLoop_skip (skip : Nat) (fresh : Bool) (start i : Nat) (chars : Text)
    (inside : skip ≤ chars.length) :
    scanLoop skip fresh start i chars = scanLoop 0 fresh start (i + skip) (chars.drop skip) := by
  induction skip generalizing i chars with
  | zero => simp
  | succ skip ih =>
    cases chars with
    | nil => simp at inside
    | cons c rest =>
      simp only [List.length_cons, Nat.add_le_add_iff_right] at inside
      rw [scanLoop, ih (i + 1) rest inside, List.drop_succ_cons]
      congr 1
      omega

/-- The kinds of token that begin with a character, outside a shell command. -/
theorem tokenKind_spec (c : Char) (rest : Text) :
    tokenKind c rest ≠ .blank ∧ tokenKind c rest ≠ .shell ∧ tokenKind c rest ≠ .separator := by
  unfold tokenKind
  repeat' split
  all_goals simp

/-- `fresh` after a token that is no boundary. -/
theorem next_tokenKind (fresh : Bool) (c : Char) (rest text : Text) :
    scanner.next fresh ⟨tokenKind c rest, text⟩ =
      (fresh && (startsLineComment c rest.head? || startsBlockComment c rest.head?)) := by
  unfold tokenKind
  by_cases quote : isQuote c = true
  · have line : startsLineComment c rest.head? = false := by
      simp only [isQuote, Bool.or_eq_true, beq_iff_eq] at quote
      rcases quote with (rfl | rfl) | rfl <;> simp [startsLineComment]
    have block : startsBlockComment c rest.head? = false := by
      simp only [isQuote, Bool.or_eq_true, beq_iff_eq] at quote
      rcases quote with (rfl | rfl) | rfl <;> simp [startsBlockComment]
    simp [quote, line, block, scanner]
  · by_cases line : startsLineComment c rest.head? = true
    · simp [quote, line, scanner]
    · by_cases block : startsBlockComment c rest.head? = true
      · simp [quote, line, block, scanner]
      · simp only [quote, line, block, Bool.or_self, Bool.and_false]
        repeat' split
        all_goals simp_all [scanner]

section Head

variable (fresh : Bool) (c : Char) (rest : Text)

theorem scanner_blank (white : (fresh && isWhitespace c) = true) :
    scanner.head fresh c rest = ⟨.blank, [c]⟩ ∧ scanner.extra fresh c rest = 0 := by
  simp only [Lexer.head, scanner]
  rw [if_pos white, if_pos white]
  exact ⟨rfl, rfl⟩

theorem scanner_shell (white : ¬(fresh && isWhitespace c) = true)
    (shell : (fresh && startsShellCommand c rest.head?) = true) :
    scanner.head fresh c rest = ⟨.shell, c :: rest.take (lineLen rest)⟩ ∧
      scanner.extra fresh c rest = lineLen rest := by
  simp only [Lexer.head, scanner]
  rw [if_neg white, if_neg white, if_pos shell, if_pos shell]
  exact ⟨rfl, rfl⟩

theorem scanner_separator (white : ¬(fresh && isWhitespace c) = true)
    (shell : ¬(fresh && startsShellCommand c rest.head?) = true) (separator : (c == ';') = true) :
    scanner.head fresh c rest = ⟨.separator, [c]⟩ ∧ scanner.extra fresh c rest = 0 := by
  simp only [Lexer.head, scanner]
  rw [if_neg white, if_neg white, if_neg shell, if_neg shell, if_pos separator, if_pos separator]
  exact ⟨rfl, rfl⟩

theorem scanner_token (white : ¬(fresh && isWhitespace c) = true)
    (shell : ¬(fresh && startsShellCommand c rest.head?) = true) (separator : ¬(c == ';') = true) :
    scanner.head fresh c rest = ⟨tokenKind c rest, c :: rest.take (tokenLen c rest)⟩ ∧
      scanner.extra fresh c rest = tokenLen c rest := by
  simp only [Lexer.head, scanner]
  rw [if_neg white, if_neg white, if_neg shell, if_neg shell, if_neg separator, if_neg separator]
  exact ⟨rfl, rfl⟩

end Head

/-- The loop of `scan` pushes exactly the ranges between the boundary tokens. -/
theorem scanLoop_eq_cuts (fresh : Bool) (start i : Nat) : ∀ chars : Text,
    scanLoop 0 fresh start i chars = cuts start i (scanner.tokens fresh chars)
  | [] => by simp [scanLoop, cuts]
  | c :: rest => by
    rw [Lexer.tokens_cons, scanLoop]
    by_cases white : (fresh && isWhitespace c) = true
    · obtain ⟨head, extra⟩ := scanner_blank fresh c rest white
      have still : fresh = true := (Bool.and_eq_true_iff.mp white).1
      rw [if_pos white, head, extra, scanLoop_eq_cuts]
      simp [cuts, scanner, still]
    · by_cases shell : (fresh && startsShellCommand c rest.head?) = true
      · obtain ⟨head, extra⟩ := scanner_shell fresh c rest white shell
        have length : i + (c :: rest.take (lineLen rest)).length = i + 1 + lineLen rest := by
          simp only [List.length_cons, List.length_take, Nat.min_eq_left (lineLen_le rest)]
          omega
        rw [if_neg white, if_pos shell, head, extra]
        simp only [cuts, length]
        rw [scanLoop_skip _ _ _ _ _ (lineLen_le rest), scanLoop_eq_cuts]
        simp [scanner]
      · by_cases separator : (c == ';') = true
        · obtain ⟨head, extra⟩ := scanner_separator fresh c rest white shell separator
          rw [if_neg white, if_neg shell, if_pos separator, head, extra]
          rw [scanLoop_eq_cuts true (i + 1) (i + 1) rest]
          simp [cuts, scanner]
        · obtain ⟨head, extra⟩ := scanner_token fresh c rest white shell separator
          have length : i + (c :: rest.take (tokenLen c rest)).length =
              i + 1 + tokenLen c rest := by
            simp only [List.length_cons, List.length_take, Nat.min_eq_left (tokenLen_le c rest)]
            omega
          have kept := tokenKind_spec c rest
          rw [if_neg white, if_neg shell, if_neg separator, head, extra,
            scanLoop_skip _ _ _ _ _ (tokenLen_le c rest), scanLoop_eq_cuts, next_tokenKind, cuts]
          split
          · exact absurd ‹_› kept.2.2
          · exact absurd ‹_› kept.2.1
          · rw [length]
termination_by chars => chars.length
decreasing_by all_goals simp only [List.length_drop, List.length_cons]; omega

/-- The tokens of each statement, the ones of the statement in progress being
`current`. A separator belongs to no statement, the line of a shell command ends
the statement it belongs to. -/
def statementTokens (current : List Tok) : List Tok → List (List Tok)
  | [] => if blank (text current) then [] else [current]
  | token :: later =>
    match token.kind with
    | .separator => current :: statementTokens [] later
    | .shell => (current ++ [token]) :: statementTokens [] later
    | _ => statementTokens (current ++ [token]) later

theorem slice_middle (before middle after : Text) :
    slice (before ++ middle ++ after) (before.length, (before ++ middle).length) = middle := by
  simp only [slice]
  rw [List.take_left, List.drop_left]

/-- The texts of the ranges of `cuts` are the texts of `statementTokens`. -/
theorem cuts_slices (before : Text) (current later : List Tok) (chars : Text)
    (whole : chars = before ++ text current ++ text later) :
    let found := cuts before.length (before ++ text current).length later
    (if blank (chars.drop found.2) then found.1 else
      found.1 ++ [(found.2, chars.length)]).map (slice chars) =
      (statementTokens current later).map text := by
  induction later generalizing before current with
  | nil =>
    rw [text_nil, List.append_nil] at whole
    have last : slice chars (before.length, chars.length) = text current := by
      have middle := slice_middle before (text current) []
      rwa [List.append_nil, ← whole] at middle
    have unread : chars.drop before.length = text current := by rw [whole, List.drop_left]
    simp only [cuts, statementTokens, unread]
    split
    · rfl
    · simp only [List.nil_append, List.map_cons, List.map_nil, last]
  | cons token later ih =>
    have advance : before ++ text current ++ (token.text ++ text later) =
        (before ++ text current ++ token.text) ++ text ([] : List Tok) ++ text later := by
      simp
    have grow : before ++ text current ++ (token.text ++ text later) =
        before ++ text (current ++ [token]) ++ text later := by
      simp
    rw [text_cons] at whole
    cases kind : token.kind with
    | separator =>
      have rest := ih (before ++ text current ++ token.text) [] (whole.trans advance)
      have first : slice chars (before.length, (before ++ text current).length) =
          text current := by
        rw [whole, slice_middle]
      simp only [text_nil, List.append_nil] at rest
      simp only [cuts, statementTokens, kind]
      rw [← List.length_append, List.map_cons, ← rest]
      split <;> simp only [List.map_cons, List.map_append, List.cons_append, first]
    | shell =>
      have rest := ih (before ++ text current ++ token.text) [] (whole.trans advance)
      have first : slice chars (before.length, (before ++ text current ++ token.text).length) =
          text (current ++ [token]) := by
        have middle := slice_middle before (text (current ++ [token])) (text later)
        rw [← grow, ← whole] at middle
        simpa using middle
      simp only [text_nil, List.append_nil] at rest
      simp only [cuts, statementTokens, kind]
      rw [← List.length_append, List.map_cons, ← rest]
      split <;> simp only [List.map_cons, List.map_append, List.cons_append, first]
    | _ =>
      have rest := ih before (current ++ [token]) (whole.trans grow)
      simp only [text_append, text_cons, text_nil, List.append_nil] at rest
      rw [← List.append_assoc] at rest
      simp only [cuts, statementTokens, kind]
      rw [← List.length_append]
      exact rest

/-- The statements of a script are the texts between its boundary tokens. -/
theorem splitStatements_eq (sql : Text) :
    splitStatements sql = (statementTokens [] (scanTokens sql)).map text := by
  have whole : sql = [] ++ text ([] : List Tok) ++ text (scanTokens sql) := by simp
  have slices := cuts_slices [] [] (scanTokens sql) sql whole
  simp only [splitStatements, scan, scanLoop_eq_cuts]
  exact slices

end DbFree.Destructive
