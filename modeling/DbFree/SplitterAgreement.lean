import DbFree.Guard
import DbFree.ScriptSegments
import DbFree.SqlImport

/- The guard's scanner and the engine-accurate splitter on the same script: as long as
the splitter ends its statements at separators of the guard, no statement it cuts is
more than the guard saw. -/
namespace DbFree.SqlImport

open Chars Texts Lexing Destructive SqlSplitter

/-- What is left of a script at each separator the guard reads in it. -/
def separatorRests : List Tok → List Text
  | [] => []
  | token :: later =>
    if token.kind = .separator then text (token :: later) :: separatorRests later
    else separatorRests later

theorem mem_separatorRests (tokens : List Tok) (rest : Text) :
    rest ∈ separatorRests tokens ↔
      ∃ front separator back, tokens = front ++ separator :: back ∧
        separator.kind = .separator ∧ rest = text (separator :: back) := by
  induction tokens with
  | nil => simp [separatorRests]
  | cons token later ih =>
    have behind : (∃ front separator back, later = front ++ separator :: back ∧
        separator.kind = .separator ∧ rest = text (separator :: back)) →
        ∃ front separator back, token :: later = front ++ separator :: back ∧
          separator.kind = .separator ∧ rest = text (separator :: back) := by
      rintro ⟨front, separator, back, rfl, kind, whole⟩
      exact ⟨token :: front, separator, back, rfl, kind, whole⟩
    rw [separatorRests]
    constructor
    · intro member
      split at member
      · rcases List.mem_cons.mp member with rfl | inside
        · exact ⟨[], token, later, rfl, ‹_›, rfl⟩
        · exact behind (ih.mp inside)
      · exact behind (ih.mp member)
    · rintro ⟨front, separator, back, split, kind, rfl⟩
      cases front with
      | nil =>
        obtain ⟨rfl, rfl⟩ := List.cons.inj split
        rw [if_pos kind]
        exact List.mem_cons_self
      | cons first front =>
        obtain ⟨rfl, rfl⟩ := List.cons.inj split
        have inside := ih.mpr ⟨front, separator, back, rfl, kind, rfl⟩
        split
        · exact List.mem_cons_of_mem _ inside
        · exact inside

namespace Scan

/-- The states in which the loop takes a turn, with what is left of the buffer there. -/
def turns (last : Bool) (skip limit : Nat) (scan : Scan) : Text → List (SqlSplitter × Text)
  | [] => []
  | c :: rest =>
    match skip, limit with
    | skip + 1, limit => turns last skip (limit - 1) scan rest
    | 0, 0 => []
    | 0, limit + 1 =>
      (scan.splitter, c :: rest) ::
        match scan.step last c rest with
        | .error _ => []
        | .ok (next, used) => turns last (used - 1) limit next rest

end Scan

namespace SqlSplitter

def runTurns (s : SqlSplitter) (last : Bool) : List (SqlSplitter × Text) :=
  Scan.turns last 0 (if last then s.carry.length else s.carry.length - s.hold)
    ⟨{ s with carry := [] }, [], []⟩ s.carry

def feedTurns (s : SqlSplitter) (chunk : Text) : List (SqlSplitter × Text) :=
  runTurns { s with carry := s.carry ++ chunk } false

end SqlSplitter

/-- In a state of the splitter, a delimiter or a directive begins at the text left. -/
def Ends (last : Bool) (turn : SqlSplitter × Text) : Bool :=
  turn.1.inCode &&
    match Scan.opening turn.1 last turn.2 with
    | .ok .other | .error _ => false
    | .ok _ => true

/-- Where the splitter ends a statement or takes a directive, the guard reads a separator. -/
def TurnAgrees (script : Text) (last : Bool) (turn : SqlSplitter × Text) : Prop :=
  Ends last turn = true → turn.2 ∈ separatorRests (scanTokens script)

instance (script : Text) (last : Bool) (turn : SqlSplitter × Text) :
    Decidable (TurnAgrees script last turn) :=
  inferInstanceAs (Decidable (_ → _))

/-- The turns of `finish` after the whole script has been fed. -/
def finishTurns (dialect : SplitDialect) (script : Text) : List (SqlSplitter × Text) :=
  match (SqlSplitter.new dialect).feed script with
  | .error _ => []
  | .ok (fed, _) => fed.runTurns true

/-- The splitter of a dialect ends its statements at separators of the guard only, and
the script has no byte order mark, which the guard takes for code. -/
def CutsAgree (dialect : SplitDialect) (script : Text) : Prop :=
  (∀ turn ∈ (SqlSplitter.new dialect).feedTurns script, TurnAgrees script false turn) ∧
    (∀ turn ∈ finishTurns dialect script, TurnAgrees script true turn) ∧
    byteOrderMark ∉ script

instance (dialect : SplitDialect) (script : Text) : Decidable (CutsAgree dialect script) :=
  inferInstanceAs (Decidable (_ ∧ _ ∧ _))

/-- Every statement the splitter cuts from a script the guard only reads is itself a read. -/
def GuardCovers (engine : Engine) (script : Text) : Prop :=
  (∀ kind ∈ kinds script, kind = .read) →
    ∀ statement ∈ split (dialectOf engine) script, ∀ kind ∈ kinds statement, kind = .read

/-- What every state of the splitter keeps, as long as no `DELIMITER` line is taken. -/
structure Steady (s : SqlSplitter) : Prop where
  delimiter : s.delimiter = [';']
  quote : s.quote ≠ some '\x00'
  tag : ∀ tag, s.dollar = some tag → tag ≠ []

theorem consume_keeps (s : SqlSplitter) (chars : Text) :
    (s.consume chars).current = s.current ∧ (s.consume chars).delimiter = s.delimiter ∧
      (s.consume chars).quote = s.quote ∧ (s.consume chars).dollar = s.dollar := by
  induction chars generalizing s with
  | nil => exact ⟨rfl, rfl, rfl, rfl⟩
  | cons c chars ih => exact ih _

theorem steady_consume (s : SqlSplitter) (chars : Text) (steady : Steady s) :
    Steady (s.consume chars) := by
  obtain ⟨-, delimiter, quote, dollar⟩ := consume_keeps s chars
  exact ⟨delimiter ▸ steady.delimiter, quote ▸ steady.quote, dollar ▸ steady.tag⟩

theorem markSql_keeps (s : SqlSplitter) (buf : Text) :
    (s.markSql buf).current = s.current ∧ (s.markSql buf).delimiter = s.delimiter ∧
      (s.markSql buf).quote = s.quote ∧ (s.markSql buf).dollar = s.dollar := by
  unfold SqlSplitter.markSql
  split <;> exact ⟨rfl, rfl, rfl, rfl⟩

/-- A move keeps the statement so far, and takes at least one character of the buffer. -/
structure Moves (s : SqlSplitter) (move : SqlSplitter × Nat) (rest : Text) : Prop where
  steady : Steady move.1
  current : move.1.current = s.current
  some : 1 ≤ move.2
  inside : move.2 ≤ rest.length + 1

theorem head_getD (rest : Text) (c : Char) (real : c ≠ '\x00')
    (next : rest.head?.getD '\x00' = c) : 1 ≤ rest.length := by
  cases rest with
  | nil => exact absurd next.symm real
  | cons d later => simp

theorem insideMove_moves (s : SqlSplitter) (c : Char) (rest : Text) (steady : Steady s) :
    Moves s (s.insideMove c rest) rest := by
  have kept : Steady s := ⟨steady.delimiter, steady.quote, steady.tag⟩
  have one : 1 ≤ rest.length + 1 := Nat.le_add_left 1 _
  have two : ∀ d : Char, d ≠ '\x00' → rest.head?.getD '\x00' = d → 2 ≤ rest.length + 1 :=
    fun d real next => Nat.succ_le_succ (head_getD rest d real next)
  cases comment : s.comment with
  | line =>
    simp only [SqlSplitter.insideMove, comment]
    split
    · exact ⟨⟨kept.delimiter, kept.quote, kept.tag⟩, rfl, Nat.le_refl 1, one⟩
    · exact ⟨kept, rfl, Nat.le_refl 1, one⟩
  | block =>
    simp only [SqlSplitter.insideMove, comment]
    split
    · rename_i closes
      exact ⟨⟨kept.delimiter, kept.quote, kept.tag⟩, rfl, Nat.le_succ 1,
        two '/' (by decide) closes.2⟩
    · split
      · rename_i opens
        exact ⟨⟨kept.delimiter, kept.quote, kept.tag⟩, rfl, Nat.le_succ 1,
          two '*' (by decide) opens.2.1⟩
      · split
        · exact ⟨⟨kept.delimiter, kept.quote, kept.tag⟩, rfl, Nat.le_refl 1, one⟩
        · exact ⟨kept, rfl, Nat.le_refl 1, one⟩
  | none =>
    cases quote : s.quote with
    | some q =>
      have real : q ≠ '\x00' := by
        rintro rfl
        exact kept.quote quote
      simp only [SqlSplitter.insideMove, comment, quote]
      split
      · refine ⟨kept, rfl, ?_, ?_⟩
        · dsimp only
          split <;> omega
        · cases rest <;> simp
      · split
        · split
          · exact ⟨kept, rfl, Nat.le_succ 1, two q real ‹_›⟩
          · exact ⟨⟨kept.delimiter, by simp, kept.tag⟩, rfl, Nat.le_refl 1, one⟩
        · exact ⟨kept, rfl, Nat.le_refl 1, one⟩
    | none =>
      simp only [SqlSplitter.insideMove, comment, quote]
      split
      · split
        · split
          · exact ⟨kept, rfl, Nat.le_succ 1, two ']' (by decide) ‹_›⟩
          · exact ⟨⟨kept.delimiter, by simp, kept.tag⟩, rfl, Nat.le_refl 1, one⟩
        · exact ⟨kept, rfl, Nat.le_refl 1, one⟩
      · cases dollar : s.dollar with
        | none => exact ⟨kept, rfl, Nat.le_refl 1, one⟩
        | some tag =>
          dsimp only
          split
          · rename_i closes
            have inside := (List.isPrefixOf_iff_prefix.mp closes).length_le
            exact ⟨⟨kept.delimiter, by simp, by simp⟩, rfl,
              List.length_pos_iff.mpr (kept.tag tag dollar), inside⟩
          · exact ⟨kept, rfl, Nat.le_refl 1, one⟩

theorem dollarTag_length (buf tag : Text) (opens : dollarTag buf = some tag) :
    tag ≠ [] ∧ 1 ≤ tag.length ∧ tag.length ≤ buf.length := by
  unfold dollarTag at opens
  generalize (buf.drop 1).takeWhile isWordChar = name at opens
  simp only [ne_eq, Option.ite_none_left_eq_some, not_not, Option.some.injEq] at opens
  obtain ⟨closes, -, rfl⟩ := opens
  have long : 1 + name.length < buf.length := by
    by_contra short
    rw [List.drop_of_length_le (by omega)] at closes
    cases closes
  have size : (buf.take (1 + name.length + 1)).length = 1 + name.length + 1 := by
    rw [List.length_take]
    omega
  refine ⟨?_, by omega, by omega⟩
  rw [← List.length_pos_iff, size]
  omega

theorem codeMove_moves (s : SqlSplitter) (last : Bool) (c : Char) (rest : Text)
    (steady : Steady s) : Moves s (s.codeMove last c rest) rest := by
  have one : 1 ≤ rest.length + 1 := Nat.le_add_left 1 _
  have two : ∀ d : Char, d ≠ '\x00' → rest.head?.getD '\x00' = d → 2 ≤ rest.length + 1 :=
    fun d real next => Nat.succ_le_succ (head_getD rest d real next)
  obtain ⟨current, delimiter, quote, dollar⟩ := markSql_keeps s (c :: rest)
  have marked : Steady (s.markSql (c :: rest)) :=
    ⟨delimiter ▸ steady.delimiter, quote ▸ steady.quote, dollar ▸ steady.tag⟩
  unfold SqlSplitter.codeMove
  dsimp only
  split
  · rename_i opens
    exact ⟨⟨steady.delimiter, steady.quote, steady.tag⟩, rfl, Nat.le_succ 1,
      two '-' (by decide) opens.2.1⟩
  split
  · exact ⟨⟨steady.delimiter, steady.quote, steady.tag⟩, rfl, Nat.le_refl 1, one⟩
  split
  · rename_i opens
    split
    · exact ⟨⟨marked.delimiter, marked.quote, marked.tag⟩, current, Nat.le_succ 1,
        two '*' (by decide) opens.2⟩
    · exact ⟨⟨steady.delimiter, steady.quote, steady.tag⟩, rfl, Nat.le_succ 1,
        two '*' (by decide) opens.2⟩
  split
  · rename_i opens
    have real : c ≠ '\x00' := by
      rintro rfl
      simp at opens
    exact ⟨⟨marked.delimiter, by simpa using real, marked.tag⟩, current, Nat.le_refl 1, one⟩
  split
  · exact ⟨⟨marked.delimiter, marked.quote, marked.tag⟩, current, Nat.le_refl 1, one⟩
  split
  · rename_i tag opens
    have tagged : dollarTag (c :: rest) = some tag := by
      split at opens
      · exact opens
      · cases opens
    obtain ⟨real, long, inside⟩ := dollarTag_length _ _ tagged
    refine ⟨⟨marked.delimiter, marked.quote, ?_⟩, current, long, inside⟩
    rintro tag' same
    exact Option.some.inj same ▸ real
  · by_cases code : (!isWhitespace c && c != byteOrderMark) = true
    · rw [if_pos code]
      split
      · exact ⟨⟨marked.delimiter, marked.quote, marked.tag⟩, current, Nat.le_refl 1, one⟩
      · exact ⟨marked, current, Nat.le_refl 1, one⟩
    · rw [if_neg code]
      split
      · exact ⟨⟨steady.delimiter, steady.quote, steady.tag⟩, rfl, Nat.le_refl 1, one⟩
      · exact ⟨steady, rfl, Nat.le_refl 1, one⟩

/-- A statement may start at the text behind `done`: nothing, or a separator, is before it. -/
def Starts (script done : Text) : Prop :=
  done = [] ∨ ∃ front separator back, scanTokens script = front ++ separator :: back ∧
    separator.kind = .separator ∧ done = text (front ++ [separator])

/-- What the splitter makes of the text between two separators of the guard. -/
def Piece (script statement : Text) : Prop :=
  ∃ done segment rest, script = done ++ segment ++ rest ∧ Starts script done ∧
    (rest = [] ∨ rest ∈ separatorRests (scanTokens script)) ∧ statement = trimmed segment

theorem segment_kinds (script done segment rest : Text) (whole : script = done ++ segment ++ rest)
    (starts : Starts script done)
    (ends : rest = [] ∨ rest ∈ separatorRests (scanTokens script)) :
    ∀ kind ∈ kinds segment, kind ∈ kinds script := by
  -- The guard's verdicts of the script are those of its parts around a separator.
  have upTo : ∀ script segment rest : Text, script = segment ++ rest →
      (rest = [] ∨ rest ∈ separatorRests (scanTokens script)) →
      ∀ kind ∈ kinds segment, kind ∈ kinds script := by
    rintro script segment rest rfl (rfl | member) kind seen
    · simpa using seen
    · obtain ⟨front, separator, back, tokens, ending, behind⟩ := (mem_separatorRests _ _).mp member
      obtain ⟨parts, -, -⟩ := kinds_separated _ front back separator tokens ending
      have texts := congrArg text tokens
      rw [Lexer.text_tokens, text_append, ← behind, List.append_cancel_right_eq] at texts
      rw [parts, ← texts]
      exact List.mem_append_left _ seen
  by_cases empty : segment = []
  · subst empty
    intro kind seen
    cases seen
  rcases starts with rfl | ⟨front, separator, back, tokens, ending, rfl⟩
  · exact upTo script segment rest (by simpa using whole) ends
  · obtain ⟨parts, -, second⟩ := kinds_separated _ front back separator tokens ending
    have texts := congrArg text tokens
    rw [Lexer.text_tokens, List.append_cons, text_append, whole, List.append_assoc,
      List.append_cancel_left_eq] at texts
    intro kind seen
    rw [parts]
    refine List.mem_append_right _ (upTo (text back) segment rest texts.symm ?_ kind seen)
    rcases ends with none | member
    · exact Or.inl none
    · obtain ⟨front', separator', back', tokens', ending', behind⟩ := (mem_separatorRests _ _).mp member
      rw [tokens, List.append_cons] at tokens'
      rcases List.append_eq_append_iff.mp tokens' with ⟨middle, -, split⟩ | ⟨middle, -, split⟩
      · refine Or.inr ((mem_separatorRests _ _).mpr ⟨middle, separator', back', ?_, ending', behind⟩)
        rw [second, split]
      · -- The second separator cannot stand before the first unless nothing is between them.
        rw [behind, split, text_append] at texts
        have lengths := congrArg List.length texts
        simp only [List.length_append] at lengths
        exact absurd (List.length_eq_zero_iff.mp (by omega)) empty

theorem piece_kinds (script statement : Text) (plain : byteOrderMark ∉ script)
    (piece : Piece script statement) : ∀ kind ∈ kinds statement, kind ∈ kinds script := by
  obtain ⟨done, segment, rest, whole, starts, ends, rfl⟩ := piece
  have stripped : trimmed segment = trim segment := by
    refine strip_congr _ _ segment fun c member => ?_
    have other : c ≠ byteOrderMark := by
      rintro rfl
      exact plain (by simp [whole, member])
    simp [other]
  rw [stripped, kinds_trim]
  exact segment_kinds script done segment rest whole starts ends

/-- The scan stands in front of `left`, and all it has cut are pieces of the script. -/
structure Placed (script : Text) (scan : Scan) (left : Text) : Prop where
  steady : Steady scan.splitter
  place : ∃ done, Starts script done ∧
    script = done ++ (scan.splitter.current ++ scan.pending) ++ left
  out : ∀ statement ∈ scan.out, Piece script statement.text

theorem separator_text (script : Text) (token : Tok) (member : token ∈ scanTokens script)
    (kind : token.kind = .separator) : token.text = [';'] := by
  obtain ⟨fresh, rest, c, tail, shape, read, extra⟩ :=
    scanner.readsOne_of_mem true script token member
  rw [kind] at read
  simp only [scanner] at read extra
  by_cases white : (fresh && isWhitespace c) = true
  · rw [if_pos white] at read
    cases read
  by_cases shell : (fresh && startsShellCommand c (tail ++ rest).head?) = true
  · rw [if_neg white, if_pos shell] at read
    cases read
  by_cases separator : (c == ';') = true
  · rw [if_neg white, if_neg shell, if_pos separator] at extra
    rw [shape, List.length_eq_zero_iff.mp extra.symm, beq_iff_eq.mp separator]
  · rw [if_neg white, if_neg shell, if_neg separator] at read
    exact absurd read (tokenKind_spec c _).2.2

theorem opening_separator (s : SqlSplitter) (last : Bool) (rest : Text) :
    Scan.opening s last (';' :: rest) = .ok .delimiter ∨
      Scan.opening s last (';' :: rest) = .ok .other := by
  have line : Scan.delimiterLine s last (';' :: rest) = .ok none := by
    have other : matchesWord (';' :: rest) "DELIMITER" = false := by
      simp [matchesWord, String.length]
    rw [Scan.delimiterLine, parseDelimiter, other]
    exact ite_self _
  have batch : Scan.batchLine s last (';' :: rest) = none := by
    have other : matchesWord (';' :: rest) "GO" = false := by simp [matchesWord, String.length]
    have slash : parseSlash (';' :: rest) last = none := if_pos (by simp)
    rw [Scan.batchLine, slash, parseGo, other, ite_self]
    exact ite_self _
  rw [Scan.opening, line]
  dsimp only
  rw [batch]
  dsimp only
  split
  · exact Or.inl rfl
  · exact Or.inr rfl

theorem append_ok {s appended : SqlSplitter} {chars : Text}
    (append : s.append chars = .ok appended) :
    appended.current = s.current ++ chars ∧ appended.delimiter = s.delimiter ∧
      appended.quote = s.quote ∧ appended.dollar = s.dollar := by
  unfold SqlSplitter.append at append
  split at append
  · cases append
  · rw [← Except.ok.inj append]
    exact ⟨rfl, rfl, rfl, rfl⟩

theorem takeStatement_out (s : SqlSplitter) (statement : SqlStatement)
    (found : statement ∈ s.takeStatement.2) : statement.text = trimmed s.current := by
  unfold SqlSplitter.takeStatement at found
  dsimp only at found
  split at found
  · rw [List.mem_singleton.mp found]
  · cases found

theorem cut_ok (scan : Scan) (buf : Text) (used : Nat) (directive : Bool) (next : Scan)
    (taken : Nat) (cut : scan.cut buf used directive = .ok (next, taken)) :
    ∃ appended, scan.splitter.append scan.pending = .ok appended ∧ taken = used ∧
      next = ⟨if directive then
          { appended.takeStatement.1.consume (buf.take used) with lineStart := true }
        else appended.takeStatement.1.consume (buf.take used), [],
        scan.out ++ appended.takeStatement.2⟩ := by
  unfold Scan.cut at cut
  split at cut
  · cases cut
  · rename_i appended append
    have both := Prod.mk.inj (Except.ok.inj cut)
    exact ⟨appended, append, both.2.symm, both.1.symm⟩

/-- One turn of the splitter that agrees with the guard. -/
theorem step_placed (script : Text) (scan next : Scan) (last : Bool) (c : Char) (rest : Text)
    (used : Nat) (placed : Placed script scan (c :: rest))
    (agrees : TurnAgrees script last (scan.splitter, c :: rest))
    (stepped : scan.step last c rest = .ok (next, used)) :
    1 ≤ used ∧ used ≤ rest.length + 1 ∧ Placed script next ((c :: rest).drop used) := by
  obtain ⟨steady, ⟨done, starts, whole⟩, out⟩ := placed
  have advanced : ∀ move, Moves scan.splitter move rest →
      scan.advance move (c :: rest) = (next, used) →
      1 ≤ used ∧ used ≤ rest.length + 1 ∧ Placed script next ((c :: rest).drop used) := by
    rintro move moves took
    simp only [Scan.advance, Prod.mk.injEq] at took
    obtain ⟨rfl, rfl⟩ := took
    refine ⟨moves.some, moves.inside, steady_consume _ _ moves.steady, ⟨done, starts, ?_⟩, out⟩
    dsimp only
    rw [(consume_keeps _ _).1, moves.current, whole]
    simp only [List.append_assoc, List.take_append_drop]
  unfold Scan.step at stepped
  by_cases code : scan.splitter.inCode = true
  · rw [if_pos code] at stepped
    cases opened : Scan.opening scan.splitter last (c :: rest) with
    | error error =>
      rw [opened] at stepped
      cases stepped
    | ok what =>
      by_cases other : what = .other
      · subst other
        rw [opened] at stepped
        exact advanced _ (codeMove_moves _ last c rest steady) (Except.ok.inj stepped)
      · have ends : Ends last (scan.splitter, c :: rest) = true := by
          cases what <;> simp_all [Ends]
        have member := agrees ends
        obtain ⟨front, separator, back, tokens, kind, behind⟩ := (mem_separatorRests _ _).mp member
        have semicolon := separator_text script separator (by rw [tokens]; simp) kind
        rw [text_cons, semicolon, List.singleton_append, List.cons.injEq] at behind
        obtain ⟨rfl, rfl⟩ := behind
        have delimiter : what = .delimiter := by
          rcases opening_separator scan.splitter last (text back) with delimiter | plain
          · exact Except.ok.inj (opened.symm.trans delimiter)
          · exact absurd (Except.ok.inj (opened.symm.trans plain)) other
        subst delimiter
        rw [opened] at stepped
        have one : scan.splitter.delimiter.length = 1 := by rw [steady.delimiter]; rfl
        dsimp only at stepped
        rw [one] at stepped
        obtain ⟨appended, append, rfl, rfl⟩ := cut_ok scan _ 1 false next used stepped
        have segment : Piece script (trimmed (scan.splitter.current ++ scan.pending)) :=
          ⟨done, _, _, whole, starts, Or.inr member, rfl⟩
        refine ⟨Nat.le_refl 1, Nat.le_add_left 1 _, ⟨?_, ⟨text (front ++ [separator]), ?_, ?_⟩, ?_⟩⟩
        · exact steady_consume _ _ ⟨(append_ok append).2.1 ▸ steady.delimiter,
            (append_ok append).2.2.1 ▸ steady.quote, (append_ok append).2.2.2 ▸ steady.tag⟩
        · exact Or.inr ⟨front, separator, back, tokens, kind, rfl⟩
        · have texts := congrArg text tokens
          rw [Lexer.text_tokens, List.append_cons, text_append] at texts
          have emptied : appended.takeStatement.1.current = [] := rfl
          simp only [Bool.false_eq_true, if_false, (consume_keeps _ _).1, emptied]
          simpa using texts
        · intro statement pushed
          rcases List.mem_append.mp pushed with earlier | now
          · exact out statement earlier
          · rw [takeStatement_out appended statement now, (append_ok append).1]
            exact segment
  · rw [if_neg code] at stepped
    exact advanced _ (insideMove_moves _ c rest steady) (Except.ok.inj stepped)

/-- A whole run over a buffer, every turn of which agrees with the guard. -/
theorem scanBuffer_placed (script : Text) (last : Bool) (buf : Text) :
    ∀ (skip limit : Nat) (scan next : Scan) (carry : Text),
      skip ≤ buf.length → Placed script scan (buf.drop skip) →
      (∀ turn ∈ Scan.turns last skip limit scan buf, TurnAgrees script last turn) →
      Scan.scanBuffer last skip limit scan buf = .ok (next, carry) →
      Placed script next carry ∧ (buf.length ≤ limit → carry = []) := by
  induction buf with
  | nil =>
    intro skip limit scan next carry inside placed _ ran
    obtain ⟨rfl, rfl⟩ := Prod.mk.inj (Except.ok.inj ran)
    rw [List.drop_nil] at placed
    exact ⟨placed, fun _ => rfl⟩
  | cons c rest ih =>
    intro skip limit scan next carry inside placed agree ran
    cases skip with
    | succ skip =>
      obtain ⟨final, whole⟩ := ih skip (limit - 1) scan next carry
        (Nat.le_of_succ_le_succ inside) placed agree ran
      exact ⟨final, fun enough => whole (by rw [List.length_cons] at enough; omega)⟩
    | zero =>
      cases limit with
      | zero =>
        obtain ⟨rfl, rfl⟩ := Prod.mk.inj (Except.ok.inj ran)
        exact ⟨placed, fun enough => by simp at enough⟩
      | succ limit =>
        rw [Scan.scanBuffer] at ran
        rw [Scan.turns] at agree
        cases stepped : scan.step last c rest with
        | error error =>
          rw [stepped] at ran
          cases ran
        | ok took =>
          obtain ⟨middle, used⟩ := took
          rw [stepped] at ran agree
          dsimp only at ran agree
          obtain ⟨some, bound, held⟩ := step_placed script scan middle last c rest used placed
            (agree _ List.mem_cons_self) stepped
          have jump : (c :: rest).drop used = rest.drop (used - 1) := by
            obtain ⟨more, rfl⟩ := Nat.exists_eq_add_of_le' some
            rw [List.drop_succ_cons, Nat.add_sub_cancel]
          rw [jump] at held
          obtain ⟨final, whole⟩ := ih (used - 1) limit middle next carry (by omega) held
            (fun turn member => agree turn (List.mem_cons_of_mem _ member)) ran
          exact ⟨final, fun enough => whole (Nat.le_of_succ_le_succ enough)⟩

/-- What a call of the splitter leaves, between two calls. -/
structure Resting (script : Text) (s : SqlSplitter) : Prop where
  steady : Steady s
  place : ∃ done, Starts script done ∧ script = done ++ s.current ++ s.carry

theorem run_resting (script : Text) (s ended : SqlSplitter) (last : Bool)
    (out : List SqlStatement) (rest : Resting script s)
    (agree : ∀ turn ∈ s.runTurns last, TurnAgrees script last turn)
    (ran : s.run last = .ok (ended, out)) :
    Resting script ended ∧ (∀ statement ∈ out, Piece script statement.text) ∧
      (last = true → ended.carry = []) := by
  obtain ⟨steady, done, starts, whole⟩ := rest
  have placed : Placed script ⟨{ s with carry := [] }, [], []⟩ (s.carry.drop 0) :=
    ⟨⟨steady.delimiter, steady.quote, steady.tag⟩, ⟨done, starts, by simpa using whole⟩, by simp⟩
  rw [SqlSplitter.run] at ran
  cases scanned : Scan.scanBuffer last 0 (if last = true then s.carry.length
      else s.carry.length - s.hold) ⟨{ s with carry := [] }, [], []⟩ s.carry with
  | error error =>
    simp only [scanned] at ran
    cases ran
  | ok result =>
    obtain ⟨scan, carry⟩ := result
    simp only [scanned] at ran
    obtain ⟨held, emptied⟩ := scanBuffer_placed script last s.carry 0 _ _ scan carry
      (Nat.zero_le _) placed agree scanned
    obtain ⟨steady', ⟨done', starts', whole'⟩, pieces⟩ := held
    cases append : scan.splitter.append scan.pending with
    | error error =>
      rw [append] at ran
      cases ran
    | ok appended =>
      rw [append] at ran
      obtain ⟨rfl, rfl⟩ := Prod.mk.inj (Except.ok.inj ran)
      obtain ⟨current, delimiter, quote, dollar⟩ := append_ok append
      refine ⟨⟨⟨delimiter ▸ steady'.delimiter, quote ▸ steady'.quote, dollar ▸ steady'.tag⟩,
        done', starts', ?_⟩, pieces, ?_⟩
      · simp only [current]
        exact whole'
      · rintro rfl
        exact emptied (Nat.le_refl _)

/-- Every statement the splitter cuts is a piece of the script between guard separators. -/
theorem split_pieces (dialect : SplitDialect) (script : Text) (agree : CutsAgree dialect script) :
    ∀ statement ∈ split dialect script, Piece script statement := by
  obtain ⟨feeding, finishing, -⟩ := agree
  have fresh : Resting script { SqlSplitter.new dialect with carry := [] ++ script } :=
    ⟨⟨rfl, by simp [SqlSplitter.new], by simp [SqlSplitter.new]⟩, [], Or.inl rfl,
      by simp [SqlSplitter.new]⟩
  intro statement member
  obtain ⟨cut, emitted, rfl⟩ := List.mem_map.mp member
  rw [SqlSplitter.emitted] at emitted
  rw [finishTurns] at finishing
  cases fed : (SqlSplitter.new dialect).feed script with
  | error error =>
    rw [fed] at emitted
    cases emitted
  | ok result =>
    obtain ⟨middle, out⟩ := result
    rw [fed] at emitted finishing
    dsimp only at emitted finishing
    obtain ⟨resting, pieces, -⟩ := run_resting script _ middle false out fresh feeding fed
    rcases List.mem_append.mp emitted with first | second
    · exact pieces cut first
    rw [SqlSplitter.emitted, SqlSplitter.finish] at second
    cases ran : middle.run true with
    | error error =>
      rw [ran] at second
      cases second
    | ok result =>
      obtain ⟨ended, out'⟩ := result
      rw [ran] at second
      dsimp only at second
      obtain ⟨⟨-, done, starts, whole⟩, pieces', emptied⟩ :=
        run_resting script middle ended true out' resting finishing ran
      by_cases unclosed : ended.unclosed = true
      · rw [if_pos unclosed] at second
        cases second
      · rw [if_neg unclosed] at second
        rcases List.mem_append.mp second with earlier | final
        · exact pieces' cut earlier
        · rw [takeStatement_out ended cut final]
          rw [emptied rfl] at whole
          exact ⟨done, ended.current, [], whole, starts, Or.inl rfl, rfl⟩

end DbFree.SqlImport
