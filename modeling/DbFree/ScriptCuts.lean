import DbFree.SplitterRuns

/- What it means to cut a script into statements and lose nothing of it: the script is the
parts that are kept and the separators between them, in order. -/
namespace DbFree.SqlImport

open Chars Texts SqlSplitter

/-- Where a text stands between its comments. -/
inductive Within where
  | code | line
  | block (depth : Nat)
deriving DecidableEq

/-- A line comment opens here, with this many characters behind the first. -/
def lineMark (dialect : SplitDialect) (c : Char) (rest : Text) : Option Nat :=
  if c = '-' ∧ rest.head? = some '-' ∧
      (dialect = .mysql → ∀ after ∈ (rest.drop 1).head?, isWhitespace after = true) then some 1
  else if c = '#' ∧ dialect = .mysql then some 0
  else none

/-- A block comment opens here that no server runs. -/
def blockMark (dialect : SplitDialect) (c : Char) (rest : Text) : Bool :=
  c == '/' && rest.head? == some '*' && !(dialect == .mysql &&
    ((rest.drop 1).head? == some '!' ||
      ((rest.drop 1).head? == some 'M' && (rest.drop 2).head? == some '!')))

def nests (dialect : SplitDialect) : Bool := dialect == .postgres || dialect == .mssql

/-- Nothing but white space, byte order marks and comments, with `behind` after it. -/
def onlyComments (dialect : SplitDialect) (behind : Text) : Within → Nat → Text → Bool
  | _, _, [] => true
  | within, skip + 1, _ :: rest => onlyComments dialect behind within skip rest
  | .line, 0, c :: rest =>
    onlyComments dialect behind (if c = '\n' then .code else .line) 0 rest
  | .block depth, 0, c :: rest =>
    if c = '*' ∧ (rest ++ behind).head? = some '/' then
      onlyComments dialect behind (if depth ≤ 1 then .code else .block (depth - 1)) 1 rest
    else if c = '/' ∧ (rest ++ behind).head? = some '*' ∧ nests dialect then
      onlyComments dialect behind (.block (depth + 1)) 1 rest
    else onlyComments dialect behind (.block depth) 0 rest
  | .code, 0, c :: rest =>
    if isWhitespace c || c == byteOrderMark then onlyComments dialect behind .code 0 rest
    else
      match lineMark dialect c (rest ++ behind) with
      | some more => onlyComments dialect behind .line more rest
      | none =>
        if blockMark dialect c (rest ++ behind) then onlyComments dialect behind (.block 1) 1 rest
        else false

/-- What `kept` has on its last line is blank, or behind a block comment. -/
def FreshLine (kept : Text) : Prop :=
  (∀ c ∈ kept.rtakeWhile (· ≠ '\n'), (isWhitespace c || c == byteOrderMark) = true) ∨
    contains (kept.rtakeWhile (· ≠ '\n')) "*/" = true

/-- Blanks and the end of a line, or of the script. -/
def LineEnd (ending rest : Text) : Prop :=
  ∃ blanks feed, ending = blanks ++ feed ∧ (∀ c ∈ blanks, isBlank c = true) ∧
    (feed = ['\n'] ∨ feed = ['\r', '\n'] ∨ feed = [] ∧ rest = [])

def Spells (text : Text) (word : String) : Prop := text.map Char.toLower = word.toList

/-- `DELIMITER` and a token. -/
def DelimiterLine (line token rest : Text) : Prop :=
  ∃ word blanks ending, line = word ++ blanks ++ token ++ ending ∧ Spells word "delimiter" ∧
    blanks ≠ [] ∧ (∀ c ∈ blanks, isBlank c = true) ∧
    token ≠ [] ∧ (∀ c ∈ token, isWhitespace c = false) ∧ token.length ≤ MAX_DELIMITER ∧
    LineEnd ending rest

/-- `GO`, or `GO 5`. -/
def GoLine (line rest : Text) : Prop :=
  ∃ word blanks digits ending, line = word ++ blanks ++ digits ++ ending ∧ Spells word "go" ∧
    (∀ c ∈ blanks, isBlank c = true) ∧ (∀ c ∈ digits, c.isDigit = true) ∧
    (digits ≠ [] → blanks ≠ []) ∧ LineEnd ending rest

def SlashLine (line rest : Text) : Prop :=
  ∃ ending, line = '/' :: ending ∧ LineEnd ending rest

/-- A line that ends a batch; `slash` tells whether Oracle's `/` lines count. -/
def BatchLine (slash : Bool) (dialect : SplitDialect) (line rest : Text) : Prop :=
  dialect = .mssql ∧ GoLine line rest ∨ slash = true ∧ dialect = .oracle ∧ SlashLine line rest

/-- The statement of a chunk whose last part is `kept`, in front of `behind`. -/
def statementOf (dialect : SplitDialect) (chunk kept behind : Text) : List Text :=
  if onlyComments dialect behind .code 0 kept then [] else [trimmed (chunk ++ kept)]

/-- A text is cut into statements: it is what is kept of it and what separates that, each part
in its place. `chunk` has been kept of the first statement. -/
inductive Cuts (slash : Bool) (dialect : SplitDialect) : Text → Text → Text → List Text → Prop
  | finish {delimiter chunk kept : Text} :
    Cuts slash dialect delimiter chunk kept (statementOf dialect chunk kept [])
  | delimiter {delimiter chunk kept rest : Text} {out : List Text} :
    Cuts slash dialect delimiter [] rest out →
    Cuts slash dialect delimiter chunk (kept ++ delimiter ++ rest)
      (statementOf dialect chunk kept (delimiter ++ rest) ++ out)
  | batch {delimiter chunk kept line rest : Text} {out : List Text} :
    FreshLine kept → BatchLine slash dialect line rest →
    Cuts slash dialect delimiter [] rest out →
    Cuts slash dialect delimiter chunk (kept ++ line ++ rest)
      (statementOf dialect chunk kept (line ++ rest) ++ out)
  | redelimit {delimiter chunk kept line token rest : Text} {out : List Text} :
    dialect = .mysql → FreshLine kept → DelimiterLine line token rest →
    onlyComments dialect (line ++ rest) .code 0 kept = true →
    Cuts slash dialect token (chunk ++ kept) rest out →
    Cuts slash dialect delimiter chunk (kept ++ line ++ rest) out

section Lines

theorem restOfLineBlank_spec {buf : Text} {start used : Nat} {last : Bool} {future : Text}
    (sees : last = true → future = []) (found : restOfLineBlank buf start last = some used) :
    ∃ ending, buf.drop start = ending ++ buf.drop used ∧ used = start + ending.length ∧
      LineEnd ending (buf.drop used ++ future) := by
  unfold restOfLineBlank at found
  dsimp only at found
  generalize blanks_eq : (buf.drop start).takeWhile isBlank = blanks at found
  have front : buf.drop start = blanks ++ buf.drop (start + blanks.length) := by
    have prefixed : blanks <+: buf.drop start := blanks_eq ▸ List.takeWhile_prefix _
    rw [← List.drop_drop]
    exact (List.prefix_iff_eq_append.mp prefixed).symm
  have blank : ∀ c ∈ blanks, isBlank c = true := by
    intro c member
    rw [← blanks_eq] at member
    exact List.mem_takeWhile_imp member
  have through : ∀ feed : Text, (buf.drop (start + blanks.length)).take feed.length = feed →
      used = start + blanks.length + feed.length → feed = ['\n'] ∨ feed = ['\r', '\n'] →
      ∃ ending, buf.drop start = ending ++ buf.drop used ∧ used = start + ending.length ∧
        LineEnd ending (buf.drop used ++ future) := by
    intro feed there used_eq fed
    refine ⟨blanks ++ feed, ?_, by rw [List.length_append]; omega, blanks, feed, rfl, blank, ?_⟩
    · rw [front, List.append_assoc, used_eq]
      have split := List.take_append_drop feed.length (buf.drop (start + blanks.length))
      rw [there, List.drop_drop] at split
      rw [split]
    · exact fed.imp_right .inl
  split at found
  · rename_i rest behind
    refine through ['\n'] ?_ (Option.some.inj found).symm (.inl rfl)
    rw [behind]
    rfl
  · rename_i rest behind
    refine through ['\r', '\n'] ?_ (Option.some.inj found).symm (.inr rfl)
    rw [behind]
    rfl
  · rename_i behind
    split at found
    · rename_i late
      have used_eq := Option.some.inj found
      rw [← used_eq]
      refine ⟨blanks, front, rfl, blanks, [], (List.append_nil _).symm, blank, .inr (.inr ⟨rfl, ?_⟩)⟩
      rw [behind, sees late]
      rfl
    · cases found
  · cases found

theorem matchesWord_spec {buf : Text} {word : String} (found : matchesWord buf word = true) :
    (buf.take word.length).map Char.toLower = word.toList.map Char.toLower ∧
      word.length ≤ buf.length := by
  have same := beq_iff_eq.mp found
  have lengths := congrArg List.length same
  rw [List.length_map, List.length_map, List.length_take, String.length_toList] at lengths
  exact ⟨same.symm, by omega⟩

theorem take_run (p : Char → Bool) (text : Text) :
    text.take (text.takeWhile p).length = text.takeWhile p := by
  have prefixed : text.takeWhile p <+: text := List.takeWhile_prefix _
  exact (List.prefix_iff_eq_take.mp prefixed).symm

theorem length_run_le (p : Char → Bool) (text : Text) :
    (text.takeWhile p).length ≤ text.length :=
  (List.takeWhile_prefix p).length_le

theorem take_line {buf ending : Text} {start used : Nat} (inside : start ≤ buf.length)
    (rest : buf.drop start = ending ++ buf.drop used) (used_eq : used = start + ending.length) :
    buf.take used = buf.take start ++ ending ∧ used ≤ buf.length := by
  constructor
  · rw [used_eq, List.take_add, rest, List.take_left]
  · have lengths := congrArg List.length rest
    rw [List.length_append, List.length_drop, List.length_drop] at lengths
    omega

theorem parseSlash_spec {buf : Text} {used : Nat} {last : Bool} {future : Text}
    (sees : last = true → future = []) (found : parseSlash buf last = some used) :
    SlashLine (buf.take used) (buf.drop used ++ future) ∧ used ≤ buf.length ∧ 1 ≤ used := by
  unfold parseSlash at found
  split at found
  · cases found
  rename_i slash
  rw [not_ne_iff] at slash
  obtain ⟨ending, rest, used_eq, ends⟩ := restOfLineBlank_spec sees found
  cases buf with
  | nil => cases slash
  | cons c behind =>
    obtain ⟨line, inside⟩ := take_line (Nat.le_add_left 1 _) rest used_eq
    refine ⟨⟨ending, ?_, ends⟩, inside, by omega⟩
    rw [line, List.take_succ_cons, Option.some.inj slash]
    rfl

theorem parseGo_spec {buf : Text} {used : Nat} {last : Bool} {future : Text}
    (sees : last = true → future = []) (found : parseGo buf last = some used) :
    GoLine (buf.take used) (buf.drop used ++ future) ∧ used ≤ buf.length ∧ 1 ≤ used := by
  unfold parseGo at found
  by_cases starts : matchesWord buf "GO" = true
  swap
  · rw [Bool.not_eq_true] at starts
    rw [starts] at found
    cases found
  obtain ⟨spelled, inside⟩ := matchesWord_spec starts
  rw [starts, Bool.not_true, if_neg Bool.false_ne_true] at found
  split at found
  · cases found
  rename_i apart
  dsimp only at found
  obtain ⟨ending, rest, used_eq, ends⟩ := restOfLineBlank_spec sees found
  have two : "GO".length = 2 := rfl
  rw [two] at spelled inside
  have blanks_le := length_run_le isBlank (buf.drop 2)
  rw [List.length_drop] at blanks_le
  generalize numbered : buf.drop (2 + ((buf.drop 2).takeWhile isBlank).length) = number
    at rest used_eq
  have digits_le := length_run_le Char.isDigit number
  have number_length := congrArg List.length numbered
  rw [List.length_drop] at number_length
  obtain ⟨line, within⟩ := take_line (by omega) rest used_eq
  refine ⟨⟨buf.take 2, (buf.drop 2).takeWhile isBlank, number.takeWhile Char.isDigit, ending, ?_,
    spelled, fun _ => List.mem_takeWhile_imp, fun _ => List.mem_takeWhile_imp, ?_, ends⟩, within,
    by omega⟩
  · rw [line, List.take_add, List.take_add, numbered, take_run, take_run]
  · intro digits blanks
    rw [blanks, List.length_nil, Nat.add_zero] at numbered
    rw [← numbered] at digits
    apply apart
    cases behind : buf.drop 2 with
    | nil =>
      rw [behind] at digits
      exact absurd rfl digits
    | cons c more =>
      rw [behind] at digits
      by_cases digit : c.isDigit = true
      · have ascii : c.toNat < 128 := by
          rw [Char.isDigit, Bool.and_eq_true, decide_eq_true_eq, decide_eq_true_eq] at digit
          exact Nat.lt_of_le_of_lt (UInt32.le_iff_toNat_le.mp digit.2) (by decide)
        exact wordChar_of_alphanum c ascii (by simp [Char.isAlphanum, digit])
      · rw [List.takeWhile_cons_of_neg digit] at digits
        exact absurd rfl digits

theorem parseDelimiter_spec {buf : Text} {used : Nat} {token : Text} {last : Bool} {future : Text}
    (sees : last = true → future = [])
    (found : parseDelimiter buf last = .ok (some (used, token))) :
    DelimiterLine (buf.take used) token (buf.drop used ++ future) ∧ used ≤ buf.length ∧
      1 ≤ used := by
  unfold parseDelimiter at found
  split at found
  · cases found
  rename_i starts
  rw [Bool.not_eq_true, Bool.or_eq_false_iff, Bool.not_eq_false', Bool.not_eq_false'] at starts
  obtain ⟨spelled, inside⟩ := matchesWord_spec starts.1
  have nine : "DELIMITER".length = 9 := rfl
  rw [nine] at spelled inside
  dsimp only at found
  split at found
  · cases found
  rename_i real
  split at found
  · cases found
  rename_i line_used ended
  split at found
  · cases found
  rename_i short
  obtain ⟨rfl, rfl⟩ := Prod.mk.inj (Option.some.inj (Except.ok.inj found))
  obtain ⟨ending, rest, used_eq, ends⟩ := restOfLineBlank_spec sees ended
  have blanks_le := length_run_le isBlank (buf.drop 9)
  have token_le := length_run_le (fun c => !isWhitespace c)
    (buf.drop (9 + ((buf.drop 9).takeWhile isBlank).length))
  rw [List.length_drop] at blanks_le token_le
  obtain ⟨line, within⟩ := take_line (by omega) rest used_eq
  refine ⟨⟨buf.take 9, (buf.drop 9).takeWhile isBlank, ending, ?_, spelled, ?_,
    fun _ => List.mem_takeWhile_imp, ?_, ?_, by omega, ends⟩, within, by omega⟩
  · rw [line, List.take_add, List.take_add, take_run, take_run]
  · intro none
    cases behind : buf.drop 9 with
    | nil =>
      rw [behind] at starts
      cases starts.2
    | cons c more =>
      rw [behind] at starts none
      have blank : isBlank c = true := starts.2
      rw [List.takeWhile_cons_of_pos blank] at none
      cases none
  · intro none
    exact real (List.isEmpty_iff.mpr none)
  · intro c member
    have visible := List.mem_takeWhile_imp member
    simpa using visible

end Lines

end DbFree.SqlImport
