import DbFree.Texts

/- The statement classifier of the guard (guard/destructive.rs): where the
statements of a script begin and end, and what running each of them means. -/
namespace DbFree.Destructive

open Chars Texts

inductive StatementKind where
  | read | write | destructive
deriving DecidableEq

namespace StatementKind

def rank : StatementKind → Nat
  | read => 0
  | write => 1
  | destructive => 2

theorem rank_injective : Function.Injective rank := by
  intro first second same
  cases first <;> cases second <;> first | rfl | exact absurd same (by decide)

/-- `Read < Write < Destructive`. -/
instance : LinearOrder StatementKind := LinearOrder.lift' rank rank_injective

end StatementKind

structure ClassifiedStatement where
  text : Text
  kind : StatementKind
  reason : Option String
deriving DecidableEq

-- The token lengths below count the characters after the first one of the token:
-- they are the inner loops of the source, which move `i` past the token.

/-- A quoted text, after its opening quote. A doubled quote is part of it. -/
def quotedLen (quote : Char) : Text → Nat
  | [] => 0
  | c :: rest =>
    if c = quote then
      match rest with
      | d :: later => if d = quote then quotedLen quote later + 2 else 1
      | [] => 1
    else quotedLen quote rest + 1

/-- The rest of the line, its line feed excluded. -/
def lineLen (rest : Text) : Nat := (rest.takeWhile (· ≠ '\n')).length

/-- A block comment, after its `/*`. -/
def blockLen : Text → Nat
  | [] => 0
  | c :: rest => if c = '*' ∧ rest.head? = some '/' then 2 else blockLen rest + 1

/-- The tag `$name$` of a dollar quote, when one follows the `$` already read. -/
def dollarTag (rest : Text) : Option Text :=
  let name := rest.takeWhile isWordChar
  if (rest.drop name.length).head? = some '$' then some ('$' :: name ++ ['$']) else none

/-- The body of a dollar quote with its closing tag. -/
def closingLen (tag : Text) : Text → Nat
  | [] => 0
  | c :: rest => if tag.isPrefixOf (c :: rest) then tag.length else closingLen tag rest + 1

def dollarLen (rest : Text) : Nat :=
  match dollarTag rest with
  | some tag => tag.length - 1 + closingLen tag (rest.drop (tag.length - 1))
  | none => 0

def isQuote (c : Char) : Bool := c == '\'' || c == '"' || c == '`'

def startsLineComment (c : Char) (next : Option Char) : Bool := c == '-' && next == some '-'

def startsBlockComment (c : Char) (next : Option Char) : Bool := c == '/' && next == some '*'

/-- No SQL statement begins with a backslash, or with a dot and a letter. -/
def startsShellCommand (c : Char) (next : Option Char) : Bool :=
  c == '\\' || (c == '.' && next.any Char.isAlpha)

/-- The `match c` of `scan`. -/
def tokenLen (c : Char) (rest : Text) : Nat :=
  if isQuote c then quotedLen c rest
  else if startsLineComment c rest.head? then lineLen rest
  else if startsBlockComment c rest.head? then blockLen (rest.drop 1) + 1
  else if c == '$' then dollarLen rest
  else 0

/-- The loop of `scan` at position `i`, with `skip` characters left of the
token it has just jumped over: the ranges it pushes and the last `start`. -/
def scanLoop (skip : Nat) (fresh : Bool) (start i : Nat) : Text → List (Nat × Nat) × Nat
  | [] => ([], start)
  | c :: rest =>
    match skip with
    | skip + 1 => scanLoop skip fresh start (i + 1) rest
    | 0 =>
      if fresh && isWhitespace c then
        scanLoop 0 fresh start (i + 1) rest
      else if fresh && startsShellCommand c rest.head? then
        let stop := i + 1 + lineLen rest
        let later := scanLoop (lineLen rest) true stop (i + 1) rest
        ((start, stop) :: later.1, later.2)
      else if c == ';' then
        let later := scanLoop 0 true (i + 1) (i + 1) rest
        ((start, i) :: later.1, later.2)
      else
        let comment := startsLineComment c rest.head? || startsBlockComment c rest.head?
        scanLoop (tokenLen c rest) (fresh && comment) start (i + 1) rest

/-- Half-open character ranges of the statements, separators excluded. -/
def scan (chars : Text) : List (Nat × Nat) :=
  let found := scanLoop 0 true 0 0 chars
  if blank (chars.drop found.2) then found.1 else found.1 ++ [(found.2, chars.length)]

def slice (chars : Text) (range : Nat × Nat) : Text := (chars.take range.2).drop range.1

def splitStatements (sql : Text) : List Text := (scan sql).map (slice sql)

/-- What `top_level_words` has read: the word in progress, the words at
parenthesis depth 0 and the depth. -/
structure WordState where
  word : Text
  words : List Text
  depth : Int
deriving DecidableEq

namespace WordState

def start : WordState := ⟨[], [], 0⟩

def flush (state : WordState) : WordState :=
  if state.word.isEmpty then state
  else
    { state with
      word := []
      words := if state.depth = 0 then state.words ++ [toAsciiUppercase state.word]
        else state.words }

def openParen (state : WordState) : WordState :=
  { state.flush with depth := state.flush.depth + 1 }

def closeParen (state : WordState) : WordState :=
  { state.flush with depth := state.flush.depth - 1 }

def push (state : WordState) (c : Char) : WordState := { state with word := state.word ++ [c] }

/-- A character outside every token. -/
def plain (state : WordState) (c : Char) : WordState :=
  if c == '(' then state.openParen
  else if c == ')' then state.closeParen
  else if isWordChar c then state.push c
  else state.flush

end WordState

/-- The characters of a token that `top_level_words` passes over. It knows no
dollar quotes. -/
def hiddenLen (c : Char) (rest : Text) : Option Nat :=
  if isQuote c then some (quotedLen c rest)
  else if startsLineComment c rest.head? then some (lineLen rest)
  else if startsBlockComment c rest.head? then some (blockLen (rest.drop 1) + 1)
  else none

def wordsLoop (skip : Nat) (state : WordState) : Text → WordState
  | [] => state.flush
  | c :: rest =>
    match skip with
    | skip + 1 => wordsLoop skip state rest
    | 0 =>
      match hiddenLen c rest with
      | some hidden => wordsLoop hidden state.flush rest
      | none => wordsLoop 0 (state.plain c) rest

/-- Uppercased bare words at parenthesis depth 0, literals and comments removed. -/
def topLevelWords (statement : Text) : List Text := (wordsLoop 0 .start statement).words

def readLeaders : List String :=
  ["SELECT", "EXPLAIN", "SHOW", "VALUES", "TABLE", "DESCRIBE", "DESC", "BEGIN", "START", "COMMIT",
    "END", "ROLLBACK", "SAVEPOINT", "RELEASE", "SET", "RESET", "DISCARD", "LISTEN", "UNLISTEN"]

def dmlWriters : List String := ["INSERT", "UPDATE", "DELETE", "MERGE", "REPLACE", "UPSERT"]

def has (words : List Text) (keyword : String) : Bool := words.contains keyword.toList

abbrev Verdict := StatementKind × Option String

def classifyWords (words : List Text) : Verdict :=
  match words with
  | [] => (.read, none)
  | first :: _ =>
    if first = "DROP".toList then
      (.destructive, some "DROP removes the object and its data.")
    else if first = "TRUNCATE".toList then
      (.destructive, some "TRUNCATE removes every row.")
    else if first = "DELETE".toList && !has words "WHERE" then
      (.destructive, some "DELETE without a WHERE clause removes every row.")
    else if first = "UPDATE".toList && !has words "WHERE" then
      (.destructive, some "UPDATE without a WHERE clause rewrites every row.")
    else if first = "ALTER".toList && has words "DROP" then
      (.destructive, some "ALTER ... DROP discards a column or constraint.")
    else if first = "WITH".toList then
      if dmlWriters.any (has words) then (.write, none) else (.read, none)
    else if first = "PRAGMA".toList then
      if words.length > 2 then (.write, none) else (.read, none)
    else if isIn first readLeaders then (.read, none)
    else (.write, none)

section Leaders

variable (rest : List Text)

theorem classifyWords_delete :
    classifyWords ("DELETE".toList :: rest) =
      if !has ("DELETE".toList :: rest) "WHERE" then
        (.destructive, some "DELETE without a WHERE clause removes every row.")
      else (.write, none) := rfl

theorem classifyWords_update :
    classifyWords ("UPDATE".toList :: rest) =
      if !has ("UPDATE".toList :: rest) "WHERE" then
        (.destructive, some "UPDATE without a WHERE clause rewrites every row.")
      else (.write, none) := rfl

theorem classifyWords_alter :
    classifyWords ("ALTER".toList :: rest) =
      if has ("ALTER".toList :: rest) "DROP" then
        (.destructive, some "ALTER ... DROP discards a column or constraint.")
      else (.write, none) := rfl

theorem classifyWords_with :
    classifyWords ("WITH".toList :: rest) =
      if dmlWriters.any (has ("WITH".toList :: rest)) then (.write, none) else (.read, none) := rfl

theorem classifyWords_pragma :
    classifyWords ("PRAGMA".toList :: rest) =
      if ("PRAGMA".toList :: rest).length > 2 then (.write, none) else (.read, none) := rfl

/-- The first words whose verdict depends on more than being in `readLeaders`. -/
def specialLeaders : List Text :=
  ["DROP".toList, "TRUNCATE".toList, "DELETE".toList, "UPDATE".toList, "ALTER".toList,
    "WITH".toList, "PRAGMA".toList]

theorem classifyWords_other (first : Text) (other : first ∉ specialLeaders) :
    classifyWords (first :: rest) =
      if isIn first readLeaders then (.read, none) else (.write, none) := by
  simp only [specialLeaders, List.mem_cons, List.not_mem_nil, or_false, not_or] at other
  obtain ⟨drop, truncate, delete, update, alter, with₀, pragma⟩ := other
  simp only [classifyWords, drop, truncate, delete, update, alter, with₀, pragma, decide_false,
    Bool.false_and, if_false, Bool.false_eq_true]

end Leaders

def classifyStatement (statement : Text) : ClassifiedStatement :=
  let verdict := classifyWords (topLevelWords statement)
  ⟨trim statement, verdict.1, verdict.2⟩

/-- Every statement of a script that is not blank, with its verdict. -/
def classify (sql : Text) : List ClassifiedStatement :=
  ((splitStatements sql).filter fun statement => !blank statement).map classifyStatement

/-- The kinds of the statements of a script. -/
def kinds (sql : Text) : List StatementKind := (classify sql).map ClassifiedStatement.kind

example : kinds "SELECT 1; select * from t where a = 'x;y'".toList = [.read, .read] := by
  decide +kernel

end DbFree.Destructive
