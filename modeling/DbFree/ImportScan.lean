import DbFree.ScriptSegments
import DbFree.SqlImport
import DbFree.SqlText
import DbFree.WrappedStatements

/- The scan of a SQL file before its import: how many of its statements the guard will ask
to confirm (services/sql_import.rs). -/
namespace DbFree.SqlImport

open Chars Texts SqlText
open Destructive (classify kinds splitStatements topLevelWords Removes destructive_iff)

/-- Destructive statements shown in full before the import. -/
def EXAMPLES : Nat := 5

/-- `split_once("*/")`: what follows the first end of a comment. -/
def afterClosing : Text → Text
  | [] => []
  | c :: rest => if c = '*' ∧ rest.head? = some '/' then rest.tail else afterClosing rest

def skipCommentsWithin : Nat → Text → Text
  | 0, rest => rest
  | fuel + 1, rest =>
    if startsWith rest "--" then
      skipCommentsWithin fuel (trimStart ((rest.dropWhile (· ≠ '\n')).drop 1))
    else if startsWith rest "#" then
      skipCommentsWithin fuel (trimStart ((rest.dropWhile (· ≠ '\n')).drop 1))
    else if startsWith rest "/*" && !startsWith rest "/*!" then
      skipCommentsWithin fuel (trimStart (afterClosing rest))
    else rest

/-- The statement without the comments in front of it. -/
def skipComments (statement : Text) : Text :=
  skipCommentsWithin statement.length (trimStart statement)

/-- The first word of a statement, with leading comments skipped. -/
def leadingWord (statement : Text) : Text :=
  toAsciiUppercase ((skipComments statement).takeWhile isWordChar)

/-- Can the guard's classifier call this statement destructive? Only these leaders can be. -/
def mayBeDestructive (statement : Text) : Bool :=
  isIn (leadingWord statement) ["DROP", "TRUNCATE", "DELETE", "UPDATE", "ALTER", "WITH"]

/-- The guard asks before it runs the statement. -/
def asks (statement : Text) : Bool :=
  (classify statement).any fun found => found.kind == .destructive

def isDestructive (statement : Text) : Bool := mayBeDestructive statement && asks statement

/-- `SET sql_mode = '…NO_BACKSLASH_ESCAPES…'` changes how every later string is read. -/
def changesEscaping (statement : Text) : Bool :=
  let upper := toAsciiUppercase statement
  contains upper "NO_BACKSLASH_ESCAPES" && startsWith (trimStart upper) "SET"

def ESCAPING_PROBLEM : Text :=
  ("This dump sets NO_BACKSLASH_ESCAPES, which changes how strings are read. Import it with " ++
    "the mysql command-line client instead.").toList

def shorten (text : Text) : Text :=
  let flat := join [' '] (splitWhitespace text)
  if flat.length > 120 then flat.take 119 ++ ['…'] else flat

/-- What the scan found; the file's size, time and head are left to the caller. -/
structure SqlFileInfo where
  statements : Nat
  destructive : Nat
  destructiveExamples : List Text
  problem : Option Text
deriving DecidableEq

/-- The statements in the order the splitter hands them out, and its error where it stops. -/
def scanStatements (failure : Option AppError) (info : SqlFileInfo) :
    List SqlStatement → SqlFileInfo
  | [] => { info with problem := failure.map AppError.message }
  | statement :: rest =>
    if changesEscaping statement.text then { info with problem := some ESCAPING_PROBLEM }
    else
      let counted := { info with statements := info.statements + 1 }
      if isDestructive statement.text then
        scanStatements failure { counted with
          destructive := counted.destructive + 1
          destructiveExamples :=
            if counted.destructiveExamples.length < EXAMPLES then
              counted.destructiveExamples ++ [shorten (skipComments statement.text)]
            else counted.destructiveExamples } rest
      else scanStatements failure counted rest

namespace SqlSplitter

/-- The error of the first call that fails on a script fed in chunks. -/
def failure (s : SqlSplitter) : List Text → Option AppError
  | [] =>
    match s.finish with
    | .error error => some error
    | .ok _ => none
  | chunk :: chunks =>
    match s.feed chunk with
    | .error error => some error
    | .ok (fed, _) => failure fed chunks

end SqlSplitter

/-- The scan of a file read in chunks. -/
def scan (dialect : SplitDialect) (chunks : List Text) : SqlFileInfo :=
  scanStatements ((SqlSplitter.new dialect).failure chunks) ⟨0, 0, [], none⟩
    ((SqlSplitter.new dialect).emitted chunks)

/-- The statements an import hands to the guard, when each of them succeeds. -/
def handedOver (dialect : SplitDialect) (chunks : List Text) : List SqlStatement :=
  ((SqlSplitter.new dialect).emitted chunks).takeWhile fun statement =>
    !changesEscaping statement.text

theorem topLevelWords_blank (piece : Text) (white : blank piece = true) :
    topLevelWords piece = [] := by
  induction piece with
  | nil => rfl
  | cons c rest hypothesis =>
    rw [blank, List.all_cons, Bool.and_eq_true] at white
    rw [Destructive.topLevelWords_leading c white.1]
    exact hypothesis white.2

theorem asks_iff (statement : Text) :
    asks statement = true ↔ ∃ piece ∈ splitStatements statement, Removes (topLevelWords piece) := by
  rw [asks, List.any_eq_true]
  constructor
  · rintro ⟨found, inside, destructive⟩
    obtain ⟨piece, there, same⟩ := List.mem_map.mp inside
    rw [← same] at destructive
    exact ⟨piece, (List.mem_filter.mp there).1, (destructive_iff _).mp (eq_of_beq destructive)⟩
  · rintro ⟨piece, inside, removes⟩
    have visible : blank piece = false := by
      by_contra white
      rw [topLevelWords_blank piece (by simpa using white)] at removes
      exact removes
    have kept : piece ∈ (splitStatements statement).filter fun piece => !blank piece :=
      List.mem_filter.mpr ⟨inside, by rw [visible]; rfl⟩
    exact ⟨Destructive.classifyStatement piece, List.mem_map.mpr ⟨piece, kept, rfl⟩,
      beq_iff_eq.mpr ((destructive_iff _).mpr removes)⟩

/-- The statement is led by a word the scan looks for, or no piece the guard cuts it into
removes data. -/
def Foreseen (statement : Text) : Prop :=
  mayBeDestructive statement = true ∨
    ∀ piece ∈ splitStatements statement, ¬ Removes (topLevelWords piece)

theorem isDestructive_eq_iff (statement : Text) :
    isDestructive statement = asks statement ↔ Foreseen statement := by
  have quiet : (∀ piece ∈ splitStatements statement, ¬ Removes (topLevelWords piece)) ↔
      asks statement = false := by
    rw [← Bool.not_eq_true, asks_iff]
    simp only [not_exists, not_and]
  rw [Foreseen, quiet, isDestructive]
  cases mayBeDestructive statement <;> simp

theorem scanStatements_destructive (failure : Option AppError) (info : SqlFileInfo)
    (statements : List SqlStatement) :
    (scanStatements failure info statements).destructive = info.destructive +
      (statements.takeWhile fun statement => !changesEscaping statement.text).countP
        (isDestructive ·.text) := by
  induction statements generalizing info with
  | nil => rfl
  | cons statement rest hypothesis =>
    rw [scanStatements]
    cases escapes : changesEscaping statement.text with
    | true => simp [escapes]
    | false =>
      rw [List.takeWhile_cons_of_pos (by rw [escapes]; rfl), List.countP_cons]
      cases destroys : isDestructive statement.text with
      | true =>
        simp only [Bool.false_eq_true, if_false, if_true, hypothesis]
        omega
      | false => simp only [Bool.false_eq_true, if_false, hypothesis, Nat.add_zero]

/-- Counts of a test and of a weaker one agree only where the tests do. -/
theorem countP_eq_iff {α : Type} {strong weak : α → Bool} (items : List α)
    (implies : ∀ item ∈ items, strong item = true → weak item = true) :
    items.countP strong = items.countP weak ↔ ∀ item ∈ items, strong item = weak item := by
  constructor
  · intro same
    induction items with
    | nil => simp
    | cons item rest hypothesis =>
      have rest_implies : ∀ other ∈ rest, strong other = true → weak other = true :=
        fun other inside => implies other (List.mem_cons_of_mem _ inside)
      have bound : rest.countP strong ≤ rest.countP weak :=
        List.countP_mono_left rest_implies
      have first := implies item List.mem_cons_self
      rw [List.countP_cons, List.countP_cons] at same
      cases held : strong item with
      | true =>
        rw [held, first held] at same
        have rest_same := hypothesis rest_implies (by simpa using same)
        simpa [held, first held] using rest_same
      | false =>
        cases weakly : weak item with
        | true =>
          rw [held, weakly] at same
          simp at same
          omega
        | false =>
          rw [held, weakly] at same
          have rest_same := hypothesis rest_implies (by simpa using same)
          simpa [held, weakly] using rest_same
  · exact fun all => List.countP_congr fun item inside => by rw [all item inside]

end DbFree.SqlImport
