import DbFree.Guard
import DbFree.NativeDialect
import DbFree.Utf16

/- Where the statements of a text stand, in the positions the editor counts
(`spans` of guard/dialect.rs and guard/destructive.rs), and the statements a batch cuts
from its script (`plan_statements` of services/query.rs). -/
namespace DbFree

open Chars Texts Destructive
open Browser (codeUnits)
open Utf16 (utf16At sliceUnits fromUtf16Lossy)

/-- A statement of a text in UTF-16 units, `stop` being the source's `end`, with what
running it would mean. -/
structure StatementSpan where
  start : Nat
  stop : Nat
  intent : StatementKind
deriving DecidableEq

/-- A range of characters without the white space at its ends. -/
def innerRange (chars : Text) (range : Nat × Nat) : Nat × Nat :=
  let start := range.1 + ((slice chars range).takeWhile isWhitespace).length
  (start, start + (trim (slice chars range)).length)

/-- The span of a range, none when it is blank. -/
def spanOf (chars : Text) (intentOf : Nat × Nat → StatementKind) (range : Nat × Nat) :
    Option StatementSpan :=
  let inner := innerRange chars range
  if inner.1 = inner.2 then none
  else some ⟨utf16At chars inner.1, utf16At chars inner.2, intentOf inner⟩

/-- A shell command is answered from the catalog and never writes. -/
def Destructive.spanIntent (chars : Text) (inner : Nat × Nat) : StatementKind :=
  match chars.drop inner.1 with
  | c :: rest =>
    if startsShellCommand c rest.head? then .read
    else (classifyWords (topLevelWords (slice chars inner))).1
  | [] => (classifyWords (topLevelWords (slice chars inner))).1

def Destructive.spans (sql : Text) : List StatementSpan :=
  (scan sql).filterMap (spanOf sql (spanIntent sql))

def GuardDialect.spans (reader : JsonReader) (engine : Engine) (text : Text) :
    List StatementSpan :=
  if dialectOf engine = .sql then Destructive.spans text
  else
    (ranges (dialectOf engine) text).filterMap (spanOf text fun inner =>
      (classifyOne reader engine (dialectOf engine) (slice text inner)).1)

/-- One statement cut out of a script. -/
structure Planned where
  start : Nat
  stop : Nat
  text : Text
  intent : StatementKind
deriving DecidableEq

/-- `units.get(start..end)`. -/
def getRange (units : List Nat) (start stop : Nat) : Option (List Nat) :=
  if start ≤ stop ∧ stop ≤ units.length then some (sliceUnits units start stop) else none

/-- The statement at a span of a script. -/
def plannedAt (sql : Text) (span : StatementSpan) : Option Planned :=
  (getRange (codeUnits sql) span.start span.stop).map fun units =>
    ⟨span.start, span.stop, fromUtf16Lossy units, span.intent⟩

/-- The statements of a script, each with where it sits in the text; the trimmed text as
one statement where the engine's script is not split. -/
def planStatements (sql : Text) (split : Bool) : List Planned :=
  if split then (Destructive.spans sql).filterMap (plannedAt sql)
  else if (trim sql).isEmpty then []
  else
    let start := (codeUnits (sql.takeWhile isWhitespace)).length
    [⟨start, start + (codeUnits (trim sql)).length, trim sql, Guard.verdict (trim sql)⟩]

/-- The statements that the splitter of an engine cuts from a script. -/
def cutStatements (reader : JsonReader) (engine : Engine) (script : Text) : List Planned :=
  (GuardDialect.spans reader engine script).filterMap (plannedAt script)

/-- Where SQL is split, a batch runs what the splitter of its engine cuts. -/
theorem planStatements_eq (reader : JsonReader) (engine : Engine) (script : Text)
    (sql : GuardDialect.dialectOf engine = .sql) :
    planStatements script true = cutStatements reader engine script := by
  rw [planStatements, if_pos rfl, cutStatements, GuardDialect.spans, if_pos sql]

/-- The ranges of characters that the splitter of an engine cuts a text into. -/
def cutRanges (engine : Engine) (text : Text) : List (Nat × Nat) :=
  if GuardDialect.dialectOf engine = .sql then scan text
  else GuardDialect.ranges (GuardDialect.dialectOf engine) text

/-- The texts of ranges, trimmed and without the blank ones. -/
def rangeTexts (chars : Text) (found : List (Nat × Nat)) : List Text :=
  (found.map fun range => trim (slice chars range)).filter fun text => !text.isEmpty

/-- The statements that an engine's splitter cuts from a text, as texts. -/
def cutTexts (engine : Engine) (text : Text) : List Text := rangeTexts text (cutRanges engine text)

theorem spans_eq (reader : JsonReader) (engine : Engine) (text : Text) :
    ∃ intentOf, GuardDialect.spans reader engine text =
      (cutRanges engine text).filterMap (spanOf text intentOf) := by
  unfold GuardDialect.spans cutRanges
  split
  · exact ⟨_, rfl⟩
  · exact ⟨_, rfl⟩

theorem trim_append_parts (text : Text) :
    ∃ back, text = text.takeWhile isWhitespace ++ trim text ++ back ∧
      ∀ c ∈ back, isWhitespace c = true := by
  refine ⟨(trimStart text).rtakeWhile isWhitespace, ?_, fun c => List.mem_rtakeWhile_imp⟩
  have back : trimEnd (trimStart text) ++ (trimStart text).rtakeWhile isWhitespace =
      trimStart text := by
    rw [trimEnd, List.rdropWhile, List.rtakeWhile, ← List.reverse_append,
      List.takeWhile_append_dropWhile, List.reverse_reverse]
  rw [List.append_assoc, trim, back, trimStart, List.takeWhile_append_dropWhile]

theorem slice_innerRange (chars : Text) (range : Nat × Nat) :
    slice chars (innerRange chars range) = trim (slice chars range) := by
  obtain ⟨back, parts, -⟩ := trim_append_parts (slice chars range)
  have behind : slice chars range = (chars.drop range.1).take (range.2 - range.1) := by
    rw [slice, List.drop_take]
  obtain ⟨tail, whole⟩ : ∃ tail, chars.drop range.1 =
      (slice chars range).takeWhile isWhitespace ++ (trim (slice chars range) ++ (back ++ tail)) := by
    refine ⟨(chars.drop range.1).drop (range.2 - range.1), ?_⟩
    rw [← List.append_assoc, ← List.append_assoc, ← parts, behind, List.take_append_drop]
  show (chars.take (innerRange chars range).2).drop (innerRange chars range).1 = _
  simp only [innerRange]
  rw [List.drop_take, Nat.add_sub_cancel_left, ← List.drop_drop, whole, List.drop_left,
    List.take_left]

/-- The text of a span, cut out of the units of the whole text. -/
theorem plannedAt_spanOf (chars : Text) (intentOf : Nat × Nat → StatementKind)
    (range : Nat × Nat) :
    ((spanOf chars intentOf range).bind (plannedAt chars)).map Planned.text =
      if (trim (slice chars range)).isEmpty then none else some (trim (slice chars range)) := by
  by_cases empty : trim (slice chars range) = []
  · simp [spanOf, innerRange, empty]
  · have apart : (innerRange chars range).1 ≠ (innerRange chars range).2 := by
      have long := List.length_pos_iff.mpr empty
      simp only [innerRange]
      omega
    have inOrder : (innerRange chars range).1 ≤ (innerRange chars range).2 := by
      simp only [innerRange]
      omega
    have prefixes : chars.take (innerRange chars range).1 <+:
        chars.take (innerRange chars range).2 := List.take_prefix_take_left inOrder
    have inside : utf16At chars (innerRange chars range).1 ≤
        utf16At chars (innerRange chars range).2 := by
      obtain ⟨later, whole⟩ := prefixes
      rw [Utf16.utf16At_eq, Utf16.utf16At_eq, ← whole, Utf16.codeUnits_append, List.length_append]
      exact Nat.le_add_right _ _
    have within : utf16At chars (innerRange chars range).2 ≤ (codeUnits chars).length := by
      conv => rhs; rw [← List.take_append_drop (innerRange chars range).2 chars]
      rw [Utf16.utf16At_eq, Utf16.codeUnits_append, List.length_append]
      exact Nat.le_add_right _ _
    have text := Utf16.sliceUnits_codeUnits chars _ _ inOrder
    have cut := slice_innerRange chars range
    rw [slice] at cut
    simp only [spanOf, if_neg apart, Option.bind_some, plannedAt, getRange, inside, within,
      and_self, if_true, Option.map_some, text, cut, Utf16.fromUtf16Lossy_codeUnits]
    simp [empty]

theorem cutStatements_texts (reader : JsonReader) (engine : Engine) (script : Text) :
    (cutStatements reader engine script).map Planned.text = cutTexts engine script := by
  obtain ⟨intentOf, found⟩ := spans_eq reader engine script
  rw [cutStatements, found, cutTexts, List.filterMap_filterMap, rangeTexts]
  induction cutRanges engine script with
  | nil => rfl
  | cons range later ih =>
    have first := plannedAt_spanOf script intentOf range
    rw [List.filterMap_cons, List.map_cons, List.filter_cons, ← ih]
    by_cases empty : (trim (slice script range)).isEmpty = true
    · rw [if_pos empty, Option.map_eq_none_iff] at first
      rw [first, empty]
      rfl
    · rw [if_neg empty, Option.map_eq_some_iff] at first
      obtain ⟨planned, cut, text⟩ := first
      rw [cut, if_pos (by simpa using empty), List.map_cons, text]

end DbFree
