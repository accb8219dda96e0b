import DbFree.FailClosed
import DbFree.StreamCuts

/- A run of several statements runs these statements exactly when the splitter of the engine
cuts the joined script where the editor joined it. -/
namespace DbFree.RunTargets

open Destructive GuardDialect
open Texts hiding lines
open Browser (codeUnits)
open Utf16 (utf16At sliceUnits fromUtf16Lossy)

/-- The text of a piece of the editor. -/
def pieceText (doc : Text) (piece : Range) : Text :=
  fromUtf16Lossy (sliceUnits (codeUnits doc) piece.start piece.stop)

/-- The script a target sends. -/
def scriptOf (doc : Text) (target : RunTarget) : Text :=
  fromUtf16Lossy (joinScript (codeUnits doc) target.pieces)

/-- The block cuts exactly the picked pieces from the script, one each, in text order; and
an offset inside a piece of the script is taken back to the same character of the editor. -/
structure RunsPicked (reader : JsonReader) (engine : Engine) (doc : Text) (target : RunTarget) :
    Prop where
  statements : (cutStatements reader engine (scriptOf doc target)).map Planned.text =
    target.pieces.map (pieceText doc)
  inOrder : target.pieces.Sublist
    ((GuardDialect.spans reader engine doc).map fun span => ⟨span.start, span.stop⟩)
  offsets : ∀ before piece later j, target.pieces = before ++ piece :: later →
    j < piece.stop - piece.start →
      scriptOffsetToDoc target.pieces (scriptStart before + j) = piece.start + j ∧
        (joinScript (codeUnits doc) target.pieces)[scriptStart before + j]? =
          (codeUnits doc)[piece.start + j]?

/-- The splitter of the engine cuts the pieces apart again where `;` and a line feed join
them. In SQL a piece must be closed by the `;` behind it; the pieces of Cypher, whose ranges
slip behind a shell command, must moreover be single statements; and no other language
separates its statements by `;`. -/
def PicksApart (engine : Engine) (pieces : List Text) : Prop :=
  if dialectOf engine = .sql then ∀ piece ∈ pieces.dropLast, Closes piece
  else if dialectOf engine = .cypher then
    (∀ piece ∈ pieces, OneStatement piece) ∧ ∀ piece ∈ pieces.dropLast, Closes piece
  else pieces.length ≤ 1

instance (engine : Engine) (pieces : List Text) : Decidable (PicksApart engine pieces) :=
  inferInstanceAs (Decidable (
    if dialectOf engine = .sql then ∀ piece ∈ pieces.dropLast, Closes piece
    else if dialectOf engine = .cypher then
      (∀ piece ∈ pieces, OneStatement piece) ∧ ∀ piece ∈ pieces.dropLast, Closes piece
    else pieces.length ≤ 1))

theorem codeUnits_intercalate (pieces : List Text) :
    SEPARATOR.intercalate (pieces.map codeUnits) = codeUnits ([';', '\n'].intercalate pieces) := by
  have separator : codeUnits [';', '\n'] = SEPARATOR := by decide
  induction pieces with
  | nil => rfl
  | cons piece later ih =>
    cases later with
    | nil => simp
    | cons next later =>
      rw [List.map_cons, List.map_cons, List.intercalate_cons_cons, ← List.map_cons, ih,
        List.intercalate_cons_cons, Utf16.codeUnits_append, Utf16.codeUnits_append, separator]

theorem sliceUnits_get (units : List Nat) (piece : Range) (j : Nat)
    (inside : j < piece.stop - piece.start) :
    (sliceUnits units piece.start piece.stop)[j]? = units[piece.start + j]? := by
  rw [sliceUnits, List.getElem?_drop, List.getElem?_take_of_lt (by omega)]

/-- The units of a piece stand in the script where `scriptStart` says. -/
theorem joinScript_get (units : List Nat) (before later : List Range) (piece : Range) (j : Nat)
    (bounds : ∀ other ∈ before ++ piece :: later, other.stop ≤ units.length)
    (inside : j < piece.stop - piece.start) :
    (joinScript units (before ++ piece :: later))[scriptStart before + j]? =
      units[piece.start + j]? := by
  have size : ∀ other ∈ before ++ piece :: later,
      (sliceUnits units other.start other.stop).length = other.stop - other.start := by
    intro other member
    rw [sliceUnits, List.length_drop, List.length_take, Nat.min_eq_left (bounds other member)]
  induction before with
  | nil =>
    have own := size piece (by simp)
    have start : scriptStart ([] : List Range) + j = j := Nat.zero_add j
    rw [← sliceUnits_get units piece j inside, start, joinScript, List.nil_append, List.map_cons]
    cases later with
    | nil => rw [List.map_nil, List.intercalate_singleton]
    | cons next later =>
      rw [List.map_cons, List.intercalate_cons_cons, List.append_assoc,
        List.getElem?_append_left (by rw [own]; exact inside)]
  | cons first before ih =>
    have rest := ih (fun other member => bounds other (List.mem_cons_of_mem first member))
      (fun other member => size other (List.mem_cons_of_mem first member))
    have own := size first (by simp)
    have start : scriptStart (first :: before) + j =
        (sliceUnits units first.start first.stop ++ SEPARATOR).length + (scriptStart before + j) := by
      rw [List.length_append, own]
      simp only [scriptStart, List.map_cons, List.sum_cons]
      omega
    have filled : (before ++ piece :: later).map (fun p => sliceUnits units p.start p.stop) ≠ [] := by
      simp
    rw [start, List.cons_append, joinScript, List.map_cons,
      List.intercalate_cons_of_ne_nil filled, List.getElem?_append_right (Nat.le_add_right _ _),
      Nat.add_sub_cancel_left]
    exact rest

section Spans

variable (reader : JsonReader) (engine : Engine) (doc : Text)

theorem innerRange_bound (range : Nat × Nat) (filled : trim (slice doc range) ≠ []) :
    (innerRange doc range).2 ≤ doc.length := by
  have cut := congrArg List.length (slice_innerRange doc range)
  have positive := List.length_pos_iff.mpr filled
  rw [slice, List.length_drop, List.length_take] at cut
  have shape : (innerRange doc range).2 = (innerRange doc range).1 +
      (trim (slice doc range)).length := rfl
  omega

/-- A span holds the units of a statement that the splitter cuts. -/
theorem span_text (span : StatementSpan) (member : span ∈ GuardDialect.spans reader engine doc) :
    ∃ text ∈ cutTexts engine doc, sliceUnits (codeUnits doc) span.start span.stop = codeUnits text ∧
      span.stop ≤ (codeUnits doc).length ∧ span.start ≤ span.stop := by
  obtain ⟨intentOf, found⟩ := spans_eq reader engine doc
  rw [found, List.mem_filterMap] at member
  obtain ⟨range, inRanges, cut⟩ := member
  simp only [spanOf] at cut
  split at cut
  · cases cut
  · rename_i apart
    obtain rfl := Option.some.inj cut
    have filled : trim (slice doc range) ≠ [] := by
      intro empty
      apply apart
      simp [innerRange, empty]
    have inOrder : (innerRange doc range).1 ≤ (innerRange doc range).2 := Nat.le_add_right _ _
    have bound := innerRange_bound doc range filled
    have text := Utf16.sliceUnits_codeUnits doc _ _ inOrder
    have inner := slice_innerRange doc range
    rw [slice] at inner
    refine ⟨trim (slice doc range), ?_, by rw [text, inner], ?_, ?_⟩
    · rw [cutTexts, rangeTexts, List.mem_filter]
      exact ⟨List.mem_map_of_mem inRanges, by simpa using filled⟩
    · show utf16At doc (innerRange doc range).2 ≤ _
      conv => rhs; rw [← List.take_append_drop (innerRange doc range).2 doc]
      rw [Utf16.utf16At_eq, Utf16.codeUnits_append, List.length_append]
      exact Nat.le_add_right _ _
    · show utf16At doc (innerRange doc range).1 ≤ utf16At doc (innerRange doc range).2
      obtain ⟨later, whole⟩ := List.take_prefix_take_left (l := doc) inOrder
      rw [Utf16.utf16At_eq, Utf16.utf16At_eq, ← whole, Utf16.codeUnits_append, List.length_append]
      exact Nat.le_add_right _ _

theorem piece_of_cut (text : Text) (member : text ∈ cutTexts engine doc) : Piece text := by
  rw [cutTexts, rangeTexts, List.mem_filter, List.mem_map] at member
  obtain ⟨⟨range, -, rfl⟩, visible⟩ := member
  exact ⟨trim_trim _, by simpa using visible⟩

end Spans

section Cuts

variable (engine : Engine) (doc : Text) (pieces : List Text)
  (cut : ∀ piece ∈ pieces, piece ∈ cutTexts engine doc)

include cut

theorem cut_sql_iff (sql : dialectOf engine = .sql) :
    cutTexts engine ([';', '\n'].intercalate pieces) = pieces ↔
      ∀ piece ∈ pieces.dropLast, Closes piece := by
  have own : ∀ piece ∈ pieces, Piece piece :=
    fun piece member => piece_of_cut engine doc piece (cut piece member)
  have single : ∀ piece ∈ pieces, OneStatement piece := by
    intro piece member
    have inDoc := cut piece member
    rw [cutTexts, cutRanges, if_pos sql, rangeTexts_scan, visibleTexts, List.mem_filter,
      List.mem_map] at inDoc
    obtain ⟨⟨statement, inStatements, rfl⟩, -⟩ := inDoc
    rw [splitStatements_eq, List.mem_map] at inStatements
    obtain ⟨tokens, found, rfl⟩ := inStatements
    obtain ⟨run, ending, split, inside, ends⟩ :=
      statementTokens_shape [] (scanTokens doc) (by simp) tokens found
    refine oneStatement_trim _ ((oneStatement_iff _).mpr ⟨run, ending, ?_, inside, ends⟩)
    rw [statement_tokens doc tokens found, split]
  have joined := cut_joined_iff cutsFronts_scan pieces own
  rw [cutTexts, cutRanges, if_pos sql]
  exact joined.trans ⟨And.right, fun closed => ⟨single, closed⟩⟩

theorem cut_cypher_iff (cypher : dialectOf engine = .cypher) :
    cutTexts engine ([';', '\n'].intercalate pieces) = pieces ↔
      (∀ piece ∈ pieces, OneStatement piece) ∧ ∀ piece ∈ pieces.dropLast, Closes piece := by
  have other : ¬dialectOf engine = .sql := by rw [cypher]; decide
  rw [cutTexts, cutRanges, if_neg other, cypher]
  exact cut_joined_iff cutsFronts_lookup pieces
    fun piece member => piece_of_cut engine doc piece (cut piece member)

/-- In the other languages one statement is cut as itself, and several never come apart. -/
theorem cut_other_iff (sql : dialectOf engine ≠ .sql) (cypher : dialectOf engine ≠ .cypher)
    (few : dialectOf engine = .whole → pieces.length ≤ 1) (filled : pieces ≠ []) :
    cutTexts engine ([';', '\n'].intercalate pieces) = pieces ↔ pieces.length ≤ 1 := by
  have own : ∀ piece ∈ pieces, Piece piece :=
    fun piece member => piece_of_cut engine doc piece (cut piece member)
  simp only [cutTexts, cutRanges, if_neg sql] at cut ⊢
  obtain ⟨first, later, rfl⟩ := List.exists_cons_of_ne_nil filled
  have firstCut := cut first List.mem_cons_self
  have firstOwn := own first List.mem_cons_self
  cases grouping : lineGrouping (dialectOf engine) with
  | some found =>
    obtain ⟨opens, groups⟩ := found
    have laws := lineGrouping_groups _ opens groups grouping
    simp only [rangeTexts_groups _ opens groups grouping] at firstCut ⊢
    obtain ⟨alone, line, others, shape, opened⟩ := groupTexts_alone laws doc first firstCut
    cases later with
    | nil => simp [alone]
    | cons next later =>
      have joined := groupTexts_joined laws first ([';', '\n'].intercalate (next :: later)) firstOwn
        line others shape opened
      rw [List.intercalate_cons_cons, List.append_assoc, List.cons_append, List.cons_append,
        List.nil_append]
      constructor
      · intro same
        rw [same] at joined
        exact absurd rfl joined
      · intro short
        simp at short
  | none =>
    cases dialect : dialectOf engine with
    | sql => exact absurd dialect sql
    | cypher => exact absurd dialect cypher
    | stream =>
      rw [dialect] at cut
      cases later with
      | nil =>
        obtain ⟨c, rest, stream⟩ := streamPiece_of_mem doc first (cut first List.mem_cons_self)
        rw [List.intercalate_singleton]
        exact ⟨fun _ => Nat.le_refl 1, fun _ => streamTexts_alone stream⟩
      | cons next later =>
        have joined := streamTexts_joined first next later
          fun piece member => streamPiece_of_mem doc piece (cut piece member)
        constructor
        · intro same
          exact absurd same joined
        · intro short
          simp at short
    | whole =>
      have short := few dialect
      have lone : later = [] := by
        rw [List.length_cons] at short
        exact List.length_eq_zero_iff.mp (by omega)
      rw [lone, List.intercalate_singleton]
      refine ⟨fun _ => Nat.le_refl 1, fun _ => ?_⟩
      rw [ranges, firstOwn.blank_eq, if_neg Bool.false_ne_true, rangeTexts_cons]
      have all : slice first (0, first.length) = first := by
        rw [slice, List.drop_zero, List.take_length]
      rw [all, firstOwn.blank_eq, if_neg Bool.false_ne_true, firstOwn.trimmed]
      rfl
    | redis => rw [dialect] at grouping; cases grouping
    | mongo => rw [dialect] at grouping; cases grouping
    | memcached => rw [dialect] at grouping; cases grouping
    | lines => rw [dialect] at grouping; cases grouping
    | blocks => rw [dialect] at grouping; cases grouping
    | console => rw [dialect] at grouping; cases grouping

end Cuts

section Runs

variable (reader : JsonReader) (engine : Engine) (doc : Text) (selections : List Range)
  (scope : RunScope)

/-- The target of a run over the statements the editor was given for its text. -/
def runTarget : RunTarget :=
  planRun (GuardDialect.spans reader engine doc) selections (codeUnits doc).length scope

theorem runTarget_pieces (picks : (runTarget reader engine doc selections scope).PicksStatements) :
    (runTarget reader engine doc selections scope).pieces ≠ [] ∧
      (runTarget reader engine doc selections scope).pieces.Sublist
        ((GuardDialect.spans reader engine doc).map fun span => ⟨span.start, span.stop⟩) := by
  obtain ⟨filled, sub⟩ := planRun_picks _ selections (codeUnits doc).length scope picks
  refine ⟨filled, ?_⟩
  have inside : (GuardDialect.spans reader engine doc).map
      (fun s => clamp ⟨s.start, s.stop⟩ (codeUnits doc).length) =
      (GuardDialect.spans reader engine doc).map fun span => ⟨span.start, span.stop⟩ := by
    refine List.map_congr_left ?_
    intro span member
    obtain ⟨-, -, -, bound, inOrder⟩ := span_text reader engine doc span member
    simp only [clamp, Range.mk.injEq]
    omega
  rwa [inside] at sub

theorem whole_few (whole : dialectOf engine = .whole) :
    (GuardDialect.spans reader engine doc).length ≤ 1 := by
  have other : ¬dialectOf engine = .sql := by rw [whole]; decide
  obtain ⟨intentOf, found⟩ := spans_eq reader engine doc
  rw [found, cutRanges, if_neg other, whole, ranges]
  refine (List.length_filterMap_le _ _).trans ?_
  split
  · exact Nat.zero_le 1
  · exact Nat.le_refl 1

/-- Picked statements run exactly as picked when their engine's splitter cuts them apart. -/
theorem picked_run_iff (picks : (runTarget reader engine doc selections scope).PicksStatements) :
    RunsPicked reader engine doc (runTarget reader engine doc selections scope) ↔
      PicksApart engine
        ((runTarget reader engine doc selections scope).pieces.map (pieceText doc)) := by
  obtain ⟨filled, sub⟩ := runTarget_pieces reader engine doc selections scope picks
  generalize runTarget reader engine doc selections scope = target at filled sub ⊢
  have each : ∀ piece ∈ target.pieces, pieceText doc piece ∈ cutTexts engine doc ∧
      sliceUnits (codeUnits doc) piece.start piece.stop = codeUnits (pieceText doc piece) ∧
      piece.stop ≤ (codeUnits doc).length := by
    intro piece member
    obtain ⟨span, inSpans, rfl⟩ := List.mem_map.mp (sub.subset member)
    obtain ⟨text, inCut, units, bound, -⟩ := span_text reader engine doc span inSpans
    have same : pieceText doc ⟨span.start, span.stop⟩ = text := by
      rw [pieceText, units, Utf16.fromUtf16Lossy_codeUnits]
    rw [same]
    exact ⟨inCut, units, bound⟩
  have script : scriptOf doc target = [';', '\n'].intercalate (target.pieces.map (pieceText doc)) := by
    have units : target.pieces.map (fun p => sliceUnits (codeUnits doc) p.start p.stop) =
        (target.pieces.map (pieceText doc)).map codeUnits := by
      rw [List.map_map]
      exact List.map_congr_left fun piece member => (each piece member).2.1
    rw [scriptOf, joinScript, units, codeUnits_intercalate, Utf16.fromUtf16Lossy_codeUnits]
  have cut : ∀ text ∈ target.pieces.map (pieceText doc), text ∈ cutTexts engine doc := by
    intro text member
    obtain ⟨piece, inPieces, rfl⟩ := List.mem_map.mp member
    exact (each piece inPieces).1
  have apart : cutTexts engine (scriptOf doc target) = target.pieces.map (pieceText doc) ↔
      PicksApart engine (target.pieces.map (pieceText doc)) := by
    rw [script, PicksApart]
    split
    · exact cut_sql_iff engine doc _ cut ‹_›
    · split
      · exact cut_cypher_iff engine doc _ cut ‹_›
      · refine cut_other_iff engine doc _ cut ‹_› ‹_› ?_ (by simpa using filled)
        intro whole
        have few := whole_few reader engine doc whole
        have fewer := sub.length_le
        rw [List.length_map] at fewer ⊢
        omega
  rw [← apart, ← cutStatements_texts reader engine (scriptOf doc target)]
  refine ⟨RunsPicked.statements, fun same => ⟨same, sub, ?_⟩⟩
  intro before piece later j shape inside
  rw [shape]
  refine ⟨scriptOffsetToDoc_inside before later piece j (Nat.le_of_lt inside), ?_⟩
  refine joinScript_get (codeUnits doc) before later piece j ?_ inside
  intro other member
  exact (each other (by rw [shape]; exact member)).2.2

theorem two_carets_target :
    runTarget noJson .postgres "SELECT 1 ;\n\nSELECT 'x;y'".toList [⟨3, 3⟩, ⟨14, 14⟩] .all =
      ⟨.several, [⟨0, 8⟩, ⟨12, 24⟩], 2, 0, 2⟩ := by
  have picked : (([⟨3, 3⟩, ⟨14, 14⟩] : List Range).map fun range => clamp range
      (codeUnits "SELECT 1 ;\n\nSELECT 'x;y'".toList).length).flatMap
        (touched ((GuardDialect.spans noJson .postgres "SELECT 1 ;\n\nSELECT 'x;y'".toList).map
          fun s => clamp ⟨s.start, s.stop⟩
            (codeUnits "SELECT 1 ;\n\nSELECT 'x;y'".toList).length)) = [0, 1] := by
    decide +kernel
  simp only [runTarget, planRun]
  rw [picked, sorted_of_increasing _ (by decide)]
  decide +kernel

/-- Two carets in two statements of a script. -/
theorem two_carets_run :
    RunsPicked noJson .postgres "SELECT 1 ;\n\nSELECT 'x;y'".toList
      (runTarget noJson .postgres "SELECT 1 ;\n\nSELECT 'x;y'".toList [⟨3, 3⟩, ⟨14, 14⟩] .all) :=
  (picked_run_iff noJson .postgres _ _ _ (by rw [two_carets_target]; decide)).mpr
    (by rw [two_carets_target]; decide +kernel)

theorem commented_target :
    runTarget noJson .postgres "SELECT 1 -- one\n; SELECT 2".toList [⟨0, 0⟩, ⟨20, 20⟩] .all =
      ⟨.several, [⟨0, 15⟩, ⟨18, 26⟩], 2, 0, 2⟩ := by
  have picked : (([⟨0, 0⟩, ⟨20, 20⟩] : List Range).map fun range => clamp range
      (codeUnits "SELECT 1 -- one\n; SELECT 2".toList).length).flatMap
        (touched ((GuardDialect.spans noJson .postgres "SELECT 1 -- one\n; SELECT 2".toList).map
          fun s => clamp ⟨s.start, s.stop⟩
            (codeUnits "SELECT 1 -- one\n; SELECT 2".toList).length)) = [0, 1] := by
    decide +kernel
  simp only [runTarget, planRun]
  rw [picked, sorted_of_increasing _ (by decide)]
  decide +kernel

/-- A statement that ends in a line comment takes the `;` behind it, and the next statement,
into the comment. -/
theorem comment_swallows_separator :
    ¬∀ (reader : JsonReader) (engine : Engine) (doc : Text) (selections : List Range)
      (scope : RunScope), (runTarget reader engine doc selections scope).PicksStatements →
        RunsPicked reader engine doc (runTarget reader engine doc selections scope) := by
  intro all
  have run := all noJson .postgres "SELECT 1 -- one\n; SELECT 2".toList [⟨0, 0⟩, ⟨20, 20⟩] .all
    (by rw [commented_target]; decide)
  rw [commented_target] at run
  have apart : (cutStatements noJson .postgres (scriptOf "SELECT 1 -- one\n; SELECT 2".toList
      ⟨.several, [⟨0, 15⟩, ⟨18, 26⟩], 2, 0, 2⟩)).map Planned.text ≠
      ([⟨0, 15⟩, ⟨18, 26⟩] : List Range).map (pieceText "SELECT 1 -- one\n; SELECT 2".toList) := by
    decide +kernel
  exact apart run.statements

end Runs

end DbFree.RunTargets
