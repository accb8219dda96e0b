import DbFree.SplicedValues

/- What two renderings of one template have in common. Each segment is closed by
itself, so the contexts of the template survive exactly when no token of the output
spans the end of a segment. -/
namespace DbFree.Template

open Lexing Texts SqlText

/-- The text of some segments. -/
def output (segments : List Segment) : Text := segments.flatMap Segment.text

/-- The lexer of the output is between two tokens behind `front`, in this state. -/
def StandsAt (backslash : Bool) (start : SqlState) (out front : Text) (state : SqlState) :
    Prop :=
  ∃ read later, sqlTokens backslash start out = read ++ later ∧ text read = front ∧
    (sqlLexer backslash).after start read = state

/-- Every spliced value starts and ends in the state of its placeholder. -/
def ValuesKeepState (backslash : Bool) (segments : List Segment) : Prop :=
  ∀ before segment behind, segments = before ++ segment :: behind → segment.spliced = true →
    StandsAt backslash .code (output segments) (output before) segment.state ∧
      StandsAt backslash .code (output segments) (output before ++ segment.text) segment.state

/-- The state each character of a text is read in. -/
def charStates (backslash : Bool) (start : SqlState) (out : Text) : List SqlState :=
  (sqlTokens backslash start out).flatMap fun token => token.text.map fun _ => token.kind

/-- The states of the characters copied from the template, among those of all. -/
def copiedStates : List Segment → List SqlState → List SqlState
  | [], _ => []
  | segment :: later, states =>
    (if segment.spliced then [] else states.take segment.text.length) ++
      copiedStates later (states.drop segment.text.length)

/-- At no end of a segment does its last character, read by itself, go with the
first character behind it. -/
def SegmentsApart (backslash : Bool) : List Segment → Prop
  | [] => True
  | segment :: later =>
    Apart backslash (sqlTokens backslash segment.state segment.text) (output later) ∧
      SegmentsApart backslash later

/-- The renderer's states: a segment ends in the state the next one starts in. -/
def Chained (backslash : Bool) : SqlState → List Segment → Prop
  | _, [] => True
  | state, segment :: later =>
    segment.state = state ∧
      Chained backslash (stateAfter backslash segment.state segment.text) later

/-- The tokens of the segments, each read by itself. -/
def segmentTokens (backslash : Bool) (segments : List Segment) : List SqlToken :=
  segments.flatMap fun segment => sqlTokens backslash segment.state segment.text

theorem text_segmentTokens (backslash : Bool) (segments : List Segment) :
    text (segmentTokens backslash segments) = output segments := by
  induction segments with
  | nil => rfl
  | cons segment later ih =>
    rw [segmentTokens, List.flatMap_cons, text_append, output, List.flatMap_cons]
    exact congrArg₂ _ (Lexer.text_tokens _ _ _) ih

theorem sqlTokens_segments (backslash : Bool) (segments : List Segment) (state : SqlState)
    (chained : Chained backslash state segments) (apart : SegmentsApart backslash segments) :
    sqlTokens backslash state (output segments) = segmentTokens backslash segments := by
  induction segments generalizing state with
  | nil => rfl
  | cons segment later ih =>
    obtain ⟨rfl, chainedLater⟩ := chained
    obtain ⟨here, apartLater⟩ := apart
    have alone := (sqlLexer backslash).reads_tokens segment.state segment.text
    have reads := (reads_iff_apart backslash segment.state _ (output later) alone).mpr here
    have cut := (sqlLexer backslash).tokens_of_reads segment.state _ (output later) reads
    rw [Lexer.text_tokens] at cut
    show (sqlLexer backslash).tokens segment.state (segment.text ++ output later) = _
    rw [cut]
    exact congrArg _ (ih _ chainedLater apartLater)

/-- The parts of a rendering: copied texts with the renderer's states, and values
that are closed by themselves. Two copied texts never meet. -/
structure Rendered (backslash : Bool) (segments : List Segment) : Prop where
  chained : Chained backslash .code segments
  closed : ∀ segment ∈ segments, segment.spliced = true →
    stateAfter backslash segment.state segment.text = segment.state
  alternating : segments.IsChain fun first second => first.spliced = true ∨ second.spliced = true

theorem after_segmentTokens (backslash : Bool) (before behind : List Segment)
    (segment : Segment) (state : SqlState)
    (chained : Chained backslash state (before ++ segment :: behind)) :
    (sqlLexer backslash).after state (segmentTokens backslash before) = segment.state := by
  induction before generalizing state with
  | nil => exact chained.1.symm
  | cons first before ih =>
    obtain ⟨rfl, later⟩ := chained
    rw [segmentTokens, List.flatMap_cons, Lexer.after_append]
    exact ih _ later

/-- Where no token spans the end of a segment, every value keeps its state. -/
theorem keepState_of_apart (backslash : Bool) (segments : List Segment)
    (rendered : Rendered backslash segments) (apart : SegmentsApart backslash segments) :
    ValuesKeepState backslash segments := by
  intro before segment behind shape spliced
  have tokens := sqlTokens_segments backslash segments .code rendered.chained apart
  have cut : segmentTokens backslash segments = segmentTokens backslash before ++
      (sqlTokens backslash segment.state segment.text ++ segmentTokens backslash behind) := by
    rw [shape, segmentTokens, List.flatMap_append, List.flatMap_cons]
    rfl
  have chained := rendered.chained
  rw [shape] at chained
  have reached := after_segmentTokens backslash before behind segment .code chained
  constructor
  · exact ⟨_, _, tokens.trans cut, text_segmentTokens backslash before, reached⟩
  · refine ⟨_, _, (tokens.trans cut).trans (List.append_assoc _ _ _).symm, ?_, ?_⟩
    · rw [text_append, text_segmentTokens]
      exact congrArg _ (Lexer.text_tokens _ _ _)
    · rw [Lexer.after_append, reached]
      apply rendered.closed segment _ spliced
      rw [shape]
      exact List.mem_append_right before List.mem_cons_self

/-- Of two ways to cut a lexing in two, the longer one extends the shorter one. -/
theorem extends_of_cuts (backslash : Bool) (start : SqlState) (out : Text)
    (read later read' later' : List SqlToken) (cut : sqlTokens backslash start out = read ++ later)
    (cut' : sqlTokens backslash start out = read' ++ later')
    (shorter : (text read).length ≤ (text read').length) :
    ∃ between, read' = read ++ between := by
  rcases List.append_eq_append_iff.mp (cut.symm.trans cut') with
    ⟨between, extended, -⟩ | ⟨between, extended, -⟩
  · exact ⟨between, extended⟩
  · cases between with
    | nil => exact ⟨[], by rw [extended, List.append_nil, List.append_nil]⟩
    | cons token between =>
      -- A token of the longer cut would be empty.
      have member : token ∈ sqlTokens backslash start out := by
        rw [cut, extended]
        simp
      obtain ⟨mode, rest, reads⟩ := (sqlLexer backslash).readsOne_of_mem start out token member
      have visible := List.length_pos_of_ne_nil
        ((sqlLexer backslash).text_ne_nil_of_readsOne mode token rest reads)
      rw [extended, text_append, text_cons, List.length_append, List.length_append] at shorter
      omega

/-- A segment between two places where the lexer stands is read as by itself, and
its last character goes with nothing behind it. -/
theorem apart_of_standsAt (backslash : Bool) (before later : Text) (segment : Segment)
    (start : SqlState)
    (starts : StandsAt backslash start (before ++ (segment.text ++ later)) before segment.state)
    (last : SqlState)
    (ends : StandsAt backslash start (before ++ (segment.text ++ later))
      (before ++ segment.text) last) :
    Apart backslash (sqlTokens backslash segment.state segment.text) later := by
  obtain ⟨read, behind, cut, covers, reached⟩ := starts
  obtain ⟨read', behind', cut', covers', -⟩ := ends
  obtain ⟨between, rfl⟩ := extends_of_cuts backslash start _ read behind read' behind' cut cut' (by
    rw [covers, covers', List.length_append]
    omega)
  have own : text between = segment.text := by
    rw [text_append, covers] at covers'
    exact List.append_cancel_left covers'
  obtain ⟨whole, reads, -⟩ := (sqlLexer backslash).tokens_split start _ _ _ cut'
  have rest : text behind' = later := by
    rw [covers', ← List.append_assoc] at whole
    exact (List.append_cancel_left whole).symm
  have readsHere := (((sqlLexer backslash).reads_append start read between _).mp reads).2
  rw [reached, rest] at readsHere
  have alone := reads_alone backslash segment.state between later readsHere
  have same : sqlTokens backslash segment.state segment.text = between := by
    rw [← own]
    exact ((sqlLexer backslash).tokens_text_iff segment.state between).mpr alone
  rw [same]
  exact (reads_iff_apart backslash segment.state between later alone).mp readsHere

theorem apart_nil (backslash : Bool) (read : List SqlToken) : Apart backslash read [] := by
  intro token _ c _
  exact advance_alone backslash token.kind c

/-- Where every value keeps its state, no token spans the end of a segment. -/
theorem apart_of_keepState (backslash : Bool) (segments : List Segment)
    (rendered : Rendered backslash segments) (keep : ValuesKeepState backslash segments) :
    SegmentsApart backslash segments := by
  suffices suffix : ∀ (behind before : List Segment) (state : SqlState),
      segments = before ++ behind → Chained backslash state behind →
      StandsAt backslash .code (output segments) (output before) state →
      SegmentsApart backslash behind by
    exact suffix segments [] .code rfl rendered.chained ⟨[], _, rfl, rfl, rfl⟩
  intro behind
  induction behind with
  | nil =>
    intro before state shape chained stands
    trivial
  | cons segment later ih =>
    intro before state shape chained stands
    obtain ⟨rfl, chainedLater⟩ := chained
    have out : output segments = output before ++ (segment.text ++ output later) := by
      rw [shape, output, List.flatMap_append, List.flatMap_cons]
      rfl
    have extended : output (before ++ [segment]) = output before ++ segment.text := by
      simp [output]
    have ends : later = [] ∨ StandsAt backslash .code (output segments)
        (output before ++ segment.text)
        (stateAfter backslash segment.state segment.text) := by
      cases later with
      | nil => exact Or.inl rfl
      | cons next later =>
        right
        by_cases spliced : segment.spliced = true
        · have member : segment ∈ segments := by
            rw [shape]
            exact List.mem_append_right before List.mem_cons_self
          rw [rendered.closed segment member spliced]
          exact (keep before segment (next :: later) shape spliced).2
        · -- A copied text is followed by a value, which starts where it ends.
          have chain := rendered.alternating
          rw [shape] at chain
          have adjacent := (List.isChain_cons_cons.mp chain.right_of_append).1
          have nextSpliced := adjacent.resolve_left spliced
          rw [← extended, ← chainedLater.1]
          apply (keep (before ++ [segment]) next later _ nextSpliced).1
          rw [shape, List.append_assoc]
          rfl
    rcases ends with rfl | ends
    · exact ⟨apart_nil backslash _, trivial⟩
    · refine ⟨?_, ih (before ++ [segment]) _ ?_ chainedLater ?_⟩
      · rw [out] at stands ends
        exact apart_of_standsAt backslash (output before) (output later) segment .code stands _ ends
      · rw [shape, List.append_assoc]
        rfl
      · rw [extended]
        exact ends

/-- No two texts of a template meet, and none stands in front when text was read. -/
theorem scanFrom_alternates (skip : Nat) (literal template : Text) :
    (scanFrom skip literal template).IsChain
      (fun first second => (∃ expr, first = .expr expr) ∨ ∃ expr, second = .expr expr) := by
  fun_induction scanFrom skip literal template with
  | case1 literal _ empty => exact List.IsChain.nil
  | case2 literal _ visible => exact List.isChain_singleton _
  | case3 literal skip c rest ih => exact ih
  | case4 literal c rest content found ih =>
    have behind : List.IsChain
        (fun first second => (∃ expr, first = Piece.expr expr) ∨ ∃ expr, second = .expr expr)
        (.expr content :: scanFrom (content.length + 3) [] rest) := by
      apply List.IsChain.cons ih
      intro piece _
      exact Or.inl ⟨content, rfl⟩
    by_cases empty : literal.isEmpty
    · rw [if_pos empty]
      exact behind
    · rw [if_neg empty]
      exact List.isChain_cons_cons.mpr ⟨Or.inr ⟨content, rfl⟩, behind⟩
  | case5 literal c rest unfound ih => exact ih

variable (crates : Crates) (engine : Engine)

/-- One segment for each piece: a text is copied, an expression is spliced. -/
theorem renderPieces_spec (data : Dataset) (clock : Clock) (state : SqlState)
    (pieces : List Piece) (segments : List Segment)
    (rendered : renderPieces crates engine data clock state pieces = .ok segments) :
    Chained (backslashEscapes engine) state segments ∧
      (∀ segment ∈ segments, segment.spliced = true →
        stateAfter (backslashEscapes engine) segment.state segment.text = segment.state) ∧
      List.Forall₂ (fun piece segment => segment.spliced = true ↔ ∃ expr, piece = .expr expr)
        pieces segments := by
  induction pieces generalizing state segments with
  | nil =>
    cases rendered
    exact ⟨trivial, by simp, List.Forall₂.nil⟩
  | cons piece pieces ih =>
    cases piece with
    | text text =>
      rw [renderPieces, copySqlText_eq] at rendered
      dsimp only at rendered
      split at rendered
      · cases rendered
      · rename_i later laterRendered
        cases rendered
        obtain ⟨chained, closed, same⟩ := ih _ _ laterRendered
        refine ⟨⟨rfl, chained⟩, ?_, List.Forall₂.cons (by simp) same⟩
        intro segment member spliced
        rcases List.mem_cons.mp member with rfl | inside
        · cases spliced
        · exact closed segment inside spliced
    | expr expr =>
      rw [renderPieces] at rendered
      split at rendered
      · cases rendered
      · rename_i value evaluated
        split at rendered
        · cases rendered
        · rename_i later laterRendered
          cases rendered
          obtain ⟨chained, closed, same⟩ := ih _ _ laterRendered
          have keeps := stateAfter_splice crates engine value state
          refine ⟨⟨rfl, ?_⟩, ?_, List.Forall₂.cons (by simp) same⟩
          · show Chained _ (stateAfter _ state _) later
            rw [keeps]
            exact chained
          · intro segment member spliced
            rcases List.mem_cons.mp member with rfl | inside
            · exact keeps
            · exact closed segment inside spliced

theorem rendered_of_render (data : Dataset) (clock : Clock) (template : Text)
    (segments : List Segment)
    (rendered : renderPieces crates engine data clock .code (scan template) = .ok segments) :
    Rendered (backslashEscapes engine) segments := by
  obtain ⟨chained, closed, same⟩ :=
    renderPieces_spec crates engine data clock .code (scan template) segments rendered
  refine ⟨chained, closed, ?_⟩
  have alternates := scanFrom_alternates 0 [] template
  rw [show scanFrom 0 [] template = scan template from rfl] at alternates
  clear rendered chained closed
  generalize scan template = pieces at same alternates
  induction same with
  | nil => exact List.IsChain.nil
  | cons first later ih =>
    cases later with
    | nil => exact List.isChain_singleton _
    | cons second later =>
      obtain ⟨adjacent, alternates⟩ := List.isChain_cons_cons.mp alternates
      apply List.isChain_cons_cons.mpr
      exact ⟨adjacent.imp first.mpr second.mpr, ih alternates⟩

/-- The states of the copied texts, each read by itself. -/
def ownStates (backslash : Bool) (segments : List Segment) : List SqlState :=
  segments.flatMap fun segment =>
    if segment.spliced then [] else charStates backslash segment.state segment.text

theorem length_charStates (backslash : Bool) (state : SqlState) (out : Text) :
    (charStates backslash state out).length = out.length := by
  have covers := congrArg List.length ((sqlLexer backslash).text_tokens state out)
  rw [← covers, charStates, text, List.length_flatMap, List.length_flatMap]
  simp [sqlTokens]

/-- Where no token spans the end of a segment, copied characters keep the states of
their own text. -/
theorem copiedStates_of_apart (backslash : Bool) (segments : List Segment) (state : SqlState)
    (chained : Chained backslash state segments) (apart : SegmentsApart backslash segments) :
    copiedStates segments (charStates backslash state (output segments)) =
      ownStates backslash segments := by
  induction segments generalizing state with
  | nil => rfl
  | cons segment later ih =>
    have tokens := sqlTokens_segments backslash (segment :: later) state chained apart
    have tokensLater := sqlTokens_segments backslash later _ chained.2 apart.2
    have split : charStates backslash state (output (segment :: later)) =
        charStates backslash segment.state segment.text ++
          charStates backslash (stateAfter backslash segment.state segment.text)
            (output later) := by
      rw [charStates, tokens, charStates, charStates, tokensLater, segmentTokens,
        List.flatMap_cons, List.flatMap_append]
      rfl
    have length := length_charStates backslash segment.state segment.text
    rw [split, copiedStates, List.take_left' length, List.drop_left' length,
      ih _ chained.2 apart.2]
    rfl

theorem ownStates_data_independent (data data' : Dataset) (clock clock' : Clock)
    (state : SqlState) (pieces : List Piece) (segments segments' : List Segment)
    (rendered : renderPieces crates engine data clock state pieces = .ok segments)
    (rendered' : renderPieces crates engine data' clock' state pieces = .ok segments') :
    ownStates (backslashEscapes engine) segments =
      ownStates (backslashEscapes engine) segments' := by
  induction pieces generalizing state segments segments' with
  | nil =>
    cases rendered
    cases rendered'
    rfl
  | cons piece pieces ih =>
    cases piece with
    | text text =>
      rw [renderPieces] at rendered rendered'
      dsimp only at rendered rendered'
      split at rendered
      · cases rendered
      · split at rendered'
        · cases rendered'
        · rename_i later laterRendered _ later' laterRendered'
          cases rendered
          cases rendered'
          rw [ownStates, ownStates, List.flatMap_cons, List.flatMap_cons]
          exact congrArg _ (ih _ _ _ laterRendered laterRendered')
    | expr expr =>
      rw [renderPieces] at rendered rendered'
      split at rendered
      · cases rendered
      · split at rendered
        · cases rendered
        · split at rendered'
          · cases rendered'
          · split at rendered'
            · cases rendered'
            · rename_i _ _ _ later laterRendered _ _ _ _ later' laterRendered'
              cases rendered
              cases rendered'
              rw [ownStates, ownStates, List.flatMap_cons, List.flatMap_cons]
              exact congrArg _ (ih _ _ _ laterRendered laterRendered')

theorem renderSqlAt_output (template : Text) (data : Dataset) (clock : Clock) (out : Text)
    (rendered : renderSqlAt crates template data engine clock = .ok out) :
    ∃ segments, renderPieces crates engine data clock .code (scan template) = .ok segments ∧
      out = output segments := by
  rw [renderSqlAt] at rendered
  cases pieces : renderPieces crates engine data clock .code (scan template) with
  | error error =>
    rw [pieces] at rendered
    cases rendered
  | ok segments =>
    rw [pieces] at rendered
    exact ⟨segments, rfl, (Except.ok.inj rendered).symm⟩

/-- Two renderings of a template keep its contexts exactly when in neither a token
spans the end of a copied text or of a value. -/
theorem contexts_kept_iff (template : Text) (data data' : Dataset) (clock clock' : Clock)
    (out out' : Text) (rendered : renderSqlAt crates template data engine clock = .ok out)
    (rendered' : renderSqlAt crates template data' engine clock' = .ok out') :
    ∃ segments segments',
      renderPieces crates engine data clock .code (scan template) = .ok segments ∧
      renderPieces crates engine data' clock' .code (scan template) = .ok segments' ∧
      out = output segments ∧ out' = output segments' ∧
      (ValuesKeepState (backslashEscapes engine) segments ∧
          ValuesKeepState (backslashEscapes engine) segments' ∧
          copiedStates segments (charStates (backslashEscapes engine) .code out) =
            copiedStates segments' (charStates (backslashEscapes engine) .code out') ↔
        SegmentsApart (backslashEscapes engine) segments ∧
          SegmentsApart (backslashEscapes engine) segments') := by
  obtain ⟨segments, pieces, rfl⟩ := renderSqlAt_output crates engine template data clock out rendered
  obtain ⟨segments', pieces', rfl⟩ :=
    renderSqlAt_output crates engine template data' clock' out' rendered'
  have parts := rendered_of_render crates engine data clock template segments pieces
  have parts' := rendered_of_render crates engine data' clock' template segments' pieces'
  refine ⟨segments, segments', pieces, pieces', rfl, rfl, ?_, ?_⟩
  · rintro ⟨keep, keep', -⟩
    exact ⟨apart_of_keepState _ segments parts keep, apart_of_keepState _ segments' parts' keep'⟩
  · rintro ⟨apart, apart'⟩
    refine ⟨keepState_of_apart _ segments parts apart, keepState_of_apart _ segments' parts' apart',
      ?_⟩
    rw [copiedStates_of_apart _ segments .code parts.chained apart,
      copiedStates_of_apart _ segments' .code parts'.chained apart']
    exact ownStates_data_independent crates engine data data' clock clock' .code (scan template)
      segments segments' pieces pieces'

/-- The crates of these runs, which meet ASCII names and no JSON or bytes. -/
def plainCrates : Crates where
  jsonText := fun _ => []
  jsonPretty := fun _ => []
  base64Decode := fun _ => none
  toLowercase := toAsciiLowercase

def epoch : Clock where
  now := "1970-01-01T00:00:00.000Z".toList
  today := "1970-01-01".toList
  time := "00:00:00".toList
  unix := 0

/-- One row with a number in column `x`. -/
def numberRow (number : Int) : Dataset := ⟨["x".toList], [[.int number]]⟩

theorem contexts_kept_of_spaced :
    ∃ segments segments',
      renderPieces plainCrates .postgres (numberRow (-1)) epoch .code
        (scan "SELECT - \x7b\x7bx\x7d\x7d FROM t".toList) = .ok segments ∧
      renderPieces plainCrates .postgres (numberRow 1) epoch .code
        (scan "SELECT - \x7b\x7bx\x7d\x7d FROM t".toList) = .ok segments' ∧
      "SELECT - -1 FROM t".toList = output segments ∧
      "SELECT - 1 FROM t".toList = output segments' ∧
      (ValuesKeepState false segments ∧ ValuesKeepState false segments' ∧
          copiedStates segments (charStates false .code "SELECT - -1 FROM t".toList) =
            copiedStates segments' (charStates false .code "SELECT - 1 FROM t".toList) ↔
        SegmentsApart false segments ∧ SegmentsApart false segments') :=
  contexts_kept_iff plainCrates .postgres "SELECT - \x7b\x7bx\x7d\x7d FROM t".toList
    (numberRow (-1)) (numberRow 1) epoch epoch "SELECT - -1 FROM t".toList
    "SELECT - 1 FROM t".toList rfl rfl

/-- Behind a minus sign the value -1 makes the rest of the template a comment, which
it is not for the value 1. -/
theorem negative_value_opens_comment :
    renderSqlAt plainCrates "SELECT -\x7b\x7bx\x7d\x7d FROM t".toList (numberRow (-1)) .postgres
        epoch = .ok "SELECT --1 FROM t".toList ∧
      renderSqlAt plainCrates "SELECT -\x7b\x7bx\x7d\x7d FROM t".toList (numberRow 1) .postgres
        epoch = .ok "SELECT -1 FROM t".toList ∧
      ∃ segments segments',
        renderPieces plainCrates .postgres (numberRow (-1)) epoch .code
          (scan "SELECT -\x7b\x7bx\x7d\x7d FROM t".toList) = .ok segments ∧
        renderPieces plainCrates .postgres (numberRow 1) epoch .code
          (scan "SELECT -\x7b\x7bx\x7d\x7d FROM t".toList) = .ok segments' ∧
        copiedStates segments (charStates false .code "SELECT --1 FROM t".toList) ≠
          copiedStates segments' (charStates false .code "SELECT -1 FROM t".toList) :=
  ⟨rfl, rfl, _, _, rfl, rfl, by decide +kernel⟩

end DbFree.Template
