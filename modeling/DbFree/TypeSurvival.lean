import DbFree.TypeRoundTrip

/- Types survive the form: what is written of a type that was read is read the same again. -/
namespace DbFree.Ddl

open Texts

section Whole

variable {dialect : Dialect} {column : ColumnSpec} {reported : Bool}

/-- The wrappers of a type, and what stands in them without the attributes behind it. -/
def readAs (dialect : Dialect) (text : Text) : Option (List Text × Text) :=
  match dialect with
  | .clickhouse => layersOf text.length text
  | .mysql => some ([], (stripAttributes text.length text).1)
  | _ => some ([], text)

/-- A type written again says what it said: it is as it was, or its wrappers are, and what stands
in them is restated. -/
def TypeKept (dialect : Dialect) (raw written : Text) : Prop :=
  written = raw ∨ ∃ layers text text', readAs dialect raw = some (layers, text) ∧
    readAs dialect written = some (layers, text') ∧ Restated dialect text text'

/-- A column with nothing filled in. -/
def blankColumn : ColumnSpec :=
  { name := [], originalName := none, dataType := [], length := none, precision := none,
    scale := none, wrapper := none, enumValues := [], nullable := true, primaryKey := false,
    unique := false, uniqueName := none, autoIncrement := false, unsigned := false,
    default := .none }

theorem parseArgs_signed {parsed : ParsedType} {text args : Text} (signed : parsed.unsigned = false) :
    (parseArgs dialect parsed text args).unsigned = false := by
  by_cases labelled : Labelled dialect parsed
  · rw [parseArgs_labelled dialect parsed text args labelled]
    cases enumLabels args with
    | none => rfl
    | some labels => exact signed
  · rw [parseArgs_numbers dialect parsed text args labelled]
    cases numbers args dialect with
    | none => exact signed
    | some values =>
      rw [Option.elim_some]
      unfold withNumbers
      split
      · split
        · exact signed
        · exact signed
      · split
        · split
          · exact signed
          · exact signed
        · exact signed
        · rfl

theorem parseInner_signed {raw text : Text} {parsed : ParsedType} (signed : parsed.unsigned = false) :
    (parseInner dialect raw parsed text).unsigned = false := by
  cases parseInner_cases dialect raw text with
  | inl array =>
    rw [parseInner_array dialect array]
    exact signed
  | inr rest =>
    cases rest with
    | inl named =>
      rw [parseInner_name dialect named.1 named.2]
      exact signed
    | inr rest =>
      cases rest with
      | inl verbatim =>
        rw [verbatim.2.2]
        rfl
      | inr found =>
        have ⟨start, args, after, spelled, applied⟩ := found
        rw [parseInner_applied dialect applied]
        exact parseArgs_signed signed

/-- What an accepted column is written as. -/
theorem renderType_ok {written : Text} (rendered : renderType dialect column = .ok written) :
    trim column.dataType ≠ [] ∧ (column.wrapper = none ∨ dialect = .clickhouse) ∧
      ∃ params, writtenParams dialect column (trim column.dataType) = .ok params ∧
        (if dialect = .clickhouse then
          wrapType column (placeParams dialect (trim column.dataType) params)
        else .ok (placeParams dialect (trim column.dataType) params ++
          (if dialect = .mysql ∧ column.unsigned = true then " UNSIGNED".toList else []))) =
          .ok written := by
  unfold renderType at rendered
  dsimp only at rendered
  split at rendered
  · cases rendered
  · next filled =>
    split at rendered
    · cases rendered
    · next unwrapped =>
      refine ⟨filled, ?_, ?_⟩
      · by_cases clickhouse : dialect = .clickhouse
        · exact Or.inr clickhouse
        · left
          apply Classical.byContradiction
          intro wrapped
          exact unwrapped ⟨wrapped, clickhouse⟩
      · cases isParams : writtenParams dialect column (trim column.dataType) with
        | error wrong =>
          rw [isParams] at rendered
          cases rendered
        | ok params =>
          refine ⟨params, rfl, ?_⟩
          rw [isParams] at rendered
          by_cases clickhouse : dialect = .clickhouse
          · subst clickhouse
            have shape : wrapType column (placeParams .clickhouse (trim column.dataType) params ++ []) =
              .ok written := rendered
            rw [List.append_nil] at shape
            exact shape
          · have shape : (if dialect = .clickhouse then _ else _) = Except.ok written := rendered
            rw [if_neg clickhouse] at shape ⊢
            exact shape

theorem wrapType_ok {inner written : Text} (wrapped : wrapType column inner = .ok written) :
    written = layered (layersNamed column.wrapper column.nullable) inner := by
  unfold wrapType at wrapped
  dsimp only at wrapped
  unfold layersNamed layered
  cases isWrapper : column.wrapper with
  | none =>
    rw [isWrapper] at wrapped
    have same := Except.ok.inj wrapped
    cases isNullable : column.nullable with
    | false =>
      rw [isNullable] at same
      exact same.symm
    | true =>
      rw [isNullable] at same
      exact same.symm
  | some wrapper =>
    rw [isWrapper] at wrapped
    dsimp only at wrapped
    split at wrapped
    · have same := Except.ok.inj wrapped
      cases isNullable : column.nullable with
      | false =>
        rw [isNullable] at same
        exact same.symm
      | true =>
        rw [isNullable] at same
        exact same.symm
    · cases wrapped

theorem parseType_verbatim {raw : Text} (opening : '(' ∈ trim raw) {written : Text}
    (verbatim : parseType dialect raw = .verbatim (trim raw))
    (rendered : renderType dialect (applyParsed column (parseType dialect raw) dialect reported) =
      .ok written) :
    parseType dialect written = filled dialect (parseType dialect raw) ∧
      TypeKept dialect (trim raw) written := by
  have ⟨_, _, params, isParams, isWritten⟩ := renderType_ok rendered
  rw [verbatim] at isParams isWritten
  have isBase : trim (applyParsed column (.verbatim (trim raw)) dialect reported).dataType =
      trim raw := trim_trim raw
  rw [isBase] at isParams isWritten
  rw [writtenParams_custom (Or.inl opening)] at isParams
  rw [← Except.ok.inj isParams, placeParams_nil] at isWritten
  have same : written = trim raw := by
    by_cases clickhouse : dialect = .clickhouse
    · subst clickhouse
      rw [if_pos rfl] at isWritten
      exact wrapType_ok isWritten
    · rw [if_neg clickhouse, if_neg (by intro marked; cases marked.2), List.append_nil] at isWritten
      exact (Except.ok.inj isWritten).symm
  have again : parseType dialect (trim raw) = parseType dialect raw := by
    unfold parseType
    rw [trim_trim]
  refine ⟨?_, Or.inl same⟩
  rw [same, again, verbatim]
  exact (filled_custom (Or.inl opening)).symm

/-- A type that survives on a dialect without wrappers and attributes. -/
theorem type_survives_plain {raw written : Text} (mysql : dialect ≠ .mysql)
    (clickhouse : dialect ≠ .clickhouse) (short : (trim raw).length < 2 ^ 63)
    (regular : Regular dialect (parseType dialect raw))
    (rendered : renderType dialect (applyParsed column (parseType dialect raw) dialect reported) =
      .ok written) :
    parseType dialect written = filled dialect (parseType dialect raw) ∧
      TypeKept dialect (trim raw) written := by
  have reads (text : Text) (some : trim text ≠ []) : parseType dialect text =
      parseInner dialect (trim text) (marks none false false) (trim text) := by
    unfold parseType
    dsimp only
    rw [if_neg some]
    cases dialect with
    | mysql => exact absurd rfl mysql
    | clickhouse => exact absurd rfl clickhouse
    | _ => rfl
  have readsAs (text : Text) : readAs dialect text = some ([], text) := by
    cases dialect with
    | mysql => exact absurd rfl mysql
    | clickhouse => exact absurd rfl clickhouse
    | _ => rfl
  have ⟨named, _, params, isParams, isWritten⟩ := renderType_ok rendered
  have someText : trim raw ≠ [] := by
    intro blank
    apply named
    unfold parseType
    dsimp only
    rw [if_pos blank]
    rfl
  have isParsed := reads raw someText
  have isBase : trim (applyParsed column (parseType dialect raw) dialect reported).dataType =
      (parseType dialect raw).base := regular.trimmed
  rw [isBase] at named isParams isWritten
  cases survives_inner (fun isMysql => absurd isMysql mysql) short isParsed regular isParams with
  | inl verbatim => exact parseType_verbatim verbatim.2 verbatim.1 rendered
  | inr survives =>
    have ⟨survives, _, _⟩ := survives
    rw [if_neg clickhouse, if_neg fun marked => mysql marked.1, List.append_nil] at isWritten
    have same := (Except.ok.inj isWritten).symm
    rw [← same] at survives
    have signed : (parseType dialect raw).unsigned = false := by
      rw [isParsed]
      exact parseInner_signed rfl
    have filledText : trim written ≠ [] := by
      rw [survives.trimmed, same]
      exact placeParams_filled named
    have reread := survives.reread (trim written)
    rw [signed] at reread
    refine ⟨?_, Or.inr ⟨[], _, _, readsAs _, readsAs _, survives.restated⟩⟩
    rw [reads written filledText]
    rw [survives.trimmed] at reread ⊢
    exact reread

theorem type_survives_mysql {raw written : Text} (short : (trim raw).length < 2 ^ 63)
    (regular : Regular .mysql (parseType .mysql raw))
    (rendered : renderType .mysql (applyParsed column (parseType .mysql raw) .mysql reported) =
      .ok written) :
    parseType .mysql written = filled .mysql (parseType .mysql raw) ∧
      TypeKept .mysql (trim raw) written := by
  have reads (text : Text) (some : trim text ≠ []) : parseType .mysql text =
      parseInner .mysql (trim text)
        (marks none false (stripAttributes (trim text).length (trim text)).2)
        (stripAttributes (trim text).length (trim text)).1 := by
    unfold parseType
    dsimp only
    rw [if_neg some]
    rfl
  have ⟨named, _, params, isParams, isWritten⟩ := renderType_ok rendered
  have someText : trim raw ≠ [] := by
    intro blank
    apply named
    unfold parseType
    dsimp only
    rw [if_pos blank]
    rfl
  have isParsed := reads raw someText
  have isBase : trim (applyParsed column (parseType .mysql raw) .mysql reported).dataType =
      (parseType .mysql raw).base := regular.trimmed
  have ⟨unmarked, starts⟩ := strip_ok (trim raw).length (trim raw) (Nat.le_refl _)
  have shortText := Nat.lt_of_le_of_lt starts.length_le short
  rw [isBase] at named isParams isWritten
  cases survives_inner (fun _ => unmarked) shortText isParsed regular isParams with
  | inl verbatim => exact parseType_verbatim (starts.subset verbatim.2) verbatim.1 rendered
  | inr survives =>
    have ⟨survives, _, _⟩ := survives
    have filledText : placeParams .mysql (parseType .mysql raw).base params ≠ [] :=
      placeParams_filled named
    rw [if_neg (by decide)] at isWritten
    have same := (Except.ok.inj isWritten).symm
    generalize placeParams .mysql (parseType .mysql raw).base params = core at survives filledText same
    have shape : written = core ++
        if (parseType .mysql raw).unsigned then " UNSIGNED".toList else [] := by
      rw [same]
      cases signed : (parseType .mysql raw).unsigned with
      | false => rw [if_neg (by intro marked; exact Bool.false_ne_true (signed.symm.trans marked.2)),
          if_neg Bool.false_ne_true]
      | true => rw [if_pos ⟨rfl, signed⟩, if_pos rfl]
    have trimmedText : trim written = written := by
      rw [shape]
      cases (parseType .mysql raw).unsigned with
      | false =>
        rw [if_neg Bool.false_ne_true, List.append_nil]
        exact survives.trimmed
      | true =>
        have starts := (ends_of_trim survives.trimmed).1
        rw [if_pos rfl]
        apply trim_of_ends
        · intro c head
          rw [List.head?_append_of_ne_nil _ filledText] at head
          exact starts c head
        · intro c last
          rw [List.getLast?_append_of_ne_nil _ (by decide)] at last
          have isLast : 'D' = c := Option.some.inj last
          rw [← isLast]
          decide
    have stripped : stripAttributes written.length written =
        (core, (parseType .mysql raw).unsigned) := by
      cases size : written.length with
      | zero =>
        have empty := List.length_eq_zero_iff.mp size
        rw [empty] at shape
        exact absurd (List.append_eq_nil_iff.mp shape.symm).1 filledText
      | succ turns =>
        rw [shape]
        exact strip_written (survives.unmarked rfl) _ turns
    have notBlank : trim written ≠ [] := by
      rw [trimmedText, shape]
      exact List.append_ne_nil_of_left_ne_nil filledText _
    constructor
    · rw [reads written notBlank, trimmedText, stripped]
      exact survives.reread written
    · refine Or.inr ⟨[], _, core, rfl, ?_, survives.restated⟩
      unfold readAs
      dsimp only
      rw [stripped]

theorem type_survives_clickhouse {raw written : Text} (short : (trim raw).length < 2 ^ 63)
    (regular : Regular .clickhouse (parseType .clickhouse raw))
    (rendered : renderType .clickhouse
      (applyParsed column (parseType .clickhouse raw) .clickhouse reported) = .ok written) :
    parseType .clickhouse written = filled .clickhouse (parseType .clickhouse raw) ∧
      TypeKept .clickhouse (trim raw) written := by
  have ⟨named, _, params, isParams, isWritten⟩ := renderType_ok rendered
  have someText : trim raw ≠ [] := by
    intro blank
    apply named
    unfold parseType
    dsimp only
    rw [if_pos blank]
    rfl
  have isBase : trim (applyParsed column (parseType .clickhouse raw) .clickhouse reported).dataType =
      (parseType .clickhouse raw).base := regular.trimmed
  rw [isBase] at named isParams isWritten
  have reads (text : Text) (some : trim text ≠ []) {inner : Text} {wrapper : Option Text}
      {nullable : Bool} (isPeeled : peelClickhouse (trim text) = Option.some (inner, wrapper, nullable)) :
      parseType .clickhouse text =
        parseInner .clickhouse (trim text) (marks wrapper nullable false) inner := by
    unfold parseType
    dsimp only
    rw [if_neg some, isPeeled]
    rfl
  cases isPeeled : peelClickhouse (trim raw) with
  | none =>
    have opening : '(' ∈ trim raw := by
      apply Classical.byContradiction
      intro plain
      rw [peel_plain (trim_trim raw) plain] at isPeeled
      cases isPeeled
    refine parseType_verbatim opening ?_ rendered
    unfold parseType
    dsimp only
    rw [if_neg someText, isPeeled]
  | some parts =>
    have ⟨inner, wrapper, nullable⟩ := parts
    have peeled := peel_ok (trim_trim raw) isPeeled
    have isParsed := reads raw someText isPeeled
    have shortInner : inner.length < 2 ^ 63 :=
      Nat.lt_of_le_of_lt (layersOf_length _ _ _ _ (peel_layers (trim_trim raw) isPeeled).1) short
    have notMysql : Dialect.clickhouse = .mysql → Unmarked inner := by
      intro wrong
      cases wrong
    cases survives_inner notMysql shortInner isParsed regular isParams with
    | inl verbatim =>
      refine parseType_verbatim ?_ verbatim.1 rendered
      apply Classical.byContradiction
      intro plain
      rw [peel_plain (trim_trim raw) plain] at isPeeled
      cases isPeeled
      exact plain verbatim.2
    | inr survives =>
      have ⟨survives, isWrapper, isNullable⟩ := survives
      rw [if_pos rfl] at isWritten
      have same : written = layered (layersNamed (parseType .clickhouse raw).wrapper
          (parseType .clickhouse raw).nullable)
          (placeParams .clickhouse (parseType .clickhouse raw).base params) := wrapType_ok isWritten
      rw [isWrapper, isNullable] at same
      have signed : (parseType .clickhouse raw).unsigned = false := by
        rw [isParsed]
        exact parseInner_signed rfl
      have filledText : placeParams .clickhouse (parseType .clickhouse raw).base params ≠ [] :=
        placeParams_filled named
      generalize placeParams .clickhouse (parseType .clickhouse raw).base params = core
        at survives filledText same
      have bareCore := survives.bare rfl peeled.bare
      have closedCore : layersNamed wrapper nullable ≠ [] → Closed core :=
        fun wrapped => survives.closed rfl (peeled.closed wrapped)
      have ⟨found, trimmedText⟩ := layersOf_wrapped peeled survives.trimmed bareCore closedCore
      have again := peel_layered peeled survives.trimmed bareCore closedCore
      rw [← same] at found trimmedText again
      have notBlank : trim written ≠ [] := by
        intro blank
        rw [trimmedText] at blank
        rw [blank] at again
        have empty := congrArg Prod.fst (Option.some.inj again)
        exact filledText empty.symm
      rw [← trimmedText] at again
      constructor
      · have reread := survives.reread (trim written)
        rw [signed] at reread
        rw [reads written notBlank again]
        exact reread
      · exact Or.inr ⟨layersNamed wrapper nullable, inner, core,
          (peel_layers (trim_trim raw) isPeeled).1, found, survives.restated⟩

/-- Where a type that was read is written, reading what was written gives the same, with the
length the type needs where it had none, and nothing of the type is lost. -/
theorem type_survives {raw written : Text} (short : raw.length < 2 ^ 63)
    (regular : Regular dialect (parseType dialect raw))
    (rendered : renderType dialect (applyParsed column (parseType dialect raw) dialect reported) =
      .ok written) :
    parseType dialect written = filled dialect (parseType dialect raw) ∧
      TypeKept dialect (trim raw) written := by
  have shortText := Nat.lt_of_le_of_lt (trim_length raw) short
  cases dialect with
  | mysql => exact type_survives_mysql shortText regular rendered
  | clickhouse => exact type_survives_clickhouse shortText regular rendered
  | _ => exact type_survives_plain (by decide) (by decide) shortText regular rendered

/-- `character varying(255)` is written as `varchar(255)`. -/
theorem varying_survives :
    parseType .postgres "varchar(255)".toList =
        filled .postgres (parseType .postgres "character varying(255)".toList) ∧
      TypeKept .postgres (trim "character varying(255)".toList) "varchar(255)".toList := by
  have regular : Regular .postgres (parseType .postgres "character varying(255)".toList) := by
    refine ⟨by decide +kernel, ?_, ?_⟩
    · intro wrong
      cases wrong
    · intro wrong
      cases wrong
  have rendered : renderType .postgres (applyParsed blankColumn
      (parseType .postgres "character varying(255)".toList) .postgres true) =
      .ok "varchar(255)".toList := by decide +kernel
  exact type_survives (by decide) regular rendered

/-- A bare `varchar` gets the length MySQL asks for, and is read with it. -/
theorem bare_varchar_lengthened : ¬∀ (dialect : Dialect) (column : ColumnSpec) (raw written : Text)
    (reported : Bool), renderType dialect (applyParsed column (parseType dialect raw) dialect
      reported) = .ok written → parseType dialect written = parseType dialect raw := by
  intro survives
  have rendered : renderType .mysql (applyParsed blankColumn (parseType .mysql "varchar".toList)
      .mysql true) = .ok "varchar(255)".toList := by decide +kernel
  have same := survives .mysql blankColumn "varchar".toList "varchar(255)".toList true rendered
  have differ : parseType .mysql "varchar(255)".toList ≠ parseType .mysql "varchar".toList := by
    decide +kernel
  exact differ same

end Whole

end DbFree.Ddl
