import DbFree.Destructive
import DbFree.WorkflowProposal

/- The dashboard that the assistant proposes: its JSON checked, its tiles placed, and what of the
saved dashboard it keeps (services/agent/documents/dashboard.rs, model/documents.rs). -/
namespace DbFree.DashboardProposal

open Texts
open Workflows.Proposal (text required cleanName list flag choice)

section Bodies

inductive WidgetKind where
  | area | line | bar | pie | sankey | table | metric | sparkline | map | progress | text | image
  | gif
deriving DecidableEq

inductive MetricFormat where
  | number | decimal | currency | percent
deriving DecidableEq

inductive LegendMode where
  | auto | shown | hidden
deriving DecidableEq

inductive ValueFormat where
  | number | compact | currency | percent
deriving DecidableEq

inductive ConditionOp where
  | equals | notEquals | gt | gte | lt | lte | contains | isNull | isNotNull
deriving DecidableEq

structure WidgetCondition where
  op : ConditionOp
  value : Text
  content : Text
  bg : Option Text
deriving DecidableEq

structure Widget where
  id : Text
  title : Text
  kind : WidgetKind
  sql : Text
  x : Nat := 0
  y : Nat := 0
  w : Nat := 4
  h : Nat := 5
  tint : Option Text
  showChange : Bool := false
  maxValue : Option F64 := none
  text : Option Text := none
  url : Option Text := none
  xLabel : Option Text := none
  yLabel : Option Text := none
  horizontal : Bool := false
  showPercent : Bool := true
  showValues : Bool := false
  pulse : Bool := false
  conditions : List WidgetCondition := []
  format : MetricFormat := .number
  currency : Text := "USD".toList
  colorByChange : Bool := false
  bg : Option Text := none
  stacked : Bool := false
  legendMode : LegendMode := .auto
  valueFormat : ValueFormat := .number
deriving DecidableEq

inductive DashboardVariable where
  | dateRange (name first last : Text)
  | text (name value : Text)
  | number (name : Text) (value : Option F64)
  | select (name value : Text) (options : List Text)
  | multiSelect (name : Text) (values options : List Text)
  | boolean (name : Text) (value : Bool)
deriving DecidableEq

def DashboardVariable.name : DashboardVariable → Text
  | dateRange name _ _ | text name _ | number name _ | select name _ _ | multiSelect name _ _
  | boolean name _ => name

structure DashboardBody where
  widgets : List Widget
  vars : List DashboardVariable
  refreshSeconds : Nat
  title : Option Text
  layoutVersion : Option Nat
deriving DecidableEq

/-- What the dashboards use of other crates and of Rust's Unicode tables. -/
structure Outside where
  /-- `str::to_lowercase`. -/
  toLowercase : Text → Text
  /-- `str::to_uppercase`. -/
  toUppercase : Text → Text
  /-- `is_day`: chrono reads the text as a day, or as a day with a time. -/
  isDay : Text → Bool
  /-- `fresh_id`: the id that is made up for a widget, by its place in the list. -/
  freshId : Nat → Text

end Bodies

section Arguments

def refuse {α : Type} (message : Text) : Except AppError α := .error (.invalidInput message)

def asU64 : Json → Option Nat
  | .number (.whole number) => if 0 ≤ number ∧ number < 2 ^ 64 then some number.toNat else none
  | _ => none

def asF64 : Json → Option F64
  | .number (.whole number) => some (F64.ofInt number)
  | .number (.float number) => some number
  | _ => none

/-- `f64::round` of a number that is not negative. -/
def rounded (number : F64) : Nat :=
  let (numerator, denominator) := number.ratio
  (2 * numerator.toNat + denominator) / (2 * denominator)

/-- An optional whole number argument, clamped into a range. -/
def clamped (value : Json) (key : String) (low high : Nat) : Option Nat :=
  (value.get key).bind fun raw =>
    let whole := (asU64 raw).or (((asF64 raw).filter fun f =>
      f.isFinite && (!f.negative || f.isZero)).map rounded)
    whole.map fun n => max low (min n high)

/-- One of a closed list of words, read as what it stands for. -/
def wire {α : Type} (outside : Outside) (raw : Json) (key : String) (words : List (String × α))
    (what : Text) : Except AppError (Option α) :=
  (choice outside.toLowercase raw key (words.map Prod.fst) what).map fun word =>
    word.bind fun known => words.lookup known

def textOr (value : Json) (key : String) : Text := ((value.get key).bind Json.asStr).getD []

/-- A short, one-line excerpt of a statement. -/
def preview (sql : Text) : Text :=
  let flat := " ".toList.intercalate (splitWhitespace sql)
  if 110 < flat.length then flat.take 107 ++ "...".toList else flat

end Arguments

section Variables

def maxVariables : Nat := 10

def maxOptions : Nat := 100

def variableTypes : List String :=
  ["date_range", "text", "number", "select", "multi_select", "boolean"]

def isAsciiLetter (c : Char) : Bool := ('a' ≤ c && c ≤ 'z') || ('A' ≤ c && c ≤ 'Z')

def isAsciiWord (c : Char) : Bool := isAsciiLetter c || F64.isDigit c || c == '_'

def isIdentifier (name : Text) : Bool :=
  name.head?.any (fun c => isAsciiLetter c || c == '_') && name.all isAsciiWord

def strings (item : Json) (key : String) : List Text :=
  match (item.get key).bind Json.asArray with
  | none => []
  | some items => ((items.filterMap Json.asStr).map trim).filter fun s => !s.isEmpty

/-- A date bound: empty, or what chrono reads as a day. -/
def day (outside : Outside) (item : Json) (key : String) (what : Text) : Except AppError Text :=
  let value := trim (textOr item key)
  if value.isEmpty || outside.isDay value then .ok value
  else refuse (what ++ ": \"".toList ++ value ++
    "\" is not a date. Write it as YYYY-MM-DD.".toList)

def distinct : List Text → List Text → List Text
  | options, [] => options
  | options, option :: rest =>
    if option ∈ options then distinct options rest else distinct (options ++ [option]) rest

def parseChoices (item : Json) (what kind name value : Text) (many : Bool) :
    Except AppError DashboardVariable :=
  let options := distinct [] (strings item "options")
  match options with
  | [] => refuse (what ++ " is a ".toList ++ kind ++
      ": give it the \"options\" to choose from.".toList)
  | first :: _ =>
    if maxOptions < options.length then
      refuse (what ++ " may have at most ".toList ++ decimal maxOptions ++ " options.".toList)
    else if many = false then
      if value ≠ [] ∧ value ∉ options then
        refuse (what ++ ": \"".toList ++ value ++ "\" is not one of its options.".toList)
      else .ok (.select name (if value = [] then first else value) options)
    else
      let values := if (item.get "values").isSome then strings item "values" else options
      match values.find? fun v => v ∉ options with
      | some stray =>
        refuse (what ++ ": \"".toList ++ stray ++ "\" is not one of its options.".toList)
      | none => .ok (.multiSelect name values options)

def parseVariable (outside : Outside) (item : Json) : Except AppError DashboardVariable := do
  let name ← required item "name" "Every variable".toList
  if isIdentifier name = false then
    refuse ("Variable \"".toList ++ name ++
      "\" must be letters, digits and underscores, and not start with a digit.".toList)
  else do
    let what := "Variable \"".toList ++ name ++ "\"".toList
    let kind := (← choice outside.toLowercase item "type" variableTypes what).getD "text"
    let value := trim (textOr item "value")
    match kind with
    | "date_range" => do
      let first ← day outside item "start" what
      let last ← day outside item "end" what
      if first ≠ [] ∧ last ≠ [] ∧ last < first then
        refuse (what ++ ": the range starts after it ends.".toList)
      else .ok (.dateRange name first last)
    | "number" =>
      if value.isEmpty then .ok (.number name none)
      else
        match (F64.parse value).filter F64.isFinite with
        | some number => .ok (.number name (some number))
        | none => refuse (what ++ ": \"".toList ++ value ++ "\" is not a number.".toList)
    | "select" => parseChoices item what "select".toList name value false
    | "multi_select" => parseChoices item what "multi_select".toList name value true
    | "boolean" =>
      let word := outside.toLowercase value
      if isIn word ["", "false", "0", "no"] then .ok (.boolean name false)
      else if isIn word ["true", "1", "yes"] then .ok (.boolean name true)
      else refuse (what ++ ": \"".toList ++ word ++ "\" is not true or false.".toList)
    | _ => .ok (.text name value)

def variablesLoop (outside : Outside) :
    List DashboardVariable → List Json → Except AppError (List DashboardVariable)
  | out, [] => .ok out
  | out, item :: rest => do
    let declared ← parseVariable outside item
    if out.any fun seen => seen.name == declared.name then
      refuse ("Variable \"".toList ++ declared.name ++ "\" is declared twice.".toList)
    else variablesLoop outside (out ++ [declared]) rest

def parseVariables (outside : Outside) (args : Json) :
    Except AppError (List DashboardVariable) :=
  match (args.get "variables").bind Json.asArray with
  | none => .ok []
  | some items =>
    if maxVariables < items.length then
      refuse ("A dashboard may have at most ".toList ++ decimal maxVariables ++
        " variables.".toList)
    else variablesLoop outside [] items

end Variables

section Placeholders

/-- A placeholder of a statement: a name, and what stands behind its dot. -/
structure Token where
  name : Text
  bound : Option Text
deriving DecidableEq

/-- The text before the first pair of a character, and the text behind it. -/
def cutAtPair (mark : Char) : Text → Option (Text × Text)
  | c :: d :: rest =>
    if c = mark ∧ d = mark then some ([], rest)
    else (cutAtPair mark (d :: rest)).map fun cut => (c :: cut.1, cut.2)
  | _ => none

def tokenOf (inner : Text) : Option Token :=
  let (name, bound) :=
    match Workflows.Schedule.splitOnce '.' inner with
    | some (name, bound) => (trim name, some (trim bound))
    | none => (inner, none)
  if isIdentifier name && bound.all fun b => b.all isAsciiWord then some ⟨name, bound⟩ else none

/-- Every variable-shaped token, each once; a text has no more tokens than characters. -/
def tokensLoop : Nat → List Token → Text → List Token
  | 0, out, _ => out
  | turns + 1, out, rest =>
    match cutAtPair '\x7b' rest with
    | none => out
    | some (_, after) =>
      match cutAtPair '\x7d' after with
      | none => out
      | some (inner, later) =>
        match tokenOf (trim inner) with
        | some token =>
          tokensLoop turns (if token ∈ out then out else out ++ [token]) later
        | none => tokensLoop turns out later

def tokens (sql : Text) : List Token := tokensLoop sql.length [] sql

def isRange : DashboardVariable → Bool
  | .dateRange _ _ _ => true
  | _ => false

def checkToken (title : Text) (declared : List DashboardVariable) (token : Token) :
    Except AppError Unit :=
  -- The variables are gathered by name in a table, where the last of a name counts.
  match declared.reverse.find? fun v => v.name = token.name with
  | none => refuse ("Widget \"".toList ++ title ++ "\" uses \x7b\x7b".toList ++ token.name ++
      "\x7d\x7d but no variable of that name is declared. Add it to ".toList ++
      "\"variables\" or write the value into the query.".toList)
  | some found =>
    match token.bound with
    | none => .ok ()
    | some bound =>
      if isRange found = false ∨ (bound ≠ "start".toList ∧ bound ≠ "end".toList) then
        refuse ("Widget \"".toList ++ title ++ "\": \x7b\x7b".toList ++ token.name ++ '.' ::
          bound ++ "\x7d\x7d is only valid for a date_range variable, as .start or .end.".toList)
      else .ok ()

def checkAll {α : Type} (check : α → Except AppError Unit) : List α → Except AppError Unit
  | [] => .ok ()
  | first :: rest => do
    check first
    checkAll check rest

def checkPlaceholders (title sql : Text) (declared : List DashboardVariable) :
    Except AppError Unit :=
  checkAll (checkToken title declared) (tokens sql)

/-- A widget's query must be exactly one read. -/
def checkReadOnly (title sql : Text) : Except AppError Unit :=
  let statements := Destructive.classify sql
  if statements.length ≠ 1 then
    refuse ("Widget \"".toList ++ title ++
      "\": give exactly one statement per widget (found ".toList ++ decimal statements.length ++
      ").".toList)
  else
    match statements.find? fun s => s.kind ≠ .read with
    | some offender => refuse ("Widget \"".toList ++ title ++
        "\": a dashboard query may only read data, and this one would change it: ".toList ++
        preview offender.text ++ ". Rewrite it as a SELECT.".toList)
    | none => .ok ()

end Placeholders

section Widgets

def maxWidgets : Nat := 24

def maxConditions : Nat := 6

def maxTitle : Nat := 120

def gridColumns : Nat := 12

def minCells : Nat := 2

def maxRows : Nat := 24

def layoutVersion : Nat := 1

/-- The widget kinds the assistant may build. -/
def widgetKinds : List (String × WidgetKind) :=
  [("area", .area), ("line", .line), ("bar", .bar), ("pie", .pie), ("sankey", .sankey),
    ("table", .table), ("metric", .metric), ("sparkline", .sparkline), ("map", .map),
    ("progress", .progress), ("text", .text)]

def refreshChoices : List Nat := [0, 5, 10, 30, 60, 300]

def swatches : List String :=
  ["slate", "red", "orange", "amber", "green", "emerald", "teal", "cyan", "blue", "indigo",
    "violet", "purple", "pink", "rose"]

def legendModes : List (String × LegendMode) :=
  [("auto", .auto), ("show", .shown), ("hide", .hidden)]

def valueFormats : List (String × ValueFormat) :=
  [("number", .number), ("compact", .compact), ("currency", .currency), ("percent", .percent)]

def metricFormats : List (String × MetricFormat) :=
  [("number", .number), ("decimal", .decimal), ("currency", .currency), ("percent", .percent)]

def conditionOps : List (String × ConditionOp) :=
  [("equals", .equals), ("not_equals", .notEquals), ("gt", .gt), ("gte", .gte), ("lt", .lt),
    ("lte", .lte), ("contains", .contains), ("is_null", .isNull), ("is_not_null", .isNotNull)]

/-- `parse::<u8>` of a text, between 1 and 7. -/
def isSeries (digits : Text) : Bool :=
  let unsigned := if digits.head? = some '+' then digits.tail else digits
  !unsigned.isEmpty && unsigned.all F64.isDigit &&
    decide (1 ≤ F64.digitsValue unsigned ∧ F64.digitsValue unsigned ≤ 7)

/-- A colour name from the tile registry, or none when absent. -/
def swatch (outside : Outside) (raw : Json) (key : String) (what : Text) :
    Except AppError (Option Text) :=
  match text raw key with
  | none => .ok none
  | some word =>
    let lower := outside.toLowercase word
    let series := startsWith lower "series-" && isSeries (lower.drop 7)
    if isIn lower swatches || (key == "color" && series) then .ok (some lower)
    else refuse (what ++ ": \"".toList ++ word ++ "\" is not a ".toList ++ key.toList ++
      ". Use ".toList ++ (", ".intercalate swatches).toList ++ ".".toList)

def parseCondition (outside : Outside) (what : Text) (item : Json) :
    Except AppError WidgetCondition := do
  match ← choice outside.toLowercase item "op" (conditionOps.map Prod.fst) what with
  | none => refuse (what ++ ": every condition needs an \"op\". Use ".toList ++
      (", ".intercalate (conditionOps.map Prod.fst)).toList ++ ".".toList)
  | some word =>
    let op := (conditionOps.lookup word).getD .equals
    let value := textOr item "value"
    if blank value ∧ op ≠ .isNull ∧ op ≠ .isNotNull then
      refuse (what ++ ": a \"".toList ++ word.toList ++
        "\" condition needs a \"value\".".toList)
    else do
      let bg ← swatch outside item "bg" what
      .ok ⟨op, value, textOr item "content", bg⟩

def conditionsLoop (outside : Outside) (what : Text) :
    List Json → Except AppError (List WidgetCondition)
  | [] => .ok []
  | item :: rest => do
    let condition ← parseCondition outside what item
    let others ← conditionsLoop outside what rest
    .ok (condition :: others)

def parseConditions (outside : Outside) (raw : Json) (what : Text) :
    Except AppError (List WidgetCondition) :=
  match (raw.get "conditions").bind Json.asArray with
  | none => .ok []
  | some items =>
    if maxConditions < items.length then
      refuse (what ++ " may have at most ".toList ++ decimal maxConditions ++
        " conditions.".toList)
    else conditionsLoop outside what items

def parseCurrency (outside : Outside) (raw : Json) (what : Text) : Except AppError Text :=
  match text raw "currency" with
  | none => .ok "USD".toList
  | some given =>
    let code := outside.toUppercase given
    if code.length ≠ 3 ∨ (code.all fun c => decide ('A' ≤ c ∧ c ≤ 'Z')) = false then
      refuse (what ++ ": \"".toList ++ code ++
        "\" is not an ISO 4217 currency code (like USD or EUR).".toList)
    else .ok code

/-- Width and height on the grid: explicit cells, then a size word, then what the kind needs. -/
def footprint (kind : WidgetKind) (size : Option (Nat × Nat)) (w h : Option Nat) : Nat × Nat :=
  let (kw, kh) := size.getD (match kind with
    | .metric | .sparkline | .progress => (3, 3)
    | .text => (6, 3)
    | .table | .sankey => (gridColumns, 6)
    | _ => (6, 5))
  (max minCells (min (w.getD kw) gridColumns), max minCells (min (h.getD kh) maxRows))

def sizes : List (String × (Nat × Nat)) :=
  [("small", (3, 3)), ("medium", (6, 5)), ("large", (8, 6)), ("full", (gridColumns, 6))]

/-- A widget as validated, before it is given a spot on the grid. -/
structure Tile where
  widget : Widget
  w : Nat
  h : Nat
  spot : Option (Nat × Nat)

/-- The spot the model asked for; a number that no `u32` holds counts as zero. -/
def spotOf (raw : Json) (w : Nat) : Option (Nat × Nat) :=
  let small (n : Nat) : Nat := if n < 2 ^ 32 then n else 0
  ((raw.get "x").bind asU64).bind fun x =>
    ((raw.get "y").bind asU64).map fun y => (min (small x) (gridColumns - w), small y)

def kindOf (outside : Outside) (raw : Json) (what : Text) : Except AppError WidgetKind := do
  let word := outside.toLowercase (← required raw "kind" what)
  let named := if word = "number".toList then "metric".toList else word
  match widgetKinds.find? fun known => known.1.toList = named with
  | some known => .ok known.2
  | none => refuse (what ++ ": \"".toList ++ named ++ "\" is not a widget kind. Use ".toList ++
      (", ".intercalate (widgetKinds.map Prod.fst)).toList ++ ".".toList)

def checkQuery (raw : Json) (title what sql : Text) (kind : WidgetKind)
    (declared : List DashboardVariable) : Except AppError Unit :=
  if kind = .text ∧ text raw "text" = none then
    refuse ("Text widget \"".toList ++ title ++ "\" needs a \"text\" body.".toList)
  else if kind ≠ .text ∧ sql = [] then
    refuse (what ++ " needs a non-empty \"sql\".".toList)
  else if sql = [] then .ok ()
  else do
    checkReadOnly title sql
    checkPlaceholders title sql declared

def parseWidget (outside : Outside) (index : Nat) (declared : List DashboardVariable)
    (raw : Json) : Except AppError Tile := do
  let title ← required raw "title" "Every widget".toList
  let what := "Widget \"".toList ++ title ++ "\"".toList
  let kind ← kindOf outside raw what
  let sql := (text raw "sql").getD []
  checkQuery raw title what sql kind declared
  let tint ← swatch outside raw "color" what
  let bg ← swatch outside raw "background" what
  let legendMode ← wire outside raw "legend" legendModes what
  let valueFormat ← wire outside raw "valueFormat" valueFormats what
  let format ← wire outside raw "format" metricFormats what
  let currency ← parseCurrency outside raw what
  let conditions ← parseConditions outside raw what
  let size ← wire outside raw "size" sizes what
  let (w, h) := footprint kind size (clamped raw "w" minCells gridColumns)
    (clamped raw "h" minCells maxRows)
  .ok ⟨{
    id := outside.freshId index
    title := title
    kind := kind
    sql := sql
    tint := some (tint.getD ("series-".toList ++ decimal (index % 7 + 1)))
    bg := bg
    xLabel := text raw "xLabel"
    yLabel := text raw "yLabel"
    text := text raw "text"
    horizontal := (flag raw "horizontal").getD false
    stacked := (flag raw "stacked").getD (kind == .area)
    showChange := (flag raw "showChange").getD false
    colorByChange := (flag raw "colorByChange").getD false
    showPercent := (flag raw "showPercent").getD true
    showValues := (flag raw "showValues").getD false
    pulse := (flag raw "pulse").getD false
    maxValue := ((raw.get "maxValue").bind asF64).filter fun v =>
      v.isFinite && !v.isZero && !v.negative
    legendMode := legendMode.getD .auto
    valueFormat := valueFormat.getD .number
    format := format.getD .number
    currency := currency
    conditions := conditions }, w, h, spotOf raw w⟩

def widgetsLoop (outside : Outside) (declared : List DashboardVariable) :
    Nat → List Json → Except AppError (List Tile)
  | _, [] => .ok []
  | index, raw :: rest => do
    let tile ← parseWidget outside index declared raw
    let others ← widgetsLoop outside declared (index + 1) rest
    .ok (tile :: others)

end Widgets

section Parsing

/-- Left-to-right, top-to-bottom packing: a widget that does not fit wraps to a new row. -/
def packLoop : Nat → Nat → Nat → List Tile → List (Nat × Nat)
  | _, _, _, [] => []
  | x, y, rowHeight, tile :: rest =>
    let w := min tile.w gridColumns
    if gridColumns < x + w then
      (0, y + rowHeight) :: packLoop w (y + rowHeight) tile.h rest
    else (x, y) :: packLoop (x + w) y (max rowHeight tile.h) rest

/-- The model's own coordinates count only when it gave every widget a spot. -/
def place (sized : List Tile) : List (Nat × Nat) :=
  if sized.all fun tile => tile.spot.isSome then sized.filterMap Tile.spot
  else packLoop 0 0 0 sized

def atSpot (tile : Tile) (spot : Nat × Nat) : Widget :=
  { tile.widget with x := spot.1, y := spot.2, w := tile.w, h := tile.h }

/-- The choice that is closest, the first of two that are. -/
def snapRefresh (requested : Nat) : Nat :=
  let distance (known : Nat) : Nat := max known requested - min known requested
  (refreshChoices.foldl (fun best known =>
    match best with
    | none => some known
    | some b => if distance known < distance b then some known else some b) none).getD 0

/-- A validated proposal. The sentences for the approval prompt are left out. -/
structure Draft where
  name : Text
  body : DashboardBody

/-- The variables of the proposal, which replace the saved ones when it gives any. -/
def declaredOf (outside : Outside) (args : Json) (before : Option DashboardBody) :
    Except AppError (List DashboardVariable) :=
  if (args.get "variables").isSome then parseVariables outside args
  else .ok ((before.map DashboardBody.vars).getD [])

/-- A dashboard proposal as a validated body; the variables, the title and the refresh that it
leaves out are the saved ones. -/
def parse (outside : Outside) (args : Json) (before : Option DashboardBody) :
    Except AppError Draft := do
  let name ← cleanName args "A dashboard".toList
  let rawWidgets ← list args "widgets" "A dashboard".toList 1 maxWidgets
  let declared ← declaredOf outside args before
  let sized ← widgetsLoop outside declared 0 rawWidgets
  .ok ⟨name, {
    widgets := List.zipWith atSpot sized (place sized)
    vars := declared
    refreshSeconds :=
      match (args.get "refreshSeconds").bind asU64 with
      | some requested => snapRefresh requested
      | none => (before.map DashboardBody.refreshSeconds).getD 0
    title :=
      match text args "title" with
      | some heading => some (heading.take maxTitle)
      | none => before.bind DashboardBody.title
    layoutVersion := some layoutVersion }⟩

end Parsing

end DbFree.DashboardProposal
