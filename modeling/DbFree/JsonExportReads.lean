import DbFree.F64Spelling
import DbFree.JsonExport

/- What the JSON of an export reads as: one document with an object for each row, however the
rows were paged. -/
namespace DbFree.JsonExport

open JsonText

section Numbers

/-- Only zero is written with a leading zero. -/
theorem decimal_head {count : Nat} (positive : 0 < count) : (decimal count).head? ≠ some '0' := by
  rw [decimal, Nat.toString_eq_ofList_toDigits, String.toList_ofList]
  induction count using Nat.strongRecOn with
  | ind count hypothesis =>
    rcases Nat.lt_or_ge count 10 with small | large
    · rw [Nat.toDigits_of_lt_base small, List.head?_cons]
      have all : ∀ digit < 10, 0 < digit → some (Nat.digitChar digit) ≠ some '0' := by decide
      exact all count small positive
    · rw [Nat.toDigits_of_base_le (by decide) large]
      have shorter := hypothesis (count / 10) (by omega) (by omega)
      rwa [List.head?_append_of_ne_nil _ Nat.toDigits_ne_nil]

/-- A whole number, with a fraction or an exponent behind it. -/
theorem isUnsigned_append (count : Nat) {tail : Text} (fraction : isFraction tail = true)
    (stops : ∀ c ∈ tail.head?, c.isDigit = false) : isUnsigned (decimal count ++ tail) = true := by
  have rest : tail.dropWhile Char.isDigit = tail := by
    cases tail with
    | nil => rfl
    | cons c tail =>
      rw [List.dropWhile_cons_of_neg]
      rw [stops c rfl]
      exact Bool.false_ne_true
  rcases Nat.eq_zero_or_pos count with rfl | positive
  · exact fraction
  · have digits := decimal_digits count
    have some_digit := decimal_ne_nil count
    have head := decimal_head positive
    generalize decimal count = text at *
    cases text with
    | nil => exact absurd rfl some_digit
    | cons c text =>
      rw [List.head?_cons] at head
      rw [isUnsigned, List.cons_append, List.head?_cons, if_neg head, ← List.cons_append,
        List.dropWhile_append_of_pos digits, rest, fraction, Option.any_some,
        digits c List.mem_cons_self]
      rfl

theorem head_decimal (count : Nat) (tail : Text) {mark : Char} (other : mark.isDigit = false) :
    (decimal count ++ tail).head? ≠ some mark := by
  intro first
  rw [List.head?_append_of_ne_nil _ (decimal_ne_nil count)] at first
  have digit := decimal_digits count mark (List.mem_of_mem_head? first)
  rw [other] at digit
  cases digit

theorem inNumber_decimal (count : Nat) : ∀ c ∈ decimal count, inNumber c = true := by
  intro c member
  rw [inNumber, decimal_digits _ c member, Bool.true_or]

theorem isNumber_signed (negative : Bool) (count : Nat) {tail : Text}
    (all : ∀ c ∈ tail, inNumber c = true) (fraction : isFraction tail = true)
    (stops : ∀ c ∈ tail.head?, c.isDigit = false) :
    isNumber ((if negative then ['-'] else []) ++ (decimal count ++ tail)) = true := by
  have unsigned := isUnsigned_append count fraction stops
  have characters : (decimal count ++ tail).all inNumber = true := by
    rw [List.all_append, List.all_eq_true.mpr (inNumber_decimal count), List.all_eq_true.mpr all]
    rfl
  cases negative with
  | true =>
    rw [if_pos rfl, List.singleton_append, isNumber, List.all_cons, characters, List.head?_cons,
      if_pos rfl, List.tail_cons, unsigned]
    rfl
  | false =>
    rw [if_neg Bool.false_ne_true, List.nil_append, isNumber, characters,
      if_neg (head_decimal count tail rfl), unsigned]
    rfl

theorem isNumber_integer (number : Int) : isNumber (integer number) = true := by
  have whole := @isNumber_signed (decide (number < 0)) number.natAbs [] (by simp) rfl (by simp)
  rw [List.append_nil] at whole
  rw [integer]
  split
  · rename_i negative
    rwa [decide_eq_true negative] at whole
  · rename_i positive
    rwa [decide_eq_false positive] at whole

end Numbers

section Lines

/-- A line break with the indent of the line behind it. -/
def indented (pad : Nat) (c : Char) : Text := if c = '\n' then '\n' :: spaces pad else [c]

/-- The lines of a text, indented from the second on. -/
def indentedLines (pad : Nat) : List Text → Text
  | [] => []
  | first :: rest => first ++ rest.flatMap fun line => '\n' :: (spaces pad ++ line)

theorem mapIdx_const {Item Result : Type*} (f : Item → Result) (items : List Item) :
    (items.mapIdx fun _ item => f item) = items.map f := by
  induction items with
  | nil => rfl
  | cons item items hypothesis => rw [List.mapIdx_cons, List.map_cons, hypothesis]

theorem intercalate_mapIdx (pad : Nat) (pieces : List Text) :
    ['\n'].intercalate (pieces.mapIdx fun i line => if i = 0 then line else spaces pad ++ line) =
      indentedLines pad pieces := by
  have later : ∀ (first : Text) (rest : List Text),
      ['\n'].intercalate (first :: rest.map (spaces pad ++ ·)) =
        first ++ rest.flatMap fun line => '\n' :: (spaces pad ++ line) := by
    intro first rest
    induction rest generalizing first with
    | nil => rw [List.map_nil, List.intercalate_singleton, List.flatMap_nil, List.append_nil]
    | cons second rest hypothesis =>
      rw [List.map_cons, List.intercalate_cons_cons, hypothesis, List.flatMap_cons]
      simp only [List.append_assoc, List.cons_append, List.nil_append]
  cases pieces with
  | nil => rfl
  | cons first rest =>
    rw [List.mapIdx_cons, indentedLines, ← later, if_pos rfl]
    simp only [Nat.add_eq_zero_iff, one_ne_zero, and_false, if_false, mapIdx_const]

theorem indentedLines_splitOn (pad : Nat) (text : Text) :
    indentedLines pad (text.splitOn '\n') = text.flatMap (indented pad) := by
  induction text with
  | nil => rfl
  | cons c text hypothesis =>
    rw [List.splitOn_cons_eq_if_modifyHead, List.flatMap_cons, ← hypothesis, indented]
    obtain ⟨first, rest, pieces⟩ := List.exists_cons_of_ne_nil (List.splitOn_ne_nil '\n' text)
    rw [pieces]
    by_cases line : c = '\n'
    · rw [if_pos (beq_iff_eq.mpr line), if_pos line]
      simp only [indentedLines, List.flatMap_cons, List.nil_append, List.append_assoc,
        List.cons_append]
    · rw [if_neg (by rwa [beq_iff_eq]), if_neg line]
      rfl

theorem mem_splitOn {text piece : Text} (member : piece ∈ text.splitOn '\n') :
    ∀ c ∈ piece, c ∈ text := by
  induction text generalizing piece with
  | nil =>
    rw [List.splitOn_nil, List.mem_singleton] at member
    rw [member]
    exact fun _ => id
  | cons c text hypothesis =>
    rw [List.splitOn_cons_eq_if_modifyHead] at member
    intro d inside
    split at member
    · rcases List.mem_cons.mp member with rfl | later
      · cases inside
      · exact List.mem_cons_of_mem c (hypothesis later d inside)
    · obtain ⟨first, rest, pieces⟩ := List.exists_cons_of_ne_nil (List.splitOn_ne_nil '\n' text)
      rw [pieces, List.modifyHead_cons, List.mem_cons] at member
      rcases member with rfl | later
      · rcases List.mem_cons.mp inside with rfl | inside
        · exact List.mem_cons_self
        · exact List.mem_cons_of_mem c
            (hypothesis (pieces ▸ List.mem_cons_self) d inside)
      · exact List.mem_cons_of_mem c (hypothesis (pieces ▸ List.mem_cons_of_mem _ later) d inside)

/-- The last line is empty only where the text ends in a line feed. -/
theorem getLast_splitOn {text : Text} (some_char : text ≠ [])
    (last : (text.splitOn '\n').getLast? = some []) : text.getLast? = some '\n' := by
  induction text with
  | nil => exact absurd rfl some_char
  | cons c text hypothesis =>
    rw [List.splitOn_cons_eq_if_modifyHead] at last
    obtain ⟨first, rest, pieces⟩ := List.exists_cons_of_ne_nil (List.splitOn_ne_nil '\n' text)
    rw [pieces] at last hypothesis
    cases text with
    | nil =>
      split at last
      · rename_i line
        rw [beq_iff_eq.mp line]
        rfl
      · rw [List.splitOn_nil] at pieces
        cases pieces
        cases last
    | cons d text =>
      rw [List.getLast?_cons_cons]
      apply hypothesis (List.cons_ne_nil _ _)
      split at last
      · rwa [List.getLast?_cons_cons] at last
      · rw [List.modifyHead_cons] at last
        cases rest with
        | nil => cases last
        | cons second rest => rwa [List.getLast?_cons_cons] at last ⊢

/-- A text without carriage returns that ends in a line is indented line by line. -/
theorem indentTail_eq {text : Text} (no_return : '\r' ∉ text) (last : text.getLast? ≠ some '\n')
    (pad : Nat) : indentTail text pad = text.flatMap (indented pad) := by
  have kept : ∀ piece ∈ text.splitOn '\n', stripReturn piece = piece := by
    intro piece member
    rw [stripReturn, if_neg]
    intro ends
    exact no_return (mem_splitOn member _ (List.mem_of_getLast? ends))
  rw [indentTail]
  by_cases empty : text = []
  · rw [empty]
    rfl
  · have no_empty : ¬(text.splitOn '\n').getLast? = some [] :=
      fun ends => last (getLast_splitOn empty ends)
    have ended : (text.splitOn '\n').dropLast.map stripReturn = (text.splitOn '\n').dropLast := by
      conv => rhs; rw [← List.map_id (text.splitOn '\n').dropLast]
      exact List.map_congr_left fun piece member => kept piece (List.mem_of_mem_dropLast member)
    have whole : strLines text = text.splitOn '\n' := by
      rw [strLines, if_neg no_empty, ended,
        List.getLast?_eq_some_getLast (List.splitOn_ne_nil '\n' text), Option.toList_some,
        List.dropLast_append_getLast]
    rw [whole, intercalate_mapIdx, indentedLines_splitOn]

end Lines

section Cells

variable (serializer : Serializer)

/-- The document a cell stands for: numbers stay numbers, but for the doubles that are none;
exact decimals, bytes and dates are strings, and a JSON cell is its document. -/
def cellDoc : Value → Doc
  | .null => .null
  | .bool value => .bool value
  | .int number => .number (integer number)
  | .float number => if number.isFinite then .number (serializer.float number) else .null
  | .decimal text | .text text | .bytes text | .dateTime text | .unsupported text => .string text
  | .json document => docOf serializer.float document

/-- A row as an object: a member for each column in order, null where the row has no cell. -/
def rowDoc (columns : List Text) (row : List Value) : Doc :=
  .object (columns.mapIdx fun i name => (name, cellDoc serializer (row[i]?.getD .null)))

variable {serializer}

theorem space_indented (pad : Nat) : Space (indented pad '\n') := space_line (space_replicate pad)

theorem string_spelled (text : Text) :
    Spells (.string text) (serializer.string text) := by
  obtain ⟨quotes, spelled, quoted⟩ := serializer.string_spells text
  rw [spelled]
  exact .string quoted

variable (serializer) in
theorem cell_spelled (value : Value) (pretty : Bool) (indent : Nat) :
    Spells (cellDoc serializer value) (jsonCellText serializer value pretty indent) := by
  cases value with
  | null => exact .null
  | bool value =>
    cases value with
    | true => exact .yes
    | false => exact .no
  | int number => exact .number (isNumber_integer number)
  | float number =>
    rw [cellDoc, jsonCellText]
    split
    · rename_i finite
      exact .number (serializer.float_spells number finite)
    · exact .null
  | decimal text | text text | bytes text | dateTime text | unsupported text =>
    exact string_spelled text
  | json document =>
    rw [cellDoc, jsonCellText]
    split
    · have spelled := serializer.pretty_spells document
      have last : (serializer.pretty document).getLast? ≠ some '\n' := by
        obtain ⟨c, ends, solid⟩ := spelled.last
        rw [ends]
        rintro ⟨⟩
        cases solid
      rw [indentTail_eq (serializer.pretty_lines document) last]
      exact spelled.respaced (fun c solid => if_neg solid) (space_indented indent)
    · exact serializer.compact_spells document

variable (serializer) in
/-- A member as the writer puts it: space, its name, a colon, space and its value. -/
theorem member_spelled {before gap : Text} (blank : Space before) (blank_gap : Space gap)
    (name : Text) {value : Doc} {spelled : Text} (here : Spells value spelled) :
    SpellsMember (name, value)
      (before ++ serializer.string name ++ (':' :: gap) ++ spelled) := by
  obtain ⟨quotes, spells, quoted⟩ := serializer.string_spells name
  refine ⟨before, quotes, gap, spelled, ?_, blank, quoted, blank_gap, here⟩
  rw [spells]
  simp only [List.append_assoc, List.cons_append]

theorem forall₂_mapIdx {Item First Second : Type*} {relation : First → Second → Prop}
    (items : List Item) {first : Nat → Item → First} {second : Nat → Item → Second}
    (each : ∀ i item, relation (first i item) (second i item)) :
    List.Forall₂ relation (items.mapIdx first) (items.mapIdx second) := by
  induction items generalizing first second with
  | nil => exact .nil
  | cons item items hypothesis =>
    rw [List.mapIdx_cons, List.mapIdx_cons]
    exact .cons (each 0 item) (hypothesis fun i => each (i + 1))

theorem row_spelled (columns : List Text) (row : List Value) (pretty : Bool) (indent : Nat) :
    Spells (rowDoc serializer columns row) (jsonObject serializer columns row pretty indent) := by
  rw [rowDoc, jsonObject]
  split
  · rename_i no_column
    rw [no_column]
    exact .emptyObject space_nil
  · rename_i some_column
    have some_member : (columns.mapIdx fun i name =>
        (name, cellDoc serializer (row[i]?.getD .null))) ≠ [] := by
      rwa [ne_eq, List.mapIdx_eq_nil_iff]
    cases pretty with
    | false =>
      have each := forall₂_mapIdx columns fun i name =>
        member_spelled serializer space_nil space_nil name
          (cell_spelled serializer (row[i]?.getD .null) false 0)
      have object := Spells.object (spellsMembers_join each some_member space_nil)
      rw [if_pos Bool.false_ne_true]
      simp only [List.nil_append, List.append_assoc] at object ⊢
      exact object
    | true =>
      -- The line break of the opening brace and those of the commas lead their members.
      have each : List.Forall₂ SpellsMember
          (columns.mapIdx fun i name => (name, cellDoc serializer (row[i]?.getD .null)))
          ((columns.mapIdx fun i name =>
            spaces (indent + 2) ++ serializer.string name ++ ": ".toList ++
              jsonCellText serializer (row[i]?.getD .null) true (indent + 2)).map
                (['\n'] ++ ·)) := by
        refine List.forall₂_map_right_iff.mpr (forall₂_mapIdx columns fun i name => ?_)
        exact member_spelled serializer (space_line (space_replicate (indent + 2)))
          (space_replicate 1) name (cell_spelled serializer (row[i]?.getD .null) true (indent + 2))
      have some_text : (columns.mapIdx fun i name =>
          spaces (indent + 2) ++ serializer.string name ++ ": ".toList ++
            jsonCellText serializer (row[i]?.getD .null) true (indent + 2)) ≠ [] := by
        rwa [ne_eq, List.mapIdx_eq_nil_iff]
      have object := Spells.object (spellsMembers_join each some_member
        (space_line (space_replicate indent)))
      rw [← append_intercalate ',' ['\n'] some_text] at object
      rw [if_neg (not_not.mpr rfl)]
      simp only [List.append_assoc] at object ⊢
      exact object

end Cells

section Pages

/-- Texts that continue a list of which some are written. -/
def separated (written : Nat) (texts : List Text) : Text :=
  if written = 0 then [','].intercalate texts else texts.flatMap fun text => ',' :: text

theorem intercalate_cons (text : Text) (texts : List Text) :
    [','].intercalate (text :: texts) = text ++ texts.flatMap fun text => ',' :: text := by
  induction texts generalizing text with
  | nil => rw [List.intercalate_singleton, List.flatMap_nil, List.append_nil]
  | cons second texts hypothesis =>
    rw [List.intercalate_cons_cons, hypothesis, List.flatMap_cons]
    simp only [List.append_assoc, List.cons_append, List.nil_append]

/-- A list goes on where its first part ends. -/
theorem separated_append (written : Nat) (first second : List Text) :
    separated written (first ++ second) =
      separated written first ++ separated (written + first.length) second := by
  by_cases begun : written = 0
  · cases first with
    | nil => rw [separated, if_pos begun, separated, if_pos begun, separated, begun]; rfl
    | cons text first =>
      have later : written + (text :: first).length ≠ 0 := by
        rw [List.length_cons]
        omega
      rw [separated, if_pos begun, separated, if_pos begun, separated, if_neg later,
        List.cons_append, intercalate_cons, intercalate_cons, List.flatMap_append,
        List.append_assoc]
  · have later : written + first.length ≠ 0 := by omega
    rw [separated, if_neg begun, separated, if_neg begun, separated, if_neg later,
      List.flatMap_append]

namespace RowWriter

variable (serializer : Serializer) (writer : RowWriter)

/-- A row with the line break and the indent before it. -/
def ledRow (row : List Value) : Text :=
  let pretty := writer.options.pretty
  let indent := writer.itemIndent
  let object := jsonObject serializer writer.columns row pretty (if pretty then indent else 0)
  (if pretty then '\n' :: spaces indent else ['\n']) ++ object

theorem rowText_eq (i : Nat) (row : List Value) :
    writer.rowText serializer i row =
      (if writer.written = 0 ∧ i = 0 then [] else ",".toList) ++ writer.ledRow serializer row := by
  rw [rowText, ledRow]
  cases writer.options.pretty with
  | true =>
    simp only [if_true, List.append_assoc]
    rfl
  | false =>
    simp only [Bool.false_eq_true, if_false, List.append_assoc]
    rfl

theorem rows_text (page : List (List Value)) :
    (writer.rows serializer page).1 =
      separated writer.written (page.map (writer.ledRow serializer)) := by
  have comma : ∀ (i : Nat) (row : List Value), ¬(writer.written = 0 ∧ i = 0) →
      writer.rowText serializer i row = ',' :: writer.ledRow serializer row := by
    intro i row later
    rw [rowText_eq, if_neg later]
    rfl
  rw [rows, separated]
  split
  · rename_i begun
    cases page with
    | nil => rfl
    | cons row page =>
      have rest : (fun i row => writer.rowText serializer (i + 1) row) =
          fun _ row => ',' :: writer.ledRow serializer row := by
        funext i row
        exact comma (i + 1) row (by omega)
      rw [List.mapIdx_cons, rest, mapIdx_const, List.flatten_cons, rowText_eq, if_pos ⟨begun, rfl⟩,
        List.nil_append, List.map_cons, intercalate_cons, List.flatMap_map, List.flatMap_def]
  · rename_i begun
    have all : writer.rowText serializer = fun _ row => ',' :: writer.ledRow serializer row := by
      funext i row
      exact comma i row fun both => begun both.1
    rw [all, mapIdx_const, List.flatMap_map, List.flatMap_def]

/-- The pages come to their rows in order, however they are cut. -/
theorem pages_eq (pages : List (List (List Value))) :
    writer.pages serializer pages =
      (separated writer.written (pages.flatten.map (writer.ledRow serializer)),
        { writer with written := writer.written + pages.flatten.length }) := by
  induction pages generalizing writer with
  | nil =>
    rw [RowWriter.pages, separated]
    split <;> rfl
  | cons page later hypothesis =>
    have step : writer.rows serializer page =
        (separated writer.written (page.map (writer.ledRow serializer)),
          { writer with written := writer.written + page.length }) :=
      Prod.ext (rows_text serializer writer page) rfl
    rw [RowWriter.pages, step]
    simp only [hypothesis]
    rw [List.flatten_cons, List.map_append, separated_append, List.length_map, List.length_append,
      Nat.add_assoc]
    rfl

end RowWriter

end Pages

section Documents

variable (serializer : Serializer)

/-- What an export stands for: an object for each row, in an array or in an envelope. -/
def exportDoc (options : ExportOptions) (table : SqlText.TableRef) (columns : List Text)
    (slot : JsonSlot) (rows : List (List Value)) : Doc :=
  let items := Doc.array (rows.map (rowDoc serializer columns))
  if slot = .standalone ∧ options.jsonShape = .envelope then
    .object [("table".toList, .string (tableLabel table)), ("rows".toList, items)]
  else items

theorem ledRow_spelled (writer : RowWriter) (row : List Value) :
    SpellsItem (rowDoc serializer writer.columns row) (writer.ledRow serializer row) := by
  refine ⟨_, _, rfl, ?_, row_spelled writer.columns row _ _⟩
  split
  · exact space_line (space_replicate _)
  · exact space_line space_nil

theorem array_spelled (writer : RowWriter) (rows : List (List Value))
    (count : writer.written = rows.length) :
    Spells (.array (rows.map (rowDoc serializer writer.columns)))
      ('[' :: (separated 0 (rows.map (writer.ledRow serializer)) ++ writer.arrayEnd)) := by
  cases rows with
  | nil =>
    have none_written : writer.written = 0 := count
    rw [RowWriter.arrayEnd, if_pos none_written]
    exact .emptyArray space_nil
  | cons row rows =>
    have some_row : writer.written ≠ 0 := by
      rw [count, List.length_cons]
      omega
    have each : List.Forall₂ SpellsItem ((row :: rows).map (rowDoc serializer writer.columns))
        ((row :: rows).map (writer.ledRow serializer)) :=
      List.forall₂_map_left_iff.mpr (List.forall₂_map_right_iff.mpr
        (List.forall₂_same.mpr fun row _ => ledRow_spelled serializer writer row))
    have array := fun (after : Text) (blank : Space after) =>
      Spells.array (spellsItems_join each (List.cons_ne_nil _ _) blank)
    rw [RowWriter.arrayEnd, if_neg some_row, separated, if_pos rfl]
    split
    · exact array ('\n' :: spaces writer.closeIndent) (space_line (space_replicate _))
    · exact array ['\n'] (space_line space_nil)

/-- An envelope: its members, and the space before them, in them and behind them. -/
theorem envelope_spelled {before gap after label array : Text} (blank : Space before)
    (blank_gap : Space gap) (blank_after : Space after) {name : Text} {items : Doc}
    (label_spelled : Spells (.string name) label) (items_spelled : Spells items array) :
    Spells (.object [("table".toList, .string name), ("rows".toList, items)])
      ('\x7b' :: (before ++ '"' :: ("table\"".toList ++ ':' :: (gap ++ (label ++ ',' :: (before ++
        '"' :: ("rows\"".toList ++ ':' :: (gap ++ (array ++ (after ++ ['\x7d'])))))))))) := by
  have plain : ∀ word : Text,
      word.all (fun c => decide (c ≠ '"' ∧ c ≠ '\\' ∧ 0x20 ≤ c.toNat)) = true →
        Quoted word (word ++ ['"']) :=
    fun word all => quoted_plain (Texts.forall_mem_of_all word all)
  have table : SpellsMember ("table".toList, .string name)
      (before ++ '"' :: ("table\"".toList ++ ':' :: (gap ++ label))) :=
    ⟨before, _, gap, label, rfl, blank, plain "table".toList rfl, blank_gap, label_spelled⟩
  have rows : SpellsMember ("rows".toList, items)
      (before ++ '"' :: ("rows\"".toList ++ ':' :: (gap ++ array))) :=
    ⟨before, _, gap, array, rfl, blank, plain "rows".toList rfl, blank_gap, items_spelled⟩
  have object := Spells.object (spellsMembers_join (.cons table (.cons rows .nil))
    (List.cons_ne_nil _ _) blank_after)
  rw [List.intercalate_cons_cons, List.intercalate_singleton] at object
  simp only [List.append_assoc, List.cons_append, List.nil_append] at object ⊢
  exact object

theorem exported_spelled (options : ExportOptions) (table : SqlText.TableRef)
    (columns : List Text) (slot : JsonSlot) (pages : List (List (List Value))) :
    ∃ spelled after, exported serializer options table columns slot pages = spelled ++ after ∧
      Spells (exportDoc serializer options table columns slot pages.flatten) spelled ∧
      Space after := by
  let begun : RowWriter := ⟨options, table, columns, slot, 0⟩
  let done : RowWriter := ⟨options, table, columns, slot, pages.flatten.length⟩
  have array : Spells (.array (pages.flatten.map (rowDoc serializer columns)))
      ('[' :: (separated 0 (pages.flatten.map (begun.ledRow serializer)) ++ done.arrayEnd)) :=
    array_spelled serializer done pages.flatten rfl
  have label : Spells (.string (tableLabel table)) (serializer.string (tableLabel table)) :=
    string_spelled (tableLabel table)
  have text : exported serializer options table columns slot pages =
      begun.begin serializer ++ separated 0 (pages.flatten.map (begun.ledRow serializer)) ++
        done.finish := by
    rw [exported, RowWriter.pages_eq]
    simp only [Nat.zero_add]
    rfl
  rw [text, exportDoc, RowWriter.begin, RowWriter.finish]
  generalize separated 0 (pages.flatten.map (begun.ledRow serializer)) = body at *
  by_cases envelope : slot = .standalone ∧ options.jsonShape = .envelope
  · have wrapped : begun.envelope = true ∧ done.envelope = true := by
      simp only [begun, done, RowWriter.envelope, envelope, decide_true, Bool.and_self, and_self]
    rw [if_pos envelope, if_pos wrapped.1, if_pos wrapped.2]
    cases pretty : options.pretty with
    | true =>
      have object := envelope_spelled (space_line (space_replicate 2)) (space_replicate 1)
        (space_line space_nil) label array
      refine ⟨_, ['\n'], ?_, object, space_line space_nil⟩
      simp only [begun, done, if_true]
      simp
    | false =>
      have object := envelope_spelled space_nil space_nil space_nil label array
      refine ⟨_, ['\n'], ?_, object, space_line space_nil⟩
      simp only [begun, done, Bool.false_eq_true, if_false]
      simp
  · have bare : ¬begun.envelope = true ∧ ¬done.envelope = true := by
      simp only [begun, done, RowWriter.envelope, Bool.and_eq_true, decide_eq_true_eq]
      exact ⟨envelope, envelope⟩
    rw [if_neg envelope, if_neg bare.1, if_neg bare.2]
    by_cases alone : slot = .standalone
    · refine ⟨_, ['\n'], ?_, array, space_line space_nil⟩
      rw [if_pos alone]
      simp
    · refine ⟨_, [], ?_, array, space_nil⟩
      rw [if_neg alone]
      simp

end Documents

section OneLine

/-- The fewest digits of a double, with an exponent. -/
def exponential (number : F64) : Text :=
  (if number.negative then ['-'] else []) ++
    (decimal number.shortest.1 ++ 'e' :: integer number.shortest.2)

theorem isNumber_exponential (number : F64) : isNumber (exponential number) = true := by
  apply isNumber_signed
  · intro c member
    rw [List.mem_cons, integer] at member
    rcases member with rfl | inside
    · rfl
    · split at inside
      · rcases List.mem_cons.mp inside with rfl | digit
        · rfl
        · exact inNumber_decimal _ c digit
      · exact inNumber_decimal _ c inside
  · have digits := List.all_eq_true.mpr (decimal_digits number.shortest.2.natAbs)
    have some_digit : (decimal number.shortest.2.natAbs).isEmpty = false :=
      List.isEmpty_eq_false_iff.mpr (decimal_ne_nil _)
    rw [isFraction, List.head?_cons, if_neg (by decide), isExponent, integer]
    split
    · simp [digits, some_digit]
    · have unsigned := fun (mark : Char) (other : mark.isDigit = false) =>
        head_decimal number.shortest.2.natAbs [] other
      rw [List.append_nil] at unsigned
      have no_sign : ¬((decimal number.shortest.2.natAbs).head? = some '+' ∨
          (decimal number.shortest.2.natAbs).head? = some '-') :=
        not_or.mpr ⟨unsigned '+' rfl, unsigned '-' rfl⟩
      simp [digits, some_digit, no_sign]
  · intro c first
    cases first
    rfl

mutual

theorem shaped_docOf (document : Json) : Shaped (docOf exponential document) := by
  cases document with
  | null => trivial
  | bool => trivial
  | number value =>
    cases value with
    | whole number => exact isNumber_integer number
    | float number =>
      rw [docOf]
      split
      · exact isNumber_exponential number
      · trivial
  | string => trivial
  | array items => exact shaped_docsOf items
  | object fields => exact shaped_membersOf fields

theorem shaped_docsOf (items : List Json) : ShapedItems (docsOf exponential items) := by
  cases items with
  | nil => trivial
  | cons item items => exact ⟨shaped_docOf item, shaped_docsOf items⟩

theorem shaped_membersOf (fields : List (Text × Json)) :
    ShapedMembers (membersOf exponential fields) := by
  cases fields with
  | nil => trivial
  | cons field fields => exact ⟨shaped_docOf field.2, shaped_membersOf fields⟩

end

/-- A serializer that puts every document on one line. -/
def oneLine : Serializer where
  string text := '"' :: quoteTail text
  float := exponential
  compact document := compact (docOf exponential document)
  pretty document := compact (docOf exponential document)
  string_spells text := ⟨_, rfl, quoteTail_quoted text⟩
  float_spells number _ := isNumber_exponential number
  compact_spells document := compact_spells _ (shaped_docOf document)
  pretty_spells document := compact_spells _ (shaped_docOf document)
  pretty_lines document member :=
    absurd (compact_printable _ (shaped_docOf document) _ member) (by decide)

end OneLine

theorem names_mapIdx (columns : List Text) (value : Nat → Doc) :
    (columns.mapIdx fun i name => (name, value i)).map Prod.fst = columns := by
  induction columns generalizing value with
  | nil => rfl
  | cons name columns hypothesis =>
    rw [List.mapIdx_cons, List.map_cons, hypothesis fun i => value (i + 1)]

/-- A JSON export is one document, whatever is exported and however it is paged: an array,
in an envelope where that is asked for, with an object for each row in order, and in it a member
for each column in order. The text depends on the rows alone, and where the column names are
distinct a reader that keeps one value of each name has every cell. -/
theorem exported_reads (serializer : Serializer) (options : ExportOptions)
    (table : SqlText.TableRef) (columns : List Text) (slot : JsonSlot)
    (pages : List (List (List Value))) :
    parse (exported serializer options table columns slot pages) =
      some (exportDoc serializer options table columns slot pages.flatten) ∧
    (∀ others : List (List (List Value)), others.flatten = pages.flatten →
      exported serializer options table columns slot others =
        exported serializer options table columns slot pages) ∧
    (columns.Nodup → ∀ row ∈ pages.flatten, ∀ (i : Nat) (name : Text), columns[i]? = some name →
      (rowDoc serializer columns row).member name =
        some (cellDoc serializer (row[i]?.getD .null))) := by
  refine ⟨?_, ?_, ?_⟩
  · obtain ⟨spelled, after, whole, spells, blank⟩ :=
      exported_spelled serializer options table columns slot pages
    rw [whole]
    exact parse_spells space_nil spells blank
  · intro others same
    rw [exported, exported, RowWriter.pages_eq, RowWriter.pages_eq, same]
  · intro distinct row _ i name column
    apply member_of_nodup
    · rwa [names_mapIdx]
    · obtain ⟨bound, same⟩ := List.getElem?_eq_some_iff.mp column
      exact List.mem_mapIdx.mpr ⟨i, bound, by rw [same]⟩

/-- No reader has the rows themselves: a double that is no number is written as a null is. -/
theorem exported_loses :
    ¬∃ decode : Text → List (List Value), ∀ options table columns slot pages,
      decode (exported oneLine options table columns slot pages) = pages.flatten := by
  rintro ⟨decode, reads⟩
  have no_number := reads ⟨.array, false⟩ ⟨none, "t".toList⟩ ["a".toList] .standalone
    [[[.float F64.nan]]]
  have null := reads ⟨.array, false⟩ ⟨none, "t".toList⟩ ["a".toList] .standalone [[[.null]]]
  have same : exported oneLine ⟨.array, false⟩ ⟨none, "t".toList⟩ ["a".toList] .standalone
        [[[.float F64.nan]]] =
      exported oneLine ⟨.array, false⟩ ⟨none, "t".toList⟩ ["a".toList] .standalone
        [[[.null]]] := by
    decide +kernel
  rw [same, null] at no_number
  cases no_number

end DbFree.JsonExport
