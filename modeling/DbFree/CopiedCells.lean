import DbFree.EditedText
import DbFree.F64Spelling
import DbFree.Trimming

/- Copied cells: which of them are themselves again when they are pasted. -/
namespace DbFree.Fields

open Browser (trim toNumber)
open Javascript (numberToString stringify)

def isTemporal : FieldKind → Bool
  | .date | .time | .datetime => true
  | _ => false

def boolWords : List Text := ["true", "1", "t", "false", "0", "f"].map String.toList

/-- A text that no reading of the column's kind takes for something else. -/
def StaysText (library : Library) (kind : FieldKind) (text : Text) : Prop :=
  match kind with
  | .bool => library.lower (trim text) ∉ boolWords
  | .int => trim text = [] ∨ ∀ number, toNumber (trim text) = some number → isInteger number = false
  | .decimal | .float => trim text = [] ∨ toNumber (trim text) = none
  | .json => library.parseJson text = none
  | .date | .time | .datetime => False
  | .bytes | .text | .enum | .array | .vector => True

/-- A cell that a column of this kind gives back: bytes and cells without a type never, a text
unless it is the mark for NULL or read as something else. -/
def Pastes (library : Library) (kind : FieldKind) : Cell → Prop
  | .null => True
  | .bool _ => kind = .bool
  | .int number =>
    kind = .int ∧ isInteger number = true ∧ toNumber (trim (numberToString number)) = some number
  | .float number => kind = .float ∧ toNumber (trim (numberToString number)) = some number
  | .decimal text => kind = .decimal ∧ trim text = text ∧ text ≠ [] ∧ (toNumber text).isSome = true
  | .text text => text ≠ "NULL".toList ∧ StaysText library kind text
  | .json document => kind = .json ∧ library.parseJson (stringify document) = some document
  | .dateTime text => isTemporal kind = true ∧ text ≠ "NULL".toList ∧ trim text = text
  | .bytes _ | .unsupported _ => False

theorem not_upper_of_digits {text : Text} (digits : ∀ c ∈ text, F64.inNumber c = true) :
    'N' ∉ text := by
  intro member
  have digit := digits 'N' member
  revert digit
  decide

/-- No number but NaN is spelled with a capital N. -/
theorem numberToString_ne_mark (number : F64) : numberToString number ≠ "NULL".toList := by
  have signed : ∀ (negative : Bool) (body : Text), 'N' ∉ body →
      (if negative then ['-'] else []) ++ body ≠ "NULL".toList := by
    intro negative body absent same
    cases negative with
    | true => cases same
    | false =>
      have whole : body = "NULL".toList := same
      rw [whole] at absent
      exact absent (by decide)
  unfold numberToString
  dsimp only
  split
  · decide
  · split
    · exact signed _ _ (by decide)
    · split
      · decide
      · split
        · exact signed _ _ (not_upper_of_digits fun c => F64.inNumber_of_mem_plain _ _ c)
        · rw [List.append_assoc]
          apply signed
          have spelled : ∀ count c, c ∈ (decimal count).rdropWhile (· == '0') →
              F64.inNumber c = true := fun count c member =>
            F64.inNumber_of_mem_decimal count c ((List.rdropWhile_prefix _ _).subset member)
          intro member
          rcases List.mem_append.mp member with mantissa | exponent
          · split at mantissa
            · exact not_upper_of_digits (spelled _) mantissa
            · rcases List.mem_append.mp mantissa with first | rest
              · exact not_upper_of_digits
                  (fun c inside => spelled _ c ((List.take_sublist _ _).subset inside)) first
              · rcases List.mem_cons.mp rest with point | behind
                · revert point
                  decide
                · exact not_upper_of_digits
                    (fun c inside => spelled _ c ((List.drop_sublist _ _).subset inside)) behind
          · rcases List.mem_cons.mp exponent with mark | rest
            · revert mark
              decide
            · rcases List.mem_cons.mp rest with sign | behind
              · revert sign
                split <;> decide
              · exact not_upper_of_digits (F64.inNumber_of_mem_decimal _) behind

theorem stringify_ne_mark (document : Json) : stringify document ≠ "NULL".toList := by
  cases document with
  | null => decide
  | bool value => cases value <;> decide
  | number value =>
    have finite : ∀ number, Javascript.numberJson number ≠ "NULL".toList := by
      intro number
      unfold Javascript.numberJson
      split
      · exact numberToString_ne_mark number
      · decide
    cases value <;> exact finite _
  | string text => exact fun same => by cases same
  | array items => exact fun same => by cases same
  | object fields => exact fun same => by cases same

section Readings

variable {library : Library}

/-- What a kind makes of a text that is not the mark for NULL. -/
def readAs (library : Library) (kind : FieldKind) (text : Text) : Cell :=
  match kind with
  | .bool =>
    if library.lower (trim text) ∈ ["true".toList, "1".toList, "t".toList] then .bool true
    else if library.lower (trim text) ∈ ["false".toList, "0".toList, "f".toList] then .bool false
    else .text text
  | .int =>
    match toNumber (trim text) with
    | some n => if trim text ≠ [] ∧ isInteger n then .int n else .text text
    | none => .text text
  | .decimal =>
    if trim text ≠ [] ∧ (toNumber (trim text)).isSome then .decimal (trim text) else .text text
  | .float =>
    match toNumber (trim text) with
    | some n => if trim text ≠ [] then .float n else .text text
    | none => .text text
  | .json =>
    match library.parseJson text with
    | some document => .json document
    | none => .text text
  | .date | .time | .datetime => .dateTime (trim text)
  | .bytes | .text | .enum | .array | .vector => .text text

theorem parseEdited_eq (text typeName : Text) (original : Option Cell) (enumValues : List Text) :
    parseEdited library text typeName original enumValues =
      if text = "NULL".toList then .null
      else readAs library (fieldKind library typeName original enumValues) text := rfl

theorem readAs_text_iff (kind : FieldKind) (text : Text) :
    readAs library kind text = .text text ↔ StaysText library kind text := by
  have split_words : ∀ word, word ∈ boolWords ↔
      word ∈ ["true".toList, "1".toList, "t".toList] ∨
        word ∈ ["false".toList, "0".toList, "f".toList] := by
    intro word
    rw [← List.mem_append]
    rfl
  cases kind with
  | bool =>
    simp only [readAs, StaysText, split_words]
    split
    · rename_i truth
      exact iff_of_false (fun same => by cases same) (not_not.mpr (Or.inl truth))
    · split
      · rename_i lie
        exact iff_of_false (fun same => by cases same) (not_not.mpr (Or.inr lie))
      · rename_i noTruth noLie
        exact iff_of_true rfl (not_or.mpr ⟨noTruth, noLie⟩)
  | int =>
    simp only [readAs, StaysText]
    cases read : toNumber (trim text) with
    | none => exact iff_of_true rfl (Or.inr fun number found => by cases found)
    | some n =>
      dsimp only
      split
      · rename_i both
        refine iff_of_false (fun same => by cases same) ?_
        rintro (empty | other)
        · exact both.1 empty
        · rw [other n rfl] at both
          exact Bool.false_ne_true both.2
      · rename_i not_both
        refine iff_of_true rfl ?_
        by_cases empty : trim text = []
        · exact Or.inl empty
        · refine Or.inr fun number found => ?_
          cases found
          exact Bool.eq_false_iff.mpr fun whole => not_both ⟨empty, whole⟩
  | decimal =>
    simp only [readAs, StaysText]
    split
    · rename_i both
      refine iff_of_false (fun same => by cases same) ?_
      rintro (empty | unread)
      · exact both.1 empty
      · rw [unread] at both
        exact Bool.false_ne_true both.2
    · rename_i not_both
      refine iff_of_true rfl ?_
      by_cases empty : trim text = []
      · exact Or.inl empty
      · exact Or.inr (Option.not_isSome_iff_eq_none.mp fun some_read => not_both ⟨empty, some_read⟩)
  | float =>
    simp only [readAs, StaysText]
    cases read : toNumber (trim text) with
    | none => exact iff_of_true rfl (Or.inr rfl)
    | some n =>
      dsimp only
      split
      · rename_i filled
        refine iff_of_false (fun same => by cases same) ?_
        rintro (empty | unread)
        · exact filled empty
        · cases unread
      · rename_i empty
        exact iff_of_true rfl (Or.inl (not_not.mp empty))
  | json =>
    simp only [readAs, StaysText]
    cases library.parseJson text with
    | none => exact iff_of_true rfl rfl
    | some document => exact iff_of_false (fun same => by cases same) (fun same => by cases same)
  | date | time | datetime => exact iff_of_false (fun same => by cases same) not_false
  | bytes | text | enum | array | vector => exact iff_of_true rfl trivial

/-- What the readings of a kind can give. -/
inductive Gives (library : Library) (text : Text) : FieldKind → Cell → Prop
  | text (kind : FieldKind) : Gives library text kind (.text text)
  | bool (value : Bool) : Gives library text .bool (.bool value)
  | int (number : F64) (filled : trim text ≠ []) (read : toNumber (trim text) = some number)
      (whole : isInteger number = true) : Gives library text .int (.int number)
  | decimal (filled : trim text ≠ []) (read : (toNumber (trim text)).isSome = true) :
      Gives library text .decimal (.decimal (trim text))
  | float (number : F64) (filled : trim text ≠ []) (read : toNumber (trim text) = some number) :
      Gives library text .float (.float number)
  | json (document : Json) (read : library.parseJson text = some document) :
      Gives library text .json (.json document)
  | dateTime (kind : FieldKind) (temporal : isTemporal kind = true) :
      Gives library text kind (.dateTime (trim text))

theorem readAs_gives (kind : FieldKind) (text : Text) :
    Gives library text kind (readAs library kind text) := by
  cases kind with
  | bool =>
    simp only [readAs]
    split
    · exact .bool true
    · split
      · exact .bool false
      · exact .text .bool
  | int =>
    simp only [readAs]
    split
    · rename_i n read
      split
      · rename_i both
        exact .int n both.1 read both.2
      · exact .text .int
    · exact .text .int
  | decimal =>
    simp only [readAs]
    split
    · rename_i both
      exact .decimal both.1 both.2
    · exact .text .decimal
  | float =>
    simp only [readAs]
    split
    · rename_i n read
      split
      · rename_i filled
        exact .float n filled read
      · exact .text .float
    · exact .text .float
  | json =>
    simp only [readAs]
    split
    · rename_i document read
      exact .json document read
    · exact .text .json
  | date => exact .dateTime .date rfl
  | time => exact .dateTime .time rfl
  | datetime => exact .dateTime .datetime rfl
  | bytes => exact .text .bytes
  | text => exact .text .text
  | enum => exact .text .enum
  | array => exact .text .array
  | vector => exact .text .vector

theorem Gives.decimal_eq {text read : Text} {kind : FieldKind}
    (given : Gives library text kind (.decimal read)) :
    kind = .decimal ∧ trim text = read ∧ trim text ≠ [] ∧
      (toNumber (trim text)).isSome = true := by
  cases given with
  | decimal filled isNumber => exact ⟨rfl, rfl, filled, isNumber⟩

theorem Gives.dateTime_eq {text read : Text} {kind : FieldKind}
    (given : Gives library text kind (.dateTime read)) :
    isTemporal kind = true ∧ trim text = read := by
  cases given with
  | dateTime _ temporal => exact ⟨temporal, rfl⟩

/-- A number's own spelling is not blank where it is read back. -/
theorem spelled_filled {number : F64}
    (read : toNumber (trim (numberToString number)) = some number) :
    trim (numberToString number) ≠ [] := by
  intro empty
  rw [empty] at read
  have zero : F64.zero false = number := Option.some.inj read
  rw [← zero] at empty
  revert empty
  decide

/-- A cell of any column comes back from the clipboard exactly where its kind gives it back. -/
theorem pastes_iff (cell : Cell) (typeName : Text) (original : Option Cell)
    (enumValues : List Text) :
    parseEdited library (clipboardText cell) typeName original enumValues = cell ↔
      Pastes library (fieldKind library typeName original enumValues) cell := by
  rw [parseEdited_eq]
  generalize fieldKind library typeName original enumValues = kind
  have gives := @readAs_gives library kind (clipboardText cell)
  cases cell with
  | null => exact iff_of_true (if_pos rfl) trivial
  | bool value =>
    have words : library.lower (trim "true".toList) = "true".toList ∧
        library.lower (trim "false".toList) = "false".toList :=
      ⟨library.lower_plain _ (by decide), library.lower_plain _ (by decide)⟩
    have plain : clipboardText (.bool value) ≠ "NULL".toList := by cases value <;> decide
    rw [if_neg plain]
    constructor
    · intro same
      rw [same] at gives
      cases gives
      rfl
    · rintro rfl
      cases value with
      | true =>
        show readAs library .bool "true".toList = _
        rw [readAs, words.1, if_pos (by decide)]
      | false =>
        show readAs library .bool "false".toList = _
        rw [readAs, words.2, if_neg (by decide), if_pos (by decide)]
  | int number =>
    have plain : clipboardText (.int number) ≠ "NULL".toList := numberToString_ne_mark number
    rw [if_neg plain]
    constructor
    · intro same
      rw [same] at gives
      cases gives with
      | int _ _ read whole => exact ⟨rfl, whole, read⟩
    · rintro ⟨rfl, whole, read⟩
      show readAs library .int (numberToString number) = _
      simp only [readAs, read]
      exact if_pos ⟨spelled_filled read, whole⟩
  | float number =>
    have plain : clipboardText (.float number) ≠ "NULL".toList := numberToString_ne_mark number
    rw [if_neg plain]
    constructor
    · intro same
      rw [same] at gives
      cases gives with
      | float _ _ read => exact ⟨rfl, read⟩
    · rintro ⟨rfl, read⟩
      show readAs library .float (numberToString number) = _
      simp only [readAs, read]
      exact if_pos (spelled_filled read)
  | decimal text =>
    show (if text = "NULL".toList then _ else readAs library kind text) = _ ↔ _
    split
    · rename_i mark
      refine iff_of_false (fun same => by cases same) ?_
      rintro ⟨-, -, -, read⟩
      rw [mark] at read
      revert read
      decide
    · constructor
      · intro same
        have given : Gives library text kind (.decimal text) := by
          rw [← same]
          exact readAs_gives kind text
        obtain ⟨rfl, trimmed, filled, read⟩ := given.decimal_eq
        rw [trimmed] at filled read
        exact ⟨rfl, trimmed, filled, read⟩
      · rintro ⟨rfl, trimmed, filled, read⟩
        simp only [readAs, trimmed]
        exact if_pos ⟨filled, read⟩
  | text text =>
    show (if text = "NULL".toList then _ else readAs library kind text) = _ ↔ _
    split
    · rename_i mark
      exact iff_of_false (fun same => by cases same) fun kept => kept.1 mark
    · rename_i plain
      rw [readAs_text_iff]
      exact (and_iff_right plain).symm
  | bytes text =>
    refine iff_of_false ?_ not_false
    split
    · exact fun same => by cases same
    · intro same
      rw [same] at gives
      cases gives
  | unsupported text =>
    refine iff_of_false ?_ not_false
    split
    · exact fun same => by cases same
    · intro same
      rw [same] at gives
      cases gives
  | json document =>
    have plain : clipboardText (.json document) ≠ "NULL".toList := stringify_ne_mark document
    rw [if_neg plain]
    constructor
    · intro same
      rw [same] at gives
      cases gives with
      | json _ read => exact ⟨rfl, read⟩
    · rintro ⟨rfl, read⟩
      show readAs library .json (stringify document) = _
      simp only [readAs, read]
  | dateTime text =>
    show (if text = "NULL".toList then _ else readAs library kind text) = _ ↔ _
    split
    · rename_i mark
      exact iff_of_false (fun same => by cases same) fun kept => kept.2.1 mark
    · rename_i plain
      constructor
      · intro same
        have given : Gives library text kind (.dateTime text) := by
          rw [← same]
          exact readAs_gives kind text
        obtain ⟨temporal, trimmed⟩ := given.dateTime_eq
        exact ⟨temporal, plain, trimmed⟩
      · rintro ⟨temporal, -, trimmed⟩
        have read : readAs library kind text = .dateTime (trim text) := by
          cases kind <;> first | rfl | cases temporal
        rw [read, trimmed]

end Readings

/-- Copied and pasted: rectangles of texts come back but for an empty cell alone in the last row,
and cells where their column's kind gives them back. -/
theorem copy_paste_iff (library : Library) :
    (∀ (rows : List (List Text)) (width : Nat), rows ≠ [] → 0 < width →
      (∀ row ∈ rows, row.length = width) →
        (Clipboard.parseTsv (Clipboard.toTsv rows) = rows ↔ rows.getLast? ≠ some [[]])) ∧
      ∀ (cell : Cell) (typeName : Text) (original : Option Cell) (enumValues : List Text),
        parseEdited library (clipboardText cell) typeName original enumValues = cell ↔
          Pastes library (fieldKind library typeName original enumValues) cell := by
  refine ⟨fun rows width some_row wide equal => ?_, pastes_iff⟩
  apply Clipboard.parseTsv_toTsv_iff some_row
  intro row member empty
  have size := equal row member
  rw [empty, List.length_nil] at size
  omega

/-- One column with nothing in the last cell, and the text NULL. -/
theorem last_row_and_null_text_lost :
    Clipboard.parseTsv (Clipboard.toTsv [["a".toList], [[]]]) ≠ [["a".toList], [[]]] ∧
      ∀ library : Library,
        parseEdited library (clipboardText (.text "NULL".toList)) "text".toList none [] ≠
          .text "NULL".toList :=
  ⟨by decide, fun _ same => by cases same⟩

/-- Lower-casing of ASCII, and no JSON. -/
def plainLibrary : Library where
  lower := Texts.toAsciiLowercase
  lower_plain _ small := Texts.toAsciiLowercase_small small
  parseJson _ := none

theorem two_columns_paste :
    (Clipboard.parseTsv (Clipboard.toTsv [["a".toList, []], [[], []]]) =
        [["a".toList, []], [[], []]] ↔
      ([["a".toList, []], [[], []]] : List (List Text)).getLast? ≠ some [[]]) ∧
      (parseEdited plainLibrary (clipboardText (.text "x".toList)) "text".toList none [] =
          .text "x".toList ↔
        Pastes plainLibrary (fieldKind plainLibrary "text".toList none []) (.text "x".toList)) := by
  obtain ⟨tables, cells⟩ := copy_paste_iff plainLibrary
  exact ⟨tables _ 2 (by decide) (by decide) (by decide), cells _ _ _ _⟩

end DbFree.Fields
