import DbFree.SqlText

/- Cells on the clipboard: tab-separated text, as spreadsheets write and read it
(features/grid/cellRange.ts). -/
namespace DbFree.Clipboard

open SqlText

def isSpecial (c : Char) : Bool := c = '\t' || c = '\n' || c = '\r' || c = '"'

/-- One field, quoted only when it holds a tab, newline or quote. -/
def tsvField (text : Text) : Text :=
  if text.any isSpecial then '"' :: (replaceChar text '"' ['"', '"'] ++ ['"']) else text

def toTsv (rows : List (List Text)) : Text :=
  join ['\n'] (rows.map fun row => join ['\t'] (row.map tsvField))

mutual

/-- The reader outside quotes; `row` and `field` are what it has of the current row. -/
def outside (row : List Text) (field : Text) (atFieldStart : Bool) : Text → List (List Text)
  | [] => if field ≠ [] ∨ row ≠ [] then [row ++ [field]] else []
  | '\r' :: '\n' :: rest => (row ++ [field]) :: outside [] [] true rest
  | ch :: rest =>
    if ch = '"' ∧ atFieldStart then inQuotes row field rest
    else if ch = '\t' then outside (row ++ [field]) [] true rest
    else if ch = '\n' ∨ ch = '\r' then (row ++ [field]) :: outside [] [] true rest
    else outside row (field ++ [ch]) false rest

def inQuotes (row : List Text) (field : Text) : Text → List (List Text)
  | [] => if field ≠ [] ∨ row ≠ [] then [row ++ [field]] else []
  | '"' :: '"' :: rest => inQuotes row (field ++ ['"']) rest
  | '"' :: rest => outside row field false rest
  | ch :: rest => inQuotes row (field ++ [ch]) rest

end

def parseTsv (text : Text) : List (List Text) := outside [] [] true text

example : parseTsv "a\t\"x\"\"y\n\"\r\nb\n".toList =
    [["a".toList, "x\"y\n".toList], ["b".toList]] := by
  rfl

variable {row : List Text} {field : Text}

theorem outside_plain {c : Char} (plain : isSpecial c = false) (atFieldStart : Bool) (rest : Text) :
    outside row field atFieldStart (c :: rest) = outside row (field ++ [c]) false rest := by
  simp only [isSpecial, Bool.or_eq_false_iff, decide_eq_false_iff_not] at plain
  obtain ⟨⟨⟨noTab, noFeed⟩, noReturn⟩, noQuote⟩ := plain
  rw [outside.eq_3]
  · rw [if_neg fun both => noQuote both.1, if_neg noTab, if_neg (not_or.mpr ⟨noFeed, noReturn⟩)]
  · exact fun _ same => absurd same noReturn

theorem outside_tab (atFieldStart : Bool) (rest : Text) :
    outside row field atFieldStart ('\t' :: rest) = outside (row ++ [field]) [] true rest := rfl

theorem outside_feed (atFieldStart : Bool) (rest : Text) :
    outside row field atFieldStart ('\n' :: rest) = (row ++ [field]) :: outside [] [] true rest :=
  rfl

theorem inQuotes_written (text rest : Text) (apart : rest.head? ≠ some '"') :
    inQuotes row field (replaceChar text '"' ['"', '"'] ++ '"' :: rest) =
      outside row (field ++ text) false rest := by
  induction text generalizing field with
  | nil =>
    rw [List.append_nil]
    apply inQuotes.eq_3
    rintro later rfl
    exact apart rfl
  | cons c text hypothesis =>
    rw [replaceChar, List.flatMap_cons, List.append_assoc]
    rw [replaceChar] at hypothesis
    split
    · rename_i same
      rw [List.cons_append, List.singleton_append, inQuotes.eq_2, hypothesis, same,
        List.append_assoc]
      rfl
    · rename_i other
      rw [List.singleton_append, inQuotes.eq_4, hypothesis, List.append_assoc]
      · rfl
      · exact fun _ same => absurd same other
      · exact fun same => absurd same other

theorem outside_bare {text : Text} (plain : text.any isSpecial = false) (atFieldStart : Bool)
    (rest : Text) :
    outside row field atFieldStart (text ++ rest) =
      outside row (field ++ text) (atFieldStart && text.isEmpty) rest := by
  induction text generalizing field atFieldStart with
  | nil => rw [List.nil_append, List.append_nil, List.isEmpty_nil, Bool.and_true]
  | cons c text hypothesis =>
    rw [List.any_cons, Bool.or_eq_false_iff] at plain
    rw [List.cons_append, outside_plain plain.1, hypothesis plain.2, Bool.false_and,
      List.append_assoc, List.isEmpty_cons, Bool.and_false]
    rfl

/-- A written field is read as itself, whatever is behind it but a quote. -/
theorem outside_field (text rest : Text) (apart : rest.head? ≠ some '"') :
    outside row [] true (tsvField text ++ rest) = outside row text text.isEmpty rest := by
  unfold tsvField
  split
  · rename_i special
    have filled : text.isEmpty = false := by
      cases text with
      | nil => cases special
      | cons c text => rfl
    rw [List.cons_append, List.append_assoc, filled]
    exact inQuotes_written text rest apart
  · rename_i plain
    rw [outside_bare (Bool.eq_false_iff.mpr plain), Bool.true_and, List.nil_append]

/-- A row up to its last field, and how the text goes on. -/
theorem outside_row {cells : List Text} (filled : cells ≠ []) (rest : Text)
    (apart : rest.head? ≠ some '"') :
    ∃ last, cells.getLast? = some last ∧
      outside row [] true (join ['\t'] (cells.map tsvField) ++ rest) =
        outside (row ++ cells.dropLast) last last.isEmpty rest := by
  induction cells generalizing row with
  | nil => exact absurd rfl filled
  | cons cell cells hypothesis =>
    cases cells with
    | nil =>
      refine ⟨cell, rfl, ?_⟩
      rw [List.map_singleton, join_singleton, outside_field cell rest apart,
        List.dropLast_singleton, List.append_nil]
    | cons next cells =>
      obtain ⟨last, isLast, read⟩ := @hypothesis (row ++ [cell]) (List.cons_ne_nil next cells)
      refine ⟨last, isLast, ?_⟩
      rw [List.map_cons, List.map_cons, join_cons_cons, List.append_assoc,
        List.append_assoc, outside_field cell]
      · rw [List.singleton_append, outside_tab, ← List.map_cons, read, List.append_assoc]
        rfl
      · exact fun same => by cases same

theorem outside_last_row {cells : List Text} (filled : cells ≠ []) :
    outside [] [] true (join ['\t'] (cells.map tsvField)) =
      if cells = [[]] then [] else [cells] := by
  obtain ⟨last, isLast, read⟩ := @outside_row [] _ filled [] (fun same => by cases same)
  have shape : cells.dropLast ++ [last] = cells := List.dropLast_append_getLast? last isLast
  rw [List.append_nil, List.nil_append] at read
  rw [read, outside, shape]
  have single : cells = [[]] ↔ ¬(last ≠ [] ∨ cells.dropLast ≠ []) := by
    constructor
    · rintro rfl
      cases isLast
      exact not_or.mpr ⟨fun some_char => some_char rfl, fun some_cell => some_cell rfl⟩
    · intro none_there
      rw [not_or, not_not, not_not] at none_there
      rw [← shape, none_there.1, none_there.2]
      rfl
  split
  · rename_i kept
    rw [if_neg fun same => single.mp same kept]
  · rename_i dropped
    rw [if_pos (single.mpr dropped)]

/-- What is copied is pasted, but for an empty cell alone in the last row. -/
theorem parseTsv_toTsv_eq {rows : List (List Text)} (some_row : rows ≠ [])
    (filled : ∀ row ∈ rows, row ≠ []) :
    parseTsv (toTsv rows) = if rows.getLast? = some [[]] then rows.dropLast else rows := by
  unfold parseTsv toTsv
  induction rows with
  | nil => exact absurd rfl some_row
  | cons cells rows hypothesis =>
    have own := filled cells List.mem_cons_self
    cases rows with
    | nil =>
      rw [List.map_singleton, join_singleton, outside_last_row own]
      simp only [List.getLast?_singleton, Option.some_inj]
      rfl
    | cons next rows =>
      have later := hypothesis (List.cons_ne_nil next rows)
        fun row member => filled row (List.mem_cons_of_mem cells member)
      have feed : (['\n'] ++ join ['\n'] ((next :: rows).map fun row =>
          join ['\t'] (row.map tsvField))).head? ≠ some '"' := fun same => by cases same
      obtain ⟨last, isLast, read⟩ := @outside_row [] _ own _ feed
      have shape : cells.dropLast ++ [last] = cells := List.dropLast_append_getLast? last isLast
      rw [List.map_cons, List.map_cons, join_cons_cons]
      refine read.trans ?_
      rw [List.nil_append, List.singleton_append, outside_feed, shape, later]
      simp only [List.getLast?_cons_cons]
      split <;> rfl

theorem parseTsv_toTsv_iff {rows : List (List Text)} (some_row : rows ≠ [])
    (filled : ∀ row ∈ rows, row ≠ []) :
    parseTsv (toTsv rows) = rows ↔ rows.getLast? ≠ some [[]] := by
  rw [parseTsv_toTsv_eq some_row filled]
  split
  · rename_i lost
    refine iff_of_false ?_ (not_not.mpr lost)
    intro same
    have shorter := congrArg List.length same
    rw [List.length_dropLast] at shorter
    have size := List.length_pos_iff.mpr some_row
    omega
  · rename_i kept
    exact iff_of_true rfl kept

end DbFree.Clipboard
