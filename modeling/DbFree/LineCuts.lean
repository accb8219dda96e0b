import DbFree.LineGroups

/- A statement of a language cut by lines is cut as itself, and never comes out of what
several of them were joined to with `;`. -/
namespace DbFree.RunTargets

open GuardDialect
open Texts hiding lines

/-- Lines that differ by the white space at their ends. -/
def SameLine (line line' : Text) : Prop := trim line = trim line'

theorem SameLine.blank_eq {line line' : Text} (same : SameLine line line') :
    blank line = blank line' := by
  rw [← trim_isEmpty, ← trim_isEmpty, same]

/-- Lines of a group without the white space at the ends of the group. -/
theorem trim_joinLines (group : List Text) (first last : Text) (later front : List Text)
    (shape : group = first :: later) (shape' : group = front ++ [last])
    (visible : blank first = false) (visible' : blank last = false) :
    ∃ group', trim (joinLines group) = joinLines group' ∧ List.Forall₂ SameLine group group' ∧
      ∀ c, (∀ line ∈ group, c ∉ line) → ∀ line ∈ group', c ∉ line := by
  have start : trimStart (joinLines group) = joinLines (trimStart first :: later) := by
    rw [shape, joinLines_cons, joinLines_cons, trimStart_append _ _ visible]
  have ending : ∀ (front : List Text) (last : Text), blank last = false →
      trimEnd (joinLines (front ++ [last])) = joinLines (front ++ [trimEnd last]) := by
    intro front last visible
    cases front with
    | nil => simp [joinLines]
    | cons line front =>
      rw [joinLines_append _ _ (List.cons_ne_nil line front),
        joinLines_append _ _ (List.cons_ne_nil line front), behind_cons, behind_cons, behind_nil,
        List.append_nil, List.append_nil, List.append_cons, trimEnd_append _ _ visible,
        ← List.append_cons]
  have startless : ∀ c line, c ∉ line → c ∉ trimStart line :=
    fun c line absent member => absent ((List.dropWhile_sublist _).subset member)
  have endless : ∀ c line, c ∉ line → c ∉ trimEnd line :=
    fun c line absent member => absent ((List.rdropWhile_prefix _ _).subset member)
  rw [trim, start]
  cases front with
  | nil =>
    rw [shape, List.nil_append, List.cons.injEq] at shape'
    obtain ⟨rfl, rfl⟩ := shape'
    refine ⟨[trimEnd (trimStart first)], ?_, ?_, ?_⟩
    · have done := ending [] (trimStart first) (by rwa [blank_trimStart])
      exact done
    · rw [shape]
      exact .cons (by rw [SameLine, trim_trimEnd, trim_trimStart]) .nil
    · intro c absent line member
      rw [List.mem_singleton.mp member]
      exact endless c _ (startless c _ (absent first (by rw [shape]; exact List.mem_cons_self)))
  | cons other front =>
    rw [shape, List.cons_append, List.cons.injEq] at shape'
    obtain ⟨rfl, rfl⟩ := shape'
    refine ⟨trimStart first :: (front ++ [trimEnd last]), ?_, ?_, ?_⟩
    · exact ending (trimStart first :: front) last visible'
    · rw [shape]
      refine .cons (by rw [SameLine, trim_trimStart]) ?_
      have kept : List.Forall₂ SameLine front front := List.forall₂_same.mpr fun line _ => rfl
      have ended : List.Forall₂ SameLine [last] [trimEnd last] :=
        .cons (by rw [SameLine, trim_trimEnd]) .nil
      exact List.rel_append kept ended
    · rw [shape]
      intro c absent line member
      simp only [List.mem_cons, List.mem_append, List.not_mem_nil, or_false] at member absent
      rcases member with rfl | inFront | rfl
      · exact startless c _ (absent first (Or.inl rfl))
      · exact absent line (Or.inr (Or.inl inFront))
      · exact endless c _ (absent last (Or.inr (Or.inr rfl)))

/-- A way to group the lines of a text into statements, `opens` being a test of a line's
trimmed text that lets the line begin a group. -/
structure GroupsLines (opens : Text → Prop) (groups : List Text → List (List Text)) : Prop where
  visible : ∀ text, opens text → text ≠ []
  separator : ∀ text, opens text → opens (text ++ [';'])
  /-- White space at the ends of the lines does not matter. -/
  related : ∀ lines lines', List.Forall₂ SameLine lines lines' →
    List.Forall₂ (List.Forall₂ SameLine) (groups lines) (groups lines')
  /-- A group is grouped as itself, without the blank lines at its end. -/
  alone : ∀ lines, ∀ group ∈ groups lines,
    groups (group.rdropWhile blank) = [group.rdropWhile blank]
  sublist : ∀ lines, (groups lines).flatten.Sublist lines
  first : ∀ lines, ∀ group ∈ groups lines, ∃ line later, group = line :: later ∧ opens (trim line)
  front : ∀ line later, opens (trim line) →
    ∃ group others rest, groups (line :: later) = group :: others ∧
      line :: later = group ++ rest ∧ group ≠ []

/-- The statements of a text, cut by groups of lines. -/
def groupTexts (groups : List Text → List (List Text)) (text : Text) : List Text :=
  visibleTexts ((groups (Texts.lines text)).map joinLines)

theorem feed_not_mem_lines (text : Text) : ∀ line ∈ Texts.lines text, '\n' ∉ line :=
  not_mem_splitOn '\n' text

theorem lines_joinLines (lines : List Text) (filled : lines ≠ [])
    (feedless : ∀ line ∈ lines, '\n' ∉ line) : Texts.lines (joinLines lines) = lines :=
  List.splitOn_intercalate '\n' feedless filled

theorem joinLines_lines (text : Text) : joinLines (Texts.lines text) = text :=
  List.intercalate_splitOn '\n'

section Cutting

variable {opens : Text → Prop} {groups : List Text → List (List Text)}
  (grouping : GroupsLines opens groups)

include grouping

/-- A statement is cut as itself, and its first line may begin a statement. -/
theorem groupTexts_alone (text piece : Text) (member : piece ∈ groupTexts groups text) :
    groupTexts groups piece = [piece] ∧
      ∃ line later, Texts.lines piece = line :: later ∧ opens (trim line) := by
  simp only [groupTexts, visibleTexts, List.mem_filter, List.mem_map, exists_exists_and_eq_and]
    at member
  obtain ⟨⟨group, inGroups, rfl⟩, visible⟩ := member
  obtain ⟨first, later, shape, opened⟩ := grouping.first _ group inGroups
  have firstVisible : blank first = false := by
    rw [← trim_isEmpty]
    exact List.isEmpty_eq_false_iff.mpr (grouping.visible _ opened)
  have own := grouping.alone _ group inGroups
  have feedless : ∀ line ∈ group, '\n' ∉ line := by
    intro line inGroup
    refine feed_not_mem_lines text line ((grouping.sublist _).subset ?_)
    exact List.mem_flatten.mpr ⟨group, inGroups, inGroup⟩
  -- The group without the blank lines at its end.
  obtain ⟨blanks, parts, allBlank⟩ : ∃ blanks, group = group.rdropWhile blank ++ blanks ∧
      ∀ line ∈ blanks, blank line = true := by
    refine ⟨group.rtakeWhile blank, ?_, fun line => List.mem_rtakeWhile_imp⟩
    rw [List.rdropWhile, List.rtakeWhile, ← List.reverse_append, List.takeWhile_append_dropWhile,
      List.reverse_reverse]
  have kept : group.rdropWhile blank ≠ [] := by
    intro empty
    rw [empty, List.nil_append] at parts
    rw [allBlank first (by rw [← parts, shape]; exact List.mem_cons_self)] at firstVisible
    cases firstVisible
  obtain ⟨later', shape'⟩ : ∃ later', group.rdropWhile blank = first :: later' := by
    obtain ⟨line, later', shape'⟩ := List.exists_cons_of_ne_nil kept
    rw [shape', List.cons_append, shape, List.cons.injEq] at parts
    exact ⟨later', by rw [shape', parts.1]⟩
  obtain ⟨front, last, shape''⟩ : ∃ front last, group.rdropWhile blank = front ++ [last] :=
    ⟨_, _, (List.dropLast_append_getLast kept).symm⟩
  have lastVisible : blank last = false := by
    have not := List.rdropWhile_last_not blank group kept
    rw [List.getLast_congr kept (by simp) shape''] at not
    simpa using not
  have sameText : trim (joinLines group) = trim (joinLines (group.rdropWhile blank)) := by
    have white : blank (behind blanks) = true := by
      rw [blank, behind, List.all_flatMap, List.all_eq_true]
      intro line inBlanks
      exact allBlank line inBlanks
    conv => lhs; rw [parts, joinLines_append _ _ kept, trim_white _ _ white]
  generalize group.rdropWhile blank = core at *
  obtain ⟨group', joined, same, absent⟩ :=
    trim_joinLines core first last later' front shape' shape'' firstVisible lastVisible
  have coreFeedless : ∀ line ∈ core, '\n' ∉ line := by
    intro line inCore
    exact feedless line (by rw [parts]; exact List.mem_append_left _ inCore)
  have filled : group' ≠ [] := by
    rintro rfl
    rw [List.forall₂_nil_right_iff] at same
    exact kept same
  have linesOf : Texts.lines (trim (joinLines group)) = group' := by
    rw [sameText, joined, lines_joinLines group' filled (absent '\n' coreFeedless)]
  constructor
  · have regrouped := grouping.related core group' same
    rw [own] at regrouped
    obtain ⟨only, others, whole, none₀, found⟩ := List.forall₂_cons_left_iff.mp regrouped
    rw [List.forall₂_nil_left_iff.mp none₀] at found
    have sub := grouping.sublist group'
    rw [found, List.flatten_singleton] at sub
    have all : only = group' := sub.eq_of_length (by rw [← whole.length_eq, same.length_eq])
    rw [groupTexts, linesOf, found, all, List.map_singleton, ← joined, ← sameText, visibleTexts,
      List.map_singleton, trim_trim]
    simpa using visible
  · rw [shape'] at same
    obtain ⟨line, later'', sameFirst, -, whole⟩ := List.forall₂_cons_left_iff.mp same
    exact ⟨line, later'', by rw [linesOf, whole], by rwa [← sameFirst]⟩

/-- In front of `;` a statement does not come out as it is. -/
theorem groupTexts_joined (piece rest : Text) (own : Piece piece) (line : Text)
    (later : List Text) (shape : Texts.lines piece = line :: later) (opened : opens (trim line)) :
    (groupTexts groups (piece ++ ';' :: '\n' :: rest)).head? ≠ some piece := by
  obtain ⟨c, tail, startShape, visible⟩ := own.first
  have whole := joinLines_lines piece
  rw [shape, joinLines_cons] at whole
  -- The first line of the joined text may begin a statement as well.
  obtain ⟨line', later', shape', opened'⟩ : ∃ line' later',
      Texts.lines (piece ++ ';' :: '\n' :: rest) = line' :: later' ∧ opens (trim line') := by
    have feedless := feed_not_mem_lines piece line (by rw [shape]; exact List.mem_cons_self)
    cases later with
    | nil =>
      rw [behind_nil, List.append_nil] at whole
      rw [← whole]
      refine ⟨line ++ [';'], Texts.lines rest, ?_, ?_⟩
      · rw [Texts.lines, List.append_cons, List.splitOn_append_cons_self_of_not_mem, Texts.lines]
        rw [List.mem_append, List.mem_singleton, not_or]
        exact ⟨feedless, by decide⟩
      · have closed : trim (line ++ [';']) = trim line ++ [';'] := by
          have single : blank [';'] = false := rfl
          have start : trimStart (line ++ [';']) = line ++ [';'] := by
            rw [whole, startShape, trimStart, List.cons_append, List.dropWhile_cons_of_neg]
            simp [visible]
          rw [trim, start, trimEnd_append _ _ single, whole, own.trimmed]
          rfl
        rw [closed]
        exact grouping.separator _ opened
    | cons next later =>
      rw [behind_cons, List.cons_append] at whole
      refine ⟨line, Texts.lines (next ++ behind later ++ ';' :: '\n' :: rest), ?_, opened⟩
      rw [← whole, Texts.lines, List.append_assoc, List.cons_append,
        List.splitOn_append_cons_self_of_not_mem feedless, Texts.lines]
  obtain ⟨group, others, after, found, split, filled⟩ := grouping.front line' later' opened'
  have textSplit : piece ++ ';' :: '\n' :: rest = joinLines group ++ behind after := by
    rw [← joinLines_lines (piece ++ _), shape', split, joinLines_append _ _ filled]
  obtain ⟨first, others', groupShape⟩ := List.exists_cons_of_ne_nil filled
  have firstLine : first = line' := by
    rw [groupShape, List.cons_append, List.cons.injEq] at split
    exact split.1.symm
  have nonblank : blank (joinLines group) = false := by
    have visibleLine : blank line' = false := by
      rw [← trim_isEmpty]
      exact List.isEmpty_eq_false_iff.mpr (grouping.visible _ opened')
    rw [groupShape, joinLines_cons, firstLine, blank, List.all_append, ← blank, visibleLine,
      Bool.false_and]
  rw [groupTexts, shape', found, List.map_cons, visibleTexts_cons, nonblank,
    if_neg Bool.false_ne_true]
  simp only [List.singleton_append, List.head?_cons, ne_eq, Option.some.injEq]
  intro trimmed
  have startsAlike : ∃ inner, joinLines group = c :: inner := by
    cases text : joinLines group with
    | nil => rw [text] at nonblank; cases nonblank
    | cons d inner =>
      rw [text, startShape, List.cons_append, List.cons_append, List.cons.injEq] at textSplit
      exact ⟨inner, by rw [textSplit.1]⟩
  obtain ⟨inner, text⟩ := startsAlike
  obtain ⟨back, parts, white⟩ := trim_visible c inner visible
  rw [← text, trimmed] at parts
  rw [parts, List.append_assoc, List.append_cancel_left_eq] at textSplit
  cases back with
  | nil =>
    cases after with
    | nil => cases textSplit
    | cons next after =>
      rw [List.nil_append, behind_cons, List.cons_append, List.cons.injEq] at textSplit
      exact absurd textSplit.1 (by decide)
  | cons d back =>
    rw [List.cons_append, List.cons.injEq] at textSplit
    have space := white d List.mem_cons_self
    rw [← textSplit.1, separator_not_white] at space
    cases space

end Cutting

end DbFree.RunTargets
