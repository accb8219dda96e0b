import DbFree.StatementCuts

/- The languages cut by lines, seen as groups of lines instead of ranges of characters. -/
namespace DbFree.RunTargets

open Destructive GuardDialect
open Texts hiding lines

/-- Lines put together again. -/
abbrev joinLines (lines : List Text) : Text := ['\n'].intercalate lines

/-- Lines behind a line that stands before them. -/
def behind (lines : List Text) : Text := lines.flatMap fun line => '\n' :: line

@[simp] theorem behind_nil : behind [] = [] := rfl

@[simp] theorem behind_cons (line : Text) (later : List Text) :
    behind (line :: later) = '\n' :: line ++ behind later := rfl

@[simp] theorem behind_append (first second : List Text) :
    behind (first ++ second) = behind first ++ behind second := by
  simp only [behind, List.flatMap_append]

theorem joinLines_cons (line : Text) (later : List Text) :
    joinLines (line :: later) = line ++ behind later := by
  induction later generalizing line with
  | nil => simp [joinLines]
  | cons next later ih =>
    rw [joinLines, List.intercalate_cons_cons, ← joinLines, ih, behind_cons, List.append_assoc,
      List.singleton_append]
    rfl

theorem joinLines_append (first second : List Text) (filled : first ≠ []) :
    joinLines (first ++ second) = joinLines first ++ behind second := by
  obtain ⟨line, later, rfl⟩ := List.exists_cons_of_ne_nil filled
  rw [List.cons_append, joinLines_cons, joinLines_cons, behind_append, List.append_assoc]

/-- Where lines stand, the first of them at `start`. -/
def layout (start : Nat) : List Text → List (Nat × Nat)
  | [] => []
  | line :: later => (start, start + line.length) :: layout (start + line.length + 1) later

theorem linesFrom_layout (start i : Nat) (chars : Text) :
    ∃ first later, Texts.lines chars = first :: later ∧
      linesFrom start i chars = (start, i + first.length) :: layout (i + first.length + 1) later := by
  induction chars generalizing start i with
  | nil => exact ⟨[], [], rfl, rfl⟩
  | cons c rest ih =>
    rw [Texts.lines, List.splitOn_cons_eq_if_modifyHead, linesFrom]
    by_cases feed : c = '\n'
    · obtain ⟨first, later, split, found⟩ := ih (i + 1) (i + 1)
      rw [if_pos (beq_iff_eq.mpr feed), if_pos feed, found]
      refine ⟨[], first :: later, ?_, rfl⟩
      rw [← split, Texts.lines]
    · obtain ⟨first, later, split, found⟩ := ih start (i + 1)
      rw [if_neg (by simpa using feed), if_neg feed, found]
      rw [Texts.lines] at split
      rw [split, List.modifyHead_cons]
      refine ⟨c :: first, later, rfl, ?_⟩
      rw [List.length_cons, show i + (first.length + 1) = i + 1 + first.length by omega]

theorem lines_layout (chars : Text) : GuardDialect.lines chars = layout 0 (Texts.lines chars) := by
  obtain ⟨first, later, split, found⟩ := linesFrom_layout 0 0 chars
  rw [GuardDialect.lines, found, split, layout]

/-- The lines stand in the text, the first of them at `start`. -/
def Stand (chars : Text) (start : Nat) (lines : List Text) : Prop :=
  ∀ line later, lines = line :: later →
    ∃ front, front.length = start ∧ chars = front ++ line ++ behind later

theorem stand_lines (chars : Text) : Stand chars 0 (Texts.lines chars) := by
  intro line later shape
  refine ⟨[], rfl, ?_⟩
  have whole : joinLines (Texts.lines chars) = chars := List.intercalate_splitOn '\n'
  rw [shape, joinLines_cons] at whole
  rw [List.nil_append, whole]

theorem Stand.later {chars : Text} {start : Nat} {line : Text} {later : List Text}
    (stand : Stand chars start (line :: later)) : Stand chars (start + line.length + 1) later := by
  intro next rest shape
  obtain ⟨front, size, split⟩ := stand line later rfl
  refine ⟨front ++ line ++ ['\n'], ?_, ?_⟩
  · simp only [List.length_append, size, List.length_singleton]
  · rw [split, shape, behind_cons]
    simp

theorem Stand.slice {chars : Text} {start : Nat} {line : Text} {later : List Text}
    (stand : Stand chars start (line :: later)) :
    Destructive.slice chars (start, start + line.length) = line := by
  obtain ⟨front, size, split⟩ := stand line later rfl
  have middle := slice_middle front line (behind later)
  rwa [← split, List.length_append, size] at middle

section Loops

variable (starts complete : Text → Bool)

def emit (current : List Text) : List (List Text) := if current = [] then [] else [current]

/-- The groups of lines of a block language: `starts` tells a line that begins a new group,
`complete` a group that a blank line ends; `gap` holds the blank lines since the last line
of the group. -/
def groupLoop (current gap : List Text) : List Text → List (List Text)
  | [] => emit current
  | line :: later =>
    if starts (trim line) then emit current ++ groupLoop [line] [] later
    else if blank line then
      if current = [] then groupLoop [] [] later
      else if complete (joinLines current) then current :: groupLoop [] [] later
      else groupLoop current (gap ++ [line]) later
    else groupLoop (current ++ gap ++ [line]) [] later

end Loops

/-- The ranges of a group in progress and of the lines behind it. -/
structure InProgress (chars : Text) (block : Nat × Nat) (current gap lines : List Text) : Prop where
  filled : current ≠ []
  place : ∃ front, front.length = block.1 ∧
    block.2 = block.1 + (joinLines current).length ∧
    chars = front ++ joinLines current ++ behind gap ++ behind lines

/-- Where the line behind a group in progress begins. -/
def InProgress.next (block : Nat × Nat) (gap : List Text) : Nat := block.2 + (behind gap).length + 1

theorem InProgress.slice {chars : Text} {block : Nat × Nat} {current gap lines : List Text}
    (open₀ : InProgress chars block current gap lines) :
    Destructive.slice chars block = joinLines current := by
  obtain ⟨front, size, stop, split⟩ := open₀.place
  have middle := slice_middle front (joinLines current) (behind gap ++ behind lines)
  rw [← List.append_assoc, ← split, List.length_append, size, ← stop] at middle
  exact middle

theorem InProgress.stand {chars : Text} {block : Nat × Nat} {current gap lines : List Text}
    (open₀ : InProgress chars block current gap lines) :
    Stand chars (InProgress.next block gap) lines := by
  intro line later shape
  obtain ⟨front, size, stop, split⟩ := open₀.place
  refine ⟨front ++ joinLines current ++ behind gap ++ ['\n'], ?_, ?_⟩
  · simp only [InProgress.next, List.length_append, size, stop, List.length_singleton]
  · rw [split, shape, behind_cons]
    simp

theorem InProgress.start {chars : Text} {start : Nat} {line : Text} {later : List Text}
    (stand : Stand chars start (line :: later)) :
    InProgress chars (start, start + line.length) [line] [] later := by
  obtain ⟨front, size, split⟩ := stand line later rfl
  exact ⟨by simp, front, size, by simp [joinLines], by rw [split]; simp [joinLines]⟩

theorem InProgress.gap {chars : Text} {block : Nat × Nat} {current gap : List Text} {line : Text}
    {later : List Text} (open₀ : InProgress chars block current gap (line :: later)) :
    InProgress chars block current (gap ++ [line]) later := by
  obtain ⟨front, size, stop, split⟩ := open₀.place
  refine ⟨open₀.filled, front, size, stop, ?_⟩
  rw [split, behind_cons, behind_append, behind_cons, behind_nil]
  simp

theorem InProgress.extend {chars : Text} {block : Nat × Nat} {current gap : List Text} {line : Text}
    {later : List Text} (open₀ : InProgress chars block current gap (line :: later)) :
    InProgress chars (block.1, InProgress.next block gap + line.length) (current ++ gap ++ [line]) []
      later := by
  obtain ⟨front, size, stop, split⟩ := open₀.place
  have joined : joinLines (current ++ gap ++ [line]) =
      joinLines current ++ behind gap ++ '\n' :: line := by
    rw [List.append_assoc, joinLines_append _ _ open₀.filled, behind_append, behind_cons,
      behind_nil, List.append_nil, List.append_assoc]
  refine ⟨by simp, front, size, ?_, ?_⟩
  · rw [joined, InProgress.next, stop]
    simp only [List.length_append, List.length_cons]
    omega
  · rw [split, joined, behind_cons, behind_nil, List.append_nil]
    simp

theorem next_gap (block : Nat × Nat) (gap : List Text) (line : Text) :
    InProgress.next block (gap ++ [line]) = InProgress.next block gap + line.length + 1 := by
  simp only [InProgress.next, behind_append, behind_cons, behind_nil, List.append_nil,
    List.length_append, List.length_cons]
  omega

theorem next_extend (block : Nat × Nat) (gap : List Text) (line : Text) :
    InProgress.next (block.1, InProgress.next block gap + line.length) [] =
      InProgress.next block gap + line.length + 1 := by
  simp [InProgress.next]

theorem consoleLoop_groups (chars : Text) (lines : List Text) :
    (∀ start, Stand chars start lines →
      (consoleLoop chars none (layout start lines)).map (slice chars) =
        (groupLoop isRestLine balanced [] [] lines).map joinLines) ∧
    ∀ block current gap, InProgress chars block current gap lines →
      (consoleLoop chars (some block) (layout (InProgress.next block gap) lines)).map (slice chars) =
        (groupLoop isRestLine balanced current gap lines).map joinLines := by
  induction lines with
  | nil =>
    constructor
    · intro start _
      rfl
    · intro block current gap open₀
      simp only [layout, consoleLoop, groupLoop, emit, if_neg open₀.filled, Option.toList_some,
        List.map_singleton, open₀.slice]
  | cons line later ih =>
    obtain ⟨fresh, opened⟩ := ih
    constructor
    · intro start stand
      have own := opened _ _ [] (InProgress.start stand)
      have next : InProgress.next (start, start + line.length) [] = start + line.length + 1 := by
        simp [InProgress.next]
      rw [next] at own
      simp only [layout, consoleLoop, groupLoop, lineText, stand.slice]
      by_cases begins : isRestLine (trim line) = true
      · simp only [if_pos begins, Option.toList_none, List.nil_append, emit, if_true]
        exact own
      · rw [if_neg begins, if_neg begins, trim_isEmpty]
        by_cases empty : blank line = true
        · rw [if_pos empty, if_pos empty, if_pos trivial]
          exact fresh _ stand.later
        · rw [if_neg empty, if_neg empty]
          exact own
    · intro block current gap open₀
      have stand := open₀.stand
      simp only [layout, consoleLoop, groupLoop, lineText, stand.slice]
      by_cases begins : isRestLine (trim line) = true
      · have own := opened _ _ [] (InProgress.start stand)
        have next : InProgress.next (InProgress.next block gap, InProgress.next block gap +
            line.length) [] = InProgress.next block gap + line.length + 1 := by
          simp [InProgress.next]
        rw [next] at own
        simp only [if_pos begins, Option.toList_some, emit, if_neg open₀.filled, List.singleton_append,
          List.map_cons, open₀.slice, own]
      · rw [if_neg begins, if_neg begins, trim_isEmpty]
        by_cases empty : blank line = true
        · rw [if_pos empty, if_pos empty, if_neg open₀.filled, open₀.slice]
          by_cases done : balanced (joinLines current) = true
          · rw [if_pos done, if_pos done, List.map_cons, List.map_cons, open₀.slice,
              fresh _ stand.later]
          · rw [if_neg done, if_neg done, ← next_gap]
            exact opened _ _ _ open₀.gap
        · rw [if_neg empty, if_neg empty, extend, ← next_extend]
          exact opened _ _ _ open₀.extend

theorem blockLoop_groups (chars : Text) (lines : List Text) :
    (∀ start, Stand chars start lines →
      (blockLoop chars none (layout start lines)).map (slice chars) =
        (groupLoop (fun _ => false) (fun _ => true) [] [] lines).map joinLines) ∧
    ∀ block current, InProgress chars block current [] lines →
      (blockLoop chars (some block) (layout (InProgress.next block []) lines)).map (slice chars) =
        (groupLoop (fun _ => false) (fun _ => true) current [] lines).map joinLines := by
  induction lines with
  | nil =>
    constructor
    · intro start _
      rfl
    · intro block current open₀
      simp only [layout, blockLoop, groupLoop, emit, if_neg open₀.filled, Option.toList_some,
        List.map_singleton, open₀.slice]
  | cons line later ih =>
    obtain ⟨fresh, opened⟩ := ih
    constructor
    · intro start stand
      have own := opened _ _ (InProgress.start stand)
      have next : InProgress.next (start, start + line.length) [] = start + line.length + 1 := by
        simp [InProgress.next]
      rw [next] at own
      simp only [layout, blockLoop, groupLoop, lineText, stand.slice, trim_isEmpty,
        Bool.false_eq_true, if_false]
      by_cases empty : blank line = true
      · rw [if_pos empty, if_pos empty, if_pos trivial]
        exact fresh _ stand.later
      · rw [if_neg empty, if_neg empty]
        exact own
    · intro block current open₀
      have stand := open₀.stand
      simp only [layout, blockLoop, groupLoop, lineText, stand.slice, trim_isEmpty,
        Bool.false_eq_true, if_false]
      by_cases empty : blank line = true
      · rw [if_pos empty, if_pos empty, if_neg open₀.filled, if_pos trivial, Option.toList_some,
          List.singleton_append, List.map_cons, List.map_cons, open₀.slice, fresh _ stand.later]
      · rw [if_neg empty, if_neg empty, extend, ← next_extend]
        exact opened _ _ open₀.extend

/-- The groups of lines where a line is a command, or one with the line behind it. -/
def lineGroups (storageTakesNext : Bool) : List Text → List (List Text)
  | [] => []
  | line :: later =>
    if (trim line).isEmpty || isCommentLine (trim line) then lineGroups storageTakesNext later
    else if storageTakesNext && isIn (toAsciiLowercase (firstWord (trim line))) storageVerbs then
      match later with
      | next :: rest => [line, next] :: lineGroups storageTakesNext rest
      | [] => [[line]]
    else [line] :: lineGroups storageTakesNext later

theorem lineLoop_groups (chars : Text) (storageTakesNext : Bool) (start : Nat) (lines : List Text)
    (stand : Stand chars start lines) :
    (lineLoop chars storageTakesNext (layout start lines)).map (slice chars) =
      (lineGroups storageTakesNext lines).map joinLines := by
  induction size : lines.length using Nat.strong_induction_on generalizing start lines with
  | _ size ih =>
    cases lines with
    | nil => rfl
    | cons line later =>
      have rest := ih later.length (by rw [← size]; exact Nat.lt_succ_self _) _ later stand.later rfl
      have own : joinLines [line] = line := List.intercalate_singleton
      rw [layout]
      unfold lineLoop lineGroups
      simp only [lineText, stand.slice]
      by_cases skip : ((trim line).isEmpty || isCommentLine (trim line)) = true
      · rw [if_pos skip, if_pos skip, rest]
      · rw [if_neg skip, if_neg skip]
        by_cases storage : (storageTakesNext &&
            isIn (toAsciiLowercase (firstWord (trim line))) storageVerbs) = true
        · rw [if_pos storage, if_pos storage]
          cases later with
          | nil => simp only [layout, List.map_singleton, stand.slice, own]
          | cons next later =>
            have both := (InProgress.extend (InProgress.start stand)).slice
            have rest := ih later.length (by rw [← size]; simp only [List.length_cons]; omega) _ later
              stand.later.later rfl
            have next₀ : InProgress.next (start, start + line.length) [] =
                start + line.length + 1 := by simp [InProgress.next]
            rw [next₀] at both
            simp only [List.singleton_append, List.append_nil] at both
            simp only [layout, List.map_cons, both, rest]
        · rw [if_neg storage, if_neg storage, List.map_cons, List.map_cons, rest, stand.slice, own]

end DbFree.RunTargets
