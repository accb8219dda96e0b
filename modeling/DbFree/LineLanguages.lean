import DbFree.LineCuts

/- The languages of the guard that are cut by lines group them as `GroupsLines` asks. -/
namespace DbFree.RunTargets

open Chars Destructive GuardDialect
open Texts hiding lines

section Blocks

variable {starts complete : Text → Bool}

theorem groupLoop_blank (current gap : List Text) (line : Text) (later : List Text)
    (plain : starts (trim line) = false) (empty : blank line = true) :
    groupLoop starts complete current gap (line :: later) =
      if current = [] then groupLoop starts complete [] [] later
      else if complete (joinLines current) then current :: groupLoop starts complete [] [] later
      else groupLoop starts complete current (gap ++ [line]) later := by
  rw [groupLoop, if_neg (by simp [plain]), if_pos empty]

theorem groupLoop_start (current gap : List Text) (line : Text) (later : List Text)
    (begins : starts (trim line) = true) :
    groupLoop starts complete current gap (line :: later) =
      emit current ++ groupLoop starts complete [line] [] later := by
  rw [groupLoop, if_pos begins]

theorem groupLoop_inside (current gap : List Text) (line : Text) (later : List Text)
    (plain : starts (trim line) = false) (visible : blank line = false) :
    groupLoop starts complete current gap (line :: later) =
      groupLoop starts complete (current ++ gap ++ [line]) [] later := by
  rw [groupLoop, if_neg (by simp [plain]), if_neg (by simp [visible])]

variable (noStart : starts [] = false)

include noStart

theorem visible_of_starts (line : Text) (begins : starts (trim line) = true) :
    blank line = false := by
  by_contra empty
  rw [(trim_eq_nil_iff line).mpr (by simpa using empty), noStart] at begins
  cases begins

omit noStart in
/-- Lines that differ by white space fall into groups that differ by white space. -/
theorem groupLoop_related
    (ends : ∀ group group', List.Forall₂ SameLine group group' →
      complete (joinLines group) = complete (joinLines group'))
    (current current' gap gap' lines lines' : List Text)
    (sameCurrent : List.Forall₂ SameLine current current')
    (sameGap : List.Forall₂ SameLine gap gap') (same : List.Forall₂ SameLine lines lines') :
    List.Forall₂ (List.Forall₂ SameLine) (groupLoop starts complete current gap lines)
      (groupLoop starts complete current' gap' lines') := by
  have emitted : ∀ current current', List.Forall₂ SameLine current current' →
      List.Forall₂ (List.Forall₂ SameLine) (emit current) (emit current') := by
    intro current current' same
    cases same with
    | nil => exact .nil
    | cons head tail => exact .cons (.cons head tail) .nil
  induction same generalizing current current' gap gap' with
  | nil => exact emitted _ _ sameCurrent
  | @cons line line' later later' head tail ih =>
    have lone : List.Forall₂ SameLine [line] [line'] := .cons head .nil
    by_cases begins : starts (trim line) = true
    · rw [groupLoop_start _ _ _ _ begins, groupLoop_start _ _ _ _ (by rwa [← head])]
      exact List.rel_append (emitted _ _ sameCurrent) (ih _ _ _ _ lone .nil)
    · have plain : starts (trim line) = false := by simpa using begins
      have plain' : starts (trim line') = false := by rwa [← head]
      by_cases empty : blank line = true
      · rw [groupLoop_blank _ _ _ _ plain empty,
          groupLoop_blank _ _ _ _ plain' (by rwa [← head.blank_eq])]
        cases sameCurrent with
        | nil => exact ih _ _ _ _ .nil .nil
        | cons first rest =>
          rw [if_neg (List.cons_ne_nil _ _), if_neg (List.cons_ne_nil _ _),
            ends _ _ (.cons first rest)]
          split
          · exact .cons (.cons first rest) (ih _ _ _ _ .nil .nil)
          · exact ih _ _ _ _ (.cons first rest) (List.rel_append sameGap lone)
      · rw [groupLoop_inside _ _ _ _ plain (by simpa using empty),
          groupLoop_inside _ _ _ _ plain' (by rw [← head.blank_eq]; simpa using empty)]
        exact ih _ _ _ _ (List.rel_append (List.rel_append sameCurrent sameGap) lone) .nil

/-- A group in progress: read alone it comes to the same state, and no blank line stands at
its ends. -/
structure Grown (starts complete : Text → Bool) (current : List Text) : Prop where
  replays : ∀ later, groupLoop starts complete [] [] (current ++ later) =
    groupLoop starts complete current [] later
  first : ∃ line later, current = line :: later ∧ blank line = false
  last : ∃ front line, current = front ++ [line] ∧ blank line = false

omit noStart in
theorem Grown.filled {current : List Text} (grown : Grown starts complete current) :
    current ≠ [] := by
  obtain ⟨line, later, rfl, -⟩ := grown.first
  exact List.cons_ne_nil line later

omit noStart in
theorem grown_alone (line : Text) (visible : blank line = false) : Grown starts complete [line] := by
  refine ⟨?_, ⟨line, [], rfl, visible⟩, ⟨[], line, rfl, visible⟩⟩
  intro later
  by_cases begins : starts (trim line) = true
  · rw [List.singleton_append, groupLoop_start _ _ _ _ begins]
    rfl
  · rw [List.singleton_append, groupLoop_inside _ _ _ _ (by simpa using begins) visible]
    rfl

theorem groupLoop_grown (current gap lines : List Text)
    (state : current = [] ∨ Grown starts complete current ∧
      ∀ later, groupLoop starts complete [] [] (current ++ gap ++ later) =
        groupLoop starts complete current gap later)
    (fresh : current = [] → gap = []) :
    ∀ group ∈ groupLoop starts complete current gap lines, Grown starts complete group := by
  have emitted : ∀ current, (current = [] ∨ Grown starts complete current) →
      ∀ group ∈ emit current, Grown starts complete group := by
    intro current state group member
    rcases state with rfl | grown
    · cases member
    · rw [emit, if_neg grown.filled, List.mem_singleton] at member
      rwa [member]
  have own : current = [] ∨ Grown starts complete current := state.imp_right And.left
  induction lines generalizing current gap with
  | nil => exact emitted current own
  | cons line later ih =>
    by_cases begins : starts (trim line) = true
    · have grown : Grown starts complete [line] :=
        grown_alone line (visible_of_starts noStart line begins)
      rw [groupLoop_start _ _ _ _ begins]
      intro group member
      rcases List.mem_append.mp member with inFront | inLater
      · exact emitted current own group inFront
      · exact ih [line] [] (Or.inr ⟨grown, by simpa using grown.replays⟩) (by simp)
          (Or.inr grown) group inLater
    · have plain : starts (trim line) = false := by simpa using begins
      by_cases empty : blank line = true
      · rw [groupLoop_blank _ _ _ _ plain empty]
        rcases state with rfl | ⟨grown, replays⟩
        · rw [if_pos rfl]
          exact ih [] [] (Or.inl rfl) (fun _ => rfl) (Or.inl rfl)
        · rw [if_neg grown.filled]
          split
          · intro group member
            rcases List.mem_cons.mp member with rfl | inLater
            · exact grown
            · exact ih [] [] (Or.inl rfl) (fun _ => rfl) (Or.inl rfl) group inLater
          · rename_i still
            refine ih current (gap ++ [line]) (Or.inr ⟨grown, ?_⟩)
              (fun none₀ => absurd none₀ grown.filled) own
            intro rest
            have step := replays (line :: rest)
            rw [groupLoop_blank _ _ _ _ plain empty, if_neg grown.filled, if_neg still] at step
            rw [← step]
            simp
      · have visible : blank line = false := by simpa using empty
        rw [groupLoop_inside _ _ _ _ plain visible]
        rcases state with rfl | ⟨grown, replays⟩
        · rw [fresh rfl]
          have alone : Grown starts complete [line] := grown_alone line visible
          exact ih _ [] (Or.inr ⟨alone, by simpa using alone.replays⟩) (by simp) (Or.inr alone)
        · obtain ⟨first, rest, shape, firstVisible⟩ := grown.first
          have replays' : ∀ later, groupLoop starts complete [] [] (current ++ gap ++ [line] ++ later) =
              groupLoop starts complete (current ++ gap ++ [line]) [] later := by
            intro later
            have step := replays (line :: later)
            rw [groupLoop_inside _ _ _ _ plain visible] at step
            rw [← step]
            simp
          have next : Grown starts complete (current ++ gap ++ [line]) :=
            ⟨replays', ⟨first, rest ++ gap ++ [line], by rw [shape]; simp, firstVisible⟩,
              ⟨current ++ gap, line, rfl, visible⟩⟩
          exact ih _ [] (Or.inr ⟨next, by simpa using replays'⟩) (by simp) (Or.inr next)

omit noStart in
theorem groupLoop_sublist (current gap lines : List Text) :
    (groupLoop starts complete current gap lines).flatten.Sublist (current ++ gap ++ lines) := by
  have emitted : ∀ current, (emit current).flatten = current := by
    intro current
    unfold emit
    split
    · next empty => rw [empty]; rfl
    · simp
  induction lines generalizing current gap with
  | nil =>
    rw [groupLoop, emitted, List.append_nil]
    exact List.sublist_append_left current gap
  | cons line later ih =>
    rw [groupLoop]
    split
    · have rest : (groupLoop starts complete [line] [] later).flatten.Sublist (line :: later) := by
        simpa using ih [line] []
      rw [List.flatten_append, emitted, List.append_assoc]
      exact (rest.trans (List.sublist_append_right gap (line :: later))).append_left current
    · have beyond : (groupLoop starts complete [] [] later).flatten.Sublist (line :: later) := by
        have rest : (groupLoop starts complete [] [] later).flatten.Sublist later := by
          simpa using ih [] []
        exact rest.trans (List.sublist_cons_self line later)
      split
      · split
        · exact beyond.trans (List.sublist_append_right (current ++ gap) (line :: later))
        · split
          · rw [List.flatten_cons, List.append_assoc]
            exact (beyond.trans (List.sublist_append_right gap (line :: later))).append_left current
          · have rest := ih current (gap ++ [line])
            simpa using rest
      · have rest := ih (current ++ gap ++ [line]) []
        simpa using rest

omit noStart in
theorem groupLoop_front (current gap lines : List Text) (filled : current ≠ []) :
    ∃ group others rest, groupLoop starts complete current gap lines = group :: others ∧
      current ++ gap ++ lines = group ++ rest ∧ group ≠ [] := by
  induction lines generalizing current gap with
  | nil =>
    exact ⟨current, [], gap, by rw [groupLoop, emit, if_neg filled], by simp, filled⟩
  | cons line later ih =>
    rw [groupLoop]
    split
    · refine ⟨current, groupLoop starts complete [line] [] later, gap ++ line :: later, ?_, by simp,
        filled⟩
      rw [emit, if_neg filled, List.singleton_append]
    · split
      · split
        · exact ⟨current, _, gap ++ line :: later, rfl, by simp, filled⟩
        · obtain ⟨group, others, rest, found, split, nonempty⟩ := ih current (gap ++ [line]) filled
          exact ⟨group, others, rest, found, by rw [← split]; simp, nonempty⟩
      · obtain ⟨group, others, rest, found, split, nonempty⟩ :=
          ih (current ++ gap ++ [line]) [] (by simp)
        exact ⟨group, others, rest, found, by rw [← split]; simp, nonempty⟩

theorem groupsLines_groupLoop
    (ends : ∀ group group', List.Forall₂ SameLine group group' →
      complete (joinLines group) = complete (joinLines group')) :
    GroupsLines (fun text => text ≠ []) (groupLoop starts complete [] []) := by
  have grown : ∀ lines, ∀ group ∈ groupLoop starts complete [] [] lines,
      Grown starts complete group :=
    fun lines => groupLoop_grown noStart [] [] lines (Or.inl rfl) fun _ => rfl
  constructor
  · exact fun _ filled => filled
  · exact fun text _ => by simp
  · intro lines lines' same
    exact groupLoop_related ends [] [] [] [] lines lines' .nil .nil same
  · intro lines group member
    have own := grown lines group member
    obtain ⟨front, line, shape, visible⟩ := own.last
    have whole : group.rdropWhile blank = group := by
      rw [shape, List.rdropWhile_concat_neg _ _ _ (by simp [visible])]
    have alone := own.replays []
    rw [List.append_nil, groupLoop, emit, if_neg own.filled] at alone
    rw [whole, alone]
  · intro lines
    have sub : (groupLoop starts complete [] [] lines).flatten.Sublist ([] ++ [] ++ lines) :=
      groupLoop_sublist [] [] lines
    exact sub
  · intro lines group member
    obtain ⟨line, later, shape, visible⟩ := (grown lines group member).first
    refine ⟨line, later, shape, ?_⟩
    rw [ne_eq, trim_eq_nil_iff, visible]
    exact Bool.false_ne_true
  · intro line later opens
    have visible : blank line = false := by
      rw [← trim_isEmpty]
      exact List.isEmpty_eq_false_iff.mpr opens
    have alone : Grown starts complete [line] := grown_alone line visible
    have replays := alone.replays later
    rw [List.singleton_append] at replays
    rw [replays]
    exact groupLoop_front [line] [] later (List.cons_ne_nil line [])

end Blocks

section Commands

/-- The first line of a command. -/
def Opens (text : Text) : Prop := text ≠ [] ∧ isCommentLine text = false

theorem opens_iff (text : Text) :
    Opens text ↔ (text.isEmpty || isCommentLine text) = false := by
  rw [Opens, Bool.or_eq_false_iff, List.isEmpty_eq_false_iff]

theorem isCommentLine_separator (text : Text) (filled : text ≠ []) :
    isCommentLine (text ++ [';']) = isCommentLine text := by
  rcases text with _ | ⟨c, _ | ⟨d, _ | ⟨e, _ | ⟨f, rest⟩⟩⟩⟩
  · exact absurd rfl filled
  all_goals simp [isCommentLine, startsWith, List.isPrefixOf]

/-- A command that takes the next line as its value. -/
def stores (storageTakesNext : Bool) (line : Text) : Bool :=
  storageTakesNext && isIn (toAsciiLowercase (firstWord (trim line))) storageVerbs

variable {storageTakesNext : Bool}

theorem lineGroups_skip (line : Text) (later : List Text) (skip : ¬Opens (trim line)) :
    lineGroups storageTakesNext (line :: later) = lineGroups storageTakesNext later := by
  rw [opens_iff, Bool.not_eq_false] at skip
  rw [lineGroups.eq_def]
  dsimp only
  rw [if_pos skip]

theorem lineGroups_single (line : Text) (later : List Text) (opens : Opens (trim line))
    (plain : stores storageTakesNext line = false) :
    lineGroups storageTakesNext (line :: later) = [line] :: lineGroups storageTakesNext later := by
  rw [opens_iff] at opens
  rw [stores] at plain
  rw [lineGroups.eq_def]
  dsimp only
  rw [if_neg (by simp [opens]), if_neg (by simp [plain])]

theorem lineGroups_last (line : Text) (opens : Opens (trim line)) :
    lineGroups storageTakesNext [line] = [[line]] := by
  rw [opens_iff] at opens
  rw [lineGroups, if_neg (by simp [opens])]
  split <;> rfl

theorem lineGroups_pair (line next : Text) (later : List Text) (opens : Opens (trim line))
    (storage : stores storageTakesNext line = true) :
    lineGroups storageTakesNext (line :: next :: later) =
      [line, next] :: lineGroups storageTakesNext later := by
  rw [opens_iff] at opens
  rw [stores] at storage
  rw [lineGroups, if_neg (by simp [opens]), if_pos storage]

/-- The groups of a list of lines, one case for each way a command begins. -/
theorem lineGroups_cases {motive : List Text → Prop} (nil : motive [])
    (skip : ∀ line later, ¬Opens (trim line) → motive later → motive (line :: later))
    (single : ∀ line later, Opens (trim line) → stores storageTakesNext line = false →
      motive later → motive (line :: later))
    (last : ∀ line, Opens (trim line) → stores storageTakesNext line = true → motive [line])
    (pair : ∀ line next later, Opens (trim line) → stores storageTakesNext line = true →
      motive later → motive (line :: next :: later)) :
    ∀ lines, motive lines := by
  intro lines
  induction size : lines.length using Nat.strong_induction_on generalizing lines with
  | _ size ih =>
    cases lines with
    | nil => exact nil
    | cons line later =>
      have rest : motive later := ih later.length (by rw [← size]; exact Nat.lt_succ_self _) later rfl
      by_cases opens : Opens (trim line)
      · by_cases storage : stores storageTakesNext line = true
        · cases later with
          | nil => exact last line opens storage
          | cons next later =>
            refine pair line next later opens storage (ih later.length ?_ later rfl)
            rw [← size]
            simp only [List.length_cons]
            omega
        · exact single line later opens (by simpa using storage) rest
      · exact skip line later opens rest

theorem mem_lineGroups (lines : List Text) :
    ∀ group ∈ lineGroups storageTakesNext lines, ∃ line, Opens (trim line) ∧
      (group = [line] ∨ ∃ next, group = [line, next] ∧ stores storageTakesNext line = true) := by
  induction lines using lineGroups_cases with
  | nil => intro group member; cases member
  | skip line later skip ih => rwa [lineGroups_skip line later skip]
  | single line later opens plain ih =>
    rw [lineGroups_single line later opens plain]
    exact List.forall_mem_cons.mpr ⟨⟨line, opens, Or.inl rfl⟩, ih⟩
  | last line opens storage =>
    rw [lineGroups_last line opens]
    exact List.forall_mem_singleton.mpr ⟨line, opens, Or.inl rfl⟩
  | pair line next later opens storage ih =>
    rw [lineGroups_pair line next later opens storage]
    exact List.forall_mem_cons.mpr ⟨⟨line, opens, Or.inr ⟨next, rfl, storage⟩⟩, ih⟩

theorem SameLine.opens {line line' : Text} (same : SameLine line line') :
    Opens (trim line) ↔ Opens (trim line') := by
  rw [same]

theorem SameLine.stores {line line' : Text} (same : SameLine line line') :
    stores storageTakesNext line = RunTargets.stores storageTakesNext line' := by
  rw [RunTargets.stores, RunTargets.stores, same]

theorem lineGroups_related (lines lines' : List Text) (same : List.Forall₂ SameLine lines lines') :
    List.Forall₂ (List.Forall₂ SameLine) (lineGroups storageTakesNext lines)
      (lineGroups storageTakesNext lines') := by
  induction lines using lineGroups_cases generalizing lines' with
  | nil =>
    rw [List.forall₂_nil_left_iff.mp same]
    exact .nil
  | skip line later skip ih =>
    obtain ⟨line', later', head, tail, rfl⟩ := List.forall₂_cons_left_iff.mp same
    rw [lineGroups_skip line later skip, lineGroups_skip line' later' (by rwa [← head.opens])]
    exact ih later' tail
  | single line later opens plain ih =>
    obtain ⟨line', later', head, tail, rfl⟩ := List.forall₂_cons_left_iff.mp same
    rw [lineGroups_single line later opens plain,
      lineGroups_single line' later' (by rwa [← head.opens]) (by rwa [← head.stores])]
    exact .cons (.cons head .nil) (ih later' tail)
  | last line opens storage =>
    obtain ⟨line', later', head, tail, rfl⟩ := List.forall₂_cons_left_iff.mp same
    rw [List.forall₂_nil_left_iff.mp tail, lineGroups_last line opens,
      lineGroups_last line' (by rwa [← head.opens])]
    exact .cons (.cons head .nil) .nil
  | pair line next later opens storage ih =>
    obtain ⟨line', rest, head, tail, rfl⟩ := List.forall₂_cons_left_iff.mp same
    obtain ⟨next', later', second, tail', rfl⟩ := List.forall₂_cons_left_iff.mp tail
    rw [lineGroups_pair line next later opens storage,
      lineGroups_pair line' next' later' (by rwa [← head.opens]) (by rwa [← head.stores])]
    exact .cons (.cons head (.cons second .nil)) (ih later' tail')

theorem groupsLines_lineGroups : GroupsLines Opens (lineGroups storageTakesNext) := by
  have visible : ∀ line, Opens (trim line) → blank line = false := by
    intro line opens
    rw [← trim_isEmpty]
    exact List.isEmpty_eq_false_iff.mpr opens.1
  constructor
  · exact fun text opens => opens.1
  · exact fun text opens => ⟨by simp, by rw [isCommentLine_separator text opens.1, opens.2]⟩
  · exact lineGroups_related
  · intro lines group member
    obtain ⟨line, opens, rfl | ⟨next, rfl, storage⟩⟩ := mem_lineGroups lines group member
    · have alone : [line].rdropWhile blank = [line] :=
        List.rdropWhile_concat_neg _ [] line (by simp [visible line opens])
      rw [alone, lineGroups_last line opens]
    · by_cases empty : blank next = true
      · have alone : [line, next].rdropWhile blank = [line] := by
          have first : [line].rdropWhile blank = [line] :=
            List.rdropWhile_concat_neg _ [] line (by simp [visible line opens])
          rw [← first]
          exact List.rdropWhile_concat_pos blank [line] next empty
        rw [alone, lineGroups_last line opens]
      · have both : [line, next].rdropWhile blank = [line, next] :=
          List.rdropWhile_concat_neg _ [line] next empty
        rw [both, lineGroups_pair line next [] opens storage]
        rfl
  · intro lines
    induction lines using lineGroups_cases with
    | nil => exact .slnil
    | skip line later skip ih =>
      rw [lineGroups_skip line later skip]
      exact ih.cons line
    | single line later opens plain ih =>
      rw [lineGroups_single line later opens plain]
      exact ih.cons_cons line
    | last line opens storage =>
      rw [lineGroups_last line opens]
      exact List.Sublist.refl [line]
    | pair line next later opens storage ih =>
      rw [lineGroups_pair line next later opens storage]
      exact (ih.cons_cons next).cons_cons line
  · intro lines group member
    obtain ⟨line, opens, rfl | ⟨next, rfl, -⟩⟩ := mem_lineGroups lines group member
    · exact ⟨line, [], rfl, opens⟩
    · exact ⟨line, [next], rfl, opens⟩
  · intro line later opens
    by_cases storage : stores storageTakesNext line = true
    · cases later with
      | nil => exact ⟨[line], [], [], lineGroups_last line opens, rfl, by simp⟩
      | cons next later =>
        exact ⟨[line, next], _, later, lineGroups_pair line next later opens storage, rfl, by simp⟩
    · exact ⟨[line], _, later, lineGroups_single line later opens (by simpa using storage), rfl,
        by simp⟩

end Commands

section Console

/-- The nesting after white space that has been read behind it. -/
def calm (state : Nesting) : Nesting :=
  if state.inStr then { state with escaped := false } else state

theorem calm_calm (state : Nesting) : calm (calm state) = calm state := by
  unfold calm
  split <;> rfl

theorem step_white (state : Nesting) (c : Char) (white : isWhitespace c = true) :
    state.step c = calm state := by
  have other : ∀ d : Char, isWhitespace d = false → c ≠ d := by
    rintro d visible rfl
    rw [white] at visible
    cases visible
  have escape := other '\\' (by decide)
  have quote := other '"' (by decide)
  have opening := other '\x7b' (by decide)
  have bracket := other '[' (by decide)
  have closing := other '\x7d' (by decide)
  have bracket' := other ']' (by decide)
  rcases state with ⟨depth, inStr, escaped⟩
  cases inStr
  · simp [Nesting.step, calm, quote, opening, bracket, closing, bracket']
  · cases escaped
    · simp [Nesting.step, calm, escape, quote]
    · simp [Nesting.step, calm]

theorem foldl_white (state : Nesting) (white : Text) (all : ∀ c ∈ white, isWhitespace c = true) :
    calm (white.foldl Nesting.step state) = calm state ∧
      (calm state = state → white.foldl Nesting.step state = state) := by
  induction white generalizing state with
  | nil => exact ⟨rfl, fun _ => rfl⟩
  | cons c white ih =>
    have rest := ih (calm state) fun d member => all d (List.mem_cons_of_mem c member)
    rw [List.foldl_cons, step_white state c (all c List.mem_cons_self)]
    refine ⟨rest.1.trans (calm_calm state), fun settled => ?_⟩
    rw [rest.2 (calm_calm state), settled]

/-- White space at the ends of a line does not count for the nesting behind it. -/
theorem foldl_line (state : Nesting) (settled : calm state = state) (line : Text) :
    calm (line.foldl Nesting.step state) = calm ((trim line).foldl Nesting.step state) := by
  obtain ⟨back, parts, white⟩ := trim_append_parts line
  have front : ∀ c ∈ line.takeWhile isWhitespace, isWhitespace c = true :=
    fun c member => List.mem_takeWhile_imp member
  conv => lhs; rw [parts]
  rw [List.foldl_append, List.foldl_append, (foldl_white state _ front).2 settled,
    (foldl_white _ back white).1]

theorem foldl_behind (lines lines' : List Text) (same : List.Forall₂ SameLine lines lines')
    (state state' : Nesting) (alike : calm state = calm state') :
    calm ((behind lines).foldl Nesting.step state) =
      calm ((behind lines').foldl Nesting.step state') := by
  induction same generalizing state state' with
  | nil => exact alike
  | @cons line line' later later' head tail ih =>
    rw [behind_cons, behind_cons, List.foldl_append, List.foldl_append, List.foldl_cons,
      List.foldl_cons, step_white _ _ rfl, step_white _ _ rfl, alike]
    refine ih _ _ ?_
    rw [foldl_line _ (calm_calm state') line, foldl_line _ (calm_calm state') line', head]

theorem balanced_related (group group' : List Text) (same : List.Forall₂ SameLine group group') :
    balanced (joinLines group) = balanced (joinLines group') := by
  have read : ∀ text : Text, balanced text =
      ((calm (text.foldl Nesting.step ⟨0, false, false⟩)).depth ≤ 0 &&
        !(calm (text.foldl Nesting.step ⟨0, false, false⟩)).inStr) := by
    intro text
    unfold balanced calm
    split <;> rfl
  cases same with
  | nil => rfl
  | @cons line line' later later' head tail =>
    have settled : calm ⟨0, false, false⟩ = ⟨0, false, false⟩ := rfl
    rw [read, read, joinLines_cons, joinLines_cons, List.foldl_append, List.foldl_append,
      foldl_behind later later' tail]
    rw [foldl_line _ settled line, foldl_line _ settled line', head]

end Console

section Engines

/-- The groups of lines that a language cut by lines makes of a text. -/
def lineGrouping : Dialect → Option ((Text → Prop) × (List Text → List (List Text)))
  | .redis | .lines => some (Opens, lineGroups false)
  | .memcached => some (Opens, lineGroups true)
  | .mongo | .blocks =>
    some (fun text => text ≠ [], groupLoop (fun _ => false) (fun _ => true) [] [])
  | .console => some (fun text => text ≠ [], groupLoop isRestLine balanced [] [])
  | .sql | .cypher | .stream | .whole => none

theorem lineGrouping_groups (dialect : Dialect) (opens : Text → Prop)
    (groups : List Text → List (List Text)) (found : lineGrouping dialect = some (opens, groups)) :
    GroupsLines opens groups := by
  have blocks : GroupsLines (fun text => text ≠ [])
      (groupLoop (fun _ => false) (fun _ => true) [] []) :=
    groupsLines_groupLoop rfl fun _ _ _ => rfl
  have requests : GroupsLines (fun text => text ≠ []) (groupLoop isRestLine balanced [] []) :=
    groupsLines_groupLoop rfl balanced_related
  cases dialect
  all_goals simp only [lineGrouping, Option.some.injEq, Prod.mk.injEq, reduceCtorEq] at found
  all_goals obtain ⟨rfl, rfl⟩ := found
  all_goals first
    | exact groupsLines_lineGroups
    | exact blocks
    | exact requests

/-- Where statements are groups of lines, the ranges cut out just these groups. -/
theorem rangeTexts_groups (dialect : Dialect) (opens : Text → Prop)
    (groups : List Text → List (List Text)) (found : lineGrouping dialect = some (opens, groups))
    (text : Text) : rangeTexts text (ranges dialect text) = groupTexts groups text := by
  have stand := stand_lines text
  have read : ∀ found : List (Nat × Nat), rangeTexts text found =
      visibleTexts (found.map (slice text)) := by
    intro found
    rw [rangeTexts, visibleTexts, List.map_map]
    rfl
  cases dialect
  all_goals simp only [lineGrouping, Option.some.injEq, Prod.mk.injEq, reduceCtorEq] at found
  all_goals obtain ⟨rfl, rfl⟩ := found
  all_goals rw [read, groupTexts]
  all_goals congr 1
  all_goals simp only [ranges, lineRanges, blockRanges, consoleRanges, lines_layout]
  all_goals first
    | exact lineLoop_groups text _ 0 _ stand
    | exact (blockLoop_groups text _).1 0 stand
    | exact (consoleLoop_groups text _).1 0 stand

end Engines

end DbFree.RunTargets
