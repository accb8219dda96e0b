import DbFree.Spans

/- What a Run of the editor sends: the ranges of the text that it runs, the script they
are joined to, and where an offset of the script stands in the editor
(features/editor/runTargets.ts). -/
namespace DbFree.RunTargets

open Utf16 (sliceUnits)

/-- A range of the editor's text, in UTF-16 units. -/
structure Range where
  start : Nat
  stop : Nat
deriving DecidableEq

inductive RunKind where
  | all | statement | selection | several
deriving DecidableEq

inductive RunScope where
  | all | current
deriving DecidableEq

structure RunTarget where
  kind : RunKind
  pieces : List Range
  count : Nat
  index : Nat
  total : Nat
deriving DecidableEq

/-- `;` and a line feed. -/
def SEPARATOR : List Nat := [0x3b, 0xa]

def clamp (range : Range) (length : Nat) : Range :=
  let start := min range.start length
  ⟨start, min (max range.stop start) length⟩

/-- The statement the caret is inside, else the next one below it, else the last. -/
def spanIndexAt (spans : List Range) (position : Nat) : Nat :=
  match spans.findIdx? fun s => s.start ≤ position && position ≤ s.stop with
  | some inside => inside
  | none =>
    match spans.findIdx? fun s => position < s.start with
    | some below => below
    | none => spans.length - 1

def overlaps (statement range : Range) : Bool :=
  statement.start < range.stop && range.start < statement.stop

/-- The statements one selection or caret adds to the run. -/
def touched (statements : List Range) (range : Range) : List Nat :=
  if range.start < range.stop then
    (List.range statements.length).filter fun i =>
      (statements[i]?).any fun statement => overlaps statement range
  else [spanIndexAt statements range.start]

/-- A set of numbers, sorted. -/
def sorted (chosen : List Nat) : List Nat := chosen.eraseDups.mergeSort fun a b => a ≤ b

/-- The one highlighted range, when there is nothing else. -/
def onlySelection (ranges : List Range) : Option Range :=
  match ranges with
  | [only] => if only.start < only.stop then some only else none
  | _ => none

def planRun (spans : List StatementSpan) (selections : List Range) (docLength : Nat)
    (scope : RunScope) : RunTarget :=
  let statements := spans.map fun s => clamp ⟨s.start, s.stop⟩ docLength
  let total := statements.length
  let whole : RunTarget := ⟨.all, [⟨0, docLength⟩], max total 1, 0, total⟩
  let ranges := selections.map fun range => clamp range docLength
  match onlySelection ranges with
  | some only =>
    ⟨.selection, [only], max (statements.filter fun s => overlaps s only).length 1, 0, total⟩
  | none =>
    if total = 0 then whole
    else if ranges.length ≤ 1 ∧ scope = .all then whole
    else
      let picked := sorted (ranges.flatMap (touched statements))
      let pieces := picked.filterMap fun i => statements[i]?
      if pieces.isEmpty then whole
      else if pieces.length = 1 then ⟨.statement, pieces, 1, picked.headD 0 + 1, total⟩
      else ⟨.several, pieces, pieces.length, 0, total⟩

/-- The script a target sends: its ranges of the text, joined. -/
def joinScript (doc : List Nat) (pieces : List Range) : List Nat :=
  SEPARATOR.intercalate (pieces.map fun p => sliceUnits doc p.start p.stop)

/-- The loop of `scriptOffsetToDoc`, the next piece standing at `start` of the script and
the one before it ending at `last` of the editor. -/
def offsetLoop (start last offset : Nat) : List Range → Nat
  | [] => last
  | piece :: later =>
    let length := piece.stop - piece.start
    if offset ≤ start + length then piece.start + (offset - start)
    else offsetLoop (start + length + SEPARATOR.length) piece.stop offset later

/-- Where an offset in the script sits in the editor. -/
def scriptOffsetToDoc (pieces : List Range) (offset : Nat) : Nat := offsetLoop 0 0 offset pieces

/-- Where a piece stands in the script: behind those before it and their separators. -/
def scriptStart (before : List Range) : Nat :=
  (before.map fun p => p.stop - p.start + SEPARATOR.length).sum

/-- An offset inside a piece is found in that piece, whatever stands around it. -/
theorem offsetLoop_inside (start last j : Nat) (before later : List Range) (piece : Range)
    (inside : j ≤ piece.stop - piece.start) :
    offsetLoop start last (start + scriptStart before + j) (before ++ piece :: later) =
      piece.start + j := by
  induction before generalizing start last with
  | nil =>
    simp only [scriptStart, List.map_nil, List.sum_nil, Nat.add_zero, List.nil_append, offsetLoop]
    rw [if_pos (Nat.add_le_add_left inside start), Nat.add_sub_cancel_left]
  | cons first before ih =>
    have step : start + scriptStart (first :: before) + j =
        start + (first.stop - first.start) + SEPARATOR.length + scriptStart before + j := by
      simp only [scriptStart, List.map_cons, List.sum_cons]
      omega
    have beyond : ¬start + (first.stop - first.start) + SEPARATOR.length + scriptStart before + j ≤
        start + (first.stop - first.start) := by
      have positive : SEPARATOR.length = 2 := rfl
      omega
    rw [step, List.cons_append, offsetLoop, if_neg beyond, ih]

theorem scriptOffsetToDoc_inside (before later : List Range) (piece : Range) (j : Nat)
    (inside : j ≤ piece.stop - piece.start) :
    scriptOffsetToDoc (before ++ piece :: later) (scriptStart before + j) = piece.start + j := by
  have found := offsetLoop_inside 0 0 j before later piece inside
  rwa [Nat.zero_add] at found

theorem nodup_eraseDups (numbers : List Nat) : numbers.eraseDups.Nodup := by
  induction size : numbers.length using Nat.strong_induction_on generalizing numbers with
  | _ size ih =>
    cases numbers with
    | nil => exact List.nodup_nil
    | cons first rest =>
      have shorter := List.length_filter_le (fun b => !b == first) rest
      rw [List.eraseDups_cons, List.nodup_cons]
      refine ⟨?_, ih _ ?_ _ rfl⟩
      · rw [List.mem_eraseDups, List.mem_filter]
        simp
      · rw [← size, List.length_cons]
        exact Nat.lt_succ_of_le shorter

theorem sorted_increasing (chosen : List Nat) : (sorted chosen).Pairwise (· < ·) := by
  have order : (sorted chosen).Pairwise fun a b => decide (a ≤ b) = true := by
    refine List.pairwise_mergeSort ?_ ?_ _
    · intro a b c first second
      exact decide_eq_true ((of_decide_eq_true first).trans (of_decide_eq_true second))
    · intro a b
      rcases Nat.le_total a b with le | le
      · simp [le]
      · simp [le]
  have different : (sorted chosen).Pairwise (· ≠ ·) :=
    (List.mergeSort_perm _ _).nodup_iff.mpr (nodup_eraseDups chosen)
  refine (order.and different).imp ?_
  rintro a b ⟨le, ne⟩
  exact Nat.lt_of_le_of_ne (of_decide_eq_true le) ne

theorem eraseDups_increasing (numbers : List Nat) (increasing : numbers.Pairwise (· < ·)) :
    numbers.eraseDups = numbers := by
  induction numbers with
  | nil => rfl
  | cons first rest ih =>
    obtain ⟨least, later⟩ := List.pairwise_cons.mp increasing
    have kept : rest.filter (fun b => !b == first) = rest := by
      rw [List.filter_eq_self]
      intro b member
      have less := least b member
      simp
      omega
    rw [List.eraseDups_cons, kept, ih later]

theorem sorted_of_increasing (numbers : List Nat) (increasing : numbers.Pairwise (· < ·)) :
    sorted numbers = numbers := by
  rw [sorted, eraseDups_increasing numbers increasing]
  refine List.mergeSort_of_pairwise (increasing.imp ?_)
  intro a b less
  exact decide_eq_true (Nat.le_of_lt less)

/-- Increasing places of a list read a sublist of it. -/
theorem picked_sublist {α : Type} (statements : List α) (places : List Nat)
    (increasing : places.Pairwise (· < ·)) :
    (places.filterMap fun i => statements[i]?).Sublist statements := by
  induction statements generalizing places with
  | nil => simp
  | cons first statements ih =>
    have shifted : ∀ places : List Nat, places.Pairwise (· < ·) → (∀ i ∈ places, 0 < i) →
        (places.filterMap fun i => (first :: statements)[i]?).Sublist statements := by
      intro places increasing positive
      have fewer := ih (places.map fun i => i - 1) (by
        rw [List.pairwise_map]
        refine increasing.imp_of_mem ?_
        intro a b member member' less
        have above := positive a member
        omega)
      rw [List.filterMap_map] at fewer
      have same : places.filterMap (fun i => (first :: statements)[i]?) =
          places.filterMap ((fun i => statements[i]?) ∘ fun i => i - 1) := by
        refine List.filterMap_congr ?_
        intro i member
        obtain ⟨j, rfl⟩ := Nat.exists_eq_succ_of_ne_zero (Nat.pos_iff_ne_zero.mp (positive i member))
        simp
      rw [same]
      exact fewer
    cases places with
    | nil => simp
    | cons place places =>
      obtain ⟨least, rest⟩ := List.pairwise_cons.mp increasing
      cases place with
      | zero =>
        rw [List.filterMap_cons]
        exact (shifted places rest least).cons_cons first
      | succ place =>
        refine (shifted ((place + 1) :: places) increasing ?_).cons first
        intro i member
        rcases List.mem_cons.mp member with rfl | later
        · exact Nat.succ_pos place
        · exact Nat.lt_trans (Nat.succ_pos place) (least i later)

/-- A target whose ranges are statements of the text. -/
def RunTarget.PicksStatements (target : RunTarget) : Prop :=
  target.kind = .statement ∨ target.kind = .several

instance (target : RunTarget) : Decidable target.PicksStatements :=
  inferInstanceAs (Decidable (_ ∨ _))

/-- The statements a target picks are statements of the text, each once, in text order. -/
theorem planRun_picks (spans : List StatementSpan) (selections : List Range) (docLength : Nat)
    (scope : RunScope) (picks : (planRun spans selections docLength scope).PicksStatements) :
    (planRun spans selections docLength scope).pieces ≠ [] ∧
      (planRun spans selections docLength scope).pieces.Sublist
        (spans.map fun s => clamp ⟨s.start, s.stop⟩ docLength) := by
  simp only [planRun] at picks ⊢
  split at picks
  · rcases picks with kind | kind <;> cases kind
  · split at picks
    · rcases picks with kind | kind <;> cases kind
    · split at picks
      · rcases picks with kind | kind <;> cases kind
      · split at picks
        · rcases picks with kind | kind <;> cases kind
        · rename_i filled several found
          rw [if_neg filled, if_neg several, if_neg found]
          have places := picked_sublist (spans.map fun s => clamp ⟨s.start, s.stop⟩ docLength) _
            (sorted_increasing ((selections.map fun range => clamp range docLength).flatMap
              (touched (spans.map fun s => clamp ⟨s.start, s.stop⟩ docLength))))
          split
          · exact ⟨by simpa using found, places⟩
          · exact ⟨by simpa using found, places⟩

end DbFree.RunTargets
