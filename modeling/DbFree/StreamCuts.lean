import DbFree.LineLanguages

/- The languages that are cut into JSON bodies and lines, one chunk after another. -/
namespace DbFree.RunTargets

open Chars Destructive GuardDialect
open Texts hiding lines

theorem bodyLen_le (depth : Int) (inStr escaped : Bool) (text : Text) :
    bodyLen depth inStr escaped text ≤ text.length := by
  induction text generalizing depth inStr escaped with
  | nil => exact Nat.le_refl 0
  | cons c rest ih =>
    unfold bodyLen
    repeat' split
    all_goals first
      | exact Nat.succ_le_succ (ih _ _ _)
      | exact Nat.succ_le_succ (Nat.zero_le _)

/-- A body that goes beyond a text reads the text whole. -/
theorem bodyLen_append (depth : Int) (inStr escaped : Bool) (text rest : Text) :
    text.length ≤ bodyLen depth inStr escaped (text ++ rest) ↔
      bodyLen depth inStr escaped text = text.length := by
  induction text generalizing depth inStr escaped with
  | nil => simp [bodyLen]
  | cons c text ih =>
    rw [List.cons_append]
    unfold bodyLen
    repeat' split
    all_goals first
      | simpa only [List.length_cons, Nat.add_le_add_iff_right, Nat.add_right_cancel_iff] using ih _ _ _
      | skip
    cases text <;> simp

theorem lineLen_eq (text : Text) : lineLen text = text.length ↔ '\n' ∉ text := by
  have whole := lineLen_append text []
  simpa using whole

theorem lineLen_beyond (text rest : Text) :
    text.length ≤ lineLen (text ++ rest) ↔ lineLen text = text.length := by
  rw [lineLen_eq]
  induction text with
  | nil => simp
  | cons c text ih =>
    by_cases feed : c = '\n'
    · simp [lineLen, feed]
    · have step : lineLen (c :: text ++ rest) = lineLen (text ++ rest) + 1 := by simp [lineLen, feed]
      rw [step, List.length_cons, Nat.add_le_add_iff_right, ih, List.mem_cons]
      simp [Ne.symm feed]

theorem chunkLen_le (c : Char) (rest : Text) : chunkLen c rest ≤ rest.length := by
  unfold chunkLen
  split
  · exact bodyLen_le 1 false false rest
  · exact lineLen_le rest

theorem chunkLen_append (c : Char) (text rest : Text) :
    text.length ≤ chunkLen c (text ++ rest) ↔ chunkLen c text = text.length := by
  unfold chunkLen
  split
  · exact bodyLen_append 1 false false text rest
  · exact lineLen_beyond text rest

theorem streamLoop_shift (front skip i : Nat) (chars : Text) :
    streamLoop skip (front + i) chars =
      (streamLoop skip i chars).map fun range => (front + range.1, front + range.2) := by
  induction chars generalizing skip i with
  | nil => rfl
  | cons c rest ih =>
    cases skip with
    | succ skip => exact ih skip (i + 1)
    | zero =>
      simp only [streamLoop]
      split
      · exact ih 0 (i + 1)
      · split
        · exact ih _ (i + 1)
        · rw [List.map_cons, ← ih]
          simp only [Nat.add_assoc]

theorem streamLoop_skip (skip i : Nat) (chars : Text) (inside : skip ≤ chars.length) :
    streamLoop skip i chars = streamLoop 0 (i + skip) (chars.drop skip) := by
  induction skip generalizing i chars with
  | zero => rfl
  | succ skip ih =>
    cases chars with
    | nil => cases inside
    | cons c rest =>
      rw [streamLoop, ih (i + 1) rest (Nat.le_of_succ_le_succ inside), List.drop_succ_cons,
        Nat.add_assoc, Nat.add_comm 1 skip]

/-- The statements of a stream. -/
def streamTexts (text : Text) : List Text := rangeTexts text (streamRanges text)

theorem streamTexts_nil : streamTexts [] = [] := rfl

theorem streamTexts_white (c : Char) (rest : Text) (white : isWhitespace c = true) :
    streamTexts (c :: rest) = streamTexts rest := by
  have moved := streamLoop_shift 1 0 0 rest
  have shifted := rangeTexts_shift [c] rest (streamLoop 0 0 rest)
  rw [streamTexts, streamRanges, streamLoop, if_pos white, moved]
  exact shifted

theorem streamTexts_chunk (c : Char) (rest : Text) (visible : isWhitespace c = false) :
    streamTexts (c :: rest) =
      (if isCommentLine (trim (c :: rest.take (chunkLen c rest))) then []
        else [trim (c :: rest.take (chunkLen c rest))]) ++
        streamTexts (rest.drop (chunkLen c rest)) := by
  have inside := chunkLen_le c rest
  have behind : rangeTexts (c :: rest) (streamLoop (chunkLen c rest) 1 rest) =
      streamTexts (rest.drop (chunkLen c rest)) := by
    have moved := streamLoop_shift (1 + chunkLen c rest) 0 0 (rest.drop (chunkLen c rest))
    have shifted := rangeTexts_shift (c :: rest.take (chunkLen c rest))
      (rest.drop (chunkLen c rest)) (streamLoop 0 0 (rest.drop (chunkLen c rest)))
    rw [List.cons_append, List.take_append_drop, List.length_cons, List.length_take,
      Nat.min_eq_left inside, Nat.add_comm] at shifted
    rw [streamLoop_skip _ _ _ inside, ← Nat.add_zero (1 + chunkLen c rest), moved]
    exact shifted
  have first : slice (c :: rest) (0, 0 + 1 + chunkLen c rest) = c :: rest.take (chunkLen c rest) := by
    rw [slice, List.drop_zero, Nat.zero_add, Nat.add_comm, List.take_succ_cons]
  rw [streamTexts, streamRanges, streamLoop, if_neg (by simp [visible])]
  split
  · rw [List.nil_append]
    exact behind
  · rw [rangeTexts_cons, first, blank_cons c _ visible, if_neg Bool.false_ne_true]
    congr 1

/-- A statement of a stream: a body, or a line, with nothing behind it. -/
structure StreamPiece (piece : Text) (c : Char) (rest : Text) : Prop where
  shape : piece = c :: rest
  visible : isWhitespace c = false
  whole : chunkLen c rest = rest.length
  trimmed : trim piece = piece
  command : isCommentLine piece = false

theorem streamPiece_of_mem (text piece : Text) (member : piece ∈ streamTexts text) :
    ∃ c rest, StreamPiece piece c rest := by
  induction size : text.length using Nat.strong_induction_on generalizing text with
  | _ size ih =>
    cases text with
    | nil => cases member
    | cons c rest =>
      by_cases white : isWhitespace c = true
      · rw [streamTexts_white c rest white] at member
        exact ih rest.length (by rw [← size]; exact Nat.lt_succ_self _) rest member rfl
      · have visible : isWhitespace c = false := by simpa using white
        rw [streamTexts_chunk c rest visible, List.mem_append] at member
        rcases member with first | later
        · by_cases comment : isCommentLine (trim (c :: rest.take (chunkLen c rest))) = true
          · rw [if_pos comment] at first
            cases first
          · rw [if_neg comment, List.mem_singleton] at first
            obtain ⟨back, parts, -⟩ := trim_visible c (rest.take (chunkLen c rest)) visible
            rw [← first] at parts comment
            cases piece with
            | nil =>
              have empty : blank (c :: rest.take (chunkLen c rest)) = true :=
                (trim_eq_nil_iff _).mp first.symm
              rw [blank_cons c _ visible] at empty
              cases empty
            | cons d tail =>
              rw [List.cons_append, List.cons.injEq] at parts
              obtain ⟨rfl, inner⟩ := parts
              refine ⟨c, tail, rfl, visible, ?_, ?_, by simpa using comment⟩
              · have split : rest = tail ++ (back ++ rest.drop (chunkLen c rest)) := by
                  rw [← List.append_assoc, ← inner, List.take_append_drop]
                have short : tail.length ≤ chunkLen c rest := by
                  have lengths := congrArg List.length inner
                  rw [List.length_take, Nat.min_eq_left (chunkLen_le c rest),
                    List.length_append] at lengths
                  omega
                rw [split] at short
                exact (chunkLen_append c tail _).mp short
              · rw [first, trim_trim]
        · refine ih _ ?_ _ later rfl
          rw [← size, List.length_drop, List.length_cons]
          omega

section Joined

variable {piece rest : Text} {c : Char} (own : StreamPiece piece c rest)

include own

theorem streamTexts_alone : streamTexts piece = [piece] := by
  have all : c :: rest.take (chunkLen c rest) = piece := by
    rw [own.whole, List.take_length, own.shape]
  have step := streamTexts_chunk c rest own.visible
  rw [all, own.trimmed, own.command, if_neg Bool.false_ne_true, own.whole, List.drop_length,
    streamTexts_nil, List.append_nil, ← own.shape] at step
  exact step

theorem streamTexts_line (later : Text) (plain : c ≠ '\x7b') :
    streamTexts (piece ++ ';' :: '\n' :: later) = (piece ++ [';']) :: streamTexts later := by
  have feedless : '\n' ∉ rest := by
    have whole := own.whole
    rw [chunkLen, if_neg plain] at whole
    exact (lineLen_eq rest).mp whole
  have length : chunkLen c (rest ++ ';' :: '\n' :: later) = (rest ++ [';']).length := by
    rw [chunkLen, if_neg plain, List.append_cons]
    refine (lineLen_append (rest ++ [';']) ('\n' :: later)).mpr ⟨?_, Or.inr rfl⟩
    rw [List.mem_append, List.mem_singleton, not_or]
    exact ⟨feedless, by decide⟩
  have closed : trim (piece ++ [';']) = piece ++ [';'] := by
    rw [own.shape, trim, trimStart, List.cons_append,
      List.dropWhile_cons_of_neg (by simp [own.visible]), ← List.cons_append,
      trimEnd_append _ _ rfl]
    rfl
  have filled : piece ≠ [] := by
    rw [own.shape]
    exact List.cons_ne_nil c rest
  have step := streamTexts_chunk c (rest ++ ';' :: '\n' :: later) own.visible
  have joined : c :: (rest ++ [';']) = piece ++ [';'] := by rw [own.shape, List.cons_append]
  rw [length, List.append_cons, List.take_left, List.drop_left, ← List.cons_append, joined, closed,
    isCommentLine_separator piece filled, own.command, if_neg Bool.false_ne_true,
    streamTexts_white '\n' later rfl] at step
  rw [List.append_cons]
  exact step

/-- A body leaves the `;` behind it as a statement of its own, or goes on. -/
theorem streamTexts_body (later : Text) (brace : c = '\x7b')
    (first : (streamTexts (piece ++ ';' :: '\n' :: later)).head? = some piece) :
    streamTexts (piece ++ ';' :: '\n' :: later) = piece :: [';'] :: streamTexts later := by
  have noComment : ∀ tail : Text, isCommentLine ('\x7b' :: tail) = false := by
    intro tail
    simp [isCommentLine, startsWith, List.isPrefixOf]
  have step := streamTexts_chunk c (rest ++ ';' :: '\n' :: later) own.visible
  have long : rest.length ≤ chunkLen c (rest ++ ';' :: '\n' :: later) :=
    (chunkLen_append c rest _).mpr own.whole
  obtain ⟨back, parts, white⟩ := trim_visible c
    ((rest ++ ';' :: '\n' :: later).take (chunkLen c (rest ++ ';' :: '\n' :: later))) own.visible
  obtain ⟨tail, startShape⟩ : ∃ tail, trim (c :: (rest ++ ';' :: '\n' :: later).take
      (chunkLen c (rest ++ ';' :: '\n' :: later))) = c :: tail := by
    cases shape : trim (c :: (rest ++ ';' :: '\n' :: later).take
      (chunkLen c (rest ++ ';' :: '\n' :: later))) with
    | nil =>
      have empty := (trim_eq_nil_iff _).mp shape
      rw [blank_cons c _ own.visible] at empty
      cases empty
    | cons d tail =>
      rw [shape, List.cons_append, List.cons.injEq] at parts
      exact ⟨tail, by rw [parts.1]⟩
  rw [startShape, brace, noComment, if_neg Bool.false_ne_true, ← brace, ← List.cons_append,
    ← own.shape, List.singleton_append] at step
  rw [step, List.head?_cons, Option.some.injEq] at first
  rw [startShape, first] at parts
  have exact₀ : chunkLen c (rest ++ ';' :: '\n' :: later) = rest.length := by
    by_contra longer
    obtain ⟨more, size⟩ := Nat.exists_eq_add_of_lt (Nat.lt_of_le_of_ne long (Ne.symm longer))
    rw [size, Nat.add_assoc, List.take_length_add_append, List.take_succ_cons, ← List.cons_append,
      ← own.shape, List.append_cancel_left_eq] at parts
    have space := white ';' (by rw [← parts]; exact List.mem_cons_self)
    rw [separator_not_white] at space
    cases space
  have separator : streamTexts (';' :: '\n' :: later) = [';'] :: streamTexts later := by
    have lone := streamTexts_chunk ';' ('\n' :: later) separator_not_white
    have none₀ : chunkLen ';' ('\n' :: later) = 0 := rfl
    rw [none₀, List.take_zero, List.drop_zero, streamTexts_white '\n' later rfl] at lone
    exact lone
  rw [step, first, exact₀, List.drop_left, separator]

end Joined

/-- Behind a line with `;` the pieces cannot follow each other one place earlier. -/
theorem streamTexts_descent (pieces : List Text)
    (own : ∀ piece ∈ pieces, ∃ c rest, StreamPiece piece c rest) (first : Text)
    (shape : pieces.head? = some first) (plain : first.head? ≠ some '\x7b') :
    streamTexts ([';', '\n'].intercalate pieces) ≠ pieces.tail := by
  induction pieces generalizing first with
  | nil => cases shape
  | cons piece later ih =>
    obtain rfl := Option.some.inj shape
    obtain ⟨c, rest, stream⟩ := own piece List.mem_cons_self
    have other : c ≠ '\x7b' := by
      rintro rfl
      rw [stream.shape] at plain
      exact plain rfl
    cases later with
    | nil =>
      rw [List.intercalate_singleton, streamTexts_alone stream]
      exact List.cons_ne_nil _ _
    | cons next later =>
      rw [List.intercalate_cons_cons, List.append_assoc, List.cons_append, List.cons_append,
        List.nil_append, streamTexts_line stream _ other, List.tail_cons]
      intro same
      rw [List.cons.injEq] at same
      refine ih (fun piece member => own piece (List.mem_cons_of_mem _ member)) next rfl ?_ same.2
      rw [← same.1, stream.shape]
      simpa using other

/-- Statements of a stream joined by `;` do not come out as they were. -/
theorem streamTexts_joined (first second : Text) (later : List Text)
    (own : ∀ piece ∈ first :: second :: later, ∃ c rest, StreamPiece piece c rest) :
    streamTexts ([';', '\n'].intercalate (first :: second :: later)) ≠ first :: second :: later := by
  obtain ⟨c, rest, stream⟩ := own first List.mem_cons_self
  have others := fun piece member => own piece (List.mem_cons_of_mem first member)
  rw [List.intercalate_cons_cons, List.append_assoc, List.cons_append, List.cons_append,
    List.nil_append]
  intro same
  by_cases brace : c = '\x7b'
  · have head : (streamTexts (first ++ ';' :: '\n' ::
        [';', '\n'].intercalate (second :: later))).head? = some first := by
      rw [same]
      rfl
    rw [streamTexts_body stream _ brace head, List.cons.injEq, List.cons.injEq] at same
    obtain ⟨-, separator, tail⟩ := same
    refine streamTexts_descent (second :: later) others second rfl ?_ tail
    rw [← separator]
    decide
  · rw [streamTexts_line stream _ brace, List.cons.injEq] at same
    have lengths := congrArg List.length same.1
    simp at lengths

end DbFree.RunTargets
