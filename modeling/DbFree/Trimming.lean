import DbFree.Texts

/- What trimming takes from a text, and texts that it leaves as they are. -/
namespace DbFree.Texts

open Chars

theorem trimStart_append (text rest : Text) (visible : blank text = false) :
    trimStart (text ++ rest) = trimStart text ++ rest := by
  have kept : trimStart text ≠ [] := by
    rw [trimStart, ne_eq, List.dropWhile_eq_nil_iff]
    intro all
    rw [blank, List.all_eq_true.mpr all] at visible
    cases visible
  rw [trimStart, List.dropWhile_append, ← trimStart, if_neg (by simpa using kept)]

theorem trimEnd_append (front text : Text) (visible : blank text = false) :
    trimEnd (front ++ text) = front ++ trimEnd text := by
  have reversed : blank text.reverse = false := by rwa [blank, List.all_reverse]
  have dropped := trimStart_append text.reverse front.reverse reversed
  rw [trimEnd, trimEnd, List.rdropWhile, List.rdropWhile, List.reverse_append, ← trimStart, dropped,
    List.reverse_append, List.reverse_reverse, ← trimStart]

theorem trimEnd_white (text white : Text) (all : blank white = true) :
    trimEnd (text ++ white) = trimEnd text := by
  have reversed : ∀ c ∈ white.reverse, isWhitespace c = true := by
    intro c member
    exact List.all_eq_true.mp all c (List.mem_reverse.mp member)
  rw [trimEnd, trimEnd, List.rdropWhile, List.rdropWhile, List.reverse_append,
    List.dropWhile_append_of_pos reversed]

theorem trim_white (text white : Text) (all : blank white = true) :
    trim (text ++ white) = trim text := by
  by_cases empty : blank text = true
  · have both : blank (text ++ white) = true := by
      rw [blank, List.all_append, ← blank, ← blank, empty, all, Bool.and_self]
    rw [(trim_eq_nil_iff _).mpr both, (trim_eq_nil_iff _).mpr empty]
  · rw [trim, trimStart_append text white (by simpa using empty), trimEnd_white _ _ all, trim]

theorem blank_trimStart (text : Text) : blank (trimStart text) = blank text := by
  have whole : text.takeWhile isWhitespace ++ trimStart text = text :=
    List.takeWhile_append_dropWhile
  have front : (text.takeWhile isWhitespace).all isWhitespace = true :=
    List.all_eq_true.mpr fun c member => List.mem_takeWhile_imp member
  conv => rhs; rw [← whole]
  rw [blank, blank, List.all_append, front, Bool.true_and]

theorem trim_trimStart (text : Text) : trim (trimStart text) = trim text := by
  rw [trim, trim, trimStart, trimStart, List.dropWhile_idempotent]

theorem trimEnd_parts (text : Text) : ∃ white, text = trimEnd text ++ white ∧ blank white = true := by
  refine ⟨text.rtakeWhile isWhitespace, ?_, ?_⟩
  · rw [trimEnd, List.rdropWhile, List.rtakeWhile, ← List.reverse_append,
      List.takeWhile_append_dropWhile, List.reverse_reverse]
  · exact List.all_eq_true.mpr fun c => List.mem_rtakeWhile_imp

theorem trim_trimEnd (text : Text) : trim (trimEnd text) = trim text := by
  obtain ⟨white, parts, all⟩ := trimEnd_parts text
  conv => rhs; rw [parts]
  rw [trim_white _ _ all]

theorem trim_trim (text : Text) : trim (trim text) = trim text := by
  show trim (trimEnd (trimStart text)) = trim text
  rw [trim_trimEnd, trim_trimStart]

/-- What a strip at both ends leaves is part of the text. -/
theorem strip_sublist (strips : Char → Bool) (text : Text) :
    ((text.dropWhile strips).rdropWhile strips).Sublist text :=
  (List.rdropWhile_prefix strips _).sublist.trans (List.dropWhile_sublist strips)

/-- What stands between marks has none of them. -/
theorem not_mem_splitOn (c : Char) (text : Text) : ∀ piece ∈ text.splitOn c, c ∉ piece := by
  induction text with
  | nil => simp
  | cons d rest hypothesis =>
    rw [List.splitOn_cons_eq_if_modifyHead]
    by_cases mark : d = c
    · rw [if_pos (beq_iff_eq.mpr mark)]
      exact List.forall_mem_cons.mpr ⟨List.not_mem_nil, hypothesis⟩
    · rw [if_neg (by simpa using mark)]
      cases split : rest.splitOn c with
      | nil => exact absurd split (List.splitOn_ne_nil c rest)
      | cons first later =>
        rw [split] at hypothesis
        obtain ⟨own, others⟩ := List.forall_mem_cons.mp hypothesis
        rw [List.modifyHead_cons]
        refine List.forall_mem_cons.mpr ⟨?_, others⟩
        rw [List.mem_cons, not_or]
        exact ⟨Ne.symm mark, own⟩

theorem trim_length (text : Text) : (trim text).length ≤ text.length := by
  have ⟨front, back, split, _, _⟩ := strip_parts isWhitespace text
  have lengths := congrArg List.length split
  simp only [List.length_append] at lengths
  show ((text.dropWhile isWhitespace).rdropWhile isWhitespace).length ≤ text.length
  omega

theorem trimmed_ends {text : Text} (trimmed : trim text = text) :
    trimStart text = text ∧ trimEnd text = text := by
  obtain ⟨white, parts, -⟩ := trimEnd_parts (trimStart text)
  have same : trimEnd (trimStart text) = text := trimmed
  have whole : text.takeWhile isWhitespace ++ trimStart text = text :=
    List.takeWhile_append_dropWhile
  rw [same] at parts
  have size := congrArg List.length whole
  rw [parts, List.length_append, List.length_append] at size
  have none_behind : white = [] := List.eq_nil_of_length_eq_zero (by omega)
  have start : trimStart text = text := by rw [parts, none_behind, List.append_nil]
  rw [start] at same
  exact ⟨start, same⟩

theorem trim_of_ends {text : Text} (starts : ∀ c, text.head? = some c → isWhitespace c = false)
    (ends : ∀ c, text.getLast? = some c → isWhitespace c = false) : trim text = text := by
  have start : text.dropWhile isWhitespace = text := by
    rw [List.dropWhile_eq_self_iff]
    intro filled
    rw [starts _ (List.head?_eq_getElem?.trans (List.getElem?_eq_getElem filled))]
    exact Bool.false_ne_true
  unfold trim trimEnd trimStart
  rw [start, List.rdropWhile_eq_self_iff]
  intro filled
  rw [ends _ (List.getLast?_eq_some_getLast filled)]
  exact Bool.false_ne_true

theorem ends_of_trim {text : Text} (trimmed : trim text = text) :
    (∀ c, text.head? = some c → isWhitespace c = false) ∧
      ∀ c, text.getLast? = some c → isWhitespace c = false := by
  have ⟨start, ends⟩ := trimmed_ends trimmed
  unfold trimStart at start
  unfold trimEnd at ends
  rw [List.dropWhile_eq_self_iff] at start
  rw [List.rdropWhile_eq_self_iff] at ends
  constructor
  · intro c head
    have ⟨rest, shape⟩ := List.head?_eq_some_iff.mp head
    subst shape
    exact Bool.eq_false_of_not_eq_true (start (Nat.succ_pos _))
  · intro c last
    have filled : text ≠ [] := by
      intro empty
      rw [empty] at last
      cases last
    rw [List.getLast?_eq_some_getLast filled] at last
    rw [← Option.some.inj last]
    exact Bool.eq_false_of_not_eq_true (ends filled)

/-- A text that a strip leaves as it is, a lesser strip leaves as it is. -/
theorem strip_lesser {strips strips' : Char → Bool} (lesser : ∀ c, strips' c = true → strips c = true)
    {text : Text} (start : text.dropWhile strips = text) (ends : text.rdropWhile strips = text) :
    (text.dropWhile strips').rdropWhile strips' = text := by
  have start' : text.dropWhile strips' = text := by
    rw [List.dropWhile_eq_self_iff] at start ⊢
    exact fun filled blank => start filled (lesser _ blank)
  rw [start', List.rdropWhile_eq_self_iff]
  rw [List.rdropWhile_eq_self_iff] at ends
  exact fun filled blank => ends filled (lesser _ blank)

/-- A beginning of a text that starts with no white space starts with none. -/
theorem trimStart_take {text : Text} (start : trimStart text = text) (count : Nat) :
    trimStart (text.take count) = text.take count := by
  cases text with
  | nil => rw [List.take_nil, start]
  | cons c rest =>
    cases count with
    | zero => rfl
    | succ count =>
      rw [trimStart, List.dropWhile_eq_self_iff] at start
      rw [List.take_succ_cons, trimStart, List.dropWhile_eq_self_iff]
      exact fun _ => start (Nat.zero_lt_succ _)

theorem toAsciiLowercase_small {text : Text}
    (small : (text.all fun c => 'a' ≤ c && c ≤ 'z') = true) : toAsciiLowercase text = text := by
  rw [List.all_eq_true] at small
  refine (List.map_congr_left (g := id) fun c member => ?_).trans (List.map_id text)
  have within := small c member
  rw [Bool.and_eq_true, decide_eq_true_eq, decide_eq_true_eq] at within
  have above : 97 ≤ c.val.toNat := within.1
  rw [Char.toLower, dif_neg]
  · rfl
  · rintro ⟨-, upper⟩
    have below : c.val.toNat ≤ 90 := upper
    omega

end DbFree.Texts
