import DbFree.ResultView

/- JavaScript's view of a text: its UTF-16 code units, by which a position is counted. -/
namespace DbFree.Utf16

open Browser (codeUnits)

/-- `char::len_utf16`. -/
def lenUtf16 (c : Char) : Nat := if c.toNat < 0x10000 then 1 else 2

def isHigh (unit : Nat) : Bool := 0xd800 ≤ unit && unit < 0xdc00

def isLow (unit : Nat) : Bool := 0xdc00 ≤ unit && unit < 0xe000

def replacement : Char := '\ufffd'

/-- `String::from_utf16_lossy`: half of a pair becomes a replacement character. -/
def fromUtf16Lossy : List Nat → Text
  | [] => []
  | [unit] => [if isHigh unit || isLow unit then replacement else Char.ofNat unit]
  | unit :: next :: rest =>
    if isHigh unit && isLow next then
      Char.ofNat (0x10000 + (unit - 0xd800) * 0x400 + (next - 0xdc00)) :: fromUtf16Lossy rest
    else
      (if isHigh unit || isLow unit then replacement else Char.ofNat unit) ::
        fromUtf16Lossy (next :: rest)

/-- `doc.slice(from, to)` for positions that are not negative. -/
def sliceUnits (units : List Nat) (start stop : Nat) : List Nat := (units.take stop).drop start

/-- The position in UTF-16 units of the character at index `i`. -/
def utf16At (chars : Text) (i : Nat) : Nat := ((chars.take i).map lenUtf16).sum

@[simp] theorem codeUnits_nil : codeUnits [] = [] := rfl

@[simp] theorem codeUnits_append (first second : Text) :
    codeUnits (first ++ second) = codeUnits first ++ codeUnits second := by
  simp only [codeUnits, List.flatMap_append]

theorem codeUnits_cons_small (c : Char) (rest : Text) (small : c.toNat < 0x10000) :
    codeUnits (c :: rest) = c.toNat :: codeUnits rest := by
  simp only [codeUnits, List.flatMap_cons, if_pos small, List.singleton_append]

theorem codeUnits_cons_large (c : Char) (rest : Text) (large : ¬c.toNat < 0x10000) :
    codeUnits (c :: rest) =
      (0xd800 + (c.toNat - 0x10000) / 0x400) :: (0xdc00 + (c.toNat - 0x10000) % 0x400) ::
        codeUnits rest := by
  simp only [codeUnits, List.flatMap_cons, if_neg large, List.cons_append, List.nil_append]

theorem length_codeUnits (text : Text) : (codeUnits text).length = (text.map lenUtf16).sum := by
  induction text with
  | nil => rfl
  | cons c rest ih =>
    by_cases small : c.toNat < 0x10000
    · rw [codeUnits_cons_small c rest small, List.length_cons, ih, List.map_cons, List.sum_cons,
        lenUtf16, if_pos small, Nat.add_comm]
    · rw [codeUnits_cons_large c rest small, List.length_cons, List.length_cons, ih,
        List.map_cons, List.sum_cons, lenUtf16, if_neg small]
      omega

theorem utf16At_eq (chars : Text) (i : Nat) :
    utf16At chars i = (codeUnits (chars.take i)).length := by
  rw [length_codeUnits, utf16At]

/-- A scalar value is no half of a pair. -/
theorem char_valid (c : Char) : c.toNat < 0xd800 ∨ 0xe000 ≤ c.toNat ∧ c.toNat < 0x110000 := by
  have valid := c.valid
  simp only [UInt32.isValidChar, Nat.isValidChar] at valid
  rcases valid with low | high
  · exact Or.inl low
  · exact Or.inr ⟨by have := high.1; show 0xe000 ≤ c.val.toNat; omega, high.2⟩

theorem fromUtf16Lossy_codeUnits (text : Text) : fromUtf16Lossy (codeUnits text) = text := by
  induction text with
  | nil => rfl
  | cons c rest ih =>
    have valid := char_valid c
    by_cases small : c.toNat < 0x10000
    · have high : isHigh c.toNat = false := by
        simp only [isHigh, Bool.and_eq_false_iff, decide_eq_false_iff_not]
        omega
      have low : isLow c.toNat = false := by
        simp only [isLow, Bool.and_eq_false_iff, decide_eq_false_iff_not]
        omega
      rw [codeUnits_cons_small c rest small]
      cases units : codeUnits rest with
      | nil =>
        rw [units] at ih
        simp only [fromUtf16Lossy, high, low, Bool.or_self, Bool.false_eq_true, if_false,
          Char.ofNat_toNat] at ih ⊢
        rw [ih]
      | cons unit units' =>
        rw [units] at ih
        rw [fromUtf16Lossy, high, low, ih]
        simp only [Bool.false_and, Bool.or_self, Bool.false_eq_true, if_false, Char.ofNat_toNat]
    · have high : isHigh (0xd800 + (c.toNat - 0x10000) / 0x400) = true := by
        simp only [isHigh, Bool.and_eq_true, decide_eq_true_eq]
        omega
      have low : isLow (0xdc00 + (c.toNat - 0x10000) % 0x400) = true := by
        simp only [isLow, Bool.and_eq_true, decide_eq_true_eq]
        omega
      have whole : 0x10000 + (0xd800 + (c.toNat - 0x10000) / 0x400 - 0xd800) * 0x400 +
          (0xdc00 + (c.toNat - 0x10000) % 0x400 - 0xdc00) = c.toNat := by
        omega
      rw [codeUnits_cons_large c rest small, fromUtf16Lossy, high, low, whole, ih]
      simp only [Bool.and_self, if_true, Char.ofNat_toNat]

/-- Cutting at the positions of two characters cuts between these characters. -/
theorem sliceUnits_codeUnits (chars : Text) (start stop : Nat) (inOrder : start ≤ stop) :
    sliceUnits (codeUnits chars) (utf16At chars start) (utf16At chars stop) =
      codeUnits ((chars.take stop).drop start) := by
  have front : codeUnits chars = codeUnits (chars.take stop) ++ codeUnits (chars.drop stop) := by
    rw [← codeUnits_append, List.take_append_drop]
  have parts : codeUnits (chars.take stop) =
      codeUnits (chars.take start) ++ codeUnits ((chars.take stop).drop start) := by
    rw [← codeUnits_append]
    congr 1
    conv => lhs; rw [← List.take_append_drop start (chars.take stop)]
    rw [List.take_take, Nat.min_eq_left inOrder]
  rw [sliceUnits, utf16At_eq, utf16At_eq, front, List.take_left, parts, List.drop_left]

end DbFree.Utf16
