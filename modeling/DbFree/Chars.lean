import DbFree.CharRanges

/- The character tests of Rust's `char`, which the scanners are written with.
Texts are lists of Unicode scalar values, as the source's `Vec<char>`. -/
namespace DbFree.Chars

def within (ranges : List (Nat × Nat)) (point : Nat) : Bool :=
  ranges.any fun range => range.1 ≤ point && point ≤ range.2

/-- `char::is_whitespace`: the Unicode property `White_Space`. -/
def isWhitespace (c : Char) : Bool :=
  within [(0x9, 0xD), (0x20, 0x20), (0x85, 0x85), (0xA0, 0xA0), (0x1680, 0x1680),
    (0x2000, 0x200A), (0x2028, 0x2029), (0x202F, 0x202F), (0x205F, 0x205F),
    (0x3000, 0x3000)] c.toNat

/-- `char::is_alphabetic`. -/
def isAlphabetic (c : Char) : Bool :=
  if c.toNat < 128 then c.isAlpha else within alphabeticRanges c.toNat

/-- `char::is_numeric`. -/
def isNumeric (c : Char) : Bool :=
  if c.toNat < 128 then c.isDigit else within numericRanges c.toNat

/-- `char::is_alphanumeric`. -/
def isAlphanumeric (c : Char) : Bool :=
  isAlphabetic c || isNumeric c

/-- The characters the scanners build words and dollar tags from. -/
def isWordChar (c : Char) : Bool :=
  isAlphanumeric c || c == '_'

/-- `char::is_control`: the Unicode category `Cc`. -/
def isControl (c : Char) : Bool :=
  within [(0x0, 0x1F), (0x7F, 0x9F)] c.toNat

theorem wordChar_of_alphanum (c : Char) (ascii : c.toNat < 128)
    (plain : c.isAlphanum = true) : isWordChar c = true := by
  simp only [Char.isAlphanum] at plain
  simp [isWordChar, isAlphanumeric, isAlphabetic, isNumeric, ascii, plain]

def whitespacePoints : List Nat :=
  [9, 10, 11, 12, 13, 0x20, 0x85, 0xA0, 0x1680, 0x2000, 0x2001, 0x2002, 0x2003, 0x2004, 0x2005,
    0x2006, 0x2007, 0x2008, 0x2009, 0x200A, 0x2028, 0x2029, 0x202F, 0x205F, 0x3000]

theorem mem_whitespacePoints (c : Char) (blank : isWhitespace c = true) :
    c.toNat ∈ whitespacePoints := by
  simp only [isWhitespace, within, List.any_cons, List.any_nil, Bool.or_false, Bool.or_eq_true,
    Bool.and_eq_true, decide_eq_true_eq] at blank
  simp only [whitespacePoints, List.mem_cons, List.not_mem_nil, or_false]
  omega

theorem not_wordChar_of_whitespace (c : Char) (blank : isWhitespace c = true) :
    isWordChar c = false := by
  have points : ∀ point ∈ whitespacePoints, isWordChar (Char.ofNat point) = false := by
    decide +kernel
  simpa only [Char.ofNat_toNat] using points c.toNat (mem_whitespacePoints c blank)

theorem not_alpha_of_whitespace (c : Char) (blank : isWhitespace c = true) :
    c.isAlpha = false := by
  have points : ∀ point ∈ whitespacePoints, (Char.ofNat point).isAlpha = false := by
    decide +kernel
  simpa only [Char.ofNat_toNat] using points c.toNat (mem_whitespacePoints c blank)

theorem ne_of_whitespace (c d : Char) (blank : isWhitespace c = true)
    (visible : isWhitespace d = false) : c ≠ d := by
  rintro rfl
  rw [blank] at visible
  cases visible

theorem ne_of_wordChar (c d : Char) (word : isWordChar c = true) (apart : isWordChar d = false) :
    c ≠ d := by
  rintro rfl
  rw [word] at apart
  cases apart

end DbFree.Chars
