import DbFree.Chars

/- The operations of Rust's `str` that the source cuts and compares texts with. -/
namespace DbFree

abbrev Text := List Char

instance : LawfulBEq Text := inferInstanceAs (LawfulBEq (List Char))

namespace Texts

open Chars

def trimStart (text : Text) : Text := text.dropWhile isWhitespace

def trimEnd (text : Text) : Text := text.rdropWhile isWhitespace

/-- `str::trim`. -/
def trim (text : Text) : Text := trimEnd (trimStart text)

/-- `text.trim().is_empty()`. -/
def blank (text : Text) : Bool := text.all isWhitespace

/-- `str::split_whitespace`. -/
def splitWhitespace (text : Text) : List Text :=
  (text.splitOnP isWhitespace).filter fun word => !word.isEmpty

def toAsciiUppercase (text : Text) : Text := text.map Char.toUpper

def toAsciiLowercase (text : Text) : Text := text.map Char.toLower

def startsWith (text : Text) (start : String) : Bool := start.toList.isPrefixOf text

/-- `str::contains` of a text. -/
def contains (text : Text) (part : String) : Bool :=
  text.tails.any fun suffix => part.toList.isPrefixOf suffix

/-- Membership of a word in a table of the source. -/
def isIn (word : Text) (table : List String) : Bool :=
  table.any fun entry => entry.toList == word

/-- The lines of a text, each without the line feed that ends it. -/
def lines (text : Text) : List Text := text.splitOn '\n'

/-- Stripping a list of some elements takes them from both of its ends only. -/
theorem strip_parts {α : Type} (strips : α → Bool) (text : List α) :
    ∃ front back, text = front ++ (text.dropWhile strips).rdropWhile strips ++ back ∧
      (∀ c ∈ front, strips c = true) ∧ (∀ c ∈ back, strips c = true) := by
  have back : ∀ text : List α, text.rdropWhile strips ++ text.rtakeWhile strips = text := by
    intro text
    rw [List.rdropWhile, List.rtakeWhile, ← List.reverse_append, List.takeWhile_append_dropWhile,
      List.reverse_reverse]
  refine ⟨text.takeWhile strips, (text.dropWhile strips).rtakeWhile strips, ?_, ?_, ?_⟩
  · rw [List.append_assoc, back, List.takeWhile_append_dropWhile]
  · exact fun c member => List.mem_takeWhile_imp member
  · exact fun c member => List.mem_rtakeWhile_imp member

theorem strip_congr (strips strips' : Char → Bool) (text : Text)
    (same : ∀ c ∈ text, strips c = strips' c) :
    (text.dropWhile strips).rdropWhile strips = (text.dropWhile strips').rdropWhile strips' := by
  have drop : ∀ text : Text, (∀ c ∈ text, strips c = strips' c) →
      text.dropWhile strips = text.dropWhile strips' := by
    intro text same
    induction text with
    | nil => rfl
    | cons c text ih =>
      rw [List.dropWhile_cons, List.dropWhile_cons, same c List.mem_cons_self,
        ih fun d member => same d (List.mem_cons_of_mem c member)]
  rw [drop text same, List.rdropWhile, List.rdropWhile, drop]
  intro c member
  exact same c ((List.dropWhile_sublist _).subset (List.mem_reverse.mp member))

/-- What a test finds of all characters of a text is true of each. -/
theorem forall_mem_of_all {p : Char → Prop} [DecidablePred p] (text : Text)
    (all : (text.all fun c => decide (p c)) = true) : ∀ c ∈ text, p c := by
  intro c member
  exact of_decide_eq_true (List.all_eq_true.mp all c member)

theorem trim_eq_nil_iff (text : Text) : trim text = [] ↔ blank text = true := by
  simp only [trim, trimEnd, trimStart, blank, List.rdropWhile_eq_nil_iff, List.all_eq_true]
  constructor
  · intro all c member
    by_contra visible
    have kept : text.dropWhile isWhitespace ≠ [] := by
      rw [ne_eq, List.dropWhile_eq_nil_iff]
      exact fun every => visible (every c member)
    have first := List.head_dropWhile_not isWhitespace kept
    rw [all _ (List.head_mem kept)] at first
    exact Bool.noConfusion first
  · intro every c member
    exact every c (List.dropWhile_sublist isWhitespace |>.subset member)

theorem blank_trim (text : Text) : blank (trim text) = blank text := by
  obtain ⟨front, back, split, left, right⟩ := strip_parts isWhitespace text
  have white : ∀ part : Text, (∀ c ∈ part, isWhitespace c = true) → part.all isWhitespace = true :=
    fun part all => List.all_eq_true.mpr all
  show (trim text).all isWhitespace = text.all isWhitespace
  conv => rhs; rw [split]
  rw [List.all_append, List.all_append, white front left, white back right, Bool.true_and,
    Bool.and_true]
  rfl

theorem blank_of_splitWhitespace (text : Text) (wordless : splitWhitespace text = []) :
    blank text = true := by
  induction text with
  | nil => rfl
  | cons c text ih =>
    rw [splitWhitespace, List.splitOnP_cons_eq_if_modifyHead] at wordless
    by_cases white : isWhitespace c = true
    · rw [if_pos white, List.filter_cons_of_neg (by simp)] at wordless
      rw [blank, List.all_cons, white]
      exact ih wordless
    · rw [if_neg white] at wordless
      cases pieces : text.splitOnP isWhitespace with
      | nil => exact absurd pieces (List.splitOnP_ne_nil _ _)
      | cons piece pieces' =>
        rw [pieces, List.modifyHead_cons] at wordless
        simp at wordless

end Texts

end DbFree
