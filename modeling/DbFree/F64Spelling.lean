import DbFree.Dataset

/- The characters numbers are spelled with: a sign that comes first or behind the
exponent mark, digits and a point. -/
namespace DbFree

theorem decimal_digits (count : Nat) : ∀ c ∈ decimal count, c.isDigit = true := by
  intro c member
  rw [decimal, Nat.toString_eq_ofList_toDigits, String.toList_ofList] at member
  exact Nat.isDigit_of_mem_toDigits (by decide) (by decide) member

theorem decimal_ne_nil (count : Nat) : decimal count ≠ [] := by
  rw [decimal, Nat.toString_eq_ofList_toDigits, String.toList_ofList]
  exact Nat.toDigits_ne_nil

namespace F64

/-- A digit or the point. -/
def inNumber (c : Char) : Bool := isDigit c || c == '.'

theorem isDigit_of_mem_decimal (count : Nat) (c : Char) (member : c ∈ decimal count) :
    isDigit c = true := by
  have digit := decimal_digits count c member
  rw [Char.isDigit, Bool.and_eq_true, decide_eq_true_eq, decide_eq_true_eq] at digit
  rw [isDigit, Bool.and_eq_true, decide_eq_true_eq, decide_eq_true_eq]
  exact digit

theorem inNumber_of_isDigit (c : Char) (digit : isDigit c = true) : inNumber c = true := by
  rw [inNumber, digit, Bool.true_or]

theorem inNumber_of_mem_decimal (count : Nat) (c : Char) (member : c ∈ decimal count) :
    inNumber c = true :=
  inNumber_of_isDigit c (isDigit_of_mem_decimal count c member)

/-- An optional minus sign and then digits and points. -/
def Plainly (text : Text) : Prop :=
  ∃ sign body, text = sign ++ body ∧ (sign = [] ∨ sign = ['-']) ∧
    ∀ c ∈ body, inNumber c = true

theorem integer_plainly (number : Int) : Plainly (integer number) := by
  rw [integer]
  split
  · exact ⟨['-'], _, rfl, Or.inr rfl, inNumber_of_mem_decimal _⟩
  · exact ⟨[], _, rfl, Or.inl rfl, inNumber_of_mem_decimal _⟩

theorem inNumber_of_mem_plain (digits : Nat) (exponent : Int) (c : Char)
    (member : c ∈ plain digits exponent) : inNumber c = true := by
  have zero : inNumber '0' = true := by decide
  have padding : ∀ (count : Nat) (c : Char), c ∈ List.replicate count '0' → inNumber c = true := by
    intro count c member
    rw [(List.mem_replicate.mp member).2]
    exact zero
  rw [plain] at member
  split at member
  · rcases List.mem_append.mp member with spelled | zeros
    · exact inNumber_of_mem_decimal _ _ spelled
    · exact padding _ _ zeros
  · -- The digits, padded with zeros, are cut in two by the point.
    generalize places : (-exponent).toNat = count at member
    have padded : ∀ c ∈ List.replicate (count + 1 - (decimal digits).length) '0' ++ decimal digits,
        inNumber c = true := by
      intro c member
      rcases List.mem_append.mp member with zeros | spelled
      · exact padding _ _ zeros
      · exact inNumber_of_mem_decimal _ _ spelled
    dsimp only at member
    generalize List.replicate (count + 1 - (decimal digits).length) '0' ++ decimal digits = all
      at member padded
    split at member
    · exact padded c (List.mem_of_mem_take member)
    · rcases List.mem_append.mp member with whole | fraction
      · exact padded c (List.mem_of_mem_take whole)
      · rcases List.mem_cons.mp fraction with point | digit
        · rw [point]
          decide
        · exact padded c (List.mem_of_mem_drop ((List.rdropWhile_prefix _ _).subset digit))

theorem display_plainly (number : F64) (finite : number.isFinite = true) :
    Plainly number.display := by
  have real : number.isNan = false := by
    rw [isFinite, decide_eq_true_eq] at finite
    rw [isNan, decide_eq_false_iff_not]
    omega
  have sign : ∀ body : Text, (∀ c ∈ body, inNumber c = true) →
      Plainly ((if number.negative = true then ['-'] else []) ++ body) := by
    intro body spelled
    refine ⟨_, body, rfl, ?_, spelled⟩
    split
    · exact Or.inr rfl
    · exact Or.inl rfl
  simp only [display, real, finite, Bool.false_eq_true, if_false, not_true_eq_false]
  split
  · apply sign
    intro c member
    rw [List.mem_singleton.mp member]
    decide
  · apply sign
    exact inNumber_of_mem_plain _ _

theorem splitSign_shape (text : Text) :
    ∃ sign, text = sign ++ (splitSign text).2 ∧
      (sign = [] ∨ sign = ['-'] ∨ sign = ['+']) := by
  match text with
  | '-' :: body => exact ⟨['-'], rfl, Or.inr (Or.inl rfl)⟩
  | '+' :: body => exact ⟨['+'], rfl, Or.inr (Or.inr rfl)⟩
  | [] => exact ⟨[], rfl, Or.inl rfl⟩
  | c :: body =>
    by_cases minus : c = '-'
    · subst minus
      exact ⟨['-'], rfl, Or.inr (Or.inl rfl)⟩
    · by_cases plus : c = '+'
      · subst plus
        exact ⟨['+'], rfl, Or.inr (Or.inr rfl)⟩
      · refine ⟨[], ?_, Or.inl rfl⟩
        rw [splitSign]
        · rfl
        · intro body same
          exact minus (List.cons.inj same).1
        · intro body same
          exact plus (List.cons.inj same).1

/-- An exponent part: nothing, or its mark, a sign and digits. -/
theorem exponentOf_shape (behind : Text) (exponent : Int) (read : exponentOf behind = some exponent) :
    behind = [] ∨ ∃ mark sign digits, behind = mark :: (sign ++ digits) ∧
      (mark = 'e' ∨ mark = 'E') ∧ (sign = [] ∨ sign = ['-'] ∨ sign = ['+']) ∧
      digits ≠ [] ∧ ∀ c ∈ digits, isDigit c = true := by
  cases behind with
  | nil => exact Or.inl rfl
  | cons mark rest =>
    right
    simp only [exponentOf] at read
    split at read
    · rename_i shape
      obtain ⟨sign, same, signs⟩ := splitSign_shape rest
      refine ⟨mark, sign, (splitSign rest).2, by rw [← same], shape.1, signs, shape.2.1, ?_⟩
      exact List.all_eq_true.mp shape.2.2
    · cases read

/-- A number is digits with at most one point, not nothing, and an exponent part. -/
theorem numberOf_shape (negative : Bool) (body : Text) (number : F64)
    (read : numberOf negative body = some number) :
    ∃ front behind exponent, body = front ++ behind ∧ front ≠ [] ∧
      (∀ c ∈ front, inNumber c = true) ∧ exponentOf behind = some exponent := by
  have digits : ∀ (text : Text), ∀ c ∈ text.takeWhile isDigit, inNumber c = true := by
    intro text c member
    exact inNumber_of_isDigit c (List.mem_takeWhile_imp member)
  simp only [numberOf] at read
  by_cases point : (body.dropWhile isDigit).head? = some '.'
  · simp only [point, if_true] at read
    split at read
    · cases read
    · rename_i visible
      obtain ⟨exponent, exponentRead, -⟩ := Option.map_eq_some_iff.mp read
      obtain ⟨rest, shape⟩ := List.head?_eq_some_iff.mp point
      refine ⟨body.takeWhile isDigit ++ '.' :: rest.takeWhile isDigit,
        rest.dropWhile isDigit, exponent, ?_, ?_, ?_, ?_⟩
      · rw [List.append_assoc, List.cons_append, List.takeWhile_append_dropWhile, ← shape,
          List.takeWhile_append_dropWhile]
      · simp
      · intro c member
        rcases List.mem_append.mp member with whole | fraction
        · exact digits body c whole
        · rcases List.mem_cons.mp fraction with same | digit
          · rw [same]
            decide
          · exact digits rest c digit
      · rwa [shape] at exponentRead
  · simp only [point, if_false] at read
    split at read
    · cases read
    · rename_i visible
      obtain ⟨exponent, exponentRead, -⟩ := Option.map_eq_some_iff.mp read
      refine ⟨body.takeWhile isDigit, body.dropWhile isDigit, exponent,
        List.takeWhile_append_dropWhile.symm, ?_, digits body, exponentRead⟩
      intro empty
      exact visible ⟨empty, trivial⟩

/-- A text that reads as a finite number is a sign and a number. -/
theorem parse_shape (text : Text) (number : F64) (read : parse text = some number)
    (finite : number.isFinite = true) :
    ∃ sign negative body, text = sign ++ body ∧
      (sign = [] ∨ sign = ['-'] ∨ sign = ['+']) ∧ numberOf negative body = some number := by
  obtain ⟨sign, same, signs⟩ := splitSign_shape text
  refine ⟨sign, (splitSign text).1, (splitSign text).2, same, signs, ?_⟩
  simp only [parse] at read
  split at read
  · cases read
    have infinities : ∀ sign, (infinite sign).isFinite = false := by decide
    rw [infinities] at finite
    cases finite
  · split at read
    · cases read
      have nans : ∀ sign, ({ nan with negative := sign } : F64).isFinite = false := by decide
      rw [nans] at finite
      cases finite
    · exact read

end F64

theorem formatNumber_plainly (number : F64) (finite : number.isFinite = true) :
    F64.Plainly (formatNumber number) := by
  simp only [formatNumber, finite, Bool.not_true, Bool.false_eq_true, if_false]
  split
  · refine ⟨_, _, rfl, ?_, F64.inNumber_of_mem_decimal _⟩
    split
    · exact Or.inr rfl
    · exact Or.inl rfl
  · exact F64.display_plainly number finite

end DbFree
