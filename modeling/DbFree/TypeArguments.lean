import DbFree.F64Spelling
import DbFree.TypeParens

/- The arguments of a type, read back from how they are written. -/
namespace DbFree.Ddl

open Texts SqlText

section Numbers

theorem digitsValue_append (digits : Text) (c : Char) :
    F64.digitsValue (digits ++ [c]) = 10 * F64.digitsValue digits + (c.toNat - '0'.toNat) := by
  unfold F64.digitsValue
  rw [List.foldl_append]
  rfl

theorem digitsValue_decimal (count : Nat) : F64.digitsValue (decimal count) = count := by
  unfold decimal
  rw [Nat.toString_eq_ofList_toDigits, String.toList_ofList]
  induction count using Nat.strongRecOn with
  | ind count ih =>
    have digit : ∀ digit < 10, (Nat.digitChar digit).toNat - '0'.toNat = digit := by
      decide
    by_cases small : count < 10
    · rw [Nat.toDigits_of_lt_base small]
      have value := digit count small
      unfold F64.digitsValue
      rw [List.foldl_cons, List.foldl_nil, value]
      omega
    · rw [Nat.toDigits_of_base_le (by decide) (Nat.le_of_not_lt small), digitsValue_append,
        ih (count / 10) (by omega), digit (count % 10) (by omega)]
      omega

theorem parseDigits_decimal (count : Nat) : parseDigits (decimal count) = some count := by
  have digits : (decimal count).all Char.isDigit = true :=
    List.all_eq_true.mpr fun c mem => decimal_digits count c mem
  unfold parseDigits
  rw [if_pos ⟨decimal_ne_nil count, digits⟩, digitsValue_decimal]

/-- A number starts with a digit and holds nothing but digits. -/
theorem decimal_parts (count : Nat) : ∃ first rest, decimal count = first :: rest ∧
    first.isDigit = true ∧ ∀ c ∈ decimal count, c.isDigit = true := by
  have digits := decimal_digits count
  cases shape : decimal count with
  | nil => exact absurd shape (decimal_ne_nil count)
  | cons first rest =>
    rw [shape] at digits
    exact ⟨first, rest, rfl, digits first List.mem_cons_self, digits⟩

theorem parseU32_decimal {count : Nat} (small : count < 2 ^ 32) :
    parseU32 (decimal count) = some count := by
  have ⟨first, rest, shape, digit, _⟩ := decimal_parts count
  have value := parseDigits_decimal count
  unfold parseU32
  rw [shape] at value ⊢
  split
  · next signed =>
    rw [(List.cons.inj signed).1] at digit
    cases digit
  · rw [value, Option.filter_some, decide_eq_true small]
    rfl

theorem parseI64_decimal {count : Nat} (small : count < 2 ^ 63) :
    parseI64 (decimal count) = some (count : Int) := by
  have ⟨first, rest, shape, digit, _⟩ := decimal_parts count
  have value := parseDigits_decimal count
  unfold parseI64
  rw [shape] at value ⊢
  split
  · next signed =>
    rw [(List.cons.inj signed).1] at digit
    cases digit
  · next signed =>
    rw [(List.cons.inj signed).1] at digit
    cases digit
  · rw [value, Option.filter_some, decide_eq_true small]
    rfl

theorem digit_visible {c : Char} (digit : c.isDigit = true) : Chars.isWhitespace c = false := by
  have bounds : 48 ≤ c.toNat ∧ c.toNat ≤ 57 := by
    unfold Char.isDigit at digit
    simp only [Bool.and_eq_true, decide_eq_true_eq, ge_iff_le, UInt32.le_iff_toNat_le] at digit
    exact digit
  unfold Chars.isWhitespace Chars.within
  simp only [List.any_cons, List.any_nil, Bool.or_false, Bool.or_eq_false_iff,
    Bool.and_eq_false_iff, decide_eq_false_iff_not]
  omega

theorem digit_notAlpha {c : Char} (digit : c.isDigit = true) : c.isAlpha = false := by
  cases alpha : c.isAlpha with
  | false => rfl
  | true =>
    exfalso
    unfold Char.isDigit at digit
    unfold Char.isAlpha Char.isUpper Char.isLower at alpha
    simp only [Bool.and_eq_true, Bool.or_eq_true, decide_eq_true_eq, ge_iff_le,
      UInt32.le_iff_toNat_le] at digit alpha
    have digits : '0'.val.toNat = 48 ∧ '9'.val.toNat = 57 := ⟨rfl, rfl⟩
    have upper : 'A'.val.toNat = 65 ∧ 'Z'.val.toNat = 90 := ⟨rfl, rfl⟩
    have lower : 'a'.val.toNat = 97 ∧ 'z'.val.toNat = 122 := ⟨rfl, rfl⟩
    omega

/-- Nothing at the ends of a number is stripped of it. -/
theorem strip_digits {strips : Char → Bool} {digits : Text}
    (kept : ∀ c ∈ digits, strips c = false) :
    digits.dropWhile strips = digits ∧ digits.rdropWhile strips = digits := by
  constructor
  · rw [List.dropWhile_eq_self_iff]
    intro inside
    rw [kept _ (List.getElem_mem inside)]
    exact Bool.false_ne_true
  · rw [List.rdropWhile_eq_self_iff]
    intro some
    rw [kept _ (List.getLast_mem some)]
    exact Bool.false_ne_true

theorem trim_decimal (count : Nat) : trim (decimal count) = decimal count := by
  have visible : ∀ c ∈ decimal count, Chars.isWhitespace c = false :=
    fun c mem => digit_visible (decimal_digits count c mem)
  have ⟨start, ends⟩ := strip_digits visible
  unfold trim trimStart trimEnd
  rw [start, ends]

theorem trim_blank_decimal (count : Nat) : trim (' ' :: decimal count) = decimal count := by
  have dropped : trimStart (' ' :: decimal count) = trimStart (decimal count) :=
    List.dropWhile_cons_of_pos (by decide)
  have trimmed := trim_decimal count
  unfold trim at trimmed ⊢
  rw [dropped, trimmed]

theorem numberOf_decimal (dialect : Dialect) {count : Nat} (small : count < 2 ^ 32)
    {part : Text} (padded : trim part = decimal count) : numberOf dialect part = some count := by
  have digits : ∀ c ∈ decimal count, (c.isAlpha || Chars.isWhitespace c) = false := by
    intro c mem
    have digit := decimal_digits count c mem
    rw [digit_notAlpha digit, digit_visible digit]
    rfl
  unfold numberOf
  rw [padded]
  dsimp only
  split
  · rw [(strip_digits digits).2]
    exact parseU32_decimal small
  · exact parseU32_decimal small

theorem comma_notMem_decimal (count : Nat) : ',' ∉ decimal count := by
  intro mem
  have digit := decimal_digits count _ mem
  revert digit
  decide

/-- What can be said of a number's characters: they neither quote nor enclose. -/
theorem digit_plain {c : Char} (digit : c.isDigit = true) :
    isQuote c = false ∧ c ≠ '(' ∧ c ≠ ')' ∧ c ≠ '[' := by
  refine ⟨?_, ?_, ?_, ?_⟩
  · cases quoted : isQuote c with
    | false => rfl
    | true =>
      unfold isQuote at quoted
      simp only [Bool.or_eq_true, beq_iff_eq] at quoted
      cases quoted with
      | inl single => cases single with
        | inl same => rw [same] at digit; cases digit
        | inr same => rw [same] at digit; cases digit
      | inr same => rw [same] at digit; cases digit
  all_goals
    intro same
    rw [same] at digit
    cases digit

theorem separators_plain :
    ∀ c ∈ ", ".toList, isQuote c = false ∧ c ≠ '(' ∧ c ≠ ')' ∧ c ≠ '[' := by
  intro c mem
  cases List.mem_cons.mp mem with
  | inl comma => rw [comma]; decide
  | inr rest => rw [List.mem_singleton.mp rest]; decide

/-- The numbers behind a type. -/
def numberList (precision : Nat) : Option Nat → Text
  | some scale => decimal precision ++ ", ".toList ++ decimal scale
  | none => decimal precision

/-- The numbers as a list. -/
def numbersGiven (precision : Nat) (scale : Option Nat) : List Nat := precision :: scale.toList

theorem numberList_plain (precision : Nat) (scale : Option Nat) :
    ∀ c ∈ numberList precision scale, isQuote c = false ∧ c ≠ '(' ∧ c ≠ ')' ∧ c ≠ '[' := by
  intro c mem
  cases scale with
  | none => exact digit_plain (decimal_digits precision c mem)
  | some scale =>
    cases List.mem_append.mp mem with
    | inl front =>
      cases List.mem_append.mp front with
      | inl first => exact digit_plain (decimal_digits precision c first)
      | inr between => exact separators_plain c between
    | inr last => exact digit_plain (decimal_digits scale c last)

theorem numbers_numberList (dialect : Dialect) {precision : Nat} {scale : Option Nat}
    (small : ∀ value ∈ numbersGiven precision scale, value < 2 ^ 32) :
    numbers (numberList precision scale) dialect = some (numbersGiven precision scale) := by
  have first := numberOf_decimal dialect (small precision List.mem_cons_self)
    (trim_decimal precision)
  cases scale with
  | none =>
    unfold numbers numberList
    rw [List.splitOn_eq_singleton (comma_notMem_decimal precision)]
    unfold numbersOf
    rw [first]
    rfl
  | some scale =>
    have second := numberOf_decimal dialect
      (small scale (List.mem_cons_of_mem _ List.mem_cons_self)) (trim_blank_decimal scale)
    have shape : numberList precision (some scale) =
        decimal precision ++ ',' :: ' ' :: decimal scale :=
      List.append_assoc _ _ _
    have later : ',' ∉ ' ' :: decimal scale := by
      intro mem
      cases List.mem_cons.mp mem with
      | inl wrong => cases wrong
      | inr inside => exact comma_notMem_decimal scale inside
    unfold numbers
    rw [shape, List.splitOn_append_cons_self_of_not_mem (comma_notMem_decimal precision),
      List.splitOn_eq_singleton later]
    unfold numbersOf
    rw [first]
    unfold numbersOf
    rw [second]
    rfl

/-- What is read is as large as the source's numbers can be. -/
theorem numbersOf_small (dialect : Dialect) (parts : List Text) : ∀ values,
    numbersOf dialect parts = some values → ∀ value ∈ values, value < 2 ^ 32 := by
  induction parts with
  | nil =>
    intro values found value mem
    rw [← Option.some.inj found] at mem
    cases mem
  | cons part parts ih =>
    intro values found value mem
    unfold numbersOf at found
    have ⟨first, isFirst, found⟩ := Option.bind_eq_some_iff.mp found
    have ⟨rest, isRest, same⟩ := Option.map_eq_some_iff.mp found
    rw [← same] at mem
    cases List.mem_cons.mp mem with
    | inl here =>
      rw [here]
      unfold numberOf parseU32 at isFirst
      exact of_decide_eq_true (Option.filter_eq_some_iff.mp isFirst).2
    | inr later => exact ih rest isRest value later

end Numbers

section Labels

theorem doubled_cons (c : Char) (label : Text) :
    replaceChar (c :: label) '\'' ['\'', '\''] =
      (if c = '\'' then ['\'', '\''] else [c]) ++ replaceChar label '\'' ['\'', '\''] := rfl

theorem labelText_doubled (rest : Text) :
    labelText ('\'' :: '\'' :: rest) =
      (labelText rest).map fun found => ('\'' :: found.1, found.2) := rfl

theorem labelText_closing {rest : Text} (ends : rest.head? ≠ some '\'') :
    labelText ('\'' :: rest) = some ([], rest) := by
  cases rest with
  | nil => rfl
  | cons c rest =>
    have other : c ≠ '\'' := fun same => ends (congrArg some same)
    rw [labelText]
    intro rest' same
    exact other (List.cons.inj same).1

theorem labelText_other {c : Char} (other : c ≠ '\'') (rest : Text) :
    labelText (c :: rest) = (labelText rest).map fun found => (c :: found.1, found.2) := by
  rw [labelText]
  · intro rest' same
    exact absurd same other
  · exact other

/-- A quoted label is read back, up to a rest that does not go on with a quote. -/
theorem labelText_quoted (label rest : Text) (ends : rest.head? ≠ some '\'') :
    labelText (replaceChar label '\'' ['\'', '\''] ++ '\'' :: rest) = some (label, rest) := by
  induction label with
  | nil => exact labelText_closing ends
  | cons c label ih =>
    rw [doubled_cons]
    by_cases quote : c = '\''
    · rw [if_pos quote, List.append_assoc, quote, List.cons_append, List.cons_append,
        List.nil_append, labelText_doubled, ih]
      rfl
    · rw [if_neg quote, List.append_assoc, List.cons_append, List.nil_append,
        labelText_other quote, ih]
      rfl

/-- What a label is read of: its characters stand there, and less is left. -/
theorem labelText_parts (text : Text) : ∀ label rest, labelText text = some (label, rest) →
    rest.length < text.length ∧ (∀ c ∈ label, c ∈ text) ∧ ∀ c ∈ rest, c ∈ text := by
  induction text using labelText.induct with
  | case1 =>
    intro label rest read
    cases read
  | case2 text ih =>
    intro label rest read
    rw [labelText_doubled] at read
    have ⟨found, isFound, same⟩ := Option.map_eq_some_iff.mp read
    have ⟨shorter, inside, after⟩ := ih _ _ isFound
    cases same
    refine ⟨?_, ?_, ?_⟩
    · simp only [List.length_cons]
      omega
    · intro c mem
      cases List.mem_cons.mp mem with
      | inl quote =>
        rw [quote]
        exact List.mem_cons_self
      | inr later => exact List.mem_cons_of_mem _ (List.mem_cons_of_mem _ (inside c later))
    · intro c mem
      exact List.mem_cons_of_mem _ (List.mem_cons_of_mem _ (after c mem))
  | case3 text closing =>
    intro label rest read
    have ends : text.head? ≠ some '\'' := by
      intro starts
      have ⟨rest', same⟩ := List.head?_eq_some_iff.mp starts
      exact closing rest' same
    rw [labelText_closing ends] at read
    cases read
    refine ⟨Nat.lt_succ_self _, ?_, fun c mem => List.mem_cons_of_mem _ mem⟩
    intro c mem
    cases mem
  | case4 c text notDoubled other ih =>
    intro label rest read
    rw [labelText_other other] at read
    have ⟨found, isFound, same⟩ := Option.map_eq_some_iff.mp read
    have ⟨shorter, inside, after⟩ := ih _ _ isFound
    cases same
    refine ⟨?_, ?_, fun d mem => List.mem_cons_of_mem _ (after d mem)⟩
    · simp only [List.length_cons]
      omega
    · intro d mem
      cases List.mem_cons.mp mem with
      | inl first =>
        rw [first]
        exact List.mem_cons_self
      | inr later => exact List.mem_cons_of_mem _ (inside d later)

/-- The number written behind a label. -/
def numbering : Option Nat → Text
  | some number => " = ".toList ++ decimal number
  | none => []

theorem labelsFrom_plain (turns : Nat) {text opened label after behind : Text}
    (starts : text.dropWhile (fun c => Chars.isWhitespace c || c == ',') = '\'' :: opened)
    (read : labelText opened = some (label, after))
    (skipped : after.dropWhile Chars.isWhitespace = behind)
    (unnumbered : ∀ more, behind ≠ '=' :: more) :
    labelsFrom (turns + 1) text =
      (labelsFrom turns behind).map fun found => (label :: found.1, found.2) := by
  rw [labelsFrom, starts]
  simp only [read, skipped]

theorem labelsFrom_numbered (turns : Nat) {text opened label after behind digits : Text}
    {number : Int}
    (starts : text.dropWhile (fun c => Chars.isWhitespace c || c == ',') = '\'' :: opened)
    (read : labelText opened = some (label, after))
    (skipped : after.dropWhile Chars.isWhitespace = '=' :: behind)
    (taken : behind.takeWhile (fun c => Chars.isWhitespace c || c.isDigit || c == '-') = digits)
    (value : parseI64 (trim digits) = some number) :
    labelsFrom (turns + 1) text =
      (labelsFrom turns (behind.drop digits.length)).map
        fun found => (label :: found.1, number :: found.2) := by
  rw [labelsFrom, starts]
  simp only [read, skipped, taken, value]

/-- One step of `labelsFrom`: what leads to a label is skipped, and a rest that is empty or goes
on with a comma is left. -/
theorem labelsFrom_item (turns : Nat) {lead rest : Text} (label : Text) (number : Option Nat)
    (leads : ∀ c ∈ lead, (Chars.isWhitespace c || c == ',') = true)
    (ends : rest = [] ∨ ∃ more, rest = ',' :: more)
    (small : ∀ value, number = some value → value < 2 ^ 63) :
    labelsFrom (turns + 1) (lead ++ (quoteLabel label ++ (numbering number ++ rest))) =
      (labelsFrom turns rest).map
        fun found => (label :: found.1, number.toList.map Int.ofNat ++ found.2) := by
  have opened : quoteLabel label ++ (numbering number ++ rest) =
      '\'' :: (replaceChar label '\'' ['\'', '\''] ++ '\'' :: (numbering number ++ rest)) := by
    unfold quoteLabel quoteLiteral
    rw [List.cons_append, List.cons_append, List.append_assoc]
    rfl
  have skipped : (lead ++ (quoteLabel label ++ (numbering number ++ rest))).dropWhile
      (fun c => Chars.isWhitespace c || c == ',') =
      '\'' :: (replaceChar label '\'' ['\'', '\''] ++ '\'' :: (numbering number ++ rest)) := by
    rw [List.dropWhile_append_of_pos leads, opened, List.dropWhile_cons_of_neg (by decide)]
  have restStarts : ∀ c more, rest = c :: more → c = ',' := by
    intro c more same
    cases ends with
    | inl none =>
      rw [none] at same
      cases same
    | inr comma =>
      have ⟨more', isComma⟩ := comma
      rw [isComma] at same
      exact (List.cons.inj same).1.symm
  cases number with
  | none =>
    have notQuote : (numbering none ++ rest).head? ≠ some '\'' := by
      intro starts
      have ⟨more, same⟩ := List.head?_eq_some_iff.mp starts
      exact absurd (restStarts _ _ same) (by decide)
    have kept : (numbering none ++ rest).dropWhile Chars.isWhitespace = rest := by
      cases ends with
      | inl none => rw [none]; rfl
      | inr comma =>
        have ⟨more, isComma⟩ := comma
        rw [isComma]
        exact List.dropWhile_cons_of_neg (by decide)
    have unnumbered : ∀ behind, rest ≠ '=' :: behind := by
      intro behind same
      exact absurd (restStarts _ _ same) (by decide)
    rw [labelsFrom_plain turns skipped (labelText_quoted label _ notQuote) kept unnumbered]
    rfl
  | some number =>
    have spelled : (numbering (some number) ++ rest) =
        ' ' :: '=' :: (' ' :: decimal number ++ rest) := by
      unfold numbering
      rw [List.append_assoc]
      rfl
    have notQuote : (numbering (some number) ++ rest).head? ≠ some '\'' := by
      rw [spelled, List.head?_cons]
      decide
    have numbered : (numbering (some number) ++ rest).dropWhile Chars.isWhitespace =
        '=' :: (' ' :: decimal number ++ rest) := by
      rw [spelled, List.dropWhile_cons_of_pos (by decide), List.dropWhile_cons_of_neg (by decide)]
    have digits : ∀ c ∈ ' ' :: decimal number,
        (Chars.isWhitespace c || c.isDigit || c == '-') = true := by
      intro c mem
      cases List.mem_cons.mp mem with
      | inl blank => rw [blank]; decide
      | inr digit => rw [decimal_digits number c digit, Bool.or_true]; rfl
    have taken : (' ' :: decimal number ++ rest).takeWhile
        (fun c => Chars.isWhitespace c || c.isDigit || c == '-') = ' ' :: decimal number := by
      rw [List.takeWhile_append_of_pos digits]
      cases rest with
      | nil => rw [List.takeWhile_nil, List.append_nil]
      | cons c more =>
        rw [restStarts c more rfl, List.takeWhile_cons_of_neg (by decide), List.append_nil]
    rw [labelsFrom_numbered turns skipped (labelText_quoted label _ notQuote) numbered taken
      (by rw [trim_blank_decimal, parseI64_decimal (small number rfl)]), List.drop_left]
    rfl

def labelItem (item : Text × Option Nat) : Text := quoteLabel item.1 ++ numbering item.2

theorem labelsFrom_items (items : List (Text × Option Nat)) : ∀ turns lead,
    items.length ≤ turns → (∀ c ∈ lead, (Chars.isWhitespace c || c == ',') = true) →
      (∀ item ∈ items, ∀ value, item.2 = some value → value < 2 ^ 63) →
        labelsFrom turns (lead ++ join ", ".toList (items.map labelItem)) =
          some (items.map Prod.fst, (items.filterMap Prod.snd).map Int.ofNat) := by
  induction items with
  | nil =>
    intro turns lead _ leads _
    cases turns with
    | zero => rfl
    | succ turns =>
      have skipped : (lead ++ join ", ".toList (([] : List (Text × Option Nat)).map labelItem)).dropWhile
          (fun c => Chars.isWhitespace c || c == ',') = [] := by
        rw [List.dropWhile_append_of_pos leads]
        rfl
      rw [labelsFrom, skipped]
      rfl
  | cons item items ih =>
    intro turns lead enough leads small
    cases turns with
    | zero => cases enough
    | succ turns =>
      have fits := Nat.le_of_succ_le_succ enough
      have ownSmall := small item List.mem_cons_self
      have restSmall := fun other mem => small other (List.mem_cons_of_mem _ mem)
      have ⟨label, number⟩ := item
      cases items with
      | nil =>
        have shape : lead ++ join ", ".toList ([(label, number)].map labelItem) =
            lead ++ (quoteLabel label ++ (numbering number ++ [])) := by
          rw [List.append_nil]
          unfold join
          rw [List.map_cons, List.map_nil, List.intercalate_singleton]
          rfl
        have none := ih turns [] fits nofun restSmall
        rw [shape, labelsFrom_item turns label number leads (Or.inl rfl) ownSmall]
        rw [show labelsFrom turns [] = _ from none, Option.map_some]
        cases number <;> rfl
      | cons next items =>
        have shape : lead ++ join ", ".toList (((label, number) :: next :: items).map labelItem) =
            lead ++ (quoteLabel label ++ (numbering number ++
              (", ".toList ++ join ", ".toList ((next :: items).map labelItem)))) := by
          unfold join
          rw [List.map_cons, List.map_cons, List.intercalate_cons_cons, ← List.map_cons]
          show lead ++ ((quoteLabel label ++ numbering number) ++ ", ".toList ++ _) = _
          rw [List.append_assoc, List.append_assoc]
        have separators : ∀ c ∈ ", ".toList, (Chars.isWhitespace c || c == ',') = true := by
          intro c mem
          cases List.mem_cons.mp mem with
          | inl comma => rw [comma]; decide
          | inr rest => rw [List.mem_singleton.mp rest]; decide
        have later := ih turns ", ".toList fits separators restSmall
        have ends : ∃ more, ", ".toList ++ join ", ".toList ((next :: items).map labelItem) =
            ',' :: more := ⟨_, rfl⟩
        rw [shape, labelsFrom_item turns label number leads (Or.inr ends) ownSmall, later,
          Option.map_some]
        cases number <;> rfl

/-- The labels of a list with the numbers written behind them. -/
def labelItems (dialect : Dialect) (values : List Text) : List (Text × Option Nat) :=
  if dialect = .clickhouse then values.zipIdx.map fun entry => (entry.1, some (entry.2 + 1))
  else values.map fun value => (value, none)

theorem labelList_items (dialect : Dialect) (values : List Text) :
    labelList dialect values = join ", ".toList ((labelItems dialect values).map labelItem) := by
  unfold labelList labelItems
  by_cases clickhouse : dialect = .clickhouse
  · rw [if_pos clickhouse, if_pos clickhouse, List.map_map]
    congr 1
    apply List.map_congr_left
    intro entry _
    exact List.append_assoc _ _ _
  · rw [if_neg clickhouse, if_neg clickhouse, List.map_map]
    congr 1
    apply List.map_congr_left
    intro value _
    exact (List.append_nil _).symm

theorem labelItems_fst (dialect : Dialect) (values : List Text) :
    (labelItems dialect values).map Prod.fst = values := by
  unfold labelItems
  by_cases clickhouse : dialect = .clickhouse
  · rw [if_pos clickhouse, List.map_map]
    exact List.zipIdx_map_fst 0 values
  · rw [if_neg clickhouse, List.map_map]
    exact List.map_id' values

theorem labelItems_numbers (dialect : Dialect) (values : List Text) :
    let numbers := ((labelItems dialect values).filterMap Prod.snd).map Int.ofNat
    numbers = [] ∨ numbers = (List.range values.length).map fun n : Nat => (n : Int) + 1 := by
  unfold labelItems
  by_cases clickhouse : dialect = .clickhouse
  · right
    rw [if_pos clickhouse, List.filterMap_map]
    have numbered : (values.zipIdx.filterMap (Prod.snd ∘ fun entry => (entry.1, some (entry.2 + 1)))) =
        values.zipIdx.map fun entry => entry.2 + 1 := by
      rw [← List.filterMap_eq_map]
      rfl
    have indices : (values.zipIdx.map fun entry => entry.2 + 1) =
        (List.range values.length).map fun n => n + 1 := by
      rw [List.range_eq_range', ← List.zipIdx_map_snd 0 values, List.map_map]
      rfl
    rw [numbered, indices, List.map_map]
    rfl
  · left
    rw [if_neg clickhouse, List.filterMap_map]
    have none : (values.filterMap (Prod.snd ∘ fun value => (value, (none : Option Nat)))) = [] := by
      rw [List.filterMap_eq_nil_iff]
      intro value _
      rfl
    rw [none]
    rfl

theorem items_fit (items : List (Text × Option Nat)) :
    items.length ≤ (join ", ".toList (items.map labelItem)).length := by
  induction items with
  | nil => exact Nat.le_refl 0
  | cons item items ih =>
    have quoted : 1 ≤ (labelItem item).length := by
      unfold labelItem quoteLabel quoteLiteral
      simp only [List.cons_append, List.length_cons]
      omega
    cases items with
    | nil =>
      unfold join
      rw [List.map_cons, List.map_nil, List.intercalate_singleton]
      exact quoted
    | cons next items =>
      unfold join at ih ⊢
      rw [List.map_cons, List.map_cons, List.intercalate_cons_cons, ← List.map_cons]
      simp only [List.length_append, List.length_cons] at ih ⊢
      omega

theorem enumLabels_labelList (dialect : Dialect) {values : List Text}
    (small : values.length < 2 ^ 63) : enumLabels (labelList dialect values) = some values := by
  have counted : ∀ item ∈ labelItems dialect values, ∀ value, item.2 = some value →
      value < 2 ^ 63 := by
    intro item mem value same
    unfold labelItems at mem
    by_cases clickhouse : dialect = .clickhouse
    · rw [if_pos clickhouse] at mem
      have ⟨entry, isEntry, isItem⟩ := List.mem_map.mp mem
      have place := List.snd_lt_of_mem_zipIdx isEntry
      rw [← isItem] at same
      have number : entry.2 + 1 = value := Option.some.inj same
      omega
    · rw [if_neg clickhouse] at mem
      have ⟨entry, _, isItem⟩ := List.mem_map.mp mem
      rw [← isItem] at same
      cases same
  have read := labelsFrom_items (labelItems dialect values)
    ((labelList dialect values).length + 1) [] (by
      rw [labelList_items]
      exact Nat.le_succ_of_le (items_fit _)) nofun counted
  have numbered := labelItems_numbers dialect values
  rw [List.nil_append, ← labelList_items, labelItems_fst] at read
  unfold enumLabels
  rw [read]
  dsimp only
  rw [if_pos numbered]

theorem labelsFrom_step {turns : Nat} {text : Text} {labels : List Text} {numbers : List Int}
    (read : labelsFrom (turns + 1) text = some (labels, numbers)) :
    labels = [] ∨ ∃ c opened label after behind found,
      text.dropWhile (fun c => Chars.isWhitespace c || c == ',') = c :: opened ∧
        labelText opened = some (label, after) ∧ behind.Sublist after ∧
        labelsFrom turns behind = some found ∧ labels = label :: found.1 := by
  rw [labelsFrom] at read
  split at read
  · cases read
    exact Or.inl rfl
  · next opened starts =>
    right
    split at read
    · cases read
    · next label after isLabel =>
      have skipped : (after.dropWhile Chars.isWhitespace).Sublist after := List.dropWhile_sublist _
      split at read
      · next behind numbered =>
        dsimp only at read
        split at read
        · cases read
        · next number _ =>
          have ⟨found, isRead, same⟩ := Option.map_eq_some_iff.mp read
          cases same
          refine ⟨_, opened, label, after, _, found, starts, isLabel, ?_, isRead, rfl⟩
          apply (List.drop_sublist _ _).trans
          apply (List.sublist_cons_self '=' behind).trans
          rw [← numbered]
          exact skipped
      · have ⟨found, isRead, same⟩ := Option.map_eq_some_iff.mp read
        cases same
        exact ⟨_, opened, label, after, _, found, starts, isLabel, skipped, isRead, rfl⟩
  · cases read

/-- What is read of a list of labels: no more labels than it has characters, and its own. -/
theorem labelsFrom_parts (turns : Nat) : ∀ text labels numbers,
    labelsFrom turns text = some (labels, numbers) →
      labels.length ≤ text.length ∧ ∀ label ∈ labels, ∀ c ∈ label, c ∈ text := by
  have noLabels : ∀ text : Text, ([] : List Text).length ≤ text.length ∧
      ∀ label ∈ ([] : List Text), ∀ c ∈ label, c ∈ text := fun text => ⟨Nat.zero_le _, nofun⟩
  induction turns with
  | zero =>
    intro text labels numbers read
    cases read
    exact noLabels text
  | succ turns ih =>
    intro text labels numbers read
    cases labelsFrom_step read with
    | inl none =>
      rw [none]
      exact noLabels text
    | inr step =>
      have ⟨c, opened, label, after, behind, found, starts, isLabel, isTail, isRead, same⟩ := step
      have tail : (c :: opened).Sublist text := by
        rw [← starts]
        exact List.dropWhile_sublist _
      have ⟨shorter, inside, outside⟩ := labelText_parts opened label after isLabel
      have ⟨fits, own⟩ := ih behind found.1 found.2 isRead
      have short := isTail.length_le
      have whole := tail.length_le
      rw [same]
      constructor
      · simp only [List.length_cons] at whole ⊢
        omega
      · intro other mem d isIn
        apply tail.subset
        apply List.mem_cons_of_mem
        cases List.mem_cons.mp mem with
        | inl first =>
          rw [first] at isIn
          exact inside d isIn
        | inr later => exact outside d (isTail.subset (own other later d isIn))

theorem enumLabels_parts {args : Text} {labels : List Text}
    (read : enumLabels args = some labels) :
    labels.length ≤ args.length ∧ ∀ label ∈ labels, ∀ c ∈ label, c ∈ args := by
  unfold enumLabels at read
  cases found : labelsFrom (args.length + 1) args with
  | none =>
    rw [found] at read
    cases read
  | some parts =>
    rw [found] at read
    dsimp only at read
    split at read
    · rw [← Option.some.inj read]
      exact labelsFrom_parts _ args parts.1 parts.2 found
    · cases read

theorem openAfter_doubled (label rest : Text) (depth : Nat) :
    openAfter depth (some '\'') (replaceChar label '\'' ['\'', '\''] ++ rest) =
      openAfter depth (some '\'') rest := by
  induction label with
  | nil => rfl
  | cons c label ih =>
    rw [doubled_cons]
    by_cases quote : c = '\''
    · rw [if_pos quote, List.append_assoc, List.cons_append, List.cons_append, List.nil_append,
        openAfter_quoted, if_pos rfl, openAfter_bare, if_pos (by decide), ih]
    · rw [if_neg quote, List.append_assoc, List.cons_append, List.nil_append, openAfter_quoted,
        if_neg quote, ih]

theorem closed_plain {text : Text}
    (plain : ∀ c ∈ text, isQuote c = false ∧ c ≠ '(' ∧ c ≠ ')' ∧ c ≠ '[') : Closed text := by
  apply openAfter_plain
  intro c mem
  have ⟨unquoted, notOpening, notClosing, _⟩ := plain c mem
  exact ⟨unquoted, notOpening, notClosing⟩

theorem numbering_plain (number : Option Nat) :
    ∀ c ∈ numbering number, isQuote c = false ∧ c ≠ '(' ∧ c ≠ ')' ∧ c ≠ '[' := by
  intro c mem
  cases number with
  | none => cases mem
  | some number =>
    cases List.mem_append.mp mem with
    | inl spaced =>
      cases List.mem_cons.mp spaced with
      | inl blank => rw [blank]; decide
      | inr later =>
        cases List.mem_cons.mp later with
        | inl equals => rw [equals]; decide
        | inr last => rw [List.mem_singleton.mp last]; decide
    | inr digits => exact digit_plain (decimal_digits number c digits)

theorem closed_labelItem (item : Text × Option Nat) : Closed (labelItem item) := by
  apply closed_append
  · unfold quoteLabel quoteLiteral Closed
    rw [List.cons_append, openAfter_bare, if_pos (by decide), openAfter_doubled]
    rfl
  · exact closed_plain (numbering_plain item.2)

theorem closed_join {parts : List Text} (closed : ∀ part ∈ parts, Closed part) :
    Closed (join ", ".toList parts) := by
  induction parts with
  | nil => rfl
  | cons part parts ih =>
    have first := closed part List.mem_cons_self
    have rest := ih fun other mem => closed other (List.mem_cons_of_mem _ mem)
    cases parts with
    | nil =>
      unfold join
      rw [List.intercalate_singleton]
      exact first
    | cons next parts =>
      unfold join at rest ⊢
      rw [List.intercalate_cons_cons]
      exact closed_append (closed_append first (closed_plain separators_plain)) rest

theorem mem_join {parts : List Text} {c : Char} (mem : c ∈ join ", ".toList parts) :
    c ∈ ", ".toList ∨ ∃ part ∈ parts, c ∈ part := by
  induction parts with
  | nil => cases mem
  | cons part parts ih =>
    cases parts with
    | nil =>
      unfold join at mem
      rw [List.intercalate_singleton] at mem
      exact Or.inr ⟨part, List.mem_cons_self, mem⟩
    | cons next parts =>
      unfold join at mem ih
      rw [List.intercalate_cons_cons] at mem
      cases List.mem_append.mp mem with
      | inl front =>
        cases List.mem_append.mp front with
        | inl first => exact Or.inr ⟨part, List.mem_cons_self, first⟩
        | inr between => exact Or.inl between
      | inr later =>
        cases ih later with
        | inl between => exact Or.inl between
        | inr found =>
          have ⟨other, isOther, isIn⟩ := found
          exact Or.inr ⟨other, List.mem_cons_of_mem _ isOther, isIn⟩

theorem labelList_closed (dialect : Dialect) (values : List Text) :
    Closed (labelList dialect values) := by
  rw [labelList_items]
  apply closed_join
  intro part mem
  have ⟨item, _, same⟩ := List.mem_map.mp mem
  rw [← same]
  exact closed_labelItem item

theorem labelList_plain (dialect : Dialect) {values : List Text}
    (plain : ∀ value ∈ values, '[' ∉ value) : '[' ∉ labelList dialect values := by
  intro mem
  rw [labelList_items] at mem
  cases mem_join mem with
  | inl between => exact (separators_plain _ between).2.2.2 rfl
  | inr found =>
    have ⟨part, isPart, isIn⟩ := found
    have ⟨item, isItem, same⟩ := List.mem_map.mp isPart
    have known : item.1 ∈ values := by
      rw [← labelItems_fst dialect values]
      exact List.mem_map_of_mem isItem
    rw [← same] at isIn
    cases List.mem_append.mp isIn with
    | inr number => exact (numbering_plain item.2 _ number).2.2.2 rfl
    | inl quoted =>
      unfold quoteLabel quoteLiteral replaceChar at quoted
      cases List.mem_append.mp quoted with
      | inr closing => exact absurd (List.mem_singleton.mp closing) (by decide)
      | inl opening =>
        cases List.mem_cons.mp opening with
        | inl quote => exact absurd quote (by decide)
        | inr inside =>
          have ⟨c, isChar, doubled⟩ := List.mem_flatMap.mp inside
          by_cases quote : c = '\''
          · rw [if_pos quote] at doubled
            exact absurd doubled (by decide)
          · rw [if_neg quote] at doubled
            rw [← List.mem_singleton.mp doubled] at isChar
            exact plain item.1 known isChar

end Labels

end DbFree.Ddl
