import DbFree.F64Spelling
import DbFree.TemplateStates

/- A spliced value, read by itself, ends in the state it was written for: its
quotes are closed, its escapes complete, and it opens and closes no comment. -/
namespace DbFree.Template

open Texts SqlText

/-- A character that is code by itself, whatever follows it. -/
def Plain (c : Char) : Prop := c ∉ ['\'', '"', '`', '-', '/']

instance (c : Char) : Decidable (Plain c) := inferInstanceAs (Decidable (_ ∉ _))

variable (backslash : Bool)

theorem stateAfter_plain (text rest : Text) (plain : ∀ c ∈ text, Plain c) :
    stateAfter backslash .code (text ++ rest) = stateAfter backslash .code rest := by
  induction text with
  | nil => rfl
  | cons c text ih =>
    have here : Plain c := plain c List.mem_cons_self
    simp only [Plain, List.mem_cons, List.not_mem_nil, or_false, not_or] at here
    obtain ⟨single, double, tick, minus, slash⟩ := here
    have stays : ∀ next, advance backslash .code c next = (false, .code) := by
      intro next
      simp only [advance, single, double, tick, minus, slash, false_and, if_false]
    rw [List.cons_append, stateAfter_single backslash .code c _ (by rw [stays]), stays]
    exact ih fun d member => plain d (List.mem_cons_of_mem c member)

theorem stateAfter_minus (rest : Text) (apart : rest.head? ≠ some '-') :
    stateAfter backslash .code ('-' :: rest) = stateAfter backslash .code rest := by
  have alone : ∀ next, next ≠ some '-' → advance backslash .code '-' next = (false, .code) := by
    intro next other
    simp only [advance]
    rw [if_neg (by decide), if_neg (by decide), if_neg (by decide), if_neg (by simp [other]),
      if_neg (by simp)]
  rw [stateAfter_single backslash .code '-' rest (by rw [alone _ apart]),
    alone none (by simp)]

theorem plain_of_inNumber (c : Char) (digit : F64.inNumber c = true) : Plain c := by
  simp only [Plain, List.mem_cons, List.not_mem_nil, or_false, not_or]
  refine ⟨?_, ?_, ?_, ?_, ?_⟩
  all_goals
    intro same
    rw [same] at digit
    revert digit
    decide

theorem head?_ne_minus (text rest : Text) (visible : text ≠ []) (plain : ∀ c ∈ text, Plain c) :
    (text ++ rest).head? ≠ some '-' := by
  intro minus
  cases text with
  | nil => exact visible rfl
  | cons c text =>
    cases minus
    exact absurd (plain '-' List.mem_cons_self) (by decide)

/-- A sign in front of plain characters is no comment. -/
theorem stateAfter_sign (sign body rest : Text)
    (signs : sign = [] ∨ sign = ['-'] ∨ sign = ['+']) (plain : ∀ c ∈ body, Plain c)
    (apart : (body ++ rest).head? ≠ some '-') :
    stateAfter backslash .code (sign ++ (body ++ rest)) = stateAfter backslash .code rest := by
  rcases signs with rfl | rfl | rfl
  · exact stateAfter_plain backslash body rest plain
  · rw [List.singleton_append, stateAfter_minus backslash _ apart]
    exact stateAfter_plain backslash body rest plain
  · rw [stateAfter_plain backslash ['+'] _ (forall_mem_of_all _ (by decide))]
    exact stateAfter_plain backslash body rest plain

theorem stateAfter_plainly (text : Text) (plainly : F64.Plainly text) :
    stateAfter backslash .code text = .code := by
  obtain ⟨sign, body, rfl, signs, spelled⟩ := plainly
  have plain : ∀ c ∈ body, Plain c := fun c member => plain_of_inNumber c (spelled c member)
  have read := stateAfter_sign backslash sign body []
    (signs.imp_right Or.inl) plain (by
      intro minus
      rw [List.append_nil] at minus
      exact absurd (plain '-' (List.mem_of_mem_head? minus)) (by decide))
  rw [List.append_nil] at read
  exact read

/-- A text that reads as a finite number is code to its end. -/
theorem stateAfter_number (text : Text) (number : F64) (read : F64.parse text = some number)
    (finite : number.isFinite = true) : stateAfter backslash .code text = .code := by
  obtain ⟨sign, negative, body, rfl, signs, numberRead⟩ := F64.parse_shape text number read finite
  obtain ⟨front, behind, exponent, rfl, visible, spelled, exponentRead⟩ :=
    F64.numberOf_shape negative body number numberRead
  have plain : ∀ c ∈ front, Plain c := fun c member => plain_of_inNumber c (spelled c member)
  rw [stateAfter_sign backslash sign front behind signs plain
    (head?_ne_minus front behind visible plain)]
  rcases F64.exponentOf_shape behind exponent exponentRead with
    rfl | ⟨mark, expSign, digits, rfl, marks, expSigns, some, digitsRead⟩
  · rfl
  · have digitsPlain : ∀ c ∈ digits, Plain c := fun c member =>
      plain_of_inNumber c (F64.inNumber_of_isDigit c (digitsRead c member))
    have markPlain : ∀ c ∈ [mark], Plain c := by
      intro c member
      rw [List.mem_singleton.mp member]
      rcases marks with rfl | rfl <;> decide
    rw [← List.singleton_append, stateAfter_plain backslash [mark] _ markPlain]
    have read := stateAfter_sign backslash expSign digits [] expSigns digitsPlain
      (head?_ne_minus digits [] some digitsPlain)
    rw [List.append_nil] at read
    exact read

/-- The quote that opens and closes a string state. -/
def quoteOf (state : SqlState) : Char := if state = .single then '\'' else '"'

/-- An escaped text stays inside its quotes. -/
theorem stateAfter_escaped (state : SqlState) (inString : state = .single ∨ state = .double)
    (text rest : Text) :
    stateAfter backslash state (escapeString (quoteOf state) backslash text ++ rest) =
      stateAfter backslash state rest := by
  have turn : ∀ c next, advance backslash state c next =
      if c = '\\' ∧ backslash then (next.isSome, state)
      else if c = quoteOf state then
        if next = some (quoteOf state) then (true, state) else (false, .code)
      else (false, state) := by
    intro c next
    rcases inString with rfl | rfl <;> rfl
  have quotes : quoteOf state ≠ '\\' := by rcases inString with rfl | rfl <;> decide
  induction text with
  | nil => rfl
  | cons c text ih =>
    rw [escapeString, List.flatMap_cons, List.append_assoc]
    by_cases quote : c = quoteOf state
    · have pair : advance backslash state (quoteOf state) (some (quoteOf state)) =
          (true, state) := by
        rw [turn, if_neg (fun both => quotes both.1), if_pos rfl, if_pos rfl]
      rw [if_pos quote]
      show stateAfter backslash state (quoteOf state :: quoteOf state :: _) = _
      rw [stateAfter_pair backslash state _ _ _ (by rw [pair]), pair]
      exact ih
    · rw [if_neg quote]
      by_cases escape : c = '\\' ∧ backslash = true
      · have pair : advance backslash state '\\' (some '\\') = (true, state) := by
          rw [turn, if_pos ⟨rfl, escape.2⟩]
          rfl
        rw [if_pos escape]
        show stateAfter backslash state ('\\' :: '\\' :: _) = _
        rw [stateAfter_pair backslash state _ _ _ (by rw [pair]), pair]
        exact ih
      · have alone : ∀ next, advance backslash state c next = (false, state) := by
          intro next
          rw [turn, if_neg escape, if_neg quote]
        rw [if_neg escape]
        show stateAfter backslash state (c :: _) = _
        rw [stateAfter_single backslash state c _ (by rw [alone]), alone]
        exact ih

/-- A quoted literal, with plain text before it and behind it, is code again at its
end. -/
theorem stateAfter_quoted (front body behind : Text) (frontPlain : ∀ c ∈ front, Plain c)
    (behindPlain : ∀ c ∈ behind, Plain c) :
    stateAfter backslash .code
      (front ++ '\'' :: (escapeString '\'' backslash body ++ '\'' :: behind)) = .code := by
  have opens : ∀ next, advance backslash .code '\'' next = (false, .single) := by
    intro next
    rfl
  have apart : behind.head? ≠ some '\'' := by
    intro quote
    exact absurd (behindPlain '\'' (List.mem_of_mem_head? quote)) (by decide)
  have closes : ∀ next, next ≠ some '\'' →
      advance backslash .single '\'' next = (false, .code) := by
    intro next other
    show (if '\'' = '\\' ∧ backslash = true then (next.isSome, SqlState.single)
      else if '\'' = '\'' then if next = some '\'' then (true, .single) else (false, .code)
      else (false, .single)) = _
    rw [if_neg (by simp), if_pos rfl, if_neg other]
  rw [stateAfter_plain backslash front _ frontPlain,
    stateAfter_single backslash .code '\'' _ (by rw [opens]), opens]
  have inside := stateAfter_escaped backslash .single (Or.inl rfl) body ('\'' :: behind)
  rw [show escapeString '\'' backslash body = escapeString (quoteOf .single) backslash body from rfl,
    inside, stateAfter_single backslash .single '\'' behind (by rw [closes _ apart]),
    closes none (by simp)]
  have read := stateAfter_plain backslash behind [] behindPlain
  rw [List.append_nil] at read
  exact read

theorem stateAfter_backtick (text : Text) :
    stateAfter backslash .backtick (replaceChar text '`' ['`', '`']) = .backtick := by
  induction text with
  | nil => rfl
  | cons c text ih =>
    rw [replaceChar, List.flatMap_cons]
    by_cases tick : c = '`'
    · rw [if_pos tick]
      show stateAfter backslash .backtick ('`' :: '`' :: _) = _
      rw [stateAfter_pair backslash .backtick _ _ _ rfl]
      exact ih
    · have alone : ∀ next, advance backslash .backtick c next = (false, .backtick) := by
        intro next
        rw [advance, if_neg tick]
      rw [if_neg tick]
      show stateAfter backslash .backtick (c :: _) = _
      rw [stateAfter_single backslash .backtick c _ (by rw [alone]), alone]
      exact ih

theorem stateAfter_lineComment (text : Text) :
    stateAfter backslash .lineComment (lineBreaksToSpaces text) = .lineComment := by
  induction text with
  | nil => rfl
  | cons c text ih =>
    have visible : (if c = '\n' ∨ c = '\r' then ' ' else c) ≠ '\n' := by
      split
      · decide
      · rename_i other
        exact fun same => other (Or.inl same)
    rw [lineBreaksToSpaces, List.map_cons,
      stateAfter_single backslash .lineComment _ _ rfl]
    show stateAfter backslash (if _ = '\n' then .code else .lineComment) _ = _
    rw [if_neg visible]
    exact ih

theorem head?_splitCommentEnds (text : Text) : (splitCommentEnds text).head? = text.head? := by
  fun_cases splitCommentEnds text with
  | case1 => rfl
  | case2 c => rfl
  | case3 c next rest star =>
    rw [star.1]
    rfl
  | case4 c next rest other => rfl

/-- A text with its comment ends split stays inside a block comment. -/
theorem stateAfter_blockComment (text : Text) :
    stateAfter backslash .blockComment (splitCommentEnds text) = .blockComment := by
  have turn : ∀ c next, ¬(c = '*' ∧ next = some '/') →
      advance backslash .blockComment c next = (false, .blockComment) := by
    intro c next other
    rw [advance, if_neg other]
  have skip : ∀ c rest, ¬(c = '*' ∧ rest.head? = some '/') →
      stateAfter backslash .blockComment (c :: rest) =
        stateAfter backslash .blockComment rest := by
    intro c rest other
    rw [stateAfter_single backslash .blockComment c rest (by rw [turn c _ other]),
      turn c none (by simp)]
  fun_induction splitCommentEnds text with
  | case1 => rfl
  | case2 c =>
    rw [skip c [] (by simp)]
    rfl
  | case3 c next rest star ih =>
    rw [skip '*' _ (by simp), skip ' ' _ (by simp), skip '/' _ (by simp)]
    exact ih
  | case4 c next rest other ih =>
    rw [skip c]
    · exact ih
    · rw [head?_splitCommentEnds]
      rintro ⟨star, slash⟩
      exact other ⟨star, Option.some.inj slash⟩

theorem stateAfter_code (text : Text) (plain : ∀ c ∈ text, Plain c) :
    stateAfter backslash .code text = .code := by
  have read := stateAfter_plain backslash text [] plain
  rw [List.append_nil] at read
  exact read

theorem stateAfter_boolLiteral (family : Family) (value : Bool) :
    stateAfter backslash .code (boolLiteral family value) = .code := by
  apply stateAfter_code
  unfold boolLiteral
  split <;> cases value <;> exact forall_mem_of_all _ (by decide)

theorem plain_of_mem_hex (bytes : List UInt8) (c : Char) (member : c ∈ bytes.flatMap hexByte) :
    Plain c ∧ c ≠ '\\' := by
  have digits : ∀ digit < 16, Plain (Nat.digitChar digit) ∧ Nat.digitChar digit ≠ '\\' := by
    decide
  obtain ⟨byte, -, inByte⟩ := List.mem_flatMap.mp member
  have bound := byte.toNat_lt
  simp only [hexByte, List.mem_cons, List.not_mem_nil, or_false] at inByte
  rcases inByte with rfl | rfl
  · exact digits _ (by omega)
  · exact digits _ (by omega)

/-- A text without quotes, and without backslashes where they escape, needs no escape. -/
theorem escapeString_self (text : Text)
    (harmless : ∀ c ∈ text, c ≠ '\'' ∧ ¬(c = '\\' ∧ backslash = true)) :
    escapeString '\'' backslash text = text := by
  have same : ∀ c ∈ text,
      (if c = '\'' then ['\'', '\''] else if c = '\\' ∧ backslash then ['\\', '\\'] else [c]) =
        [c] := by
    intro c member
    obtain ⟨quote, slash⟩ := harmless c member
    rw [if_neg quote, if_neg slash]
  rw [escapeString, List.flatMap_congr same, List.flatMap_singleton']

/-- Without backslash escapes both quotings double the quotes only. -/
theorem escapeString_doubles (text : Text) :
    escapeString '\'' false text = replaceChar text '\'' ['\'', '\''] := by
  apply List.flatMap_congr
  intro c _
  simp

theorem hex_harmless (bytes : List UInt8) :
    ∀ c ∈ bytes.flatMap hexByte, c ≠ '\'' ∧ ¬(c = '\\' ∧ backslash = true) := by
  intro c member
  obtain ⟨plain, slash⟩ := plain_of_mem_hex bytes c member
  exact ⟨fun quote => absurd (quote ▸ plain) (by decide), fun both => slash both.1⟩

/-- The forms of a byte string: a quoted one, a bare one, and the text as given for
families whose strings have no escapes. -/
theorem bytesLiteral_cases (family : Family) (hex plain : Text) :
    (family = .postgres ∧ bytesLiteral family hex plain =
        '\'' :: ('\\' :: 'x' :: hex ++ '\'' :: "::bytea".toList)) ∨
      (∃ front behind : Text, (∀ c ∈ front, Plain c) ∧ (∀ c ∈ behind, Plain c) ∧
        bytesLiteral family hex plain = front ++ '\'' :: (hex ++ '\'' :: behind)) ∨
      bytesLiteral family hex plain = ['0', 'x'] ++ hex ∨
      (family ∉ [.mysql, .clickhouse, .bigquery, .snowflake] ∧
        bytesLiteral family hex plain = plain) := by
  have quoted : ∀ front behind : String, (front.toList.all fun c => decide (Plain c)) = true →
      (behind.toList.all fun c => decide (Plain c)) = true →
      ∃ front' behind' : Text, (∀ c ∈ front', Plain c) ∧
        (∀ c ∈ behind', Plain c) ∧ front.toList ++ '\'' :: (hex ++ '\'' :: behind.toList) =
          front' ++ '\'' :: (hex ++ '\'' :: behind') :=
    fun front behind frontPlain behindPlain =>
      ⟨_, _, forall_mem_of_all _ frontPlain, forall_mem_of_all _ behindPlain, rfl⟩
  cases family <;> first
    | exact Or.inl ⟨rfl, rfl⟩
    | exact Or.inr (Or.inr (Or.inr ⟨by decide, rfl⟩))
    | exact Or.inr (Or.inr (Or.inl rfl))
    | exact Or.inr (Or.inl (quoted "X" "" rfl rfl))
    | exact Or.inr (Or.inl (quoted "unhex(" ")" rfl rfl))
    | exact Or.inr (Or.inl (quoted "HEXTORAW(" ")" rfl rfl))
    | exact Or.inr (Or.inl (quoted "FROM_HEX(" ")" rfl rfl))

/-- A byte string is closed, whichever form the engine has for it. -/
theorem stateAfter_bytesLiteral (engine : Engine) (bytes : List UInt8) (base64 : Text) :
    stateAfter (backslashEscapes engine) .code
      (bytesLiteral engine.family (bytes.flatMap hexByte) (quoteLiteralFor engine base64)) =
        .code := by
  have hex := hex_harmless (backslashEscapes engine) bytes
  rcases bytesLiteral_cases engine.family (bytes.flatMap hexByte) (quoteLiteralFor engine base64)
    with ⟨family, form⟩ | ⟨front, behind, frontPlain, behindPlain, form⟩ | form | ⟨other, form⟩
  · have never : backslashEscapes engine = false := by rw [backslashEscapes, family]
    rw [form]
    have read := stateAfter_quoted (backslashEscapes engine) []
      ('\\' :: 'x' :: bytes.flatMap hexByte) "::bytea".toList (by simp)
      (forall_mem_of_all _ (by decide))
    rw [escapeString_self] at read
    · exact read
    · intro c member
      rw [never]
      rcases List.mem_cons.mp member with rfl | later
      · decide
      · rcases List.mem_cons.mp later with rfl | digit
        · decide
        · exact ⟨(hex c digit).1, by simp⟩
  · rw [form]
    have read := stateAfter_quoted (backslashEscapes engine) front (bytes.flatMap hexByte) behind
      frontPlain behindPlain
    rwa [escapeString_self _ _ hex] at read
  · rw [form, stateAfter_plain _ _ _ (forall_mem_of_all _ (by decide))]
    exact stateAfter_code _ _ fun c digit => (plain_of_mem_hex bytes c digit).1
  · have never : backslashEscapes engine = false := by
      revert other
      rw [backslashEscapes]
      cases engine.family <;> decide
    have read := stateAfter_quoted (backslashEscapes engine) [] base64 [] (by simp) (by simp)
    rw [never, escapeString_doubles] at read
    rw [form, quoteLiteralFor, never]
    exact read

theorem stateAfter_sqlLiteral (crates : Crates) (engine : Engine) (value : Value) :
    stateAfter (backslashEscapes engine) .code
      (sqlLiteral crates engine (backslashEscapes engine) value) = .code := by
  have quoted : stateAfter (backslashEscapes engine) .code
      ('\'' :: escapeString '\'' (backslashEscapes engine) (cellText crates value) ++ ['\'']) =
        .code :=
    stateAfter_quoted (backslashEscapes engine) [] (cellText crates value) [] (by simp) (by simp)
  cases value with
  | null => exact stateAfter_code _ "NULL".toList (forall_mem_of_all _ (by decide))
  | bool value => exact stateAfter_boolLiteral _ _ _
  | int number => exact stateAfter_plainly _ _ (F64.integer_plainly number)
  | float number =>
    rw [sqlLiteral]
    split
    · rename_i finite
      exact stateAfter_plainly _ _ (formatNumber_plainly number finite)
    · exact stateAfter_code _ "NULL".toList (forall_mem_of_all _ (by decide))
  | decimal text =>
    rw [sqlLiteral]
    split
    · rename_i finite
      obtain ⟨number, read, finite⟩ := (Option.any_eq_true _ _).mp finite
      exact stateAfter_number _ (trim text) number read finite
    · exact quoted
  | text text => exact quoted
  | bytes base64 => exact stateAfter_bytesLiteral engine _ base64
  | json document => exact quoted
  | dateTime text => exact quoted
  | unsupported text => exact quoted

/-- A spliced value ends in the state of its placeholder. -/
theorem stateAfter_splice (crates : Crates) (engine : Engine) (value : Value)
    (state : SqlState) :
    stateAfter (backslashEscapes engine) state
      (splice crates engine (backslashEscapes engine) value state) = state := by
  cases state with
  | code => exact stateAfter_sqlLiteral crates engine value
  | single =>
    have read := stateAfter_escaped (backslashEscapes engine) .single (Or.inl rfl)
      (cellText crates value) []
    rw [List.append_nil] at read
    exact read
  | double =>
    have read := stateAfter_escaped (backslashEscapes engine) .double (Or.inr rfl)
      (cellText crates value) []
    rw [List.append_nil] at read
    exact read
  | backtick => exact stateAfter_backtick _ _
  | lineComment => exact stateAfter_lineComment _ _
  | blockComment => exact stateAfter_blockComment _ _

end DbFree.Template
