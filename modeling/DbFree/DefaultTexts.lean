import DbFree.DdlDescribe
import DbFree.Trimming

/- What a default of the catalogue keeps on its way through the form: the expression it stands
for, and how that is written back. -/
namespace DbFree.Ddl

open Texts SqlText

section Scanning

/-- Parentheses balanced outside of string literals, and literals closed: of what is left of a
text, with that many parentheses open, in or outside of a literal. -/
def balancedFrom : Nat → Bool → Text → Bool
  | depth, quoted, [] => depth == 0 && !quoted
  | depth, true, c :: rest => balancedFrom depth (c != '\'') rest
  | depth, false, c :: rest =>
    if c = '\'' then balancedFrom depth true rest
    else if c = '(' then balancedFrom (depth + 1) false rest
    else if c = ')' then 0 < depth && balancedFrom (depth - 1) false rest
    else balancedFrom depth false rest

def WellFormed (text : Text) : Prop := balancedFrom 0 false text = true

/-- `closesAtEnd`, of the parentheses outside of literals. -/
def closesOutside : Nat → Bool → Text → Bool
  | _, _, [] => true
  | depth, true, c :: rest => closesOutside depth (c != '\'') rest
  | depth, false, c :: rest =>
    if c = '\'' then closesOutside depth true rest
    else if c = '(' then closesOutside (depth + 1) false rest
    else if c = ')' then
      if depth - 1 = 0 ∧ rest ≠ [] then false else closesOutside (depth - 1) false rest
    else closesOutside depth false rest

/-- Where the parentheses around a text, or around what they hold, are taken to close at its end,
they do so outside of literals. -/
def CountsAlike : Nat → Text → Prop
  | 0, _ => True
  | turns + 1, text =>
    enclosed '(' ')' text = true → closesAtEnd 0 text = true →
      closesOutside 0 false text = true ∧ CountsAlike turns (trim (text.drop 1).dropLast)

end Scanning

section Meaning

variable (typeName : Text → Prop)

/-- What is left when parentheses that enclose a whole expression are taken off. -/
inductive Around : Text → Text → Prop where
  | bare {text : Text} : Around text (trim text)
  | parens {text body expression : Text} (around : trim text = '(' :: (body ++ [')']))
      (inner : WellFormed body) (rest : Around body expression) : Around text expression

/-- A string literal: a quote, and what stands up to the quote that ends it. -/
def IsLiteral (text : Text) : Prop :=
  ∃ behind, text = '\'' :: behind ∧ literalEnd behind = some (behind, [])

/-- The expression a default of the catalogue stands for. -/
inductive Stands : Dialect → Text → Text → Prop where
  | bare {dialect : Dialect} {text : Text} : Stands dialect text (trim text)
  | around {text expression : Text} (parens : Around text expression) :
      Stands .mssql text expression
  | cast {text literal type : Text} (cast : trim text = literal ++ ':' :: ':' :: type)
      (isLiteral : IsLiteral literal) (isType : typeName type) : Stands .postgres text literal

/-- NULL, or NULL as a value of a type. -/
def SpellsNull (text : Text) : Prop :=
  toAsciiUppercase text = "NULL".toList ∨
    ∃ type, toAsciiUppercase (text.take 6) = "NULL::".toList ∧ text.drop 6 = type ∧ typeName type

/-- A spelling of the current timestamp. -/
def SpellsNow (text : Text) : Prop :=
  isIn (toAsciiUppercase text) ["NOW()", "CURRENT_TIMESTAMP", "CURRENT_TIMESTAMP()", "GETDATE()",
    "SYSDATE", "LOCALTIMESTAMP", "TRANSACTION_TIMESTAMP()", "STATEMENT_TIMESTAMP()"] = true ∨
  ∃ digits, toAsciiUppercase text = "CURRENT_TIMESTAMP(".toList ++ digits ++ [')'] ∧
    digits.all Char.isDigit = true

def SpellsEmpty (dialect : Dialect) (text : Text) : Prop :=
  text = "''".toList ∨ dialect = .mssql ∧ text = "N''".toList

/-- An expression, the form's default for it, and what is written back: a preset is for a text
that spells it, and any other expression is written as it is, in parentheses on SQLite. -/
inductive Kept (cx : Cx) (mayBeNull : Bool) : Text → ColumnDefault → Option Text → Prop where
  | none : Kept cx mayBeNull [] .none none
  | null {text : Text} (spells : SpellsNull typeName text) :
      Kept cx mayBeNull text .null (if mayBeNull then some "NULL".toList else .none)
  | now {text : Text} (spells : SpellsNow text) :
      Kept cx mayBeNull text .now (some (nowSql cx.dialect))
  | empty {text : Text} (spells : SpellsEmpty cx.dialect text) :
      Kept cx mayBeNull text .empty (some "''".toList)
  | expression {text : Text} (filled : text ≠ []) :
      Kept cx mayBeNull text (.custom text) (some text)
  | parenthesised {text : Text} (filled : text ≠ []) (sqlite : cx.dialect = .sqlite) :
      Kept cx mayBeNull text (.custom text) (some (inParens text))

/-- What is taken for a cast of a lone literal, or of NULL, names a type. -/
structure CastsTyped (dialect : Dialect) (raw : Text) : Prop where
  literal : dialect = .postgres → ∀ behind literal type, trim raw = '\'' :: behind →
    literalEnd behind = some (literal, ':' :: ':' :: type) → typeName type
  null : startsWith (toAsciiUppercase (bareDefault dialect raw)) "NULL::" = true →
    typeName ((bareDefault dialect raw).drop 6)

end Meaning

section Marks

def isMark (c : Char) : Bool := c == '\'' || c == '(' || c == ')'

theorem balancedFrom_marks (text : Text) : ∀ depth quoted,
    balancedFrom depth quoted (text.filter isMark) = balancedFrom depth quoted text := by
  induction text with
  | nil =>
    intro depth quoted
    rfl
  | cons c rest ih =>
    intro depth quoted
    by_cases mark : isMark c = true
    · rw [List.filter_cons_of_pos mark]
      cases quoted with
      | true =>
        unfold balancedFrom
        exact ih _ _
      | false =>
        unfold balancedFrom
        simp only [ih]
    · rw [List.filter_cons_of_neg mark, ih]
      have plain : c ≠ '\'' ∧ c ≠ '(' ∧ c ≠ ')' := by
        unfold isMark at mark
        simpa [and_assoc] using mark
      cases quoted with
      | true =>
        conv => rhs; unfold balancedFrom
        rw [bne_iff_ne.mpr plain.1]
      | false =>
        conv => rhs; unfold balancedFrom
        rw [if_neg plain.1, if_neg plain.2.1, if_neg plain.2.2]

theorem white_not_mark {c : Char} (white : Chars.isWhitespace c = true) : isMark c = false := by
  cases mark : isMark c with
  | false => rfl
  | true =>
    unfold isMark at mark
    simp only [Bool.or_eq_true, beq_iff_eq] at mark
    exfalso
    obtain (rfl | rfl) | rfl := mark <;> revert white <;> decide

theorem wellFormed_trim {text : Text} (formed : WellFormed text) : WellFormed (trim text) := by
  have ⟨front, back, split, left, right⟩ := strip_parts Chars.isWhitespace text
  have noMarks (part : Text) (white : ∀ c ∈ part, Chars.isWhitespace c = true) :
      part.filter isMark = [] := by
    rw [List.filter_eq_nil_iff]
    intro c mem mark
    rw [white_not_mark (white c mem)] at mark
    cases mark
  have marks : text.filter isMark = (trim text).filter isMark := by
    conv => lhs; rw [split]
    rw [List.filter_append, List.filter_append, noMarks front left, noMarks back right,
      List.nil_append, List.append_nil]
    rfl
  unfold WellFormed at formed ⊢
  rw [← balancedFrom_marks, ← marks, balancedFrom_marks]
  exact formed

end Marks

section Parens

/-- Behind a parenthesis that closes at the end of a text: what stands before the end is
balanced. -/
theorem balanced_dropLast (rest : Text) : ∀ depth quoted, 0 < depth →
    closesOutside depth quoted rest = true → balancedFrom depth quoted rest = true →
      rest.getLast? = some ')' → balancedFrom (depth - 1) quoted rest.dropLast = true := by
  induction rest with
  | nil =>
    intro depth quoted _ _ _ last
    cases last
  | cons c rest ih =>
    intro depth quoted positive closes balanced last
    cases rest with
    | nil =>
      have isParen : c = ')' := by
        simpa using last
      rw [isParen] at balanced
      cases quoted with
      | true =>
        unfold balancedFrom balancedFrom at balanced
        simp at balanced
      | false =>
        unfold balancedFrom balancedFrom at balanced
        simp at balanced
        unfold List.dropLast balancedFrom
        simp
        omega
    | cons d rest =>
      rw [List.dropLast_cons_cons]
      have last : (d :: rest).getLast? = some ')' := by
        rwa [List.getLast?_cons_cons] at last
      cases quoted with
      | true =>
        unfold closesOutside at closes
        unfold balancedFrom at balanced
        unfold balancedFrom
        exact ih depth _ positive closes balanced last
      | false =>
        unfold closesOutside at closes
        unfold balancedFrom at balanced
        unfold balancedFrom
        by_cases quote : c = '\''
        · rw [if_pos quote] at closes balanced ⊢
          exact ih depth true positive closes balanced last
        · rw [if_neg quote] at closes balanced ⊢
          by_cases opening : c = '('
          · rw [if_pos opening] at closes balanced ⊢
            have inner := ih (depth + 1) false (Nat.succ_pos depth) closes balanced last
            rwa [show depth - 1 + 1 = depth + 1 - 1 by omega]
          · rw [if_neg opening] at closes balanced ⊢
            by_cases closing : c = ')'
            · rw [if_pos closing] at closes balanced ⊢
              by_cases ends : depth - 1 = 0
              · rw [if_pos ⟨ends, List.cons_ne_nil _ _⟩] at closes
                cases closes
              · rw [if_neg fun both => ends both.1] at closes
                rw [Bool.and_eq_true] at balanced ⊢
                constructor
                · exact decide_eq_true (Nat.pos_of_ne_zero ends)
                · exact ih (depth - 1) false (Nat.pos_of_ne_zero ends) closes balanced.2 last
            · rw [if_neg closing] at closes balanced ⊢
              exact ih depth false positive closes balanced last

theorem enclosed_parts {opening closing : Char} {text : Text}
    (around : enclosed opening closing text = true) :
    text = opening :: ((text.drop 1).dropLast ++ [closing]) := by
  unfold enclosed at around
  simp only [Bool.and_eq_true, beq_iff_eq, decide_eq_true_eq] at around
  have ⟨⟨first, last⟩, long⟩ := around
  cases text with
  | nil => cases first
  | cons c rest =>
    cases rest with
    | nil => simp at long
    | cons d rest =>
      have isOpening : c = opening := by simpa using first
      rw [List.getLast?_cons_cons] at last
      rw [List.drop_one, List.tail_cons, isOpening]
      congr 1
      exact (List.dropLast_append_getLast? closing last).symm

/-- What parentheses enclose that close at the end of a balanced text is balanced. -/
theorem wellFormed_inner {text : Text} (formed : WellFormed text)
    (around : enclosed '(' ')' text = true) (closes : closesOutside 0 false text = true) :
    WellFormed (text.drop 1).dropLast := by
  have parts := enclosed_parts around
  generalize (text.drop 1).dropLast = body at parts ⊢
  rw [parts] at formed closes
  unfold WellFormed balancedFrom at formed
  unfold closesOutside at closes
  rw [if_neg (by decide), if_pos rfl] at formed closes
  have inner := balanced_dropLast (body ++ [')']) 1 false Nat.one_pos closes formed
    List.getLast?_concat
  rwa [List.dropLast_concat] at inner

theorem around_trim {text expression : Text} (around : Around (trim text) expression) :
    Around text expression := by
  cases around with
  | bare =>
    rw [trim_trim]
    exact .bare
  | parens parts inner rest =>
    rw [trim_trim] at parts
    exact .parens parts inner rest

theorem stripOuter_around (turns : Nat) : ∀ text, trim text = text → WellFormed text →
    CountsAlike turns text → Around text (stripOuter turns text) := by
  induction turns with
  | zero =>
    intro text trimmed _ _
    unfold stripOuter
    have bare : Around text (trim text) := .bare
    rwa [trimmed] at bare
  | succ turns ih =>
    intro text trimmed formed alike
    unfold stripOuter
    by_cases stripped : enclosed '(' ')' text = true ∧ closesAtEnd 0 text = true
    · rw [if_pos stripped]
      have ⟨outside, inner⟩ := alike stripped.1 stripped.2
      have body := wellFormed_inner formed stripped.1 outside
      have rest := ih _ (trim_trim _) (wellFormed_trim body) inner
      have around : trim text = '(' :: ((text.drop 1).dropLast ++ [')']) := by
        rw [trimmed]
        exact enclosed_parts stripped.1
      exact .parens around body (around_trim rest)
    · rw [if_neg stripped]
      have bare : Around text (trim text) := .bare
      rwa [trimmed] at bare

end Parens

section Quiet

/-- The parentheses inside of every literal are balanced: of what is left of a text, outside of a
literal or with some parentheses of it open. -/
def quietFrom : Option Nat → Text → Bool
  | _, [] => true
  | none, c :: rest => quietFrom (if c = '\'' then some 0 else none) rest
  | some inner, c :: rest =>
    if c = '\'' then inner == 0 && quietFrom none rest
    else if c = '(' then quietFrom (some (inner + 1)) rest
    else if c = ')' then 0 < inner && quietFrom (some (inner - 1)) rest
    else quietFrom (some inner) rest

/-- Where literals hold balanced parentheses, counting all of them is counting those outside. -/
theorem closesOutside_of_quiet (rest : Text) : ∀ depth, 0 < depth →
    (quietFrom none rest = true → closesAtEnd depth rest = true →
      closesOutside depth false rest = true) ∧
    ∀ inner, quietFrom (some inner) rest = true → closesAtEnd (depth + inner) rest = true →
      closesOutside depth true rest = true := by
  induction rest with
  | nil =>
    intro depth _
    exact ⟨fun _ _ => rfl, fun _ _ _ => rfl⟩
  | cons c rest ih =>
    intro depth positive
    constructor
    · intro quiet closes
      unfold quietFrom at quiet
      unfold closesAtEnd at closes
      unfold closesOutside
      by_cases quote : c = '\''
      · rw [if_pos quote] at quiet ⊢
        rw [if_neg (by rw [quote]; decide), if_neg (by rw [quote]; decide)] at closes
        exact (ih depth positive).2 0 quiet closes
      · rw [if_neg quote] at quiet ⊢
        by_cases opening : c = '('
        · rw [if_pos opening] at closes ⊢
          exact (ih (depth + 1) (Nat.succ_pos depth)).1 quiet closes
        · rw [if_neg opening] at closes ⊢
          by_cases closing : c = ')'
          · rw [if_pos closing] at closes ⊢
            by_cases ends : depth - 1 = 0
            · by_cases last : rest = []
              · rw [last]
                rw [if_neg fun both => both.2 rfl]
                rfl
              · rw [if_pos ⟨ends, last⟩] at closes
                cases closes
            · rw [if_neg fun both => ends both.1] at closes ⊢
              exact (ih (depth - 1) (Nat.pos_of_ne_zero ends)).1 quiet closes
          · rw [if_neg closing] at closes ⊢
            exact (ih depth positive).1 quiet closes
    · intro inner quiet closes
      unfold quietFrom at quiet
      unfold closesAtEnd at closes
      unfold closesOutside
      by_cases quote : c = '\''
      · rw [if_pos quote, Bool.and_eq_true, beq_iff_eq] at quiet
        rw [if_neg (by rw [quote]; decide), if_neg (by rw [quote]; decide), quiet.1] at closes
        rw [quote]
        exact (ih depth positive).1 quiet.2 closes
      · rw [if_neg quote] at quiet
        rw [bne_iff_ne.mpr quote]
        by_cases opening : c = '('
        · rw [if_pos opening] at quiet closes
          exact (ih depth positive).2 (inner + 1) quiet closes
        · rw [if_neg opening] at quiet closes
          by_cases closing : c = ')'
          · rw [if_pos closing] at quiet closes
            rw [Bool.and_eq_true, decide_eq_true_eq] at quiet
            rw [if_neg (by omega)] at closes
            rw [show depth + inner - 1 = depth + (inner - 1) by omega] at closes
            exact (ih depth positive).2 (inner - 1) quiet.2 closes
          · rw [if_neg closing] at quiet closes
            exact (ih depth positive).2 inner quiet closes

theorem quietFrom_front (front rest : Text) : ∀ inside, quietFrom inside (front ++ rest) = true →
    quietFrom inside front = true := by
  induction front with
  | nil =>
    intro inside _
    cases inside <;> rfl
  | cons c front ih =>
    intro inside quiet
    rw [List.cons_append] at quiet
    cases inside with
    | none =>
      unfold quietFrom at quiet ⊢
      exact ih _ quiet
    | some inner =>
      unfold quietFrom at quiet ⊢
      by_cases quote : c = '\''
      · rw [if_pos quote, Bool.and_eq_true] at quiet ⊢
        exact ⟨quiet.1, ih _ quiet.2⟩
      · rw [if_neg quote] at quiet ⊢
        by_cases opening : c = '('
        · rw [if_pos opening] at quiet ⊢
          exact ih _ quiet
        · rw [if_neg opening] at quiet ⊢
          by_cases closing : c = ')'
          · rw [if_pos closing, Bool.and_eq_true] at quiet ⊢
            exact ⟨quiet.1, ih _ quiet.2⟩
          · rw [if_neg closing] at quiet ⊢
            exact ih _ quiet

theorem quietFrom_white (front rest : Text) (white : ∀ c ∈ front, Chars.isWhitespace c = true) :
    quietFrom none (front ++ rest) = quietFrom none rest := by
  induction front with
  | nil => rfl
  | cons c front ih =>
    have plain : c ≠ '\'' := by
      intro quote
      have mark := white_not_mark (white c List.mem_cons_self)
      rw [quote] at mark
      revert mark
      decide
    rw [List.cons_append]
    conv => lhs; unfold quietFrom
    rw [if_neg plain]
    exact ih fun d mem => white d (List.mem_cons_of_mem c mem)

theorem quiet_trim {text : Text} (quiet : quietFrom none text = true) :
    quietFrom none (trim text) = true := by
  have ⟨front, back, split, left, _⟩ := strip_parts Chars.isWhitespace text
  rw [split, List.append_assoc, quietFrom_white front _ left] at quiet
  exact quietFrom_front _ back none quiet

/-- Literals that hold balanced parentheses do not mislead the count. -/
theorem countsAlike_of_quiet (turns : Nat) : ∀ text, quietFrom none text = true →
    CountsAlike turns text := by
  induction turns with
  | zero =>
    intro text _
    trivial
  | succ turns ih =>
    intro text quiet around closes
    have parts := enclosed_parts around
    generalize (text.drop 1).dropLast = body at parts ⊢
    rw [parts] at quiet closes ⊢
    unfold quietFrom at quiet
    rw [if_neg (by decide)] at quiet
    unfold closesAtEnd at closes
    rw [if_pos rfl] at closes
    constructor
    · unfold closesOutside
      rw [if_neg (by decide), if_pos rfl]
      exact (closesOutside_of_quiet _ 1 Nat.one_pos).1 quiet closes
    · exact ih _ (quiet_trim (quietFrom_front body [')'] none quiet))

end Quiet

section Literals

/-- Where a literal ends, its text ends when nothing follows. -/
theorem literalEnd_split (text : Text) : ∀ literal rest, literalEnd text = some (literal, rest) →
    text = literal ++ rest ∧ literalEnd literal = some (literal, []) := by
  fun_induction literalEnd text with
  | case1 =>
    intro literal rest found
    cases found
  | case2 behind ih =>
    intro literal rest found
    have ⟨inner, isInner, same⟩ := Option.map_eq_some_iff.mp found
    have ⟨parts, ends⟩ := ih inner.1 inner.2 isInner
    cases same
    constructor
    · rw [List.cons_append, List.cons_append, ← parts]
    · rw [literalEnd, ends]
      rfl
  | case3 behind single =>
    intro literal rest found
    cases found
    constructor
    · rfl
    · rfl
  | case4 c behind double single ih =>
    intro literal rest found
    have ⟨inner, isInner, same⟩ := Option.map_eq_some_iff.mp found
    have ⟨parts, ends⟩ := ih inner.1 inner.2 isInner
    cases same
    constructor
    · rw [List.cons_append, ← parts]
    · rw [literalEnd, ends]
      · rfl
      · intro _ quote
        exact absurd quote single
      · exact single

theorem literalEnd_last (text : Text) : ∀ literal rest, literalEnd text = some (literal, rest) →
    literal.getLast? = some '\'' := by
  fun_induction literalEnd text with
  | case1 =>
    intro literal rest found
    cases found
  | case2 behind ih =>
    intro literal rest found
    have ⟨inner, isInner, same⟩ := Option.map_eq_some_iff.mp found
    have last := ih inner.1 inner.2 isInner
    cases same
    rw [List.getLast?_cons, List.getLast?_cons, last]
    rfl
  | case3 behind single =>
    intro literal rest found
    cases found
    rfl
  | case4 c behind double single ih =>
    intro literal rest found
    have ⟨inner, isInner, same⟩ := Option.map_eq_some_iff.mp found
    have last := ih inner.1 inner.2 isInner
    cases same
    rw [List.getLast?_cons, last]
    rfl

theorem trim_quoted {literal : Text} (last : literal.getLast? = some '\'') :
    trim ('\'' :: literal) = '\'' :: literal := by
  have ⟨front, parts⟩ := List.getLast?_eq_some_iff.mp last
  unfold trim trimEnd trimStart
  rw [List.dropWhile_cons_of_neg (by decide), parts, ← List.cons_append,
    List.rdropWhile_concat_neg _ _ _ (by decide)]

theorem stripLiteralCast_eq (raw : Text) :
    stripLiteralCast raw = trim raw ∨
      ∃ behind literal type, trim raw = '\'' :: behind ∧
        literalEnd behind = some (literal, ':' :: ':' :: type) ∧
        stripLiteralCast raw = '\'' :: literal := by
  unfold stripLiteralCast
  dsimp only
  split
  · next behind isRaw =>
    split
    · next literal rest found =>
      by_cases cast : startsWith rest "::" = true
      · rw [if_pos cast]
        have ⟨type, isRest⟩ := List.isPrefixOf_iff_prefix.mp cast
        right
        refine ⟨behind, literal, type, isRaw, ?_, rfl⟩
        rw [found, ← isRest]
        rfl
      · rw [if_neg cast]
        exact .inl rfl
    · exact .inl rfl
  · exact .inl rfl

end Literals

section Bare

theorem stripOuter_trimmed (turns : Nat) : ∀ text, trim text = text →
    trim (stripOuter turns text) = stripOuter turns text := by
  induction turns with
  | zero =>
    intro text trimmed
    exact trimmed
  | succ turns ih =>
    intro text trimmed
    unfold stripOuter
    split
    · exact ih _ (trim_trim _)
    · exact trimmed

theorem bareDefault_trimmed (dialect : Dialect) (raw : Text) :
    trim (bareDefault dialect raw) = bareDefault dialect raw := by
  unfold bareDefault
  split
  · exact stripOuter_trimmed _ _ (trim_trim _)
  · cases stripLiteralCast_eq (trim raw) with
    | inl bare =>
      rw [bare]
      exact trim_trim _
    | inr cast =>
      have ⟨behind, literal, type, _, found, isLiteral⟩ := cast
      rw [isLiteral]
      exact trim_quoted (literalEnd_last _ _ _ found)
  · exact trim_trim raw

variable {typeName : Text → Prop} {dialect : Dialect} {raw : Text}

theorem bareDefault_stands (formed : WellFormed raw)
    (counted : dialect = .mssql → CountsAlike (trim raw).length (trim raw))
    (typed : CastsTyped typeName dialect raw) :
    Stands typeName dialect raw (bareDefault dialect raw) := by
  have stripped := typed.literal
  unfold bareDefault
  split
  · apply Stands.around
    apply around_trim
    unfold stripOuterParens
    rw [trim_trim]
    exact stripOuter_around _ _ (trim_trim raw) (wellFormed_trim formed) (counted rfl)
  · cases stripLiteralCast_eq (trim raw) with
    | inl bare =>
      rw [bare, trim_trim]
      exact .bare
    | inr cast =>
      have ⟨behind, literal, type, isRaw, found, isLiteral⟩ := cast
      rw [trim_trim] at isRaw
      have ⟨parts, ends⟩ := literalEnd_split _ _ _ found
      rw [isLiteral]
      refine .cast ?_ ⟨literal, rfl, ends⟩ (stripped rfl behind literal type isRaw found)
      rw [isRaw, parts, List.cons_append]
  · exact .bare

end Bare

section Presets

theorem isIn_singleton {text : Text} {entry : String} :
    isIn text [entry] = true ↔ text = entry.toList := by
  unfold isIn
  rw [List.any_cons, List.any_nil, Bool.or_false, beq_iff_eq]
  exact eq_comm

theorem toAsciiUppercase_take (text : Text) (count : Nat) :
    toAsciiUppercase (text.take count) = (toAsciiUppercase text).take count := by
  unfold toAsciiUppercase
  rw [List.map_take]

theorem spellsNow_of_isNow {text : Text} (now : isNow (toAsciiUppercase text) = true) :
    SpellsNow text := by
  unfold isNow at now
  cases Bool.or_eq_true_iff.mp now with
  | inl listed => exact .inl listed
  | inr precise =>
    right
    simp only [Bool.and_eq_true, beq_iff_eq] at precise
    have ⟨⟨starts, last⟩, digits⟩ := precise
    have ⟨rest, isUpper⟩ := List.isPrefixOf_iff_prefix.mp starts
    rw [← isUpper] at last digits ⊢
    have inner : ("CURRENT_TIMESTAMP(".toList ++ rest).drop 18 = rest := List.drop_left' rfl
    rw [inner] at digits
    have ⟨front, isRest⟩ : ∃ front, rest = front ++ [')'] := by
      apply List.getLast?_eq_some_iff.mp
      cases rest with
      | nil =>
        revert last
        decide
      | cons c rest =>
        rw [List.getLast?_append_of_ne_nil _ (List.cons_ne_nil c rest)] at last
        exact last
    rw [isRest, List.dropLast_concat] at digits
    exact ⟨front, by rw [isRest, List.append_assoc], digits⟩

end Presets

section Results

variable {typeName : Text → Prop} {cx : Cx} {column : ColumnSpec} {raw : Text}

end Results

section Examples

/-- A nullable column with a default of the catalogue. -/
def columnWith (dialect : Dialect) (raw : String) : ColumnSpec :=
  { baseColumn dialect ⟨"at".toList, "integer".toList, true, false⟩ with
    default := parseDefault dialect raw.toList }

end Examples

end DbFree.Ddl
