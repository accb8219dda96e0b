import DbFree.JsonTokens
import DbFree.Utf16

/- The editor's formatter of JSON commands: it copies a text token by token and rebuilds the
space between them (features/editor/formatQuery.ts). -/
namespace DbFree.PrettyJson

open Texts SqlText JsonTokens
open Browser (isSpace)

def INLINE_ARRAY_LIMIT : Nat := 60

/-- The string whose opening quote is just read, up to its closing one, and the text behind. -/
def stringEnd : Text → Text × Text
  | [] => ([], [])
  | '\\' :: c :: rest => ('\\' :: c :: (stringEnd rest).1, (stringEnd rest).2)
  | '"' :: rest => (['"'], rest)
  | c :: rest => (c :: (stringEnd rest).1, (stringEnd rest).2)

theorem stringEnd_parts (text : Text) : (stringEnd text).1 ++ (stringEnd text).2 = text := by
  induction text using stringEnd.induct with
  | case1 => rfl
  | case2 c rest hypothesis => simp [stringEnd, hypothesis]
  | case3 rest => rfl
  | case4 c rest no_escape no_quote hypothesis =>
    rw [stringEnd]
    · rw [List.cons_append, hypothesis]
    · exact no_escape
    · exact no_quote

theorem stringEnd_length (text : Text) : (stringEnd text).2.length ≤ text.length := by
  have whole := congrArg List.length (stringEnd_parts text)
  rw [List.length_append] at whole
  omega

/-- `joined.length`. -/
def unitLength (text : Text) : Nat := (Browser.codeUnits text).length

/-- The text since the last comma, put to the items unless it is blank. -/
def pushed (items : List Text) (item : Text) : List Text :=
  if Browser.trim item = [] then items else items ++ [Browser.trim item]

def joined (items : List Text) : Text := '[' :: (join ", ".toList items ++ [']'])

/-- An array whose closing bracket is read stays on one line if it fits there. -/
def onLine (items : List Text) (rest : Text) : Option (Text × Text) :=
  if unitLength (joined items) ≤ INLINE_ARRAY_LIMIT then some (joined items, rest) else none

/-- The items of an array whose opening bracket is read, on one line: `item` is the text since
the last comma. Nothing when a container is among them. -/
def inlineFrom (item : Text) (items : List Text) (text : Text) : Option (Text × Text) :=
  match text with
  | [] => none
  | c :: rest =>
    if c = '"' then inlineFrom (item ++ c :: (stringEnd rest).1) items (stringEnd rest).2
    else if c = '\x7b' ∨ c = '[' then none
    else if c = ']' then onLine (pushed items item) rest
    else if c = ',' then inlineFrom [] (pushed items item) rest
    else inlineFrom (item ++ [c]) items rest
termination_by text.length
decreasing_by
  · have shorter := stringEnd_length rest
    simp only [List.length_cons]
    omega
  · simp
  · simp

def inlineArray (rest : Text) : Option (Text × Text) :=
  inlineFrom [] [] (rest.dropWhile isSpace)

theorem inlineFrom_length {item : Text} {items : List Text} {text line behind : Text}
    (found : inlineFrom item items text = some (line, behind)) : behind.length ≤ text.length := by
  induction item, items, text using inlineFrom.induct with
  | case1 =>
    rw [inlineFrom] at found
    cases found
  | case2 item items rest hypothesis =>
    rw [inlineFrom, if_pos rfl] at found
    exact (hypothesis found).trans ((stringEnd_length rest).trans (Nat.le_succ rest.length))
  | case3 item items c rest no_quote opens =>
    rw [inlineFrom, if_neg no_quote, if_pos opens] at found
    cases found
  | case4 item items rest no_quote no_opens =>
    rw [inlineFrom, if_neg no_quote, if_neg no_opens, if_pos rfl, onLine] at found
    split at found
    · cases found
      exact Nat.le_succ _
    · cases found
  | case5 item items rest no_quote no_opens no_close hypothesis =>
    rw [inlineFrom, if_neg no_quote, if_neg no_opens, if_neg no_close, if_pos rfl] at found
    exact (hypothesis found).trans (Nat.le_succ rest.length)
  | case6 item items c rest no_quote no_opens no_close no_comma hypothesis =>
    rw [inlineFrom, if_neg no_quote, if_neg no_opens, if_neg no_close, if_neg no_comma] at found
    exact (hypothesis found).trans (Nat.le_succ rest.length)

theorem inlineArray_length {rest line behind : Text}
    (found : inlineArray rest = some (line, behind)) : behind.length ≤ rest.length :=
  (inlineFrom_length found).trans (List.dropWhile_suffix isSpace).length_le

def newline (depth : Nat) : Text := '\n' :: List.replicate (2 * depth) ' '

def closer (c : Char) : Char := if c = '\x7b' then '\x7d' else ']'

/-- The loop of the formatter. -/
def prettyFrom (depth : Nat) (text : Text) : Text :=
  match text with
  | [] => []
  | c :: rest =>
    if isSpace c then prettyFrom depth rest
    else if c = '"' then c :: ((stringEnd rest).1 ++ prettyFrom depth (stringEnd rest).2)
    else if c = '\x7b' ∨ c = '[' then
      if (rest.dropWhile isSpace).head? = some (closer c) then
        c :: closer c :: prettyFrom depth (rest.dropWhile isSpace).tail
      else
        match _found : if c = '[' then inlineArray rest else none with
        | some (line, behind) => line ++ prettyFrom depth behind
        | none => c :: (newline (depth + 1) ++ prettyFrom (depth + 1) rest)
    else if c = '\x7d' ∨ c = ']' then newline (depth - 1) ++ c :: prettyFrom (depth - 1) rest
    else if c = ',' then c :: (newline depth ++ prettyFrom depth rest)
    else if c = ':' then c :: ' ' :: prettyFrom depth rest
    else c :: prettyFrom depth rest
termination_by text.length
decreasing_by
  all_goals simp only [List.length_cons]
  · omega
  · have shorter := stringEnd_length rest
    omega
  · have shorter := (List.dropWhile_suffix (l := rest) isSpace).length_le
    rw [List.length_tail]
    omega
  · split at _found
    · have shorter := inlineArray_length _found
      omega
    · cases _found
  · omega
  · omega
  · omega
  · omega
  · omega

/-- `prettyJson`: nothing unless the text is a JSON object or array. -/
def prettyJson (text : Text) : Option Text :=
  match tokens text with
  | some (.mark m :: ts) => if isDocument (.mark m :: ts) then some (prettyFrom 0 text) else none
  | _ => none

section Layout

/-- The items of an array of plain values, its opening bracket read, and what is behind its
closing one. -/
def plainItems : List Token → Option (List Text × List Token)
  | .mark _ :: _ => none
  | t :: .mark .comma :: ts => (plainItems ts).map fun read => (t.text :: read.1, read.2)
  | t :: .mark .closeBracket :: ts => some ([t.text], ts)
  | _ => none

/-- An array of plain values that fits on a line. -/
def fits (ts : List Token) : Bool :=
  match plainItems ts with
  | some read => unitLength (joined read.1) ≤ INLINE_ARRAY_LIMIT
  | none => false

/-- The formatted text of tokens at a depth, inside an array on one line or not. -/
def layout (depth : Nat) (inLine : Bool) : List Token → Text
  | [] => []
  | .mark .openBrace :: .mark .closeBrace :: ts => '\x7b' :: '\x7d' :: layout depth inLine ts
  | .mark .openBracket :: .mark .closeBracket :: ts => '[' :: ']' :: layout depth inLine ts
  | .mark .openBrace :: ts => '\x7b' :: (newline (depth + 1) ++ layout (depth + 1) false ts)
  | .mark .openBracket :: ts =>
    if fits ts then '[' :: layout depth true ts
    else '[' :: (newline (depth + 1) ++ layout (depth + 1) false ts)
  | .mark .closeBrace :: ts => newline (depth - 1) ++ '\x7d' :: layout (depth - 1) false ts
  | .mark .closeBracket :: ts =>
    if inLine then ']' :: layout depth false ts
    else newline (depth - 1) ++ ']' :: layout (depth - 1) false ts
  | .mark .comma :: ts =>
    ',' :: ((if inLine then [' '] else newline depth) ++ layout depth inLine ts)
  | .mark .colon :: ts => ':' :: ' ' :: layout depth inLine ts
  | .string body :: ts => '"' :: (body ++ layout depth inLine ts)
  | .plain word :: ts => word ++ layout depth inLine ts

theorem space_newline (depth : Nat) : JsonText.Space (newline depth) := by
  intro c member
  rcases List.mem_cons.mp member with rfl | blank
  · rfl
  · rw [List.eq_of_mem_replicate blank]
    rfl

/-- A layout goes on with a plain token only where its tokens do. -/
theorem layout_head {ts : List Token} (other : ∀ word, ts.head? ≠ some (.plain word)) (depth : Nat)
    (inLine : Bool) : ∀ c, (layout depth inLine ts).head? = some c → isBare c = false := by
  intro c first
  unfold layout at first
  split at first
  · cases first
  · cases first
    rfl
  · cases first
    rfl
  · cases first
    rfl
  · split at first
    · cases first
      rfl
    · cases first
      rfl
  · cases first
    rfl
  · split at first
    · cases first
      rfl
    · cases first
      rfl
  · cases first
    rfl
  · cases first
    rfl
  · cases first
    rfl
  · rename_i word ts
    exact absurd rfl (other word)

/-- Tokens of JSON, no two plain ones side by side. -/
def Spelled (ts : List Token) : Prop := Separated ts ∧ ∀ t ∈ ts, t.Shaped

theorem Spelled.tail {t : Token} {ts : List Token} (spelled : Spelled (t :: ts)) : Spelled ts :=
  ⟨spelled.1.2, fun other member => spelled.2 other (List.mem_cons_of_mem t member)⟩

theorem spaced_layout {ts : List Token} (spelled : Spelled ts) (depth : Nat) (inLine : Bool) :
    Spaced ts (layout depth inLine ts) := by
  induction depth, inLine, ts using layout.induct with
  | case1 => exact .nil
  | case2 depth inLine ts hypothesis =>
    exact .mark (m := .openBrace) (.mark (m := .closeBrace) (hypothesis spelled.tail.tail))
  | case3 depth inLine ts hypothesis =>
    exact .mark (m := .openBracket)
      (.mark (m := .closeBracket) (hypothesis spelled.tail.tail))
  | case4 depth inLine ts filled hypothesis =>
    rw [layout]
    · exact .mark (m := .openBrace) ((hypothesis spelled.tail).append_space (space_newline _))
    · exact filled
  | case5 depth inLine ts filled short hypothesis =>
    rw [layout, if_pos short]
    · exact .mark (m := .openBracket) (hypothesis spelled.tail)
    · exact filled
  | case6 depth inLine ts filled long hypothesis =>
    rw [layout, if_neg long]
    · exact .mark (m := .openBracket) ((hypothesis spelled.tail).append_space (space_newline _))
    · exact filled
  | case7 depth inLine ts hypothesis =>
    exact Spaced.append_space (space_newline _) (.mark (m := .closeBrace) (hypothesis spelled.tail))
  | case8 depth ts hypothesis =>
    exact .mark (m := .closeBracket) (hypothesis spelled.tail)
  | case9 depth inLine ts outside hypothesis =>
    rw [layout, if_neg outside]
    exact Spaced.append_space (space_newline _)
      (.mark (m := .closeBracket) (hypothesis spelled.tail))
  | case10 depth inLine ts hypothesis =>
    have blank : JsonText.Space (if inLine then [' '] else newline depth) := by
      split
      · exact fun c member => by rw [List.mem_singleton.mp member]; rfl
      · exact space_newline depth
    exact .mark (m := .comma) ((hypothesis spelled.tail).append_space blank)
  | case11 depth inLine ts hypothesis =>
    exact .mark (m := .colon) (.space rfl (hypothesis spelled.tail))
  | case12 depth inLine body ts hypothesis =>
    exact .string (spelled.2 _ List.mem_cons_self) (hypothesis spelled.tail)
  | case13 depth inLine word ts hypothesis =>
    exact .plain (spelled.2 _ List.mem_cons_self)
      (layout_head (fun other => spelled.1.1 word other rfl) depth inLine)
      (hypothesis spelled.tail)

end Layout

section Blanks

theorem isSpace_of_json {c : Char} (blank : JsonText.isSpace c = true) : isSpace c = true := by
  simp only [JsonText.isSpace, Bool.or_eq_true, decide_eq_true_eq] at blank
  rcases blank with ((rfl | rfl) | rfl) | rfl <;> rfl

theorem solid_of_isLiteral {word : Text} (shaped : isLiteral word = true) :
    ∀ c ∈ word, isSpace c = false := by
  intro c member
  rcases (letters_of_isLiteral shaped).2 c member with digit | letter
  · simp only [JsonText.inNumber, Bool.or_eq_true] at digit
    rcases digit with digit | sign
    · simp only [Char.isDigit, Bool.and_eq_true, decide_eq_true_eq] at digit
      have low : 48 ≤ c.toNat := digit.1
      have high : c.toNat ≤ 57 := digit.2
      simp only [isSpace, Chars.isWhitespace, Chars.within, List.any_cons, List.any_nil,
        Bool.or_false, Bool.or_eq_false_iff, Bool.and_eq_false_iff, decide_eq_false_iff_not]
      omega
    · have all : "+-.eE".toList.all (fun c => !isSpace c) = true := by rfl
      simpa using List.all_eq_true.mp all c (of_decide_eq_true sign)
  · have all : literalLetters.all (fun c => !isSpace c) = true := by rfl
    simpa using List.all_eq_true.mp all c letter

theorem isSpace_char (m : Mark) : isSpace m.char = false := by
  cases m <;> rfl

theorem quoted_last {body : Text} (quoted : Quoted body) : body.getLast? = some '"' := by
  induction quoted with
  | close => rfl
  | plain _ _ _ _ hypothesis => rw [List.getLast?_cons, hypothesis]; rfl
  | short _ _ hypothesis => simp [List.getLast?_cons, hypothesis]
  | unit _ _ hypothesis => simp [List.getLast?_cons, hypothesis]

/-- No token begins or ends with space. -/
theorem solid_ends {t : Token} (shaped : t.Shaped) :
    t.text ≠ [] ∧ (∀ c, t.text.head? = some c → isSpace c = false) ∧
      ∀ c, t.text.getLast? = some c → isSpace c = false := by
  cases t with
  | mark m =>
    refine ⟨List.cons_ne_nil _ _, ?_, ?_⟩
    · intro c first
      cases first
      exact isSpace_char m
    · intro c last
      cases last
      exact isSpace_char m
  | string body =>
    refine ⟨List.cons_ne_nil _ _, ?_, ?_⟩
    · intro c first
      cases first
      rfl
    · intro c last
      have same : c = '"' := by
        simpa [Token.text, List.getLast?_cons, quoted_last shaped, eq_comm] using last
      rw [same]
      rfl
  | plain word =>
    have solid := solid_of_isLiteral shaped
    exact ⟨(letters_of_isLiteral shaped).1, fun c first => solid c (List.mem_of_head? first),
      fun c last => solid c (List.mem_of_getLast? last)⟩

theorem trim_token {t : Token} (shaped : t.Shaped) {front back : Text}
    (white : ∀ c ∈ front, isSpace c = true) (white' : ∀ c ∈ back, isSpace c = true) :
    Browser.trim (front ++ (t.text ++ back)) = t.text := by
  obtain ⟨filled, first, last⟩ := solid_ends shaped
  obtain ⟨c, rest, shape⟩ := List.exists_cons_of_ne_nil filled
  have start : (front ++ (t.text ++ back)).dropWhile isSpace = t.text ++ back := by
    rw [List.dropWhile_append_of_pos white, shape, List.cons_append,
      List.dropWhile_cons_of_neg (by rw [first c (by rw [shape]; rfl)]; exact Bool.false_ne_true)]
  rw [Browser.trim, start, List.rdropWhile, List.reverse_append,
    List.dropWhile_append_of_pos (fun c member => white' c (List.mem_reverse.mp member)),
    ← List.rdropWhile, List.rdropWhile_eq_self_iff]
  intro _
  rw [last _ (List.getLast?_eq_some_getLast filled)]
  exact Bool.false_ne_true

/-- Dropping the space in front of spelled tokens leaves the first one at the head. -/
theorem dropWhile_spaced {t : Token} {ts : List Token} {text : Text}
    (spaced : Spaced (t :: ts) text) :
    ∃ space behind, text = space ++ (t.text ++ behind) ∧ (∀ c ∈ space, isSpace c = true) ∧
      text.dropWhile isSpace = t.text ++ behind ∧ Spaced ts behind := by
  obtain ⟨space, behind, rfl, blanks, later⟩ := spaced.cut
  have white : ∀ c ∈ space, isSpace c = true := fun c member => isSpace_of_json (blanks c member)
  obtain ⟨filled, first, -⟩ := solid_ends (spaced.shaped t List.mem_cons_self)
  obtain ⟨c, rest, shape⟩ := List.exists_cons_of_ne_nil filled
  refine ⟨space, behind, rfl, white, ?_, later⟩
  rw [List.dropWhile_append_of_pos white, shape, List.cons_append,
    List.dropWhile_cons_of_neg (by rw [first c (by rw [shape]; rfl)]; exact Bool.false_ne_true)]

end Blanks

section Scanning

theorem stringEnd_quoted {body : Text} (quoted : Quoted body) (rest : Text) :
    stringEnd (body ++ rest) = (body, rest) := by
  induction quoted with
  | close => rfl
  | @plain c body no_quote no_escape _ _ hypothesis =>
    rw [List.cons_append, stringEnd]
    · rw [hypothesis]
    · exact fun _ _ same => absurd same no_escape
    · exact no_quote
  | short _ _ hypothesis => simp only [List.cons_append, stringEnd, hypothesis]
  | @unit a b c d body digits _ hypothesis =>
    have solid : ∀ e, (JsonText.hexDigit e).isSome = true → e ≠ '"' ∧ e ≠ '\\' := by
      intro e digit
      constructor
      · rintro rfl
        cases digit
      · rintro rfl
        cases digit
    simp only [List.all_cons, List.all_nil, Bool.and_true, Bool.and_eq_true] at digits
    have one : ∀ e, (JsonText.hexDigit e).isSome = true → ∀ text : Text,
        stringEnd (e :: text) = (e :: (stringEnd text).1, (stringEnd text).2) := by
      intro e digit text
      rw [stringEnd]
      · exact fun _ _ same => absurd same (solid e digit).2
      · exact (solid e digit).1
    simp only [List.cons_append, stringEnd]
    rw [one a digits.1, one b digits.2.1, one c digits.2.2.1, one d digits.2.2.2, hypothesis]

theorem prettyFrom_space {space : Text} (white : ∀ c ∈ space, isSpace c = true) (depth : Nat)
    (text : Text) : prettyFrom depth (space ++ text) = prettyFrom depth text := by
  induction space with
  | nil => rfl
  | cons c space hypothesis =>
    obtain ⟨blank, later⟩ := List.forall_mem_cons.mp white
    rw [List.cons_append, prettyFrom, if_pos blank, hypothesis later]

theorem ne_char_of_bare {c : Char} (bare : isBare c = true) (m : Mark) : c ≠ m.char := by
  rintro rfl
  have no_mark := ((isBare_iff m.char).mp bare).2.1
  rw [markOf_char] at no_mark
  cases no_mark

theorem prettyFrom_word {word : Text} (shaped : ∀ c ∈ word, isSpace c = false ∧ isBare c = true)
    (depth : Nat) (text : Text) :
    prettyFrom depth (word ++ text) = word ++ prettyFrom depth text := by
  induction word with
  | nil => rfl
  | cons c word hypothesis =>
    obtain ⟨⟨solid, bare⟩, later⟩ := List.forall_mem_cons.mp shaped
    have no_quote := ((isBare_iff c).mp bare).2.2
    have apart := ne_char_of_bare bare
    have no_open : ¬(c = '\x7b' ∨ c = '[') := not_or.mpr ⟨apart .openBrace, apart .openBracket⟩
    have no_close : ¬(c = '\x7d' ∨ c = ']') :=
      not_or.mpr ⟨apart .closeBrace, apart .closeBracket⟩
    have no_comma : ¬c = ',' := apart .comma
    have no_colon : ¬c = ':' := apart .colon
    rw [List.cons_append, prettyFrom, solid, if_neg Bool.false_ne_true, if_neg no_quote,
      if_neg no_open, if_neg no_close, if_neg no_comma, if_neg no_colon, hypothesis later]
    rfl

/-- Space, numbers and literals are put to the item that is being read. -/
theorem inlineFrom_skip {part : Text} (inert : ∀ c ∈ part, c ≠ '"' ∧ ∀ m : Mark, c ≠ m.char)
    (item : Text) (items : List Text) (text : Text) :
    inlineFrom item items (part ++ text) = inlineFrom (item ++ part) items text := by
  induction part generalizing item with
  | nil => rw [List.nil_append, List.append_nil]
  | cons c part hypothesis =>
    obtain ⟨⟨no_quote, apart⟩, later⟩ := List.forall_mem_cons.mp inert
    have no_open : ¬(c = '\x7b' ∨ c = '[') := not_or.mpr ⟨apart .openBrace, apart .openBracket⟩
    have no_close : ¬c = ']' := apart .closeBracket
    have no_comma : ¬c = ',' := apart .comma
    rw [List.cons_append, inlineFrom, if_neg no_quote, if_neg no_open, if_neg no_close,
      if_neg no_comma, hypothesis later, List.append_assoc]
    rfl

theorem inert_of_space {c : Char} (blank : isSpace c = true) :
    c ≠ '"' ∧ ∀ m : Mark, c ≠ m.char := by
  constructor
  · rintro rfl
    cases blank
  · rintro m rfl
    rw [isSpace_char] at blank
    cases blank

theorem inert_of_isLiteral {word : Text} (shaped : isLiteral word = true) :
    ∀ c ∈ word, c ≠ '"' ∧ ∀ m : Mark, c ≠ m.char := by
  intro c member
  have bare := isBare_of_isLiteral shaped c member
  exact ⟨((isBare_iff c).mp bare).2.2, ne_char_of_bare bare⟩

theorem inlineFrom_value {t : Token} (shaped : t.Shaped) (value : ∀ m, t ≠ .mark m) (item : Text)
    (items : List Text) (text : Text) :
    inlineFrom item items (t.text ++ text) = inlineFrom (item ++ t.text) items text := by
  cases t with
  | mark m => exact absurd rfl (value m)
  | string body =>
    rw [Token.text, List.cons_append, inlineFrom, if_pos rfl, stringEnd_quoted shaped]
  | plain word => exact inlineFrom_skip (inert_of_isLiteral shaped) item items text

/-- The item before a comma or a closing bracket is the value that is spelled there. -/
theorem pushed_token {t : Token} (shaped : t.Shaped) {front back : Text}
    (white : ∀ c ∈ front, isSpace c = true) (white' : ∀ c ∈ back, isSpace c = true)
    (items : List Text) :
    pushed items (front ++ (t.text ++ back)) = items ++ [t.text] := by
  rw [pushed, trim_token shaped white white', if_neg (solid_ends shaped).1]

/-- A value and the mark behind it: the value is the item when the mark is read. -/
theorem inlineFrom_upTo {t : Token} {m : Mark} {ts : List Token} {text : Text}
    (spaced : Spaced (t :: .mark m :: ts) text) (value : ∀ m, t ≠ .mark m) {item : Text}
    (white : ∀ c ∈ item, isSpace c = true) (items : List Text) :
    ∃ whole behind, Spaced ts behind ∧ pushed items whole = items ++ [t.text] ∧
      inlineFrom item items text = inlineFrom whole items (m.char :: behind) := by
  have shaped := spaced.shaped t List.mem_cons_self
  obtain ⟨space, rest, rfl, blanks, -, spaced'⟩ := dropWhile_spaced spaced
  obtain ⟨space', behind, rfl, blanks', -, later⟩ := dropWhile_spaced spaced'
  have front : ∀ c ∈ item ++ space, isSpace c = true :=
    fun c member => (List.mem_append.mp member).elim (white c) (blanks c)
  refine ⟨item ++ space ++ (t.text ++ space'), behind, later,
    pushed_token shaped front blanks' items, ?_⟩
  rw [inlineFrom_skip (fun c member => inert_of_space (blanks c member)),
    inlineFrom_value shaped value,
    inlineFrom_skip (fun c member => inert_of_space (blanks' c member)), List.append_assoc]
  rfl

/-- What stands behind a value of an array. -/
theorem accepts_array {stack : List Frame} {expect : Expect} {t : Token} {ts : List Token}
    (accepted : accepts (.array :: stack) expect (t :: ts) = true)
    (expects : expect = .value ∨ expect = .firstItem) (value : ∀ m, t ≠ .mark m) :
    (∃ ts', ts = .mark .comma :: ts' ∧ accepts (.array :: stack) .value ts' = true) ∨
      ∃ ts', ts = .mark .closeBracket :: ts' ∧ accepts stack .after ts' = true := by
  have moved : accepts (.array :: stack) .after ts = true := by
    rcases expects with rfl | rfl <;> cases t with
    | mark m => exact absurd rfl (value m)
    | string body => exact accepted
    | plain word => exact accepted
  cases ts with
  | nil => cases moved
  | cons t' ts =>
    cases t' with
    | string body => cases moved
    | plain word => cases moved
    | mark m =>
      cases m with
      | comma => exact Or.inl ⟨ts, rfl, moved⟩
      | closeBracket => exact Or.inr ⟨ts, rfl, moved⟩
      | openBrace | closeBrace | openBracket | colon => cases moved

/-- What the scan of an array finds is what its tokens are. -/
theorem inlineFrom_spaced {ts : List Token} {text : Text} (spaced : Spaced ts text)
    {stack : List Frame} {expect : Expect} (accepted : accepts (.array :: stack) expect ts = true)
    (expects : expect = .value ∨ expect = .firstItem)
    (filled : expect = .firstItem → ts.head? ≠ some (.mark .closeBracket))
    {item : Text} (white : ∀ c ∈ item, isSpace c = true) (items : List Text) :
    (plainItems ts = none → inlineFrom item items text = none) ∧
      ∀ more later, plainItems ts = some (more, later) →
        accepts stack .after later = true ∧
          ∃ behind, Spaced later behind ∧
            inlineFrom item items text = onLine (items ++ more) behind := by
  induction ts using plainItems.induct generalizing text expect item items with
  | case1 m ts =>
    refine ⟨fun _ => ?_, fun more later found => nomatch found⟩
    have opens : m = .openBrace ∨ m = .openBracket := by
      rcases expects with rfl | rfl
      · cases m <;> first | cases accepted | exact Or.inl rfl | exact Or.inr rfl
      · cases m <;> first | cases accepted | exact Or.inl rfl | exact Or.inr rfl | skip
        exact absurd rfl (filled rfl)
    obtain ⟨space, behind, rfl, blanks, -, -⟩ := dropWhile_spaced spaced
    have open_char : m.char = '\x7b' ∨ m.char = '[' := by
      rcases opens with rfl | rfl
      · exact Or.inl rfl
      · exact Or.inr rfl
    have no_quote : ¬m.char = '"' := by cases m <;> decide
    rw [inlineFrom_skip (fun c member => inert_of_space (blanks c member)), Token.text,
      List.singleton_append, inlineFrom, if_neg no_quote, if_pos open_char]
  | case2 t ts value hypothesis =>
    rcases accepts_array accepted expects value with ⟨ts', same, accepted'⟩ | ⟨_, same, _⟩
    · cases same
      obtain ⟨whole, behind, later, push, skipped⟩ := inlineFrom_upTo spaced value white items
      have next := hypothesis later accepted' (Or.inl rfl) (fun first => by cases first)
        (fun c member => absurd member List.not_mem_nil) (items ++ [t.text])
      have comma : inlineFrom item items text = inlineFrom [] (items ++ [t.text]) behind := by
        rw [skipped, show Mark.comma.char = ',' from rfl, inlineFrom, if_neg (by decide),
          if_neg (by decide), if_neg (by decide), if_pos rfl, push]
      rw [plainItems, comma]
      · constructor
        · intro missing
          exact next.1 (Option.map_eq_none_iff.mp missing)
        · intro more rest found
          obtain ⟨⟨inner, tail⟩, inside, same⟩ := Option.map_eq_some_iff.mp found
          cases same
          obtain ⟨closed, rest, spelled, result⟩ := next.2 inner tail inside
          exact ⟨closed, rest, spelled, by rw [result, List.append_assoc]; rfl⟩
      · exact value
    · cases same
  | case3 t ts value =>
    have closed : accepts stack .after ts = true := by
      rcases accepts_array accepted expects value with ⟨_, same, _⟩ | ⟨_, same, closed⟩
      · cases same
      · cases same
        exact closed
    obtain ⟨whole, behind, later, push, skipped⟩ := inlineFrom_upTo spaced value white items
    have close : inlineFrom item items text = onLine (items ++ [t.text]) behind := by
      rw [skipped, show Mark.closeBracket.char = ']' from rfl, inlineFrom, if_neg (by decide),
        if_neg (by decide), if_pos rfl, push]
    rw [plainItems, close]
    · constructor
      · intro missing
        cases missing
      · intro more rest found
        cases found
        exact ⟨closed, behind, later, rfl⟩
    · exact value
  | case4 ts no_mark no_comma no_close =>
    exfalso
    cases ts with
    | nil => cases accepted
    | cons t ts =>
      rcases accepts_array accepted expects (fun m same => no_mark m ts (by rw [same])) with
        ⟨ts', same, -⟩ | ⟨ts', same, -⟩
      · exact no_comma t ts' (by rw [same])
      · exact no_close t ts' (by rw [same])

end Scanning

section Formatting

/-- The tokens behind an array's opening bracket, laid out on the line. -/
theorem layout_inLine {ts : List Token} {items : List Text} {later : List Token}
    (found : plainItems ts = some (items, later)) (depth : Nat) :
    layout depth true ts = join ", ".toList items ++ ']' :: layout depth false later ∧
      items ≠ [] ∧ later.length < ts.length := by
  induction ts using plainItems.induct generalizing items later with
  | case1 m ts => cases found
  | case2 t ts value hypothesis =>
    rw [plainItems] at found
    · obtain ⟨⟨inner, tail⟩, inside, same⟩ := Option.map_eq_some_iff.mp found
      cases same
      obtain ⟨line, filled, shorter⟩ := hypothesis inside
      obtain ⟨first, more, rfl⟩ := List.exists_cons_of_ne_nil filled
      have head : layout depth true (t :: .mark .comma :: ts) =
          t.text ++ ", ".toList ++ layout depth true ts := by
        cases t with
        | mark m => exact absurd rfl (value m)
        | string body => simp [layout, Token.text]
        | plain word => simp [layout, Token.text]
      refine ⟨?_, List.cons_ne_nil _ _, ?_⟩
      · rw [head, line]
        simp [join, List.intercalate_cons_cons]
      · simp only [List.length_cons]
        omega
    · exact value
  | case3 t ts value =>
    rw [plainItems] at found
    · cases found
      have head : layout depth true (t :: .mark .closeBracket :: ts) =
          t.text ++ ']' :: layout depth false ts := by
        cases t with
        | mark m => exact absurd rfl (value m)
        | string body => simp [layout, Token.text]
        | plain word => simp [layout, Token.text]
      refine ⟨?_, List.cons_ne_nil _ _, ?_⟩
      · rw [head]
        simp [join]
      · simp only [List.length_cons]
        omega
    · exact value
  | case4 ts no_mark no_comma no_close =>
    rw [plainItems] at found
    · cases found
    · exact no_mark
    · exact no_comma
    · exact no_close

theorem spaced_dropWhile {ts : List Token} {text : Text} (spaced : Spaced ts text) :
    Spaced ts (text.dropWhile isSpace) := by
  induction spaced with
  | nil => exact .nil
  | space blank _ hypothesis =>
    rw [List.dropWhile_cons_of_pos (isSpace_of_json blank)]
    exact hypothesis
  | @mark m ts text rest _ =>
    rw [List.dropWhile_cons_of_neg (by rw [isSpace_char]; exact Bool.false_ne_true)]
    exact .mark rest
  | string quoted rest _ =>
    rw [List.dropWhile_cons_of_neg (by decide)]
    exact .string quoted rest
  | @plain word ts text shaped ends rest _ =>
    obtain ⟨c, more, rfl⟩ := List.exists_cons_of_ne_nil (letters_of_isLiteral shaped).1
    rw [List.cons_append, List.dropWhile_cons_of_neg
      (by rw [solid_of_isLiteral shaped c List.mem_cons_self]; exact Bool.false_ne_true)]
    exact .plain shaped ends rest

theorem prettyFrom_open {c : Char} (opens : c = '\x7b' ∨ c = '[') {rest : Text}
    (filled : (rest.dropWhile isSpace).head? ≠ some (closer c)) (depth : Nat) :
    prettyFrom depth (c :: rest) =
      match if c = '[' then inlineArray rest else none with
      | some (line, behind) => line ++ prettyFrom depth behind
      | none => c :: (newline (depth + 1) ++ prettyFrom (depth + 1) rest) := by
  have solid : ¬isSpace c = true := by rcases opens with rfl | rfl <;> decide
  have no_quote : ¬c = '"' := by rcases opens with rfl | rfl <;> decide
  rw [prettyFrom, if_neg solid, if_neg no_quote, if_pos opens, if_neg filled]
  split <;> rename_i found <;> rw [found]

theorem prettyFrom_empty {c : Char} (opens : c = '\x7b' ∨ c = '[') {rest behind : Text}
    (closes : rest.dropWhile isSpace = closer c :: behind) (depth : Nat) :
    prettyFrom depth (c :: rest) = c :: closer c :: prettyFrom depth behind := by
  have solid : ¬isSpace c = true := by rcases opens with rfl | rfl <;> decide
  have no_quote : ¬c = '"' := by rcases opens with rfl | rfl <;> decide
  rw [prettyFrom, if_neg solid, if_neg no_quote, if_pos opens, closes,
    if_pos List.head?_cons, List.tail_cons]

/-- The next character is a mark's only where the next token is that mark. -/
theorem head_dropWhile {ts : List Token} {text : Text} (spaced : Spaced ts text) {m : Mark}
    (head : (text.dropWhile isSpace).head? = some m.char) : ts.head? = some (.mark m) := by
  cases ts with
  | nil =>
    have white : ∀ c ∈ text, isSpace c = true :=
      fun c member => isSpace_of_json (spaced.blank c member)
    rw [List.dropWhile_eq_nil_iff.mpr white] at head
    cases head
  | cons t ts =>
    obtain ⟨space, behind, -, -, rest, -⟩ := dropWhile_spaced spaced
    rw [rest] at head
    cases t with
    | mark m' =>
      have same : markOf m'.char = markOf m.char := congrArg markOf (Option.some.inj head)
      rw [markOf_char, markOf_char] at same
      rw [Option.some.inj same]
      rfl
    | string body =>
      have same := markOf_char m
      rw [← Option.some.inj head] at same
      cases same
    | plain word =>
      have shaped := spaced.shaped _ List.mem_cons_self
      obtain ⟨c, more, rfl⟩ := List.exists_cons_of_ne_nil (letters_of_isLiteral shaped).1
      exact absurd (Option.some.inj head)
        (ne_char_of_bare (isBare_of_isLiteral shaped c List.mem_cons_self) m)

theorem exists_of_accepts {stack : List Frame} {expect : Expect} {t : Token} {ts : List Token}
    (accepted : accepts stack expect (t :: ts) = true) :
    ∃ next, step stack expect t = some next ∧ accepts next.1 next.2 ts = true := by
  rw [accepts] at accepted
  split at accepted
  · rename_i next found
    exact ⟨next, found, accepted⟩
  · cases accepted

/-- The formatter writes what the tokens' layout is. -/
theorem prettyFrom_spaced {ts : List Token} {text : Text} (spaced : Spaced ts text)
    {stack : List Frame} {expect : Expect} (accepted : accepts stack expect ts = true)
    (depth : Nat) : prettyFrom depth text = layout depth false ts := by
  generalize size : ts.length = n
  induction n using Nat.strongRecOn generalizing ts text stack expect depth with
  | _ n hypothesis =>
    cases ts with
    | nil =>
      have white : ∀ c ∈ text, isSpace c = true :=
        fun c member => isSpace_of_json (spaced.blank c member)
      have blank := prettyFrom_space white depth []
      rw [List.append_nil] at blank
      rw [blank, prettyFrom]
      rfl
    | cons t ts =>
      obtain ⟨space, behind, rfl, white, -, later⟩ := dropWhile_spaced spaced
      rw [List.length_cons] at size
      obtain ⟨next, stepped, accepted'⟩ := exists_of_accepts accepted
      have rest : ∀ depth, prettyFrom depth behind = layout depth false ts :=
        fun depth => hypothesis ts.length (by omega) later accepted' depth rfl
      rw [prettyFrom_space white]
      cases t with
      | plain word =>
        have shaped := spaced.shaped _ List.mem_cons_self
        rw [Token.text, prettyFrom_word (fun c member =>
          ⟨solid_of_isLiteral shaped c member, isBare_of_isLiteral shaped c member⟩), rest]
        rfl
      | string body =>
        have quoted := spaced.shaped _ List.mem_cons_self
        rw [Token.text, List.cons_append, prettyFrom, if_neg (by decide), if_pos rfl,
          stringEnd_quoted quoted, rest]
        rfl
      | mark m =>
        cases m with
        | comma =>
          rw [Token.text, List.singleton_append, show Mark.comma.char = ',' from rfl, prettyFrom,
            if_neg (by decide), if_neg (by decide), if_neg (by decide), if_neg (by decide),
            if_pos rfl, rest]
          rfl
        | colon =>
          rw [Token.text, List.singleton_append, show Mark.colon.char = ':' from rfl, prettyFrom,
            if_neg (by decide), if_neg (by decide), if_neg (by decide), if_neg (by decide),
            if_neg (by decide), if_pos rfl, rest]
          rfl
        | closeBrace =>
          rw [Token.text, List.singleton_append, show Mark.closeBrace.char = '\x7d' from rfl,
            prettyFrom, if_neg (by decide), if_neg (by decide), if_neg (by decide),
            if_pos (Or.inl rfl), rest]
          rfl
        | closeBracket =>
          rw [Token.text, List.singleton_append, show Mark.closeBracket.char = ']' from rfl,
            prettyFrom, if_neg (by decide), if_neg (by decide), if_neg (by decide),
            if_pos (Or.inr rfl), rest]
          rfl
        | openBrace =>
          rw [Token.text, List.singleton_append, show Mark.openBrace.char = '\x7b' from rfl]
          by_cases closes : ts.head? = some (.mark .closeBrace)
          · obtain ⟨ts, rfl⟩ := List.head?_eq_some_iff.mp closes
            obtain ⟨_, last, -, -, found, behind_end⟩ := dropWhile_spaced later
            obtain ⟨next', -, accepted_end⟩ := exists_of_accepts accepted'
            rw [List.length_cons] at size
            have close : behind.dropWhile isSpace = closer '\x7b' :: last := found
            rw [prettyFrom_empty (Or.inl rfl) close,
              hypothesis ts.length (by omega) behind_end accepted_end depth rfl]
            rfl
          · rw [prettyFrom_open (Or.inl rfl) (fun head => closes (head_dropWhile later head)),
              if_neg (by decide), rest, layout]
            exact fun ts' same => closes (by rw [same]; rfl)
        | openBracket =>
          rw [Token.text, List.singleton_append, show Mark.openBracket.char = '[' from rfl]
          by_cases closes : ts.head? = some (.mark .closeBracket)
          · obtain ⟨ts, rfl⟩ := List.head?_eq_some_iff.mp closes
            obtain ⟨_, last, -, -, found, behind_end⟩ := dropWhile_spaced later
            obtain ⟨next', -, accepted_end⟩ := exists_of_accepts accepted'
            rw [List.length_cons] at size
            have close : behind.dropWhile isSpace = closer '[' :: last := found
            rw [prettyFrom_empty (Or.inr rfl) close,
              hypothesis ts.length (by omega) behind_end accepted_end depth rfl]
            rfl
          · have inside : next = (.array :: stack, .firstItem) := by
              cases expect <;> cases stepped <;> rfl
            rw [inside] at accepted'
            have scan := inlineFrom_spaced (spaced_dropWhile later) accepted' (Or.inr rfl)
              (fun _ => closes)
              (fun c (member : c ∈ ([] : Text)) => absurd member List.not_mem_nil) []
            rw [prettyFrom_open (Or.inr rfl) (fun head => closes (head_dropWhile later head)),
              if_pos rfl, layout, fits]
            · cases items : plainItems ts with
              | none =>
                rw [show inlineArray behind = none from scan.1 items, rest]
                rfl
              | some read =>
                obtain ⟨ended, last, spelled, found⟩ := scan.2 read.1 read.2 items
                obtain ⟨line, -, shorter⟩ := layout_inLine items depth
                rw [inlineArray, found, onLine, List.nil_append]
                by_cases short : unitLength (joined read.1) ≤ INLINE_ARRAY_LIMIT
                · simp only [if_pos short, decide_eq_true short, if_true]
                  rw [hypothesis read.2.length (by omega) spelled ended depth rfl, line, joined]
                  simp
                · simp only [if_neg short, decide_eq_false short, rest, Bool.false_eq_true,
                    if_false]
            · exact fun ts' same => closes (by rw [same]; rfl)

/-- Formatting keeps every token as it is spelled, and formats what is formatted to itself. -/
theorem prettyJson_keeps {text out : Text} (pretty : prettyJson text = some out) :
    (∃ ts, tokens text = some ts ∧ tokens out = some ts) ∧ prettyJson out = some out := by
  unfold prettyJson at pretty
  split at pretty
  · rename_i m ts scanned
    split at pretty
    · rename_i accepted
      cases pretty
      have spaced := spaced_of_tokens scanned
      have written := prettyFrom_spaced spaced accepted 0
      have spelled : Spelled (.mark m :: ts) := ⟨separated_of_accepts accepted, spaced.shaped⟩
      have again := spaced_layout spelled 0 false
      rw [← written] at again
      have rescanned := tokens_of_spaced again
      refine ⟨⟨_, scanned, rescanned⟩, ?_⟩
      simp only [prettyJson, rescanned, accepted, if_true]
      rw [prettyFrom_spaced again accepted, written]
    · cases pretty
  · cases pretty

def shortTokens : List Token :=
  [.mark .openBrace, .string "a\"".toList, .mark .colon, .mark .openBracket, .plain "1".toList,
    .mark .closeBracket, .mark .closeBrace]

theorem spaced_short : Spaced shortTokens "\x7b\"a\":[ 1]\x7d".toList :=
  .mark (m := .openBrace) (.string (.plain (by decide) (by decide) (by decide) .close)
    (.mark (m := .colon) (.mark (m := .openBracket) (.space rfl (@Spaced.plain "1".toList _ _ rfl
      (fun c first => by cases first; rfl)
      (.mark (m := .closeBracket) (.mark (m := .closeBrace) .nil)))))))

theorem short_keeps :
    (∃ ts, tokens "\x7b\"a\":[ 1]\x7d".toList = some ts ∧
        tokens "\x7b\n  \"a\": [1]\n\x7d".toList = some ts) ∧
      prettyJson "\x7b\n  \"a\": [1]\n\x7d".toList = some "\x7b\n  \"a\": [1]\n\x7d".toList := by
  refine prettyJson_keeps ?_
  have scanned := tokens_of_spaced spaced_short
  have accepted : isDocument shortTokens = true := by decide
  rw [shortTokens] at scanned accepted
  simp only [prettyJson, scanned, accepted, if_true, Option.some.injEq]
  rw [prettyFrom_spaced spaced_short accepted]
  decide

end Formatting

end DbFree.PrettyJson
