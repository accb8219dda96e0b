import DbFree.JsonText

/- JSON texts as tokens: a scanner, what it takes for the spelling of a token list, and an
automaton for the token lists that are documents. Tokens keep their spelling. -/
namespace DbFree.JsonTokens

open JsonText (Word Space isSpace isNumber inNumber hexDigit shortEscape)

inductive Mark where
  | openBrace
  | closeBrace
  | openBracket
  | closeBracket
  | comma
  | colon
deriving DecidableEq

def Mark.char : Mark → Char
  | .openBrace => '\x7b'
  | .closeBrace => '\x7d'
  | .openBracket => '['
  | .closeBracket => ']'
  | .comma => ','
  | .colon => ':'

def markOf (c : Char) : Option Mark :=
  match c with
  | '\x7b' => some .openBrace
  | '\x7d' => some .closeBrace
  | '[' => some .openBracket
  | ']' => some .closeBracket
  | ',' => some .comma
  | ':' => some .colon
  | _ => none

/-- A string's body has its closing quote; a plain token is a number or a literal. -/
inductive Token where
  | mark (mark : Mark)
  | string (body : Word)
  | plain (word : Word)
deriving DecidableEq

def Token.text : Token → Word
  | .mark m => [m.char]
  | .string body => '"' :: body
  | .plain word => word

section Scanning

def isLiteral (word : Word) : Bool :=
  word = "null".toList || word = "true".toList || word = "false".toList || isNumber word

/-- A character that goes on with a number or a literal. -/
def isBare (c : Char) : Bool := !isSpace c && (markOf c).isNone && c ≠ '"'

/-- The body of a string up to its closing quote, and what is behind that. -/
def readString : Word → Option (Word × Word)
  | [] => none
  | '"' :: rest => some (['"'], rest)
  | '\\' :: 'u' :: a :: b :: c :: d :: rest =>
    if [a, b, c, d].all fun digit => (hexDigit digit).isSome then
      (readString rest).map fun read => ('\\' :: 'u' :: a :: b :: c :: d :: read.1, read.2)
    else none
  | '\\' :: letter :: rest =>
    if (shortEscape letter).isSome then
      (readString rest).map fun read => ('\\' :: letter :: read.1, read.2)
    else none
  | c :: rest =>
    if c = '\\' || decide (c.toNat < 0x20) then none
    else (readString rest).map fun read => (c :: read.1, read.2)

/-- A string's body, the closing quote included. -/
inductive Quoted : Word → Prop where
  | close : Quoted ['"']
  | plain {c : Char} {body : Word} (no_quote : c ≠ '"') (no_escape : c ≠ '\\')
      (printable : 0x20 ≤ c.toNat) (rest : Quoted body) : Quoted (c :: body)
  | short {letter : Char} {body : Word} (stands : (shortEscape letter).isSome = true)
      (rest : Quoted body) : Quoted ('\\' :: letter :: body)
  | unit {a b c d : Char} {body : Word}
      (digits : ([a, b, c, d].all fun digit => (hexDigit digit).isSome) = true)
      (rest : Quoted body) : Quoted ('\\' :: 'u' :: a :: b :: c :: d :: body)

theorem readString_append {body : Word} (quoted : Quoted body) (rest : Word) :
    readString (body ++ rest) = some (body, rest) := by
  induction quoted with
  | close => rfl
  | @plain c body no_quote no_escape printable _ hypothesis =>
    have allowed : (c = '\\' || decide (c.toNat < 0x20)) = false := by
      simp [no_escape, Nat.not_lt.mpr printable]
    rw [List.cons_append, readString, allowed, if_neg Bool.false_ne_true, hypothesis]
    · rfl
    · exact no_quote
    · exact fun _ _ _ _ _ same => absurd same no_escape
    · exact fun _ _ same => absurd same no_escape
  | @short letter body stands _ hypothesis =>
    rw [List.cons_append, List.cons_append, readString, if_pos stands, hypothesis]
    · rfl
    · intro a b c d later same
      rw [same] at stands
      cases stands
  | @unit a b c d body digits _ hypothesis =>
    simp only [List.cons_append]
    rw [readString, if_pos digits, hypothesis]
    rfl

theorem quoted_readString {text body rest : Word} (read : readString text = some (body, rest)) :
    Quoted body ∧ text = body ++ rest := by
  induction text using readString.induct generalizing body with
  | case1 => cases read
  | case2 tail =>
    cases read
    exact ⟨.close, rfl⟩
  | case3 a b c d tail digits hypothesis =>
    rw [readString, if_pos digits] at read
    obtain ⟨⟨inner, behind⟩, found, same⟩ := Option.map_eq_some_iff.mp read
    cases same
    obtain ⟨quoted, shape⟩ := hypothesis found
    exact ⟨.unit digits quoted, by rw [shape]; rfl⟩
  | case4 a b c d tail digits =>
    rw [readString, if_neg digits] at read
    cases read
  | case5 letter tail no_unit stands hypothesis =>
    rw [readString, if_pos stands] at read
    · obtain ⟨⟨inner, behind⟩, found, same⟩ := Option.map_eq_some_iff.mp read
      cases same
      obtain ⟨quoted, shape⟩ := hypothesis found
      exact ⟨.short stands quoted, by rw [shape]; rfl⟩
    · exact no_unit
  | case6 letter tail no_unit stands =>
    rw [readString, if_neg stands] at read
    · cases read
    · exact no_unit
  | case7 c tail no_quote no_unit no_short barred =>
    rw [readString, if_pos barred] at read
    · cases read
    · exact no_quote
    · exact no_unit
    · exact no_short
  | case8 c tail no_quote no_unit no_short allowed hypothesis =>
    rw [readString, if_neg allowed] at read
    · obtain ⟨⟨inner, behind⟩, found, same⟩ := Option.map_eq_some_iff.mp read
      cases same
      obtain ⟨quoted, shape⟩ := hypothesis found
      simp only [Bool.or_eq_true, decide_eq_true_eq, not_or, Nat.not_lt] at allowed
      exact ⟨.plain no_quote allowed.1 allowed.2 quoted, by rw [shape]; rfl⟩
    · exact no_quote
    · exact no_unit
    · exact no_short

/-- The tokens of a text, if it has nothing else than tokens and space. -/
def tokens (text : Word) : Option (List Token) :=
  match text with
  | [] => some []
  | c :: rest =>
    if isSpace c then tokens rest
    else
      match markOf c with
      | some mark => (tokens rest).map (.mark mark :: ·)
      | none =>
        if c = '"' then
          match _read : readString rest with
          | some (body, behind) => (tokens behind).map (.string body :: ·)
          | none => none
        else if isLiteral (c :: rest.takeWhile isBare) then
          (tokens (rest.dropWhile isBare)).map (.plain (c :: rest.takeWhile isBare) :: ·)
        else none
termination_by text.length
decreasing_by
  · simp
  · simp
  · have shape := congrArg List.length (quoted_readString ‹_›).2
    rw [List.length_append] at shape
    simp only [List.length_cons]
    omega
  · have shorter := (List.dropWhile_suffix (l := rest) isBare).length_le
    simp only [List.length_cons]
    omega

/-- A text that spells the tokens, with space where it likes; a plain token goes as far as it
can. -/
inductive Spaced : List Token → Word → Prop where
  | nil : Spaced [] []
  | space {c : Char} {ts : List Token} {text : Word} (blank : isSpace c = true)
      (rest : Spaced ts text) : Spaced ts (c :: text)
  | mark {m : Mark} {ts : List Token} {text : Word} (rest : Spaced ts text) :
      Spaced (.mark m :: ts) (m.char :: text)
  | string {body : Word} {ts : List Token} {text : Word} (quoted : Quoted body)
      (rest : Spaced ts text) : Spaced (.string body :: ts) ('"' :: (body ++ text))
  | plain {word : Word} {ts : List Token} {text : Word} (shaped : isLiteral word = true)
      (ends : ∀ c, text.head? = some c → isBare c = false) (rest : Spaced ts text) :
      Spaced (.plain word :: ts) (word ++ text)

theorem isBare_iff (c : Char) :
    isBare c = true ↔ isSpace c = false ∧ markOf c = none ∧ c ≠ '"' := by
  simp [isBare, and_assoc]

theorem markOf_char (mark : Mark) : markOf mark.char = some mark := by
  cases mark <;> rfl

theorem isSpace_char (mark : Mark) : isSpace mark.char = false := by
  cases mark <;> rfl

theorem char_of_markOf {c : Char} {mark : Mark} (named : markOf c = some mark) : mark.char = c := by
  unfold markOf at named
  split at named <;> cases named <;> rfl

/-- The letters of the literals. -/
def literalLetters : Word := "nulltruefalse".toList

/-- A number or a literal is not empty, and its characters are those of numbers and literals. -/
theorem letters_of_isLiteral {word : Word} (shaped : isLiteral word = true) :
    word ≠ [] ∧ ∀ c ∈ word, inNumber c = true ∨ c ∈ literalLetters := by
  simp only [isLiteral, Bool.or_eq_true, decide_eq_true_eq] at shaped
  rcases shaped with ((rfl | rfl) | rfl) | number
  · exact ⟨by decide, fun c member => Or.inr (List.mem_append_left "truefalse".toList member)⟩
  · refine ⟨by decide, fun c member => Or.inr ?_⟩
    exact List.mem_append_right "null".toList (List.mem_append_left "false".toList member)
  · refine ⟨by decide, fun c member => Or.inr ?_⟩
    exact List.mem_append_right "nulltrue".toList member
  · obtain ⟨c, rest, shape, -⟩ := JsonText.isNumber_head number
    rw [isNumber, Bool.and_eq_true] at number
    exact ⟨by simp [shape], fun c member => Or.inl (List.all_eq_true.mp number.1 c member)⟩

theorem isBare_of_inNumber {c : Char} (digit : inNumber c = true) : isBare c = true := by
  have apart : ∀ d, inNumber d = false → c ≠ d := by
    rintro d other rfl
    rw [digit] at other
    cases other
  have solid : isSpace c = false := by
    by_contra space
    rw [Bool.not_eq_false] at space
    rw [JsonText.not_inNumber_of_isSpace space] at digit
    cases digit
  have no_mark : markOf c = none := by
    cases named : markOf c with
    | none => rfl
    | some mark =>
      have same := char_of_markOf named
      cases mark <;> exact absurd same.symm (apart _ rfl)
  exact (isBare_iff c).mpr ⟨solid, no_mark, apart '"' rfl⟩

theorem isBare_of_isLiteral {word : Word} (shaped : isLiteral word = true) :
    ∀ c ∈ word, isBare c = true := by
  intro c member
  rcases (letters_of_isLiteral shaped).2 c member with digit | letter
  · exact isBare_of_inNumber digit
  · have all : literalLetters.all isBare = true := by rfl
    exact List.all_eq_true.mp all c letter

theorem tokens_of_spaced {ts : List Token} {text : Word} (spaced : Spaced ts text) :
    tokens text = some ts := by
  induction spaced with
  | nil => rw [tokens]
  | space blank _ hypothesis => rw [tokens, if_pos blank, hypothesis]
  | @mark m ts text _ hypothesis =>
    rw [tokens, isSpace_char, if_neg Bool.false_ne_true]
    simp only [markOf_char, hypothesis]
    rfl
  | @string body ts text quoted _ hypothesis =>
    rw [tokens, if_neg (by decide)]
    have read := readString_append quoted text
    simp only [show markOf '"' = none from rfl, if_true]
    split
    · rename_i found
      rw [read] at found
      cases found
      rw [hypothesis]
      rfl
    · rename_i found
      rw [read] at found
      cases found
  | @plain word ts text shaped ends _ hypothesis =>
    obtain ⟨c, rest, rfl⟩ := List.exists_cons_of_ne_nil (letters_of_isLiteral shaped).1
    have bare := isBare_of_isLiteral shaped
    obtain ⟨solid, no_mark, no_quote⟩ := (isBare_iff c).mp (bare c List.mem_cons_self)
    have all : ∀ d ∈ rest, isBare d = true := fun d member => bare d (List.mem_cons_of_mem c member)
    have stops : text.takeWhile isBare = [] ∧ text.dropWhile isBare = text := by
      cases text with
      | nil => exact ⟨rfl, rfl⟩
      | cons d text =>
        have off := ends d rfl
        simp [off]
    have taken : (rest ++ text).takeWhile isBare = rest := by
      rw [List.takeWhile_append_of_pos all, stops.1, List.append_nil]
    have dropped : (rest ++ text).dropWhile isBare = text := by
      rw [List.dropWhile_append_of_pos all, stops.2]
    rw [List.cons_append, tokens, solid, if_neg Bool.false_ne_true]
    simp only [no_mark, if_neg no_quote, taken, dropped, shaped, if_true, hypothesis]
    rfl

theorem spaced_of_tokens {ts : List Token} {text : Word} (scanned : tokens text = some ts) :
    Spaced ts text := by
  induction text using tokens.induct generalizing ts with
  | case1 =>
    rw [tokens] at scanned
    cases scanned
    exact .nil
  | case2 c rest blank hypothesis =>
    rw [tokens, if_pos blank] at scanned
    exact .space blank (hypothesis scanned)
  | case3 c rest solid mark named hypothesis =>
    rw [tokens, if_neg solid] at scanned
    simp only [named] at scanned
    obtain ⟨more, found, rfl⟩ := Option.map_eq_some_iff.mp scanned
    rw [← char_of_markOf named]
    exact .mark (hypothesis found)
  | case4 rest body behind read solid unnamed hypothesis =>
    rw [tokens, if_neg solid] at scanned
    simp only [unnamed, if_true] at scanned
    split at scanned
    · rename_i found
      rw [read] at found
      cases found
      obtain ⟨more, found, rfl⟩ := Option.map_eq_some_iff.mp scanned
      obtain ⟨quoted, rfl⟩ := quoted_readString read
      exact .string quoted (hypothesis found)
    · cases scanned
  | case5 rest read solid unnamed =>
    rw [tokens, if_neg solid] at scanned
    simp only [unnamed, if_true] at scanned
    split at scanned
    · rename_i found
      rw [read] at found
      cases found
    · cases scanned
  | case6 c rest solid unnamed no_quote shaped hypothesis =>
    rw [tokens, if_neg solid] at scanned
    simp only [unnamed, if_neg no_quote, shaped, if_true] at scanned
    obtain ⟨more, found, rfl⟩ := Option.map_eq_some_iff.mp scanned
    have whole : c :: rest = (c :: rest.takeWhile isBare) ++ rest.dropWhile isBare := by
      rw [List.cons_append, List.takeWhile_append_dropWhile]
    rw [whole]
    refine .plain shaped ?_ (hypothesis found)
    intro d first
    have off := List.head?_dropWhile_not isBare rest
    rw [first] at off
    exact off
  | case7 c rest solid unnamed no_quote shaped =>
    rw [tokens, if_neg solid] at scanned
    simp only [unnamed, if_neg no_quote, if_neg shaped] at scanned
    cases scanned

end Scanning

section Spelling

/-- The token is one of JSON. -/
def Token.Shaped : Token → Prop
  | .mark _ => True
  | .string body => Quoted body
  | .plain word => isLiteral word = true

theorem Spaced.shaped {ts : List Token} {text : Word} (spaced : Spaced ts text) :
    ∀ t ∈ ts, t.Shaped := by
  induction spaced with
  | nil => exact fun t member => absurd member List.not_mem_nil
  | space _ _ hypothesis => exact hypothesis
  | mark _ hypothesis => exact List.forall_mem_cons.mpr ⟨trivial, hypothesis⟩
  | string quoted _ hypothesis => exact List.forall_mem_cons.mpr ⟨quoted, hypothesis⟩
  | plain shaped _ _ hypothesis => exact List.forall_mem_cons.mpr ⟨shaped, hypothesis⟩

/-- What stands at the head of a spelled text: space, and the first token. -/
theorem Spaced.cut {t : Token} {ts : List Token} {text : Word} (spaced : Spaced (t :: ts) text) :
    ∃ space behind, text = space ++ (t.text ++ behind) ∧ Space space ∧ Spaced ts behind := by
  generalize whole : t :: ts = all at spaced
  induction spaced with
  | nil => cases whole
  | @space c _ text blank _ hypothesis =>
    obtain ⟨space, behind, rfl, blanks, later⟩ := hypothesis whole
    exact ⟨c :: space, behind, rfl, List.forall_mem_cons.mpr ⟨blank, blanks⟩, later⟩
  | mark rest _ =>
    cases whole
    exact ⟨[], _, rfl, JsonText.space_nil, rest⟩
  | string _ rest _ =>
    cases whole
    exact ⟨[], _, rfl, JsonText.space_nil, rest⟩
  | plain _ _ rest _ =>
    cases whole
    exact ⟨[], _, rfl, JsonText.space_nil, rest⟩

theorem Spaced.blank {text : Word} (spaced : Spaced [] text) : Space text := by
  generalize none_left : ([] : List Token) = all at spaced
  induction spaced with
  | nil => exact JsonText.space_nil
  | space blank _ hypothesis => exact List.forall_mem_cons.mpr ⟨blank, hypothesis none_left⟩
  | mark => cases none_left
  | string => cases none_left
  | plain => cases none_left

theorem Spaced.append_space {space text : Word} {ts : List Token} (blanks : Space space)
    (spaced : Spaced ts text) : Spaced ts (space ++ text) := by
  induction space with
  | nil => exact spaced
  | cons c space hypothesis =>
    obtain ⟨blank, later⟩ := List.forall_mem_cons.mp blanks
    exact .space blank (hypothesis later)

end Spelling

section Documents

/-- The containers that are open around a token. -/
inductive Frame where
  | array
  | object
deriving DecidableEq

/-- What may stand next. -/
inductive Expect where
  | value
  | firstItem
  | key
  | firstKey
  | colon
  | after
deriving DecidableEq

/-- A closing bracket or brace ends the innermost container. -/
def closed (frame : Frame) : List Frame → Option (List Frame × Expect)
  | innermost :: outer => if innermost = frame then some (outer, .after) else none
  | [] => none

def step (stack : List Frame) : Expect → Token → Option (List Frame × Expect)
  | .value, .plain _ | .value, .string _ | .firstItem, .plain _ | .firstItem, .string _ =>
    some (stack, .after)
  | .value, .mark .openBracket | .firstItem, .mark .openBracket =>
    some (.array :: stack, .firstItem)
  | .value, .mark .openBrace | .firstItem, .mark .openBrace => some (.object :: stack, .firstKey)
  | .firstItem, .mark .closeBracket => closed .array stack
  | .key, .string _ | .firstKey, .string _ => some (stack, .colon)
  | .firstKey, .mark .closeBrace => closed .object stack
  | .colon, .mark .colon => some (stack, .value)
  | .after, .mark .comma =>
    stack.head?.map fun frame => (stack, if frame = .array then .value else .key)
  | .after, .mark .closeBracket => closed .array stack
  | .after, .mark .closeBrace => closed .object stack
  | _, _ => none

/-- The tokens go on to the end of a document. -/
def accepts (stack : List Frame) (expect : Expect) : List Token → Bool
  | [] => stack = [] && expect = .after
  | t :: ts =>
    match step stack expect t with
    | some next => accepts next.1 next.2 ts
    | none => false

/-- A token list that is a document. -/
def isDocument (ts : List Token) : Bool := accepts [] .value ts

/-- No two plain tokens stand side by side. -/
def Separated : List Token → Prop
  | [] => True
  | t :: ts => (∀ word other, t = .plain word → ts.head? ≠ some (.plain other)) ∧ Separated ts

theorem separated_of_accepts {stack : List Frame} {expect : Expect} {ts : List Token}
    (accepted : accepts stack expect ts = true) : Separated ts := by
  induction ts generalizing stack expect with
  | nil => trivial
  | cons t ts hypothesis =>
    rw [accepts] at accepted
    split at accepted
    · rename_i next moved
      refine ⟨?_, hypothesis accepted⟩
      rintro word other rfl first
      obtain ⟨later, rfl⟩ := List.head?_eq_some_iff.mp first
      have after : next.2 = .after := by
        cases expect <;> cases moved <;> rfl
      rw [accepts, after] at accepted
      cases accepted
    · cases accepted

end Documents

end DbFree.JsonTokens
