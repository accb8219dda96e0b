import Mathlib.Data.List.Nodup
import Mathlib.Data.List.TakeWhile

/- JSON documents as texts: the grammar, as a relation between a document and what spells it,
and a reader that reads back every spelling. Numbers are kept as they are written. -/
namespace DbFree.JsonText

abbrev Word := List Char

inductive Doc where
  | null
  | bool (value : Bool)
  | number (literal : Word)
  | string (text : Word)
  | array (items : List Doc)
  | object (members : List (Word × Doc))

def isSpace (c : Char) : Bool := c = ' ' || c = '\t' || c = '\n' || c = '\r'

def Space (text : Word) : Prop := ∀ c ∈ text, isSpace c = true

section Numbers

/-- The characters a number is written with. -/
def inNumber (c : Char) : Bool := c.isDigit || c ∈ "+-.eE".toList

def isExponent : Word → Bool
  | [] => true
  | mark :: rest =>
    let digits := if rest.head? = some '+' ∨ rest.head? = some '-' then rest.tail else rest
    (mark = 'e' || mark = 'E') && !digits.isEmpty && digits.all Char.isDigit

def isFraction (text : Word) : Bool :=
  if text.head? = some '.' then
    text.tail.head?.any Char.isDigit && isExponent (text.tail.dropWhile Char.isDigit)
  else isExponent text

def isUnsigned (text : Word) : Bool :=
  if text.head? = some '0' then isFraction text.tail
  else text.head?.any Char.isDigit && isFraction (text.dropWhile Char.isDigit)

/-- A number: a sign, digits without leading zeros, a fraction and an exponent. -/
def isNumber (text : Word) : Bool :=
  text.all inNumber && isUnsigned (if text.head? = some '-' then text.tail else text)

end Numbers

section Strings

/-- What an escape of one letter stands for. -/
def shortEscape (letter : Char) : Option Char :=
  match letter with
  | '"' => some '"'
  | '\\' => some '\\'
  | '/' => some '/'
  | 'b' => some (Char.ofNat 8)
  | 'f' => some (Char.ofNat 12)
  | 'n' => some '\n'
  | 'r' => some '\r'
  | 't' => some '\t'
  | _ => none

def hexDigit (c : Char) : Option Nat :=
  if c.isDigit then some (c.toNat - '0'.toNat)
  else if 'a' ≤ c ∧ c ≤ 'f' then some (c.toNat - 'a'.toNat + 10)
  else if 'A' ≤ c ∧ c ≤ 'F' then some (c.toNat - 'A'.toNat + 10)
  else none

def hexValue (digits : Word) : Option Nat :=
  digits.foldlM (fun value c => (hexDigit c).map fun digit => value * 16 + digit) 0

def isHigh (unit : Nat) : Bool := 0xD800 ≤ unit && unit < 0xDC00

def isLow (unit : Nat) : Bool := 0xDC00 ≤ unit && unit < 0xE000

/-- Four hexadecimal digits. -/
def readUnit (text : Word) : Option (Nat × Word) :=
  if text.length < 4 then none else (hexValue (text.take 4)).map fun unit => (unit, text.drop 4)

/-- The character of a pair of surrogates. -/
def paired (high low : Nat) : Char :=
  Char.ofNat (0x10000 + (high - 0xD800) * 0x400 + (low - 0xDC00))

/-- An escape, its backslash taken off. -/
inductive Escape : Char → Word → Prop where
  | short {letter c : Char} (stands : shortEscape letter = some c) : Escape c [letter]
  | unit {digits : Word} {unit : Nat} (four : digits.length = 4)
      (value : hexValue digits = some unit) (not_high : isHigh unit = false)
      (not_low : isLow unit = false) : Escape (Char.ofNat unit) ('u' :: digits)
  | pair {digits more : Word} {high low : Nat} (four : digits.length = 4)
      (first : hexValue digits = some high) (is_high : isHigh high = true)
      (four_more : more.length = 4) (second : hexValue more = some low)
      (is_low : isLow low = true) :
      Escape (paired high low) ('u' :: (digits ++ '\\' :: 'u' :: more))

/-- A string and what spells it after its opening quote, the closing one included. -/
inductive Quoted : Word → Word → Prop where
  | close : Quoted [] ['"']
  | plain {c : Char} {text spelled : Word} (no_quote : c ≠ '"') (no_escape : c ≠ '\\')
      (printable : 0x20 ≤ c.toNat) (rest : Quoted text spelled) :
      Quoted (c :: text) (c :: spelled)
  | escape {c : Char} {mark text spelled : Word} (escaped : Escape c mark)
      (rest : Quoted text spelled) : Quoted (c :: text) ('\\' :: (mark ++ spelled))

def readUnicode (text : Word) : Option (Char × Word) := do
  let (unit, rest) ← readUnit text
  if isHigh unit then
    match rest with
    | '\\' :: 'u' :: rest => do
      let (low, rest) ← readUnit rest
      if isLow low then some (paired unit low, rest) else none
    | _ => none
  else if isLow unit then none
  else some (Char.ofNat unit, rest)

def readEscape : Word → Option (Char × Word)
  | [] => none
  | letter :: rest =>
    if letter = 'u' then readUnicode rest else (shortEscape letter).map fun c => (c, rest)

def readString : Nat → Word → Option (Word × Word)
  | 0, _ => none
  | _, [] => none
  | fuel + 1, c :: rest =>
    if c = '"' then some ([], rest)
    else if c = '\\' then do
      let (c, rest) ← readEscape rest
      let (text, rest) ← readString fuel rest
      some (c :: text, rest)
    else if c.toNat < 0x20 then none
    else (readString fuel rest).map fun read => (c :: read.1, read.2)

theorem readUnit_append {digits : Word} {unit : Nat} (four : digits.length = 4)
    (value : hexValue digits = some unit) (rest : Word) :
    readUnit (digits ++ rest) = some (unit, rest) := by
  have enough : ¬(digits ++ rest).length < 4 := by
    rw [List.length_append]
    omega
  rw [readUnit, if_neg enough, ← four, List.take_left, List.drop_left, value]
  rfl

theorem readEscape_append {c : Char} {mark : Word} (escaped : Escape c mark) (rest : Word) :
    readEscape (mark ++ rest) = some (c, rest) := by
  cases escaped with
  | @short letter c stands =>
    have no_unit : letter ≠ 'u' := by
      intro same
      rw [same] at stands
      cases stands
    rw [List.singleton_append, readEscape, if_neg no_unit, stands]
    rfl
  | @unit digits unit four value not_high not_low =>
    rw [List.cons_append, readEscape, if_pos rfl, readUnicode, readUnit_append four value]
    simp [not_high, not_low]
  | @pair digits more high low four first is_high four_more second is_low =>
    rw [List.cons_append, readEscape, if_pos rfl, readUnicode, List.append_assoc,
      readUnit_append four first]
    simp [is_high, readUnit_append four_more second, is_low]

theorem readString_append {text spelled : Word} (quoted : Quoted text spelled) (rest : Word)
    {fuel : Nat} (enough : spelled.length ≤ fuel) :
    readString fuel (spelled ++ rest) = some (text, rest) := by
  induction quoted generalizing fuel with
  | close =>
    obtain ⟨fuel, rfl⟩ := Nat.exists_eq_add_one.mpr enough
    rfl
  | @plain c text spelled no_quote no_escape printable _ hypothesis =>
    rw [List.length_cons] at enough
    obtain ⟨fuel, rfl⟩ := Nat.exists_eq_add_one.mpr (Nat.lt_of_lt_of_le (Nat.succ_pos _) enough)
    rw [List.cons_append, readString, if_neg no_quote, if_neg no_escape,
      if_neg (Nat.not_lt.mpr printable), hypothesis (Nat.le_of_succ_le_succ enough)]
    rfl
  | @escape c mark text spelled escaped _ hypothesis =>
    rw [List.length_cons, List.length_append] at enough
    obtain ⟨fuel, rfl⟩ := Nat.exists_eq_add_one.mpr (Nat.lt_of_lt_of_le (Nat.succ_pos _) enough)
    rw [List.cons_append, readString, if_neg (by decide), if_pos rfl, List.append_assoc,
      readEscape_append escaped]
    simp [hypothesis (show _ ≤ fuel by omega)]

end Strings

section Documents

mutual

/-- The document a text spells, with no space around it. -/
inductive Spells : Doc → Word → Prop where
  | null : Spells .null "null".toList
  | yes : Spells (.bool true) "true".toList
  | no : Spells (.bool false) "false".toList
  | number {literal : Word} (shaped : isNumber literal = true) : Spells (.number literal) literal
  | string {text spelled : Word} (quoted : Quoted text spelled) :
      Spells (.string text) ('"' :: spelled)
  | emptyArray {space : Word} (blank : Space space) : Spells (.array []) ('[' :: (space ++ [']']))
  | array {items : List Doc} {spelled : Word} (inside : SpellsItems items spelled) :
      Spells (.array items) ('[' :: spelled)
  | emptyObject {space : Word} (blank : Space space) :
      Spells (.object []) ('\x7b' :: (space ++ ['\x7d']))
  | object {members : List (Word × Doc)} {spelled : Word}
      (inside : SpellsMembers members spelled) : Spells (.object members) ('\x7b' :: spelled)

/-- Items and what spells them, up to the closing bracket. -/
inductive SpellsItems : List Doc → Word → Prop where
  | last {item : Doc} {before spelled after : Word} (blank : Space before)
      (here : Spells item spelled) (blank_after : Space after) :
      SpellsItems [item] (before ++ (spelled ++ (after ++ [']'])))
  | more {item : Doc} {items : List Doc} {before spelled after rest : Word} (blank : Space before)
      (here : Spells item spelled) (blank_after : Space after) (later : SpellsItems items rest) :
      SpellsItems (item :: items) (before ++ (spelled ++ (after ++ ',' :: rest)))

/-- Members and what spells them, up to the closing brace. -/
inductive SpellsMembers : List (Word × Doc) → Word → Prop where
  | last {name quotes : Word} {value : Doc} {before gap between spelled after : Word}
      (blank : Space before) (quoted : Quoted name quotes) (blank_gap : Space gap)
      (blank_between : Space between) (here : Spells value spelled) (blank_after : Space after) :
      SpellsMembers [(name, value)]
        (before ++ '"' :: (quotes ++ (gap ++ ':' :: (between ++ (spelled ++ (after ++ ['\x7d']))))))
  | more {name quotes : Word} {value : Doc} {members : List (Word × Doc)}
      {before gap between spelled after rest : Word}
      (blank : Space before) (quoted : Quoted name quotes) (blank_gap : Space gap)
      (blank_between : Space between) (here : Spells value spelled) (blank_after : Space after)
      (later : SpellsMembers members rest) :
      SpellsMembers ((name, value) :: members)
        (before ++ '"' ::
          (quotes ++ (gap ++ ':' :: (between ++ (spelled ++ (after ++ ',' :: rest))))))

end

def dropSpace (text : Word) : Word := text.dropWhile isSpace

/-- A literal or a number. -/
def readPlain (text : Word) : Option (Doc × Word) :=
  if "null".toList.isPrefixOf text then some (.null, text.drop 4)
  else if "true".toList.isPrefixOf text then some (.bool true, text.drop 4)
  else if "false".toList.isPrefixOf text then some (.bool false, text.drop 5)
  else
    let literal := text.takeWhile inNumber
    if isNumber literal then some (.number literal, text.dropWhile inNumber) else none

mutual

def readValue : Nat → Word → Option (Doc × Word)
  | 0, _ => none
  | _, [] => none
  | fuel + 1, c :: rest =>
    if c = '"' then (readString fuel rest).map fun read => (.string read.1, read.2)
    else if c = '[' then
      if (dropSpace rest).head? = some ']' then some (.array [], (dropSpace rest).tail)
      else (readItems fuel rest).map fun read => (.array read.1, read.2)
    else if c = '\x7b' then
      if (dropSpace rest).head? = some '\x7d' then some (.object [], (dropSpace rest).tail)
      else (readMembers fuel rest).map fun read => (.object read.1, read.2)
    else readPlain (c :: rest)

def readItems : Nat → Word → Option (List Doc × Word)
  | 0, _ => none
  | fuel + 1, text => do
    let (item, rest) ← readValue fuel (dropSpace text)
    match dropSpace rest with
    | ',' :: rest => (readItems fuel rest).map fun read => (item :: read.1, read.2)
    | ']' :: rest => some ([item], rest)
    | _ => none

def readMembers : Nat → Word → Option (List (Word × Doc) × Word)
  | 0, _ => none
  | fuel + 1, text =>
    match dropSpace text with
    | '"' :: rest => do
      let (name, rest) ← readString fuel rest
      match dropSpace rest with
      | ':' :: rest => do
        let (value, rest) ← readValue fuel (dropSpace rest)
        match dropSpace rest with
        | ',' :: rest =>
          (readMembers fuel rest).map fun read => ((name, value) :: read.1, read.2)
        | '\x7d' :: rest => some ([(name, value)], rest)
        | _ => none
      | _ => none
    | _ => none

end

/-- The document that a whole text spells. -/
def parse (text : Word) : Option Doc := do
  let (doc, rest) ← readValue text.length (dropSpace text)
  if dropSpace rest = [] then some doc else none

end Documents

section Reading

theorem dropSpace_append {space : Word} (blank : Space space) (text : Word) :
    dropSpace (space ++ text) = dropSpace text :=
  List.dropWhile_append_of_pos blank

theorem dropSpace_cons {c : Char} (solid : isSpace c = false) (text : Word) :
    dropSpace (c :: text) = c :: text := by
  rw [dropSpace, List.dropWhile_cons_of_neg (by rw [solid]; exact Bool.false_ne_true)]

/-- What follows does not go on with a number. -/
def Ends (rest : Word) : Prop := ∀ c ∈ rest.head?, inNumber c = false

theorem not_inNumber_of_isSpace {c : Char} (space : isSpace c = true) : inNumber c = false := by
  rw [isSpace] at space
  simp only [Bool.or_eq_true, decide_eq_true_eq] at space
  rcases space with ((rfl | rfl) | rfl) | rfl <;> rfl

theorem ends_space {space : Word} (blank : Space space) {c : Char} (mark : inNumber c = false)
    (rest : Word) : Ends (space ++ c :: rest) := by
  intro d first
  cases space with
  | nil =>
    cases first
    exact mark
  | cons e space =>
    cases first
    exact not_inNumber_of_isSpace (blank _ List.mem_cons_self)

theorem isNumber_head {literal : Word} (shaped : isNumber literal = true) :
    ∃ c rest, literal = c :: rest ∧ inNumber c = true := by
  rw [isNumber, Bool.and_eq_true] at shaped
  cases literal with
  | nil => exact absurd shaped.2 (by decide)
  | cons c rest => exact ⟨c, rest, rfl, List.all_eq_true.mp shaped.1 c List.mem_cons_self⟩

/-- What begins a document: no space, and no bracket that closes. -/
def Begins (c : Char) : Prop := isSpace c = false ∧ c ≠ ']'

theorem begins_of_inNumber {c : Char} (digit : inNumber c = true) : Begins c := by
  constructor
  · by_contra space
    rw [Bool.not_eq_false] at space
    rw [not_inNumber_of_isSpace space] at digit
    cases digit
  · intro same
    rw [same] at digit
    cases digit

theorem Spells.head {doc : Doc} {spelled : Word} (spells : Spells doc spelled) :
    ∃ c rest, spelled = c :: rest ∧ Begins c := by
  cases spells with
  | number shaped =>
    obtain ⟨c, rest, cut, digit⟩ := isNumber_head shaped
    exact ⟨c, rest, cut, begins_of_inNumber digit⟩
  | null | yes | no | string | emptyArray | array | emptyObject | object =>
    exact ⟨_, _, rfl, by decide, by decide⟩

theorem Spells.dropSpace_append {doc : Doc} {spelled : Word} (spells : Spells doc spelled)
    {space : Word} (blank : Space space) (rest : Word) :
    dropSpace (space ++ (spelled ++ rest)) = spelled ++ rest := by
  obtain ⟨c, more, rfl, solid, -⟩ := spells.head
  rw [JsonText.dropSpace_append blank, List.cons_append, dropSpace_cons solid]

theorem readPlain_number {literal rest : Word} (shaped : isNumber literal = true)
    (ends : Ends rest) : readPlain (literal ++ rest) = some (.number literal, rest) := by
  have all : ∀ c ∈ literal, inNumber c = true := by
    rw [isNumber, Bool.and_eq_true] at shaped
    exact List.all_eq_true.mp shaped.1
  have no_more : rest.takeWhile inNumber = [] ∧ rest.dropWhile inNumber = rest := by
    cases rest with
    | nil => exact ⟨rfl, rfl⟩
    | cons c rest =>
      have stops : ¬inNumber c = true := by
        rw [ends c rfl]
        exact Bool.false_ne_true
      exact ⟨List.takeWhile_cons_of_neg stops, List.dropWhile_cons_of_neg stops⟩
  have no_word : ∀ (c : Char) (word : Word), inNumber c = false →
      (c :: word).isPrefixOf (literal ++ rest) = false := by
    intro c word letter
    obtain ⟨digit, more, rfl, number⟩ := isNumber_head shaped
    have differ : (c == digit) = false := by
      apply beq_false_of_ne
      rintro rfl
      rw [letter] at number
      cases number
    rw [List.cons_append, List.isPrefixOf_cons_cons, differ, Bool.false_and]
  have no_null := no_word 'n' "ull".toList rfl
  have no_true := no_word 't' "rue".toList rfl
  have no_false := no_word 'f' "alse".toList rfl
  rw [readPlain, show "null".toList = 'n' :: "ull".toList from rfl, no_null,
    show "true".toList = 't' :: "rue".toList from rfl, no_true,
    show "false".toList = 'f' :: "alse".toList from rfl, no_false,
    List.takeWhile_append_of_pos all, List.dropWhile_append_of_pos all, no_more.1, no_more.2,
    List.append_nil]
  simp [shaped]

theorem readValue_plain {fuel : Nat} {c : Char} {rest : Word} (no_string : c ≠ '"')
    (no_array : c ≠ '[') (no_object : c ≠ '\x7b') :
    readValue (fuel + 1) (c :: rest) = readPlain (c :: rest) := by
  rw [readValue, if_neg no_string, if_neg no_array, if_neg no_object]

theorem readValue_number {fuel : Nat} {literal rest : Word} (shaped : isNumber literal = true)
    (ends : Ends rest) :
    readValue (fuel + 1) (literal ++ rest) = some (.number literal, rest) := by
  obtain ⟨c, more, rfl, digit⟩ := isNumber_head shaped
  have differs : ∀ d : Char, inNumber d = false → c ≠ d := by
    intro d letter same
    rw [same, letter] at digit
    cases digit
  rw [List.cons_append, readValue_plain (differs _ rfl) (differs _ rfl) (differs _ rfl),
    ← List.cons_append, readPlain_number shaped ends]

theorem SpellsItems.head {items : List Doc} {spelled : Word} (inside : SpellsItems items spelled)
    (rest : Word) : (dropSpace (spelled ++ rest)).head? ≠ some ']' := by
  have begins : ∀ {doc : Doc} {before word : Word} (after : Word), Space before →
      Spells doc word → (dropSpace (before ++ (word ++ after))).head? ≠ some ']' := by
    intro doc before word after blank here
    obtain ⟨c, more, cut, -, open_⟩ := here.head
    rw [here.dropSpace_append blank, cut, List.cons_append, List.head?_cons]
    exact fun same => open_ (Option.some.inj same)
  cases inside with
  | last blank here _ =>
    rw [List.append_assoc, List.append_assoc]
    exact begins _ blank here
  | more blank here _ _ =>
    rw [List.append_assoc, List.append_assoc]
    exact begins _ blank here

theorem SpellsMembers.head {members : List (Word × Doc)} {spelled : Word}
    (inside : SpellsMembers members spelled) (rest : Word) :
    (dropSpace (spelled ++ rest)).head? ≠ some '\x7d' := by
  cases inside with
  | last blank | more blank =>
    rw [List.append_assoc, dropSpace_append blank, List.cons_append,
      dropSpace_cons (by decide), List.head?_cons]
    decide

mutual

/-- The reader takes exactly what spells a document. -/
theorem readValue_spells {doc : Doc} {spelled : Word} (spells : Spells doc spelled)
    (fuel : Nat) (rest : Word) (enough : spelled.length ≤ fuel) (ends : Ends rest) :
    readValue fuel (spelled ++ rest) = some (doc, rest) := by
  obtain ⟨c, more, cut, -⟩ := spells.head
  obtain ⟨fuel, rfl⟩ : ∃ less, fuel = less + 1 := by
    apply Nat.exists_eq_add_one.mpr
    rw [cut, List.length_cons] at enough
    omega
  cases spells with
  | null => rfl
  | yes => rfl
  | no => rfl
  | number shaped => exact readValue_number shaped ends
  | string quoted =>
    rw [List.cons_append, readValue, if_pos rfl,
      readString_append quoted rest (Nat.le_of_succ_le_succ enough)]
    rfl
  | emptyArray blank =>
    rw [List.cons_append, readValue, if_neg (by decide), if_pos rfl, List.append_assoc,
      dropSpace_append blank, List.singleton_append, dropSpace_cons (by decide)]
    rfl
  | array inside =>
    rw [List.cons_append, readValue, if_neg (by decide), if_pos rfl, if_neg (inside.head rest),
      readItems_spells inside fuel rest (Nat.le_of_succ_le_succ enough)]
    rfl
  | emptyObject blank =>
    rw [List.cons_append, readValue, if_neg (by decide), if_neg (by decide), if_pos rfl,
      List.append_assoc, dropSpace_append blank, List.singleton_append,
      dropSpace_cons (by decide)]
    rfl
  | object inside =>
    rw [List.cons_append, readValue, if_neg (by decide), if_neg (by decide), if_pos rfl,
      if_neg (inside.head rest),
      readMembers_spells inside fuel rest (Nat.le_of_succ_le_succ enough)]
    rfl

theorem readItems_spells {items : List Doc} {spelled : Word} (inside : SpellsItems items spelled)
    (fuel : Nat) (rest : Word) (enough : spelled.length ≤ fuel) :
    readItems fuel (spelled ++ rest) = some (items, rest) := by
  cases inside with
  | @last item before spelled after blank here blank_after =>
    simp only [List.length_append, List.length_singleton] at enough
    obtain ⟨fuel, rfl⟩ : ∃ less, fuel = less + 1 := Nat.exists_eq_add_one.mpr (by omega)
    have read := readValue_spells here fuel (after ++ ']' :: rest) (by omega)
      (ends_space blank_after rfl rest)
    simp only [List.append_assoc, List.singleton_append]
    rw [readItems, here.dropSpace_append blank, read]
    simp only [Option.bind_eq_bind, Option.bind_some, dropSpace_append blank_after]
    rfl
  | @more item items before spelled after later blank here blank_after inside =>
    simp only [List.length_append, List.length_cons] at enough
    obtain ⟨fuel, rfl⟩ : ∃ less, fuel = less + 1 := Nat.exists_eq_add_one.mpr (by omega)
    have read := readValue_spells here fuel (after ++ ',' :: (later ++ rest)) (by omega)
      (ends_space blank_after rfl _)
    have read_later := readItems_spells inside fuel rest (by omega)
    simp only [List.append_assoc, List.cons_append]
    rw [readItems, here.dropSpace_append blank, read]
    simp only [Option.bind_eq_bind, Option.bind_some, dropSpace_append blank_after]
    rw [dropSpace_cons (by decide)]
    simp only [read_later, Option.map_some]

theorem readMembers_spells {members : List (Word × Doc)} {spelled : Word}
    (inside : SpellsMembers members spelled) (fuel : Nat) (rest : Word)
    (enough : spelled.length ≤ fuel) :
    readMembers fuel (spelled ++ rest) = some (members, rest) := by
  cases inside with
  | @last name quotes value before gap between spelled after blank quoted blank_gap blank_between
      here blank_after =>
    simp only [List.length_append, List.length_cons, List.length_nil] at enough
    obtain ⟨fuel, rfl⟩ : ∃ less, fuel = less + 1 := Nat.exists_eq_add_one.mpr (by omega)
    have read := readValue_spells here fuel (after ++ '\x7d' :: rest) (by omega)
      (ends_space blank_after rfl rest)
    have name_read := readString_append quoted
      (gap ++ ':' :: (between ++ (spelled ++ (after ++ '\x7d' :: rest))))
      (show _ ≤ fuel by omega)
    simp only [List.append_assoc, List.cons_append, List.nil_append]
    rw [readMembers, dropSpace_append blank, dropSpace_cons (by decide)]
    simp only [name_read, Option.bind_eq_bind, Option.bind_some, dropSpace_append blank_gap]
    rw [dropSpace_cons (by decide)]
    simp only [here.dropSpace_append blank_between, read, Option.bind_some,
      dropSpace_append blank_after]
    rw [dropSpace_cons (by decide)]
    rfl
  | @more name quotes value members before gap between spelled after later blank quoted blank_gap
      blank_between here blank_after inside =>
    simp only [List.length_append, List.length_cons] at enough
    obtain ⟨fuel, rfl⟩ : ∃ less, fuel = less + 1 := Nat.exists_eq_add_one.mpr (by omega)
    have read := readValue_spells here fuel (after ++ ',' :: (later ++ rest)) (by omega)
      (ends_space blank_after rfl _)
    have name_read := readString_append quoted
      (gap ++ ':' :: (between ++ (spelled ++ (after ++ ',' :: (later ++ rest)))))
      (show _ ≤ fuel by omega)
    have read_later := readMembers_spells inside fuel rest (by omega)
    simp only [List.append_assoc, List.cons_append]
    rw [readMembers, dropSpace_append blank, dropSpace_cons (by decide)]
    simp only [name_read, Option.bind_eq_bind, Option.bind_some, dropSpace_append blank_gap]
    rw [dropSpace_cons (by decide)]
    simp only [here.dropSpace_append blank_between, read, Option.bind_some,
      dropSpace_append blank_after]
    rw [dropSpace_cons (by decide)]
    simp only [read_later, Option.map_some]

end

/-- A text that spells a document, in space, is read as that document. -/
theorem parse_spells {doc : Doc} {before spelled after : Word} (blank : Space before)
    (spells : Spells doc spelled) (blank_after : Space after) :
    parse (before ++ (spelled ++ after)) = some doc := by
  have ends : Ends after := by
    intro c first
    exact not_inNumber_of_isSpace (blank_after c (List.mem_of_mem_head? first))
  have enough : spelled.length ≤ (before ++ (spelled ++ after)).length := by
    simp only [List.length_append]
    omega
  have none_left : dropSpace after = [] := List.dropWhile_eq_nil_iff.mpr blank_after
  rw [parse, spells.dropSpace_append blank, readValue_spells spells _ after enough ends]
  simp [none_left]

end Reading

section Writing

theorem space_nil : Space [] := by
  intro c member
  cases member

theorem space_replicate (count : Nat) : Space (List.replicate count ' ') := by
  intro c member
  rw [List.eq_of_mem_replicate member]
  rfl

theorem space_line {space : Word} (blank : Space space) : Space ('\n' :: space) := by
  intro c member
  rcases List.mem_cons.mp member with rfl | inside
  · rfl
  · exact blank c inside

/-- A text without quotes, backslashes and control characters stands for itself. -/
theorem quoted_plain {text : Word}
    (plain : ∀ c ∈ text, c ≠ '"' ∧ c ≠ '\\' ∧ 0x20 ≤ c.toNat) : Quoted text (text ++ ['"']) := by
  induction text with
  | nil => exact .close
  | cons c text hypothesis =>
    obtain ⟨no_quote, no_escape, printable⟩ := plain c List.mem_cons_self
    exact .plain no_quote no_escape printable
      (hypothesis fun d member => plain d (List.mem_cons_of_mem c member))

/-- An item of a list with the space before it. -/
def SpellsItem (item : Doc) (text : Word) : Prop :=
  ∃ before spelled, text = before ++ spelled ∧ Space before ∧ Spells item spelled

/-- A member with the space before it. -/
def SpellsMember (member : Word × Doc) (text : Word) : Prop :=
  ∃ before quotes gap spelled, text = before ++ '"' :: (quotes ++ ':' :: (gap ++ spelled)) ∧
    Space before ∧ Quoted member.1 quotes ∧ Space gap ∧ Spells member.2 spelled

/-- Items with commas between them. -/
theorem spellsItems_join {items : List Doc} {texts : List Word}
    (each : List.Forall₂ SpellsItem items texts) (some_item : items ≠ []) {after : Word}
    (blank : Space after) :
    SpellsItems items ([','].intercalate texts ++ (after ++ [']'])) := by
  induction each with
  | nil => exact absurd rfl some_item
  | @cons item text items texts first rest hypothesis =>
    obtain ⟨before, spelled, rfl, blank_before, here⟩ := first
    cases rest with
    | nil =>
      rw [List.intercalate_singleton, List.append_assoc]
      exact .last blank_before here blank
    | cons second rest =>
      have later := hypothesis (List.cons_ne_nil _ _)
      rw [List.intercalate_cons_cons, List.append_assoc, List.append_assoc, List.append_assoc]
      have joined := SpellsItems.more blank_before here space_nil later
      exact joined

theorem spellsMembers_join {members : List (Word × Doc)} {texts : List Word}
    (each : List.Forall₂ SpellsMember members texts) (some_member : members ≠ []) {after : Word}
    (blank : Space after) :
    SpellsMembers members ([','].intercalate texts ++ (after ++ ['\x7d'])) := by
  induction each with
  | nil => exact absurd rfl some_member
  | @cons member text members texts first rest hypothesis =>
    obtain ⟨before, quotes, gap, spelled, rfl, blank_before, quoted, blank_gap, here⟩ := first
    cases rest with
    | nil =>
      rw [List.intercalate_singleton]
      simp only [List.append_assoc, List.cons_append]
      have joined := SpellsMembers.last blank_before quoted space_nil blank_gap here blank
      exact joined
    | cons second rest =>
      have later := hypothesis (List.cons_ne_nil _ _)
      rw [List.intercalate_cons_cons]
      simp only [List.append_assoc, List.cons_append]
      have joined :=
        SpellsMembers.more blank_before quoted space_nil blank_gap here space_nil later
      exact joined

/-- The first piece of a list with its separators can be given a separator's end as well. -/
theorem append_intercalate (mark : Char) (lead : Word) {texts : List Word}
    (some_text : texts ≠ []) :
    lead ++ (mark :: lead).intercalate texts = [mark].intercalate (texts.map (lead ++ ·)) := by
  induction texts with
  | nil => exact absurd rfl some_text
  | cons text rest hypothesis =>
    cases rest with
    | nil => rw [List.intercalate_singleton, List.map_singleton, List.intercalate_singleton]
    | cons second rest =>
      have later := hypothesis (List.cons_ne_nil _ _)
      rw [List.intercalate_cons_cons, List.map_cons, List.map_cons, List.intercalate_cons_cons,
        ← List.map_cons, ← later]
      simp only [List.append_assoc, List.cons_append, List.nil_append]

theorem Quoted.last {text spelled : Word} (quoted : Quoted text spelled) :
    spelled.getLast? = some '"' := by
  induction quoted with
  | close => rfl
  | plain _ _ _ _ hypothesis => rw [List.getLast?_cons, hypothesis, Option.getD_some]
  | escape _ _ hypothesis =>
    rw [List.getLast?_cons, List.getLast?_append, hypothesis, Option.some_or, Option.getD_some]

theorem SpellsItems.last_char {items : List Doc} {spelled : Word}
    (inside : SpellsItems items spelled) : spelled.getLast? = some ']' := by
  cases inside with
  | last =>
    rw [List.getLast?_append, List.getLast?_append, List.getLast?_append]
    rfl
  | more _ _ _ later =>
    have ends := later.last_char
    rw [List.getLast?_append, List.getLast?_append, List.getLast?_append, List.getLast?_cons, ends]
    rfl

theorem SpellsMembers.last_char {members : List (Word × Doc)} {spelled : Word}
    (inside : SpellsMembers members spelled) : spelled.getLast? = some '\x7d' := by
  cases inside with
  | last =>
    simp only [List.getLast?_append, List.getLast?_cons]
    rfl
  | more _ _ _ _ _ _ later =>
    have ends := later.last_char
    simp only [List.getLast?_append, List.getLast?_cons, ends]
    rfl

/-- A document ends with no space. -/
theorem Spells.last {doc : Doc} {spelled : Word} (spells : Spells doc spelled) :
    ∃ c, spelled.getLast? = some c ∧ isSpace c = false := by
  cases spells with
  | null | yes | no => exact ⟨_, rfl, rfl⟩
  | number shaped =>
    obtain ⟨c, rest, rfl, -⟩ := isNumber_head shaped
    rw [isNumber, Bool.and_eq_true, List.all_eq_true] at shaped
    have ends := List.getLast?_eq_some_getLast (List.cons_ne_nil c rest)
    exact ⟨_, ends, (begins_of_inNumber (shaped.1 _ (List.mem_of_getLast? ends))).1⟩
  | string quoted =>
    refine ⟨'"', ?_, rfl⟩
    rw [List.getLast?_cons, quoted.last, Option.getD_some]
  | emptyArray =>
    refine ⟨']', ?_, rfl⟩
    rw [List.getLast?_cons, List.getLast?_append]
    rfl
  | array inside =>
    refine ⟨']', ?_, rfl⟩
    rw [List.getLast?_cons, inside.last_char, Option.getD_some]
  | emptyObject =>
    refine ⟨'\x7d', ?_, rfl⟩
    rw [List.getLast?_cons, List.getLast?_append]
    rfl
  | object inside =>
    refine ⟨'\x7d', ?_, rfl⟩
    rw [List.getLast?_cons, inside.last_char, Option.getD_some]

end Writing

section Respacing

theorem hexValue_printable {digits : Word} {unit : Nat} (value : hexValue digits = some unit) :
    ∀ c ∈ digits, 0x20 ≤ c.toNat := by
  have digit : ∀ {c : Char} {value : Nat}, hexDigit c = some value → 0x20 ≤ c.toNat := by
    intro c value read
    by_contra control
    have below : ∀ n < 0x20, hexDigit (Char.ofNat n) = none := by decide
    have none_read := below c.toNat (Nat.lt_of_not_le control)
    rw [Char.ofNat_toNat, read] at none_read
    cases none_read
  have run : ∀ (digits : Word) (start unit : Nat),
      digits.foldlM (fun value c => (hexDigit c).map fun digit => value * 16 + digit) start =
        some unit → ∀ c ∈ digits, 0x20 ≤ c.toNat := by
    intro digits
    induction digits with
    | nil =>
      intro _ _ _ c member
      cases member
    | cons first digits hypothesis =>
      intro start unit read c member
      rw [List.foldlM_cons] at read
      obtain ⟨next, read_first, later⟩ := Option.bind_eq_some_iff.mp read
      obtain ⟨here, is_digit, -⟩ := Option.map_eq_some_iff.mp read_first
      rcases List.mem_cons.mp member with rfl | inside
      · exact digit is_digit
      · exact hypothesis next unit later c inside
  exact run digits 0 unit value

theorem Escape.printable {c : Char} {mark : Word} (escaped : Escape c mark) :
    ∀ d ∈ mark, 0x20 ≤ d.toNat := by
  cases escaped with
  | @short letter c stands =>
    intro d member
    rw [List.mem_singleton.mp member]
    by_contra control
    have below : ∀ n < 0x20, shortEscape (Char.ofNat n) = none := by decide
    have none_stands := below letter.toNat (Nat.lt_of_not_le control)
    rw [Char.ofNat_toNat, stands] at none_stands
    cases none_stands
  | unit _ value =>
    intro d member
    rcases List.mem_cons.mp member with rfl | inside
    · decide
    · exact hexValue_printable value d inside
  | pair _ first _ _ second =>
    intro d member
    simp only [List.mem_cons, List.mem_append] at member
    rcases member with rfl | inside | rfl | rfl | inside
    · decide
    · exact hexValue_printable first d inside
    · decide
    · decide
    · exact hexValue_printable second d inside

theorem printable_of_all {text : Word} (all : (text.all fun c => decide (0x20 ≤ c.toNat)) = true) :
    ∀ c ∈ text, 0x20 ≤ c.toNat := by
  intro c member
  exact of_decide_eq_true (List.all_eq_true.mp all c member)

/-- A string is spelled without control characters, line breaks among them. -/
theorem Quoted.printable {text spelled : Word} (quoted : Quoted text spelled) :
    ∀ c ∈ spelled, 0x20 ≤ c.toNat := by
  induction quoted with
  | close => exact printable_of_all rfl
  | plain _ _ printable _ hypothesis =>
    intro c member
    rcases List.mem_cons.mp member with rfl | inside
    · exact printable
    · exact hypothesis c inside
  | escape escaped _ hypothesis =>
    intro c member
    simp only [List.mem_cons, List.mem_append] at member
    rcases member with rfl | inside | inside
    · decide
    · exact escaped.printable c inside
    · exact hypothesis c inside

theorem isNumber_printable {literal : Word} (shaped : isNumber literal = true) :
    ∀ c ∈ literal, 0x20 ≤ c.toNat := by
  intro c member
  rw [isNumber, Bool.and_eq_true] at shaped
  by_contra control
  have below : ∀ n < 0x20, inNumber (Char.ofNat n) = false := by decide
  have other := below c.toNat (Nat.lt_of_not_le control)
  rw [Char.ofNat_toNat, List.all_eq_true.mp shaped.1 c member] at other
  cases other

theorem newline_of_printable {text : Word} (printable : ∀ c ∈ text, 0x20 ≤ c.toNat) :
    '\n' ∉ text :=
  fun member => absurd (printable _ member) (by decide)

variable {f : Char → Word} (solid : ∀ c, c ≠ '\n' → f c = [c]) (spaced : Space (f '\n'))

include solid in
theorem flatMap_solid {text : Word} (no_break : '\n' ∉ text) : text.flatMap f = text := by
  induction text with
  | nil => rfl
  | cons c text hypothesis =>
    rw [List.mem_cons, not_or] at no_break
    rw [List.flatMap_cons, solid c (Ne.symm no_break.1), hypothesis no_break.2,
      List.singleton_append]

include solid in
@[simp]
theorem flatMap_cons_solid {c : Char} (no_break : c ≠ '\n') (text : Word) :
    (c :: text).flatMap f = c :: text.flatMap f := by
  rw [List.flatMap_cons, solid c no_break, List.singleton_append]

include solid spaced

theorem space_respaced {space : Word} (blank : Space space) : Space (space.flatMap f) := by
  intro c member
  obtain ⟨d, inside, from_d⟩ := List.mem_flatMap.mp member
  by_cases line : d = '\n'
  · rw [line] at from_d
    exact spaced c from_d
  · rw [solid d line, List.mem_singleton] at from_d
    rw [from_d]
    exact blank d inside

mutual

/-- Other space at the ends of its lines leaves a text the same document. -/
theorem Spells.respaced {doc : Doc} {spelled : Word} (spells : Spells doc spelled) :
    Spells doc (spelled.flatMap f) := by
  cases spells with
  | null =>
    rw [flatMap_solid solid (by decide)]
    exact .null
  | yes =>
    rw [flatMap_solid solid (by decide)]
    exact .yes
  | no =>
    rw [flatMap_solid solid (by decide)]
    exact .no
  | number shaped =>
    rw [flatMap_solid solid (newline_of_printable (isNumber_printable shaped))]
    exact .number shaped
  | string quoted =>
    rw [flatMap_cons_solid solid (by decide), flatMap_solid solid (newline_of_printable quoted.printable)]
    exact .string quoted
  | emptyArray blank =>
    rw [flatMap_cons_solid solid (by decide), List.flatMap_append,
      flatMap_solid solid (show '\n' ∉ [']'] by decide)]
    exact .emptyArray (space_respaced solid spaced blank)
  | array inside =>
    rw [flatMap_cons_solid solid (by decide)]
    exact .array inside.respaced
  | emptyObject blank =>
    rw [flatMap_cons_solid solid (by decide), List.flatMap_append,
      flatMap_solid solid (show '\n' ∉ ['\x7d'] by decide)]
    exact .emptyObject (space_respaced solid spaced blank)
  | object inside =>
    rw [flatMap_cons_solid solid (by decide)]
    exact .object inside.respaced

theorem SpellsItems.respaced {items : List Doc} {spelled : Word}
    (inside : SpellsItems items spelled) : SpellsItems items (spelled.flatMap f) := by
  cases inside with
  | last blank here blank_after =>
    rw [List.flatMap_append, List.flatMap_append, List.flatMap_append,
      flatMap_solid solid (show '\n' ∉ [']'] by decide)]
    exact .last (space_respaced solid spaced blank) here.respaced
      (space_respaced solid spaced blank_after)
  | more blank here blank_after later =>
    rw [List.flatMap_append, List.flatMap_append, List.flatMap_append,
      flatMap_cons_solid solid (by decide)]
    exact .more (space_respaced solid spaced blank) here.respaced
      (space_respaced solid spaced blank_after) later.respaced

theorem SpellsMembers.respaced {members : List (Word × Doc)} {spelled : Word}
    (inside : SpellsMembers members spelled) : SpellsMembers members (spelled.flatMap f) := by
  cases inside with
  | last blank quoted blank_gap blank_between here blank_after =>
    rw [List.flatMap_append, flatMap_cons_solid solid (by decide), List.flatMap_append,
      List.flatMap_append, flatMap_cons_solid solid (by decide), List.flatMap_append,
      List.flatMap_append, List.flatMap_append, flatMap_solid solid (show '\n' ∉ ['\x7d'] by decide),
      flatMap_solid solid (newline_of_printable quoted.printable)]
    exact .last (space_respaced solid spaced blank) quoted (space_respaced solid spaced blank_gap)
      (space_respaced solid spaced blank_between) here.respaced
      (space_respaced solid spaced blank_after)
  | more blank quoted blank_gap blank_between here blank_after later =>
    rw [List.flatMap_append, flatMap_cons_solid solid (by decide), List.flatMap_append,
      List.flatMap_append, flatMap_cons_solid solid (by decide), List.flatMap_append,
      List.flatMap_append, List.flatMap_append, flatMap_cons_solid solid (by decide),
      flatMap_solid solid (newline_of_printable quoted.printable)]
    exact .more (space_respaced solid spaced blank) quoted (space_respaced solid spaced blank_gap)
      (space_respaced solid spaced blank_between) here.respaced
      (space_respaced solid spaced blank_after)
      later.respaced

end

end Respacing

section Printing

def hexLetter (digit : Nat) : Char := "0123456789abcdef".toList.getD digit '0'

/-- The escape of a control character. -/
def controlMark (code : Nat) : Word :=
  match code with
  | 8 => ['b']
  | 9 => ['t']
  | 10 => ['n']
  | 12 => ['f']
  | 13 => ['r']
  | _ => ['u', '0', '0', hexLetter (code / 16), hexLetter (code % 16)]

def quoteChar (c : Char) : Word :=
  if c = '"' then ['\\', '"']
  else if c = '\\' then ['\\', '\\']
  else if c.toNat < 0x20 then '\\' :: controlMark c.toNat
  else [c]

def quoteTail (text : Word) : Word := text.flatMap quoteChar ++ ['"']

mutual

/-- A document on one line. -/
def compact : Doc → Word
  | .null => "null".toList
  | .bool value => if value then "true".toList else "false".toList
  | .number literal => literal
  | .string text => '"' :: quoteTail text
  | .array items => '[' :: ([','].intercalate (compactItems items) ++ [']'])
  | .object members => '\x7b' :: ([','].intercalate (compactMembers members) ++ ['\x7d'])

def compactItems : List Doc → List Word
  | [] => []
  | item :: items => compact item :: compactItems items

def compactMembers : List (Word × Doc) → List Word
  | [] => []
  | (name, value) :: members =>
    ('"' :: (quoteTail name ++ ':' :: compact value)) :: compactMembers members

end

mutual

/-- Every number in the document is one. -/
def Shaped : Doc → Prop
  | .number literal => isNumber literal = true
  | .array items => ShapedItems items
  | .object members => ShapedMembers members
  | _ => True

def ShapedItems : List Doc → Prop
  | [] => True
  | item :: items => Shaped item ∧ ShapedItems items

def ShapedMembers : List (Word × Doc) → Prop
  | [] => True
  | (_, value) :: members => Shaped value ∧ ShapedMembers members

end

theorem controlMark_escape {c : Char} (control : c.toNat < 0x20) :
    Escape c (controlMark c.toNat) := by
  -- Five have a letter of their own; the others are two hexadecimal digits.
  have split : ∀ code < 0x20,
      (controlMark code = [(controlMark code).headD ' '] ∧
        shortEscape ((controlMark code).headD ' ') = some (Char.ofNat code)) ∨
      (controlMark code = ['u', '0', '0', hexLetter (code / 16), hexLetter (code % 16)] ∧
        hexValue ['0', '0', hexLetter (code / 16), hexLetter (code % 16)] = some code) := by
    decide
  rcases split c.toNat control with ⟨mark, stands⟩ | ⟨mark, value⟩
  · rw [Char.ofNat_toNat] at stands
    rw [mark]
    exact .short stands
  · have plain : isHigh c.toNat = false ∧ isLow c.toNat = false := by
      simp only [isHigh, isLow, Bool.and_eq_false_iff, decide_eq_false_iff_not]
      omega
    have escape := Escape.unit rfl value plain.1 plain.2
    rw [Char.ofNat_toNat] at escape
    rw [mark]
    exact escape

theorem quoteTail_quoted (text : Word) : Quoted text (quoteTail text) := by
  induction text with
  | nil => exact .close
  | cons c text hypothesis =>
    have tail : quoteTail (c :: text) = quoteChar c ++ quoteTail text := by
      rw [quoteTail, quoteTail, List.flatMap_cons, List.append_assoc]
    rw [tail, quoteChar]
    split
    · rename_i quote
      rw [quote]
      exact .escape (.short (show shortEscape '"' = some '"' from rfl)) hypothesis
    · split
      · rename_i backslash
        rw [backslash]
        exact .escape (.short (show shortEscape '\\' = some '\\' from rfl)) hypothesis
      · split
        · rename_i control
          exact .escape (controlMark_escape control) hypothesis
        · rename_i no_quote no_escape printable
          exact .plain no_quote no_escape (Nat.not_lt.mp printable) hypothesis

mutual

theorem compact_spells (doc : Doc) (shaped : Shaped doc) : Spells doc (compact doc) := by
  cases doc with
  | null => exact .null
  | bool value =>
    cases value with
    | true => exact .yes
    | false => exact .no
  | number literal => exact .number shaped
  | string text => exact .string (quoteTail_quoted text)
  | array items =>
    cases items with
    | nil => exact .emptyArray space_nil
    | cons item items =>
      exact .array (spellsItems_join (compactItems_spelled _ shaped) (List.cons_ne_nil _ _)
        space_nil)
  | object members =>
    cases members with
    | nil => exact .emptyObject space_nil
    | cons member members =>
      exact .object (spellsMembers_join (compactMembers_spelled _ shaped) (List.cons_ne_nil _ _)
        space_nil)

theorem compactItems_spelled (items : List Doc) (shaped : ShapedItems items) :
    List.Forall₂ SpellsItem items (compactItems items) := by
  cases items with
  | nil => exact .nil
  | cons item items =>
    exact .cons ⟨[], _, rfl, space_nil, compact_spells item shaped.1⟩
      (compactItems_spelled items shaped.2)

theorem compactMembers_spelled (members : List (Word × Doc)) (shaped : ShapedMembers members) :
    List.Forall₂ SpellsMember members (compactMembers members) := by
  cases members with
  | nil => exact .nil
  | cons member members =>
    exact .cons ⟨[], _, [], _, rfl, space_nil, quoteTail_quoted _, space_nil,
      compact_spells _ shaped.1⟩ (compactMembers_spelled members shaped.2)

end

theorem mem_join {c : Char} {texts : List Word} (member : c ∈ [','].intercalate texts) :
    c = ',' ∨ ∃ text ∈ texts, c ∈ text := by
  induction texts with
  | nil => cases member
  | cons text texts hypothesis =>
    cases texts with
    | nil =>
      rw [List.intercalate_singleton] at member
      exact .inr ⟨text, List.mem_cons_self, member⟩
    | cons second texts =>
      rw [List.intercalate_cons_cons, List.mem_append, List.mem_append, List.mem_singleton] at member
      rcases member with (here | comma) | later
      · exact .inr ⟨text, List.mem_cons_self, here⟩
      · exact .inl comma
      · rcases hypothesis later with comma | ⟨other, inside, here⟩
        · exact .inl comma
        · exact .inr ⟨other, List.mem_cons_of_mem _ inside, here⟩

theorem join_printable {texts : List Word} (each : ∀ text ∈ texts, ∀ c ∈ text, 0x20 ≤ c.toNat)
    {first last : Char} (opens : 0x20 ≤ first.toNat) (closes : 0x20 ≤ last.toNat) :
    ∀ c ∈ first :: ([','].intercalate texts ++ [last]), 0x20 ≤ c.toNat := by
  intro c member
  rw [List.mem_cons, List.mem_append, List.mem_singleton] at member
  rcases member with rfl | inside | rfl
  · exact opens
  · rcases mem_join inside with rfl | ⟨text, is_text, here⟩
    · decide
    · exact each text is_text c here
  · exact closes

mutual

/-- One line has no line breaks. -/
theorem compact_printable (doc : Doc) (shaped : Shaped doc) : ∀ c ∈ compact doc, 0x20 ≤ c.toNat := by
  cases doc with
  | null => exact printable_of_all rfl
  | bool value =>
    cases value with
    | true => exact printable_of_all rfl
    | false => exact printable_of_all rfl
  | number literal => exact isNumber_printable shaped
  | string text =>
    intro c member
    rcases List.mem_cons.mp member with rfl | inside
    · decide
    · exact (quoteTail_quoted text).printable c inside
  | array items => exact join_printable (compactItems_printable items shaped) (by decide) (by decide)
  | object members =>
    exact join_printable (compactMembers_printable members shaped) (by decide) (by decide)

theorem compactItems_printable (items : List Doc) (shaped : ShapedItems items) :
    ∀ text ∈ compactItems items, ∀ c ∈ text, 0x20 ≤ c.toNat := by
  cases items with
  | nil =>
    intro text member
    cases member
  | cons item items =>
    intro text member
    rcases List.mem_cons.mp member with rfl | later
    · exact compact_printable item shaped.1
    · exact compactItems_printable items shaped.2 text later

theorem compactMembers_printable (members : List (Word × Doc)) (shaped : ShapedMembers members) :
    ∀ text ∈ compactMembers members, ∀ c ∈ text, 0x20 ≤ c.toNat := by
  cases members with
  | nil =>
    intro text member
    cases member
  | cons entry members =>
    intro text member
    rcases List.mem_cons.mp member with rfl | later
    · intro c inside
      simp only [List.mem_cons, List.mem_append] at inside
      rcases inside with rfl | name | rfl | value
      · decide
      · exact (quoteTail_quoted _).printable c name
      · decide
      · exact compact_printable entry.2 shaped.1 c value
    · exact compactMembers_printable members shaped.2 text later

end

/-- The value of a name for a reader that keeps the last one of each name. -/
def Doc.member (doc : Doc) (name : Word) : Option Doc :=
  match doc with
  | .object members => (members.reverse.find? fun member => member.1 = name).map Prod.snd
  | _ => none

/-- Where the names are distinct such a reader has every member. -/
theorem member_of_nodup {members : List (Word × Doc)} (distinct : (members.map Prod.fst).Nodup)
    {name : Word} {value : Doc} (inside : (name, value) ∈ members) :
    (Doc.object members).member name = some value := by
  rw [Doc.member]
  cases found : members.reverse.find? fun member => member.1 = name with
  | none =>
    have misses := List.find?_eq_none.mp found (name, value) (List.mem_reverse.mpr inside)
    exact absurd (decide_eq_true rfl) misses
  | some member =>
    have fits := List.find?_some found
    have same := List.inj_on_of_nodup_map distinct
      (List.mem_reverse.mp (List.mem_of_find?_eq_some found)) inside (of_decide_eq_true fits)
    rw [same]
    rfl

end Printing

end DbFree.JsonText
