import Mathlib

/- Texts in single quotes: how they are read back, by the rules of the reader, and the spellings
that give every content back. -/
namespace DbFree.QuotedTexts

/-- What a reader of quoted texts knows: what a character behind a backslash stands for, where
the backslash is read at all, whether a doubled quote is one quote, and what may not stand in
quotes. -/
structure Rules where
  escape : Option (Char → List Char)
  doubled : Bool
  barred : Char → Bool

/-- Puts what a character stands for before the content that is read behind it. -/
def prepend (content : List Char) (read : Option (List Char × List Char)) :
    Option (List Char × List Char) :=
  read.map fun found => (content ++ found.1, found.2)

/-- The content up to the closing quote, and the text behind that. -/
def readBody (rules : Rules) : List Char → Option (List Char × List Char)
  | [] => none
  | '\'' :: '\'' :: rest =>
    if rules.doubled then prepend ['\''] (readBody rules rest) else some ([], '\'' :: rest)
  | '\'' :: rest => some ([], rest)
  | '\\' :: c :: rest =>
    match rules.escape with
    | some escape => prepend (escape c) (readBody rules rest)
    | none => prepend ['\\'] (readBody rules (c :: rest))
  | ['\\'] => none
  | c :: rest => if rules.barred c then none else prepend [c] (readBody rules rest)

/-- The content of the quoted text at the head, and the text behind it. -/
def readQuoted (rules : Rules) : List Char → Option (List Char × List Char)
  | '\'' :: rest => readBody rules rest
  | _ => none

variable {rules : Rules}

theorem prepend_prepend (first second : List Char) (read : Option (List Char × List Char)) :
    prepend first (prepend second read) = prepend (first ++ second) read := by
  cases read with
  | none => rfl
  | some found =>
    rw [prepend, prepend, prepend, Option.map_some, Option.map_some, Option.map_some,
      List.append_assoc]

theorem prepend_nil (read : Option (List Char × List Char)) : prepend [] read = read := by
  cases read <;> rfl

/-- The spelling stands for the content wherever it is read. -/
def Spells (rules : Rules) (spelling content : List Char) : Prop :=
  ∀ rest, readBody rules (spelling ++ rest) = prepend content (readBody rules rest)

theorem spells_plain {c : Char} (notQuote : c ≠ '\'')
    (notEscape : c = '\\' → rules.escape = none) (allowed : rules.barred c = false) :
    Spells rules [c] [c] := by
  intro rest
  rw [List.singleton_append]
  by_cases backslash : c = '\\'
  · subst backslash
    cases rest with
    | nil => rfl
    | cons d rest => rw [readBody, notEscape rfl]
  · rw [readBody, allowed]
    · rfl
    · intro _ same
      exact absurd same notQuote
    · exact fun same => absurd same notQuote
    · exact fun _ _ same => absurd same backslash
    · exact fun same => absurd same backslash

theorem spells_doubled (doubled : rules.doubled = true) :
    Spells rules ['\'', '\''] ['\''] := by
  intro rest
  rw [List.cons_append, List.singleton_append, readBody, doubled]
  rfl

theorem spells_escaped {escape : Char → List Char} (escapes : rules.escape = some escape)
    (c : Char) : Spells rules ['\\', c] (escape c) := by
  intro rest
  rw [List.cons_append, List.singleton_append, readBody, escapes]

/-- Spellings one after the other stand for their contents one after the other. -/
theorem spells_flatMap {spell : Char → List Char} {content : List Char}
    (spells : ∀ c ∈ content, Spells rules (spell c) [c]) :
    Spells rules (content.flatMap spell) content := by
  induction content with
  | nil =>
    intro rest
    exact (prepend_nil _).symm
  | cons c content hypothesis =>
    intro rest
    rw [List.flatMap_cons, List.append_assoc, spells c List.mem_cons_self,
      hypothesis (fun d member => spells d (List.mem_cons_of_mem c member)), prepend_prepend]
    rfl

/-- A closing quote ends the text, unless another quote behind it makes one of both. -/
theorem readBody_quote {rest : List Char} (apart : rest.head? ≠ some '\'') :
    readBody rules ('\'' :: rest) = some ([], rest) := by
  rw [readBody]
  intro behind same
  rw [same] at apart
  exact apart rfl

theorem readQuoted_spelled {spelling content rest : List Char}
    (spells : Spells rules spelling content) (apart : rest.head? ≠ some '\'') :
    readQuoted rules ('\'' :: spelling ++ '\'' :: rest) = some (content, rest) := by
  rw [List.cons_append, readQuoted, spells, readBody_quote apart, prepend, Option.map_some,
    List.append_nil]

theorem readBody_bad {bad : Char} (barred : rules.barred bad = true) (notQuote : bad ≠ '\'')
    (notEscape : bad ≠ '\\') (rest : List Char) : readBody rules (bad :: rest) = none := by
  rw [readBody, barred]
  · rfl
  · exact fun _ same => absurd same notQuote
  · exact fun same => absurd same notQuote
  · exact fun _ _ same => absurd same notEscape
  · exact fun same => absurd same notEscape

theorem readBody_barred {spell : Char → List Char} {content : List Char}
    (spells : ∀ c ∈ content, rules.barred c = false → Spells rules (spell c) [c])
    (plain : ∀ c, rules.barred c = true → c ≠ '\'' ∧ c ≠ '\\' ∧ spell c = [c])
    {bad : Char} (member : bad ∈ content) (barred : rules.barred bad = true) (rest : List Char) :
    readBody rules (content.flatMap spell ++ rest) = none := by
  induction content with
  | nil => cases member
  | cons c content hypothesis =>
    rw [List.flatMap_cons, List.append_assoc]
    cases isBarred : rules.barred c with
    | true =>
      obtain ⟨notQuote, notEscape, same⟩ := plain c isBarred
      rw [same]
      exact readBody_bad isBarred notQuote notEscape _
    | false =>
      have later : bad ∈ content := by
        rcases List.mem_cons.mp member with same | later
        · rw [same, isBarred] at barred
          cases barred
        · exact later
      rw [spells c List.mem_cons_self isBarred,
        hypothesis (fun d inside => spells d (List.mem_cons_of_mem c inside)) later]
      rfl

end DbFree.QuotedTexts
