import Mathlib

/- Patterns with wildcards: how they are read, with an escape character and with sets of
characters in brackets where the reader has them, and the texts that match. -/
namespace DbFree.LikePatterns

/-- Which characters of texts stand for each other. -/
structure CaseRule where
  same : Char → Char → Prop
  refl : ∀ c, same c c

/-- A character of a pattern and whether it was escaped. -/
abbrev Token := Bool × Char

/-- One character, any one, any number of them, or one of a set as it is written. -/
inductive Item where
  | exactly (c : Char)
  | one
  | many
  | oneOf (written : List Token)
deriving DecidableEq

/-- The characters of a pattern; none where it ends in its escape character. -/
def tokens (escape : Option Char) : List Char → Option (List Token)
  | [] => some []
  | [c] => if escape = some c then none else some [(false, c)]
  | c :: d :: rest =>
    if escape = some c then (tokens escape rest).map ((true, d) :: ·)
    else (tokens escape (d :: rest)).map ((false, c) :: ·)

/-- The items of a pattern. In a set its characters so far come along; a set that is not closed
makes no pattern. -/
def items (sets : Bool) : Option (List Token) → List Token → Option (List Item)
  | none, [] => some []
  | some _, [] => none
  | none, (true, c) :: rest => (items sets none rest).map (.exactly c :: ·)
  | none, (false, c) :: rest =>
    if c = '%' then (items sets none rest).map (.many :: ·)
    else if c = '_' then (items sets none rest).map (.one :: ·)
    else if sets = true ∧ c = '[' then items sets (some []) rest
    else (items sets none rest).map (.exactly c :: ·)
  | some written, token :: rest =>
    if token = (false, ']') then (items sets none rest).map (.oneOf written :: ·)
    else items sets (some (written ++ [token])) rest

def readPattern (escape : Option Char) (sets : Bool) (pattern : List Char) : Option (List Item) :=
  (tokens escape pattern).bind (items sets none)

variable (rule : CaseRule) (holds : List Token → Char → Prop)

/-- A text matches items, where `holds` says which characters are in a set. -/
def Matches : List Item → List Char → Prop
  | [], text => text = []
  | .exactly c :: rest, text => ∃ d behind, text = d :: behind ∧ rule.same c d ∧ Matches rest behind
  | .one :: rest, text => ∃ d behind, text = d :: behind ∧ Matches rest behind
  | .many :: rest, text => ∃ front behind, text = front ++ behind ∧ Matches rest behind
  | .oneOf written :: rest, text =>
    ∃ d behind, text = d :: behind ∧ holds written d ∧ Matches rest behind

/-- The value stands in the text, at its start or its end where those are not open. -/
def Stands (openStart openEnd : Bool) (value text : List Char) : Prop :=
  ∃ before part after, text = before ++ part ++ after ∧ List.Forall₂ rule.same value part ∧
    (openStart = false → before = []) ∧ (openEnd = false → after = [])

/-- A wildcard for any number of characters, or none. -/
def wildcard (isOpen : Bool) : List Item := if isOpen then [.many] else []

variable {rule holds} {value text : List Char} {list : List Item}

theorem matches_exactly :
    Matches rule holds (value.map .exactly ++ list) text ↔
      ∃ part behind, text = part ++ behind ∧ List.Forall₂ rule.same value part ∧
        Matches rule holds list behind := by
  induction value generalizing text with
  | nil =>
    constructor
    · intro found
      exact ⟨[], text, rfl, List.Forall₂.nil, found⟩
    · rintro ⟨part, behind, same, alike, found⟩
      cases alike
      rw [same]
      exact found
  | cons c value hypothesis =>
    constructor
    · rintro ⟨d, later, same, first, found⟩
      obtain ⟨part, behind, isLater, alike, rest⟩ := hypothesis.mp found
      refine ⟨d :: part, behind, ?_, List.Forall₂.cons first alike, rest⟩
      rw [same, isLater, List.cons_append]
    · rintro ⟨part, behind, same, alike, rest⟩
      obtain ⟨d, later, first, others, isPart⟩ := List.forall₂_cons_left_iff.mp alike
      refine ⟨d, later ++ behind, ?_, first, hypothesis.mpr ⟨later, behind, rfl, others, rest⟩⟩
      rw [same, isPart, List.cons_append]

theorem matches_wildcard (isOpen : Bool) :
    Matches rule holds (wildcard isOpen ++ list) text ↔
      ∃ front behind, text = front ++ behind ∧ (isOpen = false → front = []) ∧
        Matches rule holds list behind := by
  cases isOpen with
  | true =>
    constructor
    · rintro ⟨front, behind, same, found⟩
      exact ⟨front, behind, same, nofun, found⟩
    · rintro ⟨front, behind, same, -, found⟩
      exact ⟨front, behind, same, found⟩
  | false =>
    constructor
    · intro found
      exact ⟨[], text, rfl, fun _ => rfl, found⟩
    · rintro ⟨front, behind, same, empty, found⟩
      rw [same, empty rfl]
      exact found

/-- A value between wildcards, each character for itself, matches where the value stands. -/
theorem matches_stands (holds : List Token → Char → Prop) (openStart openEnd : Bool) :
    Matches rule holds (wildcard openStart ++ (value.map .exactly ++ wildcard openEnd)) text ↔
      Stands rule openStart openEnd value text := by
  rw [matches_wildcard]
  constructor
  · rintro ⟨before, behind, isText, atStart, found⟩
    obtain ⟨part, later, isBehind, alike, ending⟩ := matches_exactly.mp found
    rw [← List.append_nil (wildcard openEnd)] at ending
    obtain ⟨after, nothing, isLater, atEnd, isNothing⟩ := (matches_wildcard openEnd).mp ending
    refine ⟨before, part, after, ?_, alike, atStart, atEnd⟩
    rw [isText, isBehind, isLater, isNothing, List.append_nil, List.append_assoc]
  · rintro ⟨before, part, after, isText, alike, atStart, atEnd⟩
    refine ⟨before, part ++ after, by rw [isText, List.append_assoc], atStart, ?_⟩
    refine matches_exactly.mpr ⟨part, after, rfl, alike, ?_⟩
    rw [← List.append_nil (wildcard openEnd)]
    exact (matches_wildcard openEnd).mpr ⟨after, [], (List.append_nil after).symm, atEnd, rfl⟩

theorem stands_self (openStart openEnd : Bool) : Stands rule openStart openEnd value value :=
  ⟨[], value, [], (List.append_nil value).symm, List.forall₂_same.mpr fun c _ => rule.refl c,
    fun _ => rfl, fun _ => rfl⟩

theorem length_le_of_stands {openStart openEnd : Bool}
    (stands : Stands rule openStart openEnd value text) : value.length ≤ text.length := by
  obtain ⟨before, part, after, same, alike, -, -⟩ := stands
  rw [same, alike.length_eq, List.length_append, List.length_append]
  omega

/-- How many characters a text has that matches, at the least. -/
def width (list : List Item) : Nat := list.countP (· ≠ .many)

theorem width_many (list : List Item) : width (.many :: list) = width list :=
  List.countP_cons_of_neg (by simp)

theorem width_cons {item : Item} (notMany : item ≠ .many) (list : List Item) :
    width (item :: list) = width list + 1 :=
  List.countP_cons_of_pos (by simp [notMany])

theorem exists_shortest (found : Matches rule holds list text) :
    ∃ short, Matches rule holds list short ∧ short.length = width list := by
  induction list generalizing text with
  | nil => exact ⟨[], rfl, rfl⟩
  | cons item rest hypothesis =>
    cases item with
    | many =>
      obtain ⟨front, behind, -, later⟩ := found
      obtain ⟨short, matching, length⟩ := hypothesis later
      exact ⟨short, ⟨[], short, rfl, matching⟩, length.trans (width_many rest).symm⟩
    | exactly c =>
      obtain ⟨d, behind, -, alike, later⟩ := found
      obtain ⟨short, matching, length⟩ := hypothesis later
      refine ⟨d :: short, ⟨d, short, rfl, alike, matching⟩, ?_⟩
      rw [List.length_cons, length]
      exact (width_cons (by simp) rest).symm
    | one =>
      obtain ⟨d, behind, -, later⟩ := found
      obtain ⟨short, matching, length⟩ := hypothesis later
      refine ⟨d :: short, ⟨d, short, rfl, matching⟩, ?_⟩
      rw [List.length_cons, length]
      exact (width_cons (by simp) rest).symm
    | oneOf written =>
      obtain ⟨d, behind, -, inside, later⟩ := found
      obtain ⟨short, matching, length⟩ := hypothesis later
      refine ⟨d :: short, ⟨d, short, rfl, inside, matching⟩, ?_⟩
      rw [List.length_cons, length]
      exact (width_cons (by simp) rest).symm

/-- The characters of a pattern that are no wildcard for any number. -/
def cost (written : List Token) : Nat := written.countP (· ≠ (false, '%'))

theorem cost_many (written : List Token) : cost ((false, '%') :: written) = cost written :=
  List.countP_cons_of_neg (by simp)

theorem cost_cons {token : Token} (notMany : token ≠ (false, '%')) (written : List Token) :
    cost (token :: written) = cost written + 1 :=
  List.countP_cons_of_pos (by simp [notMany])

theorem cost_le_cons (token : Token) (written : List Token) :
    cost written ≤ cost (token :: written) :=
  (List.sublist_cons_self token written).countP_le

theorem cost_append (front back : List Token) : cost (front ++ back) = cost front + cost back :=
  List.countP_append

theorem cost_le_length (written : List Token) : cost written ≤ written.length :=
  List.countP_le_length

/-- A pattern asks for one character for each of its own at most, and a set asks for one where at
least two are written. -/
theorem width_le_cost {sets : Bool} {written : List Token} :
    (∀ found, items sets none written = some found → width found ≤ cost written ∧
      (sets = true → (false, '[') ∈ written → width found < cost written)) ∧
    ∀ inside found, items sets (some inside) written = some found →
      width found ≤ cost written := by
  induction written with
  | nil =>
    constructor
    · intro found read
      cases read
      exact ⟨Nat.le_refl _, fun _ member => nomatch member⟩
    · intro inside found read
      cases read
  | cons token rest hypothesis =>
    obtain ⟨outside, inSet⟩ := hypothesis
    have keeps : ∀ (item : Item) (found : List Item), item ≠ .many → token ≠ (false, '%') →
        token ≠ (false, '[') → (items sets none rest).map (item :: ·) = some found →
          width found ≤ cost (token :: rest) ∧
            (sets = true → (false, '[') ∈ token :: rest → width found < cost (token :: rest)) := by
      intro item found notMany notWildcard notOpening read
      obtain ⟨later, readLater, rfl⟩ := Option.map_eq_some_iff.mp read
      obtain ⟨le, lt⟩ := outside later readLater
      rw [width_cons notMany, cost_cons notWildcard]
      refine ⟨Nat.succ_le_succ le, fun hasSets member => Nat.succ_lt_succ (lt hasSets ?_)⟩
      rcases List.mem_cons.mp member with same | inRest
      · exact absurd same.symm notOpening
      · exact inRest
    constructor
    · intro found read
      obtain ⟨escaped, c⟩ := token
      cases escaped with
      | true => exact keeps (.exactly c) found nofun (by simp) (by simp) read
      | false =>
        rw [items] at read
        split at read
        · next percent =>
          subst percent
          obtain ⟨later, readLater, rfl⟩ := Option.map_eq_some_iff.mp read
          obtain ⟨le, lt⟩ := outside later readLater
          rw [width_many, cost_many]
          refine ⟨le, fun hasSets member => lt hasSets ?_⟩
          rcases List.mem_cons.mp member with same | inRest
          · cases same
          · exact inRest
        · next notPercent =>
          have notWildcard : ((false, c) : Token) ≠ (false, '%') := fun same =>
            notPercent (Prod.mk.inj same).2
          split at read
          · next underscore =>
            subst underscore
            exact keeps .one found nofun (by decide) (by decide) read
          · split at read
            · have le := inSet [] found read
              rw [cost_cons notWildcard]
              exact ⟨Nat.le_succ_of_le le, fun _ _ => Nat.lt_succ_of_le le⟩
            · next notSet =>
              by_cases opening : c = '['
              · have noSets : ¬sets = true := fun hasSets => notSet ⟨hasSets, opening⟩
                obtain ⟨later, readLater, rfl⟩ := Option.map_eq_some_iff.mp read
                rw [width_cons (by simp), cost_cons notWildcard]
                exact ⟨Nat.succ_le_succ (outside later readLater).1,
                  fun hasSets => absurd hasSets noSets⟩
              · exact keeps (.exactly c) found nofun notWildcard
                  (fun same => opening (Prod.mk.inj same).2) read
    · intro inside found read
      rw [items] at read
      split at read
      · next closing =>
        subst closing
        obtain ⟨later, readLater, rfl⟩ := Option.map_eq_some_iff.mp read
        rw [width_cons (by simp), cost_cons (by decide)]
        exact Nat.succ_le_succ (outside later readLater).1
      · exact (inSet _ found read).trans (cost_le_cons token rest)

/-- Where sets are read, a value that is written with an opening bracket does not stand for
itself: some text holds the value and does not match, or matches and is too short for it. -/
theorem bracket_apart {spelled : List Token} {found : Option (List Item)}
    (isFound : found = items true none spelled) (bracket : (false, '[') ∈ spelled)
    (spellsValue : cost spelled ≤ value.length) (openStart openEnd : Bool) :
    ¬∀ text, (∃ list, found = some list ∧ Matches rule holds list text) ↔
      Stands rule openStart openEnd value text := by
  intro agree
  obtain ⟨list, isList, matching⟩ := (agree value).mpr (stands_self openStart openEnd)
  rw [isFound] at isList
  obtain ⟨short, matchesShort, length⟩ := exists_shortest matching
  have isShort := (agree short).mp ⟨list, isFound.trans isList, matchesShort⟩
  have long := length_le_of_stands isShort
  have less := (width_le_cost.1 list isList).2 rfl bracket
  omega

/-- A character that stands for itself as it is, by its own or escaped. -/
theorem tokens_plain {escape : Option Char} {c : Char} (notEscape : escape ≠ some c)
    (rest : List Char) :
    tokens escape (c :: rest) = (tokens escape rest).map ((false, c) :: ·) := by
  cases rest with
  | nil =>
    rw [tokens, tokens, if_neg notEscape]
    rfl
  | cons d rest => rw [tokens, if_neg notEscape]

theorem tokens_escaped {escape : Char} (c : Char) (rest : List Char) :
    tokens (some escape) (escape :: c :: rest) =
      (tokens (some escape) rest).map ((true, c) :: ·) := by
  rw [tokens, if_pos rfl]

/-- The tokens of a value that is spelled one character after the other. -/
theorem tokens_flatMap {escape : Option Char} {spell : Char → List Char} {token : Char → Token}
    (spells : ∀ c ∈ value, ∀ rest, tokens escape (spell c ++ rest) =
      (tokens escape rest).map (token c :: ·)) (rest : List Char) :
    tokens escape (value.flatMap spell ++ rest) =
      (tokens escape rest).map (value.map token ++ ·) := by
  induction value with
  | nil => exact Option.map_id'.symm
  | cons c value hypothesis =>
    rw [List.flatMap_cons, List.append_assoc, spells c List.mem_cons_self,
      hypothesis (fun d member => spells d (List.mem_cons_of_mem c member)), Option.map_map]
    rfl

/-- Characters that stand for themselves. -/
theorem items_exactly {sets : Bool} {token : Char → Token}
    (plain : ∀ c ∈ value, token c = (true, c) ∨
      (token c = (false, c) ∧ c ≠ '%' ∧ c ≠ '_' ∧ ¬(sets = true ∧ c = '[')))
    (rest : List Token) :
    items sets none (value.map token ++ rest) =
      (items sets none rest).map (value.map .exactly ++ ·) := by
  induction value with
  | nil => exact Option.map_id'.symm
  | cons c value hypothesis =>
    have later := hypothesis fun d member => plain d (List.mem_cons_of_mem c member)
    have first : items sets none (token c :: (value.map token ++ rest)) =
        (items sets none (value.map token ++ rest)).map (.exactly c :: ·) := by
      rcases plain c List.mem_cons_self with escaped | ⟨plainly, notMany, notOne, notSet⟩
      · rw [escaped, items]
      · rw [plainly, items, if_neg notMany, if_neg notOne, if_neg notSet]
    rw [List.map_cons, List.cons_append, first, later, Option.map_map]
    rfl

end DbFree.LikePatterns
