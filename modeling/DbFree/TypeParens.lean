import DbFree.TypeNames

/- The parentheses of a type: what stands between two that match, and the wrappers and attributes
around a type. -/
namespace DbFree.Ddl

open Texts

section Matching

/-- How many parentheses are open, and in which quotes, behind a text that closes none of those
that were open before it. -/
def openAfter : Nat → Option Char → Text → Option (Nat × Option Char)
  | depth, quote, [] => some (depth, quote)
  | depth, some quote, c :: rest => openAfter depth (if c = quote then none else some quote) rest
  | depth, none, c :: rest =>
    if isQuote c then openAfter depth (some c) rest
    else if c = '(' then openAfter (depth + 1) none rest
    else if c = ')' then
      match depth with
      | 0 => none
      | depth + 1 => openAfter depth none rest
    else openAfter depth none rest

theorem openAfter_quoted (depth : Nat) (quote c : Char) (rest : Text) :
    openAfter depth (some quote) (c :: rest) =
      openAfter depth (if c = quote then none else some quote) rest := rfl

theorem openAfter_bare (depth : Nat) (c : Char) (rest : Text) :
    openAfter depth none (c :: rest) =
      if isQuote c then openAfter depth (some c) rest
      else if c = '(' then openAfter (depth + 1) none rest
      else if c = ')' then
        match depth with
        | 0 => none
        | depth + 1 => openAfter depth none rest
      else openAfter depth none rest := rfl

/-- The quotes one is in behind a character. -/
def quoteStep : Option Char → Char → Option Char
  | some quote, c => if c = quote then none else some quote
  | none, c => if isQuote c then some c else none

theorem quoteStep_none (c : Char) : quoteStep none c = if isQuote c then some c else none := rfl

theorem quoteStep_some (quote c : Char) :
    quoteStep (some quote) c = if c = quote then none else some quote := rfl

/-- What a character does to the open parentheses and the quotes one is in; nothing where it
closes a parenthesis that was open before. -/
def parenStep : Nat → Option Char → Char → Option (Nat × Option Char)
  | depth, some quote, c => some (depth, if c = quote then none else some quote)
  | depth, none, c =>
    if isQuote c then some (depth, some c)
    else if c = '(' then some (depth + 1, none)
    else if c = ')' then
      match depth with
      | 0 => none
      | depth + 1 => some (depth, none)
    else some (depth, none)

theorem parenStep_bare (depth : Nat) (c : Char) :
    parenStep depth none c =
      if isQuote c then some (depth, some c)
      else if c = '(' then some (depth + 1, none)
      else if c = ')' then
        match depth with
        | 0 => none
        | depth + 1 => some (depth, none)
      else some (depth, none) := rfl

theorem openAfter_nil (depth : Nat) (quote : Option Char) :
    openAfter depth quote [] = some (depth, quote) := by
  cases quote <;> rfl

theorem openAfter_cons (depth : Nat) (quote : Option Char) (c : Char) (rest : Text) :
    openAfter depth quote (c :: rest) =
      (parenStep depth quote c).bind fun state => openAfter state.1 state.2 rest := by
  cases quote with
  | some quote => rfl
  | none =>
    rw [openAfter_bare, parenStep_bare]
    split
    · rfl
    · split
      · rfl
      · split
        · cases depth <;> rfl
        · rfl

theorem matchingParen_cons (depth : Nat) (quote : Option Char) (c : Char) (rest : Text) :
    matchingParen depth quote (c :: rest) = match parenStep depth quote c with
      | none => some ([], rest)
      | some state =>
        (matchingParen state.1 state.2 rest).map fun parts => (c :: parts.1, parts.2) := by
  cases quote with
  | some quote => rfl
  | none =>
    rw [parenStep_bare]
    by_cases quoted : isQuote c = true
    · rw [if_pos quoted]
      exact if_pos quoted
    · rw [if_neg quoted]
      apply (if_neg quoted).trans
      split
      · rfl
      · split
        · cases depth <;> rfl
        · rfl

theorem parenStep_none {depth : Nat} {quote : Option Char} {c : Char}
    (closes : parenStep depth quote c = none) : depth = 0 ∧ quote = none ∧ c = ')' := by
  cases quote with
  | some quote => cases closes
  | none =>
    rw [parenStep_bare] at closes
    split at closes
    · cases closes
    · split at closes
      · cases closes
      · split at closes
        · next closing =>
          cases depth with
          | zero => exact ⟨rfl, rfl, closing⟩
          | succ depth => cases closes
        · cases closes

/-- What a character that closes nothing of before does, and that it does it inside of more
parentheses too. -/
theorem parenStep_some {depth : Nat} {quote : Option Char} {c : Char} {state : Nat × Option Char}
    (stepped : parenStep depth quote c = some state) :
    state.2 = quoteStep quote c ∧ (c ≠ '(' → state.1 ≤ depth) ∧
      parenStep (depth + 1) quote c = some (state.1 + 1, state.2) := by
  cases quote with
  | some quote =>
    cases stepped
    exact ⟨rfl, fun _ => Nat.le_refl depth, rfl⟩
  | none =>
    rw [parenStep_bare] at stepped ⊢
    rw [quoteStep_none]
    split at stepped
    · next quoted =>
      cases stepped
      rw [if_pos quoted, if_pos quoted]
      exact ⟨rfl, fun _ => Nat.le_refl depth, rfl⟩
    · next unquoted =>
      rw [if_neg unquoted, if_neg unquoted]
      split at stepped
      · next opening =>
        cases stepped
        exact ⟨rfl, fun other => absurd opening other, if_pos opening⟩
      · next other =>
        rw [if_neg other]
        split at stepped
        · next closing =>
          rw [if_pos closing]
          cases depth with
          | zero => cases stepped
          | succ depth =>
            cases stepped
            exact ⟨rfl, fun _ => Nat.le_succ depth, rfl⟩
        · next stays =>
          cases stepped
          exact ⟨rfl, fun _ => Nat.le_refl depth, if_neg stays⟩

theorem openAfter_step {depth : Nat} {quote : Option Char} {c : Char} {rest : Text}
    {state : Nat × Option Char} (opened : openAfter depth quote (c :: rest) = some state) :
    ∃ depth', parenStep depth quote c = some (depth', quoteStep quote c) ∧
      openAfter depth' (quoteStep quote c) rest = some state := by
  rw [openAfter_cons] at opened
  obtain ⟨⟨depth', quote'⟩, stepped, opened⟩ := Option.bind_eq_some_iff.mp opened
  obtain rfl := (parenStep_some stepped).1
  exact ⟨depth', stepped, opened⟩

/-- A text whose parentheses match and whose quotes are closed. -/
def Closed (text : Text) : Prop := openAfter 0 none text = some (0, none)

theorem openAfter_append (front rest : Text) : ∀ depth quote,
    openAfter depth quote (front ++ rest) =
      (openAfter depth quote front).bind fun state => openAfter state.1 state.2 rest := by
  induction front with
  | nil =>
    intro depth quote
    rw [openAfter_nil]
    rfl
  | cons c front ih =>
    intro depth quote
    rw [List.cons_append, openAfter_cons, openAfter_cons, Option.bind_assoc]
    exact congrArg _ (funext fun state => ih state.1 state.2)

/-- Reading on behind a text that closes none of the parentheses open before it. -/
theorem matchingParen_append (front rest : Text) : ∀ depth quote state,
    openAfter depth quote front = some state →
      matchingParen depth quote (front ++ rest) =
        (matchingParen state.1 state.2 rest).map fun parts => (front ++ parts.1, parts.2) := by
  induction front with
  | nil =>
    intro depth quote state opened
    rw [openAfter_nil] at opened
    rw [← Option.some.inj opened]
    exact Option.map_id'.symm
  | cons c front ih =>
    intro depth quote state opened
    obtain ⟨depth', stepped, opened⟩ := openAfter_step opened
    rw [List.cons_append, matchingParen_cons, stepped]
    dsimp only
    rw [ih _ _ _ opened, Option.map_map]
    rfl

/-- What stands between matching parentheses is closed. -/
theorem matchingParen_parts (text : Text) : ∀ depth quote parts,
    matchingParen depth quote text = some parts →
      text = parts.1 ++ ')' :: parts.2 ∧ openAfter depth quote parts.1 = some (0, none) := by
  induction text with
  | nil =>
    intro depth quote parts found
    cases quote <;> cases found
  | cons c rest ih =>
    intro depth quote parts found
    rw [matchingParen_cons] at found
    cases stepped : parenStep depth quote c with
    | none =>
      obtain ⟨rfl, rfl, rfl⟩ := parenStep_none stepped
      rw [stepped] at found
      rw [← Option.some.inj found]
      exact ⟨rfl, rfl⟩
    | some state =>
      rw [stepped] at found
      obtain ⟨inner, isInner, rfl⟩ := Option.map_eq_some_iff.mp found
      obtain ⟨split, closed⟩ := ih _ _ _ isInner
      constructor
      · rw [List.cons_append, ← split]
      · rw [openAfter_cons, stepped]
        exact closed

theorem matchingParen_closed {text : Text} (closed : Closed text) (rest : Text) :
    matchingParen 0 none (text ++ ')' :: rest) = some (text, rest) := by
  rw [matchingParen_append text _ 0 none (0, none) closed]
  exact congrArg (fun inner => some (inner, rest)) (List.append_nil text)

theorem openAfter_plain {text : Text}
    (plain : ∀ c ∈ text, isQuote c = false ∧ c ≠ '(' ∧ c ≠ ')') (depth : Nat) :
    openAfter depth none text = some (depth, none) := by
  induction text with
  | nil => rfl
  | cons c text ih =>
    have ⟨unquoted, notOpening, notClosing⟩ := plain c List.mem_cons_self
    rw [openAfter_bare, unquoted, if_neg Bool.false_ne_true, if_neg notOpening, if_neg notClosing]
    exact ih fun d mem => plain d (List.mem_cons_of_mem c mem)

theorem white_plain {c : Char} (white : Chars.isWhitespace c = true) :
    isQuote c = false ∧ c ≠ '(' ∧ c ≠ ')' := by
  refine ⟨?_, ?_, ?_⟩
  · unfold isQuote
    simp only [Bool.or_eq_false_iff, beq_eq_false_iff_ne]
    refine ⟨⟨?_, ?_⟩, ?_⟩ <;> intro same <;> rw [same] at white <;> revert white <;> decide
  · intro same
    rw [same] at white
    revert white
    decide
  · intro same
    rw [same] at white
    revert white
    decide

theorem openAfter_inside {text : Text} {quote : Char} (other : ∀ c ∈ text, c ≠ quote)
    (depth : Nat) : openAfter depth (some quote) text = some (depth, some quote) := by
  induction text with
  | nil => rfl
  | cons c text ih =>
    rw [openAfter_quoted, if_neg (other c List.mem_cons_self)]
    exact ih fun d mem => other d (List.mem_cons_of_mem c mem)

theorem quoteStep_quote {quote : Option Char} (quotes : ∀ c, quote = some c → isQuote c = true)
    (c mark : Char) (step : quoteStep quote c = some mark) : isQuote mark = true := by
  cases quote with
  | none =>
    rw [quoteStep_none] at step
    split at step
    · next quoted =>
      rw [← Option.some.inj step]
      exact quoted
    · cases step
  | some quote =>
    rw [quoteStep_some] at step
    split at step
    · cases step
    · exact quotes mark step

theorem openAfter_quote (text : Text) : ∀ depth quote depth' mark,
    (∀ c, quote = some c → isQuote c = true) →
      openAfter depth quote text = some (depth', some mark) → isQuote mark = true := by
  induction text with
  | nil =>
    intro depth quote depth' mark quotes opened
    rw [openAfter_nil] at opened
    exact quotes mark (congrArg Prod.snd (Option.some.inj opened))
  | cons c text ih =>
    intro depth quote depth' mark quotes opened
    obtain ⟨_, -, opened⟩ := openAfter_step opened
    exact ih _ _ _ _ (quoteStep_quote quotes c) opened

theorem closed_trim {text : Text} (closed : Closed text) : Closed (trim text) := by
  have ⟨front, back, split, left, right⟩ := strip_parts Chars.isWhitespace text
  have split : text = front ++ trim text ++ back := split
  unfold Closed at closed ⊢
  rw [split, List.append_assoc, openAfter_append,
    openAfter_plain fun c mem => white_plain (left c mem)] at closed
  rw [Option.bind_some, openAfter_append] at closed
  cases inner : openAfter 0 none (trim text) with
  | none =>
    rw [inner] at closed
    cases closed
  | some state =>
    rw [inner, Option.bind_some] at closed
    have ⟨depth, quote⟩ := state
    cases quote with
    | none =>
      rw [openAfter_plain fun c mem => white_plain (right c mem)] at closed
      exact closed
    | some quote =>
      have quoted := openAfter_quote _ _ _ _ _ (by intro c wrong; cases wrong) inner
      have other : ∀ c ∈ back, c ≠ quote := by
        intro c mem same
        have plain := (white_plain (right c mem)).1
        rw [same, quoted] at plain
        cases plain
      rw [openAfter_inside other] at closed
      cases closed

/-- A character leads from different quotes to different quotes. -/
theorem quoteStep_differ {first second : Option Char}
    (quotes : ∀ c, first = some c → isQuote c = true)
    (quotes' : ∀ c, second = some c → isQuote c = true) (differ : first ≠ second) (c : Char) :
    quoteStep first c ≠ quoteStep second c := by
  have outside (quote : Char) (isOne : isQuote quote = true) :
      quoteStep (some quote) c ≠ quoteStep none c := by
    rw [quoteStep_some, quoteStep_none]
    by_cases ends : c = quote
    · rw [if_pos ends, ends, if_pos isOne]
      nofun
    · rw [if_neg ends]
      split
      · intro same
        exact ends (Option.some.inj same).symm
      · nofun
  cases first with
  | none =>
    cases second with
    | none => exact absurd rfl differ
    | some second => exact (outside second (quotes' second rfl)).symm
  | some first =>
    cases second with
    | none => exact outside first (quotes first rfl)
    | some second =>
      rw [quoteStep_some, quoteStep_some]
      by_cases ends : c = first
      · have other : c ≠ second := by
          intro same
          exact differ (congrArg some (ends.symm.trans same))
        rw [if_pos ends, if_neg other]
        nofun
      · rw [if_neg ends]
        by_cases ends' : c = second
        · rw [if_pos ends']
          nofun
        · rw [if_neg ends']
          exact differ

theorem openAfter_differ (text : Text) : ∀ {depth depth' : Nat} {first second : Option Char}
    {state state' : Nat × Option Char}, (∀ c, first = some c → isQuote c = true) →
      (∀ c, second = some c → isQuote c = true) → first ≠ second →
        openAfter depth first text = some state → openAfter depth' second text = some state' →
          state.2 ≠ state'.2 := by
  induction text with
  | nil =>
    intro depth depth' first second state state' _ _ differ opened opened'
    rw [openAfter_nil] at opened opened'
    rw [← Option.some.inj opened, ← Option.some.inj opened']
    exact differ
  | cons c text ih =>
    intro depth depth' first second state state' quotes quotes' differ opened opened'
    have ⟨_, _, step⟩ := openAfter_step opened
    have ⟨_, _, step'⟩ := openAfter_step opened'
    exact ih (quoteStep_quote quotes c) (quoteStep_quote quotes' c)
      (quoteStep_differ quotes quotes' differ c) step step'

theorem openAfter_noOpening (text : Text) : ∀ {depth : Nat} {quote : Option Char}
    {state : Nat × Option Char}, '(' ∉ text → openAfter depth quote text = some state →
      state.1 ≤ depth := by
  induction text with
  | nil =>
    intro depth quote state _ opened
    rw [openAfter_nil] at opened
    rw [← Option.some.inj opened]
  | cons c text ih =>
    intro depth quote state plain opened
    obtain ⟨other, plain⟩ := List.ne_and_not_mem_of_not_mem_cons plain
    obtain ⟨_, stepped, opened⟩ := openAfter_step opened
    exact Nat.le_trans (ih plain opened) ((parenStep_some stepped).2.1 other.symm)

/-- Where a whole type is closed, so is the name before its arguments. -/
theorem closed_name {start args after : Text} (plain : '(' ∉ start) (closed : Closed args)
    (white : ∀ c ∈ after, Chars.isWhitespace c = true)
    (whole : Closed (start ++ '(' :: (args ++ ')' :: after))) : Closed start := by
  unfold Closed at whole
  rw [openAfter_append] at whole
  have ⟨state, isState, whole⟩ := Option.bind_eq_some_iff.mp whole
  have none := Nat.le_zero.mp (openAfter_noOpening start plain isState)
  have ⟨depth, quote⟩ := state
  cases quote with
  | none =>
    unfold Closed
    rw [isState]
    exact congrArg some (Prod.ext none rfl)
  | some quote =>
    exfalso
    have noQuote : ∀ c, (Option.none : Option Char) = some c → isQuote c = true := nofun
    have quoted := openAfter_quote start _ _ _ _ noQuote isState
    have stays (mark : Char) (other : isQuote mark = false) (inner : Char)
        (isInner : isQuote inner = true) : mark ≠ inner := by
      intro same
      rw [same, isInner] at other
      cases other
    rw [openAfter_quoted, if_neg (stays '(' (by decide) quote quoted), openAfter_append] at whole
    have ⟨state', isState', whole⟩ := Option.bind_eq_some_iff.mp whole
    have inQuote : ∀ c, some quote = some c → isQuote c = true := by
      intro c same
      rw [← Option.some.inj same]
      exact quoted
    have differ := openAfter_differ args inQuote noQuote nofun isState' closed
    have ⟨depth', quote'⟩ := state'
    cases quote' with
    | none => exact differ rfl
    | some inner =>
      have quoted' := openAfter_quote args _ _ _ _ inQuote isState'
      have others : ∀ c ∈ after, c ≠ inner :=
        fun c mem => stays c (white_plain (white c mem)).1 inner quoted'
      rw [openAfter_quoted, if_neg (stays ')' (by decide) inner quoted'),
        openAfter_inside others] at whole
      cases whole

end Matching

section Wrapping

theorem beforeParen_cases (text : Text) :
    ('(' ∉ text ∧ beforeParen text = (text, none)) ∨
      ∃ start rest, text = start ++ '(' :: rest ∧ '(' ∉ start ∧
        beforeParen text = (start, some rest) := by
  have plain : '(' ∉ text.takeWhile (· ≠ '(') := by
    intro mem
    have notParen := List.mem_takeWhile_imp mem
    simp at notParen
  have whole := List.takeWhile_append_dropWhile (p := (· ≠ '(')) (l := text)
  unfold beforeParen
  rw [List.span_eq_takeWhile_dropWhile]
  cases rest : text.dropWhile (· ≠ '(') with
  | nil =>
    left
    rw [rest, List.append_nil] at whole
    rw [whole] at plain ⊢
    exact ⟨plain, rfl⟩
  | cons c rest' =>
    right
    have isParen : c = '(' := by
      have first := List.head_dropWhile_not (· ≠ '(') (l := text) (by rw [rest]; simp)
      simp only [rest, List.head_cons] at first
      simpa using first
    rw [rest, isParen] at whole
    exact ⟨_, rest', whole.symm, plain, rfl⟩

theorem beforeParen_append {start : Text} (plain : '(' ∉ start) (rest : Text) :
    beforeParen (start ++ '(' :: rest) = (start, some rest) := by
  have all : ∀ c ∈ start, decide (c ≠ '(') = true := by
    intro c mem
    apply decide_eq_true
    intro same
    rw [same] at mem
    exact plain mem
  unfold beforeParen
  rw [List.span_eq_takeWhile_dropWhile, List.takeWhile_append_of_pos all,
    List.dropWhile_append_of_pos all]
  simp

theorem beforeParen_plain {text : Text} (plain : '(' ∉ text) : beforeParen text = (text, none) := by
  cases beforeParen_cases text with
  | inl none => exact none.2
  | inr found =>
    have ⟨start, rest, split, _⟩ := found
    rw [split] at plain
    exact absurd (List.mem_append_right start List.mem_cons_self) plain

theorem wrapper_names {name : Text}
    (wrapper : isIn name ["Nullable", "LowCardinality", "Array"] = true) :
    name = "Nullable".toList ∨ name = "LowCardinality".toList ∨ name = "Array".toList := by
  unfold isIn at wrapper
  simp only [List.any_cons, List.any_nil, Bool.or_false, Bool.or_eq_true, beq_iff_eq] at wrapper
  cases wrapper with
  | inl nullable => exact .inl nullable.symm
  | inr later =>
    cases later with
    | inl lowCardinality => exact .inr (.inl lowCardinality.symm)
    | inr array => exact .inr (.inr array.symm)

/-- What the fuel of `layersOf` is for: a layer is shorter than what it is around. -/
theorem layersOf_enough (turns : Nat) : ∀ text : Text, text.length ≤ turns →
    layersOf turns text = layersOf text.length text := by
  induction turns using Nat.strongRecOn with
  | ind turns ih =>
    intro text long
    cases turns with
    | zero => rw [Nat.le_zero.mp long]
    | succ turns =>
      cases size : text.length with
      | zero =>
        rw [List.length_eq_zero_iff.mp size]
        rfl
      | succ size' =>
        unfold layersOf
        cases beforeParen_cases text with
        | inl none => rw [none.2]
        | inr found =>
          have ⟨start, rest, split, _, isBefore⟩ := found
          rw [isBefore]
          dsimp only
          by_cases wrapper : isIn (trim start) ["Nullable", "LowCardinality", "Array"] = true
          · rw [if_pos wrapper, if_pos wrapper]
            cases inside : matchingParen 0 none rest with
            | none => rfl
            | some parts =>
              have ⟨inner, after⟩ := parts
              dsimp only
              by_cases ends : blank after = true
              · rw [if_pos ends, if_pos ends]
                have parts := (matchingParen_parts rest 0 none _ inside).1
                have shorter : (trim inner).length ≤ size' := by
                  have trimmed := trim_length inner
                  have whole := congrArg List.length split
                  rw [parts] at whole
                  simp only [List.length_append, List.length_cons] at whole
                  omega
                rw [ih turns (Nat.lt_succ_self turns) _ (by omega),
                  ih size' (by omega) _ shorter]
              · rw [if_neg ends, if_neg ends]
          · rw [if_neg wrapper, if_neg wrapper]

/-- A type that stands in no wrapper. -/
def Bare (text : Text) : Prop := layersOf text.length text = some ([], text)

theorem bare_plain {text : Text} (plain : '(' ∉ text) : Bare text := by
  unfold Bare
  cases text.length with
  | zero => rfl
  | succ turns =>
    rw [layersOf, beforeParen_plain plain]

theorem layersOf_length (turns : Nat) : ∀ text layers inner,
    layersOf turns text = some (layers, inner) → inner.length ≤ text.length := by
  induction turns with
  | zero =>
    intro text layers inner found
    cases found
    exact Nat.le_refl _
  | succ turns ih =>
    intro text layers inner found
    rw [layersOf] at found
    cases beforeParen_cases text with
    | inl none =>
      rw [none.2] at found
      cases found
      exact Nat.le_refl _
    | inr before =>
      have ⟨start, rest, split, _, isBefore⟩ := before
      rw [isBefore] at found
      dsimp only at found
      split at found
      · cases inside : matchingParen 0 none rest with
        | none =>
          rw [inside] at found
          cases found
        | some parts =>
          rw [inside] at found
          dsimp only at found
          split at found
          · have ⟨below, isBelow, same⟩ := Option.map_eq_some_iff.mp found
            have fits := ih _ below.1 below.2 isBelow
            have trimmed := trim_length parts.1
            have size := congrArg List.length split
            rw [(matchingParen_parts rest 0 none _ inside).1] at size
            simp only [List.length_append, List.length_cons] at size
            cases same
            omega
          · cases found
            exact Nat.le_refl _
      · cases found
        exact Nat.le_refl _

theorem layersOf_inner (turns : Nat) : ∀ text layers inner, text.length ≤ turns →
    trim text = text → layersOf turns text = some (layers, inner) →
      trim inner = inner ∧ Bare inner ∧ (layers ≠ [] → Closed inner) ∧
      (layers = [] → inner = text) ∧
      ∀ layer ∈ layers, isIn layer ["Nullable", "LowCardinality", "Array"] = true := by
  induction turns with
  | zero =>
    intro text layers inner long trimmed found
    have empty := List.length_eq_zero_iff.mp (Nat.le_zero.mp long)
    rw [empty] at found ⊢
    cases found
    refine ⟨rfl, rfl, fun some => absurd rfl some, fun _ => rfl, ?_⟩
    intro layer mem
    cases mem
  | succ turns ih =>
    intro text layers inner long trimmed found
    have whole := layersOf_enough (turns + 1) text long
    have stays (same : some (([] : List Text), text) = some (layers, inner)) :
        trim inner = inner ∧ Bare inner ∧ (layers ≠ [] → Closed inner) ∧
          (layers = [] → inner = text) ∧
          ∀ layer ∈ layers, isIn layer ["Nullable", "LowCardinality", "Array"] = true := by
      rw [found, ← same] at whole
      cases same
      refine ⟨trimmed, whole.symm, fun some => absurd rfl some, fun _ => rfl, ?_⟩
      intro layer mem
      cases mem
    have kept := found
    unfold layersOf at found
    cases beforeParen_cases text with
    | inl none =>
      rw [none.2] at found
      exact stays found
    | inr before =>
      have ⟨start, rest, split, _, isBefore⟩ := before
      rw [isBefore] at found
      dsimp only at found
      by_cases wrapper : isIn (trim start) ["Nullable", "LowCardinality", "Array"] = true
      · rw [if_pos wrapper] at found
        cases inside : matchingParen 0 none rest with
        | none =>
          rw [inside] at found
          cases found
        | some parts =>
          rw [inside] at found
          dsimp only at found
          by_cases ends : blank parts.2 = true
          · rw [if_pos ends] at found
            have ⟨split', closed⟩ := matchingParen_parts rest 0 none _ inside
            have shorter : (trim parts.1).length ≤ turns := by
              have short := trim_length parts.1
              have size := congrArg List.length split
              rw [split'] at size
              simp only [List.length_append, List.length_cons] at size
              omega
            have ⟨below, isBelow, same⟩ := Option.map_eq_some_iff.mp found
            have ⟨trimmed', bare, closed', unwrapped, all⟩ :=
              ih _ below.1 below.2 shorter (trim_trim _) isBelow
            cases same
            refine ⟨trimmed', bare, ?_, ?_, ?_⟩
            · intro _
              by_cases more : below.1 = []
              · rw [unwrapped more]
                exact closed_trim closed
              · exact closed' more
            · intro wrong
              cases wrong
            · intro layer mem
              cases List.mem_cons.mp mem with
              | inl first =>
                rw [first]
                exact wrapper
              | inr later => exact all layer later
          · rw [if_neg ends] at found
            exact stays found
      · rw [if_neg wrapper] at found
        exact stays found

theorem trim_between {first last : Char} (middle : Text)
    (starts : Chars.isWhitespace first = false) (ends : Chars.isWhitespace last = false) :
    trim (first :: (middle ++ [last])) = first :: (middle ++ [last]) := by
  unfold trim trimEnd trimStart
  rw [List.dropWhile_cons_of_neg (by rw [starts]; decide), ← List.cons_append,
    List.rdropWhile_concat_neg _ _ _ (by rw [ends]; decide)]

theorem openAfter_shift (text : Text) : ∀ depth quote depth' quote',
    openAfter depth quote text = some (depth', quote') →
      openAfter (depth + 1) quote text = some (depth' + 1, quote') := by
  induction text with
  | nil =>
    intro depth quote depth' quote' opened
    rw [openAfter_nil] at opened ⊢
    cases opened
    rfl
  | cons c text ih =>
    intro depth quote depth' quote' opened
    obtain ⟨_, stepped, opened⟩ := openAfter_step opened
    rw [openAfter_cons, (parenStep_some stepped).2.2]
    exact ih _ _ _ _ opened

theorem closed_append {front rest : Text} (front_closed : Closed front) (rest_closed : Closed rest) :
    Closed (front ++ rest) := by
  unfold Closed at front_closed rest_closed ⊢
  rw [openAfter_append, front_closed, Option.bind_some, rest_closed]

theorem closed_inParens {text : Text} (closed : Closed text) : Closed (inParens text) := by
  unfold inParens Closed
  rw [List.cons_append, openAfter_bare, if_neg (by decide), if_pos rfl, openAfter_append,
    openAfter_shift text 0 none 0 none closed]
  rfl

def layered (layers : List Text) (inner : Text) : Text :=
  layers.foldr (fun layer inside => layer ++ inParens inside) inner

theorem wrapper_plain {name : Text}
    (wrapper : isIn name ["Nullable", "LowCardinality", "Array"] = true) :
    '(' ∉ name ∧ trim name = name ∧ Closed name ∧
      ∃ first rest, name = first :: rest ∧ Chars.isWhitespace first = false := by
  cases wrapper_names wrapper with
  | inl nullable =>
    rw [nullable]
    exact ⟨by decide, by decide, by unfold Closed; decide, 'N', "ullable".toList, rfl, by decide⟩
  | inr later =>
    cases later with
    | inl lowCardinality =>
      rw [lowCardinality]
      exact ⟨by decide, by decide, by unfold Closed; decide, 'L', "owCardinality".toList, rfl,
        by decide⟩
    | inr array =>
      rw [array]
      exact ⟨by decide, by decide, by unfold Closed; decide, 'A', "rray".toList, rfl, by decide⟩

theorem layersOf_layered (layers : List Text) {inner : Text}
    (all : ∀ layer ∈ layers, isIn layer ["Nullable", "LowCardinality", "Array"] = true)
    (trimmed : trim inner = inner) (closed : Closed inner) (bare : Bare inner) :
    layersOf (layered layers inner).length (layered layers inner) = some (layers, inner) ∧
      trim (layered layers inner) = layered layers inner ∧ Closed (layered layers inner) := by
  induction layers with
  | nil => exact ⟨bare, trimmed, closed⟩
  | cons layer layers ih =>
    have ⟨found, trimmed', closed'⟩ := ih fun other mem => all other (List.mem_cons_of_mem _ mem)
    have wrapper := all layer List.mem_cons_self
    have ⟨plain, trimmedName, closedName, first, rest, isName, visible⟩ := wrapper_plain wrapper
    have isLayered : layered (layer :: layers) inner = layer ++ inParens (layered layers inner) :=
      rfl
    rw [isLayered]
    generalize layered layers inner = below at found trimmed' closed' ⊢
    refine ⟨?_, ?_, closed_append closedName (closed_inParens closed')⟩
    · have shape : layer ++ inParens below = layer ++ '(' :: (below ++ [')']) := rfl
      have size : (layer ++ inParens below).length = layer.length + (below.length + 1) + 1 := by
        rw [shape]
        simp only [List.length_append, List.length_cons, List.length_nil]
        omega
      rw [size, shape]
      unfold layersOf
      rw [beforeParen_append plain]
      dsimp only
      rw [trimmedName, if_pos wrapper, matchingParen_closed closed' []]
      dsimp only
      rw [if_pos (show blank [] = true from rfl), trimmed',
        layersOf_enough _ below (by omega), found]
      rfl
    · rw [isName]
      unfold inParens
      rw [List.cons_append, show rest ++ ('(' :: below ++ [')']) =
        (rest ++ '(' :: below) ++ [')'] from (List.append_assoc _ _ _).symm]
      exact trim_between _ visible (by decide)

/-- The layers of a wrapper and a nullable mark. -/
def layersNamed (wrapper : Option Text) (nullable : Bool) : List Text :=
  wrapper.toList ++ (if nullable then ["Nullable".toList] else [])

theorem mem_of_isIn {name : Text} {table others : List String} (found : isIn name table = true)
    (subset : ∀ entry ∈ table, entry ∈ others) : isIn name others = true := by
  unfold isIn at found ⊢
  have ⟨entry, mem, same⟩ := List.any_eq_true.mp found
  exact List.any_eq_true.mpr ⟨entry, subset entry mem, same⟩

/-- What is peeled of a type. -/
structure Peeled (text inner : Text) (wrapper : Option Text) (nullable : Bool) : Prop where
  trimmed : trim inner = inner
  bare : Bare inner
  closed : layersNamed wrapper nullable ≠ [] → Closed inner
  whole : layersNamed wrapper nullable = [] → inner = text
  wrapper : ∀ name, wrapper = some name → isIn name ["LowCardinality", "Array"] = true

theorem peel_layers {text inner : Text} {wrapper : Option Text} {nullable : Bool}
    (trimmed : trim text = text)
    (peeled : peelClickhouse text = some (inner, wrapper, nullable)) :
    layersOf text.length text = some (layersNamed wrapper nullable, inner) ∧
      ∀ name, wrapper = some name → name ≠ "Nullable".toList := by
  have isNullable {name : Text} (known : isIn name ["Nullable"] = true) :
      name = "Nullable".toList := by
    have ⟨entry, mem, same⟩ := List.any_eq_true.mp known
    rw [← eq_of_beq same, List.mem_singleton.mp mem]
  unfold peelClickhouse at peeled
  rw [trimmed] at peeled
  cases found : layersOf text.length text with
  | none =>
    rw [found] at peeled
    cases peeled
  | some parts =>
    have ⟨layers, core⟩ := parts
    rw [found] at peeled
    cases layers with
    | nil =>
      cases peeled
      exact ⟨rfl, nofun⟩
    | cons outer layers =>
      cases layers with
      | nil =>
        dsimp only at peeled
        by_cases null : isIn outer ["Nullable"] = true
        · rw [if_pos null] at peeled
          cases peeled
          rw [isNullable null]
          exact ⟨rfl, nofun⟩
        · rw [if_neg null] at peeled
          cases peeled
          refine ⟨rfl, ?_⟩
          rintro _ ⟨⟩ rfl
          exact null (by decide)
      | cons second layers =>
        cases layers with
        | cons third layers => cases peeled
        | nil =>
          dsimp only at peeled
          by_cases shape : (isIn outer ["LowCardinality", "Array"] && isIn second ["Nullable"]) =
              true
          · rw [if_pos shape] at peeled
            cases peeled
            obtain ⟨outer_known, inner_null⟩ := Bool.and_eq_true_iff.mp shape
            rw [isNullable inner_null]
            refine ⟨rfl, ?_⟩
            rintro _ ⟨⟩ rfl
            exact absurd outer_known (by decide)
          · rw [if_neg shape] at peeled
            cases peeled

theorem peel_ok {text inner : Text} {wrapper : Option Text} {nullable : Bool}
    (trimmed : trim text = text)
    (peeled : peelClickhouse text = some (inner, wrapper, nullable)) :
    Peeled text inner wrapper nullable := by
  obtain ⟨found, other⟩ := peel_layers trimmed peeled
  obtain ⟨trimmed', bare, closed, whole, all⟩ :=
    layersOf_inner text.length text _ inner (Nat.le_refl _) trimmed found
  refine ⟨trimmed', bare, closed, whole, ?_⟩
  intro name same
  rcases wrapper_names (all name (List.mem_append_left _ (Option.mem_toList.mpr same))) with
    isNull | isLow | isArray
  · exact absurd isNull (other name same)
  · rw [isLow]
    decide
  · rw [isArray]
    decide

theorem peel_plain {text : Text} (trimmed : trim text = text) (plain : '(' ∉ text) :
    peelClickhouse text = some (text, none, false) := by
  have bare := bare_plain plain
  unfold Bare at bare
  unfold peelClickhouse
  rw [trimmed, bare]

theorem layersOf_wrapped {text core inner : Text} {wrapper : Option Text} {nullable : Bool}
    (peeled : Peeled text core wrapper nullable) (trimmed : trim inner = inner)
    (bare : Bare inner) (closed : layersNamed wrapper nullable ≠ [] → Closed inner) :
    layersOf (layered (layersNamed wrapper nullable) inner).length
        (layered (layersNamed wrapper nullable) inner) =
        some (layersNamed wrapper nullable, inner) ∧
      trim (layered (layersNamed wrapper nullable) inner) =
        layered (layersNamed wrapper nullable) inner := by
  have known : ∀ layer ∈ layersNamed wrapper nullable,
      isIn layer ["Nullable", "LowCardinality", "Array"] = true := by
    intro layer mem
    unfold layersNamed at mem
    cases List.mem_append.mp mem with
    | inl outer =>
      exact mem_of_isIn (peeled.wrapper layer (Option.mem_toList.mp outer)) (by decide)
    | inr null =>
      cases nullable with
      | false => cases null
      | true =>
        rw [List.mem_singleton.mp null]
        decide
  by_cases none : layersNamed wrapper nullable = []
  · rw [none]
    exact ⟨bare, trimmed⟩
  · have ⟨found, trimmed', _⟩ := layersOf_layered _ known trimmed (closed none) bare
    exact ⟨found, trimmed'⟩

/-- A type put back into its wrapper is peeled the same. -/
theorem peel_layered {text core inner : Text} {wrapper : Option Text} {nullable : Bool}
    (peeled : Peeled text core wrapper nullable) (trimmed : trim inner = inner)
    (bare : Bare inner) (closed : layersNamed wrapper nullable ≠ [] → Closed inner) :
    peelClickhouse (layered (layersNamed wrapper nullable) inner) =
      some (inner, wrapper, nullable) := by
  have found := layersOf_wrapped peeled trimmed bare closed
  unfold peelClickhouse
  rw [found.2, found.1]
  cases wrapper with
  | none =>
    cases nullable with
    | false => rfl
    | true => rfl
  | some name =>
    have outer := peeled.wrapper name rfl
    cases nullable with
    | false =>
      have other : ¬isIn name ["Nullable"] = true := by
        intro null
        unfold isIn at outer null
        simp only [List.any_cons, List.any_nil, Bool.or_false, Bool.or_eq_true,
          beq_iff_eq] at outer null
        rw [← null] at outer
        revert outer
        decide
      show (if isIn name ["Nullable"] = true then some (inner, none, true)
        else some (inner, some name, false)) = _
      rw [if_neg other]
    | true =>
      show (if (isIn name ["LowCardinality", "Array"] && isIn "Nullable".toList ["Nullable"]) = true
        then some (inner, some name, true) else none) = _
      rw [outer]
      rfl

end Wrapping

end DbFree.Ddl
