import DbFree.SplitterLookahead

/- A script read in chunks and read at once: where every turn finds what it looks for within
the characters held back, the chunks make no difference. -/
namespace DbFree.SqlImport

open SqlSplitter

/-- The splitter with another statement text and another carry. -/
def SqlSplitter.holding (s : SqlSplitter) (current carry : Text) : SqlSplitter :=
  { s with current := current, carry := carry }

namespace Scan

/-- The scan with all it has passed in the statement: where the chunks end leaves no trace. -/
def flat (scan : Scan) : Scan :=
  ⟨scan.splitter.holding (scan.splitter.current ++ scan.pending) [], [], []⟩

/-- The statement so far fits in memory, by the bytes that it takes. -/
def Small (scan : Scan) : Prop :=
  byteLength (scan.splitter.current ++ scan.pending) ≤ MAX_STATEMENT_CHARS

/-- The turns over a whole script; the last characters held back know that they are last. -/
def readAll : Nat → Scan → Text → Except AppError Scan
  | _, scan, [] => .ok scan
  | skip + 1, scan, _ :: rest => readAll skip scan rest
  | 0, scan, c :: rest =>
    match scan.step (decide (rest.length < HOLD)) c rest with
    | .error error => .error error
    | .ok (next, used) => readAll (used - 1) next rest

/-- At every turn over a script the statement is small, and what is looked for is near. -/
def Modest : Nat → Scan → Text → Prop
  | _, scan, [] => scan.Small
  | skip + 1, scan, _ :: rest => Modest skip scan rest
  | 0, scan, c :: rest =>
    scan.Small ∧ (HOLD ≤ rest.length → Fits scan.splitter (c :: rest)) ∧
      match scan.step (decide (rest.length < HOLD)) c rest with
      | .error _ => True
      | .ok (next, used) => Modest (used - 1) next rest

instance (scan : Scan) : Decidable scan.Small := inferInstanceAs (Decidable (_ ≤ _))

instance decidableModest : (skip : Nat) → (scan : Scan) → (text : Text) →
    Decidable (Modest skip scan text)
  | _, scan, [] => inferInstanceAs (Decidable scan.Small)
  | skip + 1, scan, _ :: rest => decidableModest skip scan rest
  | 0, scan, c :: rest =>
    have : Decidable (match scan.step (decide (rest.length < HOLD)) c rest with
      | .error _ => True
      | .ok (next, used) => Modest (used - 1) next rest) :=
      match scan.step (decide (rest.length < HOLD)) c rest with
      | .error _ => inferInstanceAs (Decidable True)
      | .ok (next, used) => decidableModest (used - 1) next rest
    inferInstanceAs (Decidable (_ ∧ _ ∧ _))

/-- The end of a script. -/
def ending (scan : Scan) : Except AppError (List SqlStatement) :=
  if scan.splitter.unclosed then
    .error (.invalidInput ("The script ends inside a quoted value or comment that began ".toList ++
      "before line ".toList ++ decimal scan.splitter.line ++ ". Check for a missing quote.".toList))
  else .ok (scan.out ++ scan.flat.splitter.takeStatement.2)

/-- A script read at once. -/
def readScript (scan : Scan) (script : Text) : Except AppError (List SqlStatement) :=
  match readAll 0 scan script with
  | .error error => .error error
  | .ok scan => scan.ending

end Scan

section Holding

variable {s : SqlSplitter} {last : Bool} {c : Char} {rest : Text}

theorem byteLength_append (front back : Text) :
    byteLength (front ++ back) = byteLength front + byteLength back := by
  rw [byteLength, byteLength, byteLength, List.map_append, List.sum_append]

theorem length_le_byteLength (text : Text) : text.length ≤ byteLength text := by
  induction text with
  | nil => exact Nat.le_refl 0
  | cons c text hypothesis =>
    have size := c.utf8Size_pos
    rw [byteLength, List.map_cons, List.sum_cons, List.length_cons]
    rw [byteLength] at hypothesis
    omega

theorem append_small {chars : Text} (small : byteLength (s.current ++ chars) ≤ MAX_STATEMENT_CHARS) :
    s.append chars = .ok (s.holding (s.current ++ chars) s.carry) := by
  have bytes := length_le_byteLength chars
  rw [byteLength_append] at small
  rw [SqlSplitter.append, if_neg (by omega)]
  rfl

theorem consume_holding (s : SqlSplitter) (current carry chars : Text) :
    (s.holding current carry).consume chars = (s.consume chars).holding current carry := by
  induction chars generalizing s with
  | nil => rfl
  | cons c chars hypothesis => exact hypothesis { s with
      line := if c = '\n' then s.line + 1 else s.line
      prev2 := s.prev
      prev := c }

theorem insideMove_holding (current carry : Text) :
    (s.holding current carry).insideMove c rest =
      ((s.insideMove c rest).1.holding current carry, (s.insideMove c rest).2) := by
  have comment : (s.holding current carry).comment = s.comment := rfl
  have nested : (s.holding current carry).nestedComments = s.nestedComments := rfl
  have escaped : (s.holding current carry).backslash = s.backslash := rfl
  have quote : (s.holding current carry).quote = s.quote := rfl
  have bracket : (s.holding current carry).bracket = s.bracket := rfl
  have dollar : (s.holding current carry).dollar = s.dollar := rfl
  have depth : (s.holding current carry).blockDepth = s.blockDepth := rfl
  unfold SqlSplitter.insideMove
  simp only [comment, nested, escaped, quote, bracket, dollar, depth]
  repeat' split
  all_goals rfl

theorem markSql_holding (current carry buf : Text) :
    (s.holding current carry).markSql buf = (s.markSql buf).holding current carry := by
  have seen : (s.holding current carry).hasSql = s.hasSql := rfl
  unfold SqlSplitter.markSql
  simp only [seen]
  split <;> rfl

theorem codeMove_holding (current carry : Text) :
    (s.holding current carry).codeMove last c rest =
      ((s.codeMove last c rest).1.holding current carry, (s.codeMove last c rest).2) := by
  have dialect : (s.holding current carry).dialect = s.dialect := rfl
  have prev : (s.holding current carry).prev = s.prev := rfl
  have prev2 : (s.holding current carry).prev2 = s.prev2 := rfl
  unfold SqlSplitter.codeMove
  simp only [markSql_holding, dialect, prev, prev2]
  repeat' split
  all_goals rfl

end Holding

section Flat

variable {scan other : Scan} {last : Bool} {c : Char} {rest : Text}

/-- What a turn gives, whatever the chunks before it: the scan it leaves, what it has pushed
behind `before`, and what it takes. -/
def traceless (before : List SqlStatement) (result : Scan × Nat) :
    Scan × List SqlStatement × Nat :=
  (result.1.flat, before ++ result.1.out, result.2)

theorem advance_flat {move move' : SqlSplitter × Nat} {buf : Text}
    (moves : move' = (move.1.holding (scan.splitter.current ++ scan.pending) [], move.2))
    (current : move.1.current = scan.splitter.current) :
    traceless [] (scan.advance move buf) = traceless scan.out (scan.flat.advance move' buf) := by
  subst moves
  have kept : (move.1.consume (buf.take move.2)).current = scan.splitter.current :=
    (consume_keeps _ _).1.trans current
  dsimp only [traceless, Scan.advance, Scan.flat]
  rw [consume_holding, kept, ← List.append_assoc, List.append_nil]
  rfl

theorem cut_flat (small : scan.Small) (buf : Text) (used : Nat) (directive : Bool) :
    (scan.cut buf used directive).map (traceless []) =
      (scan.flat.cut buf used directive).map (traceless scan.out) := by
  have flat_small : byteLength (scan.flat.splitter.current ++ scan.flat.pending) ≤
      MAX_STATEMENT_CHARS := by
    show byteLength (_ ++ []) ≤ _
    rw [List.append_nil]
    exact small
  rw [Scan.cut, Scan.cut, append_small small, append_small flat_small]
  dsimp only [Except.map, traceless]
  have taken : (scan.flat.splitter.holding (scan.flat.splitter.current ++ scan.flat.pending)
      scan.flat.splitter.carry).takeStatement =
      ((scan.splitter.holding (scan.splitter.current ++ scan.pending)
        scan.splitter.carry).takeStatement.1.holding [] [],
      (scan.splitter.holding (scan.splitter.current ++ scan.pending)
        scan.splitter.carry).takeStatement.2) := by
    show (SqlSplitter.holding _ (_ ++ []) _).takeStatement = _
    rw [List.append_nil]
    rfl
  have none : scan.flat.out = [] := rfl
  rw [taken, consume_holding, none]
  have emptied := (consume_keeps (scan.splitter.holding (scan.splitter.current ++ scan.pending)
    scan.splitter.carry).takeStatement.1 (buf.take used)).1
  generalize ((scan.splitter.holding (scan.splitter.current ++ scan.pending)
    scan.splitter.carry).takeStatement.1.consume (buf.take used)) = passed at emptied
  change passed.current = [] at emptied
  cases directive with
  | true =>
    simp only [Scan.flat, if_true, emptied]
    rfl
  | false =>
    simp only [Scan.flat, Bool.false_eq_true, if_false, emptied]
    rfl

theorem redelimit_flat (small : scan.Small) (buf : Text) (used : Nat) (token : Text) :
    (scan.redelimit buf used token).map (traceless []) =
      (scan.flat.redelimit buf used token).map (traceless scan.out) := by
  have flat_small : byteLength (scan.flat.splitter.current ++ scan.flat.pending) ≤
      MAX_STATEMENT_CHARS := by
    show byteLength (_ ++ []) ≤ _
    rw [List.append_nil]
    exact small
  rw [Scan.redelimit, Scan.redelimit, append_small small, append_small flat_small]
  dsimp only [Except.map, traceless]
  have none : scan.flat.out = [] := rfl
  rw [consume_holding, consume_holding, none]
  show _ = Except.ok (Scan.flat ⟨{ SqlSplitter.holding (SqlSplitter.consume
    (scan.splitter.holding _ []) _) (scan.splitter.current ++ scan.pending ++ []) [] with
      delimiter := token
      lineStart := true }, [], []⟩, _, _)
  rw [consume_holding, List.append_nil, List.append_nil scan.out]
  rfl

/-- A turn depends on the scan only up to where its chunks ended. -/
theorem step_flat (small : scan.Small) : (scan.step last c rest).map (traceless []) =
    (scan.flat.step last c rest).map (traceless scan.out) := by
  unfold Scan.step
  dsimp only
  have code : scan.flat.splitter.inCode = scan.splitter.inCode := rfl
  have opening : Scan.opening scan.flat.splitter last (c :: rest) =
      Scan.opening scan.splitter last (c :: rest) := rfl
  have delimiter : scan.flat.splitter.delimiter = scan.splitter.delimiter := rfl
  rw [code, opening, delimiter]
  split
  · cases Scan.opening scan.splitter last (c :: rest) with
    | error error => rfl
    | ok what =>
      cases what with
      | other =>
        exact congrArg Except.ok (advance_flat (codeMove_holding _ _)
          (codeMove_same scan.splitter last c rest).2.2)
      | delimiter => exact cut_flat small _ _ false
      | delimiterLine used token => exact redelimit_flat small _ used token
      | batchLine used => exact cut_flat small _ used true
  · exact congrArg Except.ok (advance_flat (insideMove_holding _ _)
      (insideMove_same scan.splitter c rest).2.2)

theorem flat_small (same : scan.flat = other.flat) (small : scan.Small) : other.Small := by
  have current := congrArg (fun scan => scan.splitter.current) same
  exact Eq.mp (congrArg (fun text => byteLength text ≤ MAX_STATEMENT_CHARS) current) small

variable (last c rest) in
/-- Two scans that differ only in where their chunks ended take the same turn. -/
theorem step_alike (same : scan.flat = other.flat) (small : scan.Small) :
    (∃ error, scan.step last c rest = .error error ∧ other.step last c rest = .error error) ∨
      ∃ next next' used found, scan.step last c rest = .ok (next, used) ∧
        other.step last c rest = .ok (next', used) ∧ next.flat = next'.flat ∧
        next.out = scan.out ++ found ∧ next'.out = other.out ++ found := by
  have first : (scan.step last c rest).map (traceless []) =
      (scan.flat.step last c rest).map (traceless scan.out) := step_flat small
  have second : (other.step last c rest).map (traceless []) =
      (scan.flat.step last c rest).map (traceless other.out) :=
    same ▸ step_flat (flat_small same small)
  cases taken : scan.flat.step last c rest with
  | error error =>
    rw [taken] at first second
    left
    refine ⟨error, ?_, ?_⟩
    · cases stepped : scan.step last c rest with
      | error other_error =>
        rw [stepped] at first
        rw [Except.error.inj first]
      | ok result =>
        rw [stepped] at first
        cases first
    · cases stepped : other.step last c rest with
      | error other_error =>
        rw [stepped] at second
        rw [Except.error.inj second]
      | ok result =>
        rw [stepped] at second
        cases second
  | ok result =>
    rw [taken] at first second
    right
    cases stepped : scan.step last c rest with
    | error error =>
      rw [stepped] at first
      cases first
    | ok took =>
      cases stepped' : other.step last c rest with
      | error error =>
        rw [stepped'] at second
        cases second
      | ok took' =>
        rw [stepped] at first
        rw [stepped'] at second
        obtain ⟨flat, rest_eq⟩ := Prod.mk.inj (Except.ok.inj first)
        obtain ⟨flat', rest_eq'⟩ := Prod.mk.inj (Except.ok.inj second)
        obtain ⟨out, used⟩ := Prod.mk.inj rest_eq
        obtain ⟨out', used'⟩ := Prod.mk.inj rest_eq'
        refine ⟨took.1, took'.1, took.2, result.1.out, rfl, ?_, flat.trans flat'.symm, out, out'⟩
        rw [used, ← used']

end Flat

/-- A turn of a call is the turn over the whole script. -/
theorem step_ahead {scan : Scan} {last : Bool} {c : Char} {rest future : Text}
    (late : last = true → future = [] ∧ rest.length < HOLD)
    (early : last = false → HOLD ≤ rest.length)
    (fits : HOLD ≤ (rest ++ future).length → Fits scan.splitter (c :: (rest ++ future))) :
    scan.step (decide ((rest ++ future).length < HOLD)) c (rest ++ future) =
      scan.step last c rest ∧ ∀ next used, scan.step last c rest = .ok (next, used) →
        future = [] ∨ used ≤ rest.length + 1 := by
  cases last with
  | true =>
    obtain ⟨none, short⟩ := late rfl
    subst none
    rw [List.append_nil, decide_eq_true short]
    exact ⟨rfl, fun _ _ _ => .inl rfl⟩
  | false =>
    have held := early rfl
    have long : HOLD ≤ (rest ++ future).length := by
      rw [List.length_append]
      omega
    rw [decide_eq_false (Nat.not_lt.mpr long)]
    obtain ⟨same, inside⟩ := step_near scan held (fits long)
    exact ⟨same, fun next used stepped => .inr (inside next used stepped)⟩

/-- One call's loop over its buffer follows the reading of the whole script. -/
theorem scanBuffer_reads {last : Bool} {future : Text} {behind : Nat}
    (held : last = false → behind = HOLD) (buf : Text) :
    ∀ (skip limit : Nat) (scan other : Scan),
      (last = true → future = [] ∧ buf.length ≤ HOLD) → (future = [] ∨ skip ≤ buf.length) →
      buf.length ≤ limit + behind → (limit ≠ 0 → buf.length = limit + behind) →
      scan.flat = other.flat → Scan.Modest skip other (buf ++ future) →
      (∃ error, Scan.scanBuffer last skip limit scan buf = .error error ∧
        Scan.readAll skip other (buf ++ future) = .error error) ∨
      ∃ next carry next' found, Scan.scanBuffer last skip limit scan buf = .ok (next, carry) ∧
        next.flat = next'.flat ∧ next.out = scan.out ++ found ∧ next'.out = other.out ++ found ∧
        Scan.readAll skip other (buf ++ future) = Scan.readAll 0 next' (carry ++ future) ∧
        Scan.Modest 0 next' (carry ++ future) ∧ carry.length ≤ behind := by
  induction buf with
  | nil =>
    intro skip limit scan other _ inside _ _ same modest
    right
    refine ⟨scan, [], other, [], by rw [Scan.scanBuffer], same, (List.append_nil _).symm,
      (List.append_nil _).symm, ?_⟩
    have start : Scan.readAll skip other ([] ++ future) = Scan.readAll 0 other ([] ++ future) ∧
        Scan.Modest 0 other ([] ++ future) := by
      rcases inside with none | zero
      · subst none
        cases skip <;> exact ⟨rfl, modest⟩
      · obtain rfl : skip = 0 := Nat.le_zero.mp zero
        exact ⟨rfl, modest⟩
    exact ⟨start.1, start.2, Nat.zero_le _⟩
  | cons c rest hypothesis =>
    intro skip limit scan other whole inside short exactly same modest
    rw [List.length_cons] at whole inside short exactly
    have whole_rest : last = true → future = [] ∧ rest.length ≤ HOLD :=
      fun late => ⟨(whole late).1, Nat.le_of_succ_le (whole late).2⟩
    cases skip with
    | succ skip =>
      exact hypothesis skip (limit - 1) scan other whole_rest
        (inside.imp_right Nat.le_of_succ_le_succ) (by omega) (by omega) same modest
    | zero =>
      cases limit with
      | zero =>
        right
        exact ⟨scan, c :: rest, other, [], rfl, same, (List.append_nil _).symm,
          (List.append_nil _).symm, rfl, modest, by rw [List.length_cons]; omega⟩
      | succ limit =>
        have early : last = false → HOLD ≤ rest.length := by
          intro early
          have exact_length := exactly (Nat.succ_ne_zero limit)
          have behind_eq := held early
          omega
        have late : last = true → future = [] ∧ rest.length < HOLD :=
          fun late => ⟨(whole late).1, (whole late).2⟩
        rw [List.cons_append, Scan.Modest] at modest
        obtain ⟨small, fits, later⟩ := modest
        obtain ⟨ahead, taken⟩ := step_ahead late early fits
        rw [ahead] at later
        rw [Scan.scanBuffer, List.cons_append, Scan.readAll, ahead]
        have alike := step_alike last c rest same (flat_small same.symm small)
        rcases alike with ⟨error, stepped, stepped'⟩ | ⟨next, next', used, found, stepped, stepped', flat, out, out'⟩
        · left
          rw [stepped, stepped']
          exact ⟨error, rfl, rfl⟩
        · rw [stepped'] at later
          rw [stepped, stepped']
          have fits_rest : future = [] ∨ used - 1 ≤ rest.length :=
            (taken next' used stepped').imp_right fun bound => by omega
          rcases hypothesis (used - 1) limit next next' whole_rest fits_rest (by omega) (by omega)
            flat later with failed | ⟨final, carry, final', more, ran, flat', grown, grown', rest_eq⟩
          · exact .inl failed
          · right
            refine ⟨final, carry, final', found ++ more, ran, flat', ?_, ?_, rest_eq⟩
            · rw [grown, out, List.append_assoc]
            · rw [grown', out', List.append_assoc]

section Hold

variable {last : Bool} {c : Char} {rest : Text} {scan next : Scan} {used : Nat}

theorem consume_hold (s : SqlSplitter) (chars : Text) : (s.consume chars).hold = s.hold := by
  obtain ⟨line, prev, prev2, same⟩ := consume_eq s chars
  rw [same]

theorem insideMove_hold (s : SqlSplitter) : (s.insideMove c rest).1.hold = s.hold := by
  unfold SqlSplitter.insideMove
  dsimp only
  repeat' split
  all_goals rfl

theorem codeMove_hold (s : SqlSplitter) : (s.codeMove last c rest).1.hold = s.hold := by
  have marked := (markSql_same s (c :: rest)).1
  unfold SqlSplitter.codeMove
  dsimp only
  repeat' split
  all_goals first | rfl | exact marked

theorem step_hold (stepped : scan.step last c rest = .ok (next, used)) :
    next.splitter.hold = scan.splitter.hold := by
  unfold Scan.step at stepped
  dsimp only at stepped
  split at stepped
  · cases opened : Scan.opening scan.splitter last (c :: rest) with
    | error error =>
      rw [opened] at stepped
      cases stepped
    | ok what =>
      have cut_hold : ∀ buf taken directive, scan.cut buf taken directive = .ok (next, used) →
          next.splitter.hold = scan.splitter.hold := by
        intro buf taken directive cut
        obtain ⟨appended, append, -, rfl⟩ := cut_ok scan _ _ _ next _ cut
        rw [append_eq append]
        cases directive <;> exact consume_hold _ _
      rw [opened] at stepped
      cases what with
      | other =>
        rw [← (Prod.mk.inj (Except.ok.inj stepped)).1]
        exact (consume_hold _ _).trans (codeMove_hold _)
      | delimiter => exact cut_hold _ _ _ stepped
      | batchLine line => exact cut_hold _ _ _ stepped
      | delimiterLine line token =>
        dsimp only at stepped
        unfold Scan.redelimit at stepped
        split at stepped
        · cases stepped
        rename_i appended append
        rw [← (Prod.mk.inj (Except.ok.inj stepped)).1, append_eq append]
        exact consume_hold _ _
  · rw [← (Prod.mk.inj (Except.ok.inj stepped)).1]
    exact (consume_hold _ _).trans (insideMove_hold _)

theorem scanBuffer_hold (buf : Text) : ∀ (skip limit : Nat) (scan : Scan) (carry : Text),
    Scan.scanBuffer last skip limit scan buf = .ok (next, carry) →
    next.splitter.hold = scan.splitter.hold := by
  induction buf with
  | nil =>
    intro skip limit scan carry ran
    rw [← (Prod.mk.inj (Except.ok.inj ran)).1]
  | cons c rest hypothesis =>
    intro skip limit scan carry ran
    cases skip with
    | succ skip => exact hypothesis skip (limit - 1) scan carry ran
    | zero =>
      cases limit with
      | zero => rw [← (Prod.mk.inj (Except.ok.inj ran)).1]
      | succ limit =>
        rw [Scan.scanBuffer] at ran
        cases stepped : scan.step last c rest with
        | error error =>
          rw [stepped] at ran
          cases ran
        | ok result =>
          obtain ⟨middle, used⟩ := result
          rw [stepped] at ran
          exact (hypothesis _ limit middle carry ran).trans (step_hold stepped)

end Hold

theorem modest_small {scan : Scan} {text : Text} (modest : Scan.Modest 0 scan text) :
    scan.Small := by
  cases text with
  | nil => exact modest
  | cons c rest => exact modest.1

/-- One call follows the reading of the whole script. -/
theorem run_reads {s : SqlSplitter} {other : Scan} {last : Bool} {future : Text}
    (hold : s.hold = HOLD) (same : (⟨s, [], []⟩ : Scan).flat = other.flat)
    (late : last = true → future = [] ∧ s.carry.length ≤ HOLD)
    (modest : Scan.Modest 0 other (s.carry ++ future)) :
    (∃ error, s.run last = .error error ∧
      Scan.readAll 0 other (s.carry ++ future) = .error error) ∨
    ∃ ended out other', s.run last = .ok (ended, out) ∧
      (⟨ended, [], []⟩ : Scan).flat = other'.flat ∧ other'.out = other.out ++ out ∧
      Scan.readAll 0 other (s.carry ++ future) =
        Scan.readAll 0 other' (ended.carry ++ future) ∧
      Scan.Modest 0 other' (ended.carry ++ future) ∧ ended.hold = HOLD ∧
      ended.carry.length ≤ (if last then 0 else HOLD) := by
  have start : (⟨{ s with carry := [] }, [], []⟩ : Scan).flat = other.flat := same
  have held : last = false → (if last = true then 0 else HOLD) = HOLD := by
    rintro rfl
    rfl
  have short : s.carry.length ≤ (if last = true then s.carry.length
      else s.carry.length - s.hold) + (if last = true then 0 else HOLD) := by
    rw [hold]
    split <;> omega
  have exactly : (if last = true then s.carry.length else s.carry.length - s.hold) ≠ 0 →
      s.carry.length = (if last = true then s.carry.length else s.carry.length - s.hold) +
        (if last = true then 0 else HOLD) := by
    rw [hold]
    split <;> omega
  have followed := scanBuffer_reads held s.carry 0 _ ⟨{ s with carry := [] }, [], []⟩ other late
    (.inr (Nat.zero_le _)) short exactly start modest
  unfold SqlSplitter.run
  dsimp only
  rcases followed with ⟨error, failed, failed'⟩ |
    ⟨next, carry, next', found, ran, flat, out, out', reads, later, short⟩
  · left
    rw [failed]
    exact ⟨error, rfl, failed'⟩
  · right
    have small := flat_small flat.symm (modest_small later)
    rw [ran]
    dsimp only
    rw [append_small small]
    refine ⟨_, next.out, next', rfl, ?_, ?_, reads, later, ?_, short⟩
    · rw [← flat]
      show (⟨_, [], []⟩ : Scan) = ⟨_, [], []⟩
      show (⟨SqlSplitter.holding _ (_ ++ []) [], [], []⟩ : Scan) = _
      rw [List.append_nil]
      rfl
    · rw [out', out]
      rfl
    · exact (scanBuffer_hold s.carry 0 _ _ carry ran).trans hold

theorem ending_alike {scan other : Scan} (same : scan.flat = other.flat) :
    scan.splitter.unclosed = other.splitter.unclosed ∧
      scan.splitter.line = other.splitter.line := by
  constructor
  · exact congrArg (fun scan => scan.splitter.unclosed) same
  · exact congrArg (fun scan => scan.splitter.line) same

/-- Whatever the chunks, what they give is what the script gives read at once. -/
theorem accept_reads {s : SqlSplitter} {other : Scan} {chunks : List Text}
    (hold : s.hold = HOLD) (same : (⟨s, [], []⟩ : Scan).flat = other.flat)
    (short : s.carry.length ≤ HOLD)
    (modest : Scan.Modest 0 other (s.carry ++ chunks.flatten)) :
    (s.accept chunks).map (other.out ++ ·) =
      Scan.readScript other (s.carry ++ chunks.flatten) := by
  induction chunks generalizing s other with
  | nil =>
    unfold SqlSplitter.accept SqlSplitter.finish Scan.readScript
    have whole : true = true → ([] : List Text).flatten = [] ∧ s.carry.length ≤ HOLD :=
      fun _ => ⟨List.flatten_nil, short⟩
    rcases run_reads hold same whole modest with ⟨error, failed, failed'⟩ | ⟨ended, out, other', ran, flat, grown, reads, -, -, emptied⟩
    · rw [failed, failed']
      rfl
    · have none : ended.carry = [] := List.length_eq_zero_iff.mp (Nat.le_zero.mp emptied)
      obtain ⟨closed, line⟩ := ending_alike flat
      have done : Scan.readAll 0 other' (ended.carry ++ ([] : List Text).flatten) = .ok other' := by
        rw [none]
        rfl
      rw [ran, reads, done]
      dsimp only [Scan.ending]
      change ended.unclosed = other'.splitter.unclosed at closed
      change ended.line = other'.splitter.line at line
      rw [closed, line]
      by_cases unclosed : other'.splitter.unclosed = true
      · rw [if_pos unclosed, if_pos unclosed]
        rfl
      · rw [if_neg unclosed, if_neg unclosed]
        have last : ended.takeStatement.2 = other'.flat.splitter.takeStatement.2 := by
          rw [← flat]
          show _ = (SqlSplitter.holding _ (_ ++ []) _).takeStatement.2
          rw [List.append_nil]
          rfl
        rw [last, grown]
        show Except.ok (other.out ++ (out ++ _)) = Except.ok (other.out ++ out ++ _)
        rw [List.append_assoc]
  | cons chunk chunks hypothesis =>
    have early : false = true → chunks.flatten = [] ∧ (s.carry ++ chunk).length ≤ HOLD :=
      fun wrong => absurd wrong Bool.false_ne_true
    rw [List.flatten_cons, ← List.append_assoc] at modest ⊢
    unfold SqlSplitter.accept SqlSplitter.feed
    unfold Scan.readScript at hypothesis ⊢
    have fed : (⟨{ s with carry := s.carry ++ chunk }, [], []⟩ : Scan).flat = other.flat := same
    have begun : ({ s with carry := s.carry ++ chunk } : SqlSplitter).hold = HOLD := hold
    rcases run_reads begun fed early modest with ⟨error, failed, failed'⟩ |
      ⟨ended, out, other', ran, flat, grown, reads, later, held, bound⟩
    · rw [failed, failed']
      rfl
    · have rest := hypothesis held flat bound later
      rw [ran, reads, ← rest, grown]
      dsimp only
      cases ended.accept chunks with
      | error error => rfl
      | ok others =>
        show Except.ok (other.out ++ (out ++ others)) = Except.ok (other.out ++ out ++ others)
        rw [List.append_assoc]

/-- The splitter before a script. -/
def Scan.fresh (dialect : SplitDialect) : Scan := ⟨SqlSplitter.new dialect, [], []⟩

theorem accept_eq {dialect : SplitDialect} {chunks : List Text}
    (modest : Scan.Modest 0 (Scan.fresh dialect) chunks.flatten) :
    (SqlSplitter.new dialect).accept chunks =
      Scan.readScript (Scan.fresh dialect) chunks.flatten := by
  have same : (⟨SqlSplitter.new dialect, [], []⟩ : Scan).flat = (Scan.fresh dialect).flat := rfl
  have reads := accept_reads rfl same (Nat.zero_le _) modest
  have whole : (SqlSplitter.new dialect).carry ++ chunks.flatten = chunks.flatten := rfl
  rw [whole] at reads
  rw [← reads]
  cases (SqlSplitter.new dialect).accept chunks <;> rfl

end DbFree.SqlImport
