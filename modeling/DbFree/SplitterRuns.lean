import DbFree.SqlImport

/- A rule for whole runs of the splitter: what every turn keeps holds at the end of a script,
in whatever chunks it comes. -/
namespace DbFree.SqlImport

namespace SqlSplitter

/-- The statements of a script that is fed in chunks, or the error of the first call to fail. -/
def accept (s : SqlSplitter) : List Text → Except AppError (List SqlStatement)
  | [] =>
    match s.finish with
    | .error error => .error error
    | .ok (_, out) => .ok out
  | chunk :: chunks =>
    match s.feed chunk with
    | .error error => .error error
    | .ok (fed, out) =>
      match accept fed chunks with
      | .error error => .error error
      | .ok later => .ok (out ++ later)

end SqlSplitter

open SqlSplitter

/-- How far a turn sees: to the end of the script, or over the characters held back. -/
def Sees (last : Bool) (rest future : Text) : Prop :=
  (last = true → future = []) ∧ (last = false → HOLD ≤ rest.length)

/-- The splitter, the text passed but not appended, the statements so far, the text ahead. -/
abbrev Invariant := SqlSplitter → Text → List SqlStatement → Text → Prop

/-- What every turn of the splitter keeps, and the end of a call. -/
structure Kept (holds : Invariant) : Prop where
  hold : ∀ {s pending out left}, holds s pending out left → s.hold = HOLD
  carry : ∀ {s pending out left}, holds s pending out left →
    ∀ carry, holds { s with carry := carry } pending out left
  append : ∀ {s appended pending out left}, holds s pending out left →
    s.append pending = .ok appended → holds appended [] out left
  turn : ∀ {scan next : Scan} {last c rest future used before},
    holds scan.splitter scan.pending (before ++ scan.out) (c :: rest ++ future) →
    Sees last rest future → scan.step last c rest = .ok (next, used) →
    1 ≤ used ∧ used ≤ rest.length + 1 ∧
      holds next.splitter next.pending (before ++ next.out) ((c :: rest).drop used ++ future)

variable {holds : Invariant}

theorem drop_used (c : Char) (rest : Text) {used : Nat} (some : 1 ≤ used) :
    (c :: rest).drop used = rest.drop (used - 1) := by
  obtain ⟨more, rfl⟩ := Nat.exists_eq_add_of_le' some
  rw [List.drop_succ_cons, Nat.add_sub_cancel]

/-- The loop over a buffer whose last `behind` characters are held back. -/
theorem Kept.scanBuffer (kept : Kept holds) {last : Bool} {future : Text}
    (before : List SqlStatement) (behind : Nat)
    (sees : ∀ rest : Text, behind ≤ rest.length → Sees last rest future) (buf : Text) :
    ∀ (skip limit : Nat) (scan next : Scan) (carry : Text), skip ≤ buf.length →
      buf.length ≤ limit + behind → (limit ≠ 0 → buf.length = limit + behind) →
      holds scan.splitter scan.pending (before ++ scan.out) (buf.drop skip ++ future) →
      Scan.scanBuffer last skip limit scan buf = .ok (next, carry) →
      holds next.splitter next.pending (before ++ next.out) (carry ++ future) ∧
        carry.length ≤ behind := by
  induction buf with
  | nil =>
    intro skip limit scan next carry _ _ _ held ran
    obtain ⟨rfl, rfl⟩ := Prod.mk.inj (Except.ok.inj ran)
    rw [List.drop_nil] at held
    exact ⟨held, Nat.zero_le _⟩
  | cons c rest hypothesis =>
    intro skip limit scan next carry inside short exactly held ran
    rw [List.length_cons] at inside short exactly
    cases skip with
    | succ skip =>
      exact hypothesis skip (limit - 1) scan next carry (by omega) (by omega) (by omega) held ran
    | zero =>
      cases limit with
      | zero =>
        obtain ⟨rfl, rfl⟩ := Prod.mk.inj (Except.ok.inj ran)
        exact ⟨held, by rw [List.length_cons]; omega⟩
      | succ limit =>
        rw [Scan.scanBuffer] at ran
        cases stepped : scan.step last c rest with
        | error error =>
          rw [stepped] at ran
          cases ran
        | ok took =>
          obtain ⟨middle, used⟩ := took
          rw [stepped] at ran
          obtain ⟨some, bound, held⟩ := kept.turn held (sees rest (by omega)) stepped
          rw [drop_used c rest some] at held
          exact hypothesis (used - 1) limit middle next carry (by omega) (by omega) (by omega)
            held ran

theorem Kept.run (kept : Kept holds) {s ended : SqlSplitter} {last : Bool} {future : Text}
    {before out : List SqlStatement} (whole : last = true → future = [])
    (held : holds s [] before (s.carry ++ future)) (ran : s.run last = .ok (ended, out)) :
    holds ended [] (before ++ out) (ended.carry ++ future) ∧
      (last = true → ended.carry = []) := by
  rw [SqlSplitter.run] at ran
  cases scanned : Scan.scanBuffer last 0 (if last = true then s.carry.length
      else s.carry.length - s.hold) ⟨{ s with carry := [] }, [], []⟩ s.carry with
  | error error =>
    rw [scanned] at ran
    cases ran
  | ok result =>
    obtain ⟨scan, carry⟩ := result
    simp only [scanned] at ran
    have start : holds { s with carry := [] } [] (before ++ []) (s.carry.drop 0 ++ future) := by
      rw [List.append_nil, List.drop_zero]
      exact kept.carry held []
    have looped : holds scan.splitter scan.pending (before ++ scan.out) (carry ++ future) ∧
        (last = true → carry = []) := by
      cases last with
      | true =>
        have sees : ∀ rest : Text, 0 ≤ rest.length → Sees true rest future :=
          fun _ _ => ⟨whole, fun early => (nomatch early)⟩
        obtain ⟨held, none⟩ := kept.scanBuffer before 0 sees s.carry 0 s.carry.length _ scan carry
          (Nat.zero_le _) (Nat.le_refl _) (fun _ => rfl) start scanned
        exact ⟨held, fun _ => List.length_eq_zero_iff.mp (Nat.le_zero.mp none)⟩
      | false =>
        have sees : ∀ rest : Text, HOLD ≤ rest.length → Sees false rest future :=
          fun _ long => ⟨fun late => (nomatch late), fun _ => long⟩
        have behind := kept.hold held
        obtain ⟨held, -⟩ := kept.scanBuffer before HOLD sees s.carry 0 (s.carry.length - s.hold) _
          scan carry (Nat.zero_le _) (by omega) (by omega) start scanned
        exact ⟨held, fun late => nomatch late⟩
    cases append : scan.splitter.append scan.pending with
    | error error =>
      rw [append] at ran
      cases ran
    | ok appended =>
      rw [append] at ran
      obtain ⟨rfl, rfl⟩ := Prod.mk.inj (Except.ok.inj ran)
      exact ⟨kept.carry (kept.append looped.1 append) carry, looped.2⟩

/-- What every turn keeps holds of the splitter that has read the whole script, and all the
statements are those cut on the way and the last one. -/
theorem Kept.accept (kept : Kept holds) {s : SqlSplitter} {before out : List SqlStatement}
    {chunks : List Text} (held : holds s [] before (s.carry ++ chunks.flatten))
    (accepted : s.accept chunks = .ok out) :
    ∃ ended cut, holds ended [] (before ++ cut) [] ∧ ended.unclosed = false ∧
      out = cut ++ ended.takeStatement.2 := by
  induction chunks generalizing s before out with
  | nil =>
    rw [SqlSplitter.accept, SqlSplitter.finish] at accepted
    cases ran : s.run true with
    | error error =>
      rw [ran] at accepted
      cases accepted
    | ok result =>
      obtain ⟨ended, cut⟩ := result
      simp only [ran] at accepted
      obtain ⟨held, emptied⟩ := kept.run (fun _ => rfl) held ran
      rw [emptied rfl] at held
      by_cases unclosed : ended.unclosed = true
      · rw [if_pos unclosed] at accepted
        cases accepted
      · rw [if_neg unclosed] at accepted
        exact ⟨ended, cut, held, Bool.eq_false_iff.mpr unclosed, (Except.ok.inj accepted).symm⟩
  | cons chunk chunks hypothesis =>
    rw [SqlSplitter.accept] at accepted
    cases fed : s.feed chunk with
    | error error =>
      rw [fed] at accepted
      cases accepted
    | ok result =>
      obtain ⟨middle, first⟩ := result
      simp only [fed] at accepted
      rw [List.flatten_cons, ← List.append_assoc] at held
      have early : false = true → chunks.flatten = [] := fun late => nomatch late
      obtain ⟨held, -⟩ := kept.run early (kept.carry held _) fed
      cases later : middle.accept chunks with
      | error error =>
        rw [later] at accepted
        cases accepted
      | ok others =>
        rw [later] at accepted
        obtain ⟨ended, cut, held, closed, rfl⟩ := hypothesis held later
        refine ⟨ended, first ++ cut, ?_, closed, ?_⟩
        · rw [← List.append_assoc]
          exact held
        · rw [List.append_assoc]
          exact (Except.ok.inj accepted).symm

end DbFree.SqlImport
