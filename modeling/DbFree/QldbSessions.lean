import DbFree.Qldb

/- The session of a ledger as its service keeps it, and calls that take turns at it: what
they report is what was committed (integrations/qldb.rs). -/
namespace DbFree.Qldb

open Interleaving

/-- An open transaction: the call that started it, and what was executed in it. -/
structure Transaction where
  id : Text
  owner : Nat
  statements : List Text
deriving DecidableEq

structure Commit where
  transactionId : Text
  commitDigest : Text
  statements : List Text
deriving DecidableEq

/-- A call between the start of its transaction and its end. -/
structure Inside where
  thread : Nat
  token : Text
  transactionId : Text
deriving DecidableEq

/-- What a call of `execute` answered, and what was committed for it. -/
structure Outcome (ResultSet : Type) where
  script : Text
  answer : Except AppError (List (StatementResult ResultSet))
  commits : List Commit

/-- What becomes of a request on its way to the service and back. -/
inductive Fate where
  | served
  /-- It is performed, and its answer is lost. -/
  | unanswered (error : AppError)
  /-- The service refuses it, and may end the open transaction. -/
  | refused (error : AppError) (closes : Bool)
  | lost (error : AppError)
deriving DecidableEq

def Fate.reaches : Fate → Bool
  | .served | .unanswered _ => true
  | .refused _ _ | .lost _ => false

def Fate.isUnanswered : Fate → Bool
  | .unanswered _ => true
  | .served | .refused _ _ | .lost _ => false

structure Surroundings where
  fate : Fate
  /-- Sessions whose transactions the service has ended on its own. -/
  expired : List Text
  /-- How the service refuses a command that does not fit what is open. -/
  refusal : AppError
  sessionToken : Option Text
  transactionId : Text
  /-- Whether the answer holds the transaction id. -/
  readable : Bool
  page : Page

def Surroundings.response (around : Surroundings) : Response :=
  ⟨if around.readable then some around.transactionId else none, around.page⟩

/-- The session, the service behind it, and what has happened so far. -/
structure Shared (ResultSet : Type) where
  session : Option Text
  /-- The open transaction of each session. -/
  opened : Text → Option Transaction
  ledger : List Commit
  inside : List Inside
  /-- What was committed for the call that a thread performs. -/
  committed : Nat → List Commit
  /-- Some command named a transaction that is not of its call. -/
  strayed : Bool
  /-- The aborts that ended the transaction of another call. -/
  crossed : List (Nat × Nat)
  outcomes : List (Outcome ResultSet)

/-- The transaction that a command names is the one its call is inside of. -/
def Own (inside : List Inside) (thread : Nat) (token : Text) : Command → Prop
  | .startTransaction => True
  | .executeStatement txn _ | .fetchPage txn _ | .commitTransaction txn _ =>
    ⟨thread, token, txn⟩ ∈ inside
  | .abortTransaction => ∃ entry ∈ inside, entry.thread = thread ∧ entry.token = token

instance (inside : List Inside) (thread : Nat) (token : Text) :
    (command : Command) → Decidable (Own inside thread token command)
  | .startTransaction => isTrue trivial
  | .executeStatement _ _ | .fetchPage _ _ | .commitTransaction _ _ =>
    inferInstanceAs (Decidable (_ ∈ inside))
  | .abortTransaction => inferInstanceAs (Decidable (∃ entry ∈ inside, _))

namespace Shared

variable {Ion ResultSet : Type}

def start : Shared ResultSet where
  session := none
  opened _ := none
  ledger := []
  inside := []
  committed _ := []
  strayed := false
  crossed := []
  outcomes := []

def check (shared : Shared ResultSet) (thread : Nat) (token : Text) (cmd : Command) :
    Shared ResultSet :=
  { shared with strayed := shared.strayed || !decide (Own shared.inside thread token cmd) }

def expire (shared : Shared ResultSet) (expired : List Text) : Shared ResultSet :=
  { shared with opened := fun token => if token ∈ expired then none else shared.opened token }

def setOpened (shared : Shared ResultSet) (token : Text) (opened : Option Transaction) :
    Shared ResultSet :=
  { shared with opened := Function.update shared.opened token opened }

/-- The open transaction of a session, under the id that a command names. -/
def within (shared : Shared ResultSet) (token txn : Text) : Option Transaction :=
  (shared.opened token).filter fun opened => opened.id = txn

def commit (shared : Shared ResultSet) (thread : Nat) (token : Text) (commit : Commit) :
    Shared ResultSet :=
  { shared.setOpened token none with
    ledger := shared.ledger ++ [commit]
    committed := Function.update shared.committed thread (shared.committed thread ++ [commit]) }

/-- The owner of the open transaction, where that is another call. -/
def foreign (shared : Shared ResultSet) (thread : Nat) (token : Text) : List (Nat × Nat) :=
  match shared.opened token with
  | some opened => if opened.owner = thread then [] else [(thread, opened.owner)]
  | none => []

/-- Whichever transaction is open ends. -/
def abortOpen (shared : Shared ResultSet) (thread : Nat) (token : Text) : Shared ResultSet :=
  { shared.setOpened token none with crossed := shared.crossed ++ shared.foreign thread token }

variable (formats : Formats Ion ResultSet)

/-- The service: `none` where the command does not fit what is open. -/
def serve (shared : Shared ResultSet) (thread : Nat) (token id : Text) :
    Command → Option (Shared ResultSet)
  | .startTransaction =>
    match shared.opened token with
    | some _ => none
    | none => some (shared.setOpened token (some ⟨id, thread, []⟩))
  | .executeStatement txn stmt =>
    (shared.within token txn).map fun opened =>
      shared.setOpened token (some { opened with statements := opened.statements ++ [stmt] })
  | .fetchPage txn _ => (shared.within token txn).map fun _ => shared
  | .commitTransaction txn digest =>
    (shared.within token txn).bind fun opened =>
      if digest = formats.base64 (commitDigest txn opened.statements) then
        some (shared.commit thread token ⟨txn, digest, opened.statements⟩)
      else none
  | .abortTransaction => some (shared.abortOpen thread token)

def leave (shared : Shared ResultSet) (thread : Nat) : Shared ResultSet :=
  { shared with inside := shared.inside.filter fun entry => entry.thread ≠ thread }

/-- The start and the end of a call's transaction, as the call sees them. -/
def note (shared : Shared ResultSet) (thread : Nat) (token : Text) (around : Surroundings)
    (answered : Bool) : Command → Shared ResultSet
  | .startTransaction =>
    if answered && around.readable then
      { shared with inside := ⟨thread, token, around.transactionId⟩ :: shared.inside }
    else shared
  | .commitTransaction _ _ => if answered then shared.leave thread else shared
  | .abortTransaction => shared.leave thread
  | .executeStatement _ _ | .fetchPage _ _ => shared

def send (shared : Shared ResultSet) (thread : Nat) (token : Text) (cmd : Command)
    (around : Surroundings) : Except AppError Response × Shared ResultSet :=
  let before := (shared.check thread token cmd).expire around.expired
  let after := before.serve formats thread token around.transactionId cmd
  match around.fate, after with
  | .served, some after => (.ok around.response, after.note thread token around true cmd)
  | .served, none => (.error around.refusal, before.note thread token around false cmd)
  | .unanswered error, after =>
    (.error error, (after.getD before).note thread token around false cmd)
  | .refused error closes, _ =>
    (.error error, (if closes then before.setOpened token none else before).note thread token
      around false cmd)
  | .lost error, _ => (.error error, before.note thread token around false cmd)

def readToken (shared : Shared ResultSet) (around : Surroundings) :
    Except AppError Text × Shared ResultSet :=
  match shared.session, around.fate with
  | some token, _ => (.ok token, shared)
  | none, .served =>
    match around.sessionToken with
    | some token => (.ok token, { shared with session := some token })
    | none => (.error (driver "QLDB did not return a session token.".toList), shared)
  | none, .unanswered error | none, .refused error _ | none, .lost error => (.error error, shared)

def hear (shared : Shared ResultSet) (thread : Nat) (script : Text)
    (answer : Except AppError (List (StatementResult ResultSet))) : Shared ResultSet :=
  { shared with
    outcomes := shared.outcomes ++ [⟨script, answer, shared.committed thread⟩]
    committed := Function.update shared.committed thread [] }

def exec (thread : Nat) (shared : Shared ResultSet) :
    (op : SessionOp ResultSet) → Surroundings → Option (op.Answer × Shared ResultSet)
  | .sessionToken, around => some (shared.readToken around)
  | .send token cmd, around => some (shared.send formats thread token cmd around)
  | .forget, _ => some ((), { shared with session := none })
  | .answer script answer, _ => some ((), shared.hear thread script answer)
  | .hang, _ => none

end Shared

section Honest

variable {Ion ResultSet : Type} (formats : Formats Ion ResultSet)

/-- The guard finds a statement that changes something. -/
def GuardFindsWrite (script : Text) : Prop :=
  ∃ kind ∈ Destructive.kinds script, kind ≠ .read

instance (script : Text) : Decidable (GuardFindsWrite script) :=
  inferInstanceAs (Decidable (∃ kind ∈ Destructive.kinds script, kind ≠ .read))

/-- The commit of all statements of a script, in order, under their digest. -/
def commitOf (id : Text) (statements : List Text) : Commit :=
  ⟨id, formats.base64 (commitDigest id statements), statements⟩

/-- A write that is acknowledged is committed, whole and once; a failure commits nothing. -/
structure Acknowledged (outcome : Outcome ResultSet) : Prop where
  committed : ∀ results, outcome.answer = .ok results → GuardFindsWrite outcome.script →
    ∃ id, outcome.commits = [commitOf formats id (statementsOf outcome.script)]
  failed : ∀ error, outcome.answer = .error error → outcome.commits = []

structure Honest (shared : Shared ResultSet) : Prop where
  acknowledged : ∀ outcome ∈ shared.outcomes, Acknowledged formats outcome
  recorded : ∀ outcome ∈ shared.outcomes, ∀ commit ∈ outcome.commits, commit ∈ shared.ledger
  uncrossed : shared.crossed = []

/-- No transaction is opened while another call is still inside of one, no answer to a
commit is lost, and a script that the guard takes for a write is begun as one. -/
def InTurn (_ : Nat) (shared : Shared ResultSet) (op : SessionOp ResultSet)
    (around : Surroundings) : Prop :=
  match op with
  | .send token .startTransaction =>
    around.fate.reaches = true → (shared.expire around.expired).opened token = none →
      ∀ entry ∈ shared.inside, entry.token ≠ token
  | .send _ (.commitTransaction _ _) => around.fate.isUnanswered = false
  | .answer script _ => GuardFindsWrite script → (statementsOf script).any (isWrite formats) = true
  | _ => True

instance (thread : Nat) (shared : Shared ResultSet) :
    (op : SessionOp ResultSet) → (around : Surroundings) →
      Decidable (InTurn formats thread shared op around)
  | .send _ .startTransaction, _ =>
    inferInstanceAs (Decidable (_ = true → _ = none → ∀ entry ∈ shared.inside, _))
  | .send _ (.commitTransaction _ _), _ => inferInstanceAs (Decidable (_ = false))
  | .answer _ _, _ => inferInstanceAs (Decidable (_ → _ = true))
  | .send _ (.executeStatement _ _), _ | .send _ (.fetchPage _ _), _
  | .send _ .abortTransaction, _ | .sessionToken, _ | .forget, _ | .hang, _ => isTrue trivial

structure Shared.Kept (shared : Shared ResultSet) : Prop extends Honest formats shared where
  straight : shared.strayed = false
  alone : ∀ one ∈ shared.inside, ∀ other ∈ shared.inside, one.token = other.token → one = other
  own : ∀ entry ∈ shared.inside, ∀ opened, shared.opened entry.token = some opened →
    opened.owner = entry.thread ∧ opened.id = entry.transactionId
  held : ∀ thread, ∀ commit ∈ shared.committed thread, commit ∈ shared.ledger

end Honest

section Steps

variable {Ion ResultSet : Type} {formats : Formats Ion ResultSet} {shared next : Shared ResultSet}
  {thread : Nat} {token : Text} {cmd : Command} {around : Surroundings}

section Fields

variable (opened : Option Transaction) (made : Commit)

@[simp]
theorem setOpened_opened :
    (shared.setOpened token opened).opened = Function.update shared.opened token opened := rfl

theorem setOpened_self : (shared.setOpened token opened).opened token = opened :=
  Function.update_self ..

@[simp]
theorem commit_committed : (shared.commit thread token made).committed =
    Function.update shared.committed thread (shared.committed thread ++ [made]) := rfl

@[simp]
theorem expire_opened (expired : List Text) : (shared.expire expired).opened token =
    if token ∈ expired then none else shared.opened token := rfl

@[simp]
theorem leave_committed : (shared.leave thread).committed = shared.committed := rfl

theorem mem_leave {entry : Inside} :
    entry ∈ (shared.leave thread).inside ↔ entry ∈ shared.inside ∧ entry.thread ≠ thread := by
  rw [Shared.leave, List.mem_filter, decide_eq_true_iff]

end Fields

theorem check_own (own : Own shared.inside thread token cmd) :
    shared.check thread token cmd = shared := by
  rw [Shared.check, decide_eq_true own]
  simp

theorem within_some {txn : Text} {opened : Transaction}
    (found : shared.within token txn = some opened) :
    shared.opened token = some opened ∧ opened.id = txn := by
  obtain ⟨there, same⟩ := Option.filter_eq_some_iff.mp found
  exact ⟨there, of_decide_eq_true same⟩

/-- What the service does with a command that fits. -/
theorem serve_cases {id : Text}
    (served : shared.serve formats thread token id cmd = some next) :
    (cmd = .startTransaction ∧ shared.opened token = none ∧
        next = shared.setOpened token (some ⟨id, thread, []⟩)) ∨
      (∃ txn stmt opened, cmd = .executeStatement txn stmt ∧
        shared.opened token = some opened ∧ opened.id = txn ∧
        next = shared.setOpened token
          (some { opened with statements := opened.statements ++ [stmt] })) ∨
      (∃ txn page, cmd = .fetchPage txn page ∧ next = shared) ∨
      (∃ txn digest opened, cmd = .commitTransaction txn digest ∧
        shared.opened token = some opened ∧ opened.id = txn ∧
        next = shared.commit thread token (commitOf formats txn opened.statements)) ∨
      cmd = .abortTransaction ∧ next = shared.abortOpen thread token := by
  cases cmd with
  | startTransaction =>
    rw [Shared.serve] at served
    split at served
    · cases served
    · exact .inl ⟨rfl, ‹_›, (Option.some.inj served).symm⟩
  | executeStatement txn stmt =>
    obtain ⟨opened, found, same⟩ := Option.map_eq_some_iff.mp served
    obtain ⟨there, id_eq⟩ := within_some found
    exact .inr (.inl ⟨txn, stmt, opened, rfl, there, id_eq, same.symm⟩)
  | fetchPage txn page =>
    obtain ⟨_, -, same⟩ := Option.map_eq_some_iff.mp served
    exact .inr (.inr (.inl ⟨txn, page, rfl, same.symm⟩))
  | commitTransaction txn digest =>
    obtain ⟨opened, found, fits⟩ := Option.bind_eq_some_iff.mp served
    obtain ⟨there, id_eq⟩ := within_some found
    split at fits
    · rename_i digest_eq
      subst digest_eq
      exact .inr (.inr (.inr (.inl ⟨txn, _, opened, rfl, there, id_eq,
        (Option.some.inj fits).symm⟩)))
    · cases fits
  | abortTransaction => exact .inr (.inr (.inr (.inr ⟨rfl, (Option.some.inj served).symm⟩)))

namespace Shared.Kept

theorem start : (Shared.start : Shared ResultSet).Kept formats where
  acknowledged := by simp [Shared.start]
  recorded := by simp [Shared.start]
  uncrossed := rfl
  straight := rfl
  alone := by simp [Shared.start]
  own := by simp [Shared.start]
  held := by simp [Shared.start]

/-- The service may end open transactions. -/
theorem closed (kept : shared.Kept formats) {opened : Text → Option Transaction}
    (fewer : ∀ token, opened token = none ∨ opened token = shared.opened token) :
    ({ shared with opened := opened } : Shared ResultSet).Kept formats where
  acknowledged := kept.acknowledged
  recorded := kept.recorded
  uncrossed := kept.uncrossed
  straight := kept.straight
  alone := kept.alone
  held := kept.held
  own := by
    intro entry member opened there
    rcases fewer entry.token with ended | same
    · cases ended.symm.trans there
    · exact kept.own entry member opened (same.symm.trans there)

theorem expire (kept : shared.Kept formats) (expired : List Text) :
    (shared.expire expired).Kept formats := by
  refine kept.closed fun token => ?_
  by_cases ended : token ∈ expired
  · exact .inl (if_pos ended)
  · exact .inr (if_neg ended)

theorem close (kept : shared.Kept formats) (token : Text) :
    (shared.setOpened token none).Kept formats := by
  refine kept.closed fun other => ?_
  by_cases same : other = token
  · exact .inl (by rw [same, Function.update_self])
  · exact .inr (Function.update_of_ne same ..)

theorem leave (kept : shared.Kept formats) (thread : Nat) : (shared.leave thread).Kept formats where
  acknowledged := kept.acknowledged
  recorded := kept.recorded
  uncrossed := kept.uncrossed
  straight := kept.straight
  held := kept.held
  alone := fun one here other there =>
    kept.alone one (List.mem_of_mem_filter here) other (List.mem_of_mem_filter there)
  own := fun entry member => kept.own entry (List.mem_of_mem_filter member)

/-- Inside of a transaction nobody else is the owner. -/
theorem unforeign (kept : shared.Kept formats) {entry : Inside} (member : entry ∈ shared.inside) :
    shared.foreign entry.thread entry.token = [] := by
  rw [Shared.foreign]
  split
  · exact if_pos (kept.own entry member _ ‹_›).1
  · rfl

theorem commit (kept : shared.Kept formats) (thread : Nat) (token : Text) (made : Commit) :
    (shared.commit thread token made).Kept formats where
  acknowledged := kept.acknowledged
  recorded := fun outcome member commit there =>
    List.mem_append_left _ (kept.recorded outcome member commit there)
  uncrossed := kept.uncrossed
  straight := kept.straight
  alone := kept.alone
  own := (kept.close token).own
  held := by
    intro other commit there
    by_cases same : other = thread
    · subst same
      rw [commit_committed, Function.update_self] at there
      rcases List.mem_append.mp there with before | made
      · exact List.mem_append_left _ (kept.held other commit before)
      · exact List.mem_append_right _ made
    · rw [commit_committed, Function.update_of_ne same] at there
      exact List.mem_append_left _ (kept.held other commit there)

/-- What a command of the call's own transaction needs to be in turn. -/
def Fits (shared : Shared ResultSet) (token : Text) (cmd : Command) : Prop :=
  cmd = .startTransaction → shared.opened token = none → ∀ entry ∈ shared.inside, entry.token ≠ token

theorem serve (kept : shared.Kept formats) {id : Text} (own : Own shared.inside thread token cmd)
    (fits : Fits shared token cmd)
    (served : shared.serve formats thread token id cmd = some next) : next.Kept formats := by
  rcases serve_cases served with ⟨rfl, unopened, rfl⟩ | ⟨txn, stmt, opened, rfl, there, -, rfl⟩ |
    ⟨_, _, -, rfl⟩ | ⟨txn, digest, opened, rfl, -, -, rfl⟩ | ⟨rfl, rfl⟩
  · refine { kept with own := ?_ }
    intro entry member opened there
    have apart := fits rfl unopened entry member
    rw [setOpened_opened, Function.update_of_ne apart] at there
    exact kept.own entry member opened there
  · refine { kept with own := ?_ }
    intro entry member found there_now
    by_cases same : entry.token = token
    · rw [setOpened_opened, same, Function.update_self] at there_now
      obtain rfl := Option.some.inj there_now
      rw [← same] at there
      exact kept.own entry member opened there
    · rw [setOpened_opened, Function.update_of_ne same] at there_now
      exact kept.own entry member found there_now
  · exact kept
  · exact kept.commit thread token _
  · obtain ⟨entry, member, rfl, rfl⟩ := own
    refine { kept.close entry.token with uncrossed := ?_ }
    rw [Shared.abortOpen, kept.unforeign member, List.append_nil]
    exact kept.uncrossed

theorem note (kept : shared.Kept formats) {answered : Bool}
    (starts : cmd = .startTransaction → answered = true →
      (∀ entry ∈ shared.inside, entry.token ≠ token) ∧
        shared.opened token = some ⟨around.transactionId, thread, []⟩) :
    (shared.note thread token around answered cmd).Kept formats := by
  cases cmd with
  | startTransaction =>
    rw [Shared.note]
    split
    · rename_i heard
      obtain ⟨apart, opened⟩ := starts rfl (Bool.and_eq_true_iff.mp heard).1
      refine { kept with alone := ?_, own := ?_ }
      · intro one here other there same
        rcases List.mem_cons.mp here with rfl | here <;> rcases List.mem_cons.mp there with rfl | there
        · rfl
        · exact absurd same.symm (apart other there)
        · exact absurd same (apart one here)
        · exact kept.alone one here other there same
      · intro entry member found there
        rcases List.mem_cons.mp member with rfl | member
        · obtain rfl := Option.some.inj (opened.symm.trans there)
          exact ⟨rfl, rfl⟩
        · exact kept.own entry member found there
    · exact kept
  | executeStatement txn stmt => exact kept
  | fetchPage txn page => exact kept
  | commitTransaction txn digest =>
    rw [Shared.note]
    split
    · exact kept.leave thread
    · exact kept
  | abortTransaction => exact kept.leave thread

theorem send (kept : shared.Kept formats) (own : Own shared.inside thread token cmd)
    (turn : InTurn formats thread shared (.send token cmd) around) :
    (shared.send formats thread token cmd around).2.Kept formats := by
  have before := kept.expire around.expired
  have fits : around.fate.reaches = true → Fits (shared.expire around.expired) token cmd := by
    rintro reaches rfl
    exact turn reaches
  have unanswered : ∀ {state : Shared ResultSet}, state.Kept formats →
      (state.note thread token around false cmd).Kept formats :=
    fun kept => kept.note fun _ never => by cases never
  rw [Shared.send, check_own own]
  split
  · rename_i after fate served
    have fits := fits (by rw [fate]; rfl)
    refine (before.serve own fits served).note ?_
    rintro rfl -
    rcases serve_cases served with ⟨-, unopened, rfl⟩ | ⟨_, _, _, never, -⟩ | ⟨_, _, never, -⟩ |
      ⟨_, _, _, never, -⟩ | ⟨never, -⟩
    · exact ⟨fits rfl unopened, Function.update_self ..⟩
    · cases never
    · cases never
    · cases never
    · cases never
  · exact unanswered before
  · rename_i fate
    cases served : (shared.expire around.expired).serve formats thread token around.transactionId cmd with
    | none => exact unanswered before
    | some after => exact unanswered (before.serve own (fits (by rw [fate]; rfl)) served)
  · refine unanswered ?_
    split
    · exact before.close token
    · exact before
  · exact unanswered before

end Shared.Kept

/-- What a step of another call leaves of what a call rests on. -/
structure Untouched (thread : Nat) (shared next : Shared ResultSet) : Prop where
  inside : ∀ entry, entry.thread = thread → (entry ∈ next.inside ↔ entry ∈ shared.inside)
  committed : next.committed thread = shared.committed thread
  opened : ∀ entry ∈ shared.inside, entry.thread = thread →
    next.opened entry.token = none ∨ next.opened entry.token = shared.opened entry.token

theorem Untouched.refl (shared : Shared ResultSet) : Untouched thread shared shared :=
  ⟨fun _ _ => Iff.rfl, rfl, fun _ _ _ => .inr rfl⟩

theorem Untouched.trans {middle : Shared ResultSet} (first : Untouched thread shared middle)
    (second : Untouched thread middle next) : Untouched thread shared next where
  inside := fun entry own => (second.inside entry own).trans (first.inside entry own)
  committed := second.committed.trans first.committed
  opened := by
    intro entry member own
    rcases second.opened entry ((first.inside entry own).mpr member) own with ended | same
    · exact .inl ended
    · rw [same]
      exact first.opened entry member own

theorem untouched_expire (expired : List Text) : Untouched thread shared (shared.expire expired) := by
  refine ⟨fun _ _ => Iff.rfl, rfl, fun entry _ _ => ?_⟩
  by_cases ended : entry.token ∈ expired
  · exact .inl (if_pos ended)
  · exact .inr (if_neg ended)

theorem untouched_close : Untouched thread shared (shared.setOpened token none) := by
  refine ⟨fun _ _ => Iff.rfl, rfl, fun entry _ _ => ?_⟩
  rw [setOpened_opened]
  by_cases same : entry.token = token
  · exact .inl (by rw [same, Function.update_self])
  · exact .inr (Function.update_of_ne same ..)

section Other

variable {other : Nat}

theorem untouched_leave (different : thread ≠ other) :
    Untouched thread shared (shared.leave other) := by
  refine ⟨fun entry own => ?_, rfl, fun _ _ _ => .inr rfl⟩
  rw [mem_leave, and_iff_left (by rw [own]; exact different)]

theorem untouched_note (different : thread ≠ other) (answered : Bool) :
    Untouched thread shared (shared.note other token around answered cmd) := by
  cases cmd with
  | startTransaction =>
    rw [Shared.note]
    split
    · refine ⟨fun entry own => ?_, rfl, fun _ _ _ => .inr rfl⟩
      have apart : entry ≠ ⟨other, token, around.transactionId⟩ := by
        rintro rfl
        exact different own.symm
      rw [List.mem_cons, or_iff_right apart]
    · exact Untouched.refl shared
  | executeStatement txn stmt => exact Untouched.refl shared
  | fetchPage txn page => exact Untouched.refl shared
  | commitTransaction txn digest =>
    rw [Shared.note]
    split
    · exact untouched_leave different
    · exact Untouched.refl shared
  | abortTransaction => exact untouched_leave different

/-- A session whose transaction another call is inside of is not the call's own. -/
theorem apart_of_inside (kept : shared.Kept formats) (different : thread ≠ other) {txn : Text}
    (member : ⟨other, token, txn⟩ ∈ shared.inside) {entry : Inside}
    (there : entry ∈ shared.inside) (own : entry.thread = thread) : entry.token ≠ token := by
  intro same
  have same := kept.alone entry there _ member same
  rw [same] at own
  exact different own.symm

theorem untouched_opened (opened : Option Transaction)
    (apart : ∀ entry ∈ shared.inside, entry.thread = thread → entry.token ≠ token) :
    Untouched thread shared (shared.setOpened token opened) :=
  ⟨fun _ _ => Iff.rfl, rfl, fun entry member own =>
    .inr (Function.update_of_ne (apart entry member own) ..)⟩

theorem untouched_serve (kept : shared.Kept formats) (different : thread ≠ other) {id : Text}
    (own : Own shared.inside other token cmd) (fits : Shared.Kept.Fits shared token cmd)
    (served : shared.serve formats other token id cmd = some next) :
    Untouched thread shared next := by
  rcases serve_cases served with ⟨rfl, unopened, rfl⟩ | ⟨txn, stmt, opened, rfl, there, -, rfl⟩ |
    ⟨_, _, -, rfl⟩ | ⟨txn, digest, opened, rfl, -, -, rfl⟩ | ⟨rfl, rfl⟩
  · exact untouched_opened _ fun entry member _ => fits rfl unopened entry member
  · exact untouched_opened _ fun entry member => apart_of_inside kept different own member
  · exact Untouched.refl _
  · have closed : Untouched thread shared (shared.setOpened token none) := untouched_close
    refine ⟨closed.inside, ?_, closed.opened⟩
    rw [commit_committed, Function.update_of_ne different]
  · have closed : Untouched thread shared (shared.setOpened token none) := untouched_close
    exact ⟨closed.inside, rfl, closed.opened⟩

theorem untouched_send (kept : shared.Kept formats) (different : thread ≠ other)
    (own : Own shared.inside other token cmd)
    (turn : InTurn formats other shared (.send token cmd) around) :
    Untouched thread shared (shared.send formats other token cmd around).2 := by
  have before := kept.expire around.expired
  have expired : Untouched thread shared (shared.expire around.expired) := untouched_expire _
  have fits : around.fate.reaches = true →
      Shared.Kept.Fits (shared.expire around.expired) token cmd := by
    rintro reaches rfl
    exact turn reaches
  rw [Shared.send, check_own own]
  split
  · rename_i after fate served
    exact (expired.trans (untouched_serve before different own (fits (by rw [fate]; rfl))
      served)).trans (untouched_note different true)
  · exact expired.trans (untouched_note different false)
  · rename_i fate
    cases served : (shared.expire around.expired).serve formats other token around.transactionId cmd with
    | none => exact expired.trans (untouched_note different false)
    | some after =>
      exact (expired.trans (untouched_serve before different own (fits (by rw [fate]; rfl))
        served)).trans (untouched_note different false)
  · split
    · exact (expired.trans untouched_close).trans (untouched_note different false)
    · exact expired.trans (untouched_note different false)
  · exact expired.trans (untouched_note different false)

end Other

theorem note_strayed (answered : Bool) :
    (shared.note thread token around answered cmd).strayed = shared.strayed := by
  cases cmd with
  | startTransaction =>
    rw [Shared.note]
    split
    · rfl
    · rfl
  | executeStatement txn stmt => rfl
  | fetchPage txn page => rfl
  | commitTransaction txn digest =>
    rw [Shared.note]
    split
    · rfl
    · rfl
  | abortTransaction => rfl

theorem serve_strayed {id : Text} (served : shared.serve formats thread token id cmd = some next) :
    next.strayed = shared.strayed := by
  rcases serve_cases served with ⟨-, -, rfl⟩ | ⟨_, _, _, -, -, -, rfl⟩ | ⟨_, _, -, rfl⟩ |
    ⟨_, _, _, -, -, -, rfl⟩ | ⟨-, rfl⟩
  · rfl
  · rfl
  · rfl
  · rfl
  · rfl

/-- A command outside of the call's own transaction is noted. -/
theorem send_strays (stray : ¬Own shared.inside thread token cmd) :
    (shared.send formats thread token cmd around).2.strayed = true := by
  have checked : (shared.check thread token cmd).strayed = true := by
    rw [Shared.check, decide_eq_false stray]
    simp
  rw [Shared.send]
  split
  · rw [note_strayed, serve_strayed ‹_›]
    exact checked
  · rw [note_strayed]
    exact checked
  · rw [note_strayed]
    cases served : ((shared.check thread token cmd).expire around.expired).serve formats thread token
        around.transactionId cmd with
    | none => exact checked
    | some after =>
      rw [Option.getD_some, serve_strayed served]
      exact checked
  · rw [note_strayed]
    split
    · exact checked
    · exact checked
  · rw [note_strayed]
    exact checked

theorem serve_inside {id : Text} (served : shared.serve formats thread token id cmd = some next) :
    next.inside = shared.inside := by
  rcases serve_cases served with ⟨-, -, rfl⟩ | ⟨_, _, _, -, -, -, rfl⟩ | ⟨_, _, -, rfl⟩ |
    ⟨_, _, _, -, -, -, rfl⟩ | ⟨-, rfl⟩
  · rfl
  · rfl
  · rfl
  · rfl
  · rfl

theorem send_ok (own : Own shared.inside thread token cmd) {response : Response}
    (sent : shared.send formats thread token cmd around = (.ok response, next)) :
    response = around.response ∧ ∃ after,
      (shared.expire around.expired).serve formats thread token around.transactionId cmd =
        some after ∧ next = after.note thread token around true cmd := by
  rw [Shared.send, check_own own] at sent
  split at sent
  · cases sent
    exact ⟨rfl, _, ‹_›, rfl⟩
  · cases sent
  · cases sent
  · cases sent
  · cases sent

/-- A command that fails commits nothing, unless the answer to a commit is lost. -/
theorem send_error (own : Own shared.inside thread token cmd)
    (turn : InTurn formats thread shared (.send token cmd) around) {error : AppError}
    (sent : shared.send formats thread token cmd around = (.error error, next)) :
    ∃ state : Shared ResultSet, state.inside = shared.inside ∧ state.committed = shared.committed ∧
      next = state.note thread token around false cmd := by
  rw [Shared.send, check_own own] at sent
  split at sent
  · cases sent
  · cases sent
    exact ⟨shared.expire around.expired, rfl, rfl, rfl⟩
  · rename_i fate
    cases sent
    refine ⟨_, ?_, ?_, rfl⟩
    · cases served : (shared.expire around.expired).serve formats thread token
          around.transactionId cmd with
      | none => rfl
      | some after =>
        have same := serve_inside served
        exact same
    · cases served : (shared.expire around.expired).serve formats thread token
          around.transactionId cmd with
      | none => rfl
      | some after =>
        rcases serve_cases served with ⟨-, -, rfl⟩ | ⟨_, _, _, -, -, -, rfl⟩ | ⟨_, _, -, rfl⟩ |
          ⟨_, _, _, rfl, -, -, -⟩ | ⟨-, rfl⟩
        · rfl
        · rfl
        · rfl
        · -- the condition: the answer to a commit arrives
          rw [InTurn, fate] at turn
          cases turn
        · rfl
  · cases sent
    refine ⟨_, ?_, ?_, rfl⟩
    · split <;> rfl
    · split <;> rfl
  · cases sent
    exact ⟨shared.expire around.expired, rfl, rfl, rfl⟩

theorem readToken_session (shared : Shared ResultSet) (around : Surroundings) :
    ∃ session, (shared.readToken around).2 = { shared with session := session } := by
  rw [Shared.readToken]
  split
  · exact ⟨_, rfl⟩
  · split
    · exact ⟨_, rfl⟩
    · exact ⟨_, rfl⟩
  · exact ⟨_, rfl⟩
  · exact ⟨_, rfl⟩
  · exact ⟨_, rfl⟩

theorem exec_untouched (kept : shared.Kept formats) {other : Nat} (different : thread ≠ other)
    {op : SessionOp ResultSet} (turn : InTurn formats other shared op around) {answer : op.Answer}
    (performed : Shared.exec formats other shared op around = some (answer, next)) :
    next.strayed = true ∨ Untouched thread shared next := by
  cases op with
  | sessionToken =>
    obtain ⟨session, same⟩ := readToken_session shared around
    have next_eq := congrArg Prod.snd (Option.some.inj performed)
    rw [← show _ = next from next_eq, same]
    exact .inr ⟨fun _ _ => Iff.rfl, rfl, fun _ _ _ => .inr rfl⟩
  | send token cmd =>
    have next_eq := congrArg Prod.snd (Option.some.inj performed)
    rw [← show _ = next from next_eq]
    by_cases own : Own shared.inside other token cmd
    · exact .inr (untouched_send kept different own turn)
    · exact .inl (send_strays own)
  | forget =>
    cases performed
    exact .inr ⟨fun _ _ => Iff.rfl, rfl, fun _ _ _ => .inr rfl⟩
  | answer script answer =>
    cases performed
    exact .inr ⟨fun _ _ => Iff.rfl, Function.update_of_ne different .., fun _ _ _ => .inr rfl⟩
  | hang => cases performed

end Steps

section Programs

variable {Ion ResultSet : Type} {formats : Formats Ion ResultSet} {thread : Nat} {token txn : Text}

/-- What a thread proves of its code in runs whose steps are in turn. -/
abbrev Proves (formats : Formats Ion ResultSet) (thread : Nat) {α : Type} (code : Code ResultSet α)
    (known : Shared ResultSet → Prop) (result : α → Shared ResultSet → Prop) : Prop :=
  Verified (Shared.exec formats) (Shared.Kept formats) (InTurn formats) thread code known result

/-- Something that holds unless some command went astray. -/
def Unless (known : Shared ResultSet → Prop) (shared : Shared ResultSet) : Prop :=
  shared.strayed = true ∨ known shared

theorem Unless.of_kept {known : Shared ResultSet → Prop} {shared : Shared ResultSet}
    (holds : Unless known shared) (kept : shared.Kept formats) : known shared := by
  rcases holds with strayed | holds
  · rw [kept.straight] at strayed
    cases strayed
  · exact holds

/-- Knowledge that no step of another call takes away. -/
def Lasts (thread : Nat) (known : Shared ResultSet → Prop) : Prop :=
  ∀ shared next : Shared ResultSet, Untouched thread shared next → known shared → known next

theorem lasts_stable {known : Shared ResultSet → Prop} (lasts : Lasts thread known) :
    Stable (Shared.exec formats) (Shared.Kept formats) (InTurn formats) thread (Unless known) := by
  intro other different shared op around answer next kept holds turn performed
  rcases exec_untouched kept (Ne.symm different) turn performed with strayed | untouched
  · exact .inl strayed
  · exact .inr (lasts shared next untouched (holds.of_kept kept))

/-- What is known behind something that may fail. -/
def After {α : Type} (succeeded : α → Shared ResultSet → Prop) (failed : Shared ResultSet → Prop) :
    Except AppError α → Shared ResultSet → Prop
  | .ok value => Unless (succeeded value)
  | .error _ => Unless failed

theorem proves_orFail {α β : Type} {first : Code ResultSet (Except AppError α)}
    {next : α → Code ResultSet (Except AppError β)} {known failed : Shared ResultSet → Prop}
    {middle : α → Shared ResultSet → Prop} {succeeded : β → Shared ResultSet → Prop}
    (begins : Proves formats thread first known (After middle failed))
    (later : ∀ value, Proves formats thread (next value) (Unless (middle value))
      (After succeeded failed)) :
    Proves formats thread (orFail first next) known (After succeeded failed) := by
  refine Verified.bind begins fun answer => ?_
  cases answer with
  | ok value => exact later value
  | error error => exact fun _ _ holds => holds

/-- The call is in no transaction, and this was committed for it. -/
structure Outside (thread : Nat) (commits : List Commit) (shared : Shared ResultSet) : Prop where
  inside : ∀ entry ∈ shared.inside, entry.thread ≠ thread
  committed : shared.committed thread = commits

/-- The call is inside of a transaction. -/
structure Within (thread : Nat) (token txn : Text) (shared : Shared ResultSet) : Prop where
  inside : ⟨thread, token, txn⟩ ∈ shared.inside
  committed : shared.committed thread = []

/-- What the transaction of the call has executed, while it is open. -/
structure Executed (thread : Nat) (token txn : Text) (done : List Text)
    (shared : Shared ResultSet) : Prop extends Within thread token txn shared where
  statements : ∀ opened, shared.opened token = some opened → opened.statements = done

theorem outside_lasts (commits : List Commit) :
    Lasts thread (Outside thread commits : Shared ResultSet → Prop) := by
  intro shared next untouched holds
  refine ⟨fun entry member own => ?_, untouched.committed.trans holds.committed⟩
  exact holds.inside entry ((untouched.inside entry own).mp member) own

theorem within_lasts : Lasts thread (Within thread token txn : Shared ResultSet → Prop) :=
  fun _ _ untouched holds => ⟨(untouched.inside _ rfl).mpr holds.inside,
    untouched.committed.trans holds.committed⟩

theorem executed_lasts (done : List Text) :
    Lasts thread (Executed thread token txn done : Shared ResultSet → Prop) := by
  intro shared next untouched holds
  refine ⟨within_lasts shared next untouched holds.toWithin, fun opened there => ?_⟩
  rcases untouched.opened _ holds.inside rfl with ended | same
  · cases ended.symm.trans there
  · exact holds.statements opened (same.symm.trans there)

theorem session_untouched (shared : Shared ResultSet) (session : Option Text) :
    Untouched thread shared { shared with session := session } :=
  ⟨fun _ _ => Iff.rfl, rfl, fun _ _ _ => .inr rfl⟩

theorem session_kept {shared : Shared ResultSet} (kept : shared.Kept formats)
    (session : Option Text) : ({ shared with session := session } : Shared ResultSet).Kept formats :=
  { kept with }

/-- A command of the call's own transaction. -/
theorem sends {known failed : Shared ResultSet → Prop}
    {succeeded : Response → Shared ResultSet → Prop} {cmd : Command} (lasts : Lasts thread known)
    (own : ∀ shared, known shared → Own shared.inside thread token cmd)
    (succeeds : ∀ shared around after, shared.Kept formats → known shared →
      (shared.expire around.expired).serve formats thread token around.transactionId cmd = some after →
        succeeded around.response (after.note thread token around true cmd))
    (fails : ∀ (shared state : Shared ResultSet) (around : Surroundings), known shared →
      state.inside = shared.inside →
      state.committed = shared.committed → failed (state.note thread token around false cmd)) :
    Proves formats thread (ask (.send token cmd)) (Unless known) (After succeeded failed) := by
  refine Verified.ask (lasts_stable lasts) ?_
  intro shared around answer next kept holds turn performed
  have holds := holds.of_kept kept
  have sent : shared.send formats thread token cmd around = (answer, next) :=
    Option.some.inj performed
  refine ⟨?_, ?_⟩
  · rw [← show _ = next from congrArg Prod.snd sent]
    exact kept.send (own shared holds) turn
  · cases answer with
    | ok response =>
      obtain ⟨rfl, after, served, rfl⟩ := send_ok (own shared holds) sent
      exact .inr (succeeds shared around after kept holds served)
    | error error =>
      obtain ⟨state, inside, committed, rfl⟩ := send_error (own shared holds) turn sent
      exact .inr (fails shared state around holds inside committed)

/-- A command whose session has expired drops the session. -/
theorem command_proves {known failed : Shared ResultSet → Prop}
    {succeeded : Response → Shared ResultSet → Prop} {cmd : Command} (lasts : Lasts thread failed)
    (sends : Proves formats thread (ask (.send token cmd)) known (After succeeded failed)) :
    Proves formats thread (command token cmd) known (After succeeded failed) := by
  refine Verified.bind sends fun answer => ?_
  cases answer with
  | ok response => exact fun _ _ holds => holds
  | error error =>
    dsimp only
    split
    · refine Verified.bind (Verified.ask (lasts_stable lasts) ?_ : Verified _ _ _ _ _ _ fun _ =>
        Unless failed) fun _ => fun _ _ holds => holds
      intro shared around answer next kept holds _ performed
      cases performed
      exact ⟨session_kept kept none,
        .inr (lasts _ _ (session_untouched shared none) (holds.of_kept kept))⟩
    · exact fun _ _ holds => holds

/-- Behind the start of a transaction. -/
def Started (thread : Nat) (token : Text) (response : Response) (shared : Shared ResultSet) : Prop :=
  match response.transactionId with
  | some txn => Executed thread token txn [] shared
  | none => Outside thread [] shared

theorem starts : Proves formats thread (command token .startTransaction)
    (Unless (Outside thread [])) (After (Started thread token) (Outside thread [])) := by
  refine command_proves (outside_lasts []) (sends (outside_lasts []) (fun _ _ => trivial) ?_ ?_)
  · intro shared around after kept holds served
    have inside := serve_inside served
    rcases serve_cases served with ⟨-, unopened, rfl⟩ | ⟨_, _, _, never, -⟩ | ⟨_, _, never, -⟩ |
      ⟨_, _, _, never, -⟩ | ⟨never, -⟩
    · rw [Started, Surroundings.response, Shared.note, Bool.true_and]
      by_cases readable : around.readable = true
      · rw [if_pos readable, if_pos readable]
        refine ⟨⟨List.mem_cons_self, holds.committed⟩, fun opened there => ?_⟩
        have found := (setOpened_self (some ⟨around.transactionId, thread, []⟩)).symm.trans there
        rw [← Option.some.inj found]
      · rw [if_neg readable, if_neg readable]
        exact ⟨holds.inside, holds.committed⟩
    · cases never
    · cases never
    · cases never
    · cases never
  · intro shared state around holds inside committed
    rw [Shared.note, Bool.false_and, if_neg Bool.false_ne_true]
    exact ⟨by rw [inside]; exact holds.inside, by rw [committed]; exact holds.committed⟩

theorem statement_executes (done : List Text) (stmt : Text) :
    Proves formats thread (command token (.executeStatement txn stmt))
      (Unless (Executed thread token txn done))
      (After (fun _ => Executed thread token txn (done ++ [stmt])) (Within thread token txn)) := by
  refine command_proves within_lasts (sends (executed_lasts done) (fun _ holds => holds.inside) ?_ ?_)
  · intro shared around after kept holds served
    rcases serve_cases served with ⟨never, -⟩ | ⟨_, _, opened, same, there, -, rfl⟩ |
      ⟨_, _, never, -⟩ | ⟨_, _, _, never, -⟩ | ⟨never, -⟩
    · cases never
    · cases same
      refine ⟨⟨holds.inside, holds.committed⟩, fun later found => ?_⟩
      have found := (setOpened_self (some _)).symm.trans found
      rw [← Option.some.inj found]
      have before : shared.opened token = some opened := by
        rw [expire_opened] at there
        split at there
        · cases there
        · exact there
      rw [holds.statements opened before]
    · cases never
    · cases never
    · cases never
  · intro shared state around holds inside committed
    exact ⟨by rw [Shared.note, inside]; exact holds.inside,
      by rw [Shared.note, committed]; exact holds.committed⟩

theorem page_fetches (done : List Text) (page : Text) :
    Proves formats thread (command token (.fetchPage txn page))
      (Unless (Executed thread token txn done))
      (After (fun _ => Executed thread token txn done) (Within thread token txn)) := by
  refine command_proves within_lasts (sends (executed_lasts done) (fun _ holds => holds.inside) ?_ ?_)
  · intro shared around after kept holds served
    rcases serve_cases served with ⟨never, -⟩ | ⟨_, _, _, never, -⟩ | ⟨_, _, -, rfl⟩ |
      ⟨_, _, _, never, -⟩ | ⟨never, -⟩
    · cases never
    · cases never
    · refine ⟨⟨holds.inside, holds.committed⟩, fun opened there => ?_⟩
      rw [Shared.note, expire_opened] at there
      split at there
      · cases there
      · exact holds.statements opened there
    · cases never
    · cases never
  · intro shared state around holds inside committed
    exact ⟨by rw [Shared.note, inside]; exact holds.inside,
      by rw [Shared.note, committed]; exact holds.committed⟩

theorem commits (statements : List Text) (digest : Text) :
    Proves formats thread (command token (.commitTransaction txn digest))
      (Unless (Executed thread token txn statements))
      (After (fun _ => Outside thread [commitOf formats txn statements])
        (Within thread token txn)) := by
  refine command_proves within_lasts
    (sends (executed_lasts statements) (fun _ holds => holds.inside) ?_ ?_)
  · intro shared around after kept holds served
    rcases serve_cases served with ⟨never, -⟩ | ⟨_, _, _, never, -⟩ | ⟨_, _, never, -⟩ |
      ⟨_, _, opened, same, there, -, rfl⟩ | ⟨never, -⟩
    · cases never
    · cases never
    · cases never
    · cases same
      have before : shared.opened token = some opened := by
        rw [expire_opened] at there
        split at there
        · cases there
        · exact there
      rw [holds.statements opened before, Shared.note, if_pos rfl]
      refine ⟨fun entry member => (mem_leave.mp member).2, ?_⟩
      rw [leave_committed, commit_committed, Function.update_self]
      exact congrArg (· ++ _) holds.committed
    · cases never
  · intro shared state around holds inside committed
    rw [Shared.note, if_neg Bool.false_ne_true]
    exact ⟨by rw [inside]; exact holds.inside, by rw [committed]; exact holds.committed⟩

theorem aborts : Proves formats thread (abort token) (Unless (Within thread token txn))
    fun _ => Unless (Outside thread []) := by
  have sent : Proves formats thread (command token .abortTransaction)
      (Unless (Within thread token txn)) (After (fun _ => Outside thread []) (Outside thread [])) := by
    refine command_proves (outside_lasts [])
      (sends within_lasts (fun _ holds => ⟨_, holds.inside, rfl, rfl⟩) ?_ ?_)
    · intro shared around after kept holds served
      rcases serve_cases served with ⟨never, -⟩ | ⟨_, _, _, never, -⟩ | ⟨_, _, never, -⟩ |
        ⟨_, _, _, never, -⟩ | ⟨-, rfl⟩
      · cases never
      · cases never
      · cases never
      · cases never
      · exact ⟨fun entry member => (mem_leave.mp member).2, holds.committed⟩
    · intro shared state around holds inside committed
      exact ⟨fun entry member => (mem_leave.mp member).2,
        by rw [Shared.note, leave_committed, committed]; exact holds.committed⟩
  refine Verified.bind sent fun answer => ?_
  cases answer with
  | ok response => exact fun _ _ holds => holds
  | error error => exact fun _ _ holds => holds

theorem Unless.imp {known weaker : Shared ResultSet → Prop} {shared : Shared ResultSet}
    (implies : known shared → weaker shared) (holds : Unless known shared) : Unless weaker shared :=
  holds.imp_right implies

theorem pages_fetch (done : List Text) (maxValues fuel : Nat) (page : Page) (values : List Ion) :
    Proves formats thread (fetchPages formats token txn maxValues fuel page values)
      (Unless (Executed thread token txn done))
      (After (fun _ => Executed thread token txn done) (Within thread token txn)) := by
  induction fuel generalizing page values with
  | zero =>
    rw [fetchPages]
    split
    · exact fun _ _ holds => Unless.imp Executed.toWithin holds
    · split
      · split
        · refine Verified.bind (Verified.ask (lasts_stable (executed_lasts done)) ?_ :
            Verified _ _ _ _ _ _ fun _ _ => False) fun _ => fun _ _ never => never.elim
          intro shared around answer next _ _ _ performed
          cases performed
        · exact fun _ _ holds => holds
      · exact fun _ _ holds => holds
  | succ fuel hypothesis =>
    rw [fetchPages]
    split
    · exact fun _ _ holds => Unless.imp Executed.toWithin holds
    · split
      · split
        · exact proves_orFail (page_fetches done _) fun fetched => hypothesis fetched.page _
        · exact fun _ _ holds => holds
      · exact fun _ _ holds => holds

theorem statement_runs (fuel : Nat) (stmt : Text) (maxValues : Nat) (done : List Text) :
    Proves formats thread (runStatement formats fuel token txn stmt maxValues)
      (Unless (Executed thread token txn done))
      (After (fun _ => Executed thread token txn (done ++ [stmt])) (Within thread token txn)) :=
  proves_orFail (statement_executes done stmt) fun resp =>
    proves_orFail (pages_fetch (done ++ [stmt]) maxValues fuel resp.page []) fun _ _ _ holds => holds

/-- All statements are executed, in order, or the transaction is over. -/
theorem statements_run (fuel maxValues : Nat) (statements : List Text) (results : List (List Ion))
    (done : List Text) :
    Proves formats thread (runStatements formats fuel token txn maxValues statements results)
      (Unless (Executed thread token txn done))
      (After (fun _ => Executed thread token txn (done ++ statements)) (Outside thread [])) := by
  induction statements generalizing results done with
  | nil =>
    rw [List.append_nil]
    exact fun _ _ holds => holds
  | cons stmt rest hypothesis =>
    refine Verified.bind (statement_runs fuel stmt maxValues done) fun answer => ?_
    cases answer with
    | ok vals =>
      rw [List.append_cons done stmt rest]
      exact hypothesis (results ++ [vals]) (done ++ [stmt])
    | error error => exact Verified.bind aborts fun _ _ _ holds => holds

/-- What a transaction commits: its statements, or nothing. -/
def Ends (formats : Formats Ion ResultSet) (thread : Nat) (statements : List Text) (commit : Bool)
    (shared : Shared ResultSet) : Prop :=
  ∃ commits, Outside thread commits shared ∧
    (if commit then ∃ id, commits = [commitOf formats id statements] else commits = [])

theorem finishes (statements : List Text) (commit : Bool) (results : List (List Ion)) :
    Proves formats thread (finish formats token txn statements commit results)
      (Unless (Executed thread token txn statements))
      (After (fun _ => Ends formats thread statements commit) (Outside thread [])) := by
  cases commit with
  | true =>
    refine Verified.bind (commits statements _) fun resp => ?_
    cases resp with
    | ok _ => exact fun _ _ holds => Unless.imp (fun outside => ⟨_, outside, txn, rfl⟩) holds
    | error error => exact Verified.bind aborts fun _ _ _ holds => holds
  | false =>
    refine Verified.bind (Verified.of_known aborts fun _ _ holds =>
      Unless.imp Executed.toWithin holds : Verified _ _ _ _ _ _ fun _ =>
        Unless (Outside thread [])) fun _ => ?_
    exact fun _ _ holds => Unless.imp (fun outside => ⟨_, outside, rfl⟩) holds

theorem token_reads : Proves formats thread (ask .sessionToken : Code ResultSet _)
    (Unless (Outside thread [])) (After (fun _ => Outside thread []) (Outside thread [])) := by
  refine Verified.ask (lasts_stable (outside_lasts [])) ?_
  intro shared around answer next kept holds _ performed
  obtain ⟨session, same⟩ := readToken_session shared around
  have next_eq := congrArg Prod.snd (Option.some.inj performed)
  have next_eq : { shared with session := session } = next := same.symm.trans next_eq
  subst next_eq
  have outside := outside_lasts [] _ _ (session_untouched shared session) (holds.of_kept kept)
  refine ⟨session_kept kept session, ?_⟩
  cases answer with
  | ok token => exact .inr outside
  | error error => exact .inr outside

theorem transacts (fuel : Nat) (statements : List Text) (maxValues : Nat) (commit : Bool) :
    Proves formats thread (transaction formats fuel statements maxValues commit)
      (Unless (Outside thread []))
      (After (fun _ => Ends formats thread statements commit) (Outside thread [])) := by
  refine proves_orFail token_reads fun token => proves_orFail starts fun response => ?_
  split
  · rename_i unread
    refine fun shared _ holds => Unless.imp (fun started => ?_) holds
    rw [Started, unread] at started
    exact started
  · rename_i txn read
    have started : ∀ shared : Shared ResultSet, Started thread token response shared →
        Executed thread token txn [] shared := by
      intro shared started
      rw [Started, read] at started
      exact started
    refine Verified.of_known ?_ fun shared _ holds => Unless.imp (started shared) holds
    exact proves_orFail (statements_run fuel maxValues statements [] []) fun results =>
      finishes statements commit results

theorem executes (fuel : Nat) (readOnly : Bool) (sql : Text) (maxRows : Nat) :
    Proves formats thread (execute formats fuel readOnly sql maxRows) (Unless (Outside thread []))
      (After (fun _ => Ends formats thread (statementsOf sql)
        ((statementsOf sql).any (isWrite formats))) (Outside thread [])) := by
  rw [execute]
  split
  · exact fun _ _ holds => holds
  · split
    · exact fun _ _ holds => holds
    · exact proves_orFail (transacts fuel _ maxRows _) fun results _ _ holds => holds

theorem hear_kept {shared : Shared ResultSet} (kept : shared.Kept formats) {script : Text}
    {answer : Except AppError (List (StatementResult ResultSet))}
    (acknowledged : Acknowledged formats ⟨script, answer, shared.committed thread⟩) :
    (shared.hear thread script answer).Kept formats := by
  refine { kept with acknowledged := ?_, recorded := ?_, held := ?_ }
  · intro outcome member
    rcases List.mem_append.mp member with before | now
    · exact kept.acknowledged outcome before
    · rw [List.mem_singleton.mp now]
      exact acknowledged
  · intro outcome member
    rcases List.mem_append.mp member with before | now
    · exact kept.recorded outcome before
    · rw [List.mem_singleton.mp now]
      exact kept.held thread
  · intro other commit there
    have there : commit ∈ Function.update shared.committed thread [] other := there
    by_cases same : other = thread
    · rw [same, Function.update_self] at there
      cases there
    · rw [Function.update_of_ne same] at there
      exact kept.held other commit there

/-- What is known where a call of `execute` answers. -/
theorem answers (script : Text) (answer : Except AppError (List (StatementResult ResultSet))) :
    Proves formats thread (ask (.answer script answer))
      (After (fun _ => Ends formats thread (statementsOf script)
        ((statementsOf script).any (isWrite formats))) (Outside thread []) answer)
      fun _ => Unless (Outside thread []) := by
  have heard : ∀ {shared : Shared ResultSet} {commits : List Commit}, shared.Kept formats →
      Outside thread commits shared → Acknowledged formats ⟨script, answer, commits⟩ →
        (shared.hear thread script answer).Kept formats ∧
          Unless (Outside thread []) (shared.hear thread script answer) := by
    intro shared commits kept outside acknowledged
    rw [← outside.committed] at acknowledged
    exact ⟨hear_kept kept acknowledged, .inr ⟨outside.inside, Function.update_self ..⟩⟩
  cases answer with
  | error error =>
    refine Verified.ask (lasts_stable (outside_lasts [])) ?_
    intro shared around _ next kept holds _ performed
    cases performed
    refine heard kept (holds.of_kept kept) ⟨fun results same => ?_, fun _ _ => rfl⟩
    cases same
  | ok results =>
    have lasts : Lasts thread (Ends formats thread (statementsOf script)
        ((statementsOf script).any (isWrite formats))) := by
      intro shared next untouched holds
      obtain ⟨commits, outside, what⟩ := holds
      exact ⟨commits, outside_lasts commits shared next untouched outside, what⟩
    refine Verified.ask (lasts_stable lasts) ?_
    intro shared around _ next kept holds turn performed
    cases performed
    obtain ⟨commits, outside, what⟩ := holds.of_kept kept
    refine heard kept outside ⟨fun _ _ found => ?_, fun error same => ?_⟩
    · have begun : (statementsOf script).any (isWrite formats) = true := turn found
      rw [if_pos begun] at what
      exact what
    · cases same

theorem program_proves (fuel : Nat) (call : Call) :
    Proves formats thread (program formats fuel call) (Unless (Outside thread []))
      fun _ => Unless (Outside thread []) := by
  cases call with
  | execute readOnly sql maxRows =>
    exact Verified.bind (executes fuel readOnly sql maxRows) fun answer => answers sql answer
  | select sql maxValues =>
    refine Verified.bind (transacts fuel [sql] maxValues false) fun answer => ?_
    cases answer with
    | error error => exact fun _ _ holds => holds
    | ok results =>
      refine fun shared _ holds => Unless.imp ?_ holds
      rintro ⟨commits, outside, rfl⟩
      exact outside

/-- While no transaction is opened with another call still inside of one, no answer to a
commit is lost, and what the guard takes for a write is begun as one: what is acknowledged
is committed, what fails is not, and no abort ends the transaction of another call. -/
theorem acknowledged_is_committed (fuel : Nat) (events : List (Event Call Surroundings))
    (in_turn : Machine.Along (step (Shared.exec formats) (program formats fuel))
      (Meets (InTurn formats)) (Interleaving.start Shared.start) events) :
    Machine.Throughout (step (Shared.exec formats) (program formats fuel))
      (fun threads => Honest formats threads.shared) (Interleaving.start Shared.start) events := by
  have idle : ∀ thread, Stable (Shared.exec formats) (Shared.Kept formats) (InTurn formats) thread
      (Unless (Outside thread [])) := fun thread => lasts_stable (outside_lasts [])
  have kept := throughout_idle idle (fun _ call => program_proves fuel call) Shared.Kept.start
    (fun _ => .inr ⟨by simp [Shared.start], rfl⟩) in_turn
  exact kept.mono fun _ both => both.1.toHonest

section Ledger

def alphabet : Text :=
  "ABCDEFGHIJKLMNOPQRSTUVWXYZabcdefghijklmnopqrstuvwxyz0123456789+/".toList

/-- Base64 of some bytes, with its padding. -/
def base64 : List UInt8 → Text
  | a :: b :: c :: rest => sextets [a, b, c] 4 ++ base64 rest
  | [a, b] => sextets [a, b, 0] 3 ++ ['=']
  | [a] => sextets [a, 0, 0] 2 ++ "==".toList
  | [] => []
where
  sextets (bytes : List UInt8) (count : Nat) : Text :=
    let bits := bytes.foldl (fun bits byte => bits * 256 + byte.toNat) 0
    ([bits / 262144, bits / 4096 % 64, bits / 64 % 64, bits % 64].take count).map fun sextet =>
      alphabet.getD sextet 'A'

/-- A ledger whose answers are empty. -/
def cars : Formats Unit Unit where
  base64 digest := base64 digest.toList
  decodeIon _ := .ok []
  string _ := ()
  toUppercase := Texts.toAsciiUppercase
  valuesToResult _ := ()

def fine : Surroundings :=
  ⟨.served, [], driver "unfit".toList, some "s1".toList, "t1".toList, true, ⟨[], none⟩⟩

/-- A script that nothing gets in the way of. -/
def runsScript (sql : String) (steps : Nat) : List (Event Call Surroundings) :=
  .call 0 (.execute false sql.toList 100) :: List.replicate steps (.go 0 fine)

theorem cars_deleted :
    Machine.Throughout (step (Shared.exec cars) (program cars 1))
      (fun threads => Honest cars threads.shared) (Interleaving.start Shared.start)
      (runsScript "DELETE FROM cars" 6) :=
  acknowledged_is_committed 1 _ (by
    rw [runsScript, String.toList_ofList]
    decide +kernel)

theorem cars_stay :
    (Machine.run (step (Shared.exec cars) (program cars 1)) (Interleaving.start Shared.start)
      (runsScript "/* all */ DELETE FROM cars" 6)).map
        (fun threads => threads.shared.outcomes.map fun outcome =>
          (outcome.script, outcome.answer.toBool, outcome.commits)) =
      some [("/* all */ DELETE FROM cars".toList, true, [])] := by
  rw [runsScript, String.toList_ofList]
  decide +kernel

/-- A deletion behind a comment is answered like a query, and rolled back. -/
theorem acknowledged_and_lost :
    ¬∀ (Ion ResultSet : Type) (formats : Formats Ion ResultSet) (fuel : Nat)
      (events : List (Event Call Surroundings)),
      Machine.Throughout (step (Shared.exec formats) (program formats fuel))
        (fun threads => Honest formats threads.shared) (Interleaving.start Shared.start) events := by
  intro honest
  obtain ⟨last, reached, outcomes⟩ := Option.map_eq_some_iff.mp cars_stay
  have acknowledged := ((honest Unit Unit cars 1 _).last reached).acknowledged
  obtain ⟨outcome, single, same⟩ := List.map_eq_singleton_iff.mp outcomes
  have script : outcome.script = "/* all */ DELETE FROM cars".toList := congrArg Prod.fst same
  have answered : outcome.answer.toBool = true := congrArg (fun parts => parts.2.1) same
  have commits : outcome.commits = [] := congrArg (fun parts => parts.2.2) same
  rw [single] at acknowledged
  cases answer : outcome.answer with
  | error error =>
    rw [answer] at answered
    cases answered
  | ok results =>
    have found : GuardFindsWrite outcome.script := by
      rw [script]
      rw [String.toList_ofList]
      decide +kernel
    obtain ⟨id, made⟩ :=
      (acknowledged outcome (List.mem_singleton_self _)).committed results answer found
    rw [commits] at made
    cases made

end Ledger

end Programs

end DbFree.Qldb
