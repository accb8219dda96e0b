import DbFree.AgentGate
import DbFree.FailClosed
import DbFree.Machine

/- One run of the agent: its requests for permission, the messages of the user, and what
runs (services/agent/mod.rs, commands/agent.rs). -/
namespace DbFree.Agent

open Destructive Machine
open GuardDialect (noJson)

/-- What a granted request lets happen. -/
inductive Job where
  | statement (text : Text) (kind : StatementKind)
  | document
deriving DecidableEq

/-- What was shown, sent, answered and run, in order. An answer names the places of the
request and of the message. -/
inductive Event where
  | emitted (request : PermissionRequest)
  | sent (decision : PermissionDecision)
  | cancelled
  | answered (shownAt sentAt : Nat) (decision : PermissionDecision)
  | ran (statement : Text) (kind : StatementKind)
deriving DecidableEq

/-- Where a call stands at the gate. -/
inductive Phase where
  | idle
  | asked (job : Job) (request : PermissionRequest)
  /-- The cancel flag was found unset. -/
  | going (job : Job) (request : PermissionRequest)
  /-- The request was emitted at a place of the events. -/
  | waiting (job : Job) (request : PermissionRequest) (shownAt : Nat)
  | decided (job : Job) (decision : PermissionDecision)
deriving DecidableEq

/-- A run with its gate. Each message of the inbox is marked with its place in the events;
`cancelling` counts the cancels whose `Deny` is still to be sent. -/
structure Run where
  cancel : Bool
  cancelling : Nat
  inbox : List (Nat × PermissionDecision)
  closed : Bool
  blanket : List Text
  callId : Text
  phase : Phase
  events : List Event
deriving DecidableEq

inductive Action where
  | call (statement purpose callId : Text)
  | save (kind : DocumentKind) (draft : Draft) (updating : Bool) (callId : Text)
  | check
  | emit
  | receive
  | proceed
  | decide (decision : PermissionDecision)
  | cancel
  | unblock
  | close

namespace Run

def start : Run := ⟨false, 0, [], false, [], [], .idle, []⟩

def log (run : Run) (event : Event) : Run := { run with events := run.events ++ [event] }

/-- A message sent to the gate, at the end of the events. -/
def send (run : Run) (decision : PermissionDecision) (event : Event) : Run :=
  { run with
    inbox := run.inbox ++ [(run.events.length, decision)]
    events := run.events ++ [event] }

/-- A call that reached its gate. -/
def gated (run : Run) (job : Job) : Gated → Run
  | .refused _ => run
  | .runs =>
    match job with
    | .statement text kind => run.log (.ran text kind)
    | .document => run
  | .asks request => { run with phase := .asked job request }

/-- `ask` up to the request: the tools waved through are not asked about. -/
def emitOr (run : Run) (job : Job) (request : PermissionRequest) : Run :=
  if request.tool ∈ run.blanket then { run with phase := .decided job .allow }
  else
    { run with
      phase := .waiting job request run.events.length
      events := run.events ++ [.emitted { request with callId := run.callId }] }

/-- `ask` from the request on: the oldest unread message is the answer. -/
def receive (run : Run) (job : Job) (request : PermissionRequest) (shownAt : Nat) : Option Run :=
  match run.inbox with
  | (sentAt, decision) :: unread =>
    some { run with
      inbox := unread
      blanket :=
        if decision = .allowForRun then run.blanket.insert request.tool else run.blanket
      phase := .decided job decision
      events := run.events ++ [.answered shownAt sentAt decision] }
  | [] => if run.closed then some { run with phase := .decided job .deny } else none

def proceed (run : Run) (job : Job) (decision : PermissionDecision) : Run :=
  let idle := { run with phase := .idle }
  match decision, job with
  | .deny, _ => idle
  | _, .statement text kind => idle.log (.ran text kind)
  | _, .document => idle

variable (reader : JsonReader) (ctx : ToolCtx)

/-- The gates of the run, whose connection and settings do not change. -/
def step (run : Run) : Action → Option Run
  | .call statement purpose callId =>
    if run.phase = .idle then
      some (gated { run with callId := callId }
        (.statement statement (kindOf reader ctx.engine statement))
        (authorize reader { ctx with callId := callId } statement purpose))
    else none
  | .save kind draft updating callId =>
    if run.phase = .idle then
      some (gated { run with callId := callId } .document
        (authorizeDocument { ctx with callId := callId } kind draft updating))
    else none
  | .check =>
    match run.phase with
    | .asked job request =>
      some { run with phase := if run.cancel then .decided job .deny else .going job request }
    | _ => none
  | .emit =>
    match run.phase with
    | .going job request => some (run.emitOr job request)
    | _ => none
  | .receive =>
    match run.phase with
    | .waiting job request shownAt => run.receive job request shownAt
    | _ => none
  | .proceed =>
    match run.phase with
    | .decided job decision => some (run.proceed job decision)
    | _ => none
  | .decide decision => if run.closed then none else some (run.send decision (.sent decision))
  | .cancel =>
    if run.closed then none else some { run with cancel := true, cancelling := run.cancelling + 1 }
  | .unblock =>
    if run.cancelling = 0 then none
    else some { run.send .deny .cancelled with cancelling := run.cancelling - 1 }
  | .close => some { run with closed := true }

end Run

section Claims

/-- The events before another one. -/
def Always (property : List Event → Event → Prop) (events : List Event) : Prop :=
  ∀ before event later, events = before ++ event :: later → property before event

/-- The message at a place was sent after the request at another, and no later request was
there by then. -/
def SentFor (before : List Event) (shownAt sentAt : Nat) (request : PermissionRequest) : Prop :=
  shownAt < sentAt ∧ before[shownAt]? = some (.emitted request) ∧
    ∀ place other, shownAt < place → place < sentAt → before[place]? ≠ some (.emitted other)

/-- Whatever `ask` answers was sent for the request. -/
def AnsweredInTime (before : List Event) : Event → Prop
  | .answered shownAt sentAt _ => ∃ request, SentFor before shownAt sentAt request
  | _ => True

/-- Whatever `ask` answers was sent for the request, unless it is the `Deny` of a cancel. -/
def DecidedInTime (before : List Event) : Event → Prop
  | .answered shownAt sentAt decision =>
    before[sentAt]? = some (.sent decision) → ∃ request, SentFor before shownAt sentAt request
  | _ => True

/-- The user let the statement run when the last request showed it. -/
def Approves (before : List Event) (statement : Text) : Prop :=
  ∃ shownAt sentAt decision request, SentFor before shownAt sentAt request ∧
    request.statement = some statement ∧ before[sentAt]? = some (.sent decision) ∧
      decision ≠ .deny ∧ ∀ place other, shownAt < place → before[place]? ≠ some (.emitted other)

/-- The user waved a tool through, on a request that showed one of the intents. -/
def Waves (intents : StatementKind → Prop) (before : List Event) (tool : Text) : Prop :=
  ∃ shownAt sentAt request, SentFor before shownAt sentAt request ∧ request.tool = tool ∧
    intents request.intent ∧ before[sentAt]? = some (.sent .allowForRun)

/-- A destructive statement runs only where the user approved it or waved its tool through. -/
def RunsApproved (intents : StatementKind → Prop) (before : List Event) : Event → Prop
  | .ran statement .destructive =>
    Approves before statement ∨ Waves intents before "run_query".toList
  | _ => True

end Claims

/-- A decision is sent while a request is shown and no message is unread. -/
def Run.DecidesOnce (run : Run) : Action → Prop
  | .decide _ => run.inbox = [] ∧ ∃ job request shownAt, run.phase = .waiting job request shownAt
  | _ => True

section Traces

theorem Always.snoc {property : List Event → Event → Prop} {events : List Event} {event : Event}
    (all : Always property events) (last : property events event) :
    Always property (events ++ [event]) := by
  intro before other later split
  rcases List.eq_nil_or_concat later with rfl | ⟨others, final, rfl⟩
  · obtain ⟨rfl, same⟩ := List.append_inj' split rfl
    cases same
    exact last
  · rw [List.concat_eq_append, ← List.cons_append, ← List.append_assoc] at split
    exact all before other others (List.append_inj' split rfl).1

theorem always_nil (property : List Event → Event → Prop) : Always property [] := by
  intro before event later split
  simp at split

theorem place_append {events : List Event} {place : Nat} {event : Event}
    (found : events[place]? = some event) (more : List Event) :
    (events ++ more)[place]? = some event := by
  rw [List.getElem?_append_left (List.getElem?_eq_some_iff.mp found).1]
  exact found

theorem place_of_append {events : List Event} {place : Nat} {event last : Event}
    (found : (events ++ [last])[place]? = some event) :
    events[place]? = some event ∨ place = events.length ∧ event = last := by
  rw [List.getElem?_append] at found
  split at found
  · exact .inl found
  · rw [List.getElem?_singleton] at found
    split at found
    · exact .inr ⟨by omega, (Option.some.inj found).symm⟩
    · cases found

theorem SentFor.append {before : List Event} {shownAt sentAt : Nat} {request : PermissionRequest}
    (sent : SentFor before shownAt sentAt request) (inside : sentAt < before.length) (more : List Event) :
    SentFor (before ++ more) shownAt sentAt request := by
  obtain ⟨order, shown, none_between⟩ := sent
  refine ⟨order, place_append shown more, ?_⟩
  intro place other after earlier
  rw [List.getElem?_append_left (by omega)]
  exact none_between place other after earlier

theorem Waves.append {intents : StatementKind → Prop} {before : List Event} {tool : Text}
    (waves : Waves intents before tool) (more : List Event) :
    Waves intents (before ++ more) tool := by
  obtain ⟨shownAt, sentAt, request, sent, same, shows, waved⟩ := waves
  exact ⟨shownAt, sentAt, request, sent.append (List.getElem?_eq_some_iff.mp waved).1 more, same, shows,
    place_append waved more⟩

theorem Approves.append {before : List Event} {statement : Text} {event : Event}
    (approves : Approves before statement) (quiet : ∀ request, event ≠ .emitted request) :
    Approves (before ++ [event]) statement := by
  obtain ⟨shownAt, sentAt, decision, request, sent, shows, decided, allows, last⟩ := approves
  refine ⟨shownAt, sentAt, decision, request,
    sent.append (List.getElem?_eq_some_iff.mp decided).1 [event], shows,
    place_append decided [event], allows, ?_⟩
  intro place other after found
  rcases place_of_append found with earlier | ⟨-, same⟩
  · exact last place other after earlier
  · exact quiet other same.symm

end Traces

section Keeping

/-- The request of a statement shows it, under the name of the tool that is waved through. -/
def Job.ShownBy (request : PermissionRequest) : Job → Prop
  | .statement text _ => request.statement = some text ∧ request.tool = "run_query".toList
  | .document => True

/-- The call and its request, from the gate on until the user has decided. -/
def Phase.Asks (job : Job) (request : PermissionRequest) : Phase → Prop
  | .asked own shown | .going own shown | .waiting own shown _ => own = job ∧ shown = request
  | .idle | .decided _ _ => False

/-- What the messages and the waved tools of a run rest on. Only the oldest unread message
can be a decision, and then it was sent for the request on display. -/
structure Run.Kept (run : Run) : Prop where
  marked : ∀ sentAt decision, (sentAt, decision) ∈ run.inbox →
    run.events[sentAt]? = some (.sent decision) ∨
      run.events[sentAt]? = some .cancelled ∧ decision = .deny
  unread : ∀ message ∈ run.inbox.tail, run.events[message.1]? = some .cancelled
  fresh : ∀ sentAt decision unread, run.inbox = (sentAt, decision) :: unread →
    run.events[sentAt]? = some (.sent decision) →
      ∃ job request shownAt, run.phase = .waiting job request shownAt ∧ shownAt < sentAt
  shown : ∀ job request shownAt, run.phase = .waiting job request shownAt →
    run.events[shownAt]? = some (.emitted { request with callId := run.callId }) ∧
      ∀ place other, shownAt < place → run.events[place]? ≠ some (.emitted other)
  asks : ∀ job request, run.phase.Asks job request → job.ShownBy request
  waved : ∀ tool ∈ run.blanket, Waves (fun _ => True) run.events tool
  granted : ∀ text kind decision, run.phase = .decided (.statement text kind) decision →
    decision ≠ .deny → Approves run.events text ∨ Waves (fun _ => True) run.events "run_query".toList
  answered : Always DecidedInTime run.events
  approved : Always (RunsApproved fun _ => True) run.events

namespace Run.Kept

variable {run : Run}

theorem start : Run.start.Kept where
  marked := by simp [Run.start]
  unread := by simp [Run.start]
  fresh := by simp [Run.start]
  shown := by simp [Run.start]
  asks := fun _ _ asks => asks.elim
  waved := by simp [Run.start]
  granted := by simp [Run.start]
  answered := always_nil _
  approved := always_nil _

theorem mark_inside (kept : run.Kept) {message : Nat × PermissionDecision}
    (member : message ∈ run.inbox) : message.1 < run.events.length := by
  rcases kept.marked message.1 message.2 member with found | found
  · exact (List.getElem?_eq_some_iff.mp found).1
  · exact (List.getElem?_eq_some_iff.mp found.1).1

/-- Outside a question, no decision of the user is unread. -/
theorem none_unread (kept : run.Kept)
    (calm : ∀ job request shownAt, run.phase ≠ .waiting job request shownAt) :
    ∀ message ∈ run.inbox, run.events[message.1]? = some .cancelled := by
  intro message member
  cases inbox : run.inbox with
  | nil =>
    rw [inbox] at member
    cases member
  | cons head tail =>
    rw [inbox] at member
    rcases List.mem_cons.mp member with rfl | later
    · rcases kept.marked message.1 message.2 (by rw [inbox]; exact List.mem_cons_self) with
        sent | cancelled
      · obtain ⟨job, request, shownAt, waiting, -⟩ := kept.fresh _ _ tail inbox sent
        exact absurd waiting (calm job request shownAt)
      · exact cancelled.1
    · exact kept.unread message (by rw [inbox]; exact later)

/-- The run goes on to a phase without a question on display. -/
theorem turn (kept : run.Kept)
    (calm : ∀ job request shownAt, run.phase ≠ .waiting job request shownAt) {phase : Phase}
    (quiet : ∀ job request shownAt, phase ≠ .waiting job request shownAt)
    (asks : ∀ job request, phase.Asks job request → job.ShownBy request)
    (granted : ∀ text kind decision, phase = .decided (.statement text kind) decision →
      decision ≠ .deny →
        Approves run.events text ∨ Waves (fun _ => True) run.events "run_query".toList) :
    Run.Kept { run with phase := phase } where
  marked := kept.marked
  unread := kept.unread
  fresh := by
    intro sentAt decision unread inbox sent
    have head : (sentAt, decision) ∈ run.inbox := by
      rw [show run.inbox = _ from inbox]
      exact List.mem_cons_self
    rw [show run.events[sentAt]? = _ from kept.none_unread calm _ head] at sent
    cases sent
  shown := fun job request shownAt waiting => absurd waiting (quiet job request shownAt)
  asks := asks
  waved := kept.waved
  granted := granted
  answered := kept.answered
  approved := kept.approved

/-- An event that is no request is added. -/
theorem log (kept : run.Kept) {event : Event} (quiet : ∀ request, event ≠ .emitted request)
    (answered : DecidedInTime run.events event)
    (approved : RunsApproved (fun _ => True) run.events event) : (run.log event).Kept where
  marked := by
    intro sentAt decision member
    exact (kept.marked sentAt decision member).imp (place_append · [event])
      (.imp_left (place_append · [event]))
  unread := fun message member => place_append (kept.unread message member) [event]
  fresh := by
    intro sentAt decision unread inbox sent
    have inside := kept.mark_inside (show (sentAt, decision) ∈ run.inbox by
      rw [show run.inbox = _ from inbox]
      exact List.mem_cons_self)
    have before : run.events[sentAt]? = some (.sent decision) := by
      rw [← sent]
      exact (List.getElem?_append_left inside).symm
    exact kept.fresh sentAt decision unread inbox before
  shown := by
    intro job request shownAt waiting
    obtain ⟨shown, last⟩ := kept.shown job request shownAt waiting
    refine ⟨place_append shown [event], ?_⟩
    intro place other after found
    rcases place_of_append found with earlier | ⟨-, same⟩
    · exact last place other after earlier
    · exact quiet other same.symm
  asks := kept.asks
  waved := fun tool member => (kept.waved tool member).append [event]
  granted := by
    intro text kind decision phase allows
    exact (kept.granted text kind decision phase allows).imp (·.append quiet) (·.append [event])
  answered := kept.answered.snoc answered
  approved := kept.approved.snoc approved

/-- A question is put on display. -/
theorem emit (kept : run.Kept)
    (calm : ∀ job request shownAt, run.phase ≠ .waiting job request shownAt) {job : Job}
    {request : PermissionRequest} (shows : job.ShownBy request) :
    Run.Kept { run with
      phase := .waiting job request run.events.length
      events := run.events ++ [.emitted { request with callId := run.callId }] } where
  marked := by
    intro sentAt decision member
    exact (kept.marked sentAt decision member).imp (place_append · _)
      (.imp_left (place_append · _))
  unread := fun message member => place_append (kept.unread message member) _
  fresh := by
    intro sentAt decision unread inbox sent
    have head : (sentAt, decision) ∈ run.inbox := by
      rw [show run.inbox = _ from inbox]
      exact List.mem_cons_self
    rw [place_append (kept.none_unread calm _ head) _] at sent
    cases sent
  shown := by
    rintro _ _ _ ⟨⟩
    refine ⟨by simp, ?_⟩
    intro place other after
    rw [List.getElem?_eq_none (by simp; omega)]
    exact (Option.some_ne_none _).symm
  asks := by
    rintro _ _ ⟨rfl, rfl⟩
    exact shows
  waved := fun tool member => (kept.waved tool member).append _
  granted := by rintro _ _ _ ⟨⟩
  answered := kept.answered.snoc trivial
  approved := kept.approved.snoc trivial

/-- The decision at the head of the inbox was sent for the request on display. -/
theorem sentFor (kept : run.Kept) {job : Job} {request : PermissionRequest} {shownAt sentAt : Nat}
    {decision : PermissionDecision} {unread : List (Nat × PermissionDecision)}
    (waiting : run.phase = .waiting job request shownAt)
    (inbox : run.inbox = (sentAt, decision) :: unread)
    (sent : run.events[sentAt]? = some (.sent decision)) :
    SentFor run.events shownAt sentAt { request with callId := run.callId } ∧
      ∀ place other, shownAt < place → run.events[place]? ≠ some (.emitted other) := by
  obtain ⟨_, _, _, phase, order⟩ := kept.fresh sentAt decision unread inbox sent
  rw [waiting] at phase
  cases phase
  obtain ⟨shown, last⟩ := kept.shown job request shownAt waiting
  exact ⟨⟨order, shown, fun place other after _ => last place other after⟩, last⟩

theorem receive (kept : run.Kept) {job : Job} {request : PermissionRequest} {shownAt : Nat}
    (waiting : run.phase = .waiting job request shownAt) {next : Run}
    (received : run.receive job request shownAt = some next) : next.Kept := by
  have shows : job.ShownBy request := kept.asks job request (by rw [waiting]; exact ⟨rfl, rfl⟩)
  rw [Run.receive] at received
  split at received
  · rename_i sentAt decision unread inbox
    have head : (sentAt, decision) ∈ run.inbox := by
      rw [inbox]
      exact List.mem_cons_self
    have sent : decision ≠ .deny → run.events[sentAt]? = some (.sent decision) :=
      fun allows => (kept.marked sentAt decision head).resolve_right fun denied => allows denied.2
    have quiet : ∀ request, Event.answered shownAt sentAt decision ≠ .emitted request := by
      intro request same
      cases same
    have tail : ∀ message ∈ unread, run.events[message.1]? = some .cancelled := by
      intro message member
      exact kept.unread message (by rw [inbox]; exact member)
    obtain rfl := Option.some.inj received
    refine ⟨?_, ?_, ?_, by rintro _ _ _ ⟨⟩, fun _ _ asks => asks.elim, ?_, ?_, ?_, ?_⟩
    · intro otherAt other member
      have before := kept.marked otherAt other (by rw [inbox]; exact List.mem_cons_of_mem _ member)
      exact before.imp (place_append · _) (.imp_left (place_append · _))
    · intro message member
      exact place_append (tail message (List.mem_of_mem_tail member)) _
    · intro otherAt other rest later found
      have member : (otherAt, other) ∈ unread := by
        rw [show unread = _ from later]
        exact List.mem_cons_self
      rw [place_append (tail _ member) _] at found
      cases found
    · intro tool member
      have waves : tool ∈ run.blanket ∨ decision = .allowForRun ∧ tool = request.tool := by
        have member : tool ∈ if decision = .allowForRun then run.blanket.insert request.tool
          else run.blanket := member
        split at member
        · rcases List.mem_insert_iff.mp member with rfl | old
          · exact .inr ⟨‹_›, rfl⟩
          · exact .inl old
        · exact .inl member
      rcases waves with old | ⟨rfl, rfl⟩
      · exact (kept.waved tool old).append _
      · have sent := sent (by decide)
        have now := (kept.sentFor waiting inbox sent).1
        have waved : Waves (fun _ => True) run.events request.tool :=
          ⟨shownAt, sentAt, _, now, rfl, trivial, sent⟩
        exact waved.append _
    · intro text kind other decided allows
      have decided : Phase.decided job decision = .decided (.statement text kind) other := decided
      cases decided
      have sent := sent allows
      obtain ⟨now, last⟩ := kept.sentFor waiting inbox sent
      have approves : Approves run.events text :=
        ⟨shownAt, sentAt, decision, _, now, shows.1, sent, allows, last⟩
      exact .inl (approves.append quiet)
    · exact kept.answered.snoc fun sent => ⟨_, (kept.sentFor waiting inbox sent).1⟩
    · exact kept.approved.snoc trivial
  · rename_i inbox
    split at received
    · obtain rfl := Option.some.inj received
      exact ⟨kept.marked, kept.unread,
        fun _ _ _ filled => (List.cons_ne_nil _ _ (filled.symm.trans inbox)).elim,
        by rintro _ _ _ ⟨⟩, fun _ _ asks => asks.elim, kept.waved,
        by rintro _ _ _ ⟨⟩ allows; exact absurd rfl allows, kept.answered, kept.approved⟩
    · cases received

/-- A message is sent: the user's only while a request is on display with nothing unread. -/
theorem send (kept : run.Kept) {decision : PermissionDecision} {event : Event}
    (quiet : ∀ request, event ≠ .emitted request)
    (answered : DecidedInTime run.events event)
    (approved : RunsApproved (fun _ => True) run.events event)
    (meant : event = .sent decision ∧ run.inbox = [] ∧
        (∃ job request shownAt, run.phase = .waiting job request shownAt) ∨
      event = .cancelled ∧ decision = .deny) : (run.send decision event).Kept := by
  have logged := kept.log quiet answered approved
  have own : (run.events ++ [event])[run.events.length]? = some event := by simp
  refine ⟨?_, ?_, ?_, logged.shown, logged.asks, logged.waved, logged.granted, logged.answered,
    logged.approved⟩
  · intro sentAt other member
    rcases List.mem_append.mp member with old | new
    · exact logged.marked sentAt other old
    · cases List.mem_singleton.mp new
      rcases meant with ⟨rfl, -, -⟩ | ⟨rfl, rfl⟩
      · exact .inl own
      · exact .inr ⟨own, rfl⟩
  · intro message member
    rcases meant with ⟨-, empty, -⟩ | ⟨rfl, -⟩
    · have member : message ∈ (run.inbox ++ [(run.events.length, decision)]).tail := member
      rw [empty] at member
      cases member
    · have member : message ∈ (run.inbox ++ [(run.events.length, decision)]).tail := member
      cases inbox : run.inbox with
      | nil =>
        rw [inbox] at member
        cases member
      | cons head tail =>
        rw [inbox, List.cons_append, List.tail_cons] at member
        rcases List.mem_append.mp member with old | new
        · exact logged.unread message (by
            show message ∈ run.inbox.tail
            rw [inbox]
            exact old)
        · cases List.mem_singleton.mp new
          exact own
  · intro sentAt other unread inbox sent
    have inbox : run.inbox ++ [(run.events.length, decision)] = (sentAt, other) :: unread := inbox
    cases before : run.inbox with
    | nil =>
      rw [before] at inbox
      cases inbox
      rcases meant with ⟨rfl, -, job, request, shownAt, waiting⟩ | ⟨rfl, -⟩
      · have shown := (kept.shown job request shownAt waiting).1
        exact ⟨job, request, shownAt, waiting, (List.getElem?_eq_some_iff.mp shown).1⟩
      · rw [show (run.send decision .cancelled).events[run.events.length]? = _ from own] at sent
        cases sent
    | cons head tail =>
      rw [before, List.cons_append] at inbox
      obtain ⟨rfl, -⟩ := List.cons.inj inbox
      exact logged.fresh sentAt other tail before sent

end Run.Kept

end Keeping

section Steps

variable (reader : JsonReader) (ctx : ToolCtx)

namespace Run.Kept

variable {run : Run}

theorem called (kept : run.Kept) (idle : run.phase = .idle) (callId : Text) :
    Run.Kept { run with callId := callId } where
  marked := kept.marked
  unread := kept.unread
  fresh := kept.fresh
  shown := by
    intro job request shownAt waiting
    exact absurd (idle.symm.trans waiting) (by rintro ⟨⟩)
  asks := kept.asks
  waved := kept.waved
  granted := kept.granted
  answered := kept.answered
  approved := kept.approved

theorem asked (kept : run.Kept) (idle : run.phase = .idle) {job : Job}
    {request : PermissionRequest} (shows : job.ShownBy request) :
    Run.Kept { run with phase := .asked job request } := by
  refine kept.turn ?_ (by rintro _ _ _ ⟨⟩) ?_ (by rintro _ _ _ ⟨⟩)
  · intro _ _ _ waiting
    rw [idle] at waiting
    cases waiting
  · rintro _ _ ⟨rfl, rfl⟩
    exact shows

/-- A statement that is not destructive runs. -/
theorem ran (kept : run.Kept) {text : Text} {kind : StatementKind} (mild : kind ≠ .destructive) :
    (run.log (.ran text kind)).Kept := by
  refine kept.log (by rintro _ ⟨⟩) trivial ?_
  cases kind with
  | read => trivial
  | write => trivial
  | destructive => exact absurd rfl mild

theorem gated_statement (kept : run.Kept) (idle : run.phase = .idle)
    (statement purpose callId : Text) :
    (run.gated (.statement statement (kindOf reader ctx.engine statement))
      (authorize reader { ctx with callId := callId } statement purpose)).Kept := by
  cases gate : authorize reader { ctx with callId := callId } statement purpose with
  | refused => exact kept
  | runs =>
    have mild : kindOf reader { ctx with callId := callId }.engine statement ≠ .destructive :=
      authorize_runs gate
    exact kept.ran mild
  | asks request =>
    obtain ⟨shown, tool, -⟩ := authorize_asks gate
    exact kept.asked idle ⟨shown, tool⟩

theorem gated_document (kept : run.Kept) (idle : run.phase = .idle) (gate : Gated) :
    (run.gated .document gate).Kept := by
  cases gate with
  | refused => exact kept
  | runs => exact kept
  | asks request => exact kept.asked idle trivial

theorem checked (kept : run.Kept) {job : Job} {request : PermissionRequest}
    (asked : run.phase = .asked job request) :
    Run.Kept { run with phase := if run.cancel then .decided job .deny else .going job request } := by
  have calm : ∀ job request shownAt, run.phase ≠ .waiting job request shownAt := by
    intro _ _ _ waiting
    rw [asked] at waiting
    cases waiting
  split
  · refine kept.turn calm (by rintro _ _ _ ⟨⟩) (fun _ _ asks => asks.elim) ?_
    rintro _ _ _ ⟨⟩ allows
    exact absurd rfl allows
  · refine kept.turn calm (by rintro _ _ _ ⟨⟩) ?_ (by rintro _ _ _ ⟨⟩)
    rintro _ _ ⟨rfl, rfl⟩
    exact kept.asks _ _ (by rw [asked]; exact ⟨rfl, rfl⟩)

theorem emitOr (kept : run.Kept) {job : Job} {request : PermissionRequest}
    (going : run.phase = .going job request) : (run.emitOr job request).Kept := by
  have calm : ∀ job request shownAt, run.phase ≠ .waiting job request shownAt := by
    intro _ _ _ waiting
    rw [going] at waiting
    cases waiting
  have shows : job.ShownBy request := kept.asks job request (by rw [going]; exact ⟨rfl, rfl⟩)
  rw [Run.emitOr]
  split
  · rename_i waved
    refine kept.turn calm (by rintro _ _ _ ⟨⟩) (fun _ _ asks => asks.elim) ?_
    rintro text kind _ ⟨⟩ -
    have waves := kept.waved _ waved
    rw [shows.2] at waves
    exact .inr waves
  · exact kept.emit calm shows

theorem proceed (kept : run.Kept) {job : Job} {decision : PermissionDecision}
    (decided : run.phase = .decided job decision) : (run.proceed job decision).Kept := by
  have calm : ∀ job request shownAt, run.phase ≠ .waiting job request shownAt := by
    intro _ _ _ waiting
    rw [decided] at waiting
    cases waiting
  have idle : Run.Kept { run with phase := .idle } :=
    kept.turn calm (by rintro _ _ _ ⟨⟩) (fun _ _ asks => asks.elim) (by rintro _ _ _ ⟨⟩)
  cases job with
  | document => cases decision <;> exact idle
  | statement text kind =>
    have granted := kept.granted text kind decision decided
    cases decision with
    | deny => exact idle
    | allow =>
      refine idle.log (by rintro _ ⟨⟩) trivial ?_
      cases kind with
      | read => trivial
      | write => trivial
      | destructive => exact granted (by decide)
    | allowForRun =>
      refine idle.log (by rintro _ ⟨⟩) trivial ?_
      cases kind with
      | read => trivial
      | write => trivial
      | destructive => exact granted (by decide)

end Run.Kept

theorem step_kept (run : Run) (action : Action) (next : Run) (kept : run.Kept)
    (once : run.DecidesOnce action) (stepped : run.step reader ctx action = some next) :
    next.Kept := by
  cases action with
  | call statement purpose callId =>
    simp only [Run.step] at stepped
    split at stepped
    · obtain rfl := Option.some.inj stepped
      exact (kept.called ‹_› callId).gated_statement reader ctx ‹_› statement purpose callId
    · cases stepped
  | save kind draft updating callId =>
    simp only [Run.step] at stepped
    split at stepped
    · obtain rfl := Option.some.inj stepped
      exact (kept.called ‹_› callId).gated_document ‹_› _
    · cases stepped
  | check =>
    simp only [Run.step] at stepped
    split at stepped
    · obtain rfl := Option.some.inj stepped
      exact kept.checked ‹_›
    · cases stepped
  | emit =>
    simp only [Run.step] at stepped
    split at stepped
    · obtain rfl := Option.some.inj stepped
      exact kept.emitOr ‹_›
    · cases stepped
  | receive =>
    simp only [Run.step] at stepped
    split at stepped
    · exact kept.receive ‹_› stepped
    · cases stepped
  | proceed =>
    simp only [Run.step] at stepped
    split at stepped
    · obtain rfl := Option.some.inj stepped
      exact kept.proceed ‹_›
    · cases stepped
  | decide decision =>
    simp only [Run.step] at stepped
    split at stepped
    · cases stepped
    · obtain rfl := Option.some.inj stepped
      exact kept.send (by rintro _ ⟨⟩) trivial trivial (.inl ⟨rfl, once⟩)
  | cancel =>
    simp only [Run.step] at stepped
    split at stepped
    · cases stepped
    · obtain rfl := Option.some.inj stepped
      exact ⟨kept.marked, kept.unread, kept.fresh, kept.shown, kept.asks, kept.waved, kept.granted,
        kept.answered, kept.approved⟩
  | unblock =>
    simp only [Run.step] at stepped
    split at stepped
    · cases stepped
    · obtain rfl := Option.some.inj stepped
      have sent : (run.send .deny .cancelled).Kept :=
        kept.send (by rintro _ ⟨⟩) trivial trivial (.inr ⟨rfl, rfl⟩)
      exact ⟨sent.marked, sent.unread, sent.fresh, sent.shown, sent.asks, sent.waved, sent.granted,
        sent.answered, sent.approved⟩
  | close =>
    obtain rfl := Option.some.inj stepped
    exact ⟨kept.marked, kept.unread, kept.fresh, kept.shown, kept.asks, kept.waved, kept.granted,
      kept.answered, kept.approved⟩

/-- Where each decision is sent once, for the request on display, no decision answers
another request, and a destructive statement runs only when it was approved itself or its
tool was waved through. -/
theorem approvals_are_shown (actions : List Action)
    (once : Along (Run.step reader ctx) Run.DecidesOnce Run.start actions) :
    Throughout (Run.step reader ctx)
      (fun run => Always DecidedInTime run.events ∧
        Always (RunsApproved fun _ => True) run.events) Run.start actions :=
  (throughout_of_kept (step_kept reader ctx) Run.Kept.start once).mono
    fun _ kept => ⟨kept.answered, kept.approved⟩

end Steps

/-- A connection that asks on every write. -/
def asking : ToolCtx := ⟨.postgres, false, .askOnWrite, []⟩

def insertRequest : PermissionRequest where
  callId := "call-1".toList
  tool := "run_query".toList
  title := "Run a statement".toList
  statement := some "INSERT INTO t VALUES (1)".toList
  statements := ["INSERT INTO t VALUES (1)".toList]
  intent := .write
  reason := "This statement changes data in your database.".toList
  actionLabel := none

def insertJob : Job := .statement "INSERT INTO t VALUES (1)".toList .write

/-- An insert on display. -/
def insertShown : Run :=
  ⟨false, 0, [], false, [], "call-1".toList, .waiting insertJob insertRequest 0,
    [.emitted insertRequest]⟩

theorem insert_is_shown : Machine.run (Run.step noJson asking) Run.start
    [.call "INSERT INTO t VALUES (1)".toList [] "call-1".toList, .check, .emit] =
      some insertShown := by
  decide +kernel

def insertThenDrop : List Action :=
  [.call "INSERT INTO t VALUES (1)".toList [] "call-1".toList, .check, .emit] ++
    [.decide .allowForRun, .receive, .proceed,
      .call "DROP TABLE t".toList [] "call-2".toList, .check, .emit, .proceed]

/-- The table is dropped without a question, after an insert was waved through for the run. -/
theorem insert_waved_through :
    Throughout (Run.step noJson asking)
      (fun run => Always DecidedInTime run.events ∧
        Always (RunsApproved fun _ => True) run.events) Run.start insertThenDrop := by
  refine approvals_are_shown noJson asking insertThenDrop (along_append insert_is_shown ?_ ?_)
  · exact fun _ _ => ⟨trivial, fun _ _ => ⟨trivial, fun _ _ => ⟨trivial, trivial⟩⟩⟩
  · refine along_step rfl ⟨rfl, _, _, _, rfl⟩ ?_
    exact fun _ _ => ⟨trivial, fun _ _ => ⟨trivial, fun _ _ => ⟨trivial, fun _ _ =>
      ⟨trivial, fun _ _ => ⟨trivial, fun _ _ => ⟨trivial, trivial⟩⟩⟩⟩⟩⟩

def insertEvents : List Event :=
  [.emitted insertRequest, .sent .allowForRun, .answered 0 1 .allowForRun,
    .ran "INSERT INTO t VALUES (1)".toList .write]

theorem insert_then_drop_runs : ((Machine.run (Run.step noJson asking) Run.start
    insertThenDrop).map Run.events) =
      some (insertEvents ++ [.ran "DROP TABLE t".toList .destructive]) := by
  decide +kernel

theorem insert_shown {shownAt : Nat} {request : PermissionRequest}
    (found : insertEvents[shownAt]? = some (.emitted request)) : request = insertRequest := by
  have member := List.mem_of_getElem? found
  simp [insertEvents] at member
  exact member

/-- The insert was waved through, and the drop was never shown. -/
theorem drop_runs_unseen :
    ¬∀ (reader : JsonReader) (ctx : ToolCtx) (actions : List Action),
      Throughout (Run.step reader ctx)
        (fun run => Always AnsweredInTime run.events ∧
          Always (RunsApproved (· = .destructive)) run.events) Run.start actions := by
  intro always
  obtain ⟨last, reached, events⟩ := Option.map_eq_some_iff.mp insert_then_drop_runs
  obtain ⟨-, approved⟩ := (always noJson asking insertThenDrop).last reached
  rw [events] at approved
  rcases approved insertEvents _ [] rfl with
    ⟨shownAt, _, _, request, ⟨-, found, -⟩, same, -⟩ |
    ⟨shownAt, _, request, ⟨-, found, -⟩, -, intent, -⟩
  · rw [insert_shown found] at same
    exact absurd same (by decide)
  · rw [insert_shown found] at intent
    cases intent

end DbFree.Agent
