import DbFree.Machine

/- Programs that share a state and take turns at every operation, and the rule that shows
an invariant of the shared state by looking at one program at a time. -/
namespace DbFree.Interleaving

/-- A program that performs operations one at a time and goes on with their answers. -/
inductive Prog (Op : Type) (Answer : Op → Type) (α : Type) where
  | done (value : α)
  | perform (op : Op) (next : Answer op → Prog Op Answer α)

namespace Prog

variable {Op : Type} {Answer : Op → Type} {α β : Type}

def bind : Prog Op Answer α → (α → Prog Op Answer β) → Prog Op Answer β
  | .done value, next => next value
  | .perform op rest, next => .perform op fun answer => (rest answer).bind next

instance : Monad (Prog Op Answer) where
  pure := .done
  bind := bind

def ask (op : Op) : Prog Op Answer (Answer op) := .perform op .done

/-- The program on its own: one choice of the environment for each operation. -/
def alone {State Choice : Type}
    (exec : State → (op : Op) → Choice → Option (Answer op × State)) :
    Prog Op Answer α → State → List Choice → Option (α × State)
  | .done value, state, [] => some (value, state)
  | .perform op next, state, choice :: rest =>
    match exec state op choice with
    | some (answer, later) => alone exec (next answer) later rest
    | none => none
  | _, _, _ => none

section Alone

variable {State Choice : Type} (exec : State → (op : Op) → Choice → Option (Answer op × State))
  (allowed : Choice → Prop)

/-- Whatever choices are made of those allowed, the program on its own leads from the one
to the other. -/
structure Leads (known : State → Prop) (prog : Prog Op Answer α) (result : α → State → Prop) :
    Prop where
  ends : ∀ state choices value last, known state → (∀ choice ∈ choices, allowed choice) →
    alone exec prog state choices = some (value, last) → result value last

variable {exec allowed}

theorem leads_done {known : State → Prop} {value : α} {result : α → State → Prop}
    (gives : ∀ state, known state → result value state) :
    Leads exec allowed known (pure value) result := by
  refine ⟨fun state choices answer last holds _ performed => ?_⟩
  cases choices with
  | nil =>
    cases performed
    exact gives state holds
  | cons choice rest => cases performed

theorem leads_ask {known : State → Prop} {op : Op} {result : Answer op → State → Prop}
    (does : ∀ state choice answer next, known state → allowed choice →
      exec state op choice = some (answer, next) → result answer next) :
    Leads exec allowed known (ask op) result := by
  refine ⟨fun state choices answer last holds may performed => ?_⟩
  cases choices with
  | nil => cases performed
  | cons choice rest =>
    rw [ask, alone] at performed
    cases executed : exec state op choice with
    | none => simp [executed] at performed
    | some done =>
      simp only [executed] at performed
      cases rest with
      | nil =>
        cases performed
        exact does state choice done.1 done.2 holds (may choice List.mem_cons_self) executed
      | cons other others => cases performed

/-- A program that is put together of two runs the one and then the other. -/
theorem alone_bind {prog : Prog Op Answer α} {next : α → Prog Op Answer β} {state last : State}
    {choices : List Choice} {value : β}
    (performed : alone exec (prog >>= next) state choices = some (value, last)) :
    ∃ first second middle between, choices = first ++ second ∧
      alone exec prog state first = some (middle, between) ∧
      alone exec (next middle) between second = some (value, last) := by
  induction prog generalizing state choices with
  | done answer => exact ⟨[], choices, answer, state, rfl, rfl, performed⟩
  | perform op rest hypothesis =>
    cases choices with
    | nil => cases performed
    | cons choice others =>
      have shape : perform op rest >>= next = perform op fun answer => rest answer >>= next := rfl
      rw [shape, alone] at performed
      cases executed : exec state op choice with
      | none => simp [executed] at performed
      | some done =>
        simp only [executed] at performed
        obtain ⟨first, second, middle, between, parts, one, two⟩ := hypothesis done.1 performed
        refine ⟨choice :: first, second, middle, between, by rw [parts]; rfl, ?_, two⟩
        rw [alone, executed]
        exact one

theorem Leads.bind {known : State → Prop} {prog : Prog Op Answer α} {middle : α → State → Prop}
    {next : α → Prog Op Answer β} {result : β → State → Prop}
    (first : Leads exec allowed known prog middle)
    (second : ∀ value, Leads exec allowed (middle value) (next value) result) :
    Leads exec allowed known (prog >>= next) result := by
  refine ⟨fun state choices value last holds may performed => ?_⟩
  obtain ⟨front, back, answer, between, parts, one, two⟩ := alone_bind performed
  rw [parts] at may
  have between_holds := first.ends state front answer between holds
    (fun choice mem => may choice (List.mem_append_left back mem)) one
  exact (second answer).ends between back value last between_holds
    (fun choice mem => may choice (List.mem_append_right front mem)) two

theorem Leads.of_known {known stronger : State → Prop} {prog : Prog Op Answer α}
    {result : α → State → Prop} (leads : Leads exec allowed known prog result)
    (implies : ∀ state, stronger state → known state) : Leads exec allowed stronger prog result :=
  ⟨fun state choices value last holds =>
    leads.ends state choices value last (implies state holds)⟩

/-- What is known may name something; the rest of the proof may take it as given. -/
theorem Leads.of_exists {ι : Sort*} {known : ι → State → Prop} {prog : Prog Op Answer α}
    {result : α → State → Prop} (each : ∀ name, Leads exec allowed (known name) prog result) :
    Leads exec allowed (fun state => ∃ name, known name state) prog result :=
  ⟨fun state choices value last holds =>
    (each holds.choose).ends state choices value last holds.choose_spec⟩

end Alone

end Prog

section Threads

variable {State Op Choice Call α : Type} {Answer : Op → Type}

/-- The shared state, and what is left to do for each thread that runs a program. -/
structure Threads (State Op : Type) (Answer : Op → Type) (α : Type) where
  shared : State
  running : Nat → Option (Prog Op Answer α)

inductive Event (Call Choice : Type) where
  /-- An idle thread starts the program of a call. -/
  | call (thread : Nat) (what : Call)
  /-- A thread performs its next operation, or returns. -/
  | go (thread : Nat) (choice : Choice)
deriving DecidableEq

variable (exec : Nat → State → (op : Op) → Choice → Option (Answer op × State))
  (program : Call → Prog Op Answer α)

def step (threads : Threads State Op Answer α) :
    Event Call Choice → Option (Threads State Op Answer α)
  | .call thread what =>
    match threads.running thread with
    | none =>
      some { threads with
        running := Function.update threads.running thread (some (program what)) }
    | some _ => none
  | .go thread choice =>
    match threads.running thread with
    | some (.perform op next) =>
      (exec thread threads.shared op choice).map fun performed =>
        ⟨performed.2, Function.update threads.running thread (some (next performed.1))⟩
    | some (.done _) =>
      some { threads with running := Function.update threads.running thread none }
    | none => none

def start (shared : State) : Threads State Op Answer α := ⟨shared, fun _ => none⟩

variable (inv : State → Prop) (condition : Nat → State → Op → Choice → Prop)

/-- A condition on operations, as one on the events that perform them. -/
def Meets (threads : Threads State Op Answer α) : Event Call Choice → Prop
  | .call _ _ => True
  | .go thread choice =>
    ∀ op next, threads.running thread = some (.perform op next) →
      condition thread threads.shared op choice

instance decidableMeets [∀ thread state op choice, Decidable (condition thread state op choice)]
    (threads : Threads State Op Answer α) :
    (event : Event Call Choice) → Decidable (Meets condition threads event)
  | .call _ _ => isTrue trivial
  | .go thread choice =>
    match running : threads.running thread with
    | none => isTrue fun _ _ other => by rw [running] at other; cases other
    | some (.done _) => isTrue fun _ _ other => by rw [running] at other; cases other
    | some (.perform op next) =>
      decidable_of_iff (condition thread threads.shared op choice)
        ⟨fun met op next other => by rw [running] at other; cases other; exact met,
          fun meets => meets op next running⟩

theorem meets_go {threads : Threads State Op Answer α} {thread : Nat} {choice : Choice} {op : Op}
    {next : Answer op → Prog Op Answer α} {condition : Nat → State → Op → Choice → Prop}
    (running : threads.running thread = some (.perform op next))
    (met : condition thread threads.shared op choice) :
    Meets condition threads (.go thread choice : Event Call Choice) := by
  intro other rest running_other
  rw [running] at running_other
  cases running_other
  exact met

/-- What a thread knows and no operation of another thread takes from it. -/
def Stable (thread : Nat) (known : State → Prop) : Prop :=
  ∀ other, other ≠ thread → ∀ state op choice answer next, inv state → known state →
    condition other state op choice → exec other state op choice = some (answer, next) →
    known next

/-- From what the thread knows the operation keeps the invariant and gives the result. -/
def Performs (thread : Nat) (known : State → Prop) (op : Op)
    (result : Answer op → State → Prop) : Prop :=
  ∀ state choice answer next, inv state → known state → condition thread state op choice →
    exec thread state op choice = some (answer, next) → inv next ∧ result answer next

/-- The proof of a program for one thread: before each operation something stable is known
that makes the operation keep the invariant. -/
def Verified (thread : Nat) {α : Type} :
    Prog Op Answer α → (State → Prop) → (α → State → Prop) → Prop
  | .done value, known, result => ∀ state, inv state → known state → result value state
  | .perform op next, known, result =>
    ∃ kept : State → Prop, (∀ state, inv state → known state → kept state) ∧
      Stable exec inv condition thread kept ∧
      ∃ middle : Answer op → State → Prop, Performs exec inv condition thread kept op middle ∧
        ∀ answer, Verified thread (next answer) (middle answer) result

variable {exec program inv condition}

theorem stable_true (thread : Nat) : Stable exec inv condition thread fun _ => True :=
  fun _ _ _ _ _ _ _ _ _ _ _ => trivial

theorem Verified.of_known {thread : Nat} {α : Type} {prog : Prog Op Answer α}
    {known stronger : State → Prop} {result : α → State → Prop}
    (verified : Verified exec inv condition thread prog known result)
    (implies : ∀ state, inv state → stronger state → known state) :
    Verified exec inv condition thread prog stronger result := by
  cases prog with
  | done value =>
    intro state holds stronger_holds
    exact verified state holds (implies state holds stronger_holds)
  | perform op next =>
    obtain ⟨kept, known_kept, rest⟩ := verified
    refine ⟨kept, fun state holds stronger_holds => ?_, rest⟩
    exact known_kept state holds (implies state holds stronger_holds)

/-- Nothing is to be shown of a program that is never reached. -/
theorem Verified.of_false {thread : Nat} {α : Type} (prog : Prog Op Answer α)
    (result : α → State → Prop) :
    Verified exec inv condition thread prog (fun _ => False) result := by
  induction prog with
  | done value => exact fun _ _ never => never.elim
  | perform op next hypothesis =>
    exact ⟨fun _ => False, fun _ _ never => never, fun _ _ _ _ _ _ _ _ never => never.elim,
      fun _ _ => False, fun _ _ _ _ _ never => never.elim, hypothesis⟩

/-- A fact that the state has no part in may be taken as given. -/
theorem Verified.assuming {thread : Nat} {α : Type} {prog : Prog Op Answer α} {fact : Prop}
    {known : State → Prop} {result : α → State → Prop}
    (verified : fact → Verified exec inv condition thread prog known result) :
    Verified exec inv condition thread prog (fun state => known state ∧ fact) result := by
  by_cases holds : fact
  · exact (verified holds).of_known fun _ _ both => both.1
  · exact (Verified.of_false prog result).of_known fun _ _ both => holds both.2

/-- Operations that keep the invariant by themselves make every program keep it. -/
theorem Verified.of_kept
    (kept : ∀ thread state op choice answer next, inv state → condition thread state op choice →
      exec thread state op choice = some (answer, next) → inv next)
    (thread : Nat) {α : Type} (prog : Prog Op Answer α) :
    Verified exec inv condition thread prog (fun _ => True) fun _ _ => True := by
  induction prog with
  | done value => exact fun _ _ _ => trivial
  | perform op next hypothesis =>
    refine ⟨fun _ => True, fun _ _ _ => trivial, fun _ _ _ _ _ _ _ _ _ _ _ => trivial,
      fun _ _ => True, ?_, hypothesis⟩
    intro state choice answer after holds _ meets performed
    exact ⟨kept thread state op choice answer after holds meets performed, trivial⟩

theorem Verified.gives {thread : Nat} {α : Type} {prog : Prog Op Answer α}
    {known : State → Prop} {result weaker : α → State → Prop}
    (verified : Verified exec inv condition thread prog known result)
    (implies : ∀ value state, inv state → result value state → weaker value state) :
    Verified exec inv condition thread prog known weaker := by
  induction prog generalizing known with
  | done value =>
    intro state holds known_here
    exact implies value state holds (verified state holds known_here)
  | perform op next hypothesis =>
    obtain ⟨kept, known_kept, stable, middle, performs, rest⟩ := verified
    exact ⟨kept, known_kept, stable, middle, performs, fun answer =>
      hypothesis answer (rest answer)⟩

theorem Verified.bind {thread : Nat} {α β : Type} {prog : Prog Op Answer α}
    {next : α → Prog Op Answer β} {known : State → Prop} {middle : α → State → Prop}
    {result : β → State → Prop}
    (first : Verified exec inv condition thread prog known middle)
    (second : ∀ value, Verified exec inv condition thread (next value) (middle value) result) :
    Verified exec inv condition thread (prog >>= next) known result := by
  show Verified exec inv condition thread (prog.bind next) known result
  induction prog generalizing known with
  | done value => exact (second value).of_known first
  | perform op rest hypothesis =>
    obtain ⟨kept, known_kept, stable, after, performs, verified⟩ := first
    exact ⟨kept, known_kept, stable, after, performs, fun answer => hypothesis answer (verified answer)⟩

theorem Verified.done {thread : Nat} {α : Type} {value : α} {known : State → Prop}
    {result : α → State → Prop} (gives : ∀ state, inv state → known state → result value state) :
    Verified exec inv condition thread (pure value) known result := gives

/-- One operation, from something stable. -/
theorem Verified.ask {thread : Nat} {op : Op} {known : State → Prop}
    {result : Answer op → State → Prop} (stable : Stable exec inv condition thread known)
    (performs : Performs exec inv condition thread known op result) :
    Verified exec inv condition thread (Prog.ask op) known result :=
  ⟨known, fun _ _ holds => holds, stable, result, performs, fun _ _ _ gives => gives⟩

/-- What an operation of one thread changes: the shared state, and its own rest. -/
theorem step_go {threads next : Threads State Op Answer α} {thread : Nat} {choice : Choice}
    (stepped : step exec program threads (.go thread choice) = some next) :
    (∃ op rest answer, threads.running thread = some (.perform op rest) ∧
      exec thread threads.shared op choice = some (answer, next.shared) ∧
      next.running = Function.update threads.running thread (some (rest answer))) ∨
    (∃ value, threads.running thread = some (.done value) ∧ next.shared = threads.shared ∧
      next.running = Function.update threads.running thread none) := by
  rw [step] at stepped
  cases running : threads.running thread with
  | none => simp [running] at stepped
  | some prog =>
    cases prog with
    | done value =>
      simp only [running, Option.some.injEq] at stepped
      right
      rw [← stepped]
      exact ⟨value, rfl, rfl, rfl⟩
    | perform op rest =>
      simp only [running, Option.map_eq_some_iff] at stepped
      obtain ⟨performed, executed, next_eq⟩ := stepped
      left
      refine ⟨op, rest, performed.1, rfl, ?_, ?_⟩
      · rw [executed, ← next_eq]
      · rw [← next_eq]

variable (idle : Nat → State → Prop)

variable (exec inv condition) in
/-- Where a thread stands in a program with a proof; at its end it is idle again. -/
def Ready (thread : Nat) (state : State) (prog : Prog Op Answer α) : Prop :=
  ∃ known : State → Prop, known state ∧ Stable exec inv condition thread known ∧
    Verified exec inv condition thread prog known fun _ => idle thread

variable (exec inv condition) in
/-- The invariant, and every thread idle or at a place of a program with a proof. -/
structure Proved (threads : Threads State Op Answer α) : Prop where
  shared_inv : inv threads.shared
  rests : ∀ thread, threads.running thread = none → idle thread threads.shared
  ready : ∀ thread prog, threads.running thread = some prog →
    Ready exec inv condition idle thread threads.shared prog

variable {idle}

theorem Verified.ready (idle_stable : ∀ thread, Stable exec inv condition thread (idle thread))
    {thread : Nat} {state : State} {prog : Prog Op Answer α} {known : State → Prop}
    (verified : Verified exec inv condition thread prog known fun _ => idle thread)
    (holds : inv state) (known_here : known state) :
    Ready exec inv condition idle thread state prog := by
  cases prog with
  | done value =>
    exact ⟨idle thread, verified state holds known_here, idle_stable thread, fun _ _ here => here⟩
  | perform op next =>
    obtain ⟨kept, known_kept, stable, rest⟩ := verified
    exact ⟨kept, known_kept state holds known_here, stable, kept, fun _ _ here => here, stable,
      rest⟩

theorem start_proved {shared : State} (holds : inv shared)
    (idle_start : ∀ thread, idle thread shared) :
    Proved exec inv condition idle (start shared : Threads State Op Answer α) := by
  refine ⟨holds, fun thread _ => idle_start thread, fun thread prog running => ?_⟩
  cases running

theorem call_proved (idle_stable : ∀ thread, Stable exec inv condition thread (idle thread))
    (verified : ∀ thread what, Verified exec inv condition thread (program what)
      (idle thread) fun _ => idle thread)
    {threads next : Threads State Op Answer α} {thread : Nat} {what : Call}
    (proved : Proved exec inv condition idle threads)
    (stepped : step exec program threads (.call thread what) = some next) :
    Proved exec inv condition idle next := by
  rw [step] at stepped
  cases was_idle : threads.running thread with
  | some prog => simp [was_idle] at stepped
  | none =>
    simp only [was_idle, Option.some.injEq] at stepped
    rw [← stepped]
    refine ⟨proved.shared_inv, fun other stopped => ?_, fun other prog running => ?_⟩
    · change Function.update threads.running thread _ other = none at stopped
      by_cases same : other = thread
      · rw [same, Function.update_self] at stopped
        cases stopped
      · rw [Function.update_of_ne same] at stopped
        exact proved.rests other stopped
    · change Function.update threads.running thread _ other = some prog at running
      by_cases same : other = thread
      · rw [same, Function.update_self] at running
        cases running
        rw [same]
        exact (verified thread what).ready idle_stable proved.shared_inv
          (proved.rests thread was_idle)
      · rw [Function.update_of_ne same] at running
        exact proved.ready other prog running

theorem perform_proved (idle_stable : ∀ thread, Stable exec inv condition thread (idle thread))
    {threads next : Threads State Op Answer α} {thread : Nat} {choice : Choice} {op : Op}
    {rest : Answer op → Prog Op Answer α} {answer : Answer op}
    (proved : Proved exec inv condition idle threads)
    (met : condition thread threads.shared op choice)
    (running : threads.running thread = some (.perform op rest))
    (executed : exec thread threads.shared op choice = some (answer, next.shared))
    (running_eq : next.running = Function.update threads.running thread (some (rest answer))) :
    Proved exec inv condition idle next := by
  obtain ⟨known, known_here, -, kept, known_kept, -, middle, performs, verified⟩ :=
    proved.ready thread _ running
  have kept_here := known_kept threads.shared proved.shared_inv known_here
  obtain ⟨inv_next, middle_next⟩ :=
    performs threads.shared choice answer next.shared proved.shared_inv kept_here met executed
  refine ⟨inv_next, fun other stopped => ?_, fun other prog other_running => ?_⟩
  · rw [running_eq] at stopped
    by_cases same : other = thread
    · rw [same, Function.update_self] at stopped
      cases stopped
    · rw [Function.update_of_ne same] at stopped
      exact idle_stable other thread (Ne.symm same) threads.shared op choice answer next.shared
        proved.shared_inv (proved.rests other stopped) met executed
  · rw [running_eq] at other_running
    by_cases same : other = thread
    · rw [same, Function.update_self] at other_running
      cases other_running
      rw [same]
      exact (verified answer).ready idle_stable inv_next middle_next
    · rw [Function.update_of_ne same] at other_running
      obtain ⟨others, others_here, stable, rest_verified⟩ := proved.ready other prog other_running
      refine ⟨others, ?_, stable, rest_verified⟩
      exact stable thread (Ne.symm same) threads.shared op choice answer next.shared
        proved.shared_inv others_here met executed

theorem return_proved {threads next : Threads State Op Answer α} {thread : Nat} {value : α}
    (proved : Proved exec inv condition idle threads)
    (running : threads.running thread = some (.done value))
    (shared_eq : next.shared = threads.shared)
    (running_eq : next.running = Function.update threads.running thread none) :
    Proved exec inv condition idle next := by
  refine ⟨by rw [shared_eq]; exact proved.shared_inv, fun other stopped => ?_,
    fun other prog other_running => ?_⟩
  · rw [shared_eq]
    by_cases same : other = thread
    · obtain ⟨known, known_here, -, verified⟩ := proved.ready thread _ running
      rw [same]
      exact verified threads.shared proved.shared_inv known_here
    · rw [running_eq, Function.update_of_ne same] at stopped
      exact proved.rests other stopped
  · rw [running_eq] at other_running
    rw [shared_eq]
    by_cases same : other = thread
    · rw [same, Function.update_self] at other_running
      cases other_running
    · rw [Function.update_of_ne same] at other_running
      exact proved.ready other prog other_running

/-- Programs that lead from idle to idle with a proof keep the invariant in every
interleaving whose operations meet the condition, and an idle thread stays what it is. -/
theorem throughout_idle (idle_stable : ∀ thread, Stable exec inv condition thread (idle thread))
    (verified : ∀ thread what, Verified exec inv condition thread (program what)
      (idle thread) fun _ => idle thread)
    {shared : State} (holds : inv shared) (idle_start : ∀ thread, idle thread shared)
    {events : List (Event Call Choice)}
    (along : Machine.Along (step exec program) (Meets condition) (start shared) events) :
    Machine.Throughout (step exec program) (fun threads => inv threads.shared ∧
      ∀ thread, threads.running thread = none → idle thread threads.shared) (start shared)
      events := by
  have kept : ∀ threads event next, Proved exec inv condition idle threads →
      Meets condition threads event → step exec program threads event = some next →
        Proved exec inv condition idle next := by
    intro threads event next proved meets stepped
    cases event with
    | call thread what => exact call_proved idle_stable verified proved stepped
    | go thread choice =>
      cases step_go stepped with
      | inl performed =>
        obtain ⟨op, rest, answer, running, executed, running_eq⟩ := performed
        exact perform_proved idle_stable proved (meets op rest running) running executed running_eq
      | inr returned =>
        obtain ⟨value, running, shared_eq, running_eq⟩ := returned
        exact return_proved proved running shared_eq running_eq
  have proved := Machine.throughout_of_kept kept (start_proved holds idle_start) along
  exact proved.mono fun threads proved => ⟨proved.shared_inv, proved.rests⟩

/-- Programs with proofs keep the invariant in every interleaving whose operations meet
the condition. -/
theorem throughout_inv
    (verified : ∀ thread what, Verified exec inv condition thread (program what)
      (fun _ => True) (fun _ _ => True))
    {shared : State} (holds : inv shared) {events : List (Event Call Choice)}
    (along : Machine.Along (step exec program) (Meets condition) (start shared) events) :
    Machine.Throughout (step exec program) (fun threads => inv threads.shared) (start shared)
      events := by
  have nothing : ∀ thread, Stable exec inv condition thread fun _ => True := stable_true
  have both := throughout_idle nothing verified holds (fun _ => trivial) along
  exact both.mono fun _ both => both.1

end Threads

end DbFree.Interleaving
