import Mathlib

/- Machines given by a partial step function: their runs, what holds throughout a run,
and the conditions its steps meet. -/
namespace DbFree.Machine

variable {State Action : Type*}

/-- The state after the actions in order; `none` when one of them is not enabled. -/
def run (step : State → Action → Option State) (start : State) (actions : List Action) :
    Option State :=
  actions.foldlM step start

/-- The condition holds wherever the run takes a step. -/
def Along (step : State → Action → Option State) (condition : State → Action → Prop) :
    State → List Action → Prop
  | _, [] => True
  | start, action :: rest =>
    ∀ next, step start action = some next →
      condition start action ∧ Along step condition next rest

theorem along_step {step : State → Action → Option State} {condition : State → Action → Prop}
    {start next : State} {action : Action} {rest : List Action}
    (stepped : step start action = some next) (met : condition start action)
    (along : Along step condition next rest) : Along step condition start (action :: rest) := by
  intro other stepped_other
  rw [stepped] at stepped_other
  cases stepped_other
  exact ⟨met, along⟩

instance decidableAlong (step : State → Action → Option State)
    (condition : State → Action → Prop) [∀ state action, Decidable (condition state action)] :
    (start : State) → (actions : List Action) → Decidable (Along step condition start actions)
  | _, [] => isTrue trivial
  | start, action :: rest =>
    match stepped : step start action with
    | none => isTrue fun next other => by rw [stepped] at other; cases other
    | some next =>
      have := decidableAlong step condition next rest
      decidable_of_iff (condition start action ∧ Along step condition next rest)
        ⟨fun both => along_step stepped both.1 both.2, fun along => along next stepped⟩

/-- The condition holds where the last step is taken. -/
theorem Along.last {step : State → Action → Option State} {condition : State → Action → Prop}
    {start reached next : State} {done : List Action} {action : Action}
    (along : Along step condition start (done ++ [action]))
    (reaches : done.foldlM step start = some reached) (stepped : step reached action = some next) :
    condition reached action := by
  induction done generalizing start with
  | nil =>
    cases reaches
    exact (along next stepped).1
  | cons first rest hypothesis =>
    rw [List.foldlM_cons] at reaches
    obtain ⟨middle, first_step, rest_steps⟩ := Option.bind_eq_some_iff.mp reaches
    exact hypothesis (along middle first_step).2 rest_steps

/-- A condition along a run, from its beginning and what follows it. -/
theorem along_append {step : State → Action → Option State} {condition : State → Action → Prop}
    {start reached : State} {first second : List Action}
    (reaches : run step start first = some reached) (begins : Along step condition start first)
    (later : Along step condition reached second) :
    Along step condition start (first ++ second) := by
  induction first generalizing start with
  | nil =>
    cases reaches
    exact later
  | cons action rest hypothesis =>
    intro next stepped
    rw [run, List.foldlM_cons, stepped] at reaches
    obtain ⟨met, along⟩ := begins next stepped
    exact ⟨met, hypothesis reaches along⟩

/-- The property holds in every state the run passes through, its first one included. -/
def Throughout (step : State → Action → Option State) (property : State → Prop) :
    State → List Action → Prop
  | start, [] => property start
  | start, action :: rest =>
    property start ∧ ∀ next, step start action = some next → Throughout step property next rest

variable {step : State → Action → Option State}

@[simp]
theorem run_nil (start : State) : run step start [] = some start := rfl

theorem run_cons (start : State) (action : Action) (rest : List Action) :
    run step start (action :: rest) = (step start action).bind fun next => run step next rest := by
  rw [run, List.foldlM_cons]
  rfl

theorem run_append (start : State) (first second : List Action) :
    run step start (first ++ second) =
      (run step start first).bind fun next => run step next second := by
  rw [run, List.foldlM_append]
  rfl

/-- What every step keeps holds at the end of a run. -/
theorem run_keeps {inv : State → Prop}
    (kept : ∀ state action next, inv state → step state action = some next → inv next)
    {start reached : State} {actions : List Action} (begins : inv start)
    (reaches : run step start actions = some reached) : inv reached := by
  induction actions generalizing start with
  | nil =>
    cases reaches
    exact begins
  | cons action rest hypothesis =>
    rw [run_cons] at reaches
    obtain ⟨next, stepped, reaches⟩ := Option.bind_eq_some_iff.mp reaches
    exact hypothesis (kept start action next begins stepped) reaches

theorem Throughout.start {property : State → Prop} {start : State} {actions : List Action}
    (holds : Throughout step property start actions) : property start := by
  cases actions with
  | nil => exact holds
  | cons => exact holds.1

/-- `Throughout` is about the states that the beginnings of the run reach. -/
theorem throughout_iff (property : State → Prop) (start : State) (actions : List Action) :
    Throughout step property start actions ↔
      ∀ done reached, done <+: actions → run step start done = some reached → property reached := by
  induction actions generalizing start with
  | nil =>
    constructor
    · intro holds done reached done_nil reaches
      rw [List.prefix_nil.mp done_nil, run_nil] at reaches
      cases reaches
      exact holds
    · intro holds
      exact holds [] start (List.prefix_refl []) rfl
  | cons action rest hypothesis =>
    constructor
    · intro holds done reached shorter reaches
      cases done with
      | nil =>
        rw [run_nil] at reaches
        cases reaches
        exact holds.1
      | cons first others =>
        have same := List.cons_prefix_cons.mp shorter
        rw [same.1, run_cons] at reaches
        obtain ⟨next, stepped, reaches⟩ := Option.bind_eq_some_iff.mp reaches
        exact (hypothesis next).mp (holds.2 next stepped) others reached same.2 reaches
    · intro holds
      refine ⟨holds [] start List.nil_prefix rfl, fun next stepped => ?_⟩
      apply (hypothesis next).mpr
      intro done reached shorter reaches
      apply holds (action :: done) reached (List.cons_prefix_cons.mpr ⟨rfl, shorter⟩)
      rw [run_cons, stepped]
      exact reaches

theorem Throughout.last {property : State → Prop} {start reached : State} {actions : List Action}
    (holds : Throughout step property start actions)
    (reaches : run step start actions = some reached) : property reached :=
  (throughout_iff property start actions).mp holds actions reached (List.prefix_refl actions)
    reaches

/-- A property that the steps of the run keep holds throughout it. -/
theorem throughout_of_kept {inv : State → Prop} {condition : State → Action → Prop}
    (kept : ∀ state action next, inv state → condition state action →
      step state action = some next → inv next)
    {start : State} {actions : List Action} (begins : inv start)
    (along : Along step condition start actions) : Throughout step inv start actions := by
  induction actions generalizing start with
  | nil => exact begins
  | cons action rest hypothesis =>
    refine ⟨begins, fun next stepped => ?_⟩
    obtain ⟨met, along⟩ := along next stepped
    exact hypothesis (kept start action next begins met stepped) along

theorem Throughout.mono {first second : State → Prop} (implies : ∀ state, first state → second state)
    {start : State} {actions : List Action} (holds : Throughout step first start actions) :
    Throughout step second start actions := by
  induction actions generalizing start with
  | nil => exact implies start holds
  | cons action rest hypothesis =>
    exact ⟨implies start holds.1, fun next stepped => hypothesis (holds.2 next stepped)⟩

/-- Where each step either keeps the invariant or, failing the condition, breaks the
property, the property holds throughout exactly the runs whose steps meet the condition. -/
theorem throughout_iff_along {inv property : State → Prop} {condition : State → Action → Prop}
    (enough : ∀ state, inv state → property state)
    (kept : ∀ state action next, inv state → condition state action →
      step state action = some next → inv next)
    (broken : ∀ state action next, inv state → ¬condition state action →
      step state action = some next → ¬property next)
    {start : State} (begins : inv start) (actions : List Action) :
    Throughout step property start actions ↔ Along step condition start actions := by
  constructor
  · intro holds
    induction actions generalizing start with
    | nil => trivial
    | cons action rest hypothesis =>
      intro next stepped
      have later := holds.2 next stepped
      have met : condition start action := by
        by_contra fails
        exact broken start action next begins fails stepped later.start
      exact ⟨met, hypothesis (kept start action next begins met stepped) later⟩
  · intro along
    exact (throughout_of_kept kept begins along).mono enough

end DbFree.Machine
