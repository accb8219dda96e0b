import DbFree.WorkflowSecrets

/- Where the secrets of a saved workflow come from, and what of them can be seen. -/
namespace DbFree.Workflows

section Configs

variable {config : NodeConfig}

theorem secretOf_mapSecret (change : NodeSecret → NodeSecret) :
    secretOf (mapSecret change config) = (secretOf config).map change := by
  cases config <;> rfl

theorem notifierOf_mapSecret (change : NodeSecret → NodeSecret) :
    notifierOf (mapSecret change config) = notifierOf config := by
  cases config <;> rfl

theorem mapSecret_mapSecret (first second : NodeSecret → NodeSecret) :
    mapSecret second (mapSecret first config) = mapSecret (fun secret => second (first secret))
      config := by
  cases config <;> rfl

theorem notifierOf_isSome : (notifierOf config).isSome = (secretOf config).isSome := by
  cases config <;> rfl

theorem mapSecret_none (change : NodeSecret → NodeSecret) (none_there : secretOf config = none) :
    mapSecret change config = config := by
  cases config with
  | email settings => cases none_there
  | slack settings => cases none_there
  | _ => rfl

theorem sealedOf_eq_some {blob : Text} :
    sealedOf config = some blob ↔
      ∃ secret, secretOf config = some secret ∧ secret.sealedValue = some blob ∧ blob ≠ [] := by
  rw [sealedOf, Option.filter_eq_some_iff, Option.bind_eq_some_iff]
  constructor
  · rintro ⟨⟨secret, found, held⟩, filled⟩
    refine ⟨secret, found, held, fun empty => ?_⟩
    rw [empty] at filled
    cases filled
  · rintro ⟨secret, found, held, filled⟩
    refine ⟨⟨secret, found, held⟩, ?_⟩
    rw [Bool.not_eq_true', List.isEmpty_eq_false_iff]
    exact filled

theorem present_sealed {secret : NodeSecret} (found : secretOf config = some secret) :
    present secret.sealedValue = (sealedOf config).isSome := by
  rw [sealedOf, found, Option.bind_some]
  cases secret.sealedValue with
  | none => rfl
  | some text =>
    rw [present, Option.any_some, Option.filter_some]
    cases text <;> rfl

end Configs

section Upgrading

variable {body : WorkflowBody}

/-- The nodes of a body with every secret changed. -/
def WorkflowBody.mapSecrets (change : NodeSecret → NodeSecret) (body : WorkflowBody) :
    WorkflowBody :=
  { body with
    nodes := body.nodes.map fun node => { node with config := mapSecret change node.config } }

theorem upgraded_steps (body : WorkflowBody) : body.upgraded.steps = [] := by
  unfold WorkflowBody.upgraded
  split <;> rfl

theorem upgraded_nodes_eq (plain : body.steps = []) : body.upgraded.nodes = body.nodes := by
  rw [WorkflowBody.upgraded, if_pos (.inl plain)]

theorem upgraded_mapSecrets (change : NodeSecret → NodeSecret) (body : WorkflowBody) :
    (body.mapSecrets change).upgraded = body.upgraded.mapSecrets change := by
  unfold WorkflowBody.upgraded
  by_cases graph : body.steps = [] ∨ body.nodes ≠ []
  · have still : (body.mapSecrets change).steps = [] ∨ (body.mapSecrets change).nodes ≠ [] :=
      graph.imp id fun some_node none => some_node (List.map_eq_nil_iff.mp none)
    rw [if_pos graph, if_pos still]
    rfl
  · have still : ¬((body.mapSecrets change).steps = [] ∨ (body.mapSecrets change).nodes ≠ []) :=
      fun now => graph (now.imp id fun some_node none =>
        some_node (List.map_eq_nil_iff.mpr none))
    rw [if_neg graph, if_neg still]
    have kept : ((body.steps.mapIdx stepNode).map fun node =>
        ({ node with config := mapSecret change node.config } : WorkflowNode)) =
        body.steps.mapIdx stepNode := by
      refine (List.map_congr_left fun node member => ?_).trans (List.map_id _)
      obtain ⟨i, bound, rfl⟩ := List.mem_mapIdx.mp member
      rfl
    unfold WorkflowBody.mapSecrets
    simp only [kept]

theorem redact_eq (body : WorkflowBody) :
    redact body = body.upgraded.mapSecrets NodeSecret.hide := rfl

end Upgrading

section Pairs

theorem exists_left {First Second : Type} {relation : First → Second → Prop}
    {firsts : List First} {seconds : List Second} (all : List.Forall₂ relation firsts seconds)
    {second : Second} (member : second ∈ seconds) : ∃ first ∈ firsts, relation first second := by
  induction all with
  | nil => cases member
  | @cons first other _ _ related _ hypothesis =>
    rcases List.mem_cons.mp member with rfl | later
    · exact ⟨first, List.mem_cons_self, related⟩
    · obtain ⟨found, inside, here⟩ := hypothesis later
      exact ⟨found, List.mem_cons_of_mem _ inside, here⟩

end Pairs

section Provenance

variable {sealText : Nat → Text → Except AppError Text} {store : WorkflowStore}
  {stored : List StoredWorkflow} {workflowId : Text} {previous : Option WorkflowBody}

/-- A sealed secret of a node of a kind, in a list of documents. -/
def Stored (docs : List StoredWorkflow) (kind : Option NotifierKind) (blob : Text) : Prop :=
  ∃ doc ∈ docs, ∃ body, doc.body = some body ∧ ∃ node ∈ body.upgraded.nodes,
    notifierOf node.config = kind ∧ sealedOf node.config = some blob

theorem mem_nodesOf {node : WorkflowNode} :
    node ∈ nodesOf stored ↔
      ∃ doc ∈ stored, ∃ body, doc.body = some body ∧ node ∈ body.upgraded.nodes := by
  rw [nodesOf, List.mem_flatMap]
  constructor
  · rintro ⟨graph, listed, member⟩
    obtain ⟨doc, there, made⟩ := List.mem_filterMap.mp listed
    obtain ⟨body, held, rfl⟩ := Option.map_eq_some_iff.mp made
    exact ⟨doc, there, body, held, member⟩
  · rintro ⟨doc, there, body, held, member⟩
    refine ⟨body.upgraded, List.mem_filterMap.mpr ⟨doc, there, ?_⟩, member⟩
    rw [graphOf, held]
    rfl

theorem elsewhere_stored {id : Text} {kind : Option NotifierKind} {blob : Text}
    (found : elsewhere stored workflowId id kind = some blob) : Stored stored kind blob := by
  obtain ⟨node, first, held⟩ := Option.bind_eq_some_iff.mp found
  obtain ⟨doc, there, body, has, member⟩ := mem_nodesOf.mp (List.mem_of_find?_eq_some first)
  have fits := List.find?_some first
  exact ⟨doc, List.mem_of_mem_filter there, body, has, node, member, (of_decide_eq_true fits).2.1,
    held⟩

theorem mostRecent_stored {kind : Option NotifierKind} {blob : Text}
    (found : mostRecent stored kind = some blob) : Stored stored kind blob := by
  obtain ⟨node, first, held⟩ := Option.bind_eq_some_iff.mp found
  obtain ⟨doc, there, body, has, member⟩ := mem_nodesOf.mp (List.mem_of_find?_eq_some first)
  have fits := List.find?_some first
  exact ⟨doc, there, body, has, node, member, (of_decide_eq_true fits).1, held⟩

/-- The secret that a node has in what was stored of its workflow. -/
def ownSecret (previous : Option WorkflowBody) (node : WorkflowNode) : Option Text :=
  (previous.bind fun p => sameNode p.nodes node.id (notifierOf node.config)).bind fun n =>
    sealedOf n.config

theorem ownSecret_stored {doc : StoredWorkflow} (there : doc ∈ stored) {node : WorkflowNode}
    {blob : Text} (found : ownSecret (graphOf doc) node = some blob) :
    Stored stored (notifierOf node.config) blob := by
  obtain ⟨other, same, held⟩ := Option.bind_eq_some_iff.mp found
  obtain ⟨graph, made, first⟩ := Option.bind_eq_some_iff.mp same
  obtain ⟨body, has, rfl⟩ := Option.map_eq_some_iff.mp made
  have fits := List.find?_some first
  exact ⟨doc, there, body, has, other, List.mem_of_find?_eq_some first,
    (of_decide_eq_true fits).2, held⟩

/-- The three ways to a secret that is not typed. -/
theorem keptSecret_ways {own : Option Text} {id : Text} {kind : Option NotifierKind}
    {secret : NodeSecret} {blob : Text}
    (kept : keptSecret stored workflowId own id kind secret = some blob) :
    secret.clear = false ∧ (own = some blob ∨ elsewhere stored workflowId id kind = some blob ∨
      secret.inheritLast = true ∧ mostRecent stored kind = some blob) := by
  unfold keptSecret at kept
  split at kept
  · cases kept
  · rename_i no_clear
    refine ⟨Bool.eq_false_iff.mpr no_clear, ?_⟩
    cases own with
    | some own => exact .inl kept
    | none =>
      refine .inr ?_
      simp only at kept
      split at kept
      · split at kept
        · rename_i other found
          cases kept
          exact .inl found
        · split at kept
          · rename_i inherits
            exact .inr ⟨inherits, kept⟩
          · cases kept
      · cases kept

/-- A secret that is kept or taken over is a stored one, and was not to be cleared. -/
theorem keptSecret_from {own : Option Text} {id : Text} {kind : Option NotifierKind}
    {secret : NodeSecret} {blob : Text}
    (kept : keptSecret stored workflowId own id kind secret = some blob) :
    secret.clear = false ∧ (own = some blob ∨ Stored stored kind blob) := by
  obtain ⟨no_clear, is_own | found | ⟨-, found⟩⟩ := keptSecret_ways kept
  · exact ⟨no_clear, .inl is_own⟩
  · exact ⟨no_clear, .inr (elsewhere_stored found)⟩
  · exact ⟨no_clear, .inr (mostRecent_stored found)⟩

theorem prepareNode_cases {node kept : WorkflowNode} {sealOne : Text → Except AppError Text}
    (saved : prepareNode sealOne stored workflowId previous node = .ok kept) :
    (secretOf node.config = none ∧ kept = node) ∨
    ∃ secret sealing, secretOf node.config = some secret ∧
      kept = { node with config := mapSecret (fun _ => savedSecret sealing) node.config } ∧
      ((∃ plain blob, typed secret = some plain ∧ sealOne plain = .ok blob ∧
          sealing = some blob) ∨
        (typed secret = none ∧ sealing = keptSecret stored workflowId (ownSecret previous node)
          node.id (notifierOf node.config) secret)) := by
  unfold prepareNode at saved
  cases found : secretOf node.config with
  | none =>
    rw [found] at saved
    cases saved
    exact .inl ⟨rfl, rfl⟩
  | some secret =>
    simp only [found] at saved
    cases value : typed secret with
    | some plain =>
      simp only [value] at saved
      cases made : sealOne plain with
      | error problem =>
        rw [made] at saved
        cases saved
      | ok blob =>
        rw [made] at saved
        cases saved
        exact .inr ⟨secret, some blob, rfl, rfl, .inl ⟨plain, blob, value, made, rfl⟩⟩
    | none =>
      simp only [value] at saved
      cases saved
      exact .inr ⟨secret, _, rfl, rfl, .inr ⟨value, rfl⟩⟩

/-- Where the secret of a saved node comes from: it is the sealing of a value typed for this
node, or a secret stored for a node of its kind; and none is left of one to be cleared. -/
structure Sourced (sealText : Nat → Text → Except AppError Text) (docs : List StoredWorkflow)
    (node kept : WorkflowNode) : Prop where
  same : kept.id = node.id ∧ notifierOf kept.config = notifierOf node.config
  provenance : ∀ secret blob, secretOf kept.config = some secret →
    secret.sealedValue = some blob →
      (∃ before plain nonce, secretOf node.config = some before ∧ before.plain = some plain ∧
        plain ≠ [] ∧ sealText nonce plain = .ok blob) ∨
      Stored docs (notifierOf kept.config) blob
  cleared : ∀ before secret, secretOf node.config = some before → before.clear = true →
    typed before = none → secretOf kept.config = some secret → secret.sealedValue = none

theorem typed_eq_some {secret : NodeSecret} {plain : Text} (value : typed secret = some plain) :
    secret.plain = some plain ∧ plain ≠ [] := by
  obtain ⟨held, filled⟩ := Option.filter_eq_some_iff.mp value
  rw [Bool.not_eq_true', List.isEmpty_eq_false_iff] at filled
  exact ⟨held, filled⟩

theorem prepareNode_sourced {node kept : WorkflowNode} {nonce : Nat}
    (own : ∀ blob, ownSecret previous node = some blob →
      Stored stored (notifierOf node.config) blob)
    (saved : prepareNode (sealText nonce) stored workflowId previous node = .ok kept) :
    Sourced sealText stored node kept := by
  rcases prepareNode_cases saved with ⟨none_there, rfl⟩ | ⟨before, sealing, found, rfl, source⟩
  · refine ⟨⟨rfl, rfl⟩, fun secret blob held => ?_, fun before secret held => ?_⟩
    · rw [none_there] at held
      cases held
    · rw [none_there] at held
      cases held
  · have kind : notifierOf (mapSecret (fun _ => savedSecret sealing) node.config) =
        notifierOf node.config := notifierOf_mapSecret _
    have only : ∀ secret, secretOf (mapSecret (fun _ => savedSecret sealing) node.config) =
        some secret → secret = savedSecret sealing := by
      intro secret held
      rw [secretOf_mapSecret, found] at held
      exact (Option.some.inj held).symm
    refine ⟨⟨rfl, kind⟩, fun secret blob held value => ?_,
      fun other secret same clear untyped held => ?_⟩
    · rw [only secret held] at value
      rw [kind]
      rcases source with ⟨plain, made, entered, sealing_of, rfl⟩ | ⟨-, rfl⟩
      · cases value
        obtain ⟨held_plain, filled⟩ := typed_eq_some entered
        exact .inl ⟨before, plain, nonce, found, held_plain, filled, sealing_of⟩
      · exact .inr ((keptSecret_from value).2.elim (own blob) id)
    · rw [only secret held]
      rw [found] at same
      cases same
      rcases source with ⟨plain, made, entered, -, -⟩ | ⟨-, rfl⟩
      · rw [untyped] at entered
        cases entered
      · show keptSecret stored workflowId (ownSecret previous node) node.id
          (notifierOf node.config) before = none
        unfold keptSecret
        exact if_pos clear

/-- Each node of a save is prepared on its own, with a nonce of its own. -/
theorem prepareNodes_each {nodes saved : List WorkflowNode} {nonce : Nat}
    (done : prepareNodes sealText stored workflowId previous nonce nodes = .ok saved) :
    List.Forall₂ (fun node kept => ∃ count,
      prepareNode (sealText count) stored workflowId previous node = .ok kept) nodes saved := by
  induction nodes generalizing nonce saved with
  | nil =>
    cases done
    exact .nil
  | cons node rest hypothesis =>
    rw [prepareNodes] at done
    obtain ⟨kept, first, done⟩ := bind_ok done
    obtain ⟨others, later, done⟩ := bind_ok done
    cases done
    exact .cons ⟨nonce, first⟩ (hypothesis later)

theorem prepareNodes_sourced {nodes saved : List WorkflowNode} {nonce : Nat}
    (own : ∀ node blob, ownSecret previous node = some blob →
      Stored stored (notifierOf node.config) blob)
    (done : prepareNodes sealText stored workflowId previous nonce nodes = .ok saved) :
    List.Forall₂ (Sourced sealText stored) nodes saved := by
  refine (prepareNodes_each done).imp fun node kept prepared => ?_
  obtain ⟨count, prepared⟩ := prepared
  exact prepareNode_sourced (own node) prepared

theorem mem_allWorkflows {doc : StoredWorkflow} :
    doc ∈ store.allWorkflows ↔ doc ∈ store.docs :=
  (List.perm_insertionSort _ store.docs).mem_iff

theorem prepareSave_sourced {listing : Except AppError WorkflowStore} {body saved : WorkflowBody}
    (done : prepareSave sealText listing workflowId body = .ok saved) :
    (saved = body.upgraded ∧ ∀ node ∈ saved.nodes, secretOf node.config = none) ∨
      ∃ store, listing = .ok store ∧
        List.Forall₂ (Sourced sealText store.docs) body.upgraded.nodes saved.nodes := by
  unfold prepareSave at done
  dsimp only at done
  split at done
  · cases listing with
    | error problem => cases done
    | ok store =>
      refine .inr ⟨store, rfl, ?_⟩
      simp only [bind, Except.bind] at done
      split at done
      · cases done
      · rename_i nodes prepared
        cases done
        have sourced := prepareNodes_sourced (fun node blob own => ?_) prepared
        · refine sourced.imp fun node kept source => ⟨source.same, fun secret blob held value => ?_,
            source.cleared⟩
          refine (source.provenance secret blob held value).imp_right ?_
          rintro ⟨doc, there, body, has, found⟩
          exact ⟨doc, mem_allWorkflows.mp there, body, has, found⟩
        · cases first : store.allWorkflows.find? fun d => d.id = workflowId ∧ workflowId ≠ [] with
          | none =>
            rw [first] at own
            cases own
          | some doc =>
            rw [first] at own
            exact ownSecret_stored (List.mem_of_find?_eq_some first) own
  · rename_i no_secret
    cases done
    refine .inl ⟨rfl, fun node member => ?_⟩
    by_contra some_secret
    exact no_secret (List.any_eq_true.mpr ⟨node, member, Option.isSome_iff_ne_none.mpr some_secret⟩)

end Provenance

section Blindness

variable {sealText : Nat → Text → Except AppError Text} {stored : List StoredWorkflow}
  {workflowId : Text} {previous : Option WorkflowBody}

/-- A secret without what the client says is its sealed value. -/
def NodeSecret.unsealed (secret : NodeSecret) : NodeSecret := { secret with sealedValue := none }

/-- A secret with which of its values there are, and not what they are. -/
def NodeSecret.outline (secret : NodeSecret) : NodeSecret :=
  { secret with
    sealedValue := if present secret.sealedValue then some "*".toList else none
    plain := if present secret.plain then some "*".toList else none }

theorem mapSecrets_mapSecrets (first second : NodeSecret → NodeSecret) (body : WorkflowBody) :
    (body.mapSecrets first).mapSecrets second =
      body.mapSecrets fun secret => second (first secret) := by
  unfold WorkflowBody.mapSecrets
  simp only [List.map_map, Function.comp_def, mapSecret_mapSecret]

theorem hide_outline (secret : NodeSecret) : secret.outline.hide = secret.hide := by
  unfold NodeSecret.hide NodeSecret.outline
  cases there : present secret.sealedValue <;> rfl

theorem redact_outline (body : WorkflowBody) :
    redact (body.mapSecrets NodeSecret.outline) = redact body := by
  rw [redact_eq, redact_eq, upgraded_mapSecrets, mapSecrets_mapSecrets]
  simp only [hide_outline]

theorem prepareNode_unsealed (sealOne : Text → Except AppError Text) (node : WorkflowNode) :
    prepareNode sealOne stored workflowId previous
        { node with config := mapSecret NodeSecret.unsealed node.config } =
      prepareNode sealOne stored workflowId previous node := by
  unfold prepareNode
  simp only [notifierOf_mapSecret, secretOf_mapSecret, mapSecret_mapSecret]
  cases found : secretOf node.config with
  | none =>
    rw [mapSecret_none _ found]
    rfl
  | some secret => rfl

theorem prepareNodes_unsealed (nonce : Nat) (nodes : List WorkflowNode) :
    prepareNodes sealText stored workflowId previous nonce (nodes.map fun node =>
        ({ node with config := mapSecret NodeSecret.unsealed node.config } : WorkflowNode)) =
      prepareNodes sealText stored workflowId previous nonce nodes := by
  induction nodes generalizing nonce with
  | nil => rfl
  | cons node rest hypothesis =>
    rw [List.map_cons, prepareNodes, prepareNodes, prepareNode_unsealed, hypothesis]

theorem prepareSave_unsealed (listing : Except AppError WorkflowStore) (body : WorkflowBody) :
    prepareSave sealText listing workflowId (body.mapSecrets NodeSecret.unsealed) =
      prepareSave sealText listing workflowId body := by
  unfold prepareSave
  rw [upgraded_mapSecrets]
  have holders : (body.upgraded.mapSecrets NodeSecret.unsealed).nodes.any (fun n =>
      (secretOf n.config).isSome) = body.upgraded.nodes.any fun n =>
      (secretOf n.config).isSome := by
    unfold WorkflowBody.mapSecrets
    rw [List.any_map]
    refine List.any_congr rfl fun n => ?_
    simp only [Function.comp_apply, secretOf_mapSecret, Option.isSome_map]
  simp only [holders]
  by_cases some_secret : (body.upgraded.nodes.any fun n => (secretOf n.config).isSome) = true
  · rw [if_pos some_secret, if_pos some_secret]
    unfold WorkflowBody.mapSecrets
    simp only [prepareNodes_unsealed]
  · rw [if_neg some_secret, if_neg some_secret]
    have kept : (body.upgraded.nodes.map fun node =>
        ({ node with config := mapSecret NodeSecret.unsealed node.config } : WorkflowNode)) =
        body.upgraded.nodes := by
      refine (List.map_congr_left fun node member => ?_).trans (List.map_id _)
      have none_there : secretOf node.config = none := by
        by_contra held
        exact some_secret (List.any_eq_true.mpr ⟨node, member, Option.isSome_iff_ne_none.mpr held⟩)
      rw [mapSecret_none _ none_there]
      rfl
    unfold WorkflowBody.mapSecrets
    rw [kept]

end Blindness

section Echo

variable {sealText : Nat → Text → Except AppError Text} {store : WorkflowStore}
  {stored : List StoredWorkflow} {doc : StoredWorkflow} {body : WorkflowBody}

/-- The secrets of the nodes of a body, in their order. -/
def WorkflowBody.secrets (body : WorkflowBody) : List (Option Text) :=
  body.nodes.map fun node => sealedOf node.config

/-- What a node is given back when it comes as the editor saw it. -/
def echoed (stored : List StoredWorkflow) (workflowId : Text) (previous : Option WorkflowBody)
    (node : WorkflowNode) : Option Text :=
  (secretOf node.config).bind fun secret =>
    keptSecret stored workflowId (ownSecret previous node) node.id (notifierOf node.config)
      secret.hide

theorem keptSecret_filled {workflowId : Text} {own : Option Text} {id : Text}
    {kind : Option NotifierKind} {secret : NodeSecret}
    (filled : ∀ blob, own = some blob → blob ≠ []) {blob : Text}
    (kept : keptSecret stored workflowId own id kind secret = some blob) : blob ≠ [] := by
  rcases (keptSecret_from kept).2 with found | ⟨other, -, graph, -, node, -, -, found⟩
  · exact filled blob found
  · obtain ⟨-, -, -, full⟩ := sealedOf_eq_some.mp found
    exact full

theorem ownSecret_filled {previous : Option WorkflowBody} {node : WorkflowNode} {blob : Text}
    (found : ownSecret previous node = some blob) : blob ≠ [] := by
  obtain ⟨other, -, held⟩ := Option.bind_eq_some_iff.mp found
  obtain ⟨-, -, -, full⟩ := sealedOf_eq_some.mp held
  exact full

/-- A node as the editor saw it is saved without an error. -/
theorem prepareNode_echo (sealOne : Text → Except AppError Text) (workflowId : Text)
    (previous : Option WorkflowBody) (node : WorkflowNode) :
    ∃ kept, prepareNode sealOne stored workflowId previous (redactNode node) = .ok kept ∧
      sealedOf kept.config = echoed stored workflowId previous node := by
  have own : ownSecret previous (redactNode node) = ownSecret previous node := by
    unfold ownSecret
    rw [show notifierOf (redactNode node).config = notifierOf node.config from
      notifierOf_mapSecret _]
    rfl
  cases found : secretOf node.config with
  | none =>
    have same : redactNode node = node := by
      rw [redactNode, mapSecret_none _ found]
    refine ⟨node, ?_, ?_⟩
    · rw [same]
      simp only [prepareNode, found]
    · rw [sealedOf, echoed, found]
      rfl
  | some secret =>
    have hidden : secretOf (redactNode node).config = some secret.hide := by
      rw [redactNode, secretOf_mapSecret, found]
      rfl
    have untyped : typed secret.hide = none := rfl
    refine ⟨{ redactNode node with
      config := mapSecret (fun _ => savedSecret (keptSecret stored workflowId
        (ownSecret previous (redactNode node)) node.id (notifierOf (redactNode node).config)
        secret.hide)) (redactNode node).config }, ?_, ?_⟩
    · simp only [prepareNode, hidden, untyped]
      rfl
    rw [sealedOf, secretOf_mapSecret, hidden, echoed, found]
    show (keptSecret stored workflowId (ownSecret previous (redactNode node)) node.id
      (notifierOf (redactNode node).config) secret.hide).filter _ = keptSecret _ _ _ _ _ _
    rw [own, show notifierOf (redactNode node).config = notifierOf node.config from
      notifierOf_mapSecret _]
    cases kept : keptSecret stored workflowId (ownSecret previous node) node.id
      (notifierOf node.config) secret.hide with
    | none => rfl
    | some blob =>
      have filled := keptSecret_filled (fun other => ownSecret_filled) kept
      refine Option.filter_eq_some_iff.mpr ⟨rfl, ?_⟩
      rw [Bool.not_eq_true', List.isEmpty_eq_false_iff]
      exact filled

theorem prepareNodes_echo (workflowId : Text) (previous : Option WorkflowBody) (nonce : Nat)
    (nodes : List WorkflowNode) :
    ∃ kept, prepareNodes sealText stored workflowId previous nonce (nodes.map redactNode) =
        .ok kept ∧ kept.map (fun node => sealedOf node.config) =
        nodes.map (echoed stored workflowId previous) := by
  induction nodes generalizing nonce with
  | nil => exact ⟨[], rfl, rfl⟩
  | cons node rest hypothesis =>
    obtain ⟨kept, first, same⟩ :=
      @prepareNode_echo stored (sealText nonce) workflowId previous node
    obtain ⟨others, later, same_rest⟩ := hypothesis (nonce + 1)
    refine ⟨kept :: others, ?_, ?_⟩
    · rw [List.map_cons, prepareNodes, first]
      simp only [bind, Except.bind, later]
    · rw [List.map_cons, List.map_cons, same, same_rest]

theorem find_document (there : doc ∈ store.docs) :
    (store.allWorkflows.find? fun d => d.id = doc.id ∧ doc.id ≠ []) = some doc := by
  have listed : doc ∈ store.allWorkflows := mem_allWorkflows.mpr there
  cases found : store.allWorkflows.find? fun d => d.id = doc.id ∧ doc.id ≠ [] with
  | none =>
    have fits := List.find?_eq_none.mp found doc listed
    exact absurd (decide_eq_true ⟨rfl, doc.named⟩) fits
  | some other =>
    have fits := List.find?_some found
    have same := (of_decide_eq_true fits).1
    have other_in := mem_allWorkflows.mp (List.mem_of_find?_eq_some found)
    exact congrArg some (List.inj_on_of_nodup_map store.distinct other_in there same)

/-- Saving what the editor saw of a document gives each node what `echoed` says. -/
theorem prepareSave_echo (there : doc ∈ store.docs) (has : doc.body = some body) :
    ∃ saved, prepareSave sealText (.ok store) doc.id (redact body) = .ok saved ∧
      saved.secrets = body.upgraded.nodes.map
        (echoed store.allWorkflows doc.id (some body.upgraded)) := by
  have nodes : (redact body).upgraded.nodes = body.upgraded.nodes.map redactNode :=
    upgraded_nodes_eq (upgraded_steps body)
  have graph : graphOf doc = some body.upgraded := by
    rw [graphOf, has]
    rfl
  unfold prepareSave
  dsimp only
  rw [nodes]
  by_cases some_secret : ((body.upgraded.nodes.map redactNode).any fun n =>
      (secretOf n.config).isSome) = true
  · obtain ⟨kept, done, same⟩ := @prepareNodes_echo sealText store.allWorkflows doc.id
      (some body.upgraded) 0 body.upgraded.nodes
    rw [if_pos some_secret]
    simp only [bind, Except.bind, find_document there, Option.bind, graph, done]
    exact ⟨_, rfl, same⟩
  · rw [if_neg some_secret]
    refine ⟨_, rfl, ?_⟩
    rw [WorkflowBody.secrets, nodes, List.map_map]
    refine List.map_congr_left fun node member => ?_
    have none_there : secretOf node.config = none := by
      by_contra held
      refine some_secret (List.any_eq_true.mpr ⟨redactNode node, List.mem_map_of_mem member, ?_⟩)
      rw [redactNode, secretOf_mapSecret, Option.isSome_map]
      exact Option.isSome_iff_ne_none.mpr held
    rw [Function.comp_apply, sealedOf, redactNode, secretOf_mapSecret, none_there, echoed,
      none_there]
    rfl

/-- The first node of a stored graph with the id and the kind of one has the same secret as it,
or has none where the same secret is found under that id in another workflow. -/
def FirstHolds (stored : List StoredWorkflow) (workflowId : Text) (nodes : List WorkflowNode) :
    Prop :=
  ∀ node ∈ nodes, notifierOf node.config ≠ none → ∀ first,
    sameNode nodes node.id (notifierOf node.config) = some first →
      sealedOf first.config = sealedOf node.config ∨ (sealedOf first.config = none ∧
        elsewhere stored workflowId node.id (notifierOf node.config) = sealedOf node.config)

theorem echoed_iff {workflowId : Text} {node : WorkflowNode} (member : node ∈ body.nodes) :
    echoed stored workflowId (some body) node = sealedOf node.config ↔
      (notifierOf node.config ≠ none → ∀ first,
        sameNode body.nodes node.id (notifierOf node.config) = some first →
          sealedOf first.config = sealedOf node.config ∨ (sealedOf first.config = none ∧
            elsewhere stored workflowId node.id (notifierOf node.config) =
              sealedOf node.config)) := by
  cases found : secretOf node.config with
  | none =>
    have no_kind : notifierOf node.config = none := by
      rw [← Option.not_isSome_iff_eq_none, notifierOf_isSome, found]
      exact Bool.false_ne_true
    refine iff_of_true ?_ fun kind => absurd no_kind kind
    rw [echoed, sealedOf, found]
    rfl
  | some secret =>
    have kind : notifierOf node.config ≠ none := by
      rw [← Option.isSome_iff_ne_none, notifierOf_isSome, found]
      rfl
    obtain ⟨first, is_first⟩ : ∃ first,
        sameNode body.nodes node.id (notifierOf node.config) = some first := by
      cases none_found : sameNode body.nodes node.id (notifierOf node.config) with
      | some first => exact ⟨first, rfl⟩
      | none =>
        have fits := List.find?_eq_none.mp none_found node member
        exact absurd (decide_eq_true ⟨rfl, rfl⟩) fits
    have held : secret.hide.hasSecret = (sealedOf node.config).isSome := present_sealed found
    have result : echoed stored workflowId (some body) node =
        (sealedOf first.config).or
          (if (sealedOf node.config).isSome = true then
            elsewhere stored workflowId node.id (notifierOf node.config)
          else none) := by
      rw [echoed, found, Option.bind_some, ← held]
      unfold keptSecret ownSecret
      rw [Option.bind_some, is_first, Option.bind_some]
      cases sealedOf first.config with
      | some own => rfl
      | none =>
        cases elsewhere stored workflowId node.id (notifierOf node.config) <;>
          cases secret.hide.hasSecret <;> rfl
    rw [result]
    constructor
    · intro same _ other is_other
      rw [is_first] at is_other
      cases is_other
      cases own : sealedOf first.config with
      | some blob =>
        rw [own] at same
        exact .inl same
      | none =>
        rw [own] at same
        by_cases some_blob : (sealedOf node.config).isSome = true
        · exact .inr ⟨rfl, by rwa [if_pos some_blob] at same⟩
        · exact .inl (Option.not_isSome_iff_eq_none.mp some_blob).symm
    · intro either
      rcases either kind first is_first with same | ⟨none_own, same⟩
      · rw [same]
        cases sealedOf node.config <;> rfl
      · rw [none_own, same]
        cases sealedOf node.config <;> rfl

/-- The provenance of secrets. Whatever is stored and whatever a client sends, a saved secret is
the sealing of a value typed for the node or a stored one of its kind, one to be cleared is gone,
no sealed value of the client counts, and the editor learns only which values there are. What the
editor saw saves back the stored secrets exactly if nodes that share an id and a kind share the
secret that is found for the first of them. -/
theorem secrets_have_provenance (sealText : Nat → Text → Except AppError Text)
    (listing : Except AppError WorkflowStore) (workflowId : Text) :
    (∀ body saved, prepareSave sealText listing workflowId body = .ok saved →
      (saved = body.upgraded ∧ ∀ node ∈ saved.nodes, secretOf node.config = none) ∨
        ∃ store, listing = .ok store ∧
          List.Forall₂ (Sourced sealText store.docs) body.upgraded.nodes saved.nodes) ∧
    (∀ body body', body.mapSecrets NodeSecret.unsealed = body'.mapSecrets NodeSecret.unsealed →
      prepareSave sealText listing workflowId body =
        prepareSave sealText listing workflowId body') ∧
    (∀ body body', body.mapSecrets NodeSecret.outline = body'.mapSecrets NodeSecret.outline →
      redact body = redact body') ∧
    ∀ store, listing = .ok store → ∀ doc ∈ store.docs, ∀ body, doc.body = some body →
      ((∃ saved, prepareSave sealText listing doc.id (redact body) = .ok saved ∧
          saved.secrets = body.upgraded.secrets) ↔
        FirstHolds store.allWorkflows doc.id body.upgraded.nodes) := by
  refine ⟨fun body saved done => prepareSave_sourced done, fun body body' same => ?_,
    fun body body' same => ?_, ?_⟩
  · rw [← prepareSave_unsealed listing body, same, prepareSave_unsealed]
  · rw [← redact_outline body, same, redact_outline]
  · rintro store rfl doc there body has
    obtain ⟨saved, done, same⟩ := @prepareSave_echo sealText _ _ _ there has
    have each : (∃ saved, prepareSave sealText (.ok store) doc.id (redact body) = .ok saved ∧
        saved.secrets = body.upgraded.secrets) ↔ ∀ node ∈ body.upgraded.nodes,
        echoed store.allWorkflows doc.id (some body.upgraded) node = sealedOf node.config := by
      rw [← List.map_inj_left]
      constructor
      · rintro ⟨other, done_too, equal⟩
        rw [done] at done_too
        cases done_too
        exact same.symm.trans equal
      · exact fun equal => ⟨saved, done, same.trans equal⟩
    rw [each]
    exact forall₂_congr fun node member => echoed_iff member

/-- Two Email nodes that share an id, each with a password of its own. -/
def twins : WorkflowBody where
  steps := []
  nodes := ["A".toList, "B".toList].map fun blob =>
    ⟨"n".toList, [], false, .email ⟨"smtp.example.com".toList, 587, .auto, [],
      ⟨some blob, true, none, false, false⟩, "a@x.io".toList, "b@x.io".toList, [], []⟩⟩
  edges := []
  schedulesActive := false

def twinStore : WorkflowStore where
  docs := [⟨"w".toList, List.cons_ne_nil 'w' [], [], some twins⟩]
  distinct := List.nodup_singleton _

/-- What the editor saw of them saves back the first password for both. -/
theorem twins_saved_alike :
    twinStore.docs.map StoredWorkflow.body = [some twins] ∧
    twins.upgraded.secrets = [some "A".toList, some "B".toList] ∧
    ((prepareSave (fun _ plain => .ok plain) (.ok twinStore) "w".toList
      (redact twins)).toOption.map WorkflowBody.secrets) =
        some [some "A".toList, some "A".toList] := by
  decide +kernel

end Echo

end DbFree.Workflows
