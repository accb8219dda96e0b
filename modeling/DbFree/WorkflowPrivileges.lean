import DbFree.SchedulerRuns
import DbFree.SecretProvenance
import DbFree.WorkflowProposal

/- What the assistant's proposal may decide: the ticks, connections, file paths, secrets, private
network calls and schedules of the workflow it becomes. -/
namespace DbFree.Workflows.Proposal

open Texts Schedule

section Armed

variable {Zone Signature : Type} (around : Surroundings Zone Signature)

/-- The schedule of a node, if it can fire. -/
def scheduled (node : WorkflowNode) : Option ScheduleConfig :=
  match node.config with
  | .schedule config => if problem around config = none then some config else none
  | _ => none

/-- The schedule that a saved workflow arms for the id of a node; the last of the id counts. -/
def armedIn (body : WorkflowBody) (node : Text) : Option ScheduleConfig :=
  if body.schedulesActive then
    body.nodes.reverse.findSome? fun n => if n.id = node then scheduled around n else none
  else none

theorem findSome_of_nodup {α : Type} (f : WorkflowNode → Option α) {nodes : List WorkflowNode}
    (distinct : (nodes.map WorkflowNode.id).Nodup) {node : WorkflowNode} (member : node ∈ nodes) :
    (nodes.findSome? fun n => if n.id = node.id then f n else none) = f node := by
  induction nodes with
  | nil => cases member
  | cons first rest hypothesis =>
    rw [List.map_cons, List.nodup_cons] at distinct
    rcases List.mem_cons.mp member with rfl | later
    · rw [List.findSome?_cons, if_pos rfl]
      cases found : f node with
      | some value => rfl
      | none =>
        rw [List.findSome?_eq_none_iff]
        intro other inside
        have apart : other.id ≠ node.id := by
          intro same
          exact distinct.1 (same ▸ List.mem_map_of_mem inside)
        rw [if_neg apart]
    · have apart : first.id ≠ node.id := by
        intro same
        exact distinct.1 (same ▸ List.mem_map_of_mem later)
      rw [List.findSome?_cons, if_neg apart]
      exact hypothesis distinct.2 later

theorem armedIn_iff {body : WorkflowBody} (distinct : (body.nodes.map WorkflowNode.id).Nodup)
    (node : Text) (config : ScheduleConfig) :
    armedIn around body node = some config ↔
      body.schedulesActive = true ∧
        ∃ n ∈ body.nodes, n.id = node ∧ scheduled around n = some config := by
  have backwards : (body.nodes.reverse.map WorkflowNode.id).Nodup := by
    rw [List.map_reverse]
    exact List.nodup_reverse.mpr distinct
  rw [armedIn]
  constructor
  · intro armed
    split at armed
    · rename_i active
      obtain ⟨n, member, here⟩ := List.exists_of_findSome?_eq_some armed
      split at here
      · rename_i same
        exact ⟨active, n, List.mem_reverse.mp member, same, here⟩
      · cases here
    · cases armed
  · rintro ⟨active, n, member, rfl, here⟩
    rw [if_pos active, findSome_of_nodup _ backwards (List.mem_reverse.mpr member), here]

end Armed

section Accepted

variable {Zone Signature : Type} {around : Surroundings Zone Signature} {readers : Readers}
  {remembered : Remembered} {before : Option WorkflowBody}

/-- What the model wrote for the nodes from an index on, with the ids they are given. -/
def asked (readers : Readers) : Nat → List Text → List Json → List (Text × NodeConfig)
  | _, _, [] => []
  | index, taken, raw :: rest =>
    match nodeId raw index taken with
    | .error _ => []
    | .ok id =>
      match readSettings readers raw id with
      | .error _ => []
      | .ok settings => (id, settings.config) :: asked readers (index + 1) (id :: taken) rest

/-- What the model wrote for the nodes of a proposal. -/
def proposed (readers : Readers) (args : Json) : List (Text × NodeConfig) :=
  asked readers 0 [] (((args.get "nodes").bind Json.asArray).getD [])

/-- A node made of what the model wrote for it. -/
structure Built (around : Surroundings Zone Signature) (readers : Readers)
    (remembered : Remembered) (before : Option WorkflowBody) (entry : Text × NodeConfig)
    (node : WorkflowNode) : Prop where
  id : node.id = entry.1
  config : node.config = sanitize entry.1 remembered before entry.2
  checked : ∃ extra, check around readers (named node.id) extra node.config = .ok ()

theorem parseNodes_built {index : Nat} {taken : List Text} {raws : List Json}
    {nodes : List WorkflowNode}
    (accepts : parseNodes around readers remembered before index taken raws = .ok nodes) :
    List.Forall₂ (Built around readers remembered before) (asked readers index taken raws)
      nodes := by
  induction raws generalizing index taken nodes with
  | nil =>
    cases accepts
    exact .nil
  | cons raw rest hypothesis =>
    rw [parseNodes] at accepts
    obtain ⟨id, is_id, accepts⟩ := bind_ok accepts
    obtain ⟨settings, read, accepts⟩ := bind_ok accepts
    obtain ⟨_, checked, accepts⟩ := bind_ok accepts
    obtain ⟨others, later, accepts⟩ := bind_ok accepts
    cases accepts
    rw [asked, is_id]
    simp only [read]
    exact .cons ⟨rfl, rfl, settings.extra, checked⟩ (hypothesis later)

/-- What an accepted proposal is made of. -/
structure Accepted (around : Surroundings Zone Signature) (readers : Readers)
    (remembered : Remembered) (before : Option WorkflowBody) (args : Json)
    (body : WorkflowBody) : Prop where
  built : List.Forall₂ (Built around readers remembered before) (proposed readers args) body.nodes
  distinct : (body.nodes.map WorkflowNode.id).Nodup
  graph : body.steps = []
  active : body.schedulesActive = (before.map WorkflowBody.schedulesActive).getD false

theorem build_accepted {args : Json} {draft : Draft}
    (accepts : build around readers args before remembered = .ok draft) :
    List.Forall₂ (Built around readers remembered before) (proposed readers args)
        draft.body.nodes ∧
      draft.body.steps = [] ∧
      draft.body.schedulesActive = (before.map WorkflowBody.schedulesActive).getD false := by
  obtain ⟨name, -, accepts⟩ := bind_ok accepts
  obtain ⟨raws, listed, accepts⟩ := bind_ok accepts
  obtain ⟨nodes, parsed, accepts⟩ := bind_ok accepts
  split at accepts
  · cases accepts
  · obtain ⟨edges, -, accepts⟩ := bind_ok accepts
    cases accepts
    refine ⟨?_, rfl, rfl⟩
    rw [proposed, list_ok listed]
    exact parseNodes_built parsed

theorem levelsOf_distinct {nodes : List WorkflowNode} {edges : List WorkflowEdge}
    {levels : List (List Text)} (leveled : levelsOf nodes edges = some (.ok levels)) :
    (nodes.map WorkflowNode.id).Nodup := by
  unfold levelsOf at leveled
  split at leveled
  · cases leveled
  · rename_i graph made
    have distinct := graph.distinct
    rw [(Graph.new_ok made).1] at distinct
    exact distinct

theorem parse_accepted {args : Json} {draft : Draft}
    (accepts : parse around readers args before remembered = some (.ok draft)) :
    Accepted around readers remembered before args draft.body := by
  unfold parse at accepts
  split at accepts
  · cases accepts
  · rename_i built_draft is_built
    obtain ⟨found, leveled, done⟩ := Option.map_eq_some_iff.mp accepts
    cases found with
    | error error => cases done
    | ok levels =>
      cases done
      obtain ⟨nodes, graph, active⟩ := build_accepted is_built
      exact ⟨nodes, levelsOf_distinct leveled, graph, active⟩

end Accepted

section Sanitized

variable {id : Text} {remembered : Remembered} {before : Option WorkflowBody} {asked : NodeConfig}

/-- The connection of its own that a node names. -/
def ownConnection : NodeConfig → Option Text
  | .query query => query.connectionId
  | .insert insert => insert.connectionId
  | _ => none

theorem ticked_iff {sql : Text} : ticked before id sql = true ↔
    ∃ node ∈ savedNodes before, node.id = id ∧ ∃ saved, node.config = .query saved ∧
      saved.allowDestructive = true ∧ trim saved.sql = trim sql := by
  rw [ticked, List.any_eq_true]
  constructor
  · rintro ⟨node, member, found⟩
    rw [Bool.and_eq_true, beq_iff_eq] at found
    obtain ⟨same, found⟩ := found
    split at found
    · rename_i saved config
      rw [Bool.and_eq_true, beq_iff_eq] at found
      exact ⟨node, member, same, saved, config, found⟩
    · cases found
  · rintro ⟨node, member, same, saved, config, allowed, statement⟩
    refine ⟨node, member, ?_⟩
    simp [config, same, allowed, statement]

theorem sanitize_query {query : QueryConfig}
    (config : sanitize id remembered before asked = .query query) :
    query.connectionId = none ∧ query.allowDestructive = ticked before id query.sql := by
  cases asked with
  | query proposal =>
    cases config
    exact ⟨rfl, rfl⟩
  | _ => cases config

theorem sanitize_connection : ownConnection (sanitize id remembered before asked) = none := by
  cases asked <;> rfl

theorem sanitize_saveFile {save : SaveFileConfig}
    (config : sanitize id remembered before asked = .saveFile save) : save.path = [] := by
  cases asked with
  | saveFile proposal =>
    cases config
    rfl
  | _ => cases config

theorem sanitize_secret {secret : NodeSecret}
    (has : secretOf (sanitize id remembered before asked) = some secret) :
    secret.plain = none ∧ secret.sealedValue = none := by
  cases asked with
  | email proposal =>
    cases has
    exact ⟨rfl, rfl⟩
  | slack proposal =>
    cases has
    exact ⟨rfl, rfl⟩
  | _ => cases has

theorem sanitize_http {http : HttpConfig} :
    sanitize id remembered before asked = .http http ↔ asked = .http http := by
  cases asked with
  | http proposal => exact Iff.rfl
  | _ =>
    constructor
    · intro config
      cases config
    · intro config
      cases config

theorem sanitize_schedule {schedule : ScheduleConfig} :
    sanitize id remembered before asked = .schedule schedule ↔ asked = .schedule schedule := by
  cases asked with
  | schedule proposal => exact Iff.rfl
  | _ =>
    constructor
    · intro config
      cases config
    · intro config
      cases config

end Sanitized

section Saved

variable {Zone Signature : Type} {around : Surroundings Zone Signature}

theorem scheduled_eq_some {node : WorkflowNode} {config : ScheduleConfig} :
    scheduled around node = some config ↔
      node.config = .schedule config ∧ problem around config = none := by
  rw [scheduled]
  split
  · rename_i schedule is_schedule
    rw [is_schedule]
    split
    · rename_i fine
      rw [Option.some_inj, NodeConfig.schedule.injEq]
      constructor
      · rintro rfl
        exact ⟨rfl, fine⟩
      · exact And.left
    · rename_i wrong
      constructor
      · intro none_there
        cases none_there
      · rintro ⟨same, fine⟩
        cases same
        exact absurd fine wrong
  · rename_i other
    constructor
    · intro none_there
      cases none_there
    · intro schedule
      exact absurd schedule.1 (other config)

theorem prepareNode_scheduled {sealOne : Text → Except AppError Text}
    {stored : List StoredWorkflow} {workflowId : Text} {previous : Option WorkflowBody}
    {node kept : WorkflowNode}
    (saves : prepareNode sealOne stored workflowId previous node = .ok kept) :
    kept.id = node.id ∧ scheduled around kept = scheduled around node := by
  rcases prepareNode_cases saves with ⟨-, rfl⟩ | ⟨secret, sealing, has, rfl, -⟩
  · exact ⟨rfl, rfl⟩
  · refine ⟨rfl, ?_⟩
    unfold scheduled
    cases config : node.config with
    | email email => rfl
    | slack slack => rfl
    | _ =>
      rw [config] at has
      cases has

theorem prepareNodes_scheduled {sealText : Nat → Text → Except AppError Text}
    {stored : List StoredWorkflow} {workflowId : Text} {previous : Option WorkflowBody}
    {nonce : Nat} {nodes kept : List WorkflowNode}
    (saves : prepareNodes sealText stored workflowId previous nonce nodes = .ok kept) :
    List.Forall₂ (fun new old : WorkflowNode =>
      new.id = old.id ∧ scheduled around new = scheduled around old) kept nodes := by
  refine (prepareNodes_each saves).flip.imp fun new old prepared => ?_
  obtain ⟨count, prepared⟩ := prepared
  exact prepareNode_scheduled prepared

theorem armedIn_congr {body other : WorkflowBody}
    (active : body.schedulesActive = other.schedulesActive)
    (nodes : List.Forall₂ (fun new old : WorkflowNode =>
      new.id = old.id ∧ scheduled around new = scheduled around old) body.nodes other.nodes)
    (node : Text) : armedIn around body node = armedIn around other node := by
  have each : ∀ {news olds : List WorkflowNode}, List.Forall₂ (fun new old : WorkflowNode =>
      new.id = old.id ∧ scheduled around new = scheduled around old) news olds →
      (news.findSome? fun n => if n.id = node then scheduled around n else none) =
        olds.findSome? fun n => if n.id = node then scheduled around n else none := by
    intro news olds same
    induction same with
    | nil => rfl
    | cons first _ hypothesis =>
      rw [List.findSome?_cons, List.findSome?_cons, first.1, first.2, hypothesis]
  rw [armedIn, armedIn, active, each (List.rel_reverse nodes)]

theorem prepareSave_armed {sealText : Nat → Text → Except AppError Text}
    {listing : Except AppError WorkflowStore} {workflowId : Text} {body saved : WorkflowBody}
    (graph : body.steps = [])
    (saves : prepareSave sealText listing workflowId body = .ok saved) (node : Text) :
    armedIn around saved node = armedIn around body node := by
  have active : body.upgraded.schedulesActive = body.schedulesActive := by
    rw [WorkflowBody.upgraded, if_pos (.inl graph)]
  have same : ∀ nodes : List WorkflowNode, List.Forall₂ (fun new old : WorkflowNode =>
      new.id = old.id ∧ scheduled around new = scheduled around old) nodes nodes :=
    fun nodes => List.forall₂_same.mpr fun _ _ => ⟨rfl, rfl⟩
  unfold prepareSave at saves
  simp only at saves
  split at saves
  · obtain ⟨store, -, saves⟩ := bind_ok saves
    obtain ⟨nodes, prepared, saves⟩ := bind_ok saves
    cases saves
    have kept := @prepareNodes_scheduled _ _ around _ _ _ _ _ _ _ prepared
    rw [upgraded_nodes_eq graph] at kept
    let stored : WorkflowBody := { body.upgraded with nodes := nodes }
    have same_nodes : List.Forall₂ (fun new old : WorkflowNode =>
        new.id = old.id ∧ scheduled around new = scheduled around old) stored.nodes body.nodes :=
      kept
    have same_active : stored.schedulesActive = body.schedulesActive := active
    exact armedIn_congr same_active same_nodes node
  · cases saves
    apply armedIn_congr active
    rw [upgraded_nodes_eq graph]
    exact same _

end Saved

section Choices

variable {Zone Signature : Type} {around : Surroundings Zone Signature} {readers : Readers}
  {remembered : Remembered} {before : Option WorkflowBody} {args : Json}

/-- The saved workflow lets the same node call private addresses with the same URL. -/
def HadNetwork (before : Option WorkflowBody) (id url : Text) : Prop :=
  ∃ saved ∈ savedNodes before, saved.id = id ∧ ∃ http, saved.config = .http http ∧
    http.allowPrivateNetwork = true ∧ http.url = url

/-- What is left to the user: `body` is the proposal accepted, `saved` is what is stored of it. -/
structure LeftToUser (around : Surroundings Zone Signature) (before : Option WorkflowBody)
    (body saved : WorkflowBody) : Prop where
  ticks : ∀ node ∈ body.nodes, ∀ query, node.config = .query query →
    query.allowDestructive = true → ∃ old ∈ savedNodes before, old.id = node.id ∧
      ∃ kept, old.config = .query kept ∧ kept.allowDestructive = true ∧
        trim kept.sql = trim query.sql
  connections : ∀ node ∈ body.nodes, ownConnection node.config = none
  paths : ∀ node ∈ body.nodes, ∀ save, node.config = .saveFile save → save.path = []
  secrets : ∀ node ∈ body.nodes, ∀ secret, secretOf node.config = some secret →
    secret.plain = none ∧ secret.sealedValue = none
  network : ∀ node ∈ body.nodes, ∀ http, node.config = .http http →
    http.allowPrivateNetwork = true → HadNetwork before node.id http.url
  schedules : ∀ node config, armedIn around saved node = some config →
    (before.bind fun old => armedIn around old node) = some config

/-- No node of the proposal asks for private addresses that the saved workflow did not have. -/
def AsksNoNetwork (readers : Readers) (args : Json) (before : Option WorkflowBody) : Prop :=
  ∀ entry ∈ proposed readers args, ∀ http, entry.2 = .http http →
    http.allowPrivateNetwork = true → HadNetwork before entry.1 http.url

/-- The saved workflow is paused, or every schedule of the proposal is armed already. -/
def AsksNoSchedule (around : Surroundings Zone Signature) (readers : Readers) (args : Json)
    (before : Option WorkflowBody) : Prop :=
  ∀ old, before = some old → old.schedulesActive = true →
    ∀ entry ∈ proposed readers args, ∀ config, entry.2 = .schedule config →
      armedIn around old entry.1 = some config

theorem Accepted.node {body : WorkflowBody}
    (accepted : Accepted around readers remembered before args body) {node : WorkflowNode}
    (member : node ∈ body.nodes) :
    ∃ entry ∈ proposed readers args, Built around readers remembered before entry node :=
  exists_left accepted.built member

theorem Accepted.entry {body : WorkflowBody}
    (accepted : Accepted around readers remembered before args body) {entry : Text × NodeConfig}
    (member : entry ∈ proposed readers args) :
    ∃ node ∈ body.nodes, Built around readers remembered before entry node :=
  exists_left accepted.built.flip member

theorem Accepted.network_iff {body : WorkflowBody}
    (accepted : Accepted around readers remembered before args body) :
    (∀ node ∈ body.nodes, ∀ http, node.config = .http http → http.allowPrivateNetwork = true →
      HadNetwork before node.id http.url) ↔ AsksNoNetwork readers args before := by
  constructor
  · intro keeps entry member http config allowed
    obtain ⟨node, inside, built⟩ := accepted.entry member
    rw [← built.id]
    exact keeps node inside http (built.config.trans (sanitize_http.mpr config)) allowed
  · intro asks node member http config allowed
    obtain ⟨entry, inside, built⟩ := accepted.node member
    rw [built.id]
    exact asks entry inside http (sanitize_http.mp (built.config.symm.trans config)) allowed

theorem Built.fires {entry : Text × NodeConfig} {node : WorkflowNode}
    (built : Built around readers remembered before entry node) {config : ScheduleConfig}
    (asks : entry.2 = .schedule config) : scheduled around node = some config := by
  have is_schedule := built.config.trans (sanitize_schedule.mpr asks)
  obtain ⟨extra, checked⟩ := built.checked
  rw [is_schedule, check] at checked
  split at checked
  · cases checked
  · rename_i fine
    exact scheduled_eq_some.mpr ⟨is_schedule, fine⟩

theorem Accepted.schedules_iff {body : WorkflowBody}
    (accepted : Accepted around readers remembered before args body) :
    (∀ node config, armedIn around body node = some config →
      (before.bind fun old => armedIn around old node) = some config) ↔
      AsksNoSchedule around readers args before := by
  constructor
  · intro keeps old is_before active entry member config asks
    obtain ⟨node, inside, built⟩ := accepted.entry member
    have on : body.schedulesActive = true := by
      rw [accepted.active, is_before]
      exact active
    have armed := keeps entry.1 config ((armedIn_iff around accepted.distinct entry.1 config).mpr
      ⟨on, node, inside, built.id, built.fires asks⟩)
    rw [is_before] at armed
    exact armed
  · intro asks node config armed
    obtain ⟨on, n, inside, rfl, fires⟩ :=
      (armedIn_iff around accepted.distinct node config).mp armed
    obtain ⟨entry, member, built⟩ := accepted.node inside
    have is_schedule := (scheduled_eq_some.mp fires).1
    rw [accepted.active] at on
    cases is_before : before with
    | none =>
      rw [is_before] at on
      cases on
    | some old =>
      rw [is_before] at on
      rw [built.id]
      exact asks old is_before on entry member config
        (sanitize_schedule.mp (built.config.symm.trans is_schedule))

/-- An accepted proposal leaves to the user what is the user's exactly if it asks for no private
address and no schedule that the saved workflow did not have. -/
theorem left_to_user_iff (around : Surroundings Zone Signature) (readers : Readers)
    (remembered : Remembered) (before : Option WorkflowBody) (args : Json) (draft : Draft)
    (accepts : parse around readers args before remembered = some (.ok draft))
    (sealText : Nat → Text → Except AppError Text) (listing : Except AppError WorkflowStore)
    (workflowId : Text) (saved : WorkflowBody)
    (saves : prepareSave sealText listing workflowId draft.body = .ok saved) :
    LeftToUser around before draft.body saved ↔
      AsksNoNetwork readers args before ∧ AsksNoSchedule around readers args before := by
  have accepted := parse_accepted accepts
  have armed := @prepareSave_armed _ _ around _ _ _ _ _ accepted.graph saves
  constructor
  · intro left
    refine ⟨accepted.network_iff.mp left.network, accepted.schedules_iff.mp ?_⟩
    intro node config here
    exact left.schedules node config ((armed node).trans here)
  · rintro ⟨network, schedules⟩
    refine ⟨?_, ?_, ?_, ?_, accepted.network_iff.mpr network, ?_⟩
    · intro node member query config allowed
      obtain ⟨entry, -, built⟩ := accepted.node member
      obtain ⟨-, tick⟩ := sanitize_query (built.config.symm.trans config)
      rw [allowed] at tick
      rw [built.id]
      exact ticked_iff.mp tick.symm
    · intro node member
      obtain ⟨entry, -, built⟩ := accepted.node member
      rw [built.config]
      exact sanitize_connection
    · intro node member save config
      obtain ⟨entry, -, built⟩ := accepted.node member
      exact sanitize_saveFile (built.config.symm.trans config)
    · intro node member secret has
      obtain ⟨entry, -, built⟩ := accepted.node member
      rw [built.config] at has
      exact sanitize_secret has
    · intro node config here
      exact accepted.schedules_iff.mpr schedules node config ((armed node).symm.trans here)

end Choices

section Examples

/-- A reader of the settings of HTTP nodes, with the letters of ASCII. -/
def httpReaders : Readers where
  toLowercase := toAsciiLowercase
  settings tagged :=
    match (tagged.get "kind").bind Json.asStr with
    | some kind =>
      if kind = "http".toList then
        .ok ⟨.http ⟨.get, ((tagged.get "url").bind Json.asStr).getD [], [], [], [],
          ((tagged.get "allowPrivateNetwork").bind Json.asBool).getD false⟩, .none⟩
      else .error "unknown variant".toList
    | none => .error "missing field kind".toList
  fromStr _ := none
  patternError _ _ := none

/-- A workflow of one HTTP node that reads the metadata of the machine. -/
def metadataCall (allowed : Bool) : Json :=
  .object [("name".toList, .string "w".toList),
    ("nodes".toList, .array [.object [("id".toList, .string "a".toList),
      ("config".toList, .object [("kind".toList, .string "http".toList),
        ("url".toList, .string "http://169.254.169.254/".toList),
        ("allowPrivateNetwork".toList, .bool allowed)])]])]

def metadataDraft (allowed : Bool) : Draft :=
  ⟨"w".toList, [], [⟨"a".toList, [], false,
    .http ⟨.get, "http://169.254.169.254/".toList, [], [], [], allowed⟩⟩], [], false⟩

theorem metadataCall_parsed (allowed : Bool) :
    parse utc httpReaders (metadataCall allowed) none ⟨none, none⟩ =
      some (.ok (metadataDraft allowed)) := by
  cases allowed <;> decide +kernel

theorem uncalled_left_to_user :
    LeftToUser utc none (metadataDraft false).body (metadataDraft false).body := by
  have asks : proposed httpReaders (metadataCall false) =
      [("a".toList, .http ⟨.get, "http://169.254.169.254/".toList, [], [], [], false⟩)] := by
    decide +kernel
  apply (left_to_user_iff utc httpReaders ⟨none, none⟩ none (metadataCall false)
    (metadataDraft false) (metadataCall_parsed false) (fun _ plain => .ok plain)
    (.error (.internal [])) "w".toList _ rfl).mpr
  constructor
  · intro entry member http config allowed
    rw [asks, List.mem_singleton] at member
    rw [member] at config
    cases config
    cases allowed
  · intro old is_before
    cases is_before

/-- The assistant lets a new node call the metadata service of the machine. -/
theorem metadata_not_left_to_user :
    ¬∀ (remembered : Remembered) (before : Option WorkflowBody) (args : Json) (draft : Draft)
      (sealText : Nat → Text → Except AppError Text) (listing : Except AppError WorkflowStore)
      (workflowId : Text) (saved : WorkflowBody),
      parse utc httpReaders args before remembered = some (.ok draft) →
      prepareSave sealText listing workflowId draft.body = .ok saved →
      LeftToUser utc before draft.body saved := by
  intro left
  have kept := left ⟨none, none⟩ none (metadataCall true) (metadataDraft true)
    (fun _ plain => .ok plain) (.error (.internal [])) "w".toList (metadataDraft true).body
    (metadataCall_parsed true) rfl
  obtain ⟨old, member, -⟩ := kept.network _ (List.mem_singleton_self _) _ rfl rfl
  cases member

end Examples

end DbFree.Workflows.Proposal
