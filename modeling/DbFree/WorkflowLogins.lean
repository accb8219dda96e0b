import DbFree.WorkflowPrivileges

/- Which stored login an Email node of the assistant ends up with: its own, one of the same id in
another workflow, or the last one saved (services/workflows/secrets.rs,
services/agent/documents/workflow.rs). -/
namespace DbFree.Workflows

open Texts

section LastConfig

/-- The setup of a node that a new node starts from, if it is one. -/
def rememberedConfig (kind : NotifierKind) (node : WorkflowNode) : Option NodeConfig :=
  match node.config, kind with
  | .email email, .email =>
    if blank email.host = false ∨ (sealedOf node.config).isSome = true then
      let held := email.password.sealedValue.isSome
      some (.email { email with
        recipients := []
        subject := []
        body := []
        password := ⟨none, held, none, false, held⟩ })
    else none
  | .slack _, .slack =>
    if (sealedOf node.config).isSome = true then some (.slack ⟨⟨none, true, none, false, true⟩, []⟩)
    else none
  | _, _ => none

/-- The most recently saved Email or Slack setup. -/
def lastNodeConfig (listing : Except AppError WorkflowStore) (kind : NotifierKind) :
    Except AppError (Option NodeConfig) :=
  listing.map fun store => (nodesOf store.allWorkflows).findSome? (rememberedConfig kind)

/-- What the assistant starts new nodes from; nothing when the documents cannot be read. -/
def Proposal.Remembered.load (listing : Except AppError WorkflowStore) : Proposal.Remembered where
  email :=
    match lastNodeConfig listing .email with
    | .ok (some (.email email)) => some email
    | _ => none
  slack :=
    match lastNodeConfig listing .slack with
    | .ok (some (.slack slack)) => some slack
    | _ => none

theorem rememberedConfig_email {node : WorkflowNode} {config : NodeConfig}
    (found : rememberedConfig .email node = some config) :
    ∃ email base, node.config = .email email ∧ config = .email base ∧ base.host = email.host ∧
      base.password.hasSecret = email.password.sealedValue.isSome := by
  unfold rememberedConfig at found
  split at found
  · rename_i settings is_email _
    split at found
    · cases found
      exact ⟨settings, _, is_email, rfl, rfl, rfl⟩
    · cases found
  · rename_i slack
    cases slack
  · cases found

theorem rememberedConfig_none {node : WorkflowNode}
    (skipped : rememberedConfig .email node = none) :
    ¬(notifierOf node.config = some .email ∧ (sealedOf node.config).isSome = true) := by
  rintro ⟨is_email, held⟩
  unfold rememberedConfig at skipped
  cases config : node.config with
  | email email =>
    rw [config] at held
    simp only [config, held, or_true, if_true] at skipped
    cases skipped
  | _ =>
    rw [config] at is_email
    cases is_email

/-- The node that a setup was remembered from. -/
theorem load_email {store : WorkflowStore} {base : EmailConfig}
    (remembers : (Proposal.Remembered.load (.ok store)).email = some base) :
    ∃ front node back email, nodesOf store.allWorkflows = front ++ node :: back ∧
      (∀ other ∈ front, rememberedConfig .email other = none) ∧ node.config = .email email ∧
      base.host = email.host ∧
      base.password.hasSecret = email.password.sealedValue.isSome := by
  unfold Proposal.Remembered.load lastNodeConfig at remembers
  simp only [Except.map] at remembers
  cases first : (nodesOf store.allWorkflows).findSome? (rememberedConfig .email) with
  | none =>
    rw [first] at remembers
    cases remembers
  | some config =>
    rw [first] at remembers
    obtain ⟨front, node, back, listed, found, skipped⟩ := List.findSome?_eq_some_iff.mp first
    obtain ⟨email, last, is_email, rfl, host, password⟩ := rememberedConfig_email found
    cases remembers
    exact ⟨front, node, back, email, listed, skipped, is_email, host, password⟩

end LastConfig

section Ways

variable {stored : List StoredWorkflow} {workflowId id blob : Text}

/-- A document has an Email node of an id with a login. -/
def HoldsLogin (doc : StoredWorkflow) (id blob : Text) : Prop :=
  ∃ body, doc.body = some body ∧ ∃ node ∈ body.upgraded.nodes, node.id = id ∧
    notifierOf node.config = some .email ∧ sealedOf node.config = some blob

theorem elsewhere_holds (found : elsewhere stored workflowId id (some .email) = some blob) :
    ∃ doc ∈ stored, doc.id ≠ workflowId ∧ HoldsLogin doc id blob := by
  obtain ⟨node, first, held⟩ := Option.bind_eq_some_iff.mp found
  obtain ⟨doc, there, body, has, member⟩ := mem_nodesOf.mp (List.mem_of_find?_eq_some first)
  have fits := List.find?_some first
  obtain ⟨same, is_email, -⟩ := of_decide_eq_true fits
  obtain ⟨inside, other⟩ := List.mem_filter.mp there
  exact ⟨doc, inside, of_decide_eq_true other, body, has, node, member, same, is_email, held⟩

theorem ownSecret_holds {node : WorkflowNode} (is_email : notifierOf node.config = some .email)
    (found : ownSecret ((stored.find? fun d => d.id = workflowId ∧ workflowId ≠ []).bind graphOf)
      node = some blob) :
    ∃ doc ∈ stored, doc.id = workflowId ∧ HoldsLogin doc node.id blob := by
  obtain ⟨other, same, held⟩ := Option.bind_eq_some_iff.mp found
  obtain ⟨graph, made, first⟩ := Option.bind_eq_some_iff.mp same
  obtain ⟨doc, is_doc, made⟩ := Option.bind_eq_some_iff.mp made
  obtain ⟨body, has, rfl⟩ := Option.map_eq_some_iff.mp made
  have fits := List.find?_some first
  obtain ⟨same_id, same_kind⟩ := of_decide_eq_true fits
  have named := List.find?_some is_doc
  exact ⟨doc, List.mem_of_find?_eq_some is_doc, (of_decide_eq_true named).1, body, has, other,
    List.mem_of_find?_eq_some first, same_id, same_kind.trans is_email, held⟩

/-- No stored secret is an empty text: none is ever sealed to one. -/
def WorkflowStore.NoEmptySecret (store : WorkflowStore) : Prop :=
  ∀ node ∈ nodesOf store.allWorkflows, ∀ secret, secretOf node.config = some secret →
    secret.sealedValue ≠ some []

/-- A saved node with a secret was prepared from the documents that are stored. -/
theorem prepareSave_prepares {sealText : Nat → Text → Except AppError Text}
    {listing : Except AppError WorkflowStore} {body saved : WorkflowBody}
    (saves : prepareSave sealText listing workflowId body = .ok saved) {node : WorkflowNode}
    (member : node ∈ saved.nodes) {secret : NodeSecret}
    (has : secretOf node.config = some secret) :
    ∃ store, listing = .ok store ∧ ∃ first ∈ body.upgraded.nodes, ∃ count,
      prepareNode (sealText count) store.allWorkflows workflowId
        ((store.allWorkflows.find? fun d => d.id = workflowId ∧ workflowId ≠ []).bind graphOf)
        first = .ok node := by
  unfold prepareSave at saves
  dsimp only at saves
  split at saves
  · obtain ⟨store, listed, saves⟩ := bind_ok saves
    obtain ⟨nodes, prepared, saves⟩ := bind_ok saves
    cases saves
    obtain ⟨first, inside, here⟩ := exists_left (prepareNodes_each prepared) member
    exact ⟨store, listed, first, inside, here⟩
  · rename_i no_secret
    cases saves
    have some_secret : (secretOf node.config).isSome = true := by rw [has, Option.isSome_some]
    exact absurd (List.any_eq_true.mpr ⟨node, member, some_secret⟩) no_secret

/-- The last login is that of the setup that new nodes start from. -/
theorem mostRecent_load {store : WorkflowStore} (filled : store.NoEmptySecret) {base : EmailConfig}
    (remembers : (Proposal.Remembered.load (.ok store)).email = some base)
    (held : base.password.hasSecret = true)
    (found : mostRecent store.allWorkflows (some .email) = some blob) :
    ∃ node ∈ nodesOf store.allWorkflows, ∃ email, node.config = .email email ∧
      sealedOf node.config = some blob ∧ base.host = email.host := by
  obtain ⟨front, node, back, email, listed, skipped, is_email, host, password⟩ :=
    load_email remembers
  have member : node ∈ nodesOf store.allWorkflows := by
    rw [listed]
    exact List.mem_append_right _ List.mem_cons_self
  have is_kind : notifierOf node.config = some .email := by rw [is_email, notifierOf]
  have has : secretOf node.config = some email.password := by rw [is_email, secretOf]
  rw [password] at held
  obtain ⟨value, is_value⟩ := Option.isSome_iff_exists.mp held
  have not_empty : value ≠ [] := by
    intro empty
    exact filled node member email.password has (is_value.trans (congrArg some empty))
  have has_login : sealedOf node.config = some value :=
    sealedOf_eq_some.mpr ⟨email.password, has, is_value, not_empty⟩
  -- No node before it has a login, so the search for the last login stops at it too.
  have stops : mostRecent store.allWorkflows (some .email) = some value := by
    let holds (n : WorkflowNode) : Bool :=
      decide (notifierOf n.config = some .email ∧ (sealedOf n.config).isSome = true)
    have before : front.find? holds = none := by
      rw [List.find?_eq_none]
      intro other inside
      rw [decide_eq_true_eq]
      exact rememberedConfig_none (skipped other inside)
    have here : holds node = true := by
      rw [decide_eq_true_eq, has_login]
      exact ⟨is_kind, rfl⟩
    have first : (front ++ node :: back).find? holds = some node := by
      rw [List.find?_append, before, Option.none_or, List.find?_cons_of_pos here]
    rw [mostRecent, listed]
    exact Option.bind_eq_some_iff.mpr ⟨node, first, has_login⟩
  rw [stops] at found
  cases found
  exact ⟨node, member, email, is_email, has_login, host⟩

end Ways

end DbFree.Workflows

namespace DbFree.Workflows.Proposal

open Texts Schedule

section Servers

/-- Two hosts are one, their case and the blanks around them aside. -/
def SameHost (first second : Text) : Prop :=
  toAsciiLowercase (trim first) = toAsciiLowercase (trim second)

theorem startEmail_inherits {email : EmailConfig} {known : Option EmailConfig}
    (inherits : (startEmail email known).2 = true) :
    ∃ base, known = some base ∧ base.password.hasSecret = true ∧
      SameHost (startEmail email known).1.host base.host := by
  cases known with
  | none => cases inherits
  | some base =>
    obtain ⟨same_server, has⟩ := Bool.and_eq_true_iff.mp inherits
    refine ⟨base, rfl, has, ?_⟩
    have placed : (startEmail email (some base)).1.host =
        if blank email.host then base.host else email.host := by
      unfold startEmail
      dsimp only
      split <;> split <;> split <;> rfl
    rw [placed]
    split
    · rfl
    · rename_i given
      rcases Bool.or_eq_true_iff.mp same_server with empty | same
      · exact absurd empty given
      · exact beq_iff_eq.mp same

variable {id : Text} {remembered : Remembered} {before : Option WorkflowBody} {asked : NodeConfig}

theorem sanitize_email {email : EmailConfig}
    (config : sanitize id remembered before asked = .email email) :
    ∃ proposal : EmailConfig, email.host = (startEmail proposal remembered.email).1.host ∧
      email.password =
        inheritedSecret before id .email (startEmail proposal remembered.email).2 := by
  cases asked with
  | email proposal =>
    cases config
    exact ⟨proposal, rfl, rfl⟩
  | _ => cases config

end Servers

section Logins

variable {Zone Signature : Type} (around : Surroundings Zone Signature)
  (readers : Readers)

/-- The login comes from a stored node that is on the same server. -/
def FromServer (store : WorkflowStore) (host blob : Text) : Prop :=
  ∃ node ∈ nodesOf store.allWorkflows, ∃ email, node.config = .email email ∧
    sealedOf node.config = some blob ∧ SameHost host email.host

/-- The login is the last one saved, and was remembered with the same server. -/
def Remembers (remembered : Remembered) (store : WorkflowStore) (host blob : Text) : Prop :=
  mostRecent store.allWorkflows (some .email) = some blob ∧
    ∃ base, remembered.email = some base ∧ base.password.hasSecret = true ∧
      SameHost host base.host

/-- What a login that was remembered in the documents as they are belongs to. -/
theorem Remembers.fromServer {store : WorkflowStore} (filled : store.NoEmptySecret)
    {host blob : Text} (remembers : Remembers (.load (.ok store)) store host blob) :
    FromServer store host blob := by
  obtain ⟨found, base, is_base, held, same⟩ := remembers
  obtain ⟨node, member, email, config, has_login, base_host⟩ :=
    mostRecent_load filled is_base held found
  rw [base_host] at same
  exact ⟨node, member, email, config, has_login, same⟩

/-- An Email node of the assistant that ends up with a login has its own login, or that of an
Email node of its id in another workflow, or the last one saved; which it takes over only on the
server that was remembered with it. -/
theorem login_ways {args : Json} {before : Option WorkflowBody} {remembered : Remembered}
    {draft : Draft} (accepts : parse around readers args before remembered = some (.ok draft))
    {sealText : Nat → Text → Except AppError Text} {store : WorkflowStore} {workflowId : Text}
    {saved : WorkflowBody}
    (saves : prepareSave sealText (.ok store) workflowId draft.body = .ok saved)
    {node : WorkflowNode} (member : node ∈ saved.nodes) {email : EmailConfig}
    (config : node.config = .email email) {blob : Text}
    (has_login : sealedOf node.config = some blob) :
    (∃ doc ∈ store.docs, doc.id = workflowId ∧ HoldsLogin doc node.id blob) ∨
      (∃ doc ∈ store.docs, doc.id ≠ workflowId ∧ HoldsLogin doc node.id blob) ∨
      Remembers remembered store email.host blob := by
  have accepted := parse_accepted accepts
  have has : secretOf node.config = some email.password := by rw [config, secretOf]
  obtain ⟨_, listed, first, inside, count, prepared⟩ := prepareSave_prepares saves member has
  cases listed
  rw [upgraded_nodes_eq accepted.graph] at inside
  obtain ⟨entry, -, built⟩ := accepted.node inside
  rcases prepareNode_cases prepared with ⟨none_there, rfl⟩ | ⟨secret, sealing, held, rfl, source⟩
  · rw [none_there] at has
    cases has
  · -- The proposal's node is an Email node too, on the same host.
    cases asks : first.config with
    | email proposal =>
      rw [asks] at config held has_login
      cases config
      cases held
      have is_kind : notifierOf first.config = some .email := by rw [asks, notifierOf]
      obtain ⟨written, host, password⟩ := sanitize_email (built.config.symm.trans asks)
      have untyped : typed proposal.password = none := by
        rw [password]
        rfl
      have is_sealing : sealing = some blob := by
        obtain ⟨_, found, value, -⟩ := sealedOf_eq_some.mp has_login
        cases found
        exact value
      rcases source with ⟨plain, made, entered, -⟩ | ⟨-, kept⟩
      · rw [untyped] at entered
        cases entered
      · rw [is_sealing, is_kind] at kept
        obtain ⟨-, own | found | ⟨inherits, found⟩⟩ := keptSecret_ways kept.symm
        · obtain ⟨doc, there, holds⟩ := ownSecret_holds is_kind own
          exact .inl ⟨doc, mem_allWorkflows.mp there, holds⟩
        · obtain ⟨doc, there, holds⟩ := elsewhere_holds found
          exact .inr (.inl ⟨doc, mem_allWorkflows.mp there, holds⟩)
        · rw [password] at inherits
          obtain ⟨base, is_base, has_base, same⟩ := startEmail_inherits inherits
          rw [← host] at same
          exact .inr (.inr ⟨found, base, is_base, has_base, same⟩)
    | _ =>
      rw [asks] at config
      cases config

end Logins

section Examples

/-- A reader of the settings of Email nodes, with the letters of ASCII. -/
def emailReaders : Readers where
  toLowercase := toAsciiLowercase
  settings tagged :=
    let field (key : String) : Text := ((tagged.get key).bind Json.asStr).getD []
    if field "kind" = "email".toList then
      .ok ⟨.email ⟨field "host", 587, .auto, [], noSecret, [], field "to", [], []⟩, .none⟩
    else .error "unknown variant".toList
  fromStr _ := none
  patternError _ _ := none

/-- A proposal of one Email node that names a host. -/
def mailProposal (id host : Text) : Json :=
  .object [("name".toList, .string "w".toList),
    ("nodes".toList, .array [.object [("id".toList, .string id),
      ("config".toList, .object [("kind".toList, .string "email".toList),
        ("host".toList, .string host), ("to".toList, .string "me".toList)])]])]

def mailBody (id host : Text) (password : NodeSecret) : WorkflowBody where
  steps := []
  nodes := [⟨id, [], false, .email ⟨host, 587, .auto, [], password, [], "me".toList, [], []⟩⟩]
  edges := []
  schedulesActive := false

def mailLogin : NodeSecret := savedSecret (some "c2VhbGVk".toList)

/-- What is saved: an Email node with a login. -/
def oldMail : WorkflowBody := mailBody "mail".toList "smtp.example.com".toList mailLogin

theorem workflowId_ne_nil : "w".toList ≠ [] := List.cons_ne_nil 'w' []

def mailStore : WorkflowStore where
  docs := [⟨"w".toList, workflowId_ne_nil, [], some oldMail⟩]
  distinct := List.nodup_singleton _

/-- A node without a host in a new workflow. -/
def blankDraft : Draft :=
  ⟨"w".toList, mailBody "n".toList "smtp.example.com".toList ⟨none, true, none, false, true⟩⟩

theorem blankDraft_parsed : parse utc emailReaders (mailProposal "n".toList []) none
    (.load (.ok mailStore)) = some (.ok blankDraft) := by
  decide +kernel

/-- The same node sent to another server. -/
def movedDraft : Draft :=
  ⟨"w".toList, mailBody "mail".toList "smtp.other.com".toList ⟨none, true, none, false, false⟩⟩

theorem movedDraft_parsed : parse utc emailReaders
    (mailProposal "mail".toList "smtp.other.com".toList) (some oldMail)
    (.load (.ok mailStore)) = some (.ok movedDraft) := by
  decide +kernel

end Examples

end DbFree.Workflows.Proposal
