import DbFree.DiagramPreview
import DbFree.SchemaNames

/- The order in which new tables are created (services/schema_diff.rs, services/diagram_ddl.rs). -/
namespace DbFree

/-- No table comes before one that it refers to. -/
def ParentsFirst {α : Type} (refers : α → α → Prop) (order : List α) : Prop :=
  order.Pairwise fun earlier later => ¬ refers earlier later

namespace Schema

section Rounds

variable {letters : Letters} {depends : TableDiff → List Text}

theorem createRounds_perm (rounds : Nat) (done : List Text) (pending : List TableDiff) :
    (createRounds letters depends rounds done pending).Perm pending := by
  induction rounds generalizing done pending with
  | zero => exact List.Perm.refl _
  | succ rounds hypothesis =>
    have parts := List.filter_append_perm
      (fun table => (depends table).all (· ∈ done)) pending
    rw [createRounds]
    split_ifs with none_ready
    · rw [List.isEmpty_iff] at none_ready
      rw [none_ready, List.nil_append] at parts
      exact parts
    · exact ((hypothesis _ _).append_left _).trans parts

/-- A round takes a table away as long as there is one to take. -/
theorem rest_shorter {done : List Text} {pending : List TableDiff}
    (some_ready : ¬(pending.filter fun table => (depends table).all (· ∈ done)).isEmpty = true) :
    (pending.filter fun table => !(depends table).all (· ∈ done)).length < pending.length := by
  have size := (List.filter_append_perm (fun table => (depends table).all (· ∈ done))
    pending).length_eq
  rw [List.isEmpty_iff, ← List.length_eq_zero_iff] at some_ready
  rw [List.length_append] at size
  omega

/-- With a round for each table, more rounds change nothing. -/
theorem createRounds_enough (rounds : Nat) (done : List Text) (pending : List TableDiff)
    (enough : pending.length ≤ rounds) :
    createRounds letters depends (rounds + 1) done pending =
      createRounds letters depends rounds done pending := by
  induction rounds generalizing done pending with
  | zero =>
    rw [List.eq_nil_of_length_eq_zero (Nat.le_zero.mp enough)]
    rfl
  | succ rounds hypothesis =>
    rw [createRounds]
    conv_rhs => rw [createRounds]
    split_ifs with none_ready
    · rfl
    · have shorter := rest_shorter none_ready
      rw [hypothesis _ _ (by omega)]

variable (letters depends) in
/-- What the rounds rely on: tables of one name need the same names, of the tables to come, and
none its own. -/
structure Depends (added : List TableDiff) : Prop where
  byName : ∀ one other, fold letters one.name = fold letters other.name →
    depends one = depends other
  known : ∀ table, ∀ name ∈ depends table, ∃ other ∈ added, fold letters other.name = name

variable (letters depends) in
/-- A table needs another one. -/
def Needs (table other : TableDiff) : Prop := fold letters other.name ∈ depends table

variable {added : List TableDiff}

/-- A round leaves no table of a name that is done. -/
theorem rest_fresh (rule : Depends letters depends added) {done : List Text}
    {pending : List TableDiff} (fresh : ∀ table ∈ pending, fold letters table.name ∉ done) :
    ∀ table ∈ pending.filter fun table => !(depends table).all (· ∈ done),
      fold letters table.name ∉
        done ++ (pending.filter fun table => (depends table).all (· ∈ done)).map
          fun table => fold letters table.name := by
  intro table member there
  obtain ⟨waits, not_ready⟩ := List.mem_filter.mp member
  rw [List.mem_append] at there
  cases there with
  | inl before => exact fresh table waits before
  | inr now =>
    obtain ⟨other, ready, same⟩ := List.mem_map.mp now
    have is_ready := (List.mem_filter.mp ready).2
    rw [rule.byName _ _ same] at is_ready
    rw [is_ready] at not_ready
    cases not_ready

/-- Where nothing is ready, every table waits for another one that is pending. -/
theorem none_pending (rule : Depends letters depends added) {done : List Text}
    {pending : List TableDiff}
    (covers : ∀ table ∈ added, fold letters table.name ∈ done ∨
      ∃ other ∈ pending, fold letters other.name = fold letters table.name)
    (inside : ∀ table ∈ pending, table ∈ added)
    (acyclic : Layering.Acyclic fun parent table =>
      (parent ∈ added ∧ table ∈ added) ∧ Needs letters depends table parent)
    (none_ready : (pending.filter fun table => (depends table).all (· ∈ done)) = []) :
    pending = [] := by
  by_contra filled
  obtain ⟨table, waits, free⟩ := acyclic.free filled
  have stuck := List.filter_eq_nil_iff.mp none_ready table waits
  apply stuck
  rw [List.all_eq_true]
  intro name needed
  obtain ⟨other, listed, rfl⟩ := rule.known table name needed
  cases covers other listed with
  | inl done_already => exact decide_eq_true done_already
  | inr later =>
    obtain ⟨twin, pending_twin, same⟩ := later
    rw [← same] at needed
    exact absurd ⟨⟨inside twin pending_twin, inside table waits⟩, needed⟩ (free twin pending_twin)

theorem createRounds_parents_first (rule : Depends letters depends added)
    (acyclic : Layering.Acyclic fun parent table =>
      (parent ∈ added ∧ table ∈ added) ∧ Needs letters depends table parent)
    (rounds : Nat) (done : List Text) (pending : List TableDiff)
    (enough : pending.length ≤ rounds) (inside : ∀ table ∈ pending, table ∈ added)
    (fresh : ∀ table ∈ pending, fold letters table.name ∉ done)
    (covers : ∀ table ∈ added, fold letters table.name ∈ done ∨
      ∃ other ∈ pending, fold letters other.name = fold letters table.name) :
    ParentsFirst (Needs letters depends) (createRounds letters depends rounds done pending) := by
  induction rounds generalizing done pending with
  | zero =>
    rw [List.eq_nil_of_length_eq_zero (Nat.le_zero.mp enough)]
    exact List.Pairwise.nil
  | succ rounds hypothesis =>
    -- A ready table needs only names that are done, and no pending table has one of these.
    have ready_free : ∀ table ∈ pending.filter fun table => (depends table).all (· ∈ done),
        ∀ other ∈ pending, ¬ Needs letters depends table other := by
      intro table ready other waits needs
      have all_done := List.all_eq_true.mp (List.mem_filter.mp ready).2 _ needs
      exact fresh other waits (of_decide_eq_true all_done)
    rw [createRounds]
    split_ifs with none_ready
    · rw [List.isEmpty_iff] at none_ready
      rw [none_pending rule covers inside acyclic none_ready]
      exact List.Pairwise.nil
    · apply List.pairwise_append.mpr
      refine ⟨?_, ?_, ?_⟩
      · apply List.Pairwise.imp_of_mem _ (List.pairwise_of_forall fun _ _ => trivial)
        intro earlier later first second _
        exact ready_free earlier first later (List.mem_filter.mp second).1
      · have shorter := rest_shorter none_ready
        apply hypothesis
        · omega
        · exact fun table member => inside table (List.mem_filter.mp member).1
        · exact rest_fresh rule fresh
        · intro table listed
          rw [List.mem_append]
          cases covers table listed with
          | inl before => exact Or.inl (Or.inl before)
          | inr waits =>
            obtain ⟨other, member, same⟩ := waits
            by_cases ready : (depends other).all (· ∈ done) = true
            · refine Or.inl (Or.inr (List.mem_map.mpr ⟨other, ?_, same⟩))
              exact List.mem_filter.mpr ⟨member, ready⟩
            · refine Or.inr ⟨other, List.mem_filter.mpr ⟨member, ?_⟩, same⟩
              simpa using ready
      · intro earlier first later second
        have waits := (mem_createRounds _ _ _ _).mp second
        exact ready_free earlier first later (List.mem_filter.mp waits).1

end Rounds

variable (letters : Letters) (source : SchemaSnapshot)

/-- A foreign key of the source's table of one name refers to the other name. -/
def RefersTo (table other : TableDiff) : Prop :=
  ∃ found, (source.tables.find? fun candidate =>
      fold letters candidate.table.name = fold letters table.name) = some found ∧
    ∃ fk ∈ found.foreignKeys, fold letters fk.toTable = fold letters other.name

/-- A reference to a table of another name. -/
def RefersElsewhere (table other : TableDiff) : Prop :=
  RefersTo letters source table other ∧ fold letters other.name ≠ fold letters table.name

theorem needs_iff {added : List TableDiff} (table : TableDiff) {other : TableDiff}
    (listed : other ∈ added) :
    Needs letters (dependencies letters added source) table other ↔
      RefersElsewhere letters source table other := by
  have known : ∃ twin ∈ added, fold letters twin.name = fold letters other.name :=
    ⟨other, listed, rfl⟩
  unfold Needs dependencies RefersElsewhere RefersTo
  cases source.tables.find? fun candidate =>
      fold letters candidate.table.name = fold letters table.name with
  | none => simp
  | some found => simp [known]

theorem dependencies_depends (added : List TableDiff) :
    Depends letters (dependencies letters added source) added where
  byName := by
    intro one other same
    rw [dependencies, dependencies, same]
  known := by
    intro table name member
    rw [dependencies] at member
    split at member
    · obtain ⟨-, kept⟩ := List.mem_filter.mp member
      obtain ⟨listed, -⟩ := of_decide_eq_true kept
      exact List.mem_map.mp listed
    · cases member

variable {letters source} in
theorem creationOrder_elsewhere {added : List TableDiff}
    (acyclic : Layering.Acyclic fun parent table =>
      (parent ∈ added ∧ table ∈ added) ∧ RefersElsewhere letters source table parent) :
    ParentsFirst (RefersElsewhere letters source) (creationOrder letters added source) := by
  have same : (fun parent table => (parent ∈ added ∧ table ∈ added) ∧
      Needs letters (dependencies letters added source) table parent) =
      fun parent table => (parent ∈ added ∧ table ∈ added) ∧
        RefersElsewhere letters source table parent := by
    funext parent table
    exact propext (and_congr_right fun both => needs_iff letters source table both.1)
  rw [← same] at acyclic
  have first := createRounds_parents_first (dependencies_depends letters source added) acyclic
    added.length [] added (Nat.le_refl _) (fun _ member => member)
    (fun _ _ => List.not_mem_nil) (fun table member => Or.inr ⟨table, member, rfl⟩)
  apply List.Pairwise.imp_of_mem _ first
  intro earlier later _ member apart refers
  have listed := (mem_creationOrder added source later).mp member
  exact apart ((needs_iff letters source earlier listed).mpr refers)

end Schema

namespace Diagram

open CreationOrder

theorem endpoints_inside {generator : Generator} {relation : DiagramRelation} {child parent : Nat}
    (ends : generator.endpoints relation = some (child, parent)) :
    child < generator.usables.length ∧ parent < generator.usables.length := by
  refine ⟨(byId_spec (endpoints_spec ends)).1, ?_⟩
  unfold Generator.endpoints at ends
  split at ends
  · rename_i _ found
    split_ifs at ends
    split at ends
    · split_ifs at ends
      cases ends
      exact (byId_spec found).1
    · cases ends
  · cases ends

/-- A planned foreign key of the first table refers to the second one. -/
def RefersTo (generator : Generator) (table other : Nat) : Prop :=
  ∃ fk ∈ generator.planForeignKeys, fk.child = table ∧ fk.parent = other

theorem mem_edges {generator : Generator} {edge : Edge} :
    edge ∈ (generator.planForeignKeys.filter fun fk => fk.child ≠ fk.parent).map
        (fun fk => (fk.child, fk.parent)) ↔
      RefersTo generator edge.1 edge.2 ∧ edge.1 ≠ edge.2 := by
  constructor
  · intro member
    obtain ⟨fk, kept, rfl⟩ := List.mem_map.mp member
    obtain ⟨planned, apart⟩ := List.mem_filter.mp kept
    exact ⟨⟨fk, planned, rfl, rfl⟩, of_decide_eq_true apart⟩
  · intro ⟨⟨fk, planned, child, parent⟩, apart⟩
    refine List.mem_map.mpr ⟨fk, List.mem_filter.mpr ⟨planned, ?_⟩, Prod.ext child parent⟩
    rw [child, parent]
    exact decide_eq_true apart

theorem edges_inside (generator : Generator) :
    ∀ edge ∈ (generator.planForeignKeys.filter fun fk => fk.child ≠ fk.parent).map
      (fun fk => (fk.child, fk.parent)),
      edge.1 < generator.usables.length ∧ edge.2 < generator.usables.length := by
  intro edge member
  obtain ⟨fk, kept, rfl⟩ := List.mem_map.mp member
  exact endpoints_inside (planForeignKeys_ends generator fk (List.mem_filter.mp kept).1)

theorem creationOrder_perm (generator : Generator) :
    (generator.creationOrder generator.planForeignKeys).Perm
      (List.range generator.usables.length) := by
  rw [Generator.creationOrder]
  split_ifs with mode
  · exact List.Perm.refl _
  · exact kahn_perm _ _ fun edge member => (edges_inside generator edge member).1

theorem creationOrder_parents_first (generator : Generator)
    (inline : generator.dialect.fkMode = .inline)
    (acyclic : Layering.Acyclic fun parent table =>
      RefersTo generator table parent ∧ table ≠ parent) :
    ParentsFirst (fun table parent => RefersTo generator table parent ∧ table ≠ parent)
      (generator.creationOrder generator.planForeignKeys) := by
  have same : (fun parent table => (table, parent) ∈
      (generator.planForeignKeys.filter fun fk => fk.child ≠ fk.parent).map
        fun fk => (fk.child, fk.parent)) =
      fun parent table => RefersTo generator table parent ∧ table ≠ parent := by
    funext parent table
    exact propext mem_edges
  rw [← same] at acyclic
  have first := kahn_parents_first
    (fun edge member => (edges_inside generator edge member).1)
    (fun edge member => (edges_inside generator edge member).2) acyclic
  rw [Generator.creationOrder, if_neg (not_not.mpr inline)]
  apply first.imp
  intro earlier later apart refers
  exact apart (mem_edges.mpr refers)

end Diagram

/-- New tables come out once each. Where their references make no circle, the schema comparison
and a dialect with inline keys have parents first; the other dialects keep the diagram's order. -/
theorem created_in_order :
    (∀ (letters : Schema.Letters) (source : Schema.SchemaSnapshot) (added : List Schema.TableDiff),
      (Schema.creationOrder letters added source).Perm added ∧
      (∀ more, Schema.createRounds letters (Schema.dependencies letters added source)
        (added.length + more) [] added = Schema.creationOrder letters added source) ∧
      ((Layering.Acyclic fun parent table => (parent ∈ added ∧ table ∈ added) ∧
          Schema.RefersElsewhere letters source table parent) →
        ParentsFirst (Schema.RefersElsewhere letters source)
          (Schema.creationOrder letters added source))) ∧
    ∀ generator : Diagram.Generator,
      (generator.creationOrder generator.planForeignKeys).Perm
        (List.range generator.usables.length) ∧
      (generator.dialect.fkMode = .inline → (Layering.Acyclic fun parent table =>
          Diagram.RefersTo generator table parent ∧ table ≠ parent) →
        ParentsFirst (fun table parent => Diagram.RefersTo generator table parent ∧ table ≠ parent)
          (generator.creationOrder generator.planForeignKeys)) ∧
      (generator.dialect.fkMode ≠ .inline →
        generator.creationOrder generator.planForeignKeys =
          List.range generator.usables.length) := by
  constructor
  · intro letters source added
    refine ⟨Schema.createRounds_perm _ _ _, ?_, Schema.creationOrder_elsewhere⟩
    intro more
    induction more with
    | zero => rfl
    | succ more hypothesis =>
      rw [← hypothesis]
      exact Schema.createRounds_enough _ _ _ (Nat.le_add_right _ _)
  · intro generator
    refine ⟨Diagram.creationOrder_perm generator,
      Diagram.creationOrder_parents_first generator, ?_⟩
    intro mode
    rw [Diagram.Generator.creationOrder, if_pos mode]

namespace Diagram

/-- Edges from some nodes to others go in no circle. -/
theorem acyclic_of_apart {edge : Nat → Nat → Prop} (top : Nat)
    (apart : ∀ parent table, edge parent table → parent = top ∧ table ≠ top) :
    Layering.Acyclic edge := by
  intro node cycle
  obtain ⟨_, first, _⟩ := Relation.TransGen.head'_iff.mp cycle
  obtain ⟨_, _, last⟩ := Relation.TransGen.tail'_iff.mp cycle
  exact (apart _ _ last).2 (apart _ _ first).1

/-- Orders, and after them the users they belong to. -/
def childFirst : DiagramBody where
  tables := [⟨"o".toList, "orders".toList, [⟨"owner".toList, "int".toList, false, true, false,
      false, none, none⟩], none, none⟩,
    ⟨"u".toList, "users".toList, [⟨"id".toList, "int".toList, true, false, false, false, none,
      none⟩], none, none⟩]
  relations := [⟨"o".toList, "owner".toList, "u".toList, "id".toList, [], none, none, none⟩]

theorem childFirst_refers {engine : Engine} {table other : Nat}
    (planned : (whole asciiLowercase (some engine) childFirst).planForeignKeys.map
      (fun fk => (fk.child, fk.parent)) = [(0, 1)]) :
    RefersTo (whole asciiLowercase (some engine) childFirst) table other ↔
      table = 0 ∧ other = 1 := by
  have same : RefersTo (whole asciiLowercase (some engine) childFirst) table other ↔
      (table, other) ∈ (whole asciiLowercase (some engine) childFirst).planForeignKeys.map
        (fun fk => (fk.child, fk.parent)) := by
    simp [RefersTo]
  rw [same, planned, List.mem_singleton, Prod.mk.injEq]

theorem childFirst_acyclic {engine : Engine}
    (planned : (whole asciiLowercase (some engine) childFirst).planForeignKeys.map
      (fun fk => (fk.child, fk.parent)) = [(0, 1)]) :
    Layering.Acyclic fun parent table =>
      RefersTo (whole asciiLowercase (some engine) childFirst) table parent ∧ table ≠ parent := by
  apply acyclic_of_apart 1
  intro parent table ⟨refers, apart⟩
  obtain ⟨-, is_parent⟩ := (childFirst_refers planned).mp refers
  rw [is_parent] at apart
  exact ⟨is_parent, apart⟩

theorem sqlite_creates_users_first :
    ParentsFirst (fun table parent =>
        RefersTo (whole asciiLowercase (some .sqlite) childFirst) table parent ∧ table ≠ parent)
      ((whole asciiLowercase (some .sqlite) childFirst).creationOrder
        (whole asciiLowercase (some .sqlite) childFirst).planForeignKeys) :=
  (created_in_order.2 _).2.1 (by decide) (childFirst_acyclic (by decide +kernel))

/-- A script whose keys are added at its end creates the orders first. -/
theorem postgres_creates_orders_first :
    (Layering.Acyclic fun parent table =>
      RefersTo (whole asciiLowercase (some .postgres) childFirst) table parent ∧
        table ≠ parent) ∧
    ¬ ParentsFirst (fun table parent =>
        RefersTo (whole asciiLowercase (some .postgres) childFirst) table parent ∧ table ≠ parent)
      ((whole asciiLowercase (some .postgres) childFirst).creationOrder
        (whole asciiLowercase (some .postgres) childFirst).planForeignKeys) := by
  have planned : (whole asciiLowercase (some .postgres) childFirst).planForeignKeys.map
      (fun fk => (fk.child, fk.parent)) = [(0, 1)] := by decide +kernel
  refine ⟨childFirst_acyclic planned, ?_⟩
  have order : (whole asciiLowercase (some .postgres) childFirst).creationOrder
      (whole asciiLowercase (some .postgres) childFirst).planForeignKeys = [0, 1] := by
    decide +kernel
  rw [order]
  intro first
  have apart := (List.pairwise_cons.mp first).1 1 (by decide)
  exact apart ⟨(childFirst_refers planned).mpr ⟨rfl, rfl⟩, by decide⟩

end Diagram

end DbFree
