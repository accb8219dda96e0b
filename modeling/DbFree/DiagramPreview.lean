import DbFree.DiagramDdl
import DbFree.F64Spelling

/- The preview of one table of a diagram against the script of the whole diagram. -/
namespace DbFree.Diagram

open Texts SqlText CreationOrder

/-- Behind the last of a character, two equal texts are the same. -/
theorem eq_behind {c : Char} {left right first second : Text} (absent : c ∉ first)
    (absent' : c ∉ second) (same : left ++ c :: first = right ++ c :: second) :
    first = second := by
  rcases List.append_eq_append_iff.mp same with ⟨between, _, split⟩ | ⟨between, _, split⟩
  · cases between with
    | nil => exact (List.cons.inj split).2
    | cons d rest =>
      have inside : c ∈ first := by
        rw [(List.cons.inj split).2]
        simp
      exact absurd inside absent
  · cases between with
    | nil => exact (List.cons.inj split).2.symm
    | cons d rest =>
      have inside : c ∈ second := by
        rw [(List.cons.inj split).2]
        simp
      exact absurd inside absent'

theorem underscore_notMem_decimal (count : Nat) : '_' ∉ decimal count := by
  intro member
  have digit := F64.isDigit_of_mem_decimal count '_' member
  exact absurd digit (by decide)

/-- The counted names tried for one constraint differ, however letters are folded. -/
theorem Generator.candidates_distinct (generator : Generator) (base : Text) (m n : Nat)
    (same : generator.lowercase.lower (generator.candidate base (m + 1)) =
      generator.lowercase.lower (generator.candidate base (n + 1))) : m = n := by
  rw [candidate, candidate] at same
  obtain ⟨left, left_eq⟩ := generator.lowercase.counted
    (base.take (generator.dialect.identMax - ('_' :: decimal (m + 2)).length)) (m + 2)
  obtain ⟨right, right_eq⟩ := generator.lowercase.counted
    (base.take (generator.dialect.identMax - ('_' :: decimal (n + 2)).length)) (n + 2)
  rw [left_eq, right_eq] at same
  have counts := decimal_injective
    (eq_behind (underscore_notMem_decimal _) (underscore_notMem_decimal _) same)
  omega

/-- A code none of whose words starts another, or the mark behind them, is read back. -/
theorem flatMap_delimited {encode : Char → Text} {stop : Text}
    (decodes : ∀ c d rest rest', encode c ++ rest = encode d ++ rest' → c = d ∧ rest = rest')
    (stops : ∀ c rest rest', encode c ++ rest ≠ stop ++ rest') {left right rest rest' : Text}
    (same : left.flatMap encode ++ (stop ++ rest) = right.flatMap encode ++ (stop ++ rest')) :
    left = right ∧ rest = rest' := by
  induction left generalizing right with
  | nil =>
    cases right with
    | nil => exact ⟨rfl, List.append_cancel_left same⟩
    | cons d right =>
      rw [List.flatMap_cons, List.append_assoc] at same
      exact absurd same.symm (stops d _ _)
  | cons c left hypothesis =>
    cases right with
    | nil =>
      rw [List.flatMap_cons, List.append_assoc] at same
      exact absurd same (stops c _ _)
    | cons d right =>
      rw [List.flatMap_cons, List.flatMap_cons, List.append_assoc, List.append_assoc] at same
      obtain ⟨head_eq, tail_eq⟩ := decodes c d _ _ same
      obtain ⟨left_eq, rest_eq⟩ := hypothesis tail_eq
      rw [head_eq, left_eq]
      exact ⟨rfl, rest_eq⟩

/-- A quote that is doubled inside a name ends it where a blank follows. -/
theorem doubled_delimited (quote : Char) (visible : quote ≠ ' ') {left right rest rest' : Text}
    (same : replaceChar left quote [quote, quote] ++ ([quote, ' '] ++ rest) =
      replaceChar right quote [quote, quote] ++ ([quote, ' '] ++ rest')) :
    left = right ∧ rest = rest' := by
  apply flatMap_delimited _ _ same
  · intro c d rest rest' equal
    split_ifs at equal with c_quote d_quote d_quote
    · rw [c_quote, d_quote]
      simpa using equal
    · simp at equal
      exact absurd equal.1.symm d_quote
    · simp at equal
      exact absurd equal.1 c_quote
    · simpa using equal
  · intro c rest rest' equal
    split_ifs at equal with c_quote
    · simp at equal
      exact visible equal.1
    · simp at equal
      exact c_quote equal.1

/-- A character of a BigQuery name as it is quoted. -/
def bigqueryCode (c : Char) : Text :=
  if c = '\\' then ['\\', '\\'] else if c = '`' then ['\\', '`'] else [c]

theorem bigqueryCode_decodes (c d : Char) (rest rest' : Text)
    (same : bigqueryCode c ++ rest = bigqueryCode d ++ rest') : c = d ∧ rest = rest' := by
  rw [bigqueryCode, bigqueryCode] at same
  by_cases c_slash : c = '\\' <;> by_cases d_slash : d = '\\'
  · rw [if_pos c_slash, if_pos d_slash] at same
    exact ⟨c_slash.trans d_slash.symm, List.append_cancel_left same⟩
  · rw [if_pos c_slash, if_neg d_slash] at same
    by_cases d_tick : d = '`'
    · rw [if_pos d_tick] at same
      simp at same
    · rw [if_neg d_tick] at same
      exact absurd (List.cons.inj same).1.symm d_slash
  · rw [if_neg c_slash, if_pos d_slash] at same
    by_cases c_tick : c = '`'
    · rw [if_pos c_tick] at same
      simp at same
    · rw [if_neg c_tick] at same
      exact absurd (List.cons.inj same).1 c_slash
  · rw [if_neg c_slash, if_neg d_slash] at same
    by_cases c_tick : c = '`' <;> by_cases d_tick : d = '`'
    · rw [if_pos c_tick, if_pos d_tick] at same
      exact ⟨c_tick.trans d_tick.symm, List.append_cancel_left same⟩
    · rw [if_pos c_tick, if_neg d_tick] at same
      exact absurd (List.cons.inj same).1.symm d_slash
    · rw [if_neg c_tick, if_pos d_tick] at same
      exact absurd (List.cons.inj same).1 c_slash
    · rw [if_neg c_tick, if_neg d_tick] at same
      exact ⟨(List.cons.inj same).1, (List.cons.inj same).2⟩

theorem bigqueryCode_stops (c : Char) (rest rest' : Text) :
    bigqueryCode c ++ rest ≠ ['`', ' '] ++ rest' := by
  intro same
  rw [bigqueryCode] at same
  by_cases slash : c = '\\'
  · rw [if_pos slash] at same
    simp at same
  · rw [if_neg slash] at same
    by_cases tick : c = '`'
    · rw [if_pos tick] at same
      simp at same
    · rw [if_neg tick] at same
      exact tick (List.cons.inj same).1

theorem bigquery_code (raw : Text) :
    replaceChar (replaceChar raw '\\' ['\\', '\\']) '`' ['\\', '`'] =
      raw.flatMap bigqueryCode := by
  rw [replaceChar, replaceChar, List.flatMap_assoc]
  congr 1
  funext c
  rw [bigqueryCode]
  by_cases slash : c = '\\'
  · rw [if_pos slash, if_pos slash]
    rfl
  · rw [if_neg slash, if_neg slash, List.flatMap_singleton]

/-- A quoted name followed by a blank is read back, on every engine. -/
theorem Generator.quote_delimited (generator : Generator) {left right rest rest' : Text}
    (same : generator.quote left ++ ' ' :: rest = generator.quote right ++ ' ' :: rest') :
    left = right ∧ rest = rest' := by
  have plain : ∀ {left right : Text}, quoteIdent left ++ ' ' :: rest =
      quoteIdent right ++ ' ' :: rest' → left = right ∧ rest = rest' := by
    intro left right same
    apply doubled_delimited '"' (by decide)
    simpa [quoteIdent] using same
  unfold quote at same
  cases engine : generator.engine with
  | none =>
    simp only [engine] at same
    exact plain same
  | some engine =>
    simp only [engine, quoteIdentFor] at same
    split at same
    · apply doubled_delimited '`' (by decide)
      simpa using same
    · apply doubled_delimited ']' (by decide)
      simpa using same
    · rw [bigquery_code, bigquery_code] at same
      apply flatMap_delimited bigqueryCode_decodes bigqueryCode_stops
      simpa using same
    · exact plain same

/-- Where each name is chosen that is free among the constraints of one table, no constraint
of another table holds it. -/
def Generator.NamesFree (generator : Generator) (id : Text) :
    List DiagramRelation → List Text → List Text → Prop
  | [], _, _ => True
  | relation :: rest, own, others =>
    match generator.endpoints relation with
    | none => NamesFree generator id rest own others
    | some (child, _) =>
      if relation.fromTable = id then
        let name := generator.lowercase.lower (generator.constraintName relation child own)
        name ∉ others ∧ NamesFree generator id rest (name :: own) others
      else
        let name := generator.constraintName relation child (own ++ others)
        NamesFree generator id rest own (generator.lowercase.lower name :: others)

section

variable (lowercase : Lowercase) (engine : Option Engine) (body : DiagramBody) (id : Text)

/-- What writes the whole script. -/
def whole : Generator := ⟨lowercase, engine, body, none⟩

/-- What writes the preview of one table. -/
def preview : Generator := ⟨lowercase, engine, body, some id⟩

variable {lowercase engine body id}

/-- The foreign keys that a table owns. -/
def owned (id : Text) (fks : List Fk) : List Fk := fks.filter (·.relation.fromTable = id)

theorem owned_cons (fk : Fk) (fks : List Fk) : owned id (fk :: fks) =
    if fk.relation.fromTable = id then fk :: owned id fks else owned id fks := by
  rw [owned, List.filter_cons]
  by_cases mine : fk.relation.fromTable = id
  · rw [if_pos mine, if_pos (decide_eq_true mine)]
    rfl
  · rw [if_neg mine, if_neg (by simpa using mine)]
    rfl

/-- One relation at a time: both plans skip it, or name it, and only its name can differ. -/
theorem plan_iff (relations : List DiagramRelation) (own others used : List Text)
    (same : ∀ taken, taken ∈ used ↔ taken ∈ own ++ others) :
    (preview lowercase engine body id).planFrom relations own =
        owned id ((whole lowercase engine body).planFrom relations used) ↔
      (whole lowercase engine body).NamesFree id relations own others := by
  induction relations generalizing own others used with
  | nil => exact iff_of_true rfl trivial
  | cons relation rest hypothesis =>
    rw [Generator.planFrom, Generator.planFrom, Generator.NamesFree]
    have seen : (preview lowercase engine body id).endpoints relation =
      (whole lowercase engine body).endpoints relation := rfl
    have in_scope : (whole lowercase engine body).inScope relation.fromTable = true := rfl
    have mine_iff : (preview lowercase engine body id).inScope relation.fromTable = true ↔
        relation.fromTable = id := by
      show (id == relation.fromTable) = true ↔ _
      rw [beq_iff_eq, eq_comm]
    rw [if_pos in_scope, seen]
    cases ends : (whole lowercase engine body).endpoints relation with
    | none =>
      simp only [ite_self]
      exact hypothesis own others used same
    | some nodes =>
      obtain ⟨child, parent⟩ := nodes
      have distinct := (whole lowercase engine body).candidates_distinct
        ((whole lowercase engine body).baseName relation child)
      by_cases mine : relation.fromTable = id
      · simp only [if_pos (mine_iff.mpr mine), owned_cons, if_pos mine, List.cons.injEq,
          Fk.mk.injEq, true_and]
        have named : (preview lowercase engine body id).constraintName relation child own =
          (whole lowercase engine body).constraintName relation child own := rfl
        rw [named]
        constructor
        · rintro ⟨name_eq, rest_eq⟩
          have free : (whole lowercase engine body).lowercase.lower
              ((whole lowercase engine body).constraintName relation child own) ∉ used := by
            rw [name_eq]
            exact FreshNames.key_choose_notMem distinct used
          refine ⟨fun there => free ((same _).mpr (List.mem_append_right own there)), ?_⟩
          apply (hypothesis _ _ _ _).mp rest_eq
          intro taken
          rw [← name_eq, List.mem_cons, same, List.cons_append, List.mem_cons]
          exact Iff.rfl
        · rintro ⟨free, rest_free⟩
          have name_eq : (whole lowercase engine body).constraintName relation child used =
              (whole lowercase engine body).constraintName relation child own := by
            apply FreshNames.choose_of_subset distinct
            · intro taken member
              exact (same taken).mpr (List.mem_append_left others member)
            · intro member
              rcases List.mem_append.mp ((same _).mp member) with inside | inside
              · exact FreshNames.key_choose_notMem distinct own inside
              · exact free inside
          refine ⟨name_eq.symm, ?_⟩
          apply (hypothesis _ _ _ _).mpr rest_free
          intro taken
          rw [name_eq, List.mem_cons, same, List.cons_append, List.mem_cons]
      · have out : ¬ (preview lowercase engine body id).inScope relation.fromTable = true :=
          fun scope => mine (mine_iff.mp scope)
        simp only [if_neg out, owned_cons, if_neg mine]
        apply hypothesis
        have name_eq : (whole lowercase engine body).constraintName relation child used =
            (whole lowercase engine body).constraintName relation child (own ++ others) :=
          FreshNames.choose_congr distinct fun taken => (same taken).symm
        intro taken
        rw [name_eq, List.mem_cons, same, List.mem_append, List.mem_append, List.mem_cons]
        exact or_left_comm

/-- A foreign key without the name it was given. -/
def Fk.nameless (fk : Fk) : Nat × Nat × DiagramRelation := (fk.child, fk.parent, fk.relation)

theorem plan_nameless (relations : List DiagramRelation) (own used : List Text) :
    ((preview lowercase engine body id).planFrom relations own).map Fk.nameless =
      (owned id ((whole lowercase engine body).planFrom relations used)).map Fk.nameless := by
  induction relations generalizing own used with
  | nil => rfl
  | cons relation rest hypothesis =>
    rw [Generator.planFrom, Generator.planFrom]
    have seen : (preview lowercase engine body id).endpoints relation =
      (whole lowercase engine body).endpoints relation := rfl
    have in_scope : (whole lowercase engine body).inScope relation.fromTable = true := rfl
    have scope_eq : (preview lowercase engine body id).inScope relation.fromTable =
      (id == relation.fromTable) := rfl
    rw [if_pos in_scope, seen, scope_eq]
    cases (whole lowercase engine body).endpoints relation with
    | none =>
      simp only [ite_self]
      exact hypothesis own used
    | some nodes =>
      by_cases mine : relation.fromTable = id
      · simp only [mine, beq_self_eq_true, if_true, owned_cons, List.map_cons]
        rw [hypothesis]
        rfl
      · rw [if_neg (by simpa using fun same => mine same.symm)]
        simp only [owned_cons, if_neg mine]
        exact hypothesis _ _

/-- Foreign keys that agree in all but their names, and in these, are the same. -/
theorem eq_of_nameless {left right : List Fk}
    (same : left.map Fk.nameless = right.map Fk.nameless)
    (names : left.map Fk.name = right.map Fk.name) : left = right := by
  induction left generalizing right with
  | nil => exact (List.map_eq_nil_iff.mp same.symm).symm
  | cons fk left hypothesis =>
    cases right with
    | nil => cases same
    | cons fk' right =>
      simp only [List.map_cons, List.cons.injEq, Fk.nameless, Prod.mk.injEq] at same names
      rw [hypothesis same.2 names.2]
      cases fk
      cases fk'
      simp_all

theorem planned {generator : Generator} (relations : List DiagramRelation) (used : List Text) :
    ∀ fk ∈ generator.planFrom relations used,
      generator.endpoints fk.relation = some (fk.child, fk.parent) := by
  induction relations generalizing used with
  | nil => exact fun fk member => by cases member
  | cons relation rest hypothesis =>
    rw [Generator.planFrom]
    intro fk member
    split_ifs at member with in_scope
    · cases ends : generator.endpoints relation with
      | none =>
        simp only [ends] at member
        exact hypothesis used fk member
      | some nodes =>
        simp only [ends] at member
        rcases List.mem_cons.mp member with rfl | later
        · exact ends
        · exact hypothesis _ fk later
    · exact hypothesis used fk member

/-- Whether the table of a number has an id. -/
def Generator.hasId (generator : Generator) (id : Text) (index : Nat) : Bool :=
  generator.usables[index]?.any (·.table.id = id)

theorem byId_spec {generator : Generator} {id : Text} {index : Nat}
    (found : generator.byId id = some index) :
    index < generator.usables.length ∧ generator.hasId id index = true ∧
      ∀ later, index < later → later < generator.usables.length →
        generator.hasId id later = false := by
  obtain ⟨here, before, behind, split, earlier⟩ := List.find?_eq_some_iff_append.mp found
  have bounded : ∀ place, place < generator.usables.length ↔
      place ∈ before ++ index :: behind := by
    intro place
    rw [← split, List.mem_reverse, List.mem_range]
  refine ⟨(bounded index).mpr (by simp), here, ?_⟩
  intro later above small
  have falling : (before ++ index :: behind).Pairwise (· > ·) := by
    rw [← split, List.pairwise_reverse]
    exact List.pairwise_lt_range
  rcases List.mem_append.mp ((bounded later).mp small) with first | rest
  · have missing := earlier later first
    rwa [Bool.not_eq_true'] at missing
  · rcases List.mem_cons.mp rest with same | last
    · omega
    · have below := (List.pairwise_cons.mp (List.pairwise_append.mp falling).2.1).1 later last
      omega

theorem endpoints_spec {generator : Generator} {relation : DiagramRelation} {child parent : Nat}
    (ends : generator.endpoints relation = some (child, parent)) :
    generator.byId relation.fromTable = some child := by
  unfold Generator.endpoints at ends
  split at ends
  · rename_i found _
    rw [found]
    split_ifs at ends
    split at ends
    · split_ifs at ends
      cases ends
      rfl
    · cases ends
  · cases ends

/-- The tables of one id come in the diagram's order, which only the last of them can leave. -/
theorem order_of_id {generator : Generator} (fks : List Fk)
    (ends : ∀ fk ∈ fks, generator.endpoints fk.relation = some (fk.child, fk.parent)) :
    (generator.creationOrder fks).filter (generator.hasId id) =
      (List.range generator.usables.length).filter (generator.hasId id) := by
  rw [Generator.creationOrder]
  split_ifs with mode
  · rfl
  · have child_spec : ∀ edge ∈ (fks.filter fun fk => fk.child ≠ fk.parent).map
        (fun fk => (fk.child, fk.parent)), ∃ relation, generator.byId relation = some edge.1 := by
      intro edge member
      obtain ⟨fk, kept, rfl⟩ := List.mem_map.mp member
      exact ⟨_, endpoints_spec (ends fk (List.mem_filter.mp kept).1)⟩
    apply filter_kahn
    · intro edge member
      obtain ⟨relation, found⟩ := child_spec edge member
      exact (byId_spec found).1
    · intro lower higher low high below small
      rw [indegree, List.length_eq_zero_iff, List.filter_eq_nil_iff]
      intro edge member same
      obtain ⟨other, found⟩ := child_spec edge member
      obtain ⟨_, here, none_later⟩ := byId_spec found
      rw [of_decide_eq_true same] at here none_later
      -- Both ids are the id of the lower table.
      have same_id : other = id := by
        simp only [Generator.hasId, Option.any_eq_true, decide_eq_true_eq] at here low
        obtain ⟨item, at_lower, item_id⟩ := here
        obtain ⟨item', at_lower', item_id'⟩ := low
        rw [at_lower] at at_lower'
        cases at_lower'
        rw [← item_id, item_id']
      rw [same_id] at none_later
      rw [none_later higher below small] at high
      cases high

theorem join_cons (separator part : Text) (rest : List Text) :
    join separator (part :: rest) = part ++ rest.flatMap (separator ++ ·) := by
  induction rest generalizing part with
  | nil => simp [join, List.intercalate]
  | cons next later hypothesis =>
    have tail := hypothesis next
    simp only [join, List.intercalate] at tail ⊢
    rw [List.intersperse_cons_cons, List.flatten_cons, List.flatten_cons, tail, List.flatMap_cons,
      List.append_assoc]

theorem join_append (separator : Text) {first : List Text} (some_part : first ≠ [])
    (second : List Text) :
    join separator (first ++ second) = join separator first ++ second.flatMap (separator ++ ·) := by
  cases first with
  | nil => exact absurd rfl some_part
  | cons part rest =>
    rw [List.cons_append, join_cons, join_cons, List.flatMap_append, List.append_assoc]

theorem fkClause_congr {generator : Generator} {fk fk' : Fk} (same : fk.nameless = fk'.nameless) :
    generator.fkClause fk = generator.fkClause fk' := by
  simp only [Fk.nameless, Prod.mk.injEq] at same
  unfold Generator.fkClause Fk.from_ Fk.to_
  rw [same.2.1, same.2.2]

theorem alterStatement_name {generator : Generator} {fk fk' : Fk}
    (same : fk.nameless = fk'.nameless)
    (text : generator.alterStatement fk = generator.alterStatement fk') : fk.name = fk'.name := by
  have child : fk.child = fk'.child := congrArg Prod.fst same
  unfold Generator.alterStatement at text
  rw [child, fkClause_congr same] at text
  simp only [List.append_assoc, List.cons_append, List.append_cancel_left_eq] at text
  exact (generator.quote_delimited text).1

theorem alterStatements_names {generator : Generator} {left right : List Fk}
    (same : left.map Fk.nameless = right.map Fk.nameless)
    (texts : left.map generator.alterStatement = right.map generator.alterStatement) :
    left.map Fk.name = right.map Fk.name := by
  induction left generalizing right with
  | nil => rw [List.map_eq_nil_iff.mp same.symm]
  | cons fk left hypothesis =>
    cases right with
    | nil => cases same
    | cons fk' right =>
      rw [List.map_cons, List.map_cons, List.cons.injEq] at same texts
      rw [List.map_cons, List.map_cons, alterStatement_name same.1 texts.1,
        hypothesis same.2 texts.2]

/-- The constraints written in a table tell their names, one after the other. -/
theorem constraintLines_names {generator : Generator} {left right : List Fk} {rest rest' : Text}
    (same : left.map Fk.nameless = right.map Fk.nameless)
    (text : (left.map generator.constraintLine).flatMap (",\n  ".toList ++ ·) ++ rest =
      (right.map generator.constraintLine).flatMap (",\n  ".toList ++ ·) ++ rest') :
    left.map Fk.name = right.map Fk.name := by
  induction left generalizing right with
  | nil => rw [List.map_eq_nil_iff.mp same.symm]
  | cons fk left hypothesis =>
    cases right with
    | nil => cases same
    | cons fk' right =>
      rw [List.map_cons, List.map_cons, List.cons.injEq] at same
      rw [List.map_cons, List.map_cons, List.flatMap_cons, List.flatMap_cons] at text
      unfold Generator.constraintLine at text
      rw [fkClause_congr same.1] at text
      simp only [List.append_assoc, List.cons_append, List.append_cancel_left_eq] at text
      obtain ⟨name_eq, behind⟩ := generator.quote_delimited text
      rw [List.map_cons, List.map_cons, name_eq, hypothesis same.2 (List.append_cancel_left behind)]

theorem columnLines_ne {generator : Generator} (item : Usable) :
    generator.columnLines item ≠ [] := by
  rw [Generator.columnLines]
  intro nothing
  have columns := (List.append_eq_nil_iff.mp nothing).1
  exact item.columns_ne (List.map_eq_nil_iff.mp columns)

theorem tableBlock_names {generator : Generator} {item : Usable} {index : Nat}
    {left right : List Fk} (inline : generator.dialect.fkMode = .inline)
    (same : left.map Fk.nameless = right.map Fk.nameless)
    (here : ∀ fk ∈ left, fk.child = index) (here' : ∀ fk ∈ right, fk.child = index)
    (text : generator.tableBlock item index left = generator.tableBlock item index right) :
    left.map Fk.name = right.map Fk.name := by
  have all : left.filter (·.child = index) = left :=
    List.filter_eq_self.mpr fun fk member => decide_eq_true (here fk member)
  have all' : right.filter (·.child = index) = right :=
    List.filter_eq_self.mpr fun fk member => decide_eq_true (here' fk member)
  simp only [Generator.tableBlock, if_pos inline, all, all', join_cons] at text
  rw [join_append _ (columnLines_ne item), join_append _ (columnLines_ne item)] at text
  simp only [List.append_assoc, List.append_cancel_left_eq] at text
  exact constraintLines_names same text

/-- The table of a number, written with the foreign keys it owns. -/
def Generator.blockAt (generator : Generator) (fks : List Fk) (index : Nat) : Text :=
  generator.usables[index]?.elim [] fun item => generator.tableBlock item index fks

theorem hasId_spec {generator : Generator} {index : Nat}
    (here : generator.hasId id index = true) :
    ∃ item, generator.usables[index]? = some item ∧ item.table.id = id := by
  simpa [Generator.hasId, Option.any_eq_true] using here

/-- The tables of one id among all statements, when others are not looked at. -/
theorem tableStatements_filter {generator : Generator} (fks : List Fk)
    (scope : ∀ other, generator.inScope other = true ↔ other = id ∨ generator.only = none)
    (ends : ∀ fk ∈ fks, generator.endpoints fk.relation = some (fk.child, fk.parent)) :
    (generator.tableStatements fks).filter (·.1 = id) =
      ((List.range generator.usables.length).filter (generator.hasId id)).map fun index =>
        (id, generator.blockAt fks index) := by
  rw [← order_of_id fks ends, Generator.tableStatements]
  induction generator.creationOrder fks with
  | nil => rfl
  | cons index rest hypothesis =>
    rw [List.filterMap_cons, List.filter_cons]
    cases here : generator.usables[index]? with
    | none =>
      have other : generator.hasId id index = false := by rw [Generator.hasId, here]; rfl
      rw [other]
      exact hypothesis
    | some item =>
      have id_iff : generator.hasId id index = decide (item.table.id = id) := by
        rw [Generator.hasId, here]
        rfl
      have block : generator.blockAt fks index = generator.tableBlock item index fks := by
        rw [Generator.blockAt, here]
        rfl
      rw [id_iff]
      by_cases mine : item.table.id = id
      · have in_scope := (scope item.table.id).mpr (Or.inl mine)
        simp only [if_pos in_scope]
        rw [List.filter_cons_of_pos (by simpa using mine), if_pos (decide_eq_true mine),
          List.map_cons, block, hypothesis, mine]
      · rw [if_neg (by simpa using mine)]
        by_cases in_scope : generator.inScope item.table.id = true
        · simp only [if_pos in_scope]
          rw [List.filter_cons_of_neg (by simpa using mine)]
          exact hypothesis
        · simp only [if_neg in_scope]
          exact hypothesis

theorem blockAt_owned {generator : Generator} {fks : List Fk} {index : Nat}
    (here : generator.hasId id index = true)
    (ends : ∀ fk ∈ fks, generator.endpoints fk.relation = some (fk.child, fk.parent)) :
    generator.blockAt fks index = generator.blockAt (owned id fks) index := by
  have same : (owned id fks).filter (·.child = index) = fks.filter (·.child = index) := by
    rw [owned, List.filter_filter]
    apply List.filter_congr
    intro fk member
    by_cases child : fk.child = index
    · have found := endpoints_spec (ends fk member)
      rw [child] at found
      obtain ⟨item, at_index, item_id⟩ := hasId_spec (byId_spec found).2.1
      obtain ⟨item', at_index', item_id'⟩ := hasId_spec here
      rw [at_index] at at_index'
      cases at_index'
      simp [child, ← item_id, item_id']
    · simp [child]
  unfold Generator.blockAt Generator.tableBlock
  rw [same]

theorem foreignKeyStatements_filter {generator : Generator} (fks : List Fk)
    (scope : ∀ other, generator.inScope other = true ↔ other = id ∨ generator.only = none)
    (ends : ∀ fk ∈ fks, generator.endpoints fk.relation = some (fk.child, fk.parent)) :
    (generator.foreignKeyStatements fks).filter (·.1 = id) =
      if generator.dialect.fkMode = .alter then
        (owned id fks).map fun fk => (id, generator.alterStatement fk)
      else [] := by
  rw [Generator.foreignKeyStatements]
  split_ifs with mode
  · induction fks with
    | nil => rfl
    | cons fk rest hypothesis =>
      have later := hypothesis fun other member => ends other (List.mem_cons_of_mem fk member)
      have found := endpoints_spec (ends fk List.mem_cons_self)
      obtain ⟨item, here, item_id⟩ := hasId_spec (byId_spec found).2.1
      rw [List.filterMap_cons, owned_cons, here]
      simp only [item_id]
      by_cases mine : fk.relation.fromTable = id
      · rw [if_pos ((scope _).mpr (Or.inl mine)), if_pos mine, List.map_cons]
        simp only
        rw [List.filter_cons_of_pos (by simpa using mine), later, mine]
      · rw [if_neg mine]
        by_cases in_scope : generator.inScope fk.relation.fromTable = true
        · rw [if_pos in_scope]
          simp only
          rw [List.filter_cons_of_neg (by simpa using mine), later]
        · rw [if_neg in_scope]
          exact later
  · rfl

variable (lowercase engine body id) in
/-- In its preview, all that is written belongs to the table. -/
theorem preview_part (fks : List Fk) :
    ((preview lowercase engine body id).tableStatements fks).filter (·.1 = id) =
        (preview lowercase engine body id).tableStatements fks ∧
      ((preview lowercase engine body id).foreignKeyStatements fks).filter (·.1 = id) =
        (preview lowercase engine body id).foreignKeyStatements fks := by
  have scope : ∀ other, (preview lowercase engine body id).inScope other = true → other = id := by
    intro other in_scope
    exact (beq_iff_eq.mp in_scope).symm
  constructor
  · apply List.filter_eq_self.mpr
    intro statement member
    obtain ⟨index, _, made⟩ := List.mem_filterMap.mp member
    split at made
    · split_ifs at made with in_scope
      cases made
      exact decide_eq_true (scope _ in_scope)
    · cases made
  · apply List.filter_eq_self.mpr
    intro statement member
    rw [Generator.foreignKeyStatements] at member
    split_ifs at member
    · obtain ⟨fk, _, made⟩ := List.mem_filterMap.mp member
      split at made
      · split_ifs at made with in_scope
        cases made
        exact decide_eq_true (scope _ in_scope)
      · cases made
    · cases member

/-- The statements of one table, written with the foreign keys that it owns. -/
def statementsOf (generator : Generator) (id : Text) (own : List Fk) : Script :=
  ⟨((List.range generator.usables.length).filter (generator.hasId id)).map fun index =>
      (id, generator.blockAt own index),
    if generator.dialect.fkMode = .alter then
      own.map fun fk => (id, generator.alterStatement fk)
    else []⟩

theorem planForeignKeys_nameless :
    (preview lowercase engine body id).planForeignKeys.map Fk.nameless =
      (owned id (whole lowercase engine body).planForeignKeys).map Fk.nameless :=
  plan_nameless body.relations [] []

theorem planForeignKeys_ends (generator : Generator) : ∀ fk ∈ generator.planForeignKeys,
    generator.endpoints fk.relation = some (fk.child, fk.parent) :=
  planned generator.body.relations []

/-- A preview plans the foreign keys of its table only. -/
theorem preview_owned : ∀ fk ∈ (preview lowercase engine body id).planForeignKeys,
    fk.relation.fromTable = id := by
  intro fk member
  have inside : fk.nameless ∈ (preview lowercase engine body id).planForeignKeys.map
      Fk.nameless := List.mem_map_of_mem member
  rw [planForeignKeys_nameless] at inside
  obtain ⟨other, kept, same⟩ := List.mem_map.mp inside
  have relation_eq : other.relation = fk.relation := congrArg (·.2.2) same
  rw [← relation_eq]
  exact of_decide_eq_true (List.mem_filter.mp kept).2

theorem preview_run : (preview lowercase engine body id).run =
    statementsOf (whole lowercase engine body) id
      (preview lowercase engine body id).planForeignKeys := by
  have scope : ∀ other, (preview lowercase engine body id).inScope other = true ↔
      other = id ∨ (preview lowercase engine body id).only = none := by
    intro other
    have never : (preview lowercase engine body id).only ≠ none := Option.some_ne_none id
    rw [or_iff_left never]
    show (id == other) = true ↔ other = id
    rw [beq_iff_eq, eq_comm]
  have mine : owned id (preview lowercase engine body id).planForeignKeys =
      (preview lowercase engine body id).planForeignKeys :=
    List.filter_eq_self.mpr fun fk member => decide_eq_true (preview_owned fk member)
  obtain ⟨tables, keys⟩ :=
    preview_part lowercase engine body id (preview lowercase engine body id).planForeignKeys
  rw [Generator.run, ← tables, ← keys, tableStatements_filter _ scope (planForeignKeys_ends _),
    foreignKeyStatements_filter _ scope (planForeignKeys_ends _), mine]
  rfl

theorem whole_part : (whole lowercase engine body).run.part id =
    statementsOf (whole lowercase engine body) id
      (owned id (whole lowercase engine body).planForeignKeys) := by
  have scope : ∀ other, (whole lowercase engine body).inScope other = true ↔
      other = id ∨ (whole lowercase engine body).only = none :=
    fun other => iff_of_true rfl (Or.inr rfl)
  rw [Generator.run, Script.part]
  simp only
  rw [tableStatements_filter _ scope (planForeignKeys_ends _),
    foreignKeyStatements_filter _ scope (planForeignKeys_ends _), statementsOf]
  congr 1
  apply List.map_congr_left
  intro index member
  rw [blockAt_owned (List.mem_filter.mp member).2 (planForeignKeys_ends _)]

/-- The statements tell the names of the foreign keys in them. -/
theorem statementsOf_inj {generator : Generator} {left right : List Fk}
    (same : left.map Fk.nameless = right.map Fk.nameless)
    (ends : ∀ fk ∈ left, generator.endpoints fk.relation = some (fk.child, fk.parent))
    (mine : ∀ fk ∈ left, fk.relation.fromTable = id)
    (scripts : statementsOf generator id left = statementsOf generator id right) :
    left = right := by
  apply eq_of_nameless same
  rw [statementsOf, statementsOf, Script.mk.injEq] at scripts
  cases left with
  | nil => rw [List.map_eq_nil_iff.mp same.symm]
  | cons fk rest =>
    have found := endpoints_spec (ends fk List.mem_cons_self)
    rw [mine fk List.mem_cons_self] at found
    cases mode : generator.dialect.fkMode with
    | alter =>
      have statements := scripts.2
      rw [if_pos mode, if_pos mode] at statements
      apply alterStatements_names same
      have texts := congrArg (List.map Prod.snd) statements
      rwa [List.map_map, List.map_map] at texts
    | inline =>
      obtain ⟨small, here, _⟩ := byId_spec found
      have listed : fk.child ∈ (List.range generator.usables.length).filter
          (generator.hasId id) := List.mem_filter.mpr ⟨List.mem_range.mpr small, here⟩
      have block := List.map_inj_left.mp scripts.1 fk.child listed
      obtain ⟨item, at_child, _⟩ := hasId_spec here
      rw [Generator.blockAt, Generator.blockAt, at_child, Prod.mk.injEq] at block
      have one_child : ∀ other ∈ fk :: rest, other.child = fk.child := by
        intro other member
        have found' := endpoints_spec (ends other member)
        rw [mine other member, found] at found'
        exact (Option.some.inj found').symm
      apply tableBlock_names mode same one_child _ block.2
      intro other member
      have inside : other.nameless ∈ (fk :: rest).map Fk.nameless := by
        rw [same]
        exact List.mem_map_of_mem member
      obtain ⟨twin, twin_member, twin_same⟩ := List.mem_map.mp inside
      rw [← one_child twin twin_member]
      exact (congrArg Prod.fst twin_same).symm
    | unsupported =>
      have end_ := ends fk List.mem_cons_self
      unfold Generator.endpoints at end_
      split at end_
      · rw [if_pos mode] at end_
        cases end_
      · cases end_

end

/-- The preview of a table is what the script of the whole diagram holds of it exactly when no
constraint of another table was given, earlier, a name that the table's own leave free. -/
theorem preview_is_part_iff (lowercase : Lowercase) (engine : Option Engine) (body : DiagramBody)
    (id : Text) :
    (preview lowercase engine body id).run = (whole lowercase engine body).run.part id ↔
      (whole lowercase engine body).NamesFree id body.relations [] [] := by
  rw [preview_run, whole_part, ← plan_iff body.relations [] [] [] (by simp)]
  constructor
  · exact statementsOf_inj planForeignKeys_nameless
      (planForeignKeys_ends (preview lowercase engine body id)) preview_owned
  · intro plans
    have same : (preview lowercase engine body id).planForeignKeys =
        owned id (whole lowercase engine body).planForeignKeys := plans
    rw [same]

/-- Lower case of the letters that have one in ASCII. -/
def asciiLowercase : Lowercase where
  lower := toAsciiLowercase
  counted := by
    intro text count
    refine ⟨toAsciiLowercase text, ?_⟩
    have digits : toAsciiLowercase (decimal count) = decimal count := by
      rw [toAsciiLowercase]
      conv => rhs; rw [← List.map_id (decimal count)]
      apply List.map_congr_left
      intro c member
      have digit := F64.isDigit_of_mem_decimal count c member
      rw [F64.isDigit, Bool.and_eq_true, decide_eq_true_eq, decide_eq_true_eq] at digit
      rw [Char.toLower, dif_neg]
      · rfl
      · intro upper
        have above : 'A' ≤ c := upper.1
        exact absurd (le_trans above digit.2) (by decide)
    rw [toAsciiLowercase, List.map_append, List.map_cons]
    rw [toAsciiLowercase] at digits
    rw [digits]
    rfl

/-- A table with a key, and tables of things it owns whose keys have one name. -/
def twoOwners : DiagramBody where
  tables := [⟨"u".toList, "users".toList, [⟨"id".toList, "int".toList, true, false, false, false,
      none, none⟩], none, none⟩,
    ⟨"o".toList, "orders".toList, [⟨"owner".toList, "int".toList, false, true, false, false, none,
      none⟩], none, none⟩,
    ⟨"i".toList, "invoices".toList, [⟨"owner".toList, "int".toList, false, true, false, false, none,
      none⟩], none, none⟩]
  relations := [⟨"o".toList, "owner".toList, "u".toList, "id".toList, [], some "owner".toList, none,
      none⟩,
    ⟨"i".toList, "owner".toList, "u".toList, "id".toList, [], some "owner".toList, none, none⟩]

/-- The script names the second of these keys `owner_2`, its preview `owner`. -/
theorem second_owner_renamed :
    ¬ (preview asciiLowercase (some .postgres) twoOwners "i".toList).run =
      (whole asciiLowercase (some .postgres) twoOwners).run.part "i".toList := by
  decide +kernel

end DbFree.Diagram
