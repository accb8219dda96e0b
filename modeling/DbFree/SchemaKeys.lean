import DbFree.SchemaFreshness
import DbFree.SqlText

/- What the callers of the schema cache ask for, and when the keys of two requests are the
same text. -/
namespace DbFree.SchemaCache

open SqlText (TableRef)

section Joining

variable {α : Type} {mark : α} {first rest second others : List α}

/-- One text cut at a mark in two ways: the cuts are the same, or a part with a mark of its own
stands between them. -/
theorem append_mark_eq_iff : first ++ mark :: rest = second ++ mark :: others ↔
    (first = second ∧ rest = others) ∨
      (∃ part, second = first ++ mark :: part ∧ rest = part ++ mark :: others) ∨
      ∃ part, first = second ++ mark :: part ∧ others = part ++ mark :: rest := by
  constructor
  · intro same
    cases List.append_eq_append_iff.mp same with
    | inl longer =>
      obtain ⟨between, isSecond, tail⟩ := longer
      cases between with
      | nil =>
        rw [List.append_nil] at isSecond
        exact .inl ⟨isSecond.symm, (List.cons.inj tail).2⟩
      | cons c part =>
        obtain ⟨isMark, behind⟩ := List.cons.inj tail
        exact .inr (.inl ⟨part, isMark ▸ isSecond, behind⟩)
    | inr shorter =>
      obtain ⟨between, isFirst, tail⟩ := shorter
      cases between with
      | nil =>
        rw [List.append_nil] at isFirst
        exact .inl ⟨isFirst, (List.cons.inj tail).2.symm⟩
      | cons c part =>
        obtain ⟨isMark, behind⟩ := List.cons.inj tail
        exact .inr (.inr ⟨part, isMark ▸ isFirst, behind⟩)
  · rintro (⟨rfl, rfl⟩ | ⟨part, rfl, rfl⟩ | ⟨part, rfl, rfl⟩)
    · rfl
    · rw [List.append_assoc, List.cons_append]
    · rw [List.append_assoc, List.cons_append]

end Joining

/-- What one call asks the cache for. -/
inductive Wanted where
  | catalog
  | columns (table : TableRef)
  | foreignKeys
deriving DecidableEq

/-- The table as a scope spells it; no schema is spelled like an empty one. -/
def dotted (table : TableRef) : Text := table.schema.getD [] ++ '.' :: table.name

def Wanted.scope : Wanted → Text
  | .catalog => "catalog".toList
  | .columns table => "columns:".toList ++ dotted table
  | .foreignKeys => "foreign_keys".toList

/-- A request to the cache; the namespace is the current database, empty where there is none. -/
structure Request where
  connection : ConnectionId
  «namespace» : Text
  wanted : Wanted
deriving DecidableEq

def Request.ids (request : Request) : Ids :=
  ⟨request.connection, request.namespace, request.wanted.scope⟩

/-- The name of the first table has a dot where the schema of the second one ends. -/
def Redotted (first second : TableRef) : Prop :=
  ∃ part, second.schema.getD [] = first.schema.getD [] ++ '.' :: part ∧
    first.name = part ++ '.' :: second.name

/-- Tables that differ at most in how their text is cut, or in having no schema for an empty
one. -/
def SpelledAlike (first second : TableRef) : Prop :=
  (first.schema.getD [] = second.schema.getD [] ∧ first.name = second.name) ∨
    Redotted first second ∨ Redotted second first

/-- The table of the first request holds a separator, and the namespace of the second one runs up
to it. -/
def RunsOver (first second : Request) : Prop :=
  ∃ table part, first.wanted = .columns table ∧
    second.namespace = first.namespace ++ sep :: ("columns:".toList ++ part) ∧
    dotted table = part ++ sep :: second.wanted.scope

/-- Requests that the parts of their keys do not tell apart. -/
def Collide (first second : Request) : Prop :=
  first.connection = second.connection ∧
    ((first.namespace = second.namespace ∧ ∃ table other, first.wanted = .columns table ∧
        second.wanted = .columns other ∧ SpelledAlike table other) ∨
      RunsOver first second ∨ RunsOver second first)

theorem dotted_eq_iff (first second : TableRef) :
    dotted first = dotted second ↔ SpelledAlike first second := append_mark_eq_iff

/-- Only the scope of a table's columns may hold a separator. -/
theorem scope_sep {wanted : Wanted} (holds : sep ∈ wanted.scope) :
    ∃ table, wanted = .columns table := by
  cases wanted with
  | catalog => exact absurd holds (by decide)
  | columns table => exact ⟨table, rfl⟩
  | foreignKeys => exact absurd holds (by decide)

/-- Different payloads have one scope only where two tables are spelled alike. -/
theorem scope_eq_iff {first second : Wanted} (differ : first ≠ second) :
    first.scope = second.scope ↔ ∃ table other, first = .columns table ∧
      second = .columns other ∧ SpelledAlike table other := by
  constructor
  · intro same
    have noColumns (plain : List Char) (table : TableRef)
        (apart : ("columns:".toList <+: plain) → False) : plain ≠ (Wanted.columns table).scope :=
      fun is => apart ⟨dotted table, is.symm⟩
    cases first with
    | catalog =>
      cases second with
      | catalog => exact absurd rfl differ
      | columns table => exact absurd same (noColumns _ table (by decide))
      | foreignKeys => exact absurd same (by decide)
    | columns table =>
      cases second with
      | catalog => exact absurd same.symm (noColumns _ table (by decide))
      | columns other =>
        exact ⟨table, other, rfl, rfl, (dotted_eq_iff table other).mp (List.append_cancel_left same)⟩
      | foreignKeys => exact absurd same.symm (noColumns _ table (by decide))
    | foreignKeys =>
      cases second with
      | catalog => exact absurd same (by decide)
      | columns table => exact absurd same (noColumns _ table (by decide))
      | foreignKeys => exact absurd rfl differ
  · rintro ⟨table, other, rfl, rfl, alike⟩
    show "columns:".toList ++ dotted table = "columns:".toList ++ dotted other
    rw [(dotted_eq_iff table other).mpr alike]

/-- A separator inside a scope stands in the table's text. -/
theorem scope_split {wanted : Wanted} {front rest : Text}
    (same : wanted.scope = front ++ sep :: rest) :
    ∃ table part, wanted = .columns table ∧ front = "columns:".toList ++ part ∧
      dotted table = part ++ sep :: rest := by
  obtain ⟨table, isColumns⟩ : ∃ table, wanted = .columns table := by
    apply scope_sep
    rw [same]
    exact List.mem_append_right _ List.mem_cons_self
  subst isColumns
  have joined : "columns:".toList ++ dotted table = front ++ sep :: rest := same
  cases List.append_eq_append_iff.mp joined with
  | inl longer =>
    obtain ⟨part, isFront, tail⟩ := longer
    exact ⟨table, part, rfl, isFront, tail⟩
  | inr shorter =>
    obtain ⟨between, isFront, tail⟩ := shorter
    cases between with
    | nil =>
      rw [List.append_nil] at isFront
      exact ⟨table, [], rfl, by rw [isFront, List.append_nil], tail.symm⟩
    | cons c part =>
      have inFront : sep ∈ "columns:".toList := by
        rw [isFront, (List.cons.inj tail).1]
        exact List.mem_append_right _ List.mem_cons_self
      exact absurd inFront (by decide)

theorem runsOver_iff (first second : Request) : RunsOver first second ↔
    ∃ part, second.namespace = first.namespace ++ sep :: part ∧
      first.wanted.scope = part ++ sep :: second.wanted.scope := by
  constructor
  · rintro ⟨table, part, isColumns, longer, spelled⟩
    refine ⟨_, longer, ?_⟩
    have scope : first.wanted.scope = "columns:".toList ++ dotted table := by
      rw [isColumns]
      rfl
    rw [scope, spelled, List.append_assoc]
  · rintro ⟨front, longer, same⟩
    obtain ⟨table, part, isColumns, isFront, spelled⟩ := scope_split same
    exact ⟨table, part, isColumns, isFront ▸ longer, spelled⟩

theorem key_eq_iff (first second : Ids) : first.key = second.key ↔
    first.connection = second.connection ∧
      first.namespace ++ sep :: first.scope = second.namespace ++ sep :: second.scope := by
  have parts (ids : Ids) :
      ids.key = ids.connection.text ++ sep :: (ids.namespace ++ sep :: ids.scope) := by
    simp only [Ids.key, List.append_assoc, List.cons_append, List.nil_append]
  constructor
  · intro same
    have connections := Ids.key_connection same
    rw [parts, parts, connections] at same
    exact ⟨connections, (List.cons.inj (List.append_cancel_left same)).2⟩
  · rintro ⟨connections, same⟩
    rw [parts, parts, connections, same]

/-- The keys of two requests differ exactly where the requests do not collide: they name tables of
one namespace that are spelled alike, or the namespace of one runs over a separator into the
table of the other. -/
theorem keys_differ_iff (first second : Request) (differ : first ≠ second) :
    first.ids.key ≠ second.ids.key ↔ ¬Collide first second := by
  apply not_congr
  rw [key_eq_iff]
  apply and_congr_right
  intro connections
  refine append_mark_eq_iff.trans ?_
  rw [runsOver_iff, runsOver_iff]
  refine or_congr ?_ Iff.rfl
  apply and_congr_right
  intro namespaces
  apply scope_eq_iff
  intro wanted
  apply differ
  cases first
  cases second
  cases connections
  cases namespaces
  cases wanted
  rfl

def books : ConnectionId := ⟨"books".toList, by decide⟩

/-- The catalog and the foreign keys of one database. -/
theorem catalog_apart :
    (⟨books, "shop".toList, .catalog⟩ : Request).ids.key ≠
        (⟨books, "shop".toList, .foreignKeys⟩ : Request).ids.key ↔
      ¬Collide ⟨books, "shop".toList, .catalog⟩ ⟨books, "shop".toList, .foreignKeys⟩ :=
  keys_differ_iff _ _ (by decide)

/-- The table `b.c` of the schema `a` and the table `c` of the schema `a.b` share a key. -/
theorem dots_collide : ¬∀ first second : Request, first ≠ second →
    first.ids.key ≠ second.ids.key := by
  intro apart
  exact apart
    ⟨books, "shop".toList, .columns ⟨some "a".toList, "b.c".toList⟩⟩
    ⟨books, "shop".toList, .columns ⟨some "a.b".toList, "c".toList⟩⟩ (by decide) (by decide)

end DbFree.SchemaCache
