import DbFree.QuotedTexts
import DbFree.SqlText

/- How the engines read the string literals that are written for them. -/
namespace DbFree.SqlText

open QuotedTexts

/-- Engines whose string literals read a backslash as an escape character. -/
def readsBackslash : Family → Bool
  | .mysql | .clickhouse | .bigquery | .snowflake => true
  | _ => false

/-- The string literals of an engine. A backslash keeps itself and a quote; `other` says what it
makes of another character. BigQuery knows no doubled quotes and no line breaks in quotes. -/
def stringRules (other : Char → Text) (family : Family) : Rules where
  escape :=
    if readsBackslash family then some fun c => if c = '\\' ∨ c = '\'' then [c] else other c
    else none
  doubled := decide (family ≠ .bigquery)
  barred c := decide (family = .bigquery ∧ (c = '\n' ∨ c = '\r'))

/-- A value that a literal of the engine can hold. -/
def Holdable (family : Family) (value : Text) : Prop :=
  family = .bigquery → '\n' ∉ value ∧ '\r' ∉ value

instance (family : Family) (value : Text) : Decidable (Holdable family value) :=
  inferInstanceAs (Decidable (_ → _))

/-- How one character is spelled in a literal. -/
def spelledIn (family : Family) (c : Char) : Text :=
  if readsBackslash family then if c = '\\' ∨ c = '\'' then ['\\', c] else [c]
  else if c = '\'' then ['\'', '\''] else [c]

theorem replaceChar_backslashes (raw : Text) :
    replaceChar (replaceChar raw '\\' ['\\', '\\']) '\'' ['\\', '\''] =
      raw.flatMap fun c => if c = '\\' ∨ c = '\'' then ['\\', c] else [c] := by
  rw [replaceChar, replaceChar, List.flatMap_assoc]
  congr 1
  funext c
  by_cases backslash : c = '\\'
  · subst backslash
    decide
  · by_cases quote : c = '\''
    · subst quote
      decide
    · rw [if_neg backslash, if_neg (by rintro (same | same) <;> contradiction),
        List.flatMap_singleton, if_neg quote]

theorem backslashEscapes_eq (engine : Engine) :
    backslashEscapes engine = readsBackslash engine.family := by
  rw [backslashEscapes]
  cases engine.family <;> rfl

theorem quoteLiteralFor_eq (engine : Engine) (raw : Text) :
    quoteLiteralFor engine raw = '\'' :: raw.flatMap (spelledIn engine.family) ++ ['\''] := by
  rw [quoteLiteralFor, backslashEscapes_eq]
  cases reads : readsBackslash engine.family with
  | true =>
    rw [if_pos rfl, replaceChar_backslashes]
    have same : spelledIn engine.family =
        fun c => if c = '\\' ∨ c = '\'' then ['\\', c] else [c] := by
      funext c
      rw [spelledIn, reads, if_pos rfl]
    rw [same]
  | false =>
    have same : spelledIn engine.family = fun c => if c = '\'' then ['\'', '\''] else [c] := by
      funext c
      rw [spelledIn, reads, if_neg Bool.false_ne_true]
    rw [if_neg Bool.false_ne_true, quoteLiteral, replaceChar, same]

section Reading

variable {strings : Rules} {other : Char → Text} {family : Family}

/-- The reader knows the escapes and the doubled quotes of the engine. -/
structure Reads (strings : Rules) (other : Char → Text) (family : Family) : Prop where
  escape : strings.escape = (stringRules other family).escape
  doubled : strings.doubled = (stringRules other family).doubled

theorem reads_stringRules : Reads (stringRules other family) other family := ⟨rfl, rfl⟩

theorem spells_spelledIn (reads : Reads strings other family) {c : Char}
    (allowed : strings.barred c = false) : Spells strings (spelledIn family c) [c] := by
  rw [spelledIn]
  cases backslash : readsBackslash family with
  | true =>
    have escapes : strings.escape =
        some fun c => if c = '\\' ∨ c = '\'' then [c] else other c :=
      reads.escape.trans (if_pos backslash)
    rw [if_pos rfl]
    split
    · next special =>
      have spells := spells_escaped escapes c
      rwa [if_pos special] at spells
    · next plain =>
      exact spells_plain (fun quote => plain (Or.inr quote))
        (fun same => absurd (Or.inl same) plain) allowed
  | false =>
    rw [if_neg Bool.false_ne_true]
    split
    · next quote =>
      subst quote
      apply spells_doubled
      rw [reads.doubled]
      refine decide_eq_true ?_
      rintro rfl
      cases backslash
    · next plain =>
      refine spells_plain plain (fun _ => reads.escape.trans (if_neg ?_)) allowed
      rw [backslash]
      exact Bool.false_ne_true

theorem not_barred {value : Text} (holdable : Holdable family value) {c : Char}
    (member : c ∈ value) : (stringRules other family).barred c = false := by
  refine decide_eq_false ?_
  rintro ⟨isBigquery, rfl | rfl⟩
  · exact (holdable isBigquery).1 member
  · exact (holdable isBigquery).2 member

theorem readQuoted_quoteLiteralFor {engine : Engine} (reads : Reads strings other engine.family)
    {raw rest : Text} (allowed : ∀ c ∈ raw, strings.barred c = false)
    (apart : rest.head? ≠ some '\'') :
    readQuoted strings (quoteLiteralFor engine raw ++ rest) = some (raw, rest) := by
  have spells := spells_flatMap fun c member => spells_spelledIn reads (allowed c member)
  rw [quoteLiteralFor_eq, List.append_assoc, List.singleton_append]
  exact readQuoted_spelled spells apart

/-- A literal that the engine cannot hold is not read. -/
theorem readQuoted_unholdable (other : Char → Text) {engine : Engine} {raw : Text}
    (unholdable : ¬Holdable engine.family raw) (rest : Text) :
    readQuoted (stringRules other engine.family) (quoteLiteralFor engine raw ++ rest) = none := by
  have bad : engine.family = .bigquery ∧ ∃ c ∈ raw, c = '\n' ∨ c = '\r' := by
    by_contra none
    refine unholdable fun isBigquery => ⟨fun newline => ?_, fun ret => ?_⟩
    · exact none ⟨isBigquery, '\n', newline, Or.inl rfl⟩
    · exact none ⟨isBigquery, '\r', ret, Or.inr rfl⟩
  obtain ⟨isBigquery, c, member, isBreak⟩ := bad
  rw [quoteLiteralFor_eq, List.cons_append, List.cons_append, readQuoted, List.append_assoc]
  apply readBody_barred
  · exact fun d _ allowed => spells_spelledIn reads_stringRules allowed
  · intro d barred
    have isLine : d = '\n' ∨ d = '\r' := (of_decide_eq_true barred).2
    rw [isBigquery]
    rcases isLine with rfl | rfl <;> decide
  · exact member
  · exact decide_eq_true ⟨isBigquery, isBreak⟩

end Reading

end DbFree.SqlText
