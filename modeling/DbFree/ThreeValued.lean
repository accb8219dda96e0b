import Mathlib

/- The logic of SQL conditions: true, false or unknown, and what makes a chain of conditions
true. -/
namespace DbFree.ThreeValued

/-- True, false, or unknown where there is none. -/
abbrev Verdict := Option Bool

def negated (verdict : Verdict) : Verdict := verdict.map not

def both : Verdict → Verdict → Verdict
  | some false, _ => some false
  | _, some false => some false
  | some true, some true => some true
  | _, _ => none

def either : Verdict → Verdict → Verdict
  | some true, _ => some true
  | _, some true => some true
  | some false, some false => some false
  | _, _ => none

/-- `AND` between all conditions. -/
def all (verdicts : List Verdict) : Verdict := verdicts.foldr both (some true)

/-- `OR` between all conditions. -/
def any (verdicts : List Verdict) : Verdict := verdicts.foldr either (some false)

theorem both_eq_true_iff (first second : Verdict) :
    both first second = some true ↔ first = some true ∧ second = some true := by
  rcases first with - | - | - <;> rcases second with - | - | - <;> decide

theorem either_eq_true_iff (first second : Verdict) :
    either first second = some true ↔ first = some true ∨ second = some true := by
  rcases first with - | - | - <;> rcases second with - | - | - <;> decide

theorem all_eq_true_iff (verdicts : List Verdict) :
    all verdicts = some true ↔ ∀ verdict ∈ verdicts, verdict = some true := by
  induction verdicts with
  | nil => exact ⟨fun _ _ member => (nomatch member), fun _ => rfl⟩
  | cons verdict rest hypothesis =>
    change both verdict (all rest) = some true ↔ _
    rw [both_eq_true_iff, hypothesis, List.forall_mem_cons]

theorem any_eq_true_iff (verdicts : List Verdict) :
    any verdicts = some true ↔ some true ∈ verdicts := by
  induction verdicts with
  | nil =>
    constructor
    · intro found
      cases found
    · intro member
      cases member
  | cons verdict rest hypothesis =>
    change either verdict (any rest) = some true ↔ _
    rw [either_eq_true_iff, hypothesis, List.mem_cons, eq_comm]

end DbFree.ThreeValued
