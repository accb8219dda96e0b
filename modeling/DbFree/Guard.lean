import DbFree.Errors
import DbFree.StatementTokens

/- The gates a classified script passes before it runs (guard/mod.rs). -/
namespace DbFree.Guard

open Texts Destructive

/-- At most 80 characters of a statement, on one line. -/
def preview (sql : Text) : Text :=
  let flat := [' '].intercalate (splitWhitespace sql)
  if flat.length > 80 then flat.take 77 ++ "...".toList else flat

/-- A statement the classifier could not read says why it was refused. -/
def why (offender : ClassifiedStatement) : Text :=
  match offender.kind, offender.reason with
  | .write, some reason => " (".toList ++ reason.toList ++ ")".toList
  | _, _ => []

/-- One line of the confirmation the user is asked for. -/
def confirmationLine (statement : ClassifiedStatement) : Text :=
  match statement.reason with
  | some reason => preview statement.text ++ " — ".toList ++ reason.toList
  | none => preview statement.text

/-- The read-only lock and the destructive confirmation, for a classified script. -/
def scriptGate (connectionReadOnly : Bool) (statements : List ClassifiedStatement)
    (confirmDestructive : Bool) : Except AppError Unit :=
  match if connectionReadOnly then statements.find? (fun s => s.kind ≠ .read) else none with
  | some offender =>
    .error (.readOnly ("This connection is read-only. Blocked: ".toList ++
      preview offender.text ++ why offender))
  | none =>
    let destructive := (statements.filter fun s => s.kind = .destructive).map confirmationLine
    if !destructive.isEmpty && !confirmDestructive then
      .error (.destructiveConfirmationRequired
        "This script contains destructive statements.".toList destructive)
    else .ok ()

/-- The gate asks for the kinds of the statements, and for nothing else. -/
theorem scriptGate_ok_iff (readOnly : Bool) (statements : List ClassifiedStatement)
    (confirm : Bool) :
    scriptGate readOnly statements confirm = .ok () ↔
      (readOnly = true → ∀ statement ∈ statements, statement.kind = .read) ∧
        (confirm = false → ∀ statement ∈ statements, statement.kind ≠ .destructive) := by
  have offender : statements.find? (fun s => s.kind ≠ .read) = none ↔
      ∀ statement ∈ statements, statement.kind = .read := by
    simp
  have unconfirmed : (statements.filter fun s => s.kind = .destructive).map confirmationLine = [] ↔
      ∀ statement ∈ statements, statement.kind ≠ .destructive := by
    simp
  rw [← offender, ← unconfirmed]
  unfold scriptGate
  generalize (statements.filter fun s => s.kind = .destructive).map confirmationLine = destructive
  have second : (if (!destructive.isEmpty && !confirm) = true then
      Except.error (.destructiveConfirmationRequired
        "This script contains destructive statements.".toList destructive)
      else .ok () : Except AppError Unit) = .ok () ↔ (confirm = false → destructive = []) := by
    cases confirm <;> cases destructive <;> simp only [List.isEmpty_nil, List.isEmpty_cons,
      Bool.not_true, Bool.not_false, Bool.and_self, Bool.and_true, Bool.and_false, if_true,
      if_false, Bool.false_eq_true, reduceCtorEq, Bool.true_eq_false, forall_const, imp_self,
      false_implies]
  cases readOnly with
  | false => simpa only [Bool.false_eq_true, if_false, false_implies, true_and] using second
  | true =>
    rw [if_pos rfl]
    cases statements.find? (fun s => s.kind ≠ .read) with
    | some other => simp only [reduceCtorEq, forall_const, false_and]
    | none => simpa only [forall_const, true_and] using second

/-- The strongest kind in a script. -/
def scriptIntent (statements : List ClassifiedStatement) : Option StatementKind :=
  (statements.map ClassifiedStatement.kind).max?

/-- The strongest kind in a script; one without statements only reads. -/
def verdict (sql : Text) : StatementKind := (scriptIntent (classify sql)).getD .read

theorem verdict_of_single (sql : Text) (kind : StatementKind) (one : kinds sql = [kind]) :
    verdict sql = kind := by
  rw [kinds] at one
  rw [verdict, scriptIntent, one]
  rfl

theorem verdict_of_words (sql : Text) (visible : blank sql = false)
    (inside : ∀ token ∈ scanTokens sql, ¬Boundary token) :
    verdict sql = (classifyWords (topLevelWords sql)).1 :=
  verdict_of_single sql _ (kinds_single sql visible inside)

end DbFree.Guard
