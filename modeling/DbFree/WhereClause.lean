import DbFree.LikeOperands
import DbFree.ResultView
import DbFree.ThreeValued

/- The WHERE clause of a table browser's filters (integrations/sql.rs), the conditions it spells,
and when they are true of a row. -/
namespace DbFree.SqlText

open Texts ThreeValued LikePatterns

/-- The type a column is cast to before LIKE. -/
def textType : Family → Text
  | .mysql => "CHAR".toList
  | .mssql => "NVARCHAR(MAX)".toList
  | .oracle => "VARCHAR2(4000)".toList
  | .clickhouse => "String".toList
  | .bigquery | .snowflake | .duckdb | .druid => "STRING".toList
  | _ => "TEXT".toList

def likeWord : Family → Text
  | .postgres | .duckdb | .snowflake | .cassandra | .clickhouse => "ILIKE".toList
  | _ => "LIKE".toList

/-- The items of an IN filter that are not blank. -/
def inItems (value : Text) : List Text := ((value.splitOn ',').map trim).filter (· ≠ [])

def predicate (engine : Engine) (rule : FilterRule) : Text :=
  let col := quoteIdentFor engine rule.column
  let textCol := "CAST(".toList ++ col ++ " AS ".toList ++ textType engine.family ++ ")".toList
  let like := likeWord engine.family
  let value := trim rule.value
  match rule.op with
  | .eq => col ++ " = ".toList ++ quoteLiteralFor engine value
  | .ne => col ++ " <> ".toList ++ quoteLiteralFor engine value
  | .gt => col ++ " > ".toList ++ quoteLiteralFor engine value
  | .gte => col ++ " >= ".toList ++ quoteLiteralFor engine value
  | .lt => col ++ " < ".toList ++ quoteLiteralFor engine value
  | .lte => col ++ " <= ".toList ++ quoteLiteralFor engine value
  | .contains => textCol ++ [' '] ++ like ++ [' '] ++ likeOperand engine value ['%'] ['%']
  | .notContains =>
    "(".toList ++ col ++ " IS NULL OR ".toList ++ textCol ++ " NOT ".toList ++ like ++ [' '] ++
      likeOperand engine value ['%'] ['%'] ++ ")".toList
  | .startsWith => textCol ++ [' '] ++ like ++ [' '] ++ likeOperand engine value [] ['%']
  | .endsWith => textCol ++ [' '] ++ like ++ [' '] ++ likeOperand engine value ['%'] []
  | .isIn =>
    let items := (inItems value).map (quoteLiteralFor engine)
    if items = [] then "FALSE".toList
    else col ++ " IN (".toList ++ join ", ".toList items ++ ")".toList
  | .isNull => col ++ " IS NULL".toList
  | .isNotNull => col ++ " IS NOT NULL".toList

def whereClause (engine : Engine) (filters : List FilterRule) (mode : FilterMode) : Text :=
  if filters = [] then []
  else
    let parts := filters.map (predicate engine)
    if mode = .any ∧ 1 < parts.length then
      " WHERE (".toList ++ join " OR ".toList parts ++ ")".toList
    else " WHERE ".toList ++ join " AND ".toList parts

/-- A comparison of a column with a literal. -/
inductive Comparison where
  | eq | ne | gt | gte | lt | lte
deriving DecidableEq

def Comparison.sign : Comparison → Text
  | .eq => " = ".toList
  | .ne => " <> ".toList
  | .gt => " > ".toList
  | .gte => " >= ".toList
  | .lt => " < ".toList
  | .lte => " <= ".toList

def Comparison.holds : Comparison → Ordering → Bool
  | .eq, order => order == .eq
  | .ne, order => order != .eq
  | .gt, order => order == .gt
  | .gte, order => order != .lt
  | .lt, order => order == .lt
  | .lte, order => order != .gt

/-- The conditions a clause is made of, with literals and operands as they are spelled. -/
inductive Condition where
  | compares (column : Text) (comparison : Comparison) (literal : Text)
  | likes (column operand : Text)
  | nullOrUnlike (column operand : Text)
  | isIn (column : Text) (literals : List Text)
  | never
  | isNull (column : Text)
  | isNotNull (column : Text)

namespace Condition

def render (engine : Engine) : Condition → Text
  | compares column comparison literal =>
    quoteIdentFor engine column ++ comparison.sign ++ literal
  | likes column operand =>
    "CAST(".toList ++ quoteIdentFor engine column ++ " AS ".toList ++ textType engine.family ++
      ")".toList ++ [' '] ++ likeWord engine.family ++ [' '] ++ operand
  | nullOrUnlike column operand =>
    "(".toList ++ quoteIdentFor engine column ++ " IS NULL OR ".toList ++
      ("CAST(".toList ++ quoteIdentFor engine column ++ " AS ".toList ++ textType engine.family ++
        ")".toList) ++ " NOT ".toList ++ likeWord engine.family ++ [' '] ++ operand ++ ")".toList
  | isIn column literals =>
    quoteIdentFor engine column ++ " IN (".toList ++ join ", ".toList literals ++ ")".toList
  | never => "FALSE".toList
  | isNull column => quoteIdentFor engine column ++ " IS NULL".toList
  | isNotNull column => quoteIdentFor engine column ++ " IS NOT NULL".toList

/-- The condition of a filter rule. -/
def of (engine : Engine) (rule : FilterRule) : Condition :=
  let value := trim rule.value
  let compared := fun comparison => compares rule.column comparison (quoteLiteralFor engine value)
  match rule.op with
  | .eq => compared .eq
  | .ne => compared .ne
  | .gt => compared .gt
  | .gte => compared .gte
  | .lt => compared .lt
  | .lte => compared .lte
  | .contains => likes rule.column (likeOperand engine value ['%'] ['%'])
  | .notContains => nullOrUnlike rule.column (likeOperand engine value ['%'] ['%'])
  | .startsWith => likes rule.column (likeOperand engine value [] ['%'])
  | .endsWith => likes rule.column (likeOperand engine value ['%'] [])
  | .isIn =>
    if inItems value = [] then never
    else isIn rule.column ((inItems value).map (quoteLiteralFor engine))
  | .isNull => isNull rule.column
  | .isNotNull => isNotNull rule.column

/-- The clause spells the conditions of its rules. -/
theorem predicate_eq_render (engine : Engine) (rule : FilterRule) :
    predicate engine rule = (of engine rule).render engine := by
  obtain ⟨column, op, value⟩ := rule
  cases op with
  | isIn =>
    simp only [predicate, of, List.map_eq_nil_iff]
    split <;> rfl
  | _ => rfl

end Condition

end DbFree.SqlText
