import ParamQuery.Expr.Build

/-!
# Building cases

A case is built step by step from its branches and its default. The first result with a known
type gives the case its type, unless the type was declared. A null that is supplied as a result is
typed by what is known of the case's type before that step. Where a step asks for an expression, a
plain value is made one before it is supplied, and a null then has no type.
-/

namespace ParamQuery

/-- What a branch of a case yields: a plain value or an expression. -/
inductive CaseResult where
  | value (value : Value)
  | expr (expr : Expr)

/-- A result as an expression of its own. -/
def CaseResult.asExpr : CaseResult → Expr
  | .value v => .ofValue v
  | .expr e => e

/-- A result as an expression; a null is typed by the fallback. -/
def CaseResult.toExpr (fallback : Option ValueType) : CaseResult → Expr
  | .value v => .literal v (v.runtimeType? <|> fallback)
  | .expr e => e

/-- A step in the building of a case. Two of the four ask for an expression as the result. -/
inductive CaseStep where
  | when (condition : Expr) (result : CaseResult)
  | whenExpr (condition : Expr) (result : CaseResult)
  | otherwise (result : CaseResult)
  | otherwiseExpr (result : CaseResult)

def CaseStep.result : CaseStep → CaseResult
  | .when _ result | .otherwise result => result
  | .whenExpr _ result | .otherwiseExpr result => .expr result.asExpr

structure Case where
  operand : Option Expr
  declared : Option ValueType
  resolved : Option ValueType
  branches : List (Expr × Expr)
  default : Option Expr

namespace Case

def start (operand : Option Expr) (declared : Option ValueType) : Case :=
  ⟨operand, declared, none, [], none⟩

def type? (c : Case) : Option ValueType := c.declared <|> c.resolved

def add (c : Case) (step : CaseStep) : Case :=
  let result := step.result.toExpr c.type?
  let resolved := c.resolved <|> result.type?
  match step with
  | .when condition _ | .whenExpr condition _ =>
    { c with resolved, branches := c.branches ++ [(condition, result)] }
  | .otherwise _ | .otherwiseExpr _ => { c with resolved, default := some result }

def build (operand : Option Expr) (declared : Option ValueType) (steps : List CaseStep) : Case :=
  steps.foldl add (start operand declared)

def toExpr (c : Case) : Expr := .case c.operand c.declared c.resolved c.branches c.default

end Case

end ParamQuery
