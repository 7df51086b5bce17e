import Mathlib.Data.List.Induction
import ParamQuery.Expr.Case

/-!
# Cases from steps

What a case is after any steps, told without the state that building it keeps. Its type is the
declared one, or the first one that a result has shown by itself, replaced defaults included; a
plain null takes the type that is known before its step, unless the step asks for an expression
(`build_eq`). A null that is typed in this way shows a type that was known anyway, so it never
decides one (`Case.type?_add`).
-/

namespace ParamQuery

/-- The type that a result shows by itself: a plain null shows none. -/
def CaseResult.type? : CaseResult → Option ValueType
  | .value v => v.runtimeType?
  | .expr e => e.type?

/-- What a result is in a case whose type is known or not: a plain null takes this type. -/
def CaseResult.typed (known : Option ValueType) : CaseResult → Expr
  | .value (.null type) => .literal (.null type) known
  | .value (.scalar s) => .literal (.scalar s) (some s.type)
  | .expr e => e

theorem CaseResult.toExpr_eq_typed (known : Option ValueType) (r : CaseResult) :
    r.toExpr known = r.typed known := by
  cases r with
  | value v => cases v <;> rfl
  | expr e => rfl

theorem CaseResult.asExpr_eq_typed (r : CaseResult) : r.asExpr = r.typed none := by
  rw [← toExpr_eq_typed]
  cases r with
  | value v => cases v <;> rfl
  | expr e => rfl

theorem CaseResult.or_type?_typed (known : Option ValueType) (r : CaseResult) :
    known.or (r.typed known).type? = known.or r.type? := by
  cases r with
  | value v => cases v <;> cases known <;> rfl
  | expr e => rfl

namespace CaseStep

def type? : CaseStep → Option ValueType
  | .when _ r | .whenExpr _ r | .otherwise r | .otherwiseExpr r => r.type?

/-- What a step supplies in a case whose type is known or not; a plain null takes this type, unless
the step asks for an expression. -/
def typed (known : Option ValueType) : CaseStep → Expr
  | .when _ r | .otherwise r => r.typed known
  | .whenExpr _ r | .otherwiseExpr r => r.typed none

theorem typed_result (known : Option ValueType) (step : CaseStep) :
    step.result.typed known = step.typed known := by
  cases step with
  | when _ r | otherwise r => rfl
  | whenExpr _ r | otherwiseExpr r => exact r.asExpr_eq_typed

theorem or_type?_typed (known : Option ValueType) (step : CaseStep) :
    known.or (step.typed known).type? = known.or step.type? := by
  cases step with
  | when _ r | otherwise r => exact r.or_type?_typed known
  | whenExpr _ r | otherwiseExpr r => exact congrArg known.or (r.or_type?_typed none)

/-- The first type that the results of steps show, in the order in which they are supplied. -/
def firstType? (steps : List CaseStep) : Option ValueType := steps.findSome? type?

/-- Steps with the expressions that they supply. -/
def supplied (declared : Option ValueType) (steps : List CaseStep) : List (CaseStep × Expr) :=
  steps.mapIdx fun i step => (step, step.typed (declared.or (firstType? (steps.take i))))

def branch? : CaseStep × Expr → Option (Expr × Expr)
  | (.when condition _, result) | (.whenExpr condition _, result) => some (condition, result)
  | (.otherwise _, _) | (.otherwiseExpr _, _) => none

def default? : CaseStep × Expr → Option Expr
  | (.when .., _) | (.whenExpr .., _) => none
  | (.otherwise _, result) | (.otherwiseExpr _, result) => some result

theorem firstType?_concat (steps : List CaseStep) (step : CaseStep) :
    firstType? (steps ++ [step]) = (firstType? steps).or step.type? := by
  rw [firstType?, List.findSome?_append]
  congr 1
  exact List.findSome?_singleton

theorem supplied_concat (declared : Option ValueType) (steps : List CaseStep) (step : CaseStep) :
    supplied declared (steps ++ [step]) =
      supplied declared steps ++ [(step, step.typed (declared.or (firstType? steps)))] := by
  rw [supplied, List.mapIdx_concat, List.take_left]
  congr 1
  refine List.ext_getElem (by simp [supplied]) fun i first second => ?_
  have earlier : (steps ++ [step]).take i = steps.take i :=
    List.take_append_of_le_length (by simp at first; omega)
  simp [supplied, earlier]

end CaseStep

namespace Case

theorem type?_eq_or (c : Case) : c.type? = c.declared.or c.resolved := by
  unfold type?
  cases c.declared <;> rfl

theorem add_eq (c : Case) (step : CaseStep) :
    c.add step =
      { c with
        resolved := c.resolved.or (step.typed c.type?).type?
        branches := c.branches ++ (CaseStep.branch? (step, step.typed c.type?)).toList
        default := (CaseStep.default? (step, step.typed c.type?)).or c.default } := by
  have shown (type : Option ValueType) : (c.resolved <|> type) = c.resolved.or type := by
    cases c.resolved <;> rfl
  simp only [add.eq_def, CaseResult.toExpr_eq_typed, CaseStep.typed_result, shown]
  cases step with
  | when | whenExpr => rfl
  | otherwise | otherwiseExpr =>
    simp only [CaseStep.branch?, Option.toList_none, List.append_nil]
    rfl

/-- A step leaves a known type as it is; otherwise its result may show one. -/
theorem type?_add (c : Case) (step : CaseStep) :
    (c.add step).type? = c.type?.or step.type? := by
  rw [add_eq, type?_eq_or, ← CaseStep.or_type?_typed, type?_eq_or, Option.or_assoc]

theorem build_concat (operand : Option Expr) (declared : Option ValueType) (steps : List CaseStep)
    (step : CaseStep) :
    build operand declared (steps ++ [step]) = (build operand declared steps).add step := by
  simp [build]

structure Built (operand : Option Expr) (declared : Option ValueType) (steps : List CaseStep)
    (c : Case) : Prop where
  operand_eq : c.operand = operand
  declared_eq : c.declared = declared
  type_eq : c.type? = declared.or (CaseStep.firstType? steps)
  resolved_eq : c.resolved = (CaseStep.supplied declared steps).findSome? fun s => s.2.type?
  branches_eq : c.branches = (CaseStep.supplied declared steps).filterMap CaseStep.branch?
  default_eq :
    c.default = ((CaseStep.supplied declared steps).filterMap CaseStep.default?).getLast?

theorem Built.add {operand : Option Expr} {declared : Option ValueType} {steps : List CaseStep}
    {c : Case} (h : Built operand declared steps c) (step : CaseStep) :
    Built operand declared (steps ++ [step]) (c.add step) where
  operand_eq := by rw [add_eq, h.operand_eq]
  declared_eq := by rw [add_eq, h.declared_eq]
  type_eq := by rw [type?_add, h.type_eq, CaseStep.firstType?_concat, Option.or_assoc]
  resolved_eq := by
    rw [add_eq, CaseStep.supplied_concat, List.findSome?_append, List.findSome?_singleton,
      ← h.resolved_eq, ← h.type_eq]
  branches_eq := by
    rw [add_eq, CaseStep.supplied_concat, List.filterMap_append, ← h.branches_eq, ← h.type_eq]
    cases step <;> rfl
  default_eq := by
    rw [add_eq, CaseStep.supplied_concat, List.filterMap_append, List.getLast?_append,
      ← h.default_eq, ← h.type_eq]
    cases step <;> rfl

theorem built (operand : Option Expr) (declared : Option ValueType) (steps : List CaseStep) :
    Built operand declared steps (build operand declared steps) := by
  induction steps using List.reverseRecOn with
  | nil => exact ⟨rfl, rfl, type?_eq_or _, rfl, rfl, rfl⟩
  | append_singleton steps step ih =>
    rw [build_concat]
    exact ih.add step

/--
A case is determined by its steps, without the state in between.

Its type is the declared one, or else the first one that the results show, those of replaced
defaults included. Its branches are those of the steps in their order, its default is the last one,
and a null among them has the declared type, or else the first one that earlier results show. Only a
null in a step that asks for an expression has no type, as it is one before the case knows of it.
-/
theorem build_eq (operand : Option Expr) (declared : Option ValueType) (steps : List CaseStep) :
    (build operand declared steps).toExpr.type? = declared.or (CaseStep.firstType? steps) ∧
    (build operand declared steps).toExpr =
      .case operand declared
        ((CaseStep.supplied declared steps).findSome? fun s => s.2.type?)
        ((CaseStep.supplied declared steps).filterMap CaseStep.branch?)
        ((CaseStep.supplied declared steps).filterMap CaseStep.default?).getLast? := by
  have built := built operand declared steps
  refine ⟨built.type_eq, ?_⟩
  rw [toExpr, built.operand_eq, built.declared_eq, built.resolved_eq, built.branches_eq,
    built.default_eq]

/-- A replaced default types the nulls behind it, but not in a case of a declared type. -/
theorem build_eq_of_replaced_default :
    let operand : Expr := .path "p" "b" none
    let condition : Expr := .nullTest false operand
    let null : CaseResult := .value (.null .string)
    let number : CaseStep := .otherwise (.value (.scalar (.int 1)))
    let searched : List CaseStep := [.when condition null, number, .whenExpr condition null,
      .when condition null, .otherwiseExpr (.expr condition), .otherwise null]
    let simple : List CaseStep := [.when condition null, number,
      .when condition (.expr (.literal (.scalar (.bool true)) (some .bool)))]
    (build none none searched).toExpr.type? = some .int ∧
      (build none none searched).toExpr = .case none none (some .int)
        [(condition, .literal (.null .string) none),
          (condition, .literal (.null .string) none),
          (condition, .literal (.null .string) (some .int))]
        (some (.literal (.null .string) (some .int))) ∧
      (build (some operand) (some .bigint) simple).toExpr.type? = some .bigint ∧
      (build (some operand) (some .bigint) simple).toExpr =
        .case (some operand) (some .bigint) (some .bigint)
          [(condition, .literal (.null .string) (some .bigint)),
            (condition, .literal (.scalar (.bool true)) (some .bool))]
          (some (.literal (.scalar (.int 1)) (some .int))) := by
  intro operand condition null number searched simple
  have first := build_eq none none searched
  have second := build_eq (some operand) (some .bigint) simple
  exact ⟨first.1.trans rfl, first.2.trans rfl, second.1.trans rfl, second.2.trans rfl⟩

/-- A null in a step that asks for an expression does not even take a declared type. -/
theorem untyped_null_of_whenExpr :
    let condition : Expr := .nullTest false (.path "p" "a" none)
    let branches := (build none (some .int) [.whenExpr condition (.value (.null .int))]).branches
    branches = [(condition, .literal (.null .int) none)] ∧
      branches ≠ [(condition, .literal (.null .int) (some .int))] := by
  intro condition branches
  have untyped : branches = [(condition, .literal (.null .int) none)] := rfl
  refine ⟨untyped, ?_⟩
  simp [untyped]

end Case

end ParamQuery
