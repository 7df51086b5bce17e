import ParamQuery.Proofs.Case.Steps
import ParamQuery.Proofs.Erasure
import ParamQuery.Proofs.Grouping.Stripped

/-!
# Where defaults are set

Only the last default of a case shows when the case is compiled, and it does not matter between
which branches it was set. Replaced defaults can leave their type in the nulls behind them, though,
unless the case has a declared type (`compile_eq_of_sameParts`). Both halves come from one
argument: branches and default are told by the steps alone, for every view of results that does not
see what the steps before them have shown.
-/

namespace ParamQuery

namespace CaseStep

def when? (step : CaseStep) : Option (Expr × CaseResult) :=
  match step with
  | .when condition _ | .whenExpr condition _ => some (condition, step.result)
  | .otherwise _ | .otherwiseExpr _ => none

def otherwise? (step : CaseStep) : Option CaseResult :=
  match step with
  | .when .. | .whenExpr .. => none
  | .otherwise _ | .otherwiseExpr _ => some step.result

/-- The steps add the same branches in the same order, and the last defaults are the same. -/
structure SameParts (steps steps' : List CaseStep) : Prop where
  branches : steps.filterMap when? = steps'.filterMap when?
  default : (steps.filterMap otherwise?).getLast? = (steps'.filterMap otherwise?).getLast?

end CaseStep

namespace Case

open CaseStep

/-- What is taken from steps and from what they supply can be taken from the steps alone. -/
theorem map_filterMap_supplied {α β : Type} {declared : Option ValueType}
    {pick : CaseStep × Expr → Option α} {look : α → β} {own : CaseStep → Option β}
    (agree : ∀ (step : CaseStep) (known : Option ValueType),
      (pick (step, step.typed (declared.or known))).map look = own step)
    (steps : List CaseStep) :
    ((supplied declared steps).filterMap pick).map look = steps.filterMap own := by
  induction steps using List.reverseRecOn with
  | nil => rfl
  | append_singleton steps step ih =>
    have last := agree step (firstType? steps)
    rw [supplied_concat, List.filterMap_append, List.map_append, ih, List.filterMap_append]
    congr 1
    simp only [List.filterMap_cons, List.filterMap_nil, ← last]
    cases pick (step, step.typed (declared.or (firstType? steps))) <;> rfl

section View

variable {α : Type} {view : Expr → α} {declared : Option ValueType}
  (blind : ∀ (known : Option ValueType) (r : CaseResult),
    view (r.typed (declared.or known)) = view (r.typed declared))
include blind

theorem view_typed (known : Option ValueType) (step : CaseStep) :
    view (step.typed (declared.or known)) = view (step.result.typed declared) := by
  rw [← typed_result]
  exact blind known step.result

theorem map_branch?_supplied (steps : List CaseStep) :
    ((supplied declared steps).filterMap branch?).map (Prod.map id view) =
      (steps.filterMap when?).map (Prod.map id fun r => view (r.typed declared)) := by
  rw [List.map_filterMap (f := when?)]
  refine map_filterMap_supplied (fun step known => ?_) steps
  have seen := view_typed blind known step
  cases step with
  | when condition | whenExpr condition => exact congrArg (fun v => some (condition, v)) seen
  | otherwise | otherwiseExpr => rfl

theorem map_default?_supplied (steps : List CaseStep) :
    ((supplied declared steps).filterMap default?).map view =
      (steps.filterMap otherwise?).map fun r => view (r.typed declared) := by
  rw [List.map_filterMap (f := otherwise?)]
  refine map_filterMap_supplied (fun step known => ?_) steps
  have seen := view_typed blind known step
  cases step with
  | when | whenExpr => rfl
  | otherwise | otherwiseExpr => exact congrArg some seen

variable {steps steps' : List CaseStep} (same : SameParts steps steps') (operand : Option Expr)
include same

theorem branches_view :
    (build operand declared steps).branches.map (Prod.map id view) =
      (build operand declared steps').branches.map (Prod.map id view) := by
  rw [(built operand declared steps).branches_eq, (built operand declared steps').branches_eq,
    map_branch?_supplied blind, map_branch?_supplied blind, same.branches]

theorem default_view :
    (build operand declared steps).default.map view =
      (build operand declared steps').default.map view := by
  rw [(built operand declared steps).default_eq, (built operand declared steps').default_eq,
    ← List.getLast?_map, ← List.getLast?_map, map_default?_supplied blind,
    map_default?_supplied blind, List.getLast?_map, List.getLast?_map, same.default]

end View

/-- A view of pieces that sees no more of results than their steps say sees the same template. -/
theorem template_view {f : Piece → Piece} (declared : Option ValueType)
    (blind : ∀ (known : Option ValueType) (r : CaseResult),
      (r.typed (declared.or known)).template.map f = (r.typed declared).template.map f)
    {steps steps' : List CaseStep} (same : SameParts steps steps') (operand : Option Expr) :
    (build operand declared steps).toExpr.template.map f =
      (build operand declared steps').toExpr.template.map f := by
  have branches (bs : List (Expr × Expr)) : (Expr.templateBranches bs).map f =
      (bs.map (Prod.map id fun e => e.template.map f)).flatMap fun b =>
        (Piece.fixed " when " :: (b.1.template ++ [.fixed " then "])).map f ++ b.2 := by
    induction bs with
    | nil => rfl
    | cons b rest ih => simp [Expr.templateBranches, ih]
  have default (e : Option Expr) : (Expr.templateOption " else " e).map f =
      ((e.map fun e => e.template.map f).map (f (.fixed " else ") :: ·)).getD [] := by
    cases e <;> rfl
  have sameOperand : (build operand declared steps).operand =
      (build operand declared steps').operand := by
    rw [(built operand declared steps).operand_eq, (built operand declared steps').operand_eq]
  simp only [toExpr, Expr.template, List.map_cons, List.map_append]
  rw [branches, branches, default, default, branches_view blind same operand,
    default_view blind same operand, sameOperand]

/-- What maps literals with one value to one literal does not see the types of results. -/
theorem typed_view {f : Piece → Piece}
    (blind : ∀ value type type', f (.leaf (.literal value type)) = f (.leaf (.literal value type')))
    (known known' : Option ValueType) (r : CaseResult) :
    (r.typed known).template.map f = (r.typed known').template.map f := by
  cases r with
  | value v =>
    cases v with
    | null type => exact congrArg ([·]) (blind (.null type) known known')
    | scalar s => rfl
  | expr e => rfl

/--
It does not matter where the default of a case is set, nor how many others it replaces.

Two cases with the same branches and the same last default are compiled to the same text, names,
parameters and registry, with the same values under the same names. Nothing but the types of
bindings can differ, and these are the same as well if the type of the cases is declared.
-/
theorem compile_eq_of_sameParts (settings : Settings) (operand : Option Expr)
    {steps steps' : List CaseStep} (same : SameParts steps steps') :
    (∀ declared : Option ValueType,
      let c := (build operand declared steps).toExpr.compile settings
      let d := (build operand declared steps').toExpr.compile settings
      Outline.of c = Outline.of d ∧
        c.1.bindings.map (fun b => (b.name, b.value)) =
          d.1.bindings.map fun b => (b.name, b.value)) ∧
    ∀ type : ValueType,
      let c := (build operand (some type) steps).toExpr
      let d := (build operand (some type) steps').toExpr
      c.compile settings = d.compile settings ∧ c.type? = d.type? := by
  constructor
  · intro declared c d
    have viewed {f : Piece → Piece} (blind : ∀ value type type',
        f (.leaf (.literal value type)) = f (.leaf (.literal value type'))) :=
      template_view (f := f) declared (fun _ => typed_view blind _ _) same operand
    have erased := viewed (f := Piece.erase) fun _ _ _ => rfl
    have stripped := viewed (f := Piece.stripped) fun _ _ _ => rfl
    simp only [c, d, Expr.compile_eq]
    exact ⟨Template.outline_eq_of_erased settings erased,
      (Template.alike_of_stripped_eq settings stripped).bindings⟩
  · intro type c d
    have known : c.type? = some type ∧ d.type? = some type := by
      constructor
      · exact (built operand (some type) steps).type_eq
      · exact (built operand (some type) steps').type_eq
    have template : c.template = d.template := by
      simpa using template_view (f := id) (some type) (fun _ _ => rfl) same operand
    exact ⟨by rw [Expr.compile_eq, Expr.compile_eq, template], known.1.trans known.2.symm⟩

/-- A number as default is replaced by a null, before or after a null as branch is added. -/
theorem compile_eq_of_replaced_default :
    let operand : Option Expr := some (.path "o" "status" none)
    let null : CaseResult := .value (.null .string)
    let branch : CaseStep := .when (.literal (.scalar (.string "new")) (some .string)) null
    let number : CaseStep := .otherwise (.value (.scalar (.int 1)))
    let first := [number, branch, .otherwise null]
    let second := [.otherwise null, branch]
    let compiled (declared : Option ValueType) (steps : List CaseStep) :=
      (build operand declared steps).toExpr.compile .standard
    SameParts first second ∧
      Outline.of (compiled none first) = Outline.of (compiled none second) ∧
      (compiled none first).1.bindings.map (fun b => (b.name, b.value)) =
        (compiled none second).1.bindings.map (fun b => (b.name, b.value)) ∧
      compiled (some .int) first = compiled (some .int) second := by
  intro operand null branch number first second compiled
  have same : SameParts first second := ⟨rfl, rfl⟩
  have all := compile_eq_of_sameParts .standard operand same
  exact ⟨same, (all.1 none).1, (all.1 none).2, (all.2 .int).1⟩

/-- Without a declared type, a default that is replaced shows in the types of nulls. -/
example :
    let null : CaseStep := .otherwise (.value (.null .string))
    let number : CaseStep := .otherwise (.value (.scalar (.int 1)))
    let types (steps : List CaseStep) :=
      ((build none none steps).toExpr.compile .standard).1.bindings.map Binding.type
    types [number, null] = [some .int] ∧ types [null] = [none] := by
  decide +kernel

end Case

end ParamQuery
