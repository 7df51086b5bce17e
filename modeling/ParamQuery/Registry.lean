import ParamQuery.Expr.Basic

/-!
# Registries of explicit parameters

A registry lists explicit parameters in the order in which they were first met. A parameter is
listed once, with the type of its first occurrence.
-/

namespace ParamQuery

structure Registry where
  parameters : List Parameter
deriving DecidableEq, Repr

namespace Registry

def empty : Registry := ⟨[]⟩

/-- Whether a parameter with the same key is listed. -/
def contains (r : Registry) (p : Parameter) : Bool := r.parameters.any fun q => q.key == p.key

/-- Lists a parameter unless its key is listed already. -/
def register (r : Registry) (p : Parameter) : Registry :=
  if r.contains p then r else ⟨r.parameters ++ [p]⟩

def names (r : Registry) : List String := r.parameters.filterMap Parameter.name?

theorem contains_iff (r : Registry) (p : Parameter) :
    r.contains p = true ↔ p.key ∈ r.parameters.map Parameter.key := by
  simp only [contains, List.any_eq_true, List.mem_map, beq_iff_eq]

/-- A parameter that is registered is listed. -/
theorem contains_register (r : Registry) (p : Parameter) : (r.register p).contains p = true := by
  unfold register
  split
  next listed => exact listed
  next => simp [contains]

/-- No key is listed twice. -/
theorem nodup_register {r : Registry} (p : Parameter)
    (nodup : (r.parameters.map Parameter.key).Nodup) :
    ((r.register p).parameters.map Parameter.key).Nodup := by
  unfold register
  split
  next => exact nodup
  next missing =>
    rw [contains_iff] at missing
    simp only [List.map_append, List.map_cons, List.map_nil, List.nodup_append, List.mem_singleton]
    refine ⟨nodup, by simp, ?_⟩
    rintro key mem _ rfl same
    exact missing (same ▸ mem)

end Registry

namespace Expr

mutual

/-- Registers the parameters of an expression, in the order of its text. -/
def register : Expr → Registry → Registry
  | .literal .., r => r
  | .parameter p, r => r.register p
  | .path .., r => r
  | .call _ arguments _, r => registerAll arguments r
  | .comparison _ left right, r => right.register (left.register r)
  | .junction _ predicates, r => registerAll predicates r
  | .not predicate, r => predicate.register r
  | .nullTest _ operand, r => operand.register r
  | .case operand _ _ branches default, r =>
    registerOption default (registerBranches branches (registerOption operand r))

def registerAll : List Expr → Registry → Registry
  | [], r => r
  | e :: rest, r => registerAll rest (e.register r)

def registerOption : Option Expr → Registry → Registry
  | none, r => r
  | some e, r => e.register r

def registerBranches : List (Expr × Expr) → Registry → Registry
  | [], r => r
  | (condition, result) :: rest, r =>
    registerBranches rest (result.register (condition.register r))

end

end Expr

end ParamQuery
