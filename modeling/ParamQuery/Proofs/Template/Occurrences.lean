import ParamQuery.Proofs.Template.Query

/-!
# Occurrences from left to right

The literals and explicit parameters of a tree, listed by a walk of its own: the operand of a case
comes first, the condition of a branch before its result, the default last, and in a query the
selections come before the restriction and the orderings. What the walk lists are the leaves of the
template (`Expr.occurrences_eq`, `Query.occurrences_eq`), so its order is the order of the text.
-/

namespace ParamQuery

namespace Leaf

def literal? : Leaf → Option (Value × Option ValueType)
  | .literal value type => some (value, type)
  | .parameter _ => none

end Leaf

namespace Expr

mutual

/-- The literals and explicit parameters of an expression, from left to right. -/
def occurrences : Expr → List Leaf
  | .literal value type => [.literal value type]
  | .parameter p => [.parameter p]
  | .path .. => []
  | .call _ arguments _ => occurrencesAll arguments
  | .comparison _ left right => left.occurrences ++ right.occurrences
  | .junction _ predicates => occurrencesAll predicates
  | .not predicate => predicate.occurrences
  | .nullTest _ operand => operand.occurrences
  | .case operand _ _ branches default =>
    occurrencesOption operand ++ occurrencesBranches branches ++ occurrencesOption default

def occurrencesAll : List Expr → List Leaf
  | [] => []
  | e :: rest => e.occurrences ++ occurrencesAll rest

def occurrencesOption : Option Expr → List Leaf
  | none => []
  | some e => e.occurrences

def occurrencesBranches : List (Expr × Expr) → List Leaf
  | [] => []
  | (condition, result) :: rest =>
    condition.occurrences ++ result.occurrences ++ occurrencesBranches rest

end

mutual

/-- The walk lists the leaves of the template. -/
theorem occurrences_eq : ∀ e : Expr, e.occurrences = e.leaves
  | .literal .. => rfl
  | .parameter _ => rfl
  | .path .. => rfl
  | .call _ arguments _ => by
    simp only [occurrences, occurrencesAll_eq arguments, leaves, template, Template.leaves,
      Template.leaves_append, Template.leaves_joined, List.append_nil]
  | .comparison _ left right => by
    simp only [occurrences, occurrences_eq left, occurrences_eq right, leaves, template,
      Template.leaves, Template.leaves_append]
  | .junction _ predicates => by
    simp only [occurrences, occurrencesAll_eq predicates, leaves, template,
      Template.leaves_junction]
  | .not predicate => by
    simp only [occurrences, occurrences_eq predicate, leaves, template, Template.leaves]
  | .nullTest _ operand => by
    simp only [occurrences, occurrences_eq operand, leaves, template, Template.leaves,
      Template.leaves_append, List.append_nil]
  | .case operand _ _ branches default => by
    simp only [occurrences, occurrencesOption_eq " " operand, occurrencesBranches_eq branches,
      occurrencesOption_eq " else " default, leaves, template, Template.leaves,
      Template.leaves_append, List.append_nil, List.append_assoc]

theorem occurrencesAll_eq : ∀ es : List Expr,
    occurrencesAll es = (templateAll es).flatMap Template.leaves
  | [] => rfl
  | e :: rest => by
    simp only [occurrencesAll, occurrences_eq e, occurrencesAll_eq rest, templateAll,
      List.flatMap_cons, leaves]

theorem occurrencesOption_eq (lead : String) : ∀ e : Option Expr,
    occurrencesOption e = Template.leaves (templateOption lead e)
  | none => rfl
  | some e => by
    simp only [occurrencesOption, occurrences_eq e, templateOption, Template.leaves, leaves]

theorem occurrencesBranches_eq : ∀ bs : List (Expr × Expr),
    occurrencesBranches bs = Template.leaves (templateBranches bs)
  | [] => rfl
  | (condition, result) :: rest => by
    simp only [occurrencesBranches, occurrences_eq condition, occurrences_eq result,
      occurrencesBranches_eq rest, templateBranches, Template.leaves, Template.leaves_append,
      leaves, List.append_assoc]

end

end Expr

namespace Query

def occurrences (q : Query) : List Leaf :=
  Expr.occurrencesAll q.selections ++ Expr.occurrencesOption q.restriction ++
    Expr.occurrencesAll (q.orderings.map Ordering.expr)

theorem occurrences_eq (q : Query) : q.occurrences = q.leaves := by
  rw [occurrences, Expr.occurrencesAll_eq, Expr.occurrencesAll_eq,
    Expr.occurrencesOption_eq " where ", Expr.flatMap_leaves_templateAll,
    Expr.flatMap_leaves_templateAll, Expr.leaves_templateOption, leaves, exprs,
    List.flatMap_append, List.flatMap_append]

end Query

end ParamQuery
