import ParamQuery.Proofs.Template

/-!
# Templates of expressions

Every expression has a template, and both walks over the expression are walks over its template:
rendering (`Expr.render_eq`) and the registration of explicit parameters (`Expr.register_eq`). So
what holds of all templates holds of all expressions, whatever their nodes.
-/

namespace ParamQuery

def Template.junction (connective : Connective) : List Template → Template
  | [] => [.fixed connective.emptyText]
  | [t] => t
  | ts => .fixed "(" :: (joined (" " ++ connective.keyword ++ " ") ts ++ [.fixed ")"])

namespace Expr

mutual

def template : Expr → Template
  | .literal value type => [.leaf (.literal value type)]
  | .parameter p => [.leaf (.parameter p)]
  | .path source field _ => [.fixed (source ++ "." ++ field)]
  | .call function arguments _ =>
    .fixed (function ++ "(") :: (Template.joined ", " (templateAll arguments) ++ [.fixed ")"])
  | .comparison operator left right =>
    left.template ++ .fixed (" " ++ operator.symbol ++ " ") :: right.template
  | .junction connective predicates => Template.junction connective (templateAll predicates)
  | .not predicate => .fixed "not " :: predicate.template
  | .nullTest negated operand =>
    operand.template ++ [.fixed (if negated then " is not null" else " is null")]
  | .case operand _ _ branches default =>
    .fixed "case" :: (templateOption " " operand ++ (templateBranches branches ++
      (templateOption " else " default ++ [.fixed " end"])))

def templateAll : List Expr → List Template
  | [] => []
  | e :: rest => e.template :: templateAll rest

def templateOption (lead : String) : Option Expr → Template
  | none => []
  | some e => .fixed lead :: e.template

def templateBranches : List (Expr × Expr) → Template
  | [] => []
  | (condition, result) :: rest =>
    .fixed " when " :: (condition.template ++ .fixed " then " ::
      (result.template ++ templateBranches rest))

end

def leaves (e : Expr) : List Leaf := Template.leaves e.template

/-- The explicit parameters of an expression in the order of its text, as often as they occur. -/
def parameters (e : Expr) : List Parameter := e.leaves.filterMap Leaf.parameter?

theorem flatMap_leaves_templateAll (es : List Expr) :
    (templateAll es).flatMap Template.leaves = es.flatMap leaves := by
  induction es with
  | nil => rfl
  | cons e rest ih => simp only [templateAll, List.flatMap_cons, ih, leaves]

theorem leaves_templateOption (lead : String) (e : Option Expr) :
    Template.leaves (templateOption lead e) = e.toList.flatMap leaves := by
  cases e with
  | none => rfl
  | some e => simp [templateOption, Template.leaves, leaves]

end Expr

namespace Template

theorem render_junction (connective : Connective) (ts : List Template) :
    render (junction connective ts) = do
      let texts ← ts.mapM render
      return Expr.junctionText connective texts := by
  match ts with
  | [] => simp [junction, render, Expr.junctionText]
  | [t] => simp [junction, Expr.junctionText]
  | t :: u :: rest =>
    simp only [junction, render, render_append, render_joined, List.mapM_cons, bind_assoc,
      pure_bind, Expr.junctionText, String.append_assoc, String.append_empty]

theorem map_junction {f : Piece → Piece} (fixed : ∀ text, f (.fixed text) = .fixed text)
    (connective : Connective) (ts : List Template) :
    (junction connective ts).map f = junction connective (ts.map (List.map f)) := by
  match ts with
  | [] => rw [junction, List.map_cons, fixed]; rfl
  | [t] => rfl
  | t :: u :: rest =>
    have closing : [Piece.fixed ")"].map f = [.fixed ")"] := by rw [List.map_cons, fixed]; rfl
    show f (.fixed "(") :: (joined _ (t :: u :: rest) ++ [Piece.fixed ")"]).map f = _
    rw [List.map_append, fixed, map_joined fixed, closing]
    rfl

theorem leaves_junction (connective : Connective) (ts : List Template) :
    leaves (junction connective ts) = ts.flatMap leaves := by
  match ts with
  | [] => rfl
  | [t] => simp [junction]
  | t :: u :: rest => simp [junction, leaves, leaves_joined]

end Template

namespace Expr

theorem renderLiteral_eq (value : Value) (type : Option ValueType) :
    renderLiteral value type = (Leaf.literal value type).render := rfl

theorem renderParameter_eq (p : Parameter) : renderParameter p = (Leaf.parameter p).render := by
  obtain ⟨key, type⟩ := p
  cases key <;> rfl

mutual

/-- Rendering an expression is rendering its template. -/
theorem render_eq : ∀ e : Expr, e.render = Template.render e.template
  | .literal value type => by
    simp only [render, template, Template.render_leaf, renderLiteral_eq]
  | .parameter p => by
    simp only [render, template, Template.render_leaf, renderParameter_eq]
  | .path source field _ => by simp [render, template, Template.render]
  | .call function arguments _ => by
    simp only [render, renderAll_eq arguments, template, Template.render, Template.render_append,
      Template.render_joined, bind_assoc, pure_bind, String.append_assoc, String.append_empty]
  | .comparison operator left right => by
    simp only [render, render_eq left, render_eq right, template, Template.render,
      Template.render_append, bind_assoc, pure_bind, String.append_assoc]
  | .junction connective predicates => by
    simp only [render, renderAll_eq predicates, template, Template.render_junction]
  | .not predicate => by
    simp only [render, render_eq predicate, template, Template.render]
  | .nullTest negated operand => by
    simp only [render, render_eq operand, template, Template.render, Template.render_append,
      pure_bind, String.append_empty]
  | .case operand _ _ branches default => by
    simp only [render, renderOption_eq, renderBranches_eq, template, Template.render,
      Template.render_append, bind_assoc, pure_bind, String.append_assoc, String.append_empty]

theorem renderAll_eq : ∀ es : List Expr, renderAll es = (templateAll es).mapM Template.render
  | [] => by simp [renderAll, templateAll]
  | e :: rest => by
    simp only [renderAll, templateAll, render_eq e, renderAll_eq rest, List.mapM_cons]

theorem renderOption_eq (lead : String) :
    ∀ e : Option Expr, renderOption lead e = Template.render (templateOption lead e)
  | none => by simp [renderOption, templateOption, Template.render]
  | some e => by simp only [renderOption, templateOption, render_eq e, Template.render]

theorem renderBranches_eq : ∀ bs : List (Expr × Expr),
    renderBranches bs = Template.render (templateBranches bs)
  | [] => by simp [renderBranches, templateBranches, Template.render]
  | (condition, result) :: rest => by
    simp only [renderBranches, templateBranches, render_eq condition, render_eq result,
      renderBranches_eq rest, Template.render, Template.render_append, bind_assoc, pure_bind,
      String.append_assoc]

end

mutual

/-- Registering the parameters of an expression is registering its leaves. -/
theorem register_eq : ∀ (e : Expr) (r : Registry),
    e.register r = (Template.leaves e.template).foldl Leaf.register r
  | .literal .., r => rfl
  | .parameter _, r => rfl
  | .path .., r => rfl
  | .call _ arguments _, r => by
    simp only [register, registerAll_eq arguments r, template, Template.leaves,
      Template.leaves_append, Template.leaves_joined, List.append_nil]
  | .comparison _ left right, r => by
    simp only [register, register_eq left, register_eq right, template, Template.leaves,
      Template.leaves_append, List.foldl_append]
  | .junction _ predicates, r => by
    simp only [register, registerAll_eq predicates r, template, Template.leaves_junction]
  | .not predicate, r => by
    simp only [register, register_eq predicate r, template, Template.leaves]
  | .nullTest _ operand, r => by
    simp only [register, register_eq operand r, template, Template.leaves, Template.leaves_append,
      List.append_nil]
  | .case operand _ _ branches default, r => by
    simp only [register, registerOption_eq " " operand, registerBranches_eq branches,
      registerOption_eq " else " default, template, Template.leaves, Template.leaves_append,
      List.foldl_append, List.foldl_nil]

theorem registerAll_eq : ∀ (es : List Expr) (r : Registry),
    registerAll es r = ((templateAll es).flatMap Template.leaves).foldl Leaf.register r
  | [], r => rfl
  | e :: rest, r => by
    simp only [registerAll, register_eq e, registerAll_eq rest, templateAll, List.flatMap_cons,
      List.foldl_append]

theorem registerOption_eq (lead : String) : ∀ (e : Option Expr) (r : Registry),
    registerOption e r = (Template.leaves (templateOption lead e)).foldl Leaf.register r
  | none, r => rfl
  | some e, r => by simp only [registerOption, register_eq e r, templateOption, Template.leaves]

theorem registerBranches_eq : ∀ (bs : List (Expr × Expr)) (r : Registry),
    registerBranches bs r = (Template.leaves (templateBranches bs)).foldl Leaf.register r
  | [], r => rfl
  | (condition, result) :: rest, r => by
    simp only [registerBranches, register_eq condition, register_eq result,
      registerBranches_eq rest, templateBranches, Template.leaves, Template.leaves_append,
      List.foldl_append]

end

end Expr

end ParamQuery
