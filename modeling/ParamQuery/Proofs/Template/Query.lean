import ParamQuery.Proofs.Template.Expr
import ParamQuery.Query

/-!
# Compiling templates

Compiling an expression or a query is compiling its template (`Expr.compile_eq`,
`Query.compile_eq`). A query fails to have a template exactly when it fails to compile, and the
leaves of its template are those of its selections, its restriction and its orderings, in this
order.
-/

namespace ParamQuery

def Registry.ofLeaves (leaves : List Leaf) : Registry := leaves.foldl Leaf.register .empty

def Template.compile (settings : Settings) (t : Template) : Compiled × List Log.Event :=
  Compiled.ofRendering settings (.ofLeaves (leaves t)) (render t)

/-- The outcome of compiling an expression is that of its template. -/
theorem Expr.compile_eq (settings : Settings) (e : Expr) :
    e.compile settings = Template.compile settings e.template := by
  simp only [Expr.compile, Template.compile, Registry.ofLeaves, e.register_eq, e.render_eq]

namespace Query

def templateOrderings : List Ordering → List Template
  | [] => []
  | o :: rest =>
    (o.expr.template ++ [.fixed (" " ++ o.direction.keyword)]) :: templateOrderings rest

def templateOrder : List Ordering → Template
  | [] => []
  | os => .fixed " order by " :: Template.joined ", " (templateOrderings os)

def rootsText (q : Query) : String :=
  " from " ++ ", ".intercalate (q.roots.map fun r => r.entity ++ " as " ++ r.aliasName)

def templateSelecting (q : Query) (selection : Template) : Template :=
  .fixed ("select " ++ if q.distinct then "distinct " else "") ::
    (selection ++ .fixed q.rootsText ::
      (Expr.templateOption " where " q.restriction ++ templateOrder q.orderings))

/-- The template of what a query selects: its only root if nothing else is said. -/
def templateSelection : List Root → List Expr → Except QueryError Template
  | [], _ => .error .missingRoot
  | [root], [] => .ok [.fixed root.aliasName]
  | roots, [] => .error (.ambiguousSelection roots.length)
  | _, selections => .ok (Template.joined ", " (Expr.templateAll selections))

def template (q : Query) : Except QueryError Template :=
  (templateSelection q.roots q.selections).map q.templateSelecting

def leaves (q : Query) : List Leaf := q.exprs.flatMap Expr.leaves

def parameters (q : Query) : List Parameter := q.leaves.filterMap Leaf.parameter?

theorem renderOrderings_eq (os : List Ordering) :
    renderOrderings os = (templateOrderings os).mapM Template.render := by
  induction os with
  | nil => simp [renderOrderings, templateOrderings]
  | cons o rest ih =>
    simp only [renderOrderings, templateOrderings, ih, o.expr.render_eq, List.mapM_cons,
      Template.render_append, Template.render, bind_assoc, pure_bind, String.append_empty,
      String.append_assoc]

theorem renderSelecting_eq (q : Query) (t : Template) :
    q.renderSelecting (Template.render t) = Template.render (q.templateSelecting t) := by
  cases h : q.orderings with
  | nil =>
    simp only [renderSelecting, templateSelecting, templateOrder, h, Expr.renderOption_eq,
      renderOrderings, Template.render, Template.render_append, rootsText, bind_assoc, pure_bind,
      List.isEmpty_nil, if_true, List.append_nil, String.append_empty, String.append_assoc]
  | cons o os =>
    simp only [renderSelecting, templateSelecting, templateOrder, h, Expr.renderOption_eq,
      renderOrderings_eq, Template.render, Template.render_append, Template.render_joined,
      templateOrderings, List.mapM_cons, rootsText, bind_assoc, pure_bind, List.isEmpty_cons,
      Bool.false_eq_true, if_false, String.append_assoc]

/-- A query is rendered like its template and fails where there is none. -/
theorem render_eq (q : Query) : q.render = q.template.map Template.render := by
  unfold template
  cases hr : q.roots with
  | nil => simp only [render, hr, templateSelection, Except.map]
  | cons root roots =>
    cases hs : q.selections with
    | nil =>
      cases roots with
      | nil =>
        simp only [render, hr, hs, templateSelection, Except.map, ← renderSelecting_eq,
          Template.render_fixed]
      | cons second rest => simp only [render, hr, hs, templateSelection, Except.map]
    | cons e es =>
      simp only [render, hr, hs, templateSelection, Except.map, ← renderSelecting_eq,
        Template.render_joined, Expr.renderAll_eq]

theorem leaves_templateOrder (os : List Ordering) :
    Template.leaves (templateOrder os) = os.flatMap fun o => o.expr.leaves := by
  have items : (templateOrderings os).flatMap Template.leaves =
      os.flatMap fun o => o.expr.leaves := by
    induction os with
    | nil => rfl
    | cons o rest ih =>
      simp [templateOrderings, Expr.leaves, Template.leaves, ih]
  cases os with
  | nil => rfl
  | cons o rest => simpa only [templateOrder, Template.leaves, Template.leaves_joined] using items

theorem leaves_templateSelection {roots : List Root} {selections : List Expr} {t : Template}
    (h : templateSelection roots selections = .ok t) :
    Template.leaves t = selections.flatMap Expr.leaves := by
  unfold templateSelection at h
  split at h
  · cases h
  · cases h
    rfl
  · cases h
  · cases h
    rw [Template.leaves_joined, Expr.flatMap_leaves_templateAll]

/-- The leaves of the template of a query are those of its parts, in the order of its text. -/
theorem leaves_template {q : Query} {t : Template} (h : q.template = .ok t) :
    Template.leaves t = q.leaves := by
  cases hs : templateSelection q.roots q.selections with
  | error e => simp [template, hs, Except.map] at h
  | ok selection =>
    simp only [template, hs, Except.map, Except.ok.injEq] at h
    subst h
    simp only [templateSelecting, Template.leaves, Template.leaves_append,
      leaves_templateSelection hs, leaves_templateOrder, Expr.leaves_templateOption, leaves, exprs,
      List.flatMap_append, List.flatMap_map, List.append_assoc]

theorem register_eq (q : Query) (r : Registry) :
    q.register r = q.leaves.foldl Leaf.register r := by
  unfold register leaves
  induction q.exprs generalizing r with
  | nil => rfl
  | cons e rest ih =>
    simp only [List.foldl_cons, List.flatMap_cons, List.foldl_append, ih, e.register_eq,
      Expr.leaves]

/-- The outcome of compiling a query is that of its template, or the error that there is none. -/
theorem compile_eq (settings : Settings) (q : Query) :
    q.compile settings = q.template.map (Template.compile settings) := by
  unfold compile
  rw [render_eq, register_eq]
  cases h : q.template with
  | error e => rfl
  | ok t => simp only [Except.map, Template.compile, Registry.ofLeaves, leaves_template h]

/-- A query that compiles has a template, whose outcome is that of the query. -/
theorem exists_template {settings : Settings} {q : Query} {outcome : Compiled × List Log.Event}
    (h : q.compile settings = .ok outcome) :
    ∃ t, q.template = .ok t ∧ Template.leaves t = q.leaves ∧
      outcome = Template.compile settings t := by
  rw [compile_eq] at h
  cases ht : q.template with
  | error e => simp [ht, Except.map] at h
  | ok t =>
    simp only [ht, Except.map, Except.ok.injEq] at h
    exact ⟨t, rfl, leaves_template ht, h.symm⟩

end Query

end ParamQuery
