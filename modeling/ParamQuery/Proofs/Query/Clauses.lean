import ParamQuery.Proofs.Template.Query

/-!
# The clauses of a query

A query is rendered clause by clause, a call argument by argument, and a query registers its
parameters in a walk of its own. All the same the query agrees with the call of its expressions
(`compile_eq_call`): the tables are those of the call, and the text is put together from the texts
that the arguments of the call have.
-/

namespace ParamQuery

namespace Expr

theorem renderAll_append (es fs : List Expr) (c : Context) :
    renderAll (es ++ fs) c =
      ((renderAll es c).1 ++ (renderAll fs (renderAll es c).2).1,
        (renderAll fs (renderAll es c).2).2) := by
  induction es generalizing c with
  | nil => rfl
  | cons e rest ih =>
    have head (es : List Expr) : renderAll (e :: es) c =
        ((e.render c).1 :: (renderAll es (e.render c).2).1, (renderAll es (e.render c).2).2) := rfl
    rw [List.cons_append, head, head, ih]
    rfl

theorem length_renderAll (es : List Expr) (c : Context) :
    (renderAll es c).1.length = es.length := by
  induction es generalizing c with
  | nil => rfl
  | cons e rest ih => exact congrArg (· + 1) (ih (e.render c).2)

theorem registerAll_eq_foldl (es : List Expr) (r : Registry) :
    registerAll es r = es.foldl (fun r e => e.register r) r := by
  induction es generalizing r with
  | nil => rfl
  | cons e rest ih => exact ih (e.register r)

/-- The texts of the arguments of a call when the call is compiled. -/
def argumentTexts (settings : Settings) (arguments : List Expr) : List String :=
  (renderAll arguments (Compiled.contextFor settings (registerAll arguments .empty))).1

end Expr

namespace Query

structure ClauseTexts where
  selections : List String
  restriction : Option String
  orderings : List String

/-- Deals texts out to the clauses: the selections come first, then the restriction. -/
def deal (q : Query) (texts : List String) : ClauseTexts where
  selections := texts.take q.selections.length
  restriction := if q.restriction.isSome then texts[q.selections.length]? else none
  orderings := texts.drop (q.selections.length + q.restriction.toList.length)

def directed (text : String) (o : Ordering) : String :=
  match o.direction with
  | .ascending => text ++ " asc"
  | .descending => text ++ " desc"

/-- The text of a query with these texts in its clauses. -/
def assemble (q : Query) (texts : ClauseTexts) : String :=
  let distinct := if q.distinct then "distinct " else ""
  let selected := if q.selections.isEmpty then q.aliases else texts.selections
  let restriction := texts.restriction.elim "" (" where " ++ ·)
  let items := List.zipWith directed texts.orderings q.orderings
  let order := if q.orderings.isEmpty then "" else " order by " ++ ", ".intercalate items
  "select " ++ distinct ++ ", ".intercalate selected ++ q.rootsText ++ restriction ++ order

/-- Why a query is refused, if it is: it has no root, or several and says nothing of them. -/
def refusal? (q : Query) : Option QueryError :=
  if q.roots = [] then some .missingRoot
  else if q.selections.isEmpty ∧ 2 ≤ q.roots.length then some (.ambiguousSelection q.roots.length)
  else none

theorem deal_append (q : Query) {selections restriction orderings : List String}
    (first : selections.length = q.selections.length)
    (second : restriction.length = q.restriction.toList.length) :
    q.deal (selections ++ (restriction ++ orderings)) =
      ⟨selections, restriction.head?, orderings⟩ := by
  have behind : (selections ++ (restriction ++ orderings))[selections.length]? =
      (restriction ++ orderings)[0]? := by
    rw [List.getElem?_append_right (Nat.le_refl _), Nat.sub_self]
  have third : (selections ++ (restriction ++ orderings)).drop
      (selections.length + restriction.length) = orderings := by
    rw [← List.append_assoc, ← List.length_append, List.drop_left]
  rw [deal, ← first, ← second, List.take_left, behind, third]
  congr 1
  cases h : q.restriction with
  | none =>
    rw [h] at second
    rw [List.eq_nil_of_length_eq_zero second]
    rfl
  | some e =>
    rw [h] at second
    obtain ⟨text, rfl⟩ := List.length_eq_one_iff.1 second
    rfl

theorem renderOption_eq_renderAll (lead : String) (e : Option Expr) (c : Context) :
    Expr.renderOption lead e c =
      ((Expr.renderAll e.toList c).1.head?.elim "" (lead ++ ·),
        (Expr.renderAll e.toList c).2) := by
  cases e <;> rfl

theorem append_keyword (text : String) (o : Ordering) :
    text ++ " " ++ o.direction.keyword = directed text o := by
  rw [String.append_assoc]
  obtain ⟨expr, direction⟩ := o
  cases direction <;> rfl

theorem renderOrderings_eq_renderAll (os : List Ordering) (c : Context) :
    renderOrderings os c =
      (List.zipWith directed (Expr.renderAll (os.map Ordering.expr) c).1 os,
        (Expr.renderAll (os.map Ordering.expr) c).2) := by
  induction os generalizing c with
  | nil => rfl
  | cons o rest ih =>
    have head : renderOrderings (o :: rest) c =
        (((o.expr.render c).1 ++ " " ++ o.direction.keyword) ::
            (renderOrderings rest (o.expr.render c).2).1,
          (renderOrderings rest (o.expr.render c).2).2) := rfl
    rw [head, ih, append_keyword]
    rfl

theorem isEmpty_renderOrderings (os : List Ordering) (c : Context) :
    (renderOrderings os c).1.isEmpty = os.isEmpty := by
  cases os <;> rfl

/-- Rendering a query is rendering all its expressions in a row and dealing the texts out. -/
theorem renderSelecting_eq_assemble (q : Query) (selection : StateM Context String) (c : Context)
    (selects : selection c =
      (", ".intercalate (if q.selections.isEmpty then q.aliases
          else (Expr.renderAll q.selections c).1), (Expr.renderAll q.selections c).2)) :
    q.renderSelecting selection c =
      (q.assemble (q.deal (Expr.renderAll q.exprs c).1), (Expr.renderAll q.exprs c).2) := by
  have clauses : q.exprs =
      q.selections ++ (q.restriction.toList ++ q.orderings.map Ordering.expr) :=
    List.append_assoc ..
  have unfolded : q.renderSelecting selection c =
      let restriction := Expr.renderOption " where " q.restriction (selection c).2
      let orderings := renderOrderings q.orderings restriction.2
      let distinct := if q.distinct then "distinct " else ""
      let order := if orderings.1.isEmpty then ""
        else " order by " ++ ", ".intercalate orderings.1
      ("select " ++ distinct ++ (selection c).1 ++ " from " ++
          ", ".intercalate (q.roots.map fun r => r.entity ++ " as " ++ r.aliasName) ++
          restriction.1 ++ order, orderings.2) := rfl
  rw [unfolded, selects, clauses, Expr.renderAll_append, Expr.renderAll_append,
    q.deal_append (Expr.length_renderAll _ _) (Expr.length_renderAll _ _)]
  simp only [isEmpty_renderOrderings]
  simp only [renderOption_eq_renderAll, renderOrderings_eq_renderAll, assemble, rootsText,
    String.append_assoc]

/-- A query is refused or rendered as its expressions are, one after the other. -/
theorem render_eq_assemble (q : Query) :
    match q.refusal? with
    | some error => q.render = .error error
    | none => ∃ render, q.render = .ok render ∧ ∀ c, render c =
        (q.assemble (q.deal (Expr.renderAll q.exprs c).1), (Expr.renderAll q.exprs c).2) := by
  cases roots : q.roots with
  | nil => simp [refusal?, render, roots]
  | cons root rest =>
    cases selections : q.selections with
    | nil =>
      cases rest with
      | nil =>
        have refused : q.refusal? = none := by simp [refusal?, roots]
        have rendered : q.render = .ok (q.renderSelecting (return root.aliasName)) := by
          rw [render, roots, selections]
        rw [refused]
        refine ⟨_, rendered, fun c => q.renderSelecting_eq_assemble _ c ?_⟩
        have aliases : q.aliases = [root.aliasName] := by rw [Query.aliases, roots]; rfl
        rw [selections, aliases, if_pos List.isEmpty_nil, String.intercalate_singleton]
        rfl
      | cons second rest => simp [refusal?, render, roots, selections]
    | cons e es =>
      have refused : q.refusal? = none := by simp [refusal?, roots, selections]
      have rendered : q.render = .ok (q.renderSelecting do
          let texts ← Expr.renderAll q.selections
          return ", ".intercalate texts) := by
        rw [render, roots, selections]
        cases rest <;> rfl
      rw [refused]
      refine ⟨_, rendered, fun c => q.renderSelecting_eq_assemble _ c ?_⟩
      rw [if_neg (by simp [selections])]
      rfl

end Query

/--
Compiling a query agrees with compiling the call of its expressions.

It fails exactly if there is no root, or if there are several and nothing is selected. Otherwise
its bindings, parameters and registry are those of the call, and its text has the texts of the
arguments in its clauses.
-/
theorem compile_eq_call (settings : Settings) (q : Query) (function : String)
    (type : Option ValueType) :
    let call : Expr := .call function q.exprs type
    let texts := Expr.argumentTexts settings q.exprs
    texts.length = q.exprs.length ∧
      (call.compile settings).1.text = function ++ "(" ++ ", ".intercalate texts ++ ")" ∧
      match q.refusal? with
      | some error => q.compile settings = .error error
      | none => ∃ events, q.compile settings =
          .ok ({ (call.compile settings).1 with text := q.assemble (q.deal texts) }, events) := by
  intro call texts
  refine ⟨Expr.length_renderAll _ _, rfl, ?_⟩
  have registered : q.register .empty = Expr.registerAll q.exprs .empty :=
    (Expr.registerAll_eq_foldl q.exprs .empty).symm
  have rendered := q.render_eq_assemble
  cases refused : q.refusal? with
  | some error =>
    rw [refused] at rendered
    rw [Query.compile, rendered]
    rfl
  | none =>
    rw [refused] at rendered
    obtain ⟨render, same, run⟩ := rendered
    refine ⟨(Compiled.ofRendering settings (Expr.registerAll q.exprs .empty) render).2, ?_⟩
    have outcome : (Compiled.ofRendering settings (Expr.registerAll q.exprs .empty) render).1 =
        { (call.compile settings).1 with text := q.assemble (q.deal texts) } := by
      show Compiled.mk (render _).1 (render _).2.bindings (render _).2.parameters _ _ = _
      rw [run]
      rfl
    rw [Query.compile, same, registered]
    exact congrArg Except.ok (Prod.ext outcome rfl)

/-- A query with all its clauses, ordered in both directions, and one that is refused. -/
theorem compile_eq_call_of_both_directions :
    let name : Expr := .path "u" "name" none
    let number (n : Int32) : Expr := .ofValue (.scalar (.int n))
    let q : Query := ⟨"generatedAlias", 0, [⟨"User", "u"⟩], [name, number 1], true,
      some (.comparison .equal name (number 2)), [⟨name, .ascending⟩, ⟨number 3, .descending⟩]⟩
    let call : Expr := .call "f" q.exprs none
    let two : Query := ⟨"generatedAlias", 0, [⟨"User", "u"⟩, ⟨"User", "v"⟩], [], false, none, []⟩
    (call.compile .standard).1.text = "f(u.name, :param0, u.name = :param1, u.name, :param2)" ∧
      (∃ events, q.compile .standard = .ok ({ (call.compile .standard).1 with
        text := "select distinct u.name, :param0 from User as u where u.name = :param1 order by " ++
          "u.name asc, :param2 desc" }, events)) ∧
      two.compile .standard = .error (.ambiguousSelection 2) := by
  intro name number q call two
  have texts : Expr.argumentTexts .standard q.exprs =
      ["u.name", ":param0", "u.name = :param1", "u.name", ":param2"] := by
    decide +kernel
  have clauses : q.assemble (q.deal (Expr.argumentTexts .standard q.exprs)) =
      "select distinct u.name, :param0 from User as u where u.name = :param1 order by " ++
        "u.name asc, :param2 desc" := by
    rw [texts]
    decide +kernel
  obtain ⟨-, called, events, same⟩ := compile_eq_call .standard q "f" none
  obtain ⟨-, -, refused⟩ := compile_eq_call .standard two "f" none
  rw [texts] at called
  rw [clauses] at same
  exact ⟨called.trans (by decide +kernel), ⟨events, same⟩, refused⟩

end ParamQuery
