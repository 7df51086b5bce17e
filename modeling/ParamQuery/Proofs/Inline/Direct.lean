import ParamQuery.Proofs.Template.Query

/-!
# Rendering directly

A tree is rendered directly when it is given what to write for each leaf, so that no name is made
up on the way. Writing a tree is writing its template (`Expr.written_eq`, `Query.written_eq`).
-/

namespace ParamQuery

namespace Expr

variable (write : Leaf → String)

mutual

/-- The text of an expression, given what to write for its leaves. -/
def written : Expr → String
  | .literal value type => write (.literal value type)
  | .parameter p => write (.parameter p)
  | .path source field _ => source ++ "." ++ field
  | .call function arguments _ => function ++ "(" ++ ", ".intercalate (writtenAll arguments) ++ ")"
  | .comparison operator left right =>
    left.written ++ " " ++ operator.symbol ++ " " ++ right.written
  | .junction connective predicates => junctionText connective (writtenAll predicates)
  | .not predicate => "not " ++ predicate.written
  | .nullTest negated operand => operand.written ++ (if negated then " is not null" else " is null")
  | .case operand _ _ branches default =>
    "case" ++ writtenOption " " operand ++ writtenBranches branches ++
      writtenOption " else " default ++ " end"

def writtenAll : List Expr → List String
  | [] => []
  | e :: rest => e.written :: writtenAll rest

def writtenOption (lead : String) : Option Expr → String
  | none => ""
  | some e => lead ++ e.written

def writtenBranches : List (Expr × Expr) → String
  | [] => ""
  | (condition, result) :: rest =>
    " when " ++ condition.written ++ " then " ++ result.written ++ writtenBranches rest

end

end Expr

namespace Query

def writtenOrdering (write : Leaf → String) (o : Ordering) : String :=
  o.expr.written write ++ " " ++ o.direction.keyword

def writtenSelecting (write : Leaf → String) (q : Query) (selection : String) : String :=
  let restriction := Expr.writtenOption write " where " q.restriction
  let orderings := q.orderings.map (writtenOrdering write)
  let distinct := if q.distinct then "distinct " else ""
  let order := if orderings.isEmpty then "" else " order by " ++ ", ".intercalate orderings
  "select " ++ distinct ++ selection ++ q.rootsText ++ restriction ++ order

/-- The text of a query, given what to write for its leaves, or why there is none. -/
def written (write : Leaf → String) (q : Query) : Except QueryError String :=
  match q.roots, q.selections with
  | [], _ => .error .missingRoot
  | [root], [] => .ok (q.writtenSelecting write root.aliasName)
  | roots, [] => .error (.ambiguousSelection roots.length)
  | _, selections =>
    .ok (q.writtenSelecting write (", ".intercalate (Expr.writtenAll write selections)))

end Query

namespace Template

variable (write : Leaf → String)

def written : Template → String
  | [] => ""
  | .fixed text :: rest => text ++ written rest
  | .leaf leaf :: rest => write leaf ++ written rest

theorem written_append (t u : Template) :
    written write (t ++ u) = written write t ++ written write u := by
  induction t with
  | nil => rw [List.nil_append, written, String.empty_append]
  | cons piece rest ih =>
    cases piece <;> rw [List.cons_append, written, written, ih, String.append_assoc]

theorem written_joined (separator : String) (ts : List Template) :
    written write (joined separator ts) = separator.intercalate (ts.map (written write)) := by
  unfold joined
  induction ts with
  | nil => rfl
  | cons t rest ih =>
    cases rest with
    | nil => simp [List.intercalate_singleton]
    | cons u rest =>
      rw [List.map_cons, List.map_cons, List.intercalate_cons_cons, String.intercalate_cons_cons,
        List.append_assoc, written_append, written_append, ih]
      simp [written, String.append_assoc]

theorem written_junction (connective : Connective) (ts : List Template) :
    written write (junction connective ts) =
      Expr.junctionText connective (ts.map (written write)) := by
  match ts with
  | [] => simp [junction, written, Expr.junctionText]
  | [t] => simp [junction, Expr.junctionText]
  | t :: u :: rest =>
    simp only [junction, written, written_append, written_joined, List.map_cons, Expr.junctionText,
      String.append_assoc, String.append_empty]

end Template

namespace Expr

variable (write : Leaf → String)

mutual

/-- Writing an expression is writing its template. -/
theorem written_eq : ∀ e : Expr, e.written write = Template.written write e.template
  | .literal .. => by simp only [written, template, Template.written, String.append_empty]
  | .parameter _ => by simp only [written, template, Template.written, String.append_empty]
  | .path .. => by simp only [written, template, Template.written, String.append_empty]
  | .call _ arguments _ => by
    simp only [written, writtenAll_eq arguments, template, Template.written,
      Template.written_append, Template.written_joined, String.append_assoc, String.append_empty]
  | .comparison _ left right => by
    simp only [written, written_eq left, written_eq right, template, Template.written,
      Template.written_append, String.append_assoc]
  | .junction _ predicates => by
    simp only [written, writtenAll_eq predicates, template, Template.written_junction]
  | .not predicate => by simp only [written, written_eq predicate, template, Template.written]
  | .nullTest _ operand => by
    simp only [written, written_eq operand, template, Template.written, Template.written_append,
      String.append_empty]
  | .case operand _ _ branches default => by
    simp only [written, writtenOption_eq, writtenBranches_eq, template, Template.written,
      Template.written_append, String.append_assoc, String.append_empty]

theorem writtenAll_eq : ∀ es : List Expr,
    writtenAll write es = (templateAll es).map (Template.written write)
  | [] => rfl
  | e :: rest => by
    simp only [writtenAll, templateAll, written_eq e, writtenAll_eq rest, List.map_cons]

theorem writtenOption_eq (lead : String) : ∀ e : Option Expr,
    writtenOption write lead e = Template.written write (templateOption lead e)
  | none => rfl
  | some e => by simp only [writtenOption, templateOption, written_eq e, Template.written]

theorem writtenBranches_eq : ∀ bs : List (Expr × Expr),
    writtenBranches write bs = Template.written write (templateBranches bs)
  | [] => rfl
  | (condition, result) :: rest => by
    simp only [writtenBranches, templateBranches, written_eq condition, written_eq result,
      writtenBranches_eq rest, Template.written, Template.written_append, String.append_assoc]

end

end Expr

namespace Query

variable (write : Leaf → String)

theorem map_writtenOrdering (os : List Ordering) :
    os.map (writtenOrdering write) = (templateOrderings os).map (Template.written write) := by
  induction os with
  | nil => rfl
  | cons o rest ih =>
    simp only [List.map_cons, writtenOrdering, templateOrderings, ih, o.expr.written_eq,
      Template.written_append, Template.written, String.append_assoc, String.append_empty]

theorem writtenSelecting_eq (q : Query) (t : Template) :
    q.writtenSelecting write (Template.written write t) =
      Template.written write (q.templateSelecting t) := by
  cases h : q.orderings with
  | nil =>
    simp only [writtenSelecting, templateSelecting, templateOrder, h, Expr.writtenOption_eq,
      List.map_nil, Template.written, Template.written_append, List.isEmpty_nil, if_true,
      List.append_nil, String.append_empty, String.append_assoc]
  | cons o os =>
    simp only [writtenSelecting, templateSelecting, templateOrder, h, Expr.writtenOption_eq,
      List.map_cons, map_writtenOrdering, writtenOrdering, o.expr.written_eq, templateOrderings,
      Template.written, Template.written_append, Template.written_joined, List.isEmpty_cons,
      Bool.false_eq_true, if_false, String.append_empty, String.append_assoc]

/-- Writing a query is writing its template, and fails where there is none. -/
theorem written_eq (q : Query) : q.written write = q.template.map (Template.written write) := by
  unfold template
  cases hr : q.roots with
  | nil => simp only [written, hr, templateSelection, Except.map]
  | cons root roots =>
    cases hs : q.selections with
    | nil =>
      cases roots with
      | nil =>
        simp only [written, hr, hs, templateSelection, Except.map, ← writtenSelecting_eq,
          Template.written, String.append_empty]
      | cons second rest => simp only [written, hr, hs, templateSelection, Except.map]
    | cons e es =>
      simp only [written, hr, hs, templateSelection, Except.map, ← writtenSelecting_eq,
        Template.written_joined, Expr.writtenAll_eq]

end Query

end ParamQuery
