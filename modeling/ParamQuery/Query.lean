import ParamQuery.Compiled
import ParamQuery.Expr.Build

/-!
# Queries

A query selects expressions from roots, under a restriction and in an order. A root without an
alias of its own gets the first numbered alias that no root has, and counting goes on behind it.
-/

namespace ParamQuery

/-- Something that a query selects from, and the alias that paths name it by. -/
structure Root where
  entity : String
  aliasName : String
deriving DecidableEq, Repr

def Root.get (r : Root) (field : String) : Expr := .path r.aliasName field none

inductive Direction where
  | ascending
  | descending
deriving DecidableEq, Repr

def Direction.keyword : Direction → String
  | .ascending => "asc"
  | .descending => "desc"

structure Ordering where
  expr : Expr
  direction : Direction

structure Query where
  aliasStem : String
  nextAlias : Nat
  roots : List Root
  selections : List Expr
  distinct : Bool
  restriction : Option Expr
  orderings : List Ordering

namespace Query

def start (aliasStem : String) : Query := ⟨aliasStem, 0, [], [], false, none, []⟩

def aliases (q : Query) : List String := q.roots.map Root.aliasName

def addRootAs (q : Query) (entity aliasName : String) : Root × Query :=
  let root : Root := ⟨entity, aliasName⟩
  (root, { q with roots := q.roots ++ [root] })

def addRoot (q : Query) (entity : String) : Root × Query :=
  let counter := Naming.firstFree q.aliasStem q.aliases q.nextAlias
  { q with nextAlias := counter + 1 }.addRootAs entity (numbered q.aliasStem counter)

def select (q : Query) (selections : List Expr) : Query := { q with selections }

def setDistinct (q : Query) (distinct : Bool) : Query := { q with distinct }

def restrict (q : Query) (predicate : Expr) : Query := { q with restriction := some predicate }

def restrictAlso (q : Query) (predicate : Expr) : Query :=
  match q.restriction with
  | none => q.restrict predicate
  | some existing => q.restrict (existing.and predicate)

def orderBy (q : Query) (ordering : Ordering) : Query :=
  { q with orderings := q.orderings ++ [ordering] }

/-- The expressions of a query in the order of its text. -/
def exprs (q : Query) : List Expr :=
  q.selections ++ q.restriction.toList ++ q.orderings.map Ordering.expr

def register (q : Query) (r : Registry) : Registry :=
  q.exprs.foldl (fun r e => e.register r) r

def renderOrderings : List Ordering → StateM Context (List String)
  | [] => return []
  | o :: rest => do
    let text ← o.expr.render
    let texts ← renderOrderings rest
    return (text ++ " " ++ o.direction.keyword) :: texts

/-- The text of a query, given a rendering of what it selects. -/
def renderSelecting (q : Query) (selection : StateM Context String) : StateM Context String := do
  let selection ← selection
  let restriction ← Expr.renderOption " where " q.restriction
  let orderings ← renderOrderings q.orderings
  let distinct := if q.distinct then "distinct " else ""
  let roots := ", ".intercalate (q.roots.map fun r => r.entity ++ " as " ++ r.aliasName)
  let order := if orderings.isEmpty then "" else " order by " ++ ", ".intercalate orderings
  return "select " ++ distinct ++ selection ++ " from " ++ roots ++ restriction ++ order

/--
The rendering of a query.

A query has a root, and it needs no selection if it has but one, which is then selected itself.
-/
def render (q : Query) : Except QueryError (StateM Context String) :=
  match q.roots, q.selections with
  | [], _ => .error .missingRoot
  | [root], [] => .ok (q.renderSelecting (return root.aliasName))
  | roots, [] => .error (.ambiguousSelection roots.length)
  | _, selections =>
    .ok (q.renderSelecting do
      let texts ← Expr.renderAll selections
      return ", ".intercalate texts)

def compile (settings : Settings) (q : Query) : Except QueryError (Compiled × List Log.Event) :=
  q.render.map (Compiled.ofRendering settings (q.register .empty))

end Query

end ParamQuery
