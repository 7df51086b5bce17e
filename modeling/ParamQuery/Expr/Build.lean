import ParamQuery.Expr.Basic

/-!
# Building expressions

The expressions that the parts of a query language are written with. Joining a predicate to a
junction of the same kind extends that junction; joining it to anything else makes a new one.
-/

namespace ParamQuery.Expr

/-- A value as a literal of the type that the value shows. -/
def ofValue (value : Value) : Expr := .literal value value.runtimeType?

def nullOf (type : ValueType) : Expr := .literal (.null type) (some type)

/-- Joins a predicate on the right, into a junction on the left if that has the connective. -/
def join (connective : Connective) (left right : Expr) : Expr :=
  match left with
  | .junction c predicates =>
    if c = connective then .junction connective (predicates ++ [right])
    else .junction connective [left, right]
  | _ => .junction connective [left, right]

def and (left right : Expr) : Expr := left.join .and right

def or (left right : Expr) : Expr := left.join .or right

/-- All of the predicates, in a junction of their own. -/
def all (predicates : List Expr) : Expr := .junction .and predicates

def any (predicates : List Expr) : Expr := .junction .or predicates

def upper (e : Expr) : Expr := .call "upper" [e] (some .string)

def lower (e : Expr) : Expr := .call "lower" [e] (some .string)

def length (e : Expr) : Expr := .call "length" [e] (some .int)

/-- The absolute value of a number, of the number's type. -/
def abs (e : Expr) : Expr := .call "abs" [e] e.type?

def concat (left right : Expr) : Expr := .call "concat" [left, right] (some .string)

/-- The first argument that is not null, of the first type that an argument has. -/
def coalesce (arguments : List Expr) : Expr :=
  .call "coalesce" arguments (arguments.findSome? type?)

end ParamQuery.Expr
