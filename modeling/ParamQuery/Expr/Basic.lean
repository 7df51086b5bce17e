import ParamQuery.Parameter
import ParamQuery.Value.Basic

/-!
# Expressions

The tree of a query's expressions. A `case` with an operand compares it with each branch; one
without takes the first branch whose condition holds. The type of a case is the declared one, or
else the one that its results have shown so far.

Two expressions are equal if they are built alike from equal values. The types that literals, paths
and cases hold count as well, also the type that a case has taken from results it no longer has.
-/

namespace ParamQuery

inductive Comparison where
  | equal
  | notEqual
  | less
  | lessOrEqual
  | greater
  | greaterOrEqual
  | like
deriving DecidableEq, Repr

def Comparison.symbol : Comparison → String
  | .equal => "="
  | .notEqual => "<>"
  | .less => "<"
  | .lessOrEqual => "<="
  | .greater => ">"
  | .greaterOrEqual => ">="
  | .like => "like"

/-- What joins the predicates of a junction. -/
inductive Connective where
  | and
  | or
deriving DecidableEq, Repr

namespace Connective

def keyword : Connective → String
  | .and => "and"
  | .or => "or"

/-- The text of a junction without predicates: it is true for `and` and false for `or`. -/
def emptyText : Connective → String
  | .and => "1=1"
  | .or => "0=1"

end Connective

inductive Expr where
  | literal (value : Value) (type : Option ValueType)
  | parameter (parameter : Parameter)
  | path (source field : String) (type : Option ValueType)
  | call (function : String) (arguments : List Expr) (type : Option ValueType)
  | comparison (operator : Comparison) (left right : Expr)
  | junction (connective : Connective) (predicates : List Expr)
  | not (predicate : Expr)
  | nullTest (negated : Bool) (operand : Expr)
  | case (operand : Option Expr) (declared resolved : Option ValueType)
      (branches : List (Expr × Expr)) (default : Option Expr)

namespace Expr

instance : Inhabited Expr := ⟨.junction .and []⟩

def type? : Expr → Option ValueType
  | .literal _ type => type
  | .parameter p => some p.type
  | .path _ _ type => type
  | .call _ _ type => type
  | .comparison .. => some .bool
  | .junction .. => some .bool
  | .not _ => some .bool
  | .nullTest .. => some .bool
  | .case _ declared resolved _ _ => declared <|> resolved

end Expr

end ParamQuery

/-! ## Equality -/

namespace ParamQuery.Expr

mutual

def equal : Expr → Expr → Bool
  | .literal v s, .literal w t => v.equal w && s == t
  | .parameter p, .parameter q => p == q
  | .path x a s, .path y b t => x == y && a == b && s == t
  | .call f as s, .call g bs t => f == g && equalAll as bs && s == t
  | .comparison o l r, .comparison p m s => o == p && l.equal m && r.equal s
  | .junction c ps, .junction d qs => c == d && equalAll ps qs
  | .not p, .not q => p.equal q
  | .nullTest m e, .nullTest n f => m == n && e.equal f
  | .case o s u bs d, .case p t v cs e =>
    equalOption o p && s == t && u == v && equalBranches bs cs && equalOption d e
  | _, _ => false

def equalAll : List Expr → List Expr → Bool
  | [], [] => true
  | a :: as, b :: bs => a.equal b && equalAll as bs
  | _, _ => false

def equalOption : Option Expr → Option Expr → Bool
  | none, none => true
  | some a, some b => a.equal b
  | _, _ => false

def equalBranches : List (Expr × Expr) → List (Expr × Expr) → Bool
  | [], [] => true
  | (a, x) :: as, (b, y) :: bs => a.equal b && x.equal y && equalBranches as bs
  | _, _ => false

end

end ParamQuery.Expr
