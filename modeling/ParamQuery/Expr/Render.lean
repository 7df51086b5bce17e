import ParamQuery.Context
import ParamQuery.Expr.Basic

/-!
# Rendering expressions

The text of an expression. The value of a literal does not stand in the text: the literal gets a
generated name, to which its value is bound, and a placeholder with that name stands for it. An
explicit parameter is rendered under one name wherever it occurs.
-/

namespace ParamQuery.Expr

open Context

/-- The placeholder of a literal, whose value is bound to a new name. -/
def renderLiteral (value : Value) (type : Option ValueType) : StateM Context String := do
  let name ← generateName
  let text ← placeholder name
  registerBinding ⟨name, value, type⟩
  return text

/-- The placeholder of an explicit parameter; a position stands for itself. -/
def renderParameter (p : Parameter) : StateM Context String := do
  let name ← registerParameter p
  match p.key with
  | .positional _ => return name
  | _ => placeholder name

/-- The text of a junction: nothing is put around fewer than two predicates. -/
def junctionText (connective : Connective) : List String → String
  | [] => connective.emptyText
  | [text] => text
  | texts => "(" ++ (" " ++ connective.keyword ++ " ").intercalate texts ++ ")"

mutual

/-- The text of an expression, its parts rendered from left to right. -/
def render : Expr → StateM Context String
  | .literal value type => renderLiteral value type
  | .parameter p => renderParameter p
  | .path source field _ => return source ++ "." ++ field
  | .call function arguments _ => do
    let texts ← renderAll arguments
    return function ++ "(" ++ ", ".intercalate texts ++ ")"
  | .comparison operator left right => do
    let left ← left.render
    let right ← right.render
    return left ++ " " ++ operator.symbol ++ " " ++ right
  | .junction connective predicates => do
    let texts ← renderAll predicates
    return junctionText connective texts
  | .not predicate => do
    let text ← predicate.render
    return "not " ++ text
  | .nullTest negated operand => do
    let text ← operand.render
    return text ++ (if negated then " is not null" else " is null")
  | .case operand _ _ branches default => do
    let operand ← renderOption " " operand
    let branches ← renderBranches branches
    let default ← renderOption " else " default
    return "case" ++ operand ++ branches ++ default ++ " end"

def renderAll : List Expr → StateM Context (List String)
  | [] => return []
  | e :: rest => do
    let text ← e.render
    let texts ← renderAll rest
    return text :: texts

def renderOption (lead : String) : Option Expr → StateM Context String
  | none => return ""
  | some e => do
    let text ← e.render
    return lead ++ text

def renderBranches : List (Expr × Expr) → StateM Context String
  | [] => return ""
  | (condition, result) :: rest => do
    let condition ← condition.render
    let result ← result.render
    let texts ← renderBranches rest
    return " when " ++ condition ++ " then " ++ result ++ texts

end

end ParamQuery.Expr
