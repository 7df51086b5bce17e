import ParamQuery.Proofs.Grouping.Spelling

/-!
# Expressions as they read

No brackets are written around comparisons, negations and null tests. What stands in the text is a
chain: an operand with signs before and behind it. A `not` is written before all that follows it, a
null test behind an operand, and a comparison goes on with a chain of its own. Every expression has
a chain (`Expr.chain`), in which the places where its negations, null tests and comparisons end are
no longer to be seen, and the chain has the text of the expression (`Expr.template_chain`).
-/

namespace ParamQuery

/-- A leaf of which nothing but the sign matters. -/
def Sign.leaf : Sign → Leaf
  | .literal value => .literal value none
  | .parameter key => .parameter ⟨key, .bool⟩

mutual

/-- An operand with what is written before and behind it without brackets. -/
inductive Chain where
  | not (rest : Chain)
  | operand (head : Atom) (tail : Tail)

/-- What is written behind an operand without brackets. -/
inductive Tail where
  | done
  | test (negated : Bool) (rest : Tail)
  | compare (operator : Comparison) (right : Chain)

/-- An operand whose beginning and end can be seen. -/
inductive Atom where
  | leaf (sign : Sign)
  | path (source field : String)
  | call (function : String) (arguments : List Chain)
  | empty (connective : Connective)
  | junction (connective : Connective) (first second : Chain) (rest : List Chain)
  | case (operand : Option Chain) (branches : List (Chain × Chain)) (default : Option Chain)

end

/-! ## The text of a chain -/

mutual

def Chain.template : Chain → Template
  | .not rest => .fixed "not " :: rest.template
  | .operand head tail => head.template ++ tail.template

def Tail.template : Tail → Template
  | .done => []
  | .test negated rest => .fixed (if negated then " is not null" else " is null") :: rest.template
  | .compare operator right => .fixed (" " ++ operator.symbol ++ " ") :: right.template

def Atom.template : Atom → Template
  | .leaf sign => [.leaf sign.leaf]
  | .path source field => [.fixed (source ++ "." ++ field)]
  | .call function arguments =>
    .fixed (function ++ "(") :: (Template.joined ", " (Chain.templateAll arguments) ++ [.fixed ")"])
  | .empty connective => Template.junction connective []
  | .junction connective first second rest =>
    Template.junction connective (first.template :: second.template :: Chain.templateAll rest)
  | .case operand branches default =>
    .fixed "case" :: (Chain.templateOption " " operand ++ (Chain.templateBranches branches ++
      (Chain.templateOption " else " default ++ [.fixed " end"])))

def Chain.templateAll : List Chain → List Template
  | [] => []
  | c :: rest => c.template :: Chain.templateAll rest

def Chain.templateOption (lead : String) : Option Chain → Template
  | none => []
  | some c => .fixed lead :: c.template

def Chain.templateBranches : List (Chain × Chain) → Template
  | [] => []
  | (condition, result) :: rest =>
    .fixed " when " :: (condition.template ++ .fixed " then " ::
      (result.template ++ Chain.templateBranches rest))

end

mutual

def Chain.append : Chain → Tail → Chain
  | .not rest, more => .not (rest.append more)
  | .operand head tail, more => .operand head (tail.append more)

def Tail.append : Tail → Tail → Tail
  | .done, more => more
  | .test negated rest, more => .test negated (rest.append more)
  | .compare operator right, more => .compare operator (right.append more)

end

/-- The chain of a junction: one item alone is itself. -/
def Chain.ofJunction (connective : Connective) : List Chain → Chain
  | [] => .operand (.empty connective) .done
  | [c] => c
  | c :: d :: rest => .operand (.junction connective c d rest) .done

namespace Expr

mutual

def chain : Expr → Chain
  | .literal value _ => .operand (.leaf (.literal value)) .done
  | .parameter p => .operand (.leaf (.parameter p.key)) .done
  | .path source field _ => .operand (.path source field) .done
  | .call function arguments _ => .operand (.call function (chainAll arguments)) .done
  | .comparison operator left right => left.chain.append (.compare operator right.chain)
  | .junction connective predicates => .ofJunction connective (chainAll predicates)
  | .not predicate => .not predicate.chain
  | .nullTest negated operand => operand.chain.append (.test negated .done)
  | .case operand _ _ branches default =>
    .operand (.case (chainOption operand) (chainBranches branches) (chainOption default)) .done

def chainAll : List Expr → List Chain
  | [] => []
  | e :: rest => e.chain :: chainAll rest

def chainOption : Option Expr → Option Chain
  | none => none
  | some e => some e.chain

def chainBranches : List (Expr × Expr) → List (Chain × Chain)
  | [] => []
  | (condition, result) :: rest => (condition.chain, result.chain) :: chainBranches rest

end

end Expr

mutual

theorem Chain.template_append : ∀ (c : Chain) (t : Tail),
    (c.append t).template = c.template ++ t.template
  | .not rest, t => by
    rw [Chain.append, Chain.template, Chain.template, rest.template_append t, List.cons_append]
  | .operand head tail, t => by
    rw [Chain.append, Chain.template, Chain.template, tail.template_append t, List.append_assoc]

theorem Tail.template_append : ∀ t u : Tail, (t.append u).template = t.template ++ u.template
  | .done, u => rfl
  | .test negated rest, u => by
    rw [Tail.append, Tail.template, Tail.template, rest.template_append u, List.cons_append]
  | .compare operator right, u => by
    rw [Tail.append, Tail.template, Tail.template, right.template_append u, List.cons_append]

end

mutual

theorem Chain.append_assoc : ∀ (c : Chain) (t u : Tail),
    (c.append t).append u = c.append (t.append u)
  | .not rest, t, u => by
    rw [Chain.append, Chain.append, Chain.append, rest.append_assoc t u]
  | .operand head tail, t, u => by
    rw [Chain.append, Chain.append, Chain.append, tail.append_assoc t u]

theorem Tail.append_assoc : ∀ t u v : Tail, (t.append u).append v = t.append (u.append v)
  | .done, u, v => rfl
  | .test negated rest, u, v => by
    rw [Tail.append, Tail.append, Tail.append, rest.append_assoc u v]
  | .compare operator right, u, v => by
    rw [Tail.append, Tail.append, Tail.append, right.append_assoc u v]

end

/-! ## Trees and their chains have one text -/

def Leaf.stripped (leaf : Leaf) : Leaf := leaf.sign.leaf

def Piece.stripped : Piece → Piece
  | .fixed text => .fixed text
  | .leaf part => .leaf part.stripped

/-- A template without the types of its leaves. -/
def Template.stripped (t : Template) : Template := t.map Piece.stripped

namespace Template

theorem stripped_append (t u : Template) : stripped (t ++ u) = stripped t ++ stripped u :=
  List.map_append

theorem stripped_fixed (text : String) (t : Template) :
    stripped (.fixed text :: t) = .fixed text :: stripped t := rfl

theorem stripped_joined (separator : String) (ts : List Template) :
    stripped (joined separator ts) = joined separator (ts.map stripped) :=
  map_joined (fun _ => rfl) separator ts

theorem stripped_junction (connective : Connective) (ts : List Template) :
    stripped (junction connective ts) = junction connective (ts.map stripped) :=
  map_junction (fun _ => rfl) connective ts

end Template

theorem Chain.template_ofJunction (connective : Connective) (cs : List Chain) :
    (Chain.ofJunction connective cs).template =
      Template.junction connective (Chain.templateAll cs) := by
  match cs with
  | [] => rfl
  | [c] => rfl
  | c :: d :: rest => exact List.append_nil _

namespace Expr

open Template (stripped_append stripped_fixed)

mutual

/-- The chain of an expression has the text of the expression, with the same leaves. -/
theorem template_chain : ∀ e : Expr, e.chain.template = Template.stripped e.template
  | .literal .. => rfl
  | .parameter _ => rfl
  | .path .. => rfl
  | .call function arguments _ => by
    show Atom.template _ ++ [] = _
    rw [List.append_nil, Atom.template, template, templateAll_chain arguments, stripped_fixed,
      stripped_append, Template.stripped_joined]
    rfl
  | .comparison operator left right => by
    rw [chain, Chain.template_append, Tail.template, template_chain left, template_chain right,
      template, stripped_append, stripped_fixed]
  | .junction connective predicates => by
    rw [chain, Chain.template_ofJunction, templateAll_chain predicates, template,
      Template.stripped_junction]
  | .not predicate => by
    rw [chain, Chain.template, template_chain predicate, template, stripped_fixed]
  | .nullTest negated operand => by
    rw [chain, Chain.template_append, template_chain operand, template, stripped_append]
    rfl
  | .case operand _ _ branches default => by
    show Atom.template _ ++ [] = _
    rw [List.append_nil, Atom.template, template, templateOption_chain " " operand,
      templateBranches_chain branches, templateOption_chain " else " default, stripped_fixed,
      stripped_append, stripped_append, stripped_append]
    rfl

theorem templateAll_chain : ∀ es : List Expr,
    Chain.templateAll (chainAll es) = (templateAll es).map Template.stripped
  | [] => rfl
  | e :: rest => by
    rw [chainAll, Chain.templateAll, template_chain e, templateAll_chain rest, templateAll,
      List.map_cons]

theorem templateOption_chain (lead : String) : ∀ e : Option Expr,
    Chain.templateOption lead (chainOption e) = Template.stripped (templateOption lead e)
  | none => rfl
  | some e => by
    rw [chainOption, Chain.templateOption, template_chain e, templateOption, stripped_fixed]

theorem templateBranches_chain : ∀ bs : List (Expr × Expr),
    Chain.templateBranches (chainBranches bs) = Template.stripped (templateBranches bs)
  | [] => rfl
  | (condition, result) :: rest => by
    rw [chainBranches, Chain.templateBranches, template_chain condition, template_chain result,
      templateBranches_chain rest, templateBranches, stripped_fixed, stripped_append,
      stripped_fixed, stripped_append]

end

end Expr

end ParamQuery
