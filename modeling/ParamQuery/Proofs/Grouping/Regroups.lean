import ParamQuery.Proofs.Grouping.Chain

/-!
# Grouping that does not show

Comparisons, negations and null tests that are written next to each other without brackets can be
grouped in more than one way. Four steps lead from one grouping to the other (`Regroups`). Trees are
grouped from the other's items exactly if they are written as one chain (`Expr.regroups_iff`), and
of all trees that are one chain only one is grouped to the right (`Expr.toExpr_chain`).
-/

namespace ParamQuery

namespace Expr

/-- A junction, unless it has one item, which then stands for it. -/
def unwrapped (connective : Connective) : List Expr → Expr
  | [e] => e
  | es => .junction connective es

mutual

/-- An expression without types and without junctions of one item. -/
def stripped : Expr → Expr
  | .literal value _ => .literal value none
  | .parameter p => .parameter ⟨p.key, .bool⟩
  | .path source field _ => .path source field none
  | .call function arguments _ => .call function (strippedAll arguments) none
  | .comparison operator left right => .comparison operator left.stripped right.stripped
  | .junction connective predicates => unwrapped connective (strippedAll predicates)
  | .not predicate => .not predicate.stripped
  | .nullTest negated operand => .nullTest negated operand.stripped
  | .case operand _ _ branches default =>
    .case (strippedOption operand) none none (strippedBranches branches) (strippedOption default)

def strippedAll : List Expr → List Expr
  | [] => []
  | e :: rest => e.stripped :: strippedAll rest

def strippedOption : Option Expr → Option Expr
  | none => none
  | some e => some e.stripped

def strippedBranches : List (Expr × Expr) → List (Expr × Expr)
  | [] => []
  | (condition, result) :: rest => (condition.stripped, result.stripped) :: strippedBranches rest

end

/-- Whether something that is written behind the expression could belong to a part of it. -/
def isOpen : Expr → Bool
  | .comparison .. => true
  | .not _ => true
  | _ => false

mutual

/-- Whether no comparison and no negation is compared or tested from the left. -/
def isRightGrouped : Expr → Bool
  | .literal .. => true
  | .parameter _ => true
  | .path .. => true
  | .call _ arguments _ => isRightGroupedAll arguments
  | .comparison _ left right => !left.isOpen && left.isRightGrouped && right.isRightGrouped
  | .junction _ predicates => isRightGroupedAll predicates
  | .not predicate => predicate.isRightGrouped
  | .nullTest _ operand => !operand.isOpen && operand.isRightGrouped
  | .case operand _ _ branches default =>
    isRightGroupedOption operand && isRightGroupedBranches branches &&
      isRightGroupedOption default

def isRightGroupedAll : List Expr → Bool
  | [] => true
  | e :: rest => e.isRightGrouped && isRightGroupedAll rest

def isRightGroupedOption : Option Expr → Bool
  | none => true
  | some e => e.isRightGrouped

def isRightGroupedBranches : List (Expr × Expr) → Bool
  | [] => true
  | (condition, result) :: rest =>
    condition.isRightGrouped && result.isRightGrouped && isRightGroupedBranches rest

end

end Expr

/--
Two trees differ only in how they group what is written without brackets.

A negation may end before or behind what follows its operand, a null test may concern a comparison
or the right side of it, and comparisons in a row may be grouped either way.
-/
inductive Regroups : Expr → Expr → Prop
  | not_comparison (o : Comparison) (l r : Expr) :
    Regroups (.not (.comparison o l r)) (.comparison o (.not l) r)
  | not_test (negated : Bool) (e : Expr) :
    Regroups (.not (.nullTest negated e)) (.nullTest negated (.not e))
  | test_comparison (negated : Bool) (o : Comparison) (l r : Expr) :
    Regroups (.nullTest negated (.comparison o l r)) (.comparison o l (.nullTest negated r))
  | comparisons (o p : Comparison) (a b c : Expr) :
    Regroups (.comparison p (.comparison o a b) c) (.comparison o a (.comparison p b c))
  | refl (e : Expr) : Regroups e e
  | symm {e f : Expr} (h : Regroups e f) : Regroups f e
  | trans {e f g : Expr} (h : Regroups e f) (h' : Regroups f g) : Regroups e g
  | negated {e f : Expr} (h : Regroups e f) : Regroups (.not e) (.not f)
  | tested (negated : Bool) {e f : Expr} (h : Regroups e f) :
    Regroups (.nullTest negated e) (.nullTest negated f)
  | left (o : Comparison) {e f : Expr} (h : Regroups e f) (r : Expr) :
    Regroups (.comparison o e r) (.comparison o f r)
  | right (o : Comparison) (l : Expr) {e f : Expr} (h : Regroups e f) :
    Regroups (.comparison o l e) (.comparison o l f)
  | argument (function : String) (type : Option ValueType) (as : List Expr) {e f : Expr}
      (h : Regroups e f) (bs : List Expr) :
    Regroups (.call function (as ++ e :: bs) type) (.call function (as ++ f :: bs) type)
  | item (connective : Connective) (as : List Expr) {e f : Expr} (h : Regroups e f)
      (bs : List Expr) :
    Regroups (.junction connective (as ++ e :: bs)) (.junction connective (as ++ f :: bs))
  | operand {e f : Expr} (h : Regroups e f) (s t : Option ValueType) (bs : List (Expr × Expr))
      (d : Option Expr) : Regroups (.case (some e) s t bs d) (.case (some f) s t bs d)
  | condition (o : Option Expr) (s t : Option ValueType) (as : List (Expr × Expr)) {e f : Expr}
      (h : Regroups e f) (x : Expr) (bs : List (Expr × Expr)) (d : Option Expr) :
    Regroups (.case o s t (as ++ (e, x) :: bs) d) (.case o s t (as ++ (f, x) :: bs) d)
  | result (o : Option Expr) (s t : Option ValueType) (as : List (Expr × Expr)) (x : Expr)
      {e f : Expr} (h : Regroups e f) (bs : List (Expr × Expr)) (d : Option Expr) :
    Regroups (.case o s t (as ++ (x, e) :: bs) d) (.case o s t (as ++ (x, f) :: bs) d)
  | default (o : Option Expr) (s t : Option ValueType) (bs : List (Expr × Expr)) {e f : Expr}
      (h : Regroups e f) : Regroups (.case o s t bs (some e)) (.case o s t bs (some f))

/-! ## Regrouping keeps the chain -/

namespace Expr

theorem chainAll_append (as bs : List Expr) : chainAll (as ++ bs) = chainAll as ++ chainAll bs := by
  induction as with
  | nil => rfl
  | cons a rest ih => rw [List.cons_append, chainAll, ih, chainAll, List.cons_append]

theorem chainBranches_append (as bs : List (Expr × Expr)) :
    chainBranches (as ++ bs) = chainBranches as ++ chainBranches bs := by
  induction as with
  | nil => rfl
  | cons a rest ih => rw [List.cons_append, chainBranches, ih, chainBranches, List.cons_append]

end Expr

theorem Regroups.chain_eq {e f : Expr} (h : Regroups e f) : e.chain = f.chain := by
  induction h with
  | not_comparison o l r => rfl
  | not_test negated e => rfl
  | test_comparison negated o l r => exact Chain.append_assoc ..
  | comparisons o p a b c => exact Chain.append_assoc ..
  | refl e => rfl
  | symm h ih => exact ih.symm
  | trans h h' ih ih' => exact ih.trans ih'
  | negated h ih => rw [Expr.chain, Expr.chain, ih]
  | tested negated h ih => rw [Expr.chain, Expr.chain, ih]
  | left o h r ih => rw [Expr.chain, Expr.chain, ih]
  | right o l h ih => rw [Expr.chain, Expr.chain, ih]
  | argument function type as h bs ih =>
    rw [Expr.chain, Expr.chain, Expr.chainAll_append, Expr.chainAll_append, Expr.chainAll,
      Expr.chainAll, ih]
  | item connective as h bs ih =>
    rw [Expr.chain, Expr.chain, Expr.chainAll_append, Expr.chainAll_append, Expr.chainAll,
      Expr.chainAll, ih]
  | operand h s t bs d ih => rw [Expr.chain, Expr.chain, Expr.chainOption, Expr.chainOption, ih]
  | condition o s t as h x bs d ih =>
    rw [Expr.chain, Expr.chain, Expr.chainBranches_append, Expr.chainBranches_append,
      Expr.chainBranches, Expr.chainBranches, ih]
  | result o s t as x h bs d ih =>
    rw [Expr.chain, Expr.chain, Expr.chainBranches_append, Expr.chainBranches_append,
      Expr.chainBranches, Expr.chainBranches, ih]
  | default o s t bs h ih => rw [Expr.chain, Expr.chain, Expr.chainOption, Expr.chainOption, ih]

/-! ## Trees from chains -/

def Sign.toExpr : Sign → Expr
  | .literal value => .literal value none
  | .parameter key => .parameter ⟨key, .bool⟩

mutual

/-- The tree of a chain that is grouped to the right. -/
def Chain.toExpr : Chain → Expr
  | .not rest => .not rest.toExpr
  | .operand head tail => tail.behind head.toExpr

def Tail.behind : Tail → Expr → Expr
  | .done, e => e
  | .test negated rest, e => rest.behind (.nullTest negated e)
  | .compare operator right, e => .comparison operator e right.toExpr

def Atom.toExpr : Atom → Expr
  | .leaf sign => sign.toExpr
  | .path source field => .path source field none
  | .call function arguments => .call function (Chain.toExprAll arguments) none
  | .empty connective => .junction connective []
  | .junction connective first second rest =>
    .junction connective (first.toExpr :: second.toExpr :: Chain.toExprAll rest)
  | .case operand branches default =>
    .case (Chain.toExprOption operand) none none (Chain.toExprBranches branches)
      (Chain.toExprOption default)

def Chain.toExprAll : List Chain → List Expr
  | [] => []
  | c :: rest => c.toExpr :: Chain.toExprAll rest

def Chain.toExprOption : Option Chain → Option Expr
  | none => none
  | some c => some c.toExpr

def Chain.toExprBranches : List (Chain × Chain) → List (Expr × Expr)
  | [] => []
  | (condition, result) :: rest => (condition.toExpr, result.toExpr) :: Chain.toExprBranches rest

end

theorem Tail.behind_congr : ∀ (t : Tail) {e f : Expr}, Regroups e f →
    Regroups (t.behind e) (t.behind f)
  | .done, _, _, h => h
  | .test negated rest, _, _, h => rest.behind_congr (h.tested negated)
  | .compare operator right, _, _, h => h.left operator right.toExpr

/-- A negation can be drawn over what stands behind it. -/
theorem Tail.behind_not : ∀ (t : Tail) (e : Expr), Regroups (.not (t.behind e)) (t.behind (.not e))
  | .done, _ => .refl _
  | .test negated rest, e =>
    (rest.behind_not (.nullTest negated e)).trans (rest.behind_congr (.not_test negated e))
  | .compare operator right, e => .not_comparison operator e right.toExpr

/-- What stands behind a comparison can be drawn into its right side. -/
theorem Tail.behind_comparison : ∀ (t : Tail) (o : Comparison) (l r : Expr),
    Regroups (t.behind (.comparison o l r)) (.comparison o l (t.behind r))
  | .done, _, _, _ => .refl _
  | .test negated rest, o, l, r =>
    (rest.behind_congr (.test_comparison negated o l r)).trans
      (rest.behind_comparison o l (.nullTest negated r))
  | .compare operator right, o, l, r => .comparisons o operator l r right.toExpr

mutual

theorem Chain.toExpr_append : ∀ (c : Chain) (t : Tail),
    Regroups (t.behind c.toExpr) (c.append t).toExpr
  | .not rest, t => (t.behind_not rest.toExpr).symm.trans (rest.toExpr_append t).negated
  | .operand head tail, t => tail.behind_append t head.toExpr

theorem Tail.behind_append : ∀ (t u : Tail) (e : Expr),
    Regroups (u.behind (t.behind e)) ((t.append u).behind e)
  | .done, _, _ => .refl _
  | .test negated rest, u, e => rest.behind_append u (.nullTest negated e)
  | .compare operator right, u, e =>
    (u.behind_comparison operator e right.toExpr).trans
      ((right.toExpr_append u).right operator e)

end

/-- What may be regrouped item by item may be regrouped in all items of a list. -/
theorem Regroups.all {α : Type} {R : α → α → Prop} {K : List α → Expr}
    (one : ∀ as a b bs, R a b → Regroups (K (as ++ a :: bs)) (K (as ++ b :: bs)))
    {as bs : List α} (each : List.Forall₂ R as bs) : Regroups (K as) (K bs) := by
  have behind (front : List α) : Regroups (K (front ++ as)) (K (front ++ bs)) := by
    induction each generalizing front with
    | nil => exact .refl _
    | @cons a b as bs first rest ih =>
      have later := ih (front ++ [b])
      rw [List.append_assoc, List.append_assoc] at later
      exact (one front a b as first).trans later
  exact behind []

theorem Regroups.option {K : Option Expr → Expr}
    (one : ∀ e f, Regroups e f → Regroups (K (some e)) (K (some f))) {o p : Option Expr}
    (both : Option.Rel Regroups o p) : Regroups (K o) (K p) := by
  cases both with
  | none => exact .refl _
  | some h => exact one _ _ h

theorem Regroups.unwrapped (connective : Connective) {as bs : List Expr}
    (each : List.Forall₂ Regroups as bs) :
    Regroups (Expr.unwrapped connective as) (Expr.unwrapped connective bs) := by
  cases each with
  | nil => exact .refl _
  | cons first rest =>
    cases rest with
    | nil => exact first
    | cons second rest =>
      exact .all (K := fun es => .junction connective es)
        (fun as _ _ bs h => .item connective as h bs) (.cons first (.cons second rest))

theorem Chain.toExpr_ofJunction (connective : Connective) (cs : List Chain) :
    (ofJunction connective cs).toExpr = Expr.unwrapped connective (toExprAll cs) := by
  match cs with
  | [] => rfl
  | [c] => rfl
  | c :: d :: rest => rfl

namespace Expr

mutual

/-- Every tree can be regrouped into that of its chain. -/
theorem regroups_chain : ∀ e : Expr, Regroups e.stripped e.chain.toExpr
  | .literal .. => .refl _
  | .parameter _ => .refl _
  | .path .. => .refl _
  | .call function arguments _ =>
    .all (K := fun es => .call function es none)
      (fun as _ _ bs h => .argument function none as h bs) (regroups_chainAll arguments)
  | .comparison operator left right => by
    have sides := ((regroups_chain left).left operator right.stripped).trans
      ((regroups_chain right).right operator left.chain.toExpr)
    exact sides.trans (left.chain.toExpr_append (.compare operator right.chain))
  | .junction connective predicates => by
    rw [stripped, chain, Chain.toExpr_ofJunction]
    exact Regroups.unwrapped connective (regroups_chainAll predicates)
  | .not predicate => (regroups_chain predicate).negated
  | .nullTest negated operand =>
    ((regroups_chain operand).tested negated).trans
      (operand.chain.toExpr_append (.test negated .done))
  | .case operand _ _ branches default => by
    have first := Regroups.option (K := fun o =>
        .case o none none (strippedBranches branches) (strippedOption default))
      (fun _ _ h => .operand h none none _ _) (regroups_chainOption operand)
    have middle := Regroups.all (R := fun a b => Regroups a.1 b.1 ∧ Regroups a.2 b.2)
      (K := fun bs => .case (Chain.toExprOption (chainOption operand)) none none bs
        (strippedOption default))
      (fun as a b bs h => (Regroups.condition _ none none as h.1 a.2 bs _).trans
        (.result _ none none as b.1 h.2 bs _)) (regroups_chainBranches branches)
    have last := Regroups.option (K := fun o =>
        .case (Chain.toExprOption (chainOption operand)) none none
          (Chain.toExprBranches (chainBranches branches)) o)
      (fun _ _ h => .default _ none none _ h) (regroups_chainOption default)
    exact (first.trans middle).trans last

theorem regroups_chainAll : ∀ es : List Expr,
    List.Forall₂ Regroups (strippedAll es) (Chain.toExprAll (chainAll es))
  | [] => .nil
  | e :: rest => .cons (regroups_chain e) (regroups_chainAll rest)

theorem regroups_chainOption : ∀ e : Option Expr,
    Option.Rel Regroups (strippedOption e) (Chain.toExprOption (chainOption e))
  | none => .none
  | some e => .some (regroups_chain e)

theorem regroups_chainBranches : ∀ bs : List (Expr × Expr),
    List.Forall₂ (fun a b => Regroups a.1 b.1 ∧ Regroups a.2 b.2) (strippedBranches bs)
      (Chain.toExprBranches (chainBranches bs))
  | [] => .nil
  | (condition, result) :: rest =>
    .cons ⟨regroups_chain condition, regroups_chain result⟩ (regroups_chainBranches rest)

end

mutual

/-- What is taken off a tree does not show in its chain. -/
theorem chain_stripped : ∀ e : Expr, e.stripped.chain = e.chain
  | .literal .. => rfl
  | .parameter _ => rfl
  | .path .. => rfl
  | .call _ arguments _ => by rw [stripped, chain, chainAll_stripped arguments, chain]
  | .comparison _ left right => by
    rw [stripped, chain, chain_stripped left, chain_stripped right, chain]
  | .junction connective predicates => by
    have items := chainAll_stripped predicates
    rw [stripped, chain, ← items]
    match strippedAll predicates with
    | [] => rfl
    | [e] => rfl
    | e :: f :: rest => rfl
  | .not predicate => by rw [stripped, chain, chain_stripped predicate, chain]
  | .nullTest _ operand => by rw [stripped, chain, chain_stripped operand, chain]
  | .case operand _ _ branches default => by
    rw [stripped, chain, chainOption_stripped operand, chainBranches_stripped branches,
      chainOption_stripped default, chain]

theorem chainAll_stripped : ∀ es : List Expr, chainAll (strippedAll es) = chainAll es
  | [] => rfl
  | e :: rest => by
    rw [strippedAll, chainAll, chain_stripped e, chainAll_stripped rest, chainAll]

theorem chainOption_stripped : ∀ e : Option Expr, chainOption (strippedOption e) = chainOption e
  | none => rfl
  | some e => by rw [strippedOption, chainOption, chain_stripped e, chainOption]

theorem chainBranches_stripped : ∀ bs : List (Expr × Expr),
    chainBranches (strippedBranches bs) = chainBranches bs
  | [] => rfl
  | (condition, result) :: rest => by
    rw [strippedBranches, chainBranches, chain_stripped condition, chain_stripped result,
      chainBranches_stripped rest, chainBranches]

end

/-- Trees can be regrouped into one another exactly if they are written as one chain. -/
theorem regroups_iff (e f : Expr) : Regroups e.stripped f.stripped ↔ e.chain = f.chain := by
  constructor
  · intro h
    rw [← chain_stripped e, ← chain_stripped f, h.chain_eq]
  · intro same
    have tree := regroups_chain e
    rw [same] at tree
    exact tree.trans (regroups_chain f).symm

end Expr

/-! ## Trees that are grouped to the right -/

/-- Behind a tree that is not open, things are written around all of it. -/
theorem Tail.behind_append_of_closed : ∀ (t u : Tail) {e : Expr},
    (t.behind e).isOpen = false → (t.append u).behind e = u.behind (t.behind e)
  | .done, _, _, _ => rfl
  | .test _ rest, u, _, closed => rest.behind_append_of_closed u closed
  | .compare .., _, _, closed => by cases closed

theorem Chain.toExpr_append_of_closed {c : Chain} (t : Tail) (closed : c.toExpr.isOpen = false) :
    (c.append t).toExpr = t.behind c.toExpr := by
  cases c with
  | not rest => cases closed
  | operand head tail => exact tail.behind_append_of_closed t closed

namespace Expr

theorem isRightGrouped_unwrapped (connective : Connective) (es : List Expr) :
    (unwrapped connective es).isRightGrouped = isRightGroupedAll es := by
  match es with
  | [] => rfl
  | [e] => exact (Bool.and_true _).symm
  | e :: f :: rest => rfl

mutual

/-- A tree that is grouped to the right is that of its chain. -/
theorem toExpr_chain : ∀ e : Expr, e.stripped.isRightGrouped = true →
    e.chain.toExpr = e.stripped
  | .literal .., _ => rfl
  | .parameter _, _ => rfl
  | .path .., _ => rfl
  | .call function arguments _, grouped => by
    rw [stripped, isRightGrouped] at grouped
    rw [stripped, ← toExprAll_chain arguments grouped]
    rfl
  | .comparison operator left right, grouped => by
    rw [stripped, isRightGrouped, Bool.and_eq_true, Bool.and_eq_true, Bool.not_eq_true'] at grouped
    obtain ⟨⟨closed, onLeft⟩, onRight⟩ := grouped
    have first := toExpr_chain left onLeft
    have second := toExpr_chain right onRight
    rw [← first] at closed
    rw [chain, Chain.toExpr_append_of_closed _ closed, Tail.behind, first, second, stripped]
  | .junction connective predicates, grouped => by
    rw [stripped, isRightGrouped_unwrapped] at grouped
    rw [chain, Chain.toExpr_ofJunction, toExprAll_chain predicates grouped, stripped]
  | .not predicate, grouped => by
    rw [stripped, isRightGrouped] at grouped
    rw [chain, Chain.toExpr, toExpr_chain predicate grouped, stripped]
  | .nullTest negated operand, grouped => by
    rw [stripped, isRightGrouped, Bool.and_eq_true, Bool.not_eq_true'] at grouped
    have inner := toExpr_chain operand grouped.2
    have closed := grouped.1
    rw [← inner] at closed
    rw [chain, Chain.toExpr_append_of_closed _ closed, Tail.behind, Tail.behind, inner, stripped]
  | .case operand _ _ branches default, grouped => by
    rw [stripped, isRightGrouped, Bool.and_eq_true, Bool.and_eq_true] at grouped
    rw [stripped, ← toExprOption_chain operand grouped.1.1,
      ← toExprBranches_chain branches grouped.1.2, ← toExprOption_chain default grouped.2]
    rfl

theorem toExprAll_chain : ∀ es : List Expr, isRightGroupedAll (strippedAll es) = true →
    Chain.toExprAll (chainAll es) = strippedAll es
  | [], _ => rfl
  | e :: rest, grouped => by
    rw [strippedAll, isRightGroupedAll, Bool.and_eq_true] at grouped
    rw [chainAll, Chain.toExprAll, toExpr_chain e grouped.1, toExprAll_chain rest grouped.2,
      strippedAll]

theorem toExprOption_chain : ∀ e : Option Expr, isRightGroupedOption (strippedOption e) = true →
    Chain.toExprOption (chainOption e) = strippedOption e
  | none, _ => rfl
  | some e, grouped => by
    rw [strippedOption, isRightGroupedOption] at grouped
    rw [chainOption, Chain.toExprOption, toExpr_chain e grouped, strippedOption]

theorem toExprBranches_chain : ∀ bs : List (Expr × Expr),
    isRightGroupedBranches (strippedBranches bs) = true →
      Chain.toExprBranches (chainBranches bs) = strippedBranches bs
  | [], _ => rfl
  | (condition, result) :: rest, grouped => by
    rw [strippedBranches, isRightGroupedBranches, Bool.and_eq_true, Bool.and_eq_true] at grouped
    rw [chainBranches, Chain.toExprBranches, toExpr_chain condition grouped.1.1,
      toExpr_chain result grouped.1.2, toExprBranches_chain rest grouped.2, strippedBranches]

end

end Expr

end ParamQuery
