import ParamQuery.Proofs.Grouping.Regroups
import ParamQuery.Proofs.Grouping.Stripped
import ParamQuery.Proofs.Grouping.Unique

/-!
# How much of the grouping shows

Of two trees with plain names, compiled under the standard settings, the text and the tables are the
same exactly if one is the other with its unbracketed parts grouped differently
(`alike_iff_regroups`). One way, text and tables are read back into a chain, of which there is only
one. The other way, trees with one chain have one template but for the types of leaves, which do not
show.
-/

namespace ParamQuery

/-- All names in an expression are identifiers. -/
structure Expr.PlainNames (e : Expr) : Prop where
  identifiers : ∀ text ∈ e.identifiers, IsIdentifier text
  parameters : ∀ p ∈ e.parameters, ∀ name ∈ p.name?, IsIdentifier name

instance (e : Expr) : Decidable e.PlainNames :=
  decidable_of_iff ((∀ text ∈ e.identifiers, IsIdentifier text) ∧
    ∀ p ∈ e.parameters, ∀ name ∈ p.name?, IsIdentifier name)
    ⟨fun h => ⟨h.1, h.2⟩, fun h => ⟨h.identifiers, h.parameters⟩⟩

/-! ## Chains of plain trees -/

mutual

theorem Chain.plain_append : ∀ (c : Chain) {t : Tail}, c.Plain → t.Plain → (c.append t).Plain
  | .not rest, _, hc, ht => rest.plain_append hc ht
  | .operand _ tail, _, hc, ht => ⟨hc.1, tail.plain_append hc.2 ht⟩

theorem Tail.plain_append : ∀ (t : Tail) {u : Tail}, t.Plain → u.Plain → (t.append u).Plain
  | .done, _, _, hu => hu
  | .test _ rest, _, ht, hu => rest.plain_append ht hu
  | .compare _ right, _, ht, hu => right.plain_append ht hu

end

theorem Chain.plain_ofJunction (connective : Connective) {cs : List Chain}
    (all : Chain.PlainAll cs) : (Chain.ofJunction connective cs).Plain := by
  match cs with
  | [] => exact ⟨trivial, trivial⟩
  | [c] => exact all.1
  | c :: d :: rest => exact ⟨all, trivial⟩

namespace Expr

mutual

theorem plain_chain : ∀ e : Expr, (∀ text ∈ e.identifiers, IsIdentifier text) → e.chain.Plain
  | .literal .., _ => ⟨trivial, trivial⟩
  | .parameter _, _ => ⟨trivial, trivial⟩
  | .path source field _, h => by
    rw [identifiers, List.forall_mem_cons, List.forall_mem_singleton] at h
    exact ⟨h, trivial⟩
  | .call _ arguments _, h => by
    rw [identifiers, List.forall_mem_cons] at h
    exact ⟨⟨h.1, plain_chainAll arguments h.2⟩, trivial⟩
  | .comparison _ left right, h => by
    rw [identifiers, List.forall_mem_append] at h
    exact left.chain.plain_append (plain_chain left h.1) (plain_chain right h.2)
  | .junction connective predicates, h => by
    rw [identifiers] at h
    exact Chain.plain_ofJunction connective (plain_chainAll predicates h)
  | .not predicate, h => by
    rw [identifiers] at h
    exact plain_chain predicate h
  | .nullTest _ operand, h => by
    rw [identifiers] at h
    exact operand.chain.plain_append (plain_chain operand h) trivial
  | .case operand _ _ branches default, h => by
    rw [identifiers, List.forall_mem_append, List.forall_mem_append] at h
    exact ⟨⟨plain_chainOption operand h.1, plain_chainBranches branches h.2.1,
      plain_chainOption default h.2.2⟩, trivial⟩

theorem plain_chainAll : ∀ es : List Expr, (∀ text ∈ identifiersAll es, IsIdentifier text) →
    Chain.PlainAll (chainAll es)
  | [], _ => trivial
  | e :: rest, h => by
    rw [identifiersAll, List.forall_mem_append] at h
    exact ⟨plain_chain e h.1, plain_chainAll rest h.2⟩

theorem plain_chainOption : ∀ e : Option Expr,
    (∀ text ∈ identifiersOption e, IsIdentifier text) → Chain.PlainOption (chainOption e)
  | none, _ => trivial
  | some e, h => by
    rw [identifiersOption] at h
    exact plain_chain e h

theorem plain_chainBranches : ∀ bs : List (Expr × Expr),
    (∀ text ∈ identifiersBranches bs, IsIdentifier text) → Chain.PlainBranches (chainBranches bs)
  | [], _ => trivial
  | (condition, result) :: rest, h => by
    rw [identifiersBranches, List.forall_mem_append, List.forall_mem_append] at h
    exact ⟨plain_chain condition h.1, plain_chain result h.2.1, plain_chainBranches rest h.2.2⟩

end

end Expr

/-! ## What is alike reads the same -/

theorem Template.spelling_stripped (t : Template) : spelling (stripped t) = spelling t := by
  have same (piece : Piece) : piece.stripped.spelling = piece.spelling := by
    cases piece with
    | fixed text => rfl
    | leaf part =>
      show part.sign.leaf.sign.spelling = part.sign.spelling
      cases part <;> rfl
  rw [spelling, stripped, List.flatMap_map, spelling]
  simp only [same]

theorem Compiled.Alike.spelling_eq {c d : Compiled} (alike : c.Alike d)
    (marker : c.marker = d.marker) : c.spelling = d.spelling := by
  have literals := congrArg (List.map fun p => (p.1, Sign.literal p.2)) alike.bindings
  have keys := congrArg (List.map fun p => (p.1, Sign.parameter p.2)) alike.parameters
  rw [List.map_map, List.map_map] at literals keys
  have signs : c.signs = d.signs := congrArg₂ (· ++ ·) literals keys
  rw [spelling, spelling, marker, signs, alike.text]

namespace Expr

theorem PlainNames.unmarked {e : Expr} (plain : e.PlainNames) : Unmarked ':' e.identifiers := by
  intro text mem marked
  have letters := List.all_eq_true.1 (plain.identifiers text mem).all_isNameChar ':' marked
  exact absurd letters (by decide)

/-- The compiled expression is read as the chain of the expression. -/
theorem PlainNames.spelling_compile {e : Expr} (plain : e.PlainNames) :
    (e.compile .standard).1.spelling = e.chain.spelling := by
  have apart : isPlain ':' = false := by decide
  rw [e.compile_eq, Template.spelling_compile Settings.standard_valid (by decide)
    (e.scannable_template apart plain.unmarked) plain.parameters, Chain.spelling, template_chain,
    Template.spelling_stripped]

theorem chain_eq_of_alike {e f : Expr} (he : e.PlainNames) (hf : f.PlainNames)
    (alike : (e.compile .standard).1.Alike (f.compile .standard).1) : e.chain = f.chain := by
  have same := alike.spelling_eq rfl
  rw [he.spelling_compile, hf.spelling_compile] at same
  have whole : e.chain.spelling ++ [] = f.chain.spelling ++ [] := by rw [same]
  exact (Chain.unique e.chain f.chain (e.plain_chain he.identifiers) (f.plain_chain hf.identifiers)
    .ending .ending whole).1

theorem alike_of_chain_eq (settings : Settings) {e f : Expr} (same : e.chain = f.chain) :
    (e.compile settings).1.Alike (f.compile settings).1 := by
  have templates : Template.stripped e.template = Template.stripped f.template := by
    rw [← e.template_chain, ← f.template_chain, same]
  rw [e.compile_eq, f.compile_eq]
  exact Template.alike_of_stripped_eq settings templates

end Expr

/--
Text, bindings and parameters are those of another tree exactly if only the grouping that has no
brackets is different.

Types are ignored and junctions of one item replaced by the item. Trees in which no comparison and
no negation is compared or tested from the left are then the same.
-/
theorem alike_iff_regroups (e f : Expr) (he : e.PlainNames) (hf : f.PlainNames) :
    ((e.compile .standard).1.Alike (f.compile .standard).1 ↔ Regroups e.stripped f.stripped) ∧
      (e.stripped.isRightGrouped = true → f.stripped.isRightGrouped = true →
        (e.compile .standard).1.Alike (f.compile .standard).1 → e.stripped = f.stripped) := by
  refine ⟨⟨fun alike => ?_, fun regroups => ?_⟩, fun right right' alike => ?_⟩
  · exact (e.regroups_iff f).2 (Expr.chain_eq_of_alike he hf alike)
  · exact Expr.alike_of_chain_eq .standard ((e.regroups_iff f).1 regroups)
  · rw [← e.toExpr_chain right, ← f.toExpr_chain right', Expr.chain_eq_of_alike he hf alike]

/-- Two comparisons in a row, grouped to the left, to the right, and to the right in a junction. -/
theorem alike_iff_regroups_of_comparisons :
    let a : Expr := .path "x" "a" (some .int)
    let five (type : Option ValueType) : Expr := .literal (.scalar (.int 5)) type
    let p (type : ValueType) : Expr := .parameter ⟨.named "p", type⟩
    let left : Expr := .comparison .equal (.comparison .less a (five none)) (p .bool)
    let right : Expr := .comparison .less a (.comparison .equal (five (some .int)) (p .bool))
    let boxed : Expr := .junction .or
      [.comparison .less a (.junction .and [.comparison .equal (five none) (p .int)])]
    (left.compile .standard).1.text = "x.a < :param0 = :p" ∧
      (left.compile .standard).1.Alike (right.compile .standard).1 ∧
      Regroups left.stripped right.stripped ∧ boxed.stripped = right.stripped := by
  intro a five p left right boxed
  have plain : right.PlainNames := by decide +kernel
  have grouped := (alike_iff_regroups left right (by decide +kernel) plain).1
  have unboxed := (alike_iff_regroups boxed right (by decide +kernel) plain).2
  have regroups : Regroups left.stripped right.stripped := .comparisons ..
  exact ⟨by decide +kernel, grouped.2 regroups, regroups,
    unboxed (by decide +kernel) (by decide +kernel) ⟨rfl, rfl, rfl⟩⟩

/-- A negated comparison and a comparison with a negation on the left are written alike. -/
theorem alike_of_negated_comparison :
    let a : Expr := .path "x" "a" none
    let b : Expr := .path "x" "b" none
    let e : Expr := .not (.comparison .equal a b)
    let f : Expr := .comparison .equal (.not a) b
    e.PlainNames ∧ f.PlainNames ∧
      (e.compile .standard).1.text = (f.compile .standard).1.text ∧
      (e.compile .standard).1.bindings = (f.compile .standard).1.bindings ∧
      (e.compile .standard).1.parameters = (f.compile .standard).1.parameters ∧
      e.stripped ≠ f.stripped := by
  intro a b e f
  refine ⟨by decide +kernel, by decide +kernel, rfl, rfl, rfl, ?_⟩
  intro same
  cases same

end ParamQuery
