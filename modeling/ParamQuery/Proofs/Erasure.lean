import ParamQuery.Proofs.Naming.Compiled

/-!
# Literal values have no influence

Erasing a tree forgets the values and types of its literals and what its cases have learnt from
them. Naming leaves runs in lockstep on a tree and on its erasure (`Leaf.name_erase`), so all that a
compiled query shows but the values of its bindings is determined by the erasure.
-/

namespace ParamQuery

/-! ## Erasure of trees -/

namespace Expr

mutual

/-- An expression without the values of its literals and without the types of its results. -/
def erase : Expr → Expr
  | .literal _ _ => .literal (.null .string) none
  | .parameter p => .parameter p
  | .path source field type => .path source field type
  | .call function arguments type => .call function (eraseAll arguments) type
  | .comparison operator left right => .comparison operator left.erase right.erase
  | .junction connective predicates => .junction connective (eraseAll predicates)
  | .not predicate => .not predicate.erase
  | .nullTest negated operand => .nullTest negated operand.erase
  | .case operand declared _ branches default =>
    .case (eraseOption operand) declared none (eraseBranches branches) (eraseOption default)

def eraseAll : List Expr → List Expr
  | [] => []
  | e :: rest => e.erase :: eraseAll rest

def eraseOption : Option Expr → Option Expr
  | none => none
  | some e => some e.erase

def eraseBranches : List (Expr × Expr) → List (Expr × Expr)
  | [] => []
  | (condition, result) :: rest => (condition.erase, result.erase) :: eraseBranches rest

end

end Expr

def Query.erase (q : Query) : Query :=
  { q with
    selections := Expr.eraseAll q.selections
    restriction := Expr.eraseOption q.restriction
    orderings := q.orderings.map fun o => { o with expr := o.expr.erase } }

def Leaf.erase : Leaf → Leaf
  | .literal _ _ => .literal (.null .string) none
  | .parameter p => .parameter p

def Piece.erase : Piece → Piece
  | .fixed text => .fixed text
  | .leaf part => .leaf part.erase

def Template.erase (t : Template) : Template := t.map Piece.erase

def Context.erase (c : Context) : Context :=
  { c with bindings := c.bindings.map fun b => ⟨b.name, .null .string, none⟩ }

/-! ## What remains visible -/

def Log.Event.withoutBindings : Log.Event → Log.Event
  | .queryCompiled text _ parameters => .queryCompiled text "" parameters
  | event => event

/-- All that compiling shows, except for the values and types of bindings. -/
structure Outline where
  text : String
  names : List String
  parameters : List NamedParameter
  registry : Registry
  marker : Char
  events : List Log.Event

def Outline.of (outcome : Compiled × List Log.Event) : Outline where
  text := outcome.1.text
  names := outcome.1.names
  parameters := outcome.1.parameters
  registry := outcome.1.registry
  marker := outcome.1.marker
  events := outcome.2.map Log.Event.withoutBindings

/-! ## Lockstep -/

theorem Template.erase_append (t u : Template) : erase (t ++ u) = erase t ++ erase u :=
  List.map_append

theorem Template.erase_joined (separator : String) (ts : List Template) :
    erase (joined separator ts) = joined separator (ts.map erase) :=
  map_joined (fun _ => rfl) separator ts

theorem Template.erase_junction (connective : Connective) (ts : List Template) :
    erase (junction connective ts) = junction connective (ts.map erase) :=
  map_junction (fun _ => rfl) connective ts

namespace Expr

mutual

theorem template_erase : ∀ e : Expr, e.erase.template = Template.erase e.template
  | .literal .. => rfl
  | .parameter _ => rfl
  | .path .. => rfl
  | .call _ arguments _ => by
    rw [erase, template, template, templateAll_erase arguments, ← Template.erase_joined]
    simp only [Template.erase, List.map_append, List.map_cons, Piece.erase, List.map_nil]
  | .comparison _ left right => by
    rw [erase, template, template, template_erase left, template_erase right]
    simp only [Template.erase, List.map_append, List.map_cons, Piece.erase]
  | .junction _ predicates => by
    rw [erase, template, template, templateAll_erase predicates, Template.erase_junction]
  | .not predicate => by
    rw [erase, template, template, template_erase predicate]
    simp only [Template.erase, List.map_cons, Piece.erase]
  | .nullTest _ operand => by
    rw [erase, template, template, template_erase operand]
    simp only [Template.erase, List.map_append, List.map_cons, Piece.erase, List.map_nil]
  | .case operand _ _ branches default => by
    rw [erase, template, template, templateOption_erase " " operand,
      templateBranches_erase branches, templateOption_erase " else " default]
    simp only [Template.erase, List.map_append, List.map_cons, Piece.erase, List.map_nil]

theorem templateAll_erase : ∀ es : List Expr,
    templateAll (eraseAll es) = (templateAll es).map Template.erase
  | [] => rfl
  | e :: rest => by
    rw [eraseAll, templateAll, templateAll, template_erase e, templateAll_erase rest, List.map_cons]

theorem templateOption_erase (lead : String) : ∀ e : Option Expr,
    templateOption lead (eraseOption e) = Template.erase (templateOption lead e)
  | none => rfl
  | some e => by
    rw [eraseOption, templateOption, templateOption, template_erase e]
    simp only [Template.erase, List.map_cons, Piece.erase]

theorem templateBranches_erase : ∀ bs : List (Expr × Expr),
    templateBranches (eraseBranches bs) = Template.erase (templateBranches bs)
  | [] => rfl
  | (condition, result) :: rest => by
    rw [eraseBranches, templateBranches, templateBranches, template_erase condition,
      template_erase result, templateBranches_erase rest]
    simp only [Template.erase, List.map_append, List.map_cons, Piece.erase]

end

end Expr

namespace Query

theorem templateOrderings_erase (os : List Ordering) :
    templateOrderings (os.map fun o => { o with expr := o.expr.erase }) =
      (templateOrderings os).map Template.erase := by
  induction os with
  | nil => rfl
  | cons o rest ih =>
    rw [List.map_cons, templateOrderings, templateOrderings, List.map_cons, ih,
      Expr.template_erase, Template.erase_append]
    rfl

theorem templateOrder_erase (os : List Ordering) :
    templateOrder (os.map fun o => { o with expr := o.expr.erase }) =
      Template.erase (templateOrder os) := by
  cases os with
  | nil => rfl
  | cons o rest =>
    have items := templateOrderings_erase (o :: rest)
    rw [List.map_cons] at items ⊢
    show Piece.fixed " order by " :: Template.joined ", " (templateOrderings (_ :: _)) = _
    rw [items, ← Template.erase_joined]
    rfl

theorem templateSelection_erase (roots : List Root) (selections : List Expr) :
    templateSelection roots (Expr.eraseAll selections) =
      (templateSelection roots selections).map Template.erase := by
  match roots, selections with
  | [], _ => rfl
  | [root], [] => rfl
  | _ :: _ :: _, [] => rfl
  | _ :: _, e :: rest =>
    have all := Expr.templateAll_erase (e :: rest)
    simp only [Expr.eraseAll] at all ⊢
    simp only [templateSelection, Except.map, all, Template.erase_joined]

theorem template_erase (q : Query) : q.erase.template = q.template.map Template.erase := by
  have selection := templateSelection_erase q.roots q.selections
  simp only [template]
  show (templateSelection q.roots (Expr.eraseAll q.selections)).map _ = _
  rw [selection]
  cases templateSelection q.roots q.selections with
  | error e => rfl
  | ok t =>
    have order := templateOrder_erase q.orderings
    have restriction := Expr.templateOption_erase " where " q.restriction
    simp only [Except.map]
    show Except.ok (_ :: (t.erase ++ _ :: (Expr.templateOption " where "
      (Expr.eraseOption q.restriction) ++ templateOrder (q.orderings.map _)))) = _
    rw [order, restriction]
    simp only [templateSelecting, Template.erase, List.map_cons, List.map_append, Piece.erase]
    rfl

end Query

/-- Naming an erased leaf does the same, except that no value is bound. -/
theorem Leaf.name_erase (leaf : Leaf) (c : Context) :
    leaf.erase.name c.erase = ((leaf.name c).1, (leaf.name c).2.erase) := by
  cases leaf with
  | literal value type =>
    show (c.freshName, c.erase.advance.addBinding ⟨c.freshName, .null .string, none⟩) =
      (c.freshName, (c.advance.addBinding ⟨c.freshName, value, type⟩).erase)
    simp only [Context.erase, Context.advance, Context.addBinding, List.map_append, List.map_cons,
      List.map_nil]
    rfl
  | parameter p =>
    -- Names depend on the names in use and on the counter, never on bindings.
    have same : Context.nameFor p.key c.erase =
        ((Context.nameFor p.key c).1, (Context.nameFor p.key c).2.erase) := by
      cases p.key <;> rfl
    show Context.registerParameter p c.erase =
      ((Context.registerParameter p c).1, (Context.registerParameter p c).2.erase)
    have known : c.erase.parameters = c.parameters := rfl
    rw [Context.registerParameter_run, Context.registerParameter_run, same, known]
    cases NamedParameter.nameIn? c.parameters p.key <;> rfl

theorem Leaf.token_erase (marker : Char) (leaf : Leaf) :
    leaf.erase.token marker = leaf.token marker := by
  cases leaf <;> rfl

theorem Registry.ofLeaves_erase (leaves : List Leaf) :
    ofLeaves (leaves.map Leaf.erase) = ofLeaves leaves := by
  have same (r : Registry) (leaf : Leaf) : leaf.erase.register r = leaf.register r := by
    cases leaf <;> rfl
  rw [ofLeaves, List.foldl_map, ofLeaves]
  simp only [same]

namespace Template

theorem leaves_erase (t : Template) : leaves (erase t) = (leaves t).map Leaf.erase :=
  leaves_map (fun _ => rfl) (fun _ => rfl) t

theorem initial_erase (settings : Settings) (t : Template) :
    initial settings (erase t) = (initial settings t).erase := by
  rw [initial, initial, leaves_erase, Registry.ofLeaves_erase, Compiled.contextFor_eq]
  rfl

theorem outline_erase (settings : Settings) (t : Template) :
    Outline.of (compile settings (erase t)) = Outline.of (compile settings t) := by
  have start := initial_erase settings t
  have ended : final settings (erase t) = (final settings t).erase :=
    final_map (fun _ => rfl) (fun _ => rfl) Leaf.name_erase start
  have compiled : (compile settings (erase t)).1 =
      { (compile settings t).1 with bindings := (final settings t).erase.bindings } := by
    have mapped := compile_map (fun _ => rfl) (fun _ => rfl) Leaf.name_erase start Leaf.token_erase
    rw [Registry.ofLeaves_erase] at mapped
    rw [erase, mapped, compile_fst]
    rfl
  have names : (compile settings (erase t)).1.names = (compile settings t).1.names := by
    rw [compiled, compile_fst]
    simp [Compiled.names, Context.erase, Function.comp_def]
  have events : (compile settings (erase t)).2.map Log.Event.withoutBindings =
      (compile settings t).2.map Log.Event.withoutBindings := by
    rw [compile_snd, compile_snd, ended, List.map_append, List.map_append]
    congr 1
    cases settings.logBindings with
    | false => rfl
    | true =>
      rw [compiled]
      rfl
  have text := congrArg Compiled.text compiled
  have parameters := congrArg Compiled.parameters compiled
  have registry := congrArg Compiled.registry compiled
  have marker := congrArg Compiled.marker compiled
  simp only [Outline.of, Outline.mk.injEq]
  exact ⟨text, names, parameters, registry, marker, events⟩

theorem outline_eq_of_erased (settings : Settings) {t u : Template} (same : erase t = erase u) :
    Outline.of (compile settings t) = Outline.of (compile settings u) := by
  rw [← outline_erase settings t, same, outline_erase]

end Template

/--
The values and types of literals show nowhere in the outline of what is compiled.

Two expressions, or two queries, that are equal once erased have the same outline: the same text,
names, parameters, registry and events, up to the bindings in them. Queries fail for the same
reason or not at all.
-/
theorem outline_eq_of_erase_eq (settings : Settings) :
    (∀ e f : Expr, e.erase = f.erase →
      Outline.of (e.compile settings) = Outline.of (f.compile settings)) ∧
    ∀ q r : Query, q.erase = r.erase →
      (q.compile settings).map Outline.of = (r.compile settings).map Outline.of := by
  constructor
  · intro e f same
    have erased (e : Expr) :
        Outline.of (e.compile settings) = Outline.of (e.erase.compile settings) := by
      rw [e.compile_eq, Expr.compile_eq, e.template_erase, Template.outline_erase]
    rw [erased e, erased f, same]
  · intro q r same
    have erased (q : Query) :
        (q.compile settings).map Outline.of = (q.erase.compile settings).map Outline.of := by
      rw [q.compile_eq, Query.compile_eq, q.template_erase]
      cases q.template with
      | error e => rfl
      | ok t => exact congrArg Except.ok (Template.outline_erase settings t).symm
    rw [erased q, erased r, same]

/-- A string that reads like query text has the outline of a number. -/
theorem outline_eq_of_hostile_literal :
    let number : Expr := .comparison .equal (.path "t0" "name" none)
      (.literal (.scalar (.int 1)) (some .int))
    let hostile : Expr := .comparison .equal (.path "t0" "name" none)
      (.literal (.scalar (.string "' or 1=1 or :param0 = '")) (some .string))
    let query (e : Expr) : Query := ((Query.start "t").addRoot "Person").2.restrict e
    number.erase = hostile.erase ∧ (query number).erase = (query hostile).erase ∧
      Outline.of (number.compile .standard) = Outline.of (hostile.compile .standard) ∧
      ((query number).compile .standard).map Outline.of =
        ((query hostile).compile .standard).map Outline.of := by
  intro number hostile query
  have same := outline_eq_of_erase_eq .standard
  exact ⟨rfl, rfl, same.1 number hostile rfl, same.2 (query number) (query hostile) rfl⟩

end ParamQuery
