import ParamQuery.Proofs.Naming.Generated
import ParamQuery.Proofs.Naming.Substitution

/-!
# Adding an ordering

The names that an author chooses are in use from the start, also those that stand at the very end
of a query. So a query with one more ordering is compiled in a context in which more names are in
use. This changes nothing as long as none of them is generated (`nameLeaves_reserves`): the two runs
go side by side until the first is done, and what the first has made stays at the front of what the
second makes (`compile_orderBy`).
-/

namespace ParamQuery

open Context

/-- Names that are free to begin with do not change which counter is found first. -/
theorem Naming.firstFree_eq_of_more {stem : String} {taken more : List String} {start : Nat}
    {extra : String → Prop} (extended : ∀ name, name ∈ more ↔ name ∈ taken ∨ extra name)
    (free : ¬extra (numbered stem (firstFree stem taken start))) :
    firstFree stem more start = firstFree stem taken start := by
  rcases Nat.lt_trichotomy (firstFree stem more start) (firstFree stem taken start) with
    earlier | same | later
  · have passed := mem_of_lt_firstFree stem taken start (le_firstFree stem more start) earlier
    exact absurd ((extended _).2 (Or.inl passed)) (firstFree_not_mem stem more start)
  · exact same
  · have passed := mem_of_lt_firstFree stem more start (le_firstFree stem taken start) later
    rcases (extended _).1 passed with old | new
    · exact absurd old (firstFree_not_mem stem taken start)
    · exact absurd new free

/-! ## Two runs side by side -/

namespace Context

/-- The second context is like the first, but that the extra names are in use there as well. -/
structure Reserves (extra : String → Prop) (c d : Context) : Prop where
  settings : d.settings = c.settings
  next : d.next = c.next
  used : ∀ name, name ∈ d.used ↔ name ∈ c.used ∨ extra name
  bindings : d.bindings = c.bindings
  parameters : d.parameters = c.parameters

variable {extra : String → Prop} {c d : Context}

theorem Reserves.freshCounter (h : Reserves extra c d) (free : ¬extra c.freshName) :
    d.freshCounter = c.freshCounter := by
  rw [Context.freshCounter, Context.freshCounter, h.settings, h.next]
  exact Naming.firstFree_eq_of_more h.used free

theorem Reserves.freshName (h : Reserves extra c d) (free : ¬extra c.freshName) :
    d.freshName = c.freshName := by
  rw [Context.freshName, Context.freshName, h.freshCounter free, h.settings]

theorem Reserves.use (h : Reserves extra c d) (name : String) :
    ∀ other, other ∈ name :: d.used ↔ other ∈ name :: c.used ∨ extra other := by
  intro other
  rw [List.mem_cons, List.mem_cons, h.used, or_assoc]

theorem Reserves.addUsed (h : Reserves extra c d) (name : String) :
    Reserves extra (c.addUsed name) (d.addUsed name) :=
  ⟨h.settings, h.next, h.use name, h.bindings, h.parameters⟩

theorem Reserves.advance (h : Reserves extra c d) (free : ¬extra c.freshName) :
    Reserves extra c.advance d.advance where
  settings := h.settings
  next := congrArg (· + 1) (h.freshCounter free)
  used := by
    rw [advance_used, advance_used, h.freshName free]
    exact h.use c.freshName
  bindings := h.bindings
  parameters := h.parameters

theorem Reserves.addBinding (h : Reserves extra c d) (b : Binding) :
    Reserves extra (c.addBinding b) (d.addBinding b) :=
  ⟨h.settings, h.next, h.used, congrArg (· ++ [b]) h.bindings, h.parameters⟩

theorem Reserves.addParameter (h : Reserves extra c d) (name : String) (p : Parameter) :
    Reserves extra (c.addParameter name p) (d.addParameter name p) :=
  ⟨h.settings, h.next, h.used, h.bindings, congrArg (· ++ [NamedParameter.mk name p]) h.parameters⟩

/-- What one step does in the first context, it does in the second one too. -/
theorem Reserves.step (h : Reserves extra c d) {leaf : Leaf} {name : String} {c' : Context}
    (step : Step c leaf name c') (free : ∀ name ∈ c'.generated, ¬extra name) :
    ∃ d', Step d leaf name d' ∧ Reserves extra c' d' := by
  have same (p : Parameter) : NamedParameter.nameIn? d.parameters p.key =
      NamedParameter.nameIn? c.parameters p.key := by
    rw [h.parameters]
  cases step with
  | literal value type =>
    have unclaimed : ¬extra c.freshName := free _
      ((generatedNames_addBinding c.bindings c.parameters _).mem_iff.2 List.mem_cons_self)
    have step := Step.literal (c := d) value type
    rw [h.freshName unclaimed] at step
    exact ⟨_, step, (h.advance unclaimed).addBinding _⟩
  | @known p name known => exact ⟨d, .known ((same p).trans known), h⟩
  | @chosen p unknown own =>
    exact ⟨_, .chosen ((same p).trans unknown) own, (h.addUsed _).addParameter _ _⟩
  | @generated p unknown unnamed =>
    have unclaimed : ¬extra c.freshName := free _
      ((generatedNames_addUnnamed c.bindings c.parameters
        (q := ⟨c.freshName, p⟩) unnamed).mem_iff.2 List.mem_cons_self)
    have step := Step.generated (c := d) ((same p).trans unknown) unnamed
    rw [h.freshName unclaimed] at step
    exact ⟨_, step, (h.advance unclaimed).addParameter _ _⟩

theorem Step.generated_subset {leaf : Leaf} {name : String} {c' : Context}
    (step : Step c leaf name c') {other : String} (mem : other ∈ c.generated) :
    other ∈ c'.generated := by
  obtain ⟨⟨parameters, same⟩, bindings, also⟩ := step.grows
  rw [Context.generated, generatedNames, same, also]
  simp only [List.map_append, List.filter_append, List.mem_append]
  rcases List.mem_append.1 mem with literal | unnamed
  · exact Or.inl (Or.inl literal)
  · exact Or.inr (Or.inl unnamed)

end Context

theorem generated_subset_nameLeaves (leaves : List Leaf) (c : Context) {name : String}
    (mem : name ∈ c.generated) : name ∈ (nameLeaves leaves c).2.generated :=
  nameLeaves_induct (P := fun c' => name ∈ c'.generated) mem
    fun _ _ _ _ _ step old => step.generated_subset old

/-- Leaves get the same names whether the extra names are in use or not, if none is generated. -/
theorem nameLeaves_reserves {extra : String → Prop} {leaves : List Leaf} {c d : Context}
    (h : Reserves extra c d) (free : ∀ name ∈ (nameLeaves leaves c).2.generated, ¬extra name) :
    (nameLeaves leaves d).1 = (nameLeaves leaves c).1 ∧
      Reserves extra (nameLeaves leaves c).2 (nameLeaves leaves d).2 := by
  induction leaves generalizing c d with
  | nil => exact ⟨rfl, h⟩
  | cons leaf rest ih =>
    rw [nameLeaves_cons] at free
    have early : ∀ name ∈ (leaf.name c).2.generated, ¬extra name :=
      fun name mem => free name (generated_subset_nameLeaves rest _ mem)
    obtain ⟨d', step, next⟩ := h.step (step_name leaf c) early
    obtain ⟨names, after⟩ := ih next free
    rw [nameLeaves_cons, nameLeaves_cons, step.name_eq]
    exact ⟨congrArg ((leaf.name c).1 :: ·) names, after⟩

theorem nameLeaves_append (first second : List Leaf) (c : Context) :
    nameLeaves (first ++ second) c =
      ((nameLeaves first c).1 ++ (nameLeaves second (nameLeaves first c).2).1,
        (nameLeaves second (nameLeaves first c).2).2) := by
  induction first generalizing c with
  | nil => rfl
  | cons leaf rest ih => rw [List.cons_append, nameLeaves_cons, nameLeaves_cons, ih, List.cons_append]

theorem length_nameLeaves (leaves : List Leaf) (c : Context) :
    (nameLeaves leaves c).1.length = leaves.length := by
  induction leaves generalizing c with
  | nil => rfl
  | cons leaf rest ih => exact congrArg (· + 1) (ih _)

/-! ## Templates with more behind them -/

namespace Template

theorem fill_append (t u : Template) {first : List String} (rest : List String)
    (all : first.length = (leaves t).length) :
    fill (t ++ u) (first ++ rest) = fill t first ++ fill u rest := by
  induction t generalizing first with
  | nil =>
    rw [List.eq_nil_of_length_eq_zero all, List.nil_append, List.nil_append, fill,
      String.empty_append]
  | cons piece tail ih =>
    cases piece with
    | fixed text => rw [List.cons_append, fill, fill, ih all, String.append_assoc]
    | leaf leaf =>
      cases first with
      | nil => cases all
      | cons token tokens =>
        rw [List.cons_append, List.cons_append, fill, fill, ih (Nat.succ.inj all),
          String.append_assoc]

theorem joined_concat (separator : String) {ts : List Template} (some_item : ts ≠ [])
    (t : Template) : joined separator (ts ++ [t]) = joined separator ts ++ .fixed separator :: t := by
  unfold joined
  induction ts with
  | nil => exact absurd rfl some_item
  | cons u rest ih =>
    cases rest with
    | nil => simp
    | cons v rest =>
      have later := ih (List.cons_ne_nil v rest)
      rw [List.cons_append] at later
      rw [List.cons_append, List.cons_append, List.intercalate_cons_cons, later,
        List.intercalate_cons_cons]
      simp only [List.append_assoc]

end Template

namespace Query

def orderingLead (q : Query) : String := if q.orderings.isEmpty then " order by " else ", "

def templateItem (lead : String) (o : Ordering) : Template :=
  .fixed lead :: (o.expr.template ++ [.fixed (" " ++ o.direction.keyword)])

theorem templateOrder_concat (os : List Ordering) (o : Ordering) :
    templateOrder (os ++ [o]) =
      templateOrder os ++ templateItem (if os.isEmpty then " order by " else ", ") o := by
  have items (os : List Ordering) : templateOrderings (os ++ [o]) =
      templateOrderings os ++ [o.expr.template ++ [.fixed (" " ++ o.direction.keyword)]] := by
    induction os with
    | nil => rfl
    | cons first rest ih => rw [List.cons_append, templateOrderings, ih]; rfl
  cases os with
  | nil => simp [templateOrder, templateItem, templateOrderings, Template.joined]
  | cons first rest =>
    show .fixed " order by " :: Template.joined ", " (templateOrderings (first :: rest ++ [o])) = _
    have some_item : templateOrderings (first :: rest) ≠ [] := List.cons_ne_nil _ _
    rw [items, Template.joined_concat ", " some_item]
    rfl

theorem template_orderBy {q : Query} {t : Template} (o : Ordering) (h : q.template = .ok t) :
    (q.orderBy o).template = .ok (t ++ templateItem q.orderingLead o) := by
  cases selection : templateSelection q.roots q.selections with
  | error e => simp [template, selection, Except.map] at h
  | ok s =>
    simp only [template, selection, Except.map, Except.ok.injEq] at h
    have same : templateSelection (q.orderBy o).roots (q.orderBy o).selections = .ok s := selection
    simp only [template, same, Except.map, Except.ok.injEq, ← h]
    show Piece.fixed _ :: (s ++ Piece.fixed q.rootsText ::
      (Expr.templateOption " where " q.restriction ++ templateOrder (q.orderings ++ [o]))) = _
    rw [templateOrder_concat, templateSelecting, orderingLead]
    simp only [List.cons_append, List.append_assoc]
    rfl

end Query

/--
A query is compiled to more of the same with an ordering behind it.

What was compiled before is untouched and stands at the front of the bindings, of the table of
parameters and of the text. Behind the text follows the item of the ordering, filled from the
tables.
-/
structure Compiled.ExtendedBy (c longer : Compiled) (lead : String) (o : Ordering)
    (added : List Binding) : Prop where
  bindings : longer.bindings = c.bindings ++ added
  parameters : c.parameters <+: longer.parameters
  literals : added.map (fun b => (b.value, b.type)) = o.expr.occurrences.filterMap Leaf.literal?
  text : longer.text = c.text ++ lead ++
    o.expr.template.fill (longer.substitution o.expr.occurrences (added.map Binding.name)) ++
      " " ++ o.direction.keyword

def chosenBy (leaves : List Leaf) (name : String) : Prop :=
  Parameter.Key.named name ∈ (leaves.filterMap Leaf.parameter?).map Parameter.key

/-- Compiling more goes on behind the leaves there were, if it does not choose their names. -/
theorem Template.exists_nameLeaves_append (settings : Settings) (t u : Template)
    (free : ∀ name ∈ (compile settings t).1.generated, ¬chosenBy (leaves u) name) :
    ∃ next, Reserves (chosenBy (leaves u)) (final settings t) next ∧
      nameLeaves (leaves (t ++ u)) (initial settings (t ++ u)) =
        ((nameLeaves (leaves t) (initial settings t)).1 ++ (nameLeaves (leaves u) next).1,
          (nameLeaves (leaves u) next).2) := by
  have start : Reserves (chosenBy (leaves u)) (initial settings t) (initial settings (t ++ u)) := by
    rw [initial, initial, Compiled.contextFor_eq, Compiled.contextFor_eq]
    refine ⟨rfl, rfl, fun name => ?_, rfl, rfl⟩
    simp only [List.mem_reverse, Registry.mem_names, Registry.mem_keys_ofLeaves, leaves_append,
      List.filterMap_append, List.map_append, List.mem_append, chosenBy]
  rw [compile_fst] at free
  obtain ⟨names, middle⟩ := nameLeaves_reserves start free
  refine ⟨_, middle, ?_⟩
  rw [leaves_append, nameLeaves_append, names]

theorem Query.leaves_templateItem (lead : String) (o : Ordering) :
    Template.leaves (templateItem lead o) = o.expr.leaves := by
  simp [templateItem, Template.leaves, Expr.leaves]

theorem Template.fill_templateItem (lead : String) (o : Ordering) {tokens : List String}
    (all : tokens.length = o.expr.leaves.length) :
    fill (Query.templateItem lead o) tokens =
      lead ++ fill o.expr.template tokens ++ " " ++ o.direction.keyword := by
  have item := fill_append o.expr.template [.fixed (" " ++ o.direction.keyword)] [] all
  rw [List.append_nil] at item
  rw [Query.templateItem, fill, item]
  simp only [fill, String.append_empty, String.append_assoc]

theorem Template.compile_extendedBy (settings : Settings) (t : Template) (lead : String)
    (o : Ordering)
    (free : ∀ name ∈ (compile settings t).1.generated, ¬chosenBy o.expr.leaves name) :
    ∃ added, (compile settings t).1.ExtendedBy
      (compile settings (t ++ Query.templateItem lead o)).1 lead o added := by
  have item := Query.leaves_templateItem lead o
  rw [← item] at free
  obtain ⟨next, middle, run⟩ := exists_nameLeaves_append settings t _ free
  rw [item] at run
  have byKey := namedByKey_compile settings (t ++ Query.templateItem lead o)
  have longer := compile_fst settings (t ++ Query.templateItem lead o)
  rw [final, run, leaves_append, item] at longer
  obtain ⟨added, bindings, named⟩ := tablesName_nameLeaves o.expr.leaves next
  obtain ⟨more, parameters⟩ := nameLeaves_grows o.expr.leaves next
  have tables : TablesName (compile settings (t ++ Query.templateItem lead o)).1.parameters added
      o.expr.leaves (nameLeaves o.expr.leaves next).1 := by
    rw [longer]
    exact named
  have tokens := tables.tokens_eq byKey
  rw [longer] at tokens ⊢
  rw [compile_fst settings t]
  have lengths (leaves : List Leaf) (c : Context) : (Leaf.tokens settings.marker leaves
      (nameLeaves leaves c).1).length = leaves.length := by
    rw [Leaf.tokens, List.length_zipWith, length_nameLeaves, Nat.min_self]
  refine ⟨added, ?_, ?_, ?_, ?_⟩
  · exact bindings.trans (congrArg (· ++ added) middle.bindings)
  · exact ⟨more, (parameters.trans (congrArg (· ++ more) middle.parameters)).symm⟩
  · rw [named.map_bindings, o.expr.occurrences_eq]
  · rw [o.expr.occurrences_eq, ← tokens]
    show fill _ (Leaf.tokens settings.marker _ _) = _
    rw [Leaf.tokens, List.zipWith_append (length_nameLeaves _ _).symm]
    show fill _ (Leaf.tokens settings.marker _ _ ++ Leaf.tokens settings.marker _ _) = _
    rw [fill_append _ _ _ (lengths _ _), fill_templateItem lead o (lengths _ _)]
    simp only [String.append_assoc]

/--
A query that gets an ordering still compiles, and nothing that was there is renamed.

It is enough that no named parameter of the ordering is called like a name that was generated for
the query before.
-/
theorem compile_orderBy (settings : Settings) (q : Query) (o : Ordering)
    (outcome : Compiled × List Log.Event) (compiled : q.compile settings = .ok outcome)
    (apart : ∀ p ∈ o.expr.occurrences.filterMap Leaf.parameter?, ∀ name ∈ p.name?,
      name ∉ outcome.1.generated) :
    ∃ longer added, (q.orderBy o).compile settings = .ok longer ∧
      outcome.1.ExtendedBy longer.1 (if q.orderings.isEmpty then " order by " else ", ") o
        added := by
  obtain ⟨t, template, -, rfl⟩ := q.exists_template compiled
  rw [o.expr.occurrences_eq] at apart
  have free : ∀ name ∈ (Template.compile settings t).1.generated,
      ¬chosenBy o.expr.leaves name := by
    rintro name generated chosen
    obtain ⟨p, mem, key⟩ := List.mem_map.1 chosen
    exact apart p mem name (by simp [Parameter.name?, key]) generated
  obtain ⟨added, extended⟩ := Template.compile_extendedBy settings t q.orderingLead o free
  refine ⟨_, added, ?_, extended⟩
  rw [Query.compile_eq, Query.template_orderBy o template]
  rfl

/-- The ordering chooses a name that would have come next, so that its own literal gets another. -/
theorem compile_orderBy_next_name :
    let adult : Expr := .comparison .greaterOrEqual (.path "t0" "age" none)
      (.literal (.scalar (.int 18)) (some .int))
    let q : Query := ((Query.start "t").addRoot "Person").2.restrict adult
    let o : Ordering := ⟨.comparison .equal (.literal (.scalar (.int 7)) (some .int))
      (.parameter ⟨.named "param1", .int⟩), .descending⟩
    ∃ outcome, q.compile .standard = .ok outcome ∧ outcome.1.generated = ["param0"] ∧
      ∃ longer added, (q.orderBy o).compile .standard = .ok longer ∧
        longer.1.text = "select t0 from Person as t0 where t0.age >= :param0 " ++
          "order by :param2 = :param1 desc" ∧
        outcome.1.ExtendedBy longer.1 " order by " o added := by
  intro adult q o
  obtain ⟨longer, added, compiled, extended⟩ := compile_orderBy .standard q o _ rfl (by decide +kernel)
  refine ⟨_, rfl, by decide +kernel, longer, added, compiled, ?_, extended⟩
  cases compiled
  decide +kernel

end ParamQuery
