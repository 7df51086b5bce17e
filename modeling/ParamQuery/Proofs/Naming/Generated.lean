import Mathlib.Data.List.Perm.Basic
import ParamQuery.Proofs.Naming.Compiled
import ParamQuery.Proofs.Settings.Valid

/-!
# Generated names stand alone

Under valid settings a generated name occurs once among the names of a compiled query: it is no
other generated name, no name that the author chose anywhere in the tree, and no position. The
invariant that naming keeps is `Context.Fresh`: all generated names are in use, none of them is
reserved, and they are numbered names, which no position looks like.
-/

namespace ParamQuery

open Context

/-- The names in two tables that were generated: those of literals and of unnamed parameters. -/
def generatedNames (bindings : List Binding) (parameters : List NamedParameter) : List String :=
  bindings.map Binding.name ++
    (parameters.filter fun q => q.parameter.key.isUnnamed).map NamedParameter.name

def chosenNames (parameters : List NamedParameter) : List String :=
  (parameters.filter fun q => !q.parameter.key.isUnnamed).map NamedParameter.name

def Compiled.generated (c : Compiled) : List String := generatedNames c.bindings c.parameters

theorem Compiled.mem_generated_of_binding {c : Compiled} {b : Binding} (mem : b ∈ c.bindings) :
    b.name ∈ c.generated :=
  List.mem_append_left _ (List.mem_map_of_mem mem)

theorem Compiled.mem_generated_of_unnamed {c : Compiled} {q : NamedParameter}
    (mem : q ∈ c.parameters) (unnamed : q.parameter.key.isUnnamed = true) :
    q.name ∈ c.generated :=
  List.mem_append_right _ (List.mem_map_of_mem (List.mem_filter.2 ⟨mem, unnamed⟩))

/-- Each generated name of a compiled tree with these explicit parameters stands alone. -/
structure Compiled.GeneratedOnce (c : Compiled) (parameters : List Parameter) : Prop where
  once : ∀ name ∈ c.generated, c.names.count name = 1
  nodup : c.generated.Nodup
  /-- A named parameter of the tree is not called like a generated name. -/
  not_named : ∀ p ∈ parameters, ∀ name, p.key = .named name → name ∉ c.generated
  /-- The text of a position in the tree is not a generated name. -/
  not_positional : ∀ p ∈ parameters, ∀ position, p.key = .positional position →
    "?" ++ toString position ∉ c.generated

/-- The name of a literal is not that of an explicit parameter. -/
theorem Compiled.GeneratedOnce.binding_name_not_mem {c : Compiled} {parameters : List Parameter}
    (h : c.GeneratedOnce parameters) {b : Binding} (mem : b ∈ c.bindings) :
    b.name ∉ c.parameters.map NamedParameter.name := by
  intro explicit
  have once := h.once b.name (mem_generated_of_binding mem)
  rw [Compiled.names, List.count_append] at once
  have first := List.count_pos_iff.2 (List.mem_map_of_mem (f := Binding.name) mem)
  have second := List.count_pos_iff.2 explicit
  omega

theorem generatedNames_addBinding (bindings : List Binding) (parameters : List NamedParameter)
    (b : Binding) : (generatedNames (bindings ++ [b]) parameters).Perm
      (b.name :: generatedNames bindings parameters) := by
  simp only [generatedNames, List.map_append, List.map_cons, List.map_nil, List.append_assoc]
  exact List.perm_middle

theorem generatedNames_addUnnamed (bindings : List Binding) (parameters : List NamedParameter)
    {q : NamedParameter} (unnamed : q.parameter.key.isUnnamed = true) :
    (generatedNames bindings (parameters ++ [q])).Perm
      (q.name :: generatedNames bindings parameters) := by
  have last : generatedNames bindings (parameters ++ [q]) =
      generatedNames bindings parameters ++ [q.name] := by
    simp [generatedNames, unnamed]
  rw [last]
  exact List.perm_append_singleton ..

theorem generatedNames_addChosen (bindings : List Binding) (parameters : List NamedParameter)
    {q : NamedParameter} (own : q.parameter.key.isUnnamed = false) :
    generatedNames bindings (parameters ++ [q]) = generatedNames bindings parameters := by
  simp [generatedNames, own]

/-- All names of two tables are the generated ones and the chosen ones. -/
theorem names_perm (c : Compiled) : c.names.Perm (c.generated ++ chosenNames c.parameters) := by
  have split := List.filter_append_perm (fun q : NamedParameter => q.parameter.key.isUnnamed)
    c.parameters
  have named := (split.map NamedParameter.name).symm
  rw [List.map_append] at named
  rw [Compiled.names, Compiled.generated, generatedNames, List.append_assoc]
  exact named.append_left _

namespace Context

def generated (c : Context) : List String := generatedNames c.bindings c.parameters

/-- The names that a context has generated are in use, numbered, and apart from reserved names. -/
structure Fresh (reserved : List String) (c : Context) : Prop where
  reserved_used : ∀ name ∈ reserved, name ∈ c.used
  generated_used : ∀ name ∈ c.generated, name ∈ c.used
  numbered : ∀ name ∈ c.generated, ∃ n, name = numbered c.settings.parameterPrefix n
  not_reserved : ∀ name ∈ c.generated, name ∉ reserved
  nodup : c.generated.Nodup

/-- Names stay apart when the next fresh name is generated. -/
theorem Fresh.generate {reserved : List String} {c c' : Context} (h : Fresh reserved c)
    (settings : c'.settings = c.settings) (used : c'.used = c.freshName :: c.used)
    (generated : c'.generated.Perm (c.freshName :: c.generated)) : Fresh reserved c' where
  reserved_used name mem := by
    rw [used]
    exact List.mem_cons_of_mem _ (h.reserved_used name mem)
  generated_used name mem := by
    rw [used]
    rcases List.mem_cons.1 (generated.mem_iff.1 mem) with rfl | old
    · exact List.mem_cons_self
    · exact List.mem_cons_of_mem _ (h.generated_used name old)
  numbered name mem := by
    rw [settings]
    rcases List.mem_cons.1 (generated.mem_iff.1 mem) with rfl | old
    · exact ⟨c.freshCounter, rfl⟩
    · exact h.numbered name old
  not_reserved name mem := by
    rcases List.mem_cons.1 (generated.mem_iff.1 mem) with rfl | old
    · exact fun taken => c.freshName_not_mem (h.reserved_used _ taken)
    · exact h.not_reserved name old
  nodup := by
    rw [generated.nodup_iff, List.nodup_cons]
    exact ⟨fun old => c.freshName_not_mem (h.generated_used _ old), h.nodup⟩

theorem Step.fresh {reserved : List String} {c c' : Context} {leaf : Leaf} {name : String}
    (step : Step c leaf name c') (h : Fresh reserved c) : Fresh reserved c' := by
  cases step with
  | literal value type => exact h.generate rfl rfl (generatedNames_addBinding ..)
  | known known => exact h
  | @chosen p unknown own =>
    have same : ((c.addUsed p.key.text).addParameter p.key.text p).generated = c.generated :=
      generatedNames_addChosen c.bindings c.parameters own
    exact
      { reserved_used := fun name mem => List.mem_cons_of_mem _ (h.reserved_used name mem)
        generated_used := fun name mem =>
          List.mem_cons_of_mem _ (h.generated_used name (same ▸ mem))
        numbered := fun name mem => h.numbered name (same ▸ mem)
        not_reserved := fun name mem => h.not_reserved name (same ▸ mem)
        nodup := same ▸ h.nodup }
  | generated unknown unnamed =>
    exact h.generate rfl rfl (generatedNames_addUnnamed c.bindings c.parameters unnamed)

end Context

/-! ## Compiled trees -/

namespace Template

theorem initial_used (settings : Settings) (t : Template) :
    (initial settings t).used = (Registry.ofLeaves (leaves t)).names.reverse := by
  rw [initial, Compiled.contextFor_eq]

/-- The names of all named parameters of a template are reserved while it is compiled. -/
theorem fresh_final (settings : Settings) (t : Template) :
    Fresh (Registry.ofLeaves (leaves t)).names (final settings t) := by
  refine nameLeaves_induct ?_ fun _ _ _ _ _ step => step.fresh
  have none : (initial settings t).generated = [] := by
    rw [Context.generated, bindings_initial, parameters_initial]
    rfl
  refine ⟨?_, ?_, ?_, ?_, by rw [none]; exact List.nodup_nil⟩
  · intro name mem
    rw [initial_used]
    exact List.mem_reverse.2 mem
  all_goals
    intro name mem
    rw [none] at mem
    exact absurd mem List.not_mem_nil

theorem numbered_of_mem_generated {settings : Settings} {t : Template} {name : String}
    (mem : name ∈ (compile settings t).1.generated) :
    ∃ n, name = numbered settings.parameterPrefix n := by
  have same : (final settings t).settings = settings := by
    rw [final, settings_nameLeaves, settings_initial]
  rw [compile_fst] at mem
  obtain ⟨n, eq⟩ := (fresh_final settings t).numbered name mem
  exact ⟨n, by rw [eq, same]⟩

/-- A name that was chosen is that of a named parameter or the text of a position. -/
theorem chosen_of_mem {settings : Settings} {t : Template} {name : String}
    (mem : name ∈ chosenNames (compile settings t).1.parameters) :
    name ∈ (Registry.ofLeaves (leaves t)).names ∨
      ∃ position : Nat, name = "?" ++ toString position := by
  obtain ⟨q, listed, rfl⟩ := List.mem_map.1 mem
  obtain ⟨listed, own⟩ := List.mem_filter.1 listed
  rw [Bool.not_eq_true'] at own
  have byKey := namedByKey_compile settings t q listed own
  have registered := key_mem_ofLeaves listed
  rw [byKey]
  cases h : q.parameter.key with
  | named name => exact Or.inl (Registry.mem_names.2 (h ▸ registered))
  | positional position => exact Or.inr ⟨position, rfl⟩
  | unnamed token => simp [h, Parameter.Key.isUnnamed] at own

end Template

/-- No identifier is the text of a position. -/
theorem IsIdentifier.ne_position {text : String} (h : IsIdentifier text) (position : Nat) :
    text ≠ "?" ++ toString position := by
  intro same
  obtain ⟨first, rest, chars, start, -⟩ := isIdentifier_iff.1 h
  rw [same, String.toList_append] at chars
  have first_eq : '?' = first := by simpa using congrArg List.head? chars
  subst first_eq
  exact absurd start (by decide)

/-- No numbered name with an identifier as its stem is the text of a position. -/
theorem numbered_ne_position {stem : String} (h : IsIdentifier stem) (n position : Nat) :
    numbered stem n ≠ "?" ++ toString position :=
  (h.numbered n).ne_position position

theorem numbered_ne_digits {stem : String} (h : IsIdentifier stem) (n position : Nat) :
    numbered stem n ≠ toString position := by
  intro same
  obtain ⟨first, rest, chars, start, -⟩ := isIdentifier_iff.1 (h.numbered n)
  rw [same, Nat.toString_eq_repr, Nat.toList_repr] at chars
  have mem : first ∈ Nat.toDigits 10 position := chars ▸ List.mem_cons_self
  have digit := Nat.isDigit_of_mem_toDigits (by decide) (by decide) mem
  rw [isNameStart_of_isDigit digit] at start
  cases start

theorem Template.compile_generatedOnce {settings : Settings} (valid : settings.Valid)
    (t : Template) :
    (compile settings t).1.GeneratedOnce ((leaves t).filterMap Leaf.parameter?) := by
  have stem := valid.isIdentifier_parameterPrefix
  have fresh := fresh_final settings t
  have final_generated : (final settings t).generated = (compile settings t).1.generated := by
    rw [compile_fst]
    rfl
  have nodup := fresh.nodup
  have apart := fresh.not_reserved
  rw [final_generated] at nodup apart
  have position_free (position : Nat) :
      "?" ++ toString position ∉ (compile settings t).1.generated := by
    intro mem
    obtain ⟨n, same⟩ := numbered_of_mem_generated mem
    exact numbered_ne_position stem n position same.symm
  refine ⟨?_, nodup, ?_, fun p _ position _ => position_free position⟩
  · intro name mem
    have unchosen : name ∉ chosenNames (compile settings t).1.parameters := by
      intro chosen
      rcases chosen_of_mem chosen with reserved | ⟨position, rfl⟩
      · exact apart name mem reserved
      · exact position_free position mem
    rw [(names_perm (compile settings t).1).count_eq, List.count_append,
      List.count_eq_one_of_mem nodup mem, List.count_eq_zero_of_not_mem unchosen]
  · intro p mem name key
    have registered : Parameter.Key.named name ∈ (Registry.ofLeaves (leaves t)).keys :=
      Registry.mem_keys_ofLeaves.2 (key ▸ List.mem_map_of_mem mem)
    exact fun generated => apart name generated (Registry.mem_names.2 registered)

/--
Under valid settings every generated name stands alone.

It occurs once among the names of a compiled expression or query. No other name is like it: neither
a generated one, nor that of a named parameter anywhere in the tree, nor a position.
-/
theorem generatedOnce_of_valid (settings : Settings) (valid : settings.Valid) :
    (∀ e : Expr, (e.compile settings).1.GeneratedOnce e.parameters) ∧
      ∀ (q : Query) (outcome : Compiled × List Log.Event), q.compile settings = .ok outcome →
        outcome.1.GeneratedOnce q.parameters := by
  constructor
  · intro e
    rw [e.compile_eq]
    exact Template.compile_generatedOnce valid e.template
  · intro q outcome compiled
    obtain ⟨t, -, same, rfl⟩ := q.exists_template compiled
    rw [Query.parameters, ← same]
    exact Template.compile_generatedOnce valid t

/-- A parameter behind a literal is called like the first generated name, which moves on. -/
theorem generatedOnce_of_late_parameter :
    let number (n : Int32) : Expr := .literal (.scalar (.int n)) (some .int)
    let late : Expr := .comparison .equal (number 1) (.parameter ⟨.named "param0", .int⟩)
    let query : Query := ((Query.start "t").addRoot "Person").2.select [number 2]
      |>.restrict late |>.orderBy ⟨.parameter ⟨.named "param2", .int⟩, .ascending⟩
    (late.compile .standard).1.names = ["param1", "param0"] ∧
      (late.compile .standard).1.GeneratedOnce late.parameters ∧
      ∃ outcome, query.compile .standard = .ok outcome ∧
        outcome.1.names = ["param1", "param3", "param0", "param2"] ∧
        outcome.1.GeneratedOnce query.parameters := by
  intro number late query
  have once := generatedOnce_of_valid .standard Settings.standard_valid
  exact ⟨by decide +kernel, once.1 late, _, rfl, by decide +kernel, once.2 query _ rfl⟩

end ParamQuery
