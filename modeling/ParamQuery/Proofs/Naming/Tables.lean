import Mathlib.Data.List.Nodup
import ParamQuery.Proofs.Naming.Step
import ParamQuery.Proofs.Template.Query

/-!
# The tables of a compiled query

Naming leaves fills two tables. The table of parameters lists the registered parameters, in the
order in which they are registered (`parameters_nameLeaves`), and the name of one that is not
unnamed is the text of its key. The two tables together determine every name in the text: literals
take the bindings in their order, and parameters are looked up (`tablesName_nameLeaves`).
-/

namespace ParamQuery

open Context

/-! ## Looking up by a key -/

/-- In a list without duplicate keys, an entry is what is found under its key. -/
theorem find?_eq_of_nodup_keys {α κ : Type} [BEq κ] [LawfulBEq κ] (key : α → κ) {entries : List α}
    {entry : α} (nodup : (entries.map key).Nodup) (mem : entry ∈ entries) :
    entries.find? (fun other => key other == key entry) = some entry := by
  cases h : entries.find? (fun other => key other == key entry) with
  | none =>
    have missing := List.find?_eq_none.1 h entry mem
    simp at missing
  | some other =>
    have same : key other = key entry := by simpa using List.find?_some h
    rw [List.inj_on_of_nodup_map nodup (List.mem_of_find?_eq_some h) mem same]

/-! ## Registries of leaves -/

namespace Registry

def keys (r : Registry) : List Parameter.Key := r.parameters.map Parameter.key

theorem keys_register (r : Registry) (p : Parameter) :
    (r.register p).keys = if p.key ∈ r.keys then r.keys else r.keys ++ [p.key] := by
  by_cases listed : p.key ∈ r.keys
  · have contained : r.contains p = true := (contains_iff r p).2 listed
    rw [if_pos listed, register, if_pos contained]
  · have missing : ¬ r.contains p = true := fun contained => listed ((contains_iff r p).1 contained)
    rw [if_neg listed, register, if_neg missing]
    simp only [keys, List.map_append, List.map_cons, List.map_nil]

theorem mem_keys_register {r : Registry} {p : Parameter} {key : Parameter.Key} :
    key ∈ (r.register p).keys ↔ key ∈ r.keys ∨ key = p.key := by
  rw [keys_register]
  split
  next listed =>
    constructor
    · exact Or.inl
    · rintro (mem | rfl)
      · exact mem
      · exact listed
  next => simp only [List.mem_append, List.mem_singleton]

theorem mem_keys_foldl {leaves : List Leaf} {r : Registry} {key : Parameter.Key} :
    key ∈ (leaves.foldl Leaf.register r).keys ↔
      key ∈ r.keys ∨ key ∈ (leaves.filterMap Leaf.parameter?).map Parameter.key := by
  induction leaves generalizing r with
  | nil => simp
  | cons leaf rest ih =>
    cases leaf with
    | literal value type => simp [ih, Leaf.register, Leaf.parameter?]
    | parameter p => simp [ih, Leaf.register, Leaf.parameter?, mem_keys_register, or_assoc]

/-- The keys of a registry of leaves are those of the explicit parameters among them. -/
theorem mem_keys_ofLeaves {leaves : List Leaf} {key : Parameter.Key} :
    key ∈ (ofLeaves leaves).keys ↔
      key ∈ (leaves.filterMap Leaf.parameter?).map Parameter.key := by
  have unlisted : key ∉ empty.keys := List.not_mem_nil
  rw [ofLeaves, mem_keys_foldl]
  exact or_iff_right unlisted

theorem nodup_keys_foldl {leaves : List Leaf} {r : Registry} (nodup : r.keys.Nodup) :
    (leaves.foldl Leaf.register r).keys.Nodup := by
  induction leaves generalizing r with
  | nil => exact nodup
  | cons leaf rest ih =>
    cases leaf with
    | literal value type => exact ih nodup
    | parameter p => exact ih (nodup_register p nodup)

theorem nodup_keys_ofLeaves (leaves : List Leaf) : (ofLeaves leaves).keys.Nodup :=
  nodup_keys_foldl List.nodup_nil

theorem mem_names {r : Registry} {name : String} :
    name ∈ r.names ↔ Parameter.Key.named name ∈ r.keys := by
  simp only [names, keys, List.mem_filterMap, List.mem_map]
  constructor
  · rintro ⟨p, mem, h⟩
    refine ⟨p, mem, ?_⟩
    unfold Parameter.name? at h
    split at h
    next key same =>
      cases h
      exact same
    next => cases h
  · rintro ⟨p, mem, h⟩
    exact ⟨p, mem, by simp [Parameter.name?, h]⟩

end Registry

/-! ## Names of parameters -/

namespace NamedParameter

def keys (parameters : List NamedParameter) : List Parameter.Key :=
  parameters.map fun q => q.parameter.key

def NamedByKey (parameters : List NamedParameter) : Prop :=
  ∀ q ∈ parameters, q.parameter.key.isUnnamed = false → q.name = q.parameter.key.text

theorem nameIn?_eq_none_iff {parameters : List NamedParameter} {key : Parameter.Key} :
    nameIn? parameters key = none ↔ key ∉ keys parameters := by
  simp [nameIn?, keys]

theorem exists_of_nameIn? {parameters : List NamedParameter} {key : Parameter.Key} {name : String}
    (h : nameIn? parameters key = some name) :
    ∃ q ∈ parameters, q.parameter.key = key ∧ q.name = name := by
  obtain ⟨q, found, same⟩ := Option.map_eq_some_iff.1 h
  exact ⟨q, List.mem_of_find?_eq_some found, by simpa using List.find?_some found, same⟩

theorem mem_keys_of_nameIn? {parameters : List NamedParameter} {key : Parameter.Key}
    {name : String} (h : nameIn? parameters key = some name) : key ∈ keys parameters := by
  obtain ⟨q, mem, rfl, -⟩ := exists_of_nameIn? h
  exact List.mem_map_of_mem mem

/-- A table without duplicate keys holds the name of each of its entries. -/
theorem nameIn?_eq_some_of_mem {parameters : List NamedParameter} (nodup : (keys parameters).Nodup)
    {q : NamedParameter} (mem : q ∈ parameters) :
    nameIn? parameters q.parameter.key = some q.name := by
  rw [nameIn?, find?_eq_of_nodup_keys (fun q : NamedParameter => q.parameter.key) nodup mem]
  rfl

theorem nameIn?_append {parameters : List NamedParameter} {key : Parameter.Key} {name : String}
    (h : nameIn? parameters key = some name) (more : List NamedParameter) :
    nameIn? (parameters ++ more) key = some name := by
  obtain ⟨q, found, same⟩ := Option.map_eq_some_iff.1 h
  rw [nameIn?, List.find?_append, found]
  exact congrArg some same

end NamedParameter

/-! ## Tables and leaves -/

/--
Tables give names to leaves.

The bindings are those of the literals in their order, and the names of explicit parameters are
looked up.
-/
inductive TablesName (parameters : List NamedParameter) :
    List Binding → List Leaf → List String → Prop
  | nil : TablesName parameters [] [] []
  | literal {value : Value} {type : Option ValueType} {name : String} {bindings : List Binding}
      {leaves : List Leaf} {names : List String}
      (rest : TablesName parameters bindings leaves names) :
    TablesName parameters (⟨name, value, type⟩ :: bindings) (.literal value type :: leaves)
      (name :: names)
  | parameter {p : Parameter} {name : String} {bindings : List Binding} {leaves : List Leaf}
      {names : List String} (looked : NamedParameter.nameIn? parameters p.key = some name)
      (rest : TablesName parameters bindings leaves names) :
    TablesName parameters bindings (.parameter p :: leaves) (name :: names)

/-- What tables say of each literal and of each explicit parameter holds of the leaves they name. -/
theorem TablesName.forall₂ {R : Leaf → String → Prop} {parameters : List NamedParameter}
    {bindings : List Binding} {leaves : List Leaf} {names : List String}
    (named : TablesName parameters bindings leaves names)
    (literal : ∀ b ∈ bindings, R (.literal b.value b.type) b.name)
    (parameter : ∀ p name, .parameter p ∈ leaves →
      NamedParameter.nameIn? parameters p.key = some name → R (.parameter p) name) :
    List.Forall₂ R leaves names := by
  induction named with
  | nil => exact .nil
  | literal rest ih =>
    refine .cons (literal _ List.mem_cons_self) (ih ?_ ?_)
    · exact fun b mem => literal b (List.mem_cons_of_mem _ mem)
    · exact fun p name mem => parameter p name (List.mem_cons_of_mem _ mem)
  | parameter looked rest ih =>
    refine .cons (parameter _ _ List.mem_cons_self looked) (ih literal ?_)
    exact fun p name mem => parameter p name (List.mem_cons_of_mem _ mem)

/-- The tables of a compiled query give these names to leaves. -/
def Compiled.Names (c : Compiled) (leaves : List Leaf) (names : List String) : Prop :=
  TablesName c.parameters c.bindings leaves names

namespace Context

theorem Step.grows {c c' : Context} {leaf : Leaf} {name : String} (step : Step c leaf name c') :
    (∃ more, c'.parameters = c.parameters ++ more) ∧ ∃ more, c'.bindings = c.bindings ++ more := by
  cases step with
  | literal value type => exact ⟨⟨[], (List.append_nil _).symm⟩, _, rfl⟩
  | known known => exact ⟨⟨[], (List.append_nil _).symm⟩, [], (List.append_nil _).symm⟩
  | chosen unknown own => exact ⟨⟨_, rfl⟩, [], (List.append_nil _).symm⟩
  | generated unknown unnamed => exact ⟨⟨_, rfl⟩, [], (List.append_nil _).symm⟩

/-- After a step with an explicit parameter, the table holds the name of the step. -/
theorem Step.nameIn?_eq {c c' : Context} {p : Parameter} {name : String}
    (step : Step c (.parameter p) name c') :
    NamedParameter.nameIn? c'.parameters p.key = some name := by
  have added (unknown : NamedParameter.nameIn? c.parameters p.key = none) :
      NamedParameter.nameIn? (c.parameters ++ [⟨name, p⟩]) p.key = some name := by
    have absent := Option.map_eq_none_iff.1 unknown
    simp [NamedParameter.nameIn?, List.find?_append, absent]
  cases step with
  | known known => exact known
  | chosen unknown own => exact added unknown
  | generated unknown unnamed => exact added unknown

/-- A step changes the table of parameters like a registration. -/
theorem Step.parameters_eq {c c' : Context} {leaf : Leaf} {name : String}
    (step : Step c leaf name c') :
    c'.parameters.map NamedParameter.parameter =
      (Leaf.register ⟨c.parameters.map NamedParameter.parameter⟩ leaf).parameters := by
  have listed (p : Parameter) :
      Registry.contains ⟨c.parameters.map NamedParameter.parameter⟩ p = true ↔
        p.key ∈ NamedParameter.keys c.parameters := by
    rw [Registry.contains_iff, List.map_map]
    rfl
  have added {p : Parameter} (name : String)
      (unknown : NamedParameter.nameIn? c.parameters p.key = none) :
      (c.parameters ++ [NamedParameter.mk name p]).map NamedParameter.parameter =
        (Registry.register ⟨c.parameters.map NamedParameter.parameter⟩ p).parameters := by
    have missing := mt (listed p).1 (NamedParameter.nameIn?_eq_none_iff.1 unknown)
    simp [Registry.register, missing]
  cases step with
  | literal value type => rfl
  | @known p name known =>
    have contained := (listed p).2 (NamedParameter.mem_keys_of_nameIn? known)
    simp [Leaf.register, Registry.register, contained]
  | @chosen p unknown own => exact added _ unknown
  | @generated p unknown unnamed => exact added _ unknown

theorem Step.namedByKey {c c' : Context} {leaf : Leaf} {name : String} (step : Step c leaf name c')
    (h : NamedParameter.NamedByKey c.parameters) : NamedParameter.NamedByKey c'.parameters := by
  have added {name : String} {p : Parameter} (own : p.key.isUnnamed = false → name = p.key.text) :
      NamedParameter.NamedByKey (c.parameters ++ [⟨name, p⟩]) := by
    intro q mem
    rcases List.mem_append.1 mem with old | new
    · exact h q old
    · rw [List.mem_singleton] at new
      subst new
      exact own
  cases step with
  | literal value type => exact h
  | known known => exact h
  | chosen unknown own => exact added fun _ => rfl
  | generated unknown unnamed => exact added fun own => by simp [unnamed] at own

end Context

/-- Naming leaves changes the table of parameters like registering them. -/
theorem parameters_nameLeaves (leaves : List Leaf) (c : Context) :
    (nameLeaves leaves c).2.parameters.map NamedParameter.parameter =
      (leaves.foldl Leaf.register ⟨c.parameters.map NamedParameter.parameter⟩).parameters := by
  induction leaves generalizing c with
  | nil => rfl
  | cons leaf rest ih =>
    have first := (step_name leaf c).parameters_eq
    have later := ih (leaf.name c).2
    rw [first] at later
    exact later

theorem nameLeaves_grows (leaves : List Leaf) (c : Context) :
    ∃ more, (nameLeaves leaves c).2.parameters = c.parameters ++ more := by
  refine nameLeaves_induct (P := fun c' => ∃ more, c'.parameters = c.parameters ++ more)
    ⟨[], (List.append_nil _).symm⟩ ?_
  rintro _ _ _ _ _ step ⟨more, same⟩
  obtain ⟨⟨new, grown⟩, -⟩ := step.grows
  exact ⟨more ++ new, by rw [grown, same, List.append_assoc]⟩

/-- The tables that leaves leave behind give them the names that they got. -/
theorem tablesName_nameLeaves (leaves : List Leaf) (c : Context) :
    ∃ bindings, (nameLeaves leaves c).2.bindings = c.bindings ++ bindings ∧
      TablesName (nameLeaves leaves c).2.parameters bindings leaves (nameLeaves leaves c).1 := by
  induction leaves generalizing c with
  | nil => exact ⟨[], (List.append_nil _).symm, .nil⟩
  | cons leaf rest ih =>
    rw [nameLeaves_cons]
    have step := step_name leaf c
    generalize (leaf.name c).1 = name, (leaf.name c).2 = next at step ⊢
    obtain ⟨bindings, same, named⟩ := ih next
    cases leaf with
    | literal value type =>
      cases step
      exact ⟨_, same.trans (List.append_assoc ..), .literal named⟩
    | parameter p =>
      obtain ⟨more, grown⟩ := nameLeaves_grows rest next
      refine ⟨bindings, by rw [same, step.bindings_eq], .parameter ?_ named⟩
      rw [grown]
      exact NamedParameter.nameIn?_append step.nameIn?_eq more

end ParamQuery
