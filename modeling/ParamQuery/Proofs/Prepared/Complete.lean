import ParamQuery.Proofs.Naming.Generated
import ParamQuery.Proofs.Prepared.LastWrite

/-!
# Binding all parameters

From compiling to a complete query: if no two explicit parameters share a name, the literals are
bound by preparing, binding every registered parameter once, in any order, succeeds and completes
the query, and then every name in the text has the value that its leaf means.
-/

namespace ParamQuery

/-- The value that a leaf means if explicit parameters have the given values. -/
def Leaf.valueUnder (values : Parameter.Key → Value) : Leaf → Value
  | .literal value _ => value
  | .parameter p => values p.key

namespace Prepared

def bindAll : List (Parameter × Value) → Prepared → Except QueryError Prepared
  | [], p => .ok p
  | (parameter, value) :: rest, p => do
    let next ← p.bind parameter value
    bindAll rest next

end Prepared

namespace Compiled

/-- What a compiled query needs so that its parameters can be told apart by key and by name. -/
structure Distinct (c : Compiled) : Prop where
  names : c.names.Nodup
  keys : (NamedParameter.keys c.parameters).Nodup

/-- Preparing binds every literal and no explicit parameter. -/
theorem Distinct.exists_prepare {c : Compiled} (h : c.Distinct) :
    ∃ p, c.prepare = .ok p ∧ p.declared = c.declared ∧
      ∀ b ∈ c.bindings, p.value? b.name = some b.value := by
  obtain ⟨p, prepares, tracks⟩ := c.exists_prepare_tracks
  refine ⟨p, prepares, tracks.declared, fun b mem => ?_⟩
  obtain ⟨value, has⟩ := Option.isSome_iff_exists.1 (tracks.isBound_literal mem)
  obtain ⟨other, listed, entry⟩ := List.mem_map.1 (List.mem_reverse.1 (tracks.mem_of_value? has))
  obtain ⟨name, rfl⟩ := Prod.mk.inj entry
  have literals : (c.bindings.map Binding.name).Nodup := (List.nodup_append.1 h.names).1
  rw [has, List.inj_on_of_nodup_map literals listed mem name]

/-- Binding a parameter of the table writes to its name there, if it takes the value. -/
theorem Distinct.exists_bind {c : Compiled} (h : c.Distinct) {p : Prepared}
    (same : p.declared = c.declared) {q : NamedParameter} (mem : q ∈ c.parameters)
    {parameter : Parameter} (key : q.parameter.key = parameter.key) {value : Value}
    (suits : value.isNull = true ∨ value.type = q.parameter.type) :
    ∃ next, p.bind parameter value = .ok next ∧ p.Wrote q.name value next := by
  have named : NamedParameter.nameIn? c.parameters parameter.key = some q.name :=
    key ▸ NamedParameter.nameIn?_eq_some_of_mem h.keys mem
  have once := List.count_eq_one_of_mem h.names
    (List.mem_append_right _ (List.mem_map_of_mem mem))
  obtain ⟨next, bound⟩ := (exists_bind_iff mem h.keys once same key.symm value).2 suits
  exact ⟨next, bound, bind_wrote same named bound⟩

theorem Distinct.name_eq_iff {c : Compiled} (h : c.Distinct) {q r : NamedParameter}
    (mem_q : q ∈ c.parameters) (mem_r : r ∈ c.parameters) :
    q.name = r.name ↔ q.parameter.key = r.parameter.key := by
  have names : (c.parameters.map NamedParameter.name).Nodup := (List.nodup_append.1 h.names).2.1
  constructor
  · intro same
    rw [List.inj_on_of_nodup_map names mem_q mem_r same]
  · intro same
    have keys : (c.parameters.map fun q => q.parameter.key).Nodup := h.keys
    rw [List.inj_on_of_nodup_map keys mem_q mem_r same]

theorem Distinct.binding_name_ne {c : Compiled} (h : c.Distinct) {b : Binding} {q : NamedParameter}
    (mem_b : b ∈ c.bindings) (mem_q : q ∈ c.parameters) : b.name ≠ q.name :=
  (List.nodup_append.1 h.names).2.2 _ (List.mem_map_of_mem mem_b) _ (List.mem_map_of_mem mem_q)

/--
Binding parameters of the table succeeds, whatever their order.

Those that are bound have their values then; nothing else has changed.
-/
theorem Distinct.exists_bindAll {c : Compiled} (h : c.Distinct) (values : Parameter.Key → Value)
    {order : List Parameter} {p : Prepared} (same : p.declared = c.declared)
    (suited : ∀ parameter ∈ order, ∃ q ∈ c.parameters, q.parameter.key = parameter.key ∧
      ((values parameter.key).isNull = true ∨ (values parameter.key).type = q.parameter.type)) :
    ∃ last, p.bindAll (order.map fun parameter => (parameter, values parameter.key)) = .ok last ∧
      last.declared = c.declared ∧
      (∀ q ∈ c.parameters, last.value? q.name =
        if q.parameter.key ∈ order.map Parameter.key then some (values q.parameter.key)
        else p.value? q.name) ∧
      ∀ b ∈ c.bindings, last.value? b.name = p.value? b.name := by
  induction order generalizing p with
  | nil =>
    refine ⟨p, rfl, same, fun q _ => ?_, fun _ _ => rfl⟩
    rw [List.map_nil, if_neg List.not_mem_nil]
  | cons parameter rest ih =>
    obtain ⟨q₀, mem₀, key₀, suits⟩ := suited parameter List.mem_cons_self
    obtain ⟨next, bound, wrote⟩ := h.exists_bind same mem₀ key₀ suits
    obtain ⟨last, all, declared, explicit, literals⟩ :=
      ih (wrote.declared.trans same) fun x mem => suited x (List.mem_cons_of_mem _ mem)
    refine ⟨last, ?_, declared, ?_, ?_⟩
    · rw [List.map_cons, Prepared.bindAll, bound]
      exact all
    · intro q mem
      have same_name := h.name_eq_iff mem mem₀
      rw [key₀] at same_name
      rw [explicit q mem, wrote.value?, List.map_cons]
      by_cases first : q.parameter.key = parameter.key
      · rw [if_pos (same_name.2 first), first, if_pos List.mem_cons_self, ite_self]
      · rw [if_neg (mt same_name.1 first)]
        simp only [List.mem_cons, first, false_or]
    · intro b mem
      rw [literals b mem, wrote.value?, if_neg (h.binding_name_ne mem mem₀)]

theorem Distinct.exists_complete {c : Compiled} (h : c.Distinct) (values : Parameter.Key → Value)
    (suited : ∀ p ∈ c.parameters.map NamedParameter.parameter,
      (values p.key).isNull = true ∨ (values p.key).type = p.type)
    {order : List Parameter} (all : order.Perm (c.parameters.map NamedParameter.parameter)) :
    ∃ prepared complete, c.prepare = .ok prepared ∧
      prepared.bindAll (order.map fun p => (p, values p.key)) = .ok complete ∧
      complete.ensureComplete = .ok () ∧
      (∀ b ∈ c.bindings, complete.value? b.name = some b.value) ∧
      ∀ q ∈ c.parameters, complete.value? q.name = some (values q.parameter.key) := by
  obtain ⟨prepared, prepares, same, literals⟩ := h.exists_prepare
  have listed : ∀ p ∈ order, ∃ q ∈ c.parameters, q.parameter.key = p.key ∧
      ((values p.key).isNull = true ∨ (values p.key).type = q.parameter.type) := by
    intro p mem
    obtain ⟨q, found, rfl⟩ := List.mem_map.1 (all.mem_iff.1 mem)
    exact ⟨q, found, rfl, suited _ (List.mem_map_of_mem found)⟩
  obtain ⟨complete, binds, declared, explicit, kept⟩ := h.exists_bindAll values same listed
  have bound : ∀ q ∈ c.parameters, complete.value? q.name = some (values q.parameter.key) := by
    intro q mem
    have mem_order : q.parameter ∈ order := all.mem_iff.2 (List.mem_map_of_mem mem)
    rw [explicit q mem, if_pos (List.mem_map_of_mem mem_order)]
  have unchanged : ∀ b ∈ c.bindings, complete.value? b.name = some b.value :=
    fun b mem => (kept b mem).trans (literals b mem)
  have done : complete.ensureComplete = .ok () := by
    rw [ensureComplete_eq_ok_iff declared]
    intro name mem
    rw [Prepared.isBound]
    rcases List.mem_append.1 mem with literal | explicit
    · obtain ⟨b, listed, rfl⟩ := List.mem_map.1 literal
      rw [unchanged b listed, Option.isSome_some]
    · obtain ⟨q, listed, rfl⟩ := List.mem_map.1 explicit
      rw [bound q listed, Option.isSome_some]
  exact ⟨prepared, complete, prepares, binds, done, unchanged, bound⟩

/-- All names differ if the chosen ones do, since every generated name stands alone. -/
theorem GeneratedOnce.nodup_names {c : Compiled} {parameters : List Parameter}
    (h : c.GeneratedOnce parameters) (distinct : (c.parameters.map NamedParameter.name).Nodup) :
    c.names.Nodup := by
  refine List.nodup_append.2 ⟨(List.nodup_append.1 h.nodup).1, distinct, ?_⟩
  rintro _ literal _ explicit rfl
  obtain ⟨b, mem, rfl⟩ := List.mem_map.1 literal
  exact h.binding_name_not_mem mem explicit

end Compiled

/--
Binding every registered parameter completes a query whose explicit parameters have distinct names.

Preparing succeeds, every bind succeeds whatever the order, and each name in the text has the value
that is meant there: the literal's own value, or the value for the key of the explicit parameter.
-/
theorem bindAll_complete (settings : Settings) (valid : settings.Valid) (e : Expr)
    (distinct : ((e.compile settings).1.parameters.map NamedParameter.name).Nodup)
    (values : Parameter.Key → Value)
    (suited : ∀ p ∈ (e.compile settings).1.registry.parameters,
      (values p.key).isNull = true ∨ (values p.key).type = p.type)
    (order : List Parameter) (all : order.Perm (e.compile settings).1.registry.parameters) :
    ∃ names prepared complete,
      (e.compile settings).1.Names e.leaves names ∧
      (e.compile settings).1.text =
        Template.fill e.template (Leaf.tokens settings.marker e.leaves names) ∧
      (e.compile settings).1.prepare = .ok prepared ∧
      prepared.bindAll (order.map fun p => (p, values p.key)) = .ok complete ∧
      complete.ensureComplete = .ok () ∧
      List.Forall₂ (fun leaf name => complete.value? name = some (leaf.valueUnder values))
        e.leaves names := by
  rw [e.compile_eq] at distinct suited all ⊢
  obtain ⟨names, named, text⟩ := Template.exists_names_compile settings e.template
  rw [Template.registry_compile, ← Template.parameters_compile] at suited all
  have separate : (Template.compile settings e.template).1.Distinct :=
    ⟨(Template.compile_generatedOnce valid e.template).nodup_names distinct,
      Template.nodup_keys_compile settings e.template⟩
  obtain ⟨prepared, complete, prepares, binds, done, literals, explicit⟩ :=
    separate.exists_complete values suited all
  refine ⟨names, prepared, complete, named, text, prepares, binds, done, ?_⟩
  refine named.forall₂ literals fun p name _ looked => ?_
  obtain ⟨q, mem, key, rfl⟩ := NamedParameter.exists_of_nameIn? looked
  rw [explicit q mem, key]
  rfl

/-- Three kinds of parameters, one of them twice, are bound from last to first. -/
theorem bindAll_complete_mixed :
    let name : Parameter := ⟨.named "param0", .string⟩
    let position : Parameter := ⟨.positional 2, .int⟩
    let unnamed : Parameter := ⟨.unnamed "a", .bool⟩
    let e : Expr := .junction .and
      [.comparison .equal (.parameter name) (.literal (.scalar (.string "x")) (some .string)),
        .case (some (.parameter position)) none none
          [(.parameter unnamed, .parameter name)] (some (.literal (.null .int) none))]
    let values : Parameter.Key → Value
      | .named _ => .scalar (.string "y")
      | .positional _ => .scalar (.int 3)
      | .unnamed _ => .null .string
    ∃ names prepared complete,
      (e.compile .standard).1.Names e.leaves names ∧
      (e.compile .standard).1.text = Template.fill e.template (Leaf.tokens ':' e.leaves names) ∧
      (e.compile .standard).1.prepare = .ok prepared ∧
      prepared.bindAll ([unnamed, position, name].map fun p => (p, values p.key)) = .ok complete ∧
      complete.ensureComplete = .ok () ∧
      List.Forall₂ (fun leaf name => complete.value? name = some (leaf.valueUnder values))
        e.leaves names := by
  intro name position unnamed e values
  exact bindAll_complete .standard Settings.standard_valid e (by decide +kernel) values
    (by decide +kernel) [unnamed, position, name] (by decide +kernel)

end ParamQuery
