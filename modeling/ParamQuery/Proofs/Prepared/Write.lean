import ParamQuery.Prepared
import ParamQuery.Proofs.Naming.Tables

/-!
# Writes to prepared queries

A write succeeds exactly when its name is declared and the first declaration of the name takes the
value. A successful write gives the name the value and changes nothing else (`write_wrote`), and so
binding an explicit parameter is a write to the name that the table of parameters holds for its key.
-/

namespace ParamQuery

/-- Whether a declared name takes a value: that of an explicit parameter is not of another type. -/
def Declared.Takes (d : Declared) (value : Value) : Prop :=
  ∀ p, d.explicit? = some p → value.isNull = true ∨ value.type = p.type

namespace Prepared

def declaration? (p : Prepared) (name : String) : Option Declared :=
  p.declared.find? fun d => d.name == name

/-- What a successful write changes: one value, and nothing that a query says about itself. -/
structure Wrote (p : Prepared) (name : String) (value : Value) (q : Prepared) : Prop where
  text : q.text = p.text
  declared : q.declared = p.declared
  value? : ∀ n, q.value? n = if n = name then some value else p.value? n

theorem put_wrote (p : Prepared) (name : String) (value : Value) :
    p.Wrote name value (p.put name value) :=
  ⟨rfl, rfl, fun n => p.value?_put name n value⟩

theorem rebind_wrote (p : Prepared) (name : String) (value : Value) :
    p.Wrote name value (p.rebind name value) := by
  unfold rebind
  split
  · exact ⟨rfl, rfl, fun n => (p.report _).value?_put name n value⟩
  · exact p.put_wrote name value

/-- A successful write is to a declared name that takes the value, and changes just that. -/
theorem write_wrote {p q : Prepared} {name : String} {value : Value}
    (h : p.write name value = .ok q) :
    (∃ d, p.declaration? name = some d ∧ d.Takes value) ∧ p.Wrote name value q := by
  unfold write at h
  split at h
  next => cases h
  next first found =>
    cases h
    exact ⟨⟨_, found, fun p same => by simp at same⟩, p.put_wrote name value⟩
  next first parameter found =>
    split at h
    next null =>
      cases h
      rw [Value.runtimeType?_eq_none_iff] at null
      exact ⟨⟨_, found, fun _ _ => Or.inl null⟩, p.rebind_wrote name value⟩
    next actual shown =>
      split at h
      next same =>
        cases h
        refine ⟨⟨_, found, fun other declared => Or.inr ?_⟩, p.rebind_wrote name value⟩
        cases declared
        cases value with
        | null type => simp at shown
        | scalar s =>
          rw [Value.runtimeType?_scalar, Option.some.injEq] at shown
          exact shown.trans same
      next => cases h

theorem exists_write {p : Prepared} {name : String} {value : Value} {d : Declared}
    (found : p.declaration? name = some d) (takes : d.Takes value) :
    ∃ q, p.write name value = .ok q := by
  obtain ⟨first, explicit?⟩ := d
  unfold declaration? at found
  unfold write
  rw [found]
  cases explicit? with
  | none => exact ⟨_, rfl⟩
  | some parameter =>
    rcases takes parameter rfl with null | same
    · rw [(Value.runtimeType?_eq_none_iff value).2 null]
      exact ⟨_, rfl⟩
    · cases value with
      | null type => exact ⟨_, rfl⟩
      | scalar s => exact ⟨_, if_pos same⟩

theorem write_eq_error_of_undeclared {p : Prepared} {name : String} (value : Value)
    (missing : p.declaration? name = none) :
    p.write name value = .error (.unknownParameter name) := by
  unfold declaration? at missing
  rw [write, missing]

theorem write_eq_error_of_type {p : Prepared} {name first : String} {parameter : Parameter}
    {value : Value} (found : p.declaration? name = some ⟨first, some parameter⟩)
    (unfit : value.fits parameter.type = false) :
    p.write name value = .error (.typeMismatch name parameter.type value.type) := by
  unfold declaration? at found
  cases value with
  | null type => cases unfit
  | scalar s =>
    have other : s.type ≠ parameter.type := by simpa [Value.fits] using unfit
    rw [write, found]
    exact if_neg other

theorem exists_write_iff {p : Prepared} {name : String} {value : Value} :
    (∃ q, p.write name value = .ok q) ↔ ∃ d, p.declaration? name = some d ∧ d.Takes value := by
  constructor
  · rintro ⟨q, written⟩
    exact (write_wrote written).1
  · rintro ⟨d, found, takes⟩
    exact exists_write found takes

end Prepared

namespace Compiled

theorem map_name_declared (c : Compiled) : c.declared.map Declared.name = c.names := by
  simp [declared, names, Function.comp_def]

theorem mem_declared_of_parameter {c : Compiled} {q : NamedParameter} (mem : q ∈ c.parameters) :
    ⟨q.name, some q.parameter⟩ ∈ c.declared :=
  List.mem_append_right _ (List.mem_map_of_mem mem)

/-- The first declaration of a name is that of a literal, if there is one. -/
theorem find?_declared_eq (c : Compiled) (name : String) :
    c.declared.find? (fun d => d.name == name) =
      if name ∈ c.bindings.map Binding.name then some ⟨name, none⟩
      else (c.parameters.find? fun q => q.name == name).map fun q => ⟨q.name, some q.parameter⟩ := by
  rw [declared, List.find?_append, List.find?_map, List.find?_map]
  split
  next mem =>
    obtain ⟨b, listed, same⟩ := List.mem_map.1 mem
    cases h : c.bindings.find? fun b => b.name == name with
    | none => exact absurd (List.find?_eq_none.1 h b listed) (by simp [same])
    | some found =>
      have named : found.name = name := by simpa using List.find?_some h
      simp only [Function.comp_def, h, Option.map_some, Option.some_or, named]
  next missing =>
    have none : c.bindings.find? (fun b => b.name == name) = none := by
      rw [List.find?_eq_none]
      intro b mem same
      exact missing (List.mem_map.2 ⟨b, mem, by simpa using same⟩)
    simp only [Function.comp_def, none, Option.map_none, Option.none_or]

/-- If no other parameter has its name, a declaration is what is found under the name. -/
theorem find?_declared_of_count {c : Compiled} {d : Declared} (mem : d ∈ c.declared)
    (once : c.names.count d.name = 1) :
    c.declared.find? (fun other => other.name == d.name) = some d := by
  rw [← c.map_name_declared, List.count_eq_countP, List.countP_map, List.countP_eq_length_filter,
    List.length_eq_one_iff] at once
  obtain ⟨only, same⟩ := once
  have unique : ∀ other ∈ c.declared, other.name = d.name → other = only := by
    intro other listed name
    have kept : other ∈ [only] := same ▸ List.mem_filter.2 ⟨listed, by simp [name]⟩
    exact List.mem_singleton.1 kept
  cases h : c.declared.find? (fun other => other.name == d.name) with
  | none => exact absurd (List.find?_eq_none.1 h d mem) (by simp)
  | some found =>
    have name : found.name = d.name := by simpa using List.find?_some h
    rw [unique found (List.mem_of_find?_eq_some h) name, ← unique d mem rfl]

/-- The name of a literal takes anything, others what their first explicit parameter takes. -/
theorem exists_write_iff {c : Compiled} {p : Prepared} (same : p.declared = c.declared)
    (name : String) (value : Value) :
    (∃ next, p.write name value = .ok next) ↔
      name ∈ c.bindings.map Binding.name ∨
        ∃ q, (c.parameters.find? fun q => q.name == name) = some q ∧
          (value.isNull = true ∨ value.type = q.parameter.type) := by
  have first : p.declaration? name = _ := same ▸ c.find?_declared_eq name
  rw [Prepared.exists_write_iff, first]
  by_cases literal : name ∈ c.bindings.map Binding.name
  · simp only [literal, if_true, true_or, iff_true]
    refine ⟨_, rfl, fun p same => ?_⟩
    cases same
  · simp only [literal, if_false, false_or, Option.map_eq_some_iff]
    constructor
    · rintro ⟨d, ⟨q, found, rfl⟩, takes⟩
      exact ⟨q, found, takes q.parameter rfl⟩
    · rintro ⟨q, found, suits⟩
      refine ⟨_, ⟨q, found, rfl⟩, fun other declared => ?_⟩
      cases declared
      exact suits

/-- An explicit parameter is declared under the name that the table holds for its key. -/
theorem nameOf?_eq {c : Compiled} {p : Prepared} (same : p.declared = c.declared)
    (key : Parameter.Key) : p.nameOf? key = NamedParameter.nameIn? c.parameters key := by
  unfold Prepared.nameOf? NamedParameter.nameIn?
  have literals : (c.bindings.map fun b => (⟨b.name, none⟩ : Declared)).find?
      (fun d => d.explicit?.any (·.key == key)) = none := by
    simp
  rw [same, declared, List.find?_append, literals, Option.none_or, List.find?_map, Option.map_map]
  rfl

theorem bind_eq_write {c : Compiled} {p : Prepared} (same : p.declared = c.declared)
    {parameter : Parameter} {name : String}
    (named : NamedParameter.nameIn? c.parameters parameter.key = some name) (value : Value) :
    p.bind parameter value = p.write name value := by
  rw [Prepared.bind, nameOf?_eq same, named]

theorem bind_wrote {c : Compiled} {p next : Prepared} (same : p.declared = c.declared)
    {parameter : Parameter} {name : String}
    (named : NamedParameter.nameIn? c.parameters parameter.key = some name) {value : Value}
    (bound : p.bind parameter value = .ok next) : p.Wrote name value next := by
  rw [bind_eq_write same named] at bound
  exact (Prepared.write_wrote bound).2

/-- A parameter that shares its name with no other one takes null and values of its own type. -/
theorem exists_bind_iff {c : Compiled} {q : NamedParameter} (mem : q ∈ c.parameters)
    (keys : (NamedParameter.keys c.parameters).Nodup) (once : c.names.count q.name = 1)
    {p : Prepared} (same : p.declared = c.declared) {parameter : Parameter}
    (key : parameter.key = q.parameter.key) (value : Value) :
    (∃ next, p.bind parameter value = .ok next) ↔
      value.isNull = true ∨ value.type = q.parameter.type := by
  have named : NamedParameter.nameIn? c.parameters parameter.key = some q.name :=
    key ▸ NamedParameter.nameIn?_eq_some_of_mem keys mem
  have found : p.declaration? q.name = some ⟨q.name, some q.parameter⟩ := by
    rw [Prepared.declaration?, same]
    exact find?_declared_of_count (mem_declared_of_parameter mem) once
  rw [bind_eq_write same named, Prepared.exists_write_iff, found]
  constructor
  · rintro ⟨d, first, takes⟩
    cases first
    exact takes q.parameter rfl
  · intro suits
    refine ⟨_, rfl, fun other declared => ?_⟩
    cases declared
    exact suits

theorem ensureComplete_eq_ok_iff {c : Compiled} {p : Prepared} (same : p.declared = c.declared) :
    p.ensureComplete = .ok () ↔ ∀ name ∈ c.names, p.isBound name = true := by
  have none_iff : (p.declared.find? fun d => !p.isBound d.name) = none ↔
      ∀ name ∈ c.names, p.isBound name = true := by
    simp [← c.map_name_declared, same]
  rw [← none_iff, Prepared.ensureComplete]
  cases p.declared.find? fun d => !p.isBound d.name <;> simp

end Compiled

end ParamQuery
