import ParamQuery.Proofs.Prepared.Runs

/-!
# The last write counts

A prepared query whose parameters have different names is a map of the last writes that have
succeeded. After any run of calls each name has the value that was written to it last, every literal
has a value, an explicit parameter has one if it was written to, and the first one that was not is
reported as missing (`run_reflects_lastWrites`).
-/

namespace ParamQuery

theorem Value.fits_eq_false_iff (v : Value) (type : ValueType) :
    v.fits type = false ↔ v.isNull = false ∧ v.type ≠ type := by
  cases v <;> simp [fits, isNull, Value.type]

def Call.isSingle : Call → Bool
  | .bind .. => true
  | .set .. => true
  | .apply _ => false

namespace Compiled

/-! ## What the tables refuse -/

section Refusal

variable {c : Compiled}

theorem refusal?_of_not_mem {name : String} (unknown : name ∉ c.names) (value : Value) :
    c.refusal? name value = some (.unknownParameter name) := by
  rw [names, List.mem_append, not_or] at unknown
  have none : c.parameters.find? (fun q => q.name == name) = none := by
    rw [List.find?_eq_none]
    intro q mem same
    exact unknown.2 (List.mem_map.2 ⟨q, mem, by simpa using same⟩)
  rw [refusal?, if_neg unknown.1, none]

theorem refusal?_literal {name : String} (literal : name ∈ c.bindings.map Binding.name)
    (value : Value) : c.refusal? name value = none :=
  if_pos literal

theorem refusal?_parameter (distinct : c.names.Nodup) {q : NamedParameter}
    (mem : q ∈ c.parameters) (value : Value) :
    c.refusal? q.name value = if value.fits q.parameter.type then none
      else some (.typeMismatch q.name q.parameter.type value.type) := by
  obtain ⟨-, names, apart⟩ := List.nodup_append.1 distinct
  have explicit : q.name ∉ c.bindings.map Binding.name :=
    fun literal => apart _ literal _ (List.mem_map_of_mem mem) rfl
  have found := find?_eq_of_nodup_keys NamedParameter.name names mem
  rw [refusal?, if_neg explicit, found]

theorem refusal?_parameter_eq_some_iff (distinct : c.names.Nodup) {q : NamedParameter}
    (mem : q ∈ c.parameters) {value : Value} {e : QueryError} :
    c.refusal? q.name value = some e ↔ value.isNull = false ∧ value.type ≠ q.parameter.type ∧
      e = .typeMismatch q.name q.parameter.type value.type := by
  rw [refusal?_parameter distinct mem, ← and_assoc, ← Value.fits_eq_false_iff]
  cases value.fits q.parameter.type with
  | true => simp
  | false => simp [eq_comm]

/-- A write is refused if the name is unknown, or explicit with a value of another type. -/
theorem refusal?_eq_some_iff (distinct : c.names.Nodup) {name : String} {value : Value}
    {e : QueryError} : c.refusal? name value = some e ↔
      (name ∉ c.names ∧ e = .unknownParameter name) ∨
        ∃ q ∈ c.parameters, q.name = name ∧ value.isNull = false ∧
          value.type ≠ q.parameter.type ∧ e = .typeMismatch name q.parameter.type value.type := by
  constructor
  · intro refused
    by_cases known : name ∈ c.names
    · rcases List.mem_append.1 known with literal | explicit
      · rw [refusal?_literal literal] at refused
        cases refused
      · obtain ⟨q, mem, rfl⟩ := List.mem_map.1 explicit
        exact Or.inr ⟨q, mem, rfl, (refusal?_parameter_eq_some_iff distinct mem).1 refused⟩
    · rw [refusal?_of_not_mem known] at refused
      cases refused
      exact Or.inl ⟨known, rfl⟩
  · rintro (⟨unknown, rfl⟩ | ⟨q, mem, rfl, mismatch⟩)
    · exact refusal?_of_not_mem unknown value
    · exact (refusal?_parameter_eq_some_iff distinct mem).2 mismatch

end Refusal

/-! ## What a tracked query says -/

section Tracks

variable {c : Compiled} {start log : WriteLog} {p : Prepared}

theorem Tracks.isBound_iff (h : c.Tracks start log p) (name : String) :
    p.isBound name = true ↔ name ∈ log.map Prod.fst := by
  rw [Prepared.isBound, h.value?, List.lookup_isSome_iff, List.mem_map]
  constructor
  · rintro ⟨entry, mem, same⟩
    exact ⟨entry, mem, (eq_of_beq same).symm⟩
  · rintro ⟨entry, mem, rfl⟩
    exact ⟨entry, mem, beq_self_eq_true _⟩

theorem Tracks.mem_of_value? (h : c.Tracks start log p) {name : String} {value : Value}
    (has : p.value? name = some value) : (name, value) ∈ log := by
  rw [h.value?, List.lookup_eq_some_iff] at has
  obtain ⟨later, earlier, rfl, -⟩ := has
  exact List.mem_append_right later List.mem_cons_self

theorem Tracks.isBound_literal (h : c.Tracks c.firstWrites log p) {b : Binding}
    (mem : b ∈ c.bindings) : p.isBound b.name = true := by
  have first : (b.name, b.value) ∈ c.firstWrites :=
    List.mem_reverse.2 (List.mem_map_of_mem mem)
  exact (h.isBound_iff b.name).2 (List.mem_map_of_mem (h.grown.subset first))

theorem Tracks.mem_names_of_isBound (h : c.Tracks start log p) {name : String}
    (bound : p.isBound name = true) : name ∈ c.names := by
  obtain ⟨entry, mem, rfl⟩ := List.mem_map.1 ((h.isBound_iff name).1 bound)
  by_contra unknown
  have accepted := h.accepted entry mem
  rw [refusal?_of_not_mem unknown] at accepted
  cases accepted

theorem Tracks.typed (h : c.Tracks start log p) (distinct : c.names.Nodup) {q : NamedParameter}
    (mem : q ∈ c.parameters) {value : Value} (has : p.value? q.name = some value) :
    value.isNull = true ∨ value.type = q.parameter.type := by
  have accepted := h.accepted _ (h.mem_of_value? has)
  rw [refusal?_parameter distinct mem] at accepted
  split at accepted
  next fits => exact (value.fits_iff _).1 fits
  next => cases accepted

theorem Tracks.map_fst_boundValues (h : c.Tracks start log p) :
    p.boundValues.map Prod.fst = c.names.filter p.isBound := by
  have kept (d : Declared) : ((p.value? d.name).map (d.name, ·)).map Prod.fst =
      if p.isBound d.name then some d.name else none := by
    rw [Prepared.isBound]
    cases p.value? d.name <;> rfl
  rw [Prepared.boundValues, h.declared, List.map_filterMap, ← c.map_name_declared, List.filter_map]
  induction c.declared with
  | nil => rfl
  | cons d rest ih =>
    rw [List.filterMap_cons, kept, List.filter_cons]
    cases bound : p.isBound d.name with
    | false => simpa [bound] using ih
    | true => simpa [bound] using ih

theorem value?_of_mem_boundValues {entry : String × Value} (mem : entry ∈ p.boundValues) :
    p.value? entry.1 = some entry.2 := by
  obtain ⟨d, -, has⟩ := List.mem_filterMap.1 mem
  obtain ⟨value, bound, rfl⟩ := Option.map_eq_some_iff.1 has
  exact bound

/-- What is missing is the first explicit parameter that was not written to. -/
theorem Tracks.ensureComplete (h : c.Tracks c.firstWrites log p) :
    p.ensureComplete =
      match c.parameters.find? fun q => q.name ∉ log.map Prod.fst with
      | none => .ok ()
      | some q => .error (.unboundParameter q.name) := by
  have literals : (c.bindings.map fun b => (⟨b.name, none⟩ : Declared)).find?
      (fun d => !p.isBound d.name) = none := by
    rw [List.find?_eq_none]
    intro d mem
    obtain ⟨b, listed, rfl⟩ := List.mem_map.1 mem
    simp [h.isBound_literal listed]
  have unwritten : (fun q : NamedParameter => !p.isBound q.name) =
      fun q => decide (q.name ∉ log.map Prod.fst) := by
    funext q
    have bound := h.isBound_iff q.name
    cases written : p.isBound q.name <;> simp_all
  rw [Prepared.ensureComplete, h.declared, Compiled.declared, List.find?_append, literals,
    Option.none_or, List.find?_map]
  simp only [Function.comp_def, unwritten]
  cases c.parameters.find? fun q => decide (q.name ∉ log.map Prod.fst) <;> rfl

/-- A write by name fails exactly when the tables refuse it. -/
theorem Tracks.write_eq_error_iff (h : c.Tracks start log p) {name : String} {value : Value}
    {e : QueryError} : p.write name value = .error e ↔ c.refusal? name value = some e := by
  have same := h.write name value
  rw [logWrite] at same
  generalize p.write name value = outcome at same ⊢
  cases refused : c.refusal? name value with
  | none =>
    rw [refused] at same
    cases same
    simp
  | some reason =>
    rw [refused] at same
    cases same
    simp

theorem Tracks.bind_eq_error_iff (h : c.Tracks start log p) (distinct : c.names.Nodup)
    {parameter : Parameter} {value : Value} {e : QueryError} :
    p.bind parameter value = .error e ↔
      (parameter.key ∉ NamedParameter.keys c.parameters ∧
          e = .unknownParameter parameter.key.text) ∨
        ∃ q, (c.parameters.find? fun q => q.parameter.key == parameter.key) = some q ∧
          value.isNull = false ∧ value.type ≠ q.parameter.type ∧
          e = .typeMismatch q.name q.parameter.type value.type := by
  have named := c.nameOf?_eq h.declared parameter.key
  rw [Prepared.bind, named, NamedParameter.nameIn?]
  cases found : c.parameters.find? fun q => q.parameter.key == parameter.key with
  | none =>
    have unknown : parameter.key ∉ NamedParameter.keys c.parameters := by
      rw [← NamedParameter.nameIn?_eq_none_iff, NamedParameter.nameIn?, found]
      rfl
    constructor
    · intro fails
      cases fails
      exact Or.inl ⟨unknown, rfl⟩
    · rintro (⟨-, rfl⟩ | ⟨q, impossible, -⟩)
      · rfl
      · cases impossible
  | some q =>
    have mem := List.mem_of_find?_eq_some found
    have key : q.parameter.key = parameter.key := by simpa using List.find?_some found
    show p.write q.name value = .error e ↔ _
    rw [h.write_eq_error_iff, refusal?_parameter_eq_some_iff distinct mem]
    constructor
    · intro mismatch
      exact Or.inr ⟨q, rfl, mismatch⟩
    · rintro (⟨unknown, -⟩ | ⟨_, same, mismatch⟩)
      · exact absurd (key ▸ List.mem_map_of_mem mem) unknown
      · cases same
        exact mismatch

end Tracks

/-- A single call that fails leaves all values as they were. -/
theorem perform_unchanged (p : Prepared) {call : Call} (single : call.isSingle = true)
    (fails : (p.perform call).1 ≠ .ok ()) : (p.perform call).2 = p := by
  have kept (outcome : Except QueryError Prepared) (fails : (settled p outcome).1 ≠ .ok ()) :
      (settled p outcome).2 = p := by
    cases outcome with
    | ok next => exact absurd rfl fails
    | error e => rfl
  cases call with
  | bind parameter value => exact kept _ fails
  | set name value => exact kept _ fails
  | apply source => cases single

/-- What a prepared query says of the writes that have succeeded, the latest one first. -/
structure Reflects (c : Compiled) (log : WriteLog) (p : Prepared) : Prop where
  value? : ∀ name, p.value? name = log.lookup name
  literal : ∀ b ∈ c.bindings, p.isBound b.name = true
  explicit : ∀ q ∈ c.parameters, p.isBound q.name = true ↔ q.name ∈ log.map Prod.fst
  typed : ∀ q ∈ c.parameters, ∀ value, p.value? q.name = some value →
    value.isNull = true ∨ value.type = q.parameter.type
  bound_declared : ∀ name, p.isBound name = true → name ∈ c.names
  boundNames : p.boundValues.map Prod.fst = c.names.filter p.isBound
  boundNames_nodup : (p.boundValues.map Prod.fst).Nodup
  boundValues : ∀ entry ∈ p.boundValues, p.value? entry.1 = some entry.2
  ensureComplete : p.ensureComplete =
    match c.parameters.find? fun q => q.name ∉ log.map Prod.fst with
    | none => .ok ()
    | some q => .error (.unboundParameter q.name)
  write_error : ∀ name value e, p.write name value = .error e ↔
    (name ∉ c.names ∧ e = .unknownParameter name) ∨
      ∃ q ∈ c.parameters, q.name = name ∧ value.isNull = false ∧ value.type ≠ q.parameter.type ∧
        e = .typeMismatch name q.parameter.type value.type
  bind_error : ∀ parameter value e, p.bind parameter value = .error e ↔
    (parameter.key ∉ NamedParameter.keys c.parameters ∧
        e = .unknownParameter parameter.key.text) ∨
      ∃ q, (c.parameters.find? fun q => q.parameter.key == parameter.key) = some q ∧
        value.isNull = false ∧ value.type ≠ q.parameter.type ∧
        e = .typeMismatch q.name q.parameter.type value.type
  unchanged : ∀ call, call.isSingle = true → (p.perform call).1 ≠ .ok () →
    (p.perform call).2 = p

theorem Tracks.reflects {c : Compiled} {log : WriteLog} {p : Prepared}
    (h : c.Tracks c.firstWrites log p) (distinct : c.names.Nodup) : c.Reflects log p where
  value? := h.value?
  literal _ mem := h.isBound_literal mem
  explicit q _ := h.isBound_iff q.name
  typed _ mem _ has := h.typed distinct mem has
  bound_declared _ bound := h.mem_names_of_isBound bound
  boundNames := h.map_fst_boundValues
  boundNames_nodup := h.map_fst_boundValues ▸ distinct.filter _
  boundValues _ mem := value?_of_mem_boundValues mem
  ensureComplete := h.ensureComplete
  write_error _ _ _ := h.write_eq_error_iff.trans (refusal?_eq_some_iff distinct)
  bind_error _ _ _ := h.bind_eq_error_iff distinct
  unchanged _ single fails := perform_unchanged p single fails

end Compiled

/--
A prepared query is a map of the last writes that have succeeded.

Preparing succeeds. After any run of calls, failing ones among them, the outcomes are those that the
tables decide, and the query reflects the log of the writes they accept.
-/
theorem run_reflects_lastWrites (c : Compiled) (distinct : c.names.Nodup) :
    ∃ prepared, c.prepare = .ok prepared ∧ ∀ calls : List Call,
      (performAll Prepared.perform calls prepared).1 =
          (performAll c.logCall calls c.firstWrites).1 ∧
        c.Reflects (performAll c.logCall calls c.firstWrites).2
          (performAll Prepared.perform calls prepared).2 := by
  obtain ⟨prepared, prepares, start⟩ := c.exists_prepare_tracks
  refine ⟨prepared, prepares, fun calls => ?_⟩
  obtain ⟨outcomes, tracks⟩ := start.performAll calls
  exact ⟨outcomes.symm, tracks.reflects distinct⟩

/-- The literals of another query overwrite one and then meet an unknown name. -/
theorem run_reflects_lastWrites_of_foreign_literals :
    let age : Parameter := ⟨.named "age", .int⟩
    let own : Compiled := ((Expr.comparison .equal (.parameter age)
      (.literal (.scalar (.string "x")) (some .string))).compile .standard).1
    let foreign : Compiled := ((Expr.comparison .equal (.literal (.scalar (.int 1)) (some .int))
      (.literal (.scalar (.int 2)) (some .int))).compile .standard).1
    let calls : List Call := [.apply foreign, .bind age (.scalar (.string "forty")),
      .bind age (.scalar (.int 40))]
    own.names.Nodup ∧ ∃ prepared, own.prepare = .ok prepared ∧
      (performAll Prepared.perform calls prepared).1 =
        [.error (.unknownParameter "param1"), .error (.typeMismatch "age" .int .string), .ok ()] ∧
      own.Reflects [("age", .scalar (.int 40)), ("param0", .scalar (.int 1)),
        ("param0", .scalar (.string "x"))] (performAll Prepared.perform calls prepared).2 := by
  intro age own foreign calls
  have distinct : own.names.Nodup := by decide +kernel
  obtain ⟨prepared, prepares, runs⟩ := run_reflects_lastWrites own distinct
  obtain ⟨outcomes, reflects⟩ := runs calls
  have log : (performAll own.logCall calls own.firstWrites).2 =
      [("age", .scalar (.int 40)), ("param0", .scalar (.int 1)),
        ("param0", .scalar (.string "x"))] := by with_unfolding_all rfl
  exact ⟨distinct, prepared, prepares, outcomes.trans (by decide +kernel), log ▸ reflects⟩

end ParamQuery
