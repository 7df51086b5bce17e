import ParamQuery.Proofs.Prepared.Write

/-!
# Runs of calls

A prepared query takes binds, writes by name and the literals of any compiled query, in any order.
Beside it stands what it implements, a log of writes. Whether a write succeeds is decided by the
tables of the compiled query alone (`Compiled.refusal?`), and a name has the value that was written
to it last. A call leads to the same outcome in the query and in the log, and what the two have in
common before it, they have in common behind it, if no single write breaks it
(`Compiled.Simulates.performAll`).
-/

namespace ParamQuery

inductive Call where
  | bind (parameter : Parameter) (value : Value)
  | set (name : String) (value : Value)
  | apply (source : Compiled)

/-- Writes that have succeeded, the latest one first. -/
abbrev WriteLog := List (String × Value)

def settled {σ : Type} (state : σ) : Except QueryError σ → Except QueryError Unit × σ
  | .ok next => (.ok (), next)
  | .error e => (.error e, state)

def Prepared.perform (p : Prepared) : Call → Except QueryError Unit × Prepared
  | .bind parameter value => settled p (p.bind parameter value)
  | .set name value => settled p (p.write name value)
  | .apply source => source.applyBindings write p

def performAll {σ : Type} (perform : σ → Call → Except QueryError Unit × σ) :
    List Call → σ → List (Except QueryError Unit) × σ
  | [], state => ([], state)
  | call :: rest, state =>
    let (outcome, next) := perform state call
    let (outcomes, last) := performAll perform rest next
    (outcome :: outcomes, last)

namespace Compiled

/-- Why a compiled query refuses a value for a name, if it does. -/
def refusal? (c : Compiled) (name : String) (value : Value) : Option QueryError :=
  if name ∈ c.bindings.map Binding.name then none
  else
    match c.parameters.find? fun q => q.name == name with
    | none => some (.unknownParameter name)
    | some q =>
      if value.fits q.parameter.type then none
      else some (.typeMismatch name q.parameter.type value.type)

def logWrite (c : Compiled) (log : WriteLog) (name : String) (value : Value) :
    Except QueryError WriteLog :=
  match c.refusal? name value with
  | none => .ok ((name, value) :: log)
  | some e => .error e

def logBind (c : Compiled) (log : WriteLog) (parameter : Parameter) (value : Value) :
    Except QueryError WriteLog :=
  match NamedParameter.nameIn? c.parameters parameter.key with
  | none => .error (.unknownParameter parameter.key.text)
  | some name => c.logWrite log name value

def logCall (c : Compiled) (log : WriteLog) : Call → Except QueryError Unit × WriteLog
  | .bind parameter value => settled log (c.logBind log parameter value)
  | .set name value => settled log (c.logWrite log name value)
  | .apply source => source.applyBindings c.logWrite log

def firstWrites (c : Compiled) : WriteLog := (c.bindings.map fun b => (b.name, b.value)).reverse

end Compiled

/-! ## Related states -/

/-- Two writes fail for the same reason, or lead to related states. -/
inductive SameOutcome {σ τ : Type} (related : σ → τ → Prop) :
    Except QueryError σ → Except QueryError τ → Prop
  | ok {s : σ} {t : τ} (next : related s t) : SameOutcome related (.ok s) (.ok t)
  | error (e : QueryError) : SameOutcome related (.error e) (.error e)

section Related

variable {σ τ : Type} {related : σ → τ → Prop} {s : σ} {t : τ}

theorem SameOutcome.settled {first : Except QueryError σ} {second : Except QueryError τ}
    (same : SameOutcome related first second) (before : related s t) :
    (settled s first).1 = (settled t second).1 ∧
      related (settled s first).2 (settled t second).2 := by
  cases same with
  | ok next => exact ⟨rfl, next⟩
  | error e => exact ⟨rfl, before⟩

theorem writeAll_related {write : σ → String → Value → Except QueryError σ}
    {write' : τ → String → Value → Except QueryError τ}
    (step : ∀ {s t}, related s t → ∀ name value,
      SameOutcome related (write s name value) (write' t name value))
    (bindings : List Binding) (before : related s t) :
    (writeAll write bindings s).1 = (writeAll write' bindings t).1 ∧
      related (writeAll write bindings s).2 (writeAll write' bindings t).2 := by
  induction bindings generalizing s t with
  | nil => exact ⟨rfl, before⟩
  | cons b rest ih =>
    rw [writeAll, writeAll]
    have same := step before b.name b.value
    generalize write s b.name b.value = first, write' t b.name b.value = second at same ⊢
    cases same with
    | ok next => exact ih next
    | error e => exact ⟨rfl, before⟩

theorem performAll_related {perform : σ → Call → Except QueryError Unit × σ}
    {perform' : τ → Call → Except QueryError Unit × τ}
    (step : ∀ {s t}, related s t → ∀ call, (perform s call).1 = (perform' t call).1 ∧
      related (perform s call).2 (perform' t call).2)
    (calls : List Call) (before : related s t) :
    (performAll perform calls s).1 = (performAll perform' calls t).1 ∧
      related (performAll perform calls s).2 (performAll perform' calls t).2 := by
  induction calls generalizing s t with
  | nil => exact ⟨rfl, before⟩
  | cons call rest ih =>
    have first := step before call
    have later := ih first.2
    refine ⟨?_, later.2⟩
    show _ :: _ = _ :: _
    rw [first.1, later.1]

end Related

/-! ## Queries and logs -/

namespace Compiled

/-- What a query and a log have in common that no single write breaks. -/
structure Simulates (c : Compiled) (related : WriteLog → Prepared → Prop) : Prop where
  declared : ∀ {log p}, related log p → p.declared = c.declared
  write : ∀ {log p}, related log p → ∀ name value,
    SameOutcome related (c.logWrite log name value) (p.write name value)

/-- A compiled query never refuses the values of its own literals. -/
theorem writeAll_logWrite {c : Compiled} {bindings : List Binding}
    (own : ∀ b ∈ bindings, b ∈ c.bindings) (log : WriteLog) :
    writeAll c.logWrite bindings log =
      (.ok (), (bindings.map fun b => (b.name, b.value)).reverse ++ log) := by
  induction bindings generalizing log with
  | nil => rfl
  | cons b rest ih =>
    have literal : b.name ∈ c.bindings.map Binding.name :=
      List.mem_map_of_mem (own b List.mem_cons_self)
    have free : c.refusal? b.name b.value = none := if_pos literal
    have logged : c.logWrite log b.name b.value = .ok ((b.name, b.value) :: log) := by
      rw [logWrite, free]
    rw [writeAll, logged]
    simp only [ih fun next mem => own next (List.mem_cons_of_mem b mem), List.map_cons,
      List.reverse_cons, List.append_assoc, List.singleton_append]

section Simulates

variable {c : Compiled} {related : WriteLog → Prepared → Prop} {log : WriteLog} {p : Prepared}

theorem Simulates.perform (h : c.Simulates related) (before : related log p) (call : Call) :
    (c.logCall log call).1 = (p.perform call).1 ∧
      related (c.logCall log call).2 (p.perform call).2 := by
  cases call with
  | bind parameter value =>
    have same : SameOutcome related (c.logBind log parameter value) (p.bind parameter value) := by
      rw [logBind, Prepared.bind, nameOf?_eq (h.declared before)]
      cases NamedParameter.nameIn? c.parameters parameter.key with
      | none => exact .error _
      | some name => exact h.write before name value
    exact same.settled before
  | set name value => exact (h.write before name value).settled before
  | apply source => exact writeAll_related h.write source.bindings before

/-- Query and log take all calls with the same outcomes. -/
theorem Simulates.performAll (h : c.Simulates related) (before : related log p)
    (calls : List Call) :
    (ParamQuery.performAll c.logCall calls log).1 =
        (ParamQuery.performAll Prepared.perform calls p).1 ∧
      related (ParamQuery.performAll c.logCall calls log).2
        (ParamQuery.performAll Prepared.perform calls p).2 :=
  performAll_related h.perform calls before

/-- Preparing succeeds, and it writes the literals. -/
theorem Simulates.exists_prepare (h : c.Simulates related) (blank : related [] c.blank) :
    ∃ p, c.prepare = .ok p ∧ related c.firstWrites p := by
  obtain ⟨succeeds, after⟩ := writeAll_related h.write c.bindings blank
  rw [writeAll_logWrite fun _ mem => mem, List.append_nil] at succeeds after
  refine ⟨(writeAll Prepared.write c.bindings c.blank).2, ?_, after⟩
  rw [prepare, applyBindings]
  generalize writeAll Prepared.write c.bindings c.blank = outcome at succeeds ⊢
  obtain ⟨result, p⟩ := outcome
  cases succeeds
  rfl

end Simulates

/-- A prepared query that has the values of the latest writes in a log, and what the log holds. -/
structure Tracks (c : Compiled) (start log : WriteLog) (p : Prepared) : Prop where
  declared : p.declared = c.declared
  value? : ∀ name, p.value? name = log.lookup name
  accepted : ∀ entry ∈ log, c.refusal? entry.1 entry.2 = none
  grown : start <:+ log

section Tracks

variable {c : Compiled} {start log : WriteLog} {p : Prepared}

theorem Tracks.wrote (h : c.Tracks start log p) {name : String} {value : Value} {q : Prepared}
    (free : c.refusal? name value = none) (wrote : p.Wrote name value q) :
    c.Tracks start ((name, value) :: log) q where
  declared := wrote.declared.trans h.declared
  value? n := by
    rw [wrote.value?, h.value?, List.lookup_cons]
    by_cases same : n = name
    · simp [same]
    · simp [same, beq_eq_false_iff_ne.2 same]
  accepted entry mem := by
    rcases List.mem_cons.1 mem with rfl | old
    · exact free
    · exact h.accepted entry old
  grown := h.grown.trans (List.suffix_cons _ log)

/-- A write succeeds in the query exactly when the tables accept it. -/
theorem Tracks.write (h : c.Tracks start log p) (name : String) (value : Value) :
    SameOutcome (c.Tracks start) (c.logWrite log name value) (p.write name value) := by
  have first : p.declaration? name = _ := h.declared ▸ c.find?_declared_eq name
  have taken {d : Declared} (found : p.declaration? name = some d) (takes : d.Takes value)
      (free : c.refusal? name value = none) :
      SameOutcome (c.Tracks start) (c.logWrite log name value) (p.write name value) := by
    obtain ⟨q, written⟩ := Prepared.exists_write found takes
    rw [logWrite, free, written]
    exact .ok (h.wrote free (Prepared.write_wrote written).2)
  by_cases literal : name ∈ c.bindings.map Binding.name
  · rw [if_pos literal] at first
    refine taken first (fun q same => ?_) (if_pos literal)
    cases same
  · rw [if_neg literal] at first
    cases entry : c.parameters.find? fun q => q.name == name with
    | none =>
      rw [entry] at first
      have refused : c.refusal? name value = some (.unknownParameter name) := by
        rw [refusal?, if_neg literal, entry]
      rw [logWrite, refused, Prepared.write_eq_error_of_undeclared value first]
      exact .error _
    | some q =>
      rw [entry, Option.map_some] at first
      cases fits : value.fits q.parameter.type with
      | true =>
        refine taken first (fun other same => ?_) ?_
        · cases same
          exact (value.fits_iff _).1 fits
        · simp only [refusal?, literal, entry, fits, if_false, if_true]
      | false =>
        have refused : c.refusal? name value =
            some (.typeMismatch name q.parameter.type value.type) := by
          simp only [refusal?, literal, entry, fits, if_false, Bool.false_eq_true]
        rw [logWrite, refused, Prepared.write_eq_error_of_type first fits]
        exact .error _

theorem simulates_tracks (c : Compiled) (start : WriteLog) : c.Simulates (c.Tracks start) :=
  ⟨fun h => h.declared, fun h => h.write⟩

theorem Tracks.performAll (h : c.Tracks start log p) (calls : List Call) :
    (ParamQuery.performAll c.logCall calls log).1 =
        (ParamQuery.performAll Prepared.perform calls p).1 ∧
      c.Tracks start (ParamQuery.performAll c.logCall calls log).2
        (ParamQuery.performAll Prepared.perform calls p).2 :=
  (c.simulates_tracks start).performAll h calls

end Tracks

theorem blank_tracks (c : Compiled) : c.Tracks [] [] c.blank :=
  ⟨rfl, fun _ => rfl, fun _ mem => absurd mem List.not_mem_nil, List.suffix_rfl⟩

theorem exists_prepare_tracks (c : Compiled) :
    ∃ p, c.prepare = .ok p ∧ c.Tracks c.firstWrites c.firstWrites p := by
  obtain ⟨p, prepares, tracks⟩ := (c.simulates_tracks []).exists_prepare c.blank_tracks
  exact ⟨p, prepares, { tracks with grown := List.suffix_rfl }⟩

end Compiled

end ParamQuery
