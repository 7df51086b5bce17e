import ParamQuery.Proofs.Prepared.LastWrite

/-!
# Warnings of rebinding

A prepared query warns when an explicit parameter that has a value gets another one. Its log is told
by the writes that have succeeded (`Compiled.warnings`): a write warns if its name is explicit and
was written to before, so a name has one warning less than writes (`warnings_tell_rebindings`). To
see that a write that fails does not warn on the way, calls are made step by step, with the query
kept as it is when a step fails (`Prepared.attempt_run`).
-/

namespace ParamQuery

/-! ## Calls step by step -/

section Steps

variable {σ α β : Type}

theorem bind_run (first : ExceptT QueryError (StateM σ) α)
    (next : α → ExceptT QueryError (StateM σ) β) (s : σ) :
    (first >>= next).run.run s =
      match first.run.run s with
      | (.error e, s) => (.error e, s)
      | (.ok a, s) => (next a).run.run s := by
  show (match first.run.run s with | (outcome, s) => ExceptT.bindCont next outcome s) = _
  rcases first.run.run s with ⟨e | a, s⟩ <;> rfl

theorem get_bind_run (next : σ → ExceptT QueryError (StateM σ) α) (s : σ) :
    (get >>= next).run.run s = (next s).run.run s := rfl

end Steps

namespace Prepared

/-- Looks a name up, checks the value, warns, and writes. Where this fails, what was done stays. -/
def attemptWrite (name : String) (value : Value) : ExceptT QueryError (StateM Prepared) Unit := do
  match (← get).declared.find? (·.name == name) with
  | none => throw (.unknownParameter name)
  | some ⟨_, none⟩ => modify fun p => p.put name value
  | some ⟨_, some parameter⟩ =>
    if let some actual := value.runtimeType? then
      if actual ≠ parameter.type then throw (.typeMismatch name parameter.type actual)
    if (← get).isBound name then modify fun p => p.report (.parameterRebound name)
    modify fun p => p.put name value

def attemptBind (parameter : Parameter) (value : Value) :
    ExceptT QueryError (StateM Prepared) Unit := do
  match (← get).nameOf? parameter.key with
  | none => throw (.unknownParameter parameter.key.text)
  | some name => attemptWrite name value

def attempt : Call → ExceptT QueryError (StateM Prepared) Unit
  | .bind parameter value => attemptBind parameter value
  | .set name value => attemptWrite name value
  | .apply source => source.bindings.forM fun b => attemptWrite b.name b.value

theorem attemptWrite_run (name : String) (value : Value) (p : Prepared) :
    (attemptWrite name value).run.run p = settled p (p.write name value) := by
  rw [attemptWrite, get_bind_run, write]
  cases p.declared.find? (·.name == name) with
  | none => rfl
  | some d =>
    obtain ⟨first, explicit?⟩ := d
    cases explicit? with
    | none => rfl
    | some parameter =>
      have warned : (do
          if (← get).isBound name then modify fun p => p.report (.parameterRebound name)
          modify fun p => p.put name value : ExceptT QueryError (StateM Prepared) Unit).run.run p =
            (.ok (), p.rebind name value) := by
        rw [get_bind_run, rebind]
        cases p.isBound name <;> rfl
      cases value.runtimeType? with
      | none => exact warned
      | some actual =>
        by_cases same : actual = parameter.type
        · simp only [same, ne_eq, not_true_eq_false, if_false, if_true]
          exact warned
        · simp only [same, ne_eq, not_false_eq_true, if_false, if_true]
          rfl

theorem attemptBind_run (parameter : Parameter) (value : Value) (p : Prepared) :
    (attemptBind parameter value).run.run p = settled p (p.bind parameter value) := by
  rw [attemptBind, get_bind_run, bind]
  cases p.nameOf? parameter.key with
  | none => rfl
  | some name => exact attemptWrite_run name value p

theorem attempt_apply_run (bindings : List Binding) (p : Prepared) :
    (bindings.forM fun b => attemptWrite b.name b.value).run.run p = writeAll write bindings p := by
  induction bindings generalizing p with
  | nil => rfl
  | cons b rest ih =>
    show (attemptWrite b.name b.value >>= fun _ => rest.forM _).run.run p = _
    rw [bind_run, attemptWrite_run, writeAll]
    cases p.write b.name b.value with
    | error e => rfl
    | ok next => exact ih next

/-- A call that is made step by step does what the call does, also if it fails. -/
theorem attempt_run (call : Call) (p : Prepared) : (attempt call).run.run p = p.perform call := by
  cases call with
  | bind parameter value => exact attemptBind_run parameter value p
  | set name value => exact attemptWrite_run name value p
  | apply source => exact attempt_apply_run source.bindings p

end Prepared

/-! ## Warnings and writes -/

namespace Compiled

def explicitNames (c : Compiled) : List String := c.parameters.map NamedParameter.name

/-- The warning that is due for a write to a name behind earlier writes. -/
def warning (c : Compiled) (earlier : WriteLog) (name : String) : List Log.Event :=
  if name ∈ c.explicitNames ∧ name ∈ earlier.map Prod.fst then [.parameterRebound name] else []

/-- The warnings that are due for writes, given the latest write first, in their order. -/
def warnings (c : Compiled) : WriteLog → List Log.Event
  | [] => []
  | (name, _) :: earlier => c.warnings earlier ++ c.warning earlier name

section Warnings

variable {c : Compiled} {name : String}

theorem mem_explicitNames_of_mem_warnings {log : WriteLog}
    (mem : .parameterRebound name ∈ c.warnings log) : name ∈ c.explicitNames := by
  induction log with
  | nil => exact absurd mem List.not_mem_nil
  | cons entry earlier ih =>
    rw [warnings, List.mem_append] at mem
    rcases mem with old | new
    · exact ih old
    · rw [warning] at new
      split at new
      next due =>
        cases List.mem_singleton.1 new
        exact due.1
      next => exact absurd new List.not_mem_nil

/-- An explicit name has a warning for each write to it but the first one. -/
theorem filter_warnings (explicit : name ∈ c.explicitNames) (log : WriteLog) :
    (c.warnings log).filter (· = .parameterRebound name) =
      List.replicate ((log.map Prod.fst).count name - 1) (.parameterRebound name) := by
  induction log with
  | nil => rfl
  | cons entry earlier ih =>
    obtain ⟨written, value⟩ := entry
    rw [warnings, List.filter_append, ih, List.map_cons, List.count_cons, warning]
    by_cases same : written = name
    · subst same
      by_cases before : written ∈ earlier.map Prod.fst
      · have counted := List.count_pos_iff.2 before
        obtain ⟨n, count⟩ := Nat.exists_eq_add_one.2 counted
        simp [explicit, before, count, List.replicate_succ']
      · simp [before, List.count_eq_zero_of_not_mem before]
    · have other : (if written ∈ c.explicitNames ∧ written ∈ earlier.map Prod.fst then
          [Log.Event.parameterRebound written] else []).filter
            (· = .parameterRebound name) = [] := by
        split <;> simp [same]
      simp [other, same]

end Warnings

/-- A query that has the values and the warnings of the writes in a log. -/
structure Warns (c : Compiled) (start log : WriteLog) (p : Prepared) : Prop
    extends c.Tracks start log p where
  events : p.events = c.warnings log

section Warns

variable {c : Compiled} {start log : WriteLog} {p : Prepared}

theorem Tracks.rebind_events (h : c.Tracks start log p) {name : String}
    (explicit : name ∈ c.explicitNames) (value : Value) :
    (p.rebind name value).events = p.events ++ c.warning log name := by
  have bound := h.isBound_iff name
  rw [Prepared.rebind, warning]
  split
  next has =>
    rw [if_pos ⟨explicit, bound.1 has⟩]
    rfl
  next lacks =>
    rw [if_neg fun due => lacks (bound.2 due.2), List.append_nil]
    rfl

theorem not_mem_explicitNames (distinct : c.names.Nodup) {name : String}
    (literal : name ∈ c.bindings.map Binding.name) : name ∉ c.explicitNames :=
  fun explicit => (List.nodup_append.1 distinct).2.2 name literal name explicit rfl

/-- A write that succeeds warns if that is due, and reports nothing else. -/
theorem Tracks.write_events (h : c.Tracks start log p) (distinct : c.names.Nodup) {name : String}
    {value : Value} {next : Prepared} (written : p.write name value = .ok next) :
    next.events = p.events ++ c.warning log name := by
  have first := h.declared ▸ c.find?_declared_eq name
  by_cases literal : name ∈ c.bindings.map Binding.name
  · rw [if_pos literal] at first
    rw [Prepared.write, first] at written
    cases written
    rw [warning, if_neg fun due => not_mem_explicitNames distinct literal due.1, List.append_nil]
    rfl
  · rw [if_neg literal] at first
    cases found : c.parameters.find? fun q => q.name == name with
    | none =>
      rw [Prepared.write, first, found] at written
      cases written
    | some q =>
      have explicit : name ∈ c.explicitNames := by
        have same : q.name = name := by simpa using List.find?_some found
        exact same ▸ List.mem_map_of_mem (List.mem_of_find?_eq_some found)
      have rebound : next = p.rebind name value := by
        rw [Prepared.write, first, found] at written
        dsimp only [Option.map_some] at written
        split at written
        next => exact (Except.ok.inj written).symm
        next =>
          split at written
          next => exact (Except.ok.inj written).symm
          next => cases written
      rw [rebound, h.rebind_events explicit]

theorem simulates_warns (distinct : c.names.Nodup) (start : WriteLog) :
    c.Simulates (c.Warns start) where
  declared h := h.declared
  write {log p} h name value := by
    have same := h.toTracks.write name value
    cases written : p.write name value with
    | error e =>
      rw [written] at same
      generalize c.logWrite log name value = logged at same ⊢
      cases same
      exact .error e
    | ok next =>
      rw [written] at same
      rw [logWrite] at same ⊢
      cases refused : c.refusal? name value with
      | some reason =>
        rw [refused] at same
        cases same
      | none =>
        rw [refused] at same
        cases same with
        | ok tracks =>
          exact .ok ⟨tracks, by rw [h.write_events distinct written, h.events]; rfl⟩

theorem exists_prepare_warns (distinct : c.names.Nodup) :
    ∃ p, c.prepare = .ok p ∧ c.Warns c.firstWrites c.firstWrites p := by
  obtain ⟨p, prepares, warns⟩ :=
    (simulates_warns distinct []).exists_prepare ⟨c.blank_tracks, rfl⟩
  exact ⟨p, prepares, { warns with grown := List.suffix_rfl }⟩

end Warns

/-- What the log of a prepared query says of the writes that succeeded, the latest one first. -/
structure TellsRebindings (c : Compiled) (log : WriteLog) (p : Prepared) : Prop where
  /-- All that is reported are the warnings that are due, in the order of the writes. -/
  events : p.events = c.warnings log
  explicit : ∀ q ∈ c.parameters, p.events.filter (· = .parameterRebound q.name) =
    List.replicate ((log.map Prod.fst).count q.name - 1) (.parameterRebound q.name)
  literal : ∀ b ∈ c.bindings, .parameterRebound b.name ∉ p.events
  written : ∀ name value next, p.write name value = .ok next →
    next.events = p.events ++ c.warning log name
  /-- A bind or a write that fails has reported nothing by then, as it has written nothing. -/
  rejected : ∀ call, call.isSingle = true → (p.perform call).1 ≠ .ok () →
    (Prepared.attempt call).run.run p = ((p.perform call).1, p)

theorem Warns.tellsRebindings {c : Compiled} {start log : WriteLog} {p : Prepared}
    (h : c.Warns start log p) (distinct : c.names.Nodup) : c.TellsRebindings log p where
  events := h.events
  explicit q mem := h.events ▸ filter_warnings (List.mem_map_of_mem mem) log
  literal b mem reported := by
    rw [h.events] at reported
    exact not_mem_explicitNames distinct (List.mem_map_of_mem mem)
      (mem_explicitNames_of_mem_warnings reported)
  written _ _ _ := h.write_events distinct
  rejected call single fails := by
    rw [Prepared.attempt_run]
    exact Prod.ext rfl (perform_unchanged p single fails)

end Compiled

/--
A prepared query warns exactly of rebinding.

Calls that are made step by step do what the calls do. After any run of calls on a query that was
just prepared, the outcomes are those that the tables decide, and the log consists of the warnings
that are due for the writes they accept: an explicit parameter has one for each write to it but the
first, in the order of the writes, and a literal has none.
-/
theorem warnings_tell_rebindings (c : Compiled) (distinct : c.names.Nodup) :
    (∀ call p, (Prepared.attempt call).run.run p = p.perform call) ∧
      ∃ prepared, c.prepare = .ok prepared ∧ ∀ calls : List Call,
        (performAll Prepared.perform calls prepared).1 =
            (performAll c.logCall calls c.firstWrites).1 ∧
          c.TellsRebindings (performAll c.logCall calls c.firstWrites).2
            (performAll Prepared.perform calls prepared).2 := by
  obtain ⟨prepared, prepares, start⟩ := c.exists_prepare_warns distinct
  refine ⟨Prepared.attempt_run, prepared, prepares, fun calls => ?_⟩
  obtain ⟨outcomes, warns⟩ :=
    (Compiled.simulates_warns distinct c.firstWrites).performAll start calls
  exact ⟨outcomes.symm, warns.tellsRebindings distinct⟩

/-- A parameter is written to by literals of another query first, and by binds then. -/
theorem warnings_tell_rebindings_of_foreign_literals :
    let age : Parameter := ⟨.named "param1", .int⟩
    let own : Compiled := ((Expr.comparison .equal (.parameter age)
      (.literal (.scalar (.string "x")) (some .string))).compile .standard).1
    let foreign : Compiled := ((Expr.comparison .equal (.literal (.scalar (.int 1)) (some .int))
      (.literal (.scalar (.int 2)) (some .int))).compile .standard).1
    let calls : List Call := [.bind age (.scalar (.string "forty")), .apply foreign,
      .bind age (.scalar (.int 40)), .set "age" (.scalar (.int 41)), .set "param0" (.null .int),
      .bind age (.null .string)]
    own.names = ["param0", "param1"] ∧ own.names.Nodup ∧ ∃ prepared, own.prepare = .ok prepared ∧
      (performAll Prepared.perform calls prepared).1 =
        [.error (.typeMismatch "param1" .int .string), .ok (), .ok (),
          .error (.unknownParameter "age"), .ok (), .ok ()] ∧
      (performAll Prepared.perform calls prepared).2.events =
        [.parameterRebound "param1", .parameterRebound "param1"] ∧
      own.TellsRebindings (performAll own.logCall calls own.firstWrites).2
        (performAll Prepared.perform calls prepared).2 := by
  intro age own foreign calls
  have names : own.names = ["param0", "param1"] := by decide +kernel
  have distinct : own.names.Nodup := names ▸ by decide
  obtain ⟨-, prepared, prepares, runs⟩ := warnings_tell_rebindings own distinct
  obtain ⟨outcomes, tells⟩ := runs calls
  exact ⟨names, distinct, prepared, prepares, outcomes.trans (by decide +kernel),
    tells.events.trans (by decide +kernel), tells⟩

end ParamQuery
