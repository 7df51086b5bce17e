import Mathlib.Data.List.Nodup
import ParamQuery.Proofs.Naming.Generated
import ParamQuery.Proofs.Prepared.Runs

/-!
# Applying literals again

A compiled query can apply its literals to a query that was prepared from it at any time, whatever
was written there before. Under valid settings no name of a literal is that of anything else, so
every literal gets its own value back, no other name is touched, and applying the literals once more
changes nothing (`reapply_restores`).
-/

namespace ParamQuery

/-- A prepared query in which literals have their values and other names those they had. -/
def Prepared.withLiterals (p : Prepared) (bindings : List Binding) : Prepared :=
  { p with
    values := (bindings.map fun b => (b.name, b.value)).reverse ++
      p.values.filter fun entry => entry.1 ∉ bindings.map Binding.name }

section Literals

variable {bindings : List Binding}

theorem value?_withLiterals_of_not_mem (p : Prepared) {name : String}
    (other : name ∉ bindings.map Binding.name) :
    (p.withLiterals bindings).value? name = p.value? name := by
  have none : (bindings.map fun b => (b.name, b.value)).reverse.lookup name = none := by
    rw [List.lookup_eq_none_iff]
    intro entry mem
    obtain ⟨b, listed, rfl⟩ := List.mem_map.1 (List.mem_reverse.1 mem)
    simp only [bne_iff_ne]
    rintro rfl
    exact other (List.mem_map_of_mem listed)
  have kept := Prepared.lookup_filter (fun name => name ∉ bindings.map Binding.name)
    (decide_eq_true other) p.values
  rw [Prepared.value?, Prepared.withLiterals, List.lookup_append, none, Option.none_or, kept]
  rfl

theorem value?_withLiterals_of_mem (p : Prepared) (distinct : (bindings.map Binding.name).Nodup)
    {b : Binding} (mem : b ∈ bindings) :
    (p.withLiterals bindings).value? b.name = some b.value := by
  have found : (bindings.map fun b => (b.name, b.value)).reverse.lookup b.name = some b.value := by
    cases has : (bindings.map fun b => (b.name, b.value)).reverse.lookup b.name with
    | none =>
      have missing := List.lookup_eq_none_iff.1 has (b.name, b.value)
        (List.mem_reverse.2 (List.mem_map_of_mem mem))
      simp at missing
    | some value =>
      obtain ⟨before, behind, split, -⟩ := List.lookup_eq_some_iff.1 has
      have listed : (b.name, value) ∈ (bindings.map fun b => (b.name, b.value)).reverse := by
        rw [split]
        simp
      obtain ⟨other, mem_other, entry⟩ := List.mem_map.1 (List.mem_reverse.1 listed)
      obtain ⟨name, rfl⟩ := Prod.mk.inj entry
      rw [List.inj_on_of_nodup_map distinct mem_other mem name]
  rw [Prepared.value?, Prepared.withLiterals, List.lookup_append, found, Option.some_or]

/-- A value that is written before literals of other names stays. -/
theorem withLiterals_put {b : Binding} (fresh : b.name ∉ bindings.map Binding.name)
    (p : Prepared) :
    (p.put b.name b.value).withLiterals bindings = p.withLiterals (b :: bindings) := by
  have kept : ((b.name, b.value) :: p.values.filter (·.1 != b.name)).filter
      (fun entry => entry.1 ∉ bindings.map Binding.name) =
        (b.name, b.value) :: p.values.filter
          fun entry => entry.1 ∉ (b :: bindings).map Binding.name := by
    rw [List.filter_cons_of_pos (by simpa using fresh), List.filter_filter]
    simp only [List.map_cons, List.mem_cons, not_or, Bool.decide_and, decide_not, bne,
      beq_eq_decide, Bool.and_comm]
  simp only [Prepared.withLiterals, Prepared.put]
  rw [kept]
  simp

theorem withLiterals_twice (p : Prepared) (bindings : List Binding) :
    (p.withLiterals bindings).withLiterals bindings = p.withLiterals bindings := by
  have own : ((bindings.map fun b => (b.name, b.value)).reverse.filter
      fun entry => decide (entry.1 ∉ bindings.map Binding.name)) = [] := by
    rw [List.filter_eq_nil_iff]
    intro entry mem
    obtain ⟨b, listed, rfl⟩ := List.mem_map.1 (List.mem_reverse.1 mem)
    simp [List.mem_map_of_mem (f := Binding.name) listed]
  simp only [Prepared.withLiterals, List.filter_append, own, List.nil_append, List.filter_filter,
    Bool.and_self]

end Literals

namespace Compiled

/-- The name of a literal takes its value, and nothing is reported. -/
theorem write_literal {c : Compiled} {p : Prepared} (same : p.declared = c.declared) {b : Binding}
    (own : b ∈ c.bindings) : p.write b.name b.value = .ok (p.put b.name b.value) := by
  have first := c.find?_declared_eq b.name
  rw [if_pos (List.mem_map_of_mem own)] at first
  rw [Prepared.write, same, first]

/-- Applying literals of different names puts their values in front of the values of others. -/
theorem writeAll_literals {c : Compiled} {bindings : List Binding}
    (own : ∀ b ∈ bindings, b ∈ c.bindings) (distinct : (bindings.map Binding.name).Nodup)
    {p : Prepared} (same : p.declared = c.declared) :
    writeAll Prepared.write bindings p = (.ok (), p.withLiterals bindings) := by
  induction bindings generalizing p with
  | nil => simp [writeAll, Prepared.withLiterals]
  | cons b rest ih =>
    obtain ⟨fresh, distinct⟩ := List.nodup_cons.1 distinct
    have later := ih (fun next mem => own next (List.mem_cons_of_mem b mem)) distinct
      (p := p.put b.name b.value) same
    rw [writeAll, write_literal same (own b List.mem_cons_self)]
    exact later.trans (congrArg _ (withLiterals_put fresh p))

structure LiteralsApart (c : Compiled) : Prop where
  distinct : (c.bindings.map Binding.name).Nodup
  explicit : ∀ q ∈ c.parameters, q.name ∉ c.bindings.map Binding.name

/-- What applying the literals of a compiled query does to a query prepared from it. -/
structure Restores (c : Compiled) (p again : Prepared) : Prop where
  literal : ∀ b ∈ c.bindings, again.value? b.name = some b.value
  explicit : ∀ q ∈ c.parameters, again.value? q.name = p.value? q.name
  other : ∀ name, name ∉ c.bindings.map Binding.name → again.value? name = p.value? name
  unchanged : again.text = p.text ∧ again.declared = p.declared ∧ again.events = p.events
  /-- Once more, and nothing changes any more. -/
  settled : c.applyBindings Prepared.write again = (.ok (), again)

theorem LiteralsApart.restores {c : Compiled} (h : c.LiteralsApart) {p : Prepared}
    (same : p.declared = c.declared) :
    ∃ again, c.applyBindings Prepared.write p = (.ok (), again) ∧ c.Restores p again := by
  have applied {p : Prepared} (same : p.declared = c.declared) :
      c.applyBindings Prepared.write p = (.ok (), p.withLiterals c.bindings) :=
    writeAll_literals (fun _ mem => mem) h.distinct same
  refine ⟨_, applied same, ?_, ?_, ?_, ⟨rfl, rfl, rfl⟩, ?_⟩
  · intro b mem
    exact value?_withLiterals_of_mem p h.distinct mem
  · intro q mem
    exact value?_withLiterals_of_not_mem p (h.explicit q mem)
  · intro name other
    exact value?_withLiterals_of_not_mem p other
  · rw [applied (p := p.withLiterals c.bindings) same, withLiterals_twice]

/-- Preparing succeeds, and whatever calls follow, the literals can be applied again. -/
def RestoresAlways (c : Compiled) : Prop :=
  ∃ prepared, c.prepare = .ok prepared ∧ ∀ calls : List Call,
    ∃ again, c.applyBindings Prepared.write (performAll Prepared.perform calls prepared).2 =
        (.ok (), again) ∧
      c.Restores (performAll Prepared.perform calls prepared).2 again

theorem LiteralsApart.restoresAlways {c : Compiled} (h : c.LiteralsApart) :
    c.RestoresAlways := by
  obtain ⟨prepared, prepares, start⟩ := c.exists_prepare_tracks
  exact ⟨prepared, prepares, fun calls => h.restores (start.performAll calls).2.declared⟩

theorem GeneratedOnce.literalsApart {c : Compiled} {parameters : List Parameter}
    (h : c.GeneratedOnce parameters) : c.LiteralsApart := by
  refine ⟨(List.nodup_append.1 h.nodup).1, ?_⟩
  intro q mem literal
  obtain ⟨b, listed, same⟩ := List.mem_map.1 literal
  exact h.binding_name_not_mem listed (same ▸ List.mem_map_of_mem mem)

end Compiled

/--
The literals of a compiled query can be applied again at any time.

After any calls on a query prepared from it, applying them succeeds, gives every literal the value
that was compiled for it, and leaves the value of every explicit parameter, or that it has none, as
it was; applying them a second time changes nothing.
-/
theorem reapply_restores (settings : Settings) (valid : settings.Valid) :
    (∀ e : Expr, (e.compile settings).1.RestoresAlways) ∧
      ∀ (q : Query) (outcome : Compiled × List Log.Event), q.compile settings = .ok outcome →
        outcome.1.RestoresAlways := by
  constructor
  · intro e
    rw [e.compile_eq]
    exact (Template.compile_generatedOnce valid e.template).literalsApart.restoresAlways
  · intro q outcome compiled
    obtain ⟨t, -, -, rfl⟩ := q.exists_template compiled
    exact (Template.compile_generatedOnce valid t).literalsApart.restoresAlways

/-- A literal that was overwritten gets its value back, and a parameter keeps the one it has. -/
theorem reapply_restores_of_overwritten_literal :
    let age : Parameter := ⟨.named "age", .int⟩
    let name : Parameter := ⟨.named "name", .string⟩
    let e : Expr := .junction .and [
      .comparison .equal (.parameter age) (.literal (.scalar (.string "x")) (some .string)),
      .comparison .equal (.parameter name) (.literal (.null .int) none)]
    let query : Query := ((Query.start "t").addRoot "Person").2.restrict e
    let calls : List Call := [.set "param0" (.scalar (.int 7)), .bind age (.scalar (.int 40)),
      .bind name (.scalar (.int 8))]
    Settings.standard.Valid ∧
      (∃ outcome, query.compile .standard = .ok outcome ∧ outcome.1.RestoresAlways) ∧
      ∃ prepared again, (e.compile .standard).1.prepare = .ok prepared ∧
        (performAll Prepared.perform calls prepared).2.value? "param0" =
          some (.scalar (.int 7)) ∧
        (e.compile .standard).1.applyBindings Prepared.write
          (performAll Prepared.perform calls prepared).2 = (.ok (), again) ∧
        again.value? "param0" = some (.scalar (.string "x")) ∧
        again.value? "age" = some (.scalar (.int 40)) ∧ again.value? "name" = none ∧
        (e.compile .standard).1.applyBindings Prepared.write again = (.ok (), again) := by
  intro age name e query calls
  have always := reapply_restores .standard Settings.standard_valid
  obtain ⟨prepared, prepares, restored⟩ := always.1 e
  obtain ⟨again, applied, restores⟩ := restored calls
  let c : Compiled := (e.compile .standard).1
  have names : c.bindings.map Binding.name = ["param0", "param1"] := by decide +kernel
  have values : c.bindings.map Binding.value = [.scalar (.string "x"), .null .int] := rfl
  have first : c.firstWrites = [("param1", .null .int), ("param0", .scalar (.string "x"))] := by
    rw [Compiled.firstWrites, ← List.zip_map', names, values]
    rfl
  have taken : c.refusal? "param0" (.scalar (.int 7)) = none ∧
      c.refusal? "age" (.scalar (.int 40)) = none ∧
      c.refusal? "name" (.scalar (.int 8)) = some (.typeMismatch "name" .string .int) := by
    decide +kernel
  have known : NamedParameter.nameIn? c.parameters age.key = some "age" ∧
      NamedParameter.nameIn? c.parameters name.key = some "name" := by
    decide +kernel
  have log : (performAll c.logCall calls c.firstWrites).2 =
      [("age", .scalar (.int 40)), ("param0", .scalar (.int 7)), ("param1", .null .int),
        ("param0", .scalar (.string "x"))] := by
    simp only [calls, performAll, Compiled.logCall, Compiled.logBind, Compiled.logWrite, settled,
      taken, known, first]
  have before (name : String) : (performAll Prepared.perform calls prepared).2.value? name =
      [("age", .scalar (.int 40)), ("param0", .scalar (.int 7)), ("param1", .null .int),
        ("param0", .scalar (.string "x"))].lookup name := by
    obtain ⟨same, prepares', start⟩ := c.exists_prepare_tracks
    rw [← log, ← Except.ok.inj (prepares'.symm.trans prepares)]
    exact (start.performAll calls).2.value? name
  obtain ⟨literal, rest, bindings, named, -⟩ := List.map_eq_cons_iff.1 names
  have value : literal.value = .scalar (.string "x") := by
    rw [bindings, List.map_cons] at values
    exact (List.cons.inj values).1
  refine ⟨Settings.standard_valid, ⟨_, rfl, always.2 query _ rfl⟩, prepared, again, prepares,
    before "param0", applied, ?_, ?_, ?_, restores.settled⟩
  · rw [← named, ← value]
    exact restores.literal literal (bindings ▸ List.mem_cons_self)
  · exact (restores.explicit ⟨"age", age⟩ (by decide +kernel)).trans (before "age")
  · exact (restores.explicit ⟨"name", name⟩ (by decide +kernel)).trans (before "name")

end ParamQuery
