import ParamQuery.Proofs.Naming.Tables

/-!
# What a compiled template consists of

The tables and the text of a compiled template are those that naming its leaves leaves behind, in a
context in which the names of all its named parameters are in use from the start.
-/

namespace ParamQuery

open Context

theorem Compiled.contextFor_eq (settings : Settings) (r : Registry) :
    contextFor settings r = { Context.start settings with used := r.names.reverse } := by
  have reserved (names : List String) (c : Context) :
      names.foldl (fun context name => (reserve name context).2) c =
        { c with used := names.reverse ++ c.used } := by
    induction names generalizing c with
    | nil => rfl
    | cons name rest ih =>
      rw [List.foldl_cons, ih, List.reverse_cons, List.append_assoc]
      rfl
  rw [contextFor, reserved]
  simp [start]

namespace Template

/-- The context in which the leaves of a template are named when it is compiled. -/
def initial (settings : Settings) (t : Template) : Context :=
  Compiled.contextFor settings (.ofLeaves (leaves t))

@[simp] theorem settings_initial (settings : Settings) (t : Template) :
    (initial settings t).settings = settings := by
  rw [initial, Compiled.contextFor_eq]
  rfl

@[simp] theorem bindings_initial (settings : Settings) (t : Template) :
    (initial settings t).bindings = [] := by
  rw [initial, Compiled.contextFor_eq]
  rfl

@[simp] theorem parameters_initial (settings : Settings) (t : Template) :
    (initial settings t).parameters = [] := by
  rw [initial, Compiled.contextFor_eq]
  rfl

@[simp] theorem events_initial (settings : Settings) (t : Template) :
    (initial settings t).events = [] := by
  rw [initial, Compiled.contextFor_eq]
  rfl

def final (settings : Settings) (t : Template) : Context :=
  (nameLeaves (leaves t) (initial settings t)).2

theorem render_initial (settings : Settings) (t : Template) :
    render t (initial settings t) =
      (fill t (Leaf.tokens settings.marker (leaves t)
          (nameLeaves (leaves t) (initial settings t)).1), final settings t) := by
  rw [render_run, settings_initial]
  rfl

theorem compile_fst (settings : Settings) (t : Template) :
    (compile settings t).1 =
      ⟨fill t (Leaf.tokens settings.marker (leaves t)
          (nameLeaves (leaves t) (initial settings t)).1),
        (final settings t).bindings, (final settings t).parameters, .ofLeaves (leaves t),
        settings.marker⟩ := by
  show Compiled.mk (render t (initial settings t)).1 (render t (initial settings t)).2.bindings
    (render t (initial settings t)).2.parameters _ _ = _
  rw [render_initial]

theorem compile_snd (settings : Settings) (t : Template) :
    (compile settings t).2 = (final settings t).events ++
      if settings.logBindings then [(compile settings t).1.event settings] else [] := by
  show (render t (initial settings t)).2.events ++ _ = _
  rw [render_initial]
  rfl

section Lockstep

variable {F : Piece → Piece} {f : Leaf → Leaf} {g : Context → Context} {settings : Settings}
  {t : Template} (fixed : ∀ text, F (.fixed text) = .fixed text)
  (leaf : ∀ part, F (.leaf part) = .leaf (f part))
  (step : ∀ leaf c, (f leaf).name (g c) = ((leaf.name c).1, g (leaf.name c).2))
  (start : initial settings (t.map F) = g (initial settings t))
include fixed leaf step start

theorem final_map : final settings (t.map F) = g (final settings t) := by
  rw [final, start, leaves_map fixed leaf, nameLeaves_map step]
  rfl

/-- If naming runs in lockstep, the text is the same and the tables are those of the last context. -/
theorem compile_map (token : ∀ marker leaf, (f leaf).token marker = leaf.token marker) :
    (compile settings (t.map F)).1 =
      ⟨(compile settings t).1.text, (g (final settings t)).bindings,
        (g (final settings t)).parameters, .ofLeaves ((leaves t).map f), settings.marker⟩ := by
  rw [compile_fst, compile_fst, final_map fixed leaf step start, start, leaves_map fixed leaf,
    nameLeaves_map step, Leaf.tokens_map (token settings.marker), fill_map fixed leaf]

end Lockstep

section Compile

variable (settings : Settings) (t : Template)

theorem marker_compile : (compile settings t).1.marker = settings.marker := by
  rw [compile_fst]

theorem registry_compile : (compile settings t).1.registry = .ofLeaves (leaves t) := by
  rw [compile_fst]

theorem parameters_compile :
    (compile settings t).1.parameters.map NamedParameter.parameter =
      (Registry.ofLeaves (leaves t)).parameters := by
  rw [compile_fst]
  have listed := parameters_nameLeaves (leaves t) (initial settings t)
  rw [parameters_initial] at listed
  exact listed

theorem nodup_keys_compile : (NamedParameter.keys (compile settings t).1.parameters).Nodup := by
  have keys : NamedParameter.keys (compile settings t).1.parameters =
      ((compile settings t).1.parameters.map NamedParameter.parameter).map Parameter.key := by
    rw [List.map_map]
    rfl
  rw [keys, parameters_compile]
  exact Registry.nodup_keys_ofLeaves (leaves t)

theorem namedByKey_compile : NamedParameter.NamedByKey (compile settings t).1.parameters := by
  rw [compile_fst]
  refine nameLeaves_induct (P := fun c => NamedParameter.NamedByKey c.parameters) ?_
    fun _ _ _ _ _ step => step.namedByKey
  rw [parameters_initial]
  intro q mem
  exact absurd mem List.not_mem_nil

theorem key_mem_ofLeaves {settings : Settings} {t : Template} {q : NamedParameter}
    (mem : q ∈ (compile settings t).1.parameters) :
    q.parameter.key ∈ (Registry.ofLeaves (leaves t)).keys := by
  rw [Registry.keys, ← parameters_compile settings t]
  exact List.mem_map_of_mem (List.mem_map_of_mem mem)

theorem exists_occurrence {settings : Settings} {t : Template} {q : NamedParameter}
    (mem : q ∈ (compile settings t).1.parameters) :
    ∃ p ∈ (leaves t).filterMap Leaf.parameter?, p.key = q.parameter.key :=
  List.mem_map.1 (Registry.mem_keys_ofLeaves.1 (key_mem_ofLeaves mem))

/-- The tables of a compiled template give its leaves the names that they got. -/
theorem names_compile :
    (compile settings t).1.Names (leaves t) (nameLeaves (leaves t) (initial settings t)).1 := by
  obtain ⟨bindings, all, named⟩ := tablesName_nameLeaves (leaves t) (initial settings t)
  rw [bindings_initial, List.nil_append] at all
  rw [compile_fst, Compiled.Names, final, all]
  exact named

/-- The text of a compiled template, with the leaves written under the names of its tables. -/
theorem exists_names_compile :
    ∃ names, (compile settings t).1.Names (leaves t) names ∧
      (compile settings t).1.text = fill t (Leaf.tokens settings.marker (leaves t) names) :=
  ⟨_, names_compile settings t, by rw [compile_fst]⟩

end Compile

end Template

end ParamQuery
