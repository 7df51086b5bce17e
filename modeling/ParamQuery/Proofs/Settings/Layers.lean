import ParamQuery.Proofs.Settings.Readings

/-!
# Layers of settings

Loading puts sources into the only stable order of ascending priority. In this order the first
source that cannot be loaded decides the error; if all can, the last source with a value for the key
of a field decides the field. Nothing else counts (`load_layered`): neither values that are replaced
later, nor keys without a field, nor the order in which sources of different priorities are given,
nor optional files that are missing.
-/

namespace ParamQuery.Settings

/-! ## The stable order -/

/-- A list by ascending priority is determined by its sources of each priority in their order. -/
theorem eq_of_filter_priority_eq {first second : List Source}
    (sorted : first.Pairwise fun a b => a.priority ≤ b.priority)
    (sorted' : second.Pairwise fun a b => a.priority ≤ b.priority)
    (same : ∀ priority, first.filter (·.priority == priority) =
      second.filter (·.priority == priority)) : first = second := by
  induction first generalizing second with
  | nil =>
    cases second with
    | nil => rfl
    | cons b rest => simpa using same b.priority
  | cons a rest ih =>
    cases second with
    | nil => simpa using same a.priority
    | cons b rest' =>
      obtain ⟨below, ascends⟩ := List.pairwise_cons.1 sorted
      obtain ⟨below', ascends'⟩ := List.pairwise_cons.1 sorted'
      have mem : a ∈ b :: rest' := by
        have kept : a ∈ (b :: rest').filter (·.priority == a.priority) := by
          rw [← same a.priority]
          simp
        exact (List.mem_filter.1 kept).1
      have mem' : b ∈ a :: rest := by
        have kept : b ∈ (a :: rest).filter (·.priority == b.priority) := by
          rw [same b.priority]
          simp
        exact (List.mem_filter.1 kept).1
      have level : a.priority = b.priority := by
        rcases List.mem_cons.1 mem with rfl | later
        · rfl
        · rcases List.mem_cons.1 mem' with rfl | later'
          · rfl
          · exact Nat.le_antisymm (below b later') (below' a later)
      have heads := same a.priority
      simp only [List.filter_cons, level, beq_self_eq_true, if_true, List.cons.injEq] at heads
      obtain ⟨rfl, -⟩ := heads
      refine congrArg (a :: ·) (ih ascends ascends' fun priority => ?_)
      have tails := same priority
      by_cases own : a.priority = priority
      · simpa [own] using tails
      · simpa [own] using tails

private def notAbove (a b : Source) : Bool := decide (a.priority ≤ b.priority)

private theorem notAbove_trans (a b c : Source) (h : notAbove a b = true)
    (h' : notAbove b c = true) : notAbove a c = true := by
  simp only [notAbove, decide_eq_true_eq] at *
  omega

private theorem notAbove_total (a b : Source) : (notAbove a b || notAbove b a) = true := by
  simp only [notAbove, Bool.or_eq_true, decide_eq_true_eq]
  omega

theorem pairwise_inOrder (sources : List Source) :
    (inOrder sources).Pairwise fun a b => a.priority ≤ b.priority :=
  (List.pairwise_mergeSort notAbove_trans notAbove_total sources).imp of_decide_eq_true

/-- Sources of one priority keep their order. -/
theorem filter_priority_inOrder (sources : List Source) (priority : Nat) :
    (inOrder sources).filter (·.priority == priority) =
      sources.filter (·.priority == priority) := by
  have level : (sources.filter (·.priority == priority)).Pairwise
      fun a b => notAbove a b = true := by
    refine List.Pairwise.imp_of_mem ?_ (List.pairwise_of_forall fun _ _ => trivial)
    intro a b mem mem' _
    have first := beq_iff_eq.1 (List.mem_filter.1 mem).2
    have second := beq_iff_eq.1 (List.mem_filter.1 mem').2
    simp [notAbove, first, second]
  have kept := (List.sublist_mergeSort notAbove_trans notAbove_total level
    List.filter_sublist).filter (·.priority == priority)
  rw [List.filter_filter] at kept
  simp only [Bool.and_self] at kept
  have perm := (List.mergeSort_perm sources notAbove).filter (·.priority == priority)
  exact (kept.eq_of_length perm.length_eq.symm).symm

theorem inOrder_eq_of_filter_priority_eq {first second : List Source}
    (same : ∀ priority, first.filter (·.priority == priority) =
      second.filter (·.priority == priority)) : inOrder first = inOrder second := by
  refine eq_of_filter_priority_eq (pairwise_inOrder first) (pairwise_inOrder second) ?_
  intro priority
  rw [filter_priority_inOrder, filter_priority_inOrder, same]

/-- Leaving sources out does not change the order of the others. -/
theorem filter_inOrder (keep : Source → Bool) (sources : List Source) :
    (inOrder sources).filter keep = inOrder (sources.filter keep) := by
  refine eq_of_filter_priority_eq ((pairwise_inOrder sources).filter keep) (pairwise_inOrder _) ?_
  intro priority
  have swapped (l : List Source) : (l.filter keep).filter (·.priority == priority) =
      (l.filter (·.priority == priority)).filter keep := by
    rw [List.filter_filter, List.filter_filter]
    simp only [Bool.and_comm]
  rw [swapped, filter_priority_inOrder, filter_priority_inOrder, swapped]

/-! ## What sources say -/

/-- The value that a source has for a key; of several the last one counts. -/
def Source.value? (source : Source) (key : String) : Option Json :=
  match source.content with
  | .error _ => none
  | .ok values => values.reverse.lookup key

def Source.failure? (source : Source) : Option LoadError :=
  match source.content with
  | .error cause => some (.source source.description cause)
  | .ok _ => none

/-- The value of the last source that has one for a key. -/
def deciding? (sources : List Source) (key : String) : Option Json :=
  sources.reverse.findSome? fun source => source.value? key

def failure? (sources : List Source) : Option LoadError := sources.findSome? Source.failure?

theorem deciding?_cons (source : Source) (rest : List Source) (key : String) :
    deciding? (source :: rest) key = (deciding? rest key).or (source.value? key) := by
  rw [deciding?, List.reverse_cons, List.findSome?_append]
  congr 1
  simp [List.findSome?]
  cases source.value? key <;> rfl

theorem lookup_extend (layer : Layer) (values : List (String × Json)) (key : String) :
    (layer.extend values).lookup key = (values.reverse.lookup key).or (layer.lookup key) := by
  induction values generalizing layer with
  | nil => rfl
  | cons entry rest ih =>
    obtain ⟨own, value⟩ := entry
    have first : ([(own, value)] : Layer).lookup key = if key = own then some value else none := by
      by_cases same : key = own
      · simp [same]
      · simp [List.lookup_cons, same, beq_eq_false_iff_ne.2 same]
    have extended : layer.extend ((own, value) :: rest) =
        Layer.extend (Json.put own value layer) rest := rfl
    rw [extended, ih, Json.lookup_put, List.reverse_cons, List.lookup_append, first, Option.or_assoc]
    by_cases same : key = own <;> simp [same]

theorem merge_eq_error {sources : List Source} {e : LoadError} (fails : failure? sources = some e)
    (layer : Layer) : merge sources layer = .error e := by
  induction sources generalizing layer with
  | nil => cases fails
  | cons source rest ih =>
    unfold merge
    cases content : source.content with
    | error cause =>
      have first : source.failure? = some (.source source.description cause) := by
        simp [Source.failure?, content]
      rw [failure?, List.findSome?_cons, first] at fails
      cases fails
      rfl
    | ok values =>
      have first : source.failure? = none := by simp [Source.failure?, content]
      rw [failure?, List.findSome?_cons, first] at fails
      exact ih fails _

/-- If all sources can be loaded, each key has the value of the last source that has one for it. -/
theorem exists_merge {sources : List Source} (loads : failure? sources = none) (layer : Layer) :
    ∃ merged, merge sources layer = .ok merged ∧
      ∀ key, merged.lookup key = (deciding? sources key).or (layer.lookup key) := by
  induction sources generalizing layer with
  | nil => exact ⟨layer, rfl, fun _ => rfl⟩
  | cons source rest ih =>
    unfold merge
    cases content : source.content with
    | error cause => simp [failure?, Source.failure?, content] at loads
    | ok values =>
      have first : source.failure? = none := by simp [Source.failure?, content]
      rw [failure?, List.findSome?_cons, first] at loads
      obtain ⟨merged, same, looked⟩ := ih loads (layer.extend values)
      have own (key : String) : source.value? key = values.reverse.lookup key := by
        simp [Source.value?, content]
      refine ⟨merged, same, fun key => ?_⟩
      rw [looked, lookup_extend, deciding?_cons, own, Option.or_assoc]

/-! ## Loading -/

theorem ofLayer_eq_ok_iff {layer : Layer} {s : Settings} :
    ofLayer layer = .ok s ↔ ofLayer? layer = some s ∧ s.Valid := by
  unfold ofLayer
  cases ofLayer? layer with
  | none => simp
  | some own =>
    have same (s : Settings) : some own = some s ∧ s.Valid ↔ own = s ∧ own.check = .ok () := by
      rw [Option.some.injEq]
      exact and_congr_right fun same => same ▸ Iff.rfl
    rw [same]
    cases checked : own.check <;> simp [checked]

theorem ofLayer_eq_invalid_iff {layer : Layer} {fault : Fault} :
    ofLayer layer = .error (.invalid fault) ↔
      ∃ s, ofLayer? layer = some s ∧ s.check = .error fault := by
  unfold ofLayer
  cases ofLayer? layer with
  | none => simp
  | some own => cases checked : own.check <;> simp [checked]

theorem ofLayer_eq_mismatch_iff {layer : Layer} :
    ofLayer layer = .error .mismatch ↔ ofLayer? layer = none := by
  unfold ofLayer
  cases ofLayer? layer with
  | none => simp
  | some own => cases checked : own.check <;> simp [checked]

theorem load_eq_error {sources : List Source} {e : LoadError}
    (fails : failure? (inOrder sources) = some e) : (load sources).1 = .error e := by
  rw [load, merge_eq_error fails]
  rfl

theorem load_eq_ofLayer {sources : List Source} (loads : failure? (inOrder sources) = none) :
    ∃ merged, (load sources).1 = ofLayer merged ∧
      ∀ key, merged.lookup key = deciding? (inOrder sources) key := by
  obtain ⟨merged, same, looked⟩ := exists_merge loads []
  refine ⟨merged, ?_, fun key => by rw [looked, List.lookup_nil, Option.or_none]⟩
  rw [load, same]
  rfl

/-- The error that comes first and the values that decide fields are all that counts. -/
theorem load_congr {first second : List Source}
    (failures : failure? (inOrder first) = failure? (inOrder second))
    (values : ∀ key ∈ fieldKeys, deciding? (inOrder first) key = deciding? (inOrder second) key) :
    (load first).1 = (load second).1 := by
  cases fails : failure? (inOrder first) with
  | some e => rw [load_eq_error fails, load_eq_error (failures ▸ fails)]
  | none =>
    obtain ⟨merged, same, looked⟩ := load_eq_ofLayer fails
    obtain ⟨merged', same', looked'⟩ := load_eq_ofLayer (failures ▸ fails)
    have layers : ofLayer? merged = ofLayer? merged' :=
      ofLayer?_congr fun key mem => by rw [looked, looked', values key mem]
    rw [same, same', ofLayer, ofLayer, layers]

def Source.speaks (source : Source) : Bool :=
  match source.content with
  | .ok [] => false
  | _ => true

theorem Source.content_of_silent {source : Source} (silent : source.speaks = false) :
    source.content = .ok [] := by
  unfold speaks at silent
  split at silent
  · assumption
  · cases silent

theorem failure?_filter_speaks (sources : List Source) :
    failure? (sources.filter Source.speaks) = failure? sources := by
  induction sources with
  | nil => rfl
  | cons source rest ih =>
    unfold failure? at ih ⊢
    cases speaks : source.speaks with
    | true => rw [List.filter_cons_of_pos speaks, List.findSome?_cons, List.findSome?_cons, ih]
    | false =>
      have none : source.failure? = none := by
        simp [Source.failure?, Source.content_of_silent speaks]
      rw [List.filter_cons_of_neg (by simp [speaks]), List.findSome?_cons, none, ih]

theorem deciding?_filter_speaks (sources : List Source) (key : String) :
    deciding? (sources.filter Source.speaks) key = deciding? sources key := by
  induction sources with
  | nil => rfl
  | cons source rest ih =>
    cases speaks : source.speaks with
    | true => rw [List.filter_cons_of_pos speaks, deciding?_cons, deciding?_cons, ih]
    | false =>
      have none : source.value? key = none := by
        simp [Source.value?, Source.content_of_silent speaks]
      rw [List.filter_cons_of_neg (by simp [speaks]), deciding?_cons, none, Option.or_none, ih]

theorem load_eq_of_filter_speaks_eq {first second : List Source}
    (same : first.filter Source.speaks = second.filter Source.speaks) :
    (load first).1 = (load second).1 := by
  have order : (inOrder first).filter Source.speaks = (inOrder second).filter Source.speaks := by
    rw [filter_inOrder, filter_inOrder, same]
  refine load_congr ?_ fun key _ => ?_
  · rw [← failure?_filter_speaks, order, failure?_filter_speaks]
  · rw [← deciding?_filter_speaks, order, deciding?_filter_speaks]

/-- How what is loaded depends on sources. -/
structure Layered (sources : List Source) : Prop where
  sorted : (inOrder sources).Pairwise fun a b => a.priority ≤ b.priority
  stable : ∀ priority, (inOrder sources).filter (·.priority == priority) =
    sources.filter (·.priority == priority)
  failed : ∀ e, failure? (inOrder sources) = some e → (load sources).1 = .error e
  settings : failure? (inOrder sources) = none → ∀ s, (load sources).1 = .ok s ↔
    ReadOff (deciding? (inOrder sources)) s ∧ s.Valid
  invalid : failure? (inOrder sources) = none → ∀ fault, (load sources).1 = .error (.invalid fault) ↔
    ∃ s, ReadOff (deciding? (inOrder sources)) s ∧ s.check = .error fault
  mismatch : failure? (inOrder sources) = none → ((load sources).1 = .error .mismatch ↔
    ¬∃ s, ReadOff (deciding? (inOrder sources)) s)
  /-- Values that are replaced later and keys without a field cannot have an influence. -/
  shadowed : ∀ others, failure? (inOrder others) = failure? (inOrder sources) →
    (∀ key ∈ fieldKeys, deciding? (inOrder others) key = deciding? (inOrder sources) key) →
      (load others).1 = (load sources).1
  /-- Sources of different priorities may be given in any order. -/
  reordered : ∀ others : List Source, (∀ priority, others.filter (·.priority == priority) =
    sources.filter (·.priority == priority)) → load others = load sources
  /-- An optional file that is missing may be added anywhere. -/
  optional : ∀ before after host path, sources = before ++ after →
    host.file path = .missing →
      (load (before ++ Source.toml host path false :: after)).1 = (load sources).1
  valid : ∀ s, (load sources).1 = .ok s → s.Valid

/--
The sources of settings are layers.

The first source that cannot be loaded, in the stable order of ascending priority, decides the
error. If all can be loaded, every field is read off the value of the last source in this order that
has one for its key, or is the standard one if none has, and the settings are checked.
-/
theorem load_layered (sources : List Source) : Layered sources := by
  have read {merged : Layer} (looked : ∀ key, merged.lookup key = deciding? (inOrder sources) key)
      (s : Settings) : ofLayer? merged = some s ↔ ReadOff (deciding? (inOrder sources)) s := by
    rw [ofLayer?_eq_some_iff, funext looked]
  refine
    { sorted := pairwise_inOrder sources
      stable := filter_priority_inOrder sources
      failed := fun e fails => load_eq_error fails
      settings := fun loads s => ?_
      invalid := fun loads fault => ?_
      mismatch := fun loads => ?_
      shadowed := fun others failures values => load_congr failures values
      reordered := fun others same => ?_
      optional := fun before after host path split missing => ?_
      valid := fun s loaded => ?_ }
  · obtain ⟨merged, same, looked⟩ := load_eq_ofLayer loads
    rw [same, ofLayer_eq_ok_iff, read looked]
  · obtain ⟨merged, same, looked⟩ := load_eq_ofLayer loads
    rw [same, ofLayer_eq_invalid_iff]
    simp only [read looked]
  · obtain ⟨merged, same, looked⟩ := load_eq_ofLayer loads
    rw [same, ofLayer_eq_mismatch_iff, Option.eq_none_iff_forall_ne_some]
    simp only [ne_eq, read looked, not_exists]
  · rw [load, load, inOrder_eq_of_filter_priority_eq same]
  · have silent : (Source.toml host path false).speaks = false := by
      simp [Source.speaks, Source.toml, missing, Source.layerOfFile]
    rw [split]
    apply load_eq_of_filter_speaks_eq
    simp [silent]
  · cases fails : failure? (inOrder sources) with
    | some e =>
      rw [load_eq_error fails] at loaded
      cases loaded
    | none =>
      obtain ⟨merged, same, -⟩ := load_eq_ofLayer fails
      rw [same, ofLayer_eq_ok_iff] at loaded
      exact loaded.2

/--
Values that fit no field are replaced, or have no field, and an optional file is missing. A number
is a text that does not start like a name.
-/
theorem load_layered_of_shadowed_values :
    let host : Host := ⟨[("X_ALIAS_PREFIX", "true"), ("X_LOG_BINDINGS", "false")], []⟩
    let environment := Source.environment host "X_"
    let first := Source.fixed [("parameter_start", .string "zero"), ("alias_prefix", .null)]
    let second := Source.fixed [("parameter_start", .ofInt 7), ("placeholder_marker", .string "$"),
      ("colour", .null)]
    let number := Source.fixed [("parameter_prefix", .ofInt 12)]
    let missing := Source.toml host "/cfg/a.toml" false
    (load [environment, first, second]).1 = .ok ⟨"param", 7, '$', "true", false, 300⟩ ∧
      (load [number]).1 = .error (.invalid (.badFirstCharacter "parameter_prefix" "12")) ∧
      load [first, environment, second] = load [environment, first, second] ∧
      (load [environment, missing, first, second]).1 = (load [environment, first, second]).1 := by
  intro host environment first second number missing
  have guessed : environment = ⟨100, "Environment variables (prefix: X_)",
      .ok [("alias_prefix", .bool true), ("log_bindings", .bool false)], []⟩ := by
    with_unfolding_all rfl
  have layered := load_layered [environment, first, second]
  have order : inOrder [environment, first, second] = [first, second, environment] := by
    simp [inOrder, List.mergeSort, List.MergeSort.Internal.splitInTwo, guessed, first, second,
      Source.fixed]
  have loads : failure? (inOrder [environment, first, second]) = none := by
    rw [order, guessed]
    rfl
  have read : ReadOff (deciding? (inOrder [environment, first, second]))
      ⟨"param", 7, '$', "true", false, 300⟩ := by
    rw [order, guessed]
    exact ⟨rfl, .integer 7, .string "$", .true, .bool false, rfl⟩
  have alone : inOrder [number] = [number] := List.mergeSort_singleton number
  have refused : ∃ s, ReadOff (deciding? (inOrder [number])) s ∧
      s.check = .error (.badFirstCharacter "parameter_prefix" "12") := by
    rw [alone]
    exact ⟨{ standard with parameterPrefix := "12" }, ⟨.integer 12, rfl, rfl, rfl, rfl, rfl⟩, rfl⟩
  refine ⟨(layered.settings loads _).2 ⟨read, by decide +kernel⟩,
    ((load_layered [number]).invalid (by rw [alone]; rfl) _).2 refused, layered.reordered _ ?_,
    layered.optional [environment] [first, second] host _ rfl rfl⟩
  intro priority
  rw [guessed]
  by_cases low : 0 = priority
  · simp [first, second, Source.fixed, ← low]
  · have high : (0 == priority) = false := beq_eq_false_iff_ne.2 low
    simp [first, second, Source.fixed, List.filter_cons, high]

end ParamQuery.Settings
