import ParamQuery.Proofs.Settings.Guess
import ParamQuery.Proofs.Settings.Layers

/-!
# Settings from the environment

The environment variables of one source give keys their texts. A text for a field that holds text is
loaded exactly if the field accepts it as it is written, and is then kept as it is written
(`load_textual_variable`). Valid settings can be written to variables and loaded again, but for a
count of logged characters that does not fit in 64 bits with a sign (`load_written_settings`).
-/

namespace ParamQuery.Settings

open Source (guess)

/-- The keys that the environment variables with a stem set, with the texts of the variables. -/
def Host.variables (host : Host) (stem : String) : List (String × String) :=
  host.environment.filterMap fun (name, text) => (Source.keyOf? stem name).map (·, text)

/-! ## Layers of different keys -/

theorem perm_put {α : Type} {key : String} (value : α) {members : List (String × α)}
    (absent : key ∉ members.map Prod.fst) :
    (Json.put key value members).Perm ((key, value) :: members) := by
  induction members with
  | nil => rfl
  | cons member rest ih =>
    obtain ⟨k, v⟩ := member
    rw [List.map_cons, List.mem_cons, not_or] at absent
    rw [Json.put, if_neg absent.1]
    split
    · rfl
    · exact ((ih absent.2).cons (k, v)).trans (List.Perm.swap ..)

theorem perm_extend {layer : Layer} {values : List (String × Json)}
    (nodup : ((layer ++ values).map Prod.fst).Nodup) :
    (layer.extend values).Perm (layer ++ values) := by
  induction values generalizing layer with
  | nil => rw [List.append_nil]; rfl
  | cons entry rest ih =>
    obtain ⟨key, value⟩ := entry
    have absent : key ∉ layer.map Prod.fst := by
      rw [List.map_append, List.nodup_append] at nodup
      exact fun mem => nodup.2.2 key mem key (by simp) rfl
    have moved : (Json.put key value layer ++ rest).Perm (layer ++ (key, value) :: rest) :=
      ((perm_put value absent).append_right rest).trans List.perm_middle.symm
    exact (ih ((moved.map Prod.fst).nodup_iff.2 nodup)).trans moved

theorem perm_extend_nil {values : List (String × Json)} (nodup : (values.map Prod.fst).Nodup) :
    (Layer.extend [] values).Perm values :=
  perm_extend nodup

theorem lookup_eq_some_of_mem {layer : Layer} (nodup : (layer.map Prod.fst).Nodup) {key : String}
    {value : Json} (mem : (key, value) ∈ layer) : layer.lookup key = some value := by
  obtain ⟨before, after, rfl⟩ := List.append_of_mem mem
  refine List.lookup_eq_some_iff.2 ⟨before, after, rfl, fun entry earlier => ?_⟩
  rw [List.map_append, List.nodup_append] at nodup
  rw [bne_iff_ne]
  exact (nodup.2.2 entry.1 (List.mem_map_of_mem earlier) key (by simp)).symm

theorem filterMap_entryOf? (host : Host) (stem : String) :
    host.environment.filterMap (Source.entryOf? stem) =
      (host.variables stem).map fun (key, text) => (key, guess text) := by
  rw [Host.variables, List.map_filterMap]
  congr 1
  funext entry
  rw [Source.entryOf?, Option.map_map]
  rfl

/-- Variables that set different keys make a layer of their guessed values. -/
theorem load_environment {host : Host} {stem : String}
    (nodup : ((host.variables stem).map Prod.fst).Nodup) :
    ∃ layer, (load [.environment host stem]).1 = ofLayer layer ∧
      layer.Perm ((host.variables stem).map fun (key, text) => (key, guess text)) := by
  have distinct :
      (((host.variables stem).map fun (key, text) => (key, guess text)).map Prod.fst).Nodup := by
    rwa [List.map_map]
  have content := perm_extend_nil distinct
  have loaded := perm_extend_nil ((content.map Prod.fst).nodup_iff.2 distinct)
  have order : inOrder [Source.environment host stem] = [.environment host stem] := by
    simp [inOrder]
  refine ⟨_, ?_, loaded.trans content⟩
  rw [load, order, ← filterMap_entryOf?]
  rfl

/-! ## Single variables -/

theorem load_of_variable {host : Host} {stem key text : String}
    (only : host.variables stem = [(key, text)]) :
    (load [.environment host stem]).1 = ofLayer [(key, guess text)] := by
  have nodup : ((host.variables stem).map Prod.fst).Nodup := by simp [only]
  obtain ⟨layer, loaded, perm⟩ := load_environment nodup
  rw [only] at perm
  rw [loaded, List.perm_singleton.1 perm]

theorem ofLayer?_parameterPrefix (value : Json) :
    ofLayer? [("parameter_prefix", value)] =
      (textOf? value).map fun text => { standard with parameterPrefix := text } := by
  cases h : textOf? value <;> simp [ofLayer?, field?, List.lookup_cons, h]

theorem ofLayer?_aliasPrefix (value : Json) :
    ofLayer? [("alias_prefix", value)] =
      (textOf? value).map fun text => { standard with aliasPrefix := text } := by
  cases h : textOf? value <;> simp [ofLayer?, field?, List.lookup_cons, h]

theorem ofLayer?_marker (value : Json) :
    ofLayer? [("placeholder_marker", value)] =
      (charOf? value).map fun c => { standard with marker := c } := by
  cases h : charOf? value <;> simp [ofLayer?, field?, List.lookup_cons, h]

theorem valid_parameterPrefix_iff (text : String) :
    ({ standard with parameterPrefix := text } : Settings).Valid ↔ IsIdentifier text := by
  have rest := (valid_iff standard).1 standard_valid
  rw [valid_iff]
  exact ⟨fun all => all.1, fun identifier => ⟨identifier, rest.2⟩⟩

theorem valid_aliasPrefix_iff (text : String) :
    ({ standard with aliasPrefix := text } : Settings).Valid ↔ IsIdentifier text := by
  have rest := (valid_iff standard).1 standard_valid
  rw [valid_iff]
  exact ⟨fun all => all.2.1, fun identifier => ⟨rest.1, identifier, rest.2.2⟩⟩

theorem valid_marker_iff (c : Char) :
    ({ standard with marker := c } : Settings).Valid ↔ isMarker c = true := by
  have rest := (valid_iff standard).1 standard_valid
  rw [valid_iff]
  exact ⟨fun all => all.2.2.1, fun marker => ⟨rest.1, rest.2.1, marker, rest.2.2.2⟩⟩

/-- A layer that sets one field is loaded if the field accepts what is read. -/
theorem ofLayer_eq_ok_iff_of_map {α : Type} {layer : Layer} {read? : Option α} {set : α → Settings}
    {Accepts : α → Prop} (one : ofLayer? layer = read?.map set)
    (valid : ∀ field, (set field).Valid ↔ Accepts field) {s : Settings} :
    ofLayer layer = .ok s ↔ ∃ field, (read? = some field ∧ Accepts field) ∧ s = set field := by
  rw [ofLayer_eq_ok_iff, one, Option.map_eq_some_iff]
  constructor
  · rintro ⟨⟨field, read, rfl⟩, all⟩
    exact ⟨field, ⟨read, (valid field).1 all⟩, rfl⟩
  · rintro ⟨field, ⟨read, accepted⟩, rfl⟩
    exact ⟨⟨field, read, rfl⟩, (valid field).2 accepted⟩

/--
A variable for text is loaded exactly as it is written, or not at all.

If the only variable with the stem of a source sets the stem of parameters or of aliases, loading
succeeds exactly if its text is an identifier; if it sets the marker, exactly if its text is a single
character that can mark placeholders. The field then holds the text, even where the text was guessed
to be a number or a truth value.
-/
theorem load_textual_variable (host : Host) (stem text : String) :
    (host.variables stem = [("parameter_prefix", text)] → ∀ s,
      (load [.environment host stem]).1 = .ok s ↔
        IsIdentifier text ∧ s = { standard with parameterPrefix := text }) ∧
    (host.variables stem = [("alias_prefix", text)] → ∀ s,
      (load [.environment host stem]).1 = .ok s ↔
        IsIdentifier text ∧ s = { standard with aliasPrefix := text }) ∧
    (host.variables stem = [("placeholder_marker", text)] → ∀ s,
      (load [.environment host stem]).1 = .ok s ↔
        ∃ c, (text = String.singleton c ∧ isMarker c = true) ∧
          s = { standard with marker := c }) := by
  have identifier {field : String} :
      textOf? (guess text) = some field ∧ IsIdentifier field ↔
        IsIdentifier text ∧ field = text :=
    textOf?_guess_iff fun _ => Text.IsSigned.not_isIdentifier
  refine ⟨fun only s => ?_, fun only s => ?_, fun only s => ?_⟩
  · rw [load_of_variable only,
      ofLayer_eq_ok_iff_of_map (ofLayer?_parameterPrefix _) valid_parameterPrefix_iff]
    simp only [identifier, and_assoc, exists_and_left, exists_eq_left]
  · rw [load_of_variable only,
      ofLayer_eq_ok_iff_of_map (ofLayer?_aliasPrefix _) valid_aliasPrefix_iff]
    simp only [identifier, and_assoc, exists_and_left, exists_eq_left]
  · rw [load_of_variable only, ofLayer_eq_ok_iff_of_map (ofLayer?_marker _) valid_marker_iff]
    simp only [charOf?_guess_iff]

/-- A word that reads like a truth value is kept, digits are no stem, and a sign alone is a marker. -/
theorem load_textual_variable_of_guessed_texts :
    let host (name text : String) : Host := ⟨[(name, text)], []⟩
    (load [.environment (host "X_PARAMETER_PREFIX" "true") "X_"]).1 =
        .ok { standard with parameterPrefix := "true" } ∧
      (load [.environment (host "X_ALIAS_PREFIX" "007") "X_"]).1 ≠
        .ok { standard with aliasPrefix := "7" } ∧
      (load [.environment (host "X_PLACEHOLDER_MARKER" "-") "X_"]).1 =
        .ok { standard with marker := '-' } := by
  intro host
  refine ⟨?_, ?_, ?_⟩
  · exact ((load_textual_variable (host "X_PARAMETER_PREFIX" "true") "X_" "true").1
      (by decide +kernel) _).2 ⟨by decide, rfl⟩
  · intro loaded
    have identifier := ((load_textual_variable (host "X_ALIAS_PREFIX" "007") "X_" "007").2.1
      (by decide +kernel) _).1 loaded
    exact absurd identifier.1 (by decide)
  · exact ((load_textual_variable (host "X_PLACEHOLDER_MARKER" "-") "X_" "-").2.2
      (by decide +kernel) _).2 ⟨'-', ⟨rfl, by decide +kernel⟩, rfl⟩

/-! ## All variables -/

def texts (s : Settings) : List (String × String) :=
  [("parameter_prefix", s.parameterPrefix), ("parameter_start", toString s.parameterStart.toNat),
    ("placeholder_marker", String.singleton s.marker), ("alias_prefix", s.aliasPrefix),
    ("log_bindings", toString s.logBindings), ("repr_max_chars", toString s.reprMaxChars.toNat)]

theorem readOff_of_texts {s : Settings} (valid : s.Valid)
    (small : s.reprMaxChars.toNat < Nat.pow 2 63) {value? : String → Option Json}
    (found : ∀ key text, (key, text) ∈ s.texts → value? key = some (guess text)) :
    ReadOff value? s := by
  obtain ⟨parameterPrefix, aliasPrefix, marker, start, -⟩ := (valid_iff s).1 valid
  have identifier {text : String} (h : IsIdentifier text) : AsText (guess text) text :=
    textOf?_eq_some_iff.1 ((textOf?_guess_iff fun _ => Text.IsSigned.not_isIdentifier).2 ⟨h, rfl⟩).1
  have start_small : s.parameterStart.toNat < Nat.pow 2 63 := by
    have bound : s.parameterStart.toNat ≤ maxParameterStart.toNat := UInt64.le_iff_toNat_le.1 start
    have limit : maxParameterStart.toNat < Nat.pow 2 63 := by decide
    exact Nat.lt_of_le_of_lt bound limit
  constructor
  · rw [found _ s.parameterPrefix (by simp [texts])]
    exact identifier parameterPrefix
  · rw [found _ (toString s.parameterStart.toNat) (by simp [texts])]
    exact countOf?_eq_some_iff.1 ((countOf?_guess _).trans (if_pos start_small))
  · rw [found _ (String.singleton s.marker) (by simp [texts])]
    exact charOf?_eq_some_iff.1 (charOf?_guess_iff.2 ⟨rfl, marker⟩).1
  · rw [found _ s.aliasPrefix (by simp [texts])]
    exact identifier aliasPrefix
  · rw [found _ (toString s.logBindings) (by simp [texts])]
    exact flagOf?_eq_some_iff.1 (flagOf?_guess s.logBindings)
  · rw [found _ (toString s.reprMaxChars.toNat) (by simp [texts])]
    exact countOf?_eq_some_iff.1 ((countOf?_guess _).trans (if_pos small))

/--
Valid settings whose texts are written to environment variables are loaded again.

The number of logged characters has to fit in 64 bits with a sign. A larger one is guessed to be a
text, which does not fit its field, and nothing is loaded.
-/
theorem load_written_settings (host : Host) (stem : String) (s : Settings) (valid : s.Valid)
    (written : (host.variables stem).Perm s.texts) :
    (load [.environment host stem]).1 =
      if s.reprMaxChars.toNat < Nat.pow 2 63 then .ok s else .error .mismatch := by
  have keys : (s.texts.map Prod.fst).Nodup := by
    show ["parameter_prefix", "parameter_start", "placeholder_marker", "alias_prefix",
      "log_bindings", "repr_max_chars"].Nodup
    decide
  obtain ⟨layer, loaded, perm⟩ := load_environment ((written.map Prod.fst).nodup_iff.2 keys)
  have guessed := perm.trans (written.map fun (key, text) => (key, guess text))
  have layer_keys : (layer.map Prod.fst).Nodup := by
    rw [(guessed.map Prod.fst).nodup_iff, List.map_map]
    exact keys
  have found (key text : String) (mem : (key, text) ∈ s.texts) :
      layer.lookup key = some (guess text) :=
    lookup_eq_some_of_mem layer_keys (guessed.mem_iff.2 (List.mem_map.2 ⟨_, mem, rfl⟩))
  rw [loaded]
  by_cases small : s.reprMaxChars.toNat < Nat.pow 2 63
  · rw [if_pos small, ofLayer_eq_ok_iff, ofLayer?_eq_some_iff]
    exact ⟨readOff_of_texts valid small found, valid⟩
  · rw [if_neg small, ofLayer_eq_mismatch_iff, Option.eq_none_iff_forall_ne_some]
    intro other read
    have field := (ofLayer?_eq_some_iff.1 read).reprMaxChars
    rw [found _ (toString s.reprMaxChars.toNat) (by simp [texts])] at field
    rw [Reads, ← countOf?_eq_some_iff, countOf?_guess, if_neg small] at field
    cases field

/-- The largest count that is loaded again, and the next one. -/
theorem load_written_settings_of_large_counts :
    let host (count : String) : Host :=
      ⟨[("CRITERIA_REPR_MAX_CHARS", count), ("CRITERIA_LOG_BINDINGS", "false"), ("PATH", "/bin"),
        ("CRITERIA_PARAMETER_PREFIX", "true"), ("CRITERIA_PLACEHOLDER_MARKER", "-"),
        ("CRITERIA_ALIAS_PREFIX", "_7"), ("CRITERIA_PARAMETER_START", "4294967295")], []⟩
    let settings (count : UInt64) : Settings := ⟨"true", 4294967295, '-', "_7", false, count⟩
    (settings 9223372036854775808).Valid ∧
      (load [.environment (host "9223372036854775807") "CRITERIA_"]).1 =
        .ok (settings 9223372036854775807) ∧
      (load [.environment (host "9223372036854775808") "CRITERIA_"]).1 = .error .mismatch := by
  intro host settings
  refine ⟨by decide +kernel, ?_, ?_⟩
  · exact load_written_settings (host "9223372036854775807") "CRITERIA_"
      (settings 9223372036854775807) (by decide +kernel) (by decide +kernel)
  · exact load_written_settings (host "9223372036854775808") "CRITERIA_"
      (settings 9223372036854775808) (by decide +kernel) (by decide +kernel)

end ParamQuery.Settings
