import ParamQuery.Proofs.Naming.Substitution
import ParamQuery.Proofs.Prepared.Complete

/-!
# Explicit parameters apart from each other

Explicit parameters with different keys should have nothing to do with each other: different names,
different tokens, and a bind of one that does not concern the other. A position is written with a
question mark, and nothing keeps an author from calling a named parameter `?1`, or from taking the
question mark for the marker. Parameters are apart exactly if no named one of the tree is written
like a position of the tree (`apart_iff_unlikePositions`).
-/

namespace ParamQuery

/-- Neither the name of a named parameter nor its token is the text of a position. -/
def UnlikePositions (marker : Char) (parameters : List Parameter) : Prop :=
  ∀ p ∈ parameters, ∀ q ∈ parameters, ∀ name position, p.key = .named name →
    q.key = .positional position → name ≠ "?" ++ toString position ∧
      String.singleton marker ++ name ≠ "?" ++ toString position

/-- Keys with equal texts are equal, unless one is named like the position that the other is. -/
theorem Parameter.Key.eq_of_text {a b : Parameter.Key} (own : a.isUnnamed = false)
    (own' : b.isUnnamed = false) (same : a.text = b.text)
    (unlike : ∀ name position, a = .named name → b = .positional position →
      name ≠ "?" ++ toString position)
    (unlike' : ∀ name position, b = .named name → a = .positional position →
      name ≠ "?" ++ toString position) : a = b := by
  cases a with
  | named name =>
    cases b with
    | named name' => exact congrArg named same
    | positional position => exact absurd same (unlike name position rfl rfl)
    | unnamed token => cases own'
  | positional position =>
    cases b with
    | named name => exact absurd same.symm (unlike' name position rfl rfl)
    | positional position' =>
      have counters : numbered "?" position = numbered "?" position' := same
      rw [numbered_inj counters]
    | unnamed token => cases own'
  | unnamed token => cases own

namespace Compiled

/-- A state that some calls lead to from preparing. -/
def Reaches (c : Compiled) (s : Prepared) : Prop :=
  ∃ prepared calls, c.prepare = .ok prepared ∧
    (performAll Prepared.perform calls prepared).2 = s

/-- An explicit parameter of a compiled query does not get in the way of another one. -/
structure Apart (c : Compiled) (p q : Parameter) : Prop where
  names : NamedParameter.nameIn? c.parameters p.key ≠ NamedParameter.nameIn? c.parameters q.key
  tokens : c.parameterToken p ≠ c.parameterToken q
  value : ∀ s, c.Reaches s → ∀ value next, s.bind p value = .ok next →
    ∀ name, NamedParameter.nameIn? c.parameters q.key = some name →
      next.value? name = s.value? name
  missing : ∀ s, c.Reaches s → ∀ value next, s.bind p value = .ok next →
    ∀ name, NamedParameter.nameIn? c.parameters q.key = some name → s.isBound name = false →
      next.isBound name = false ∧ next.ensureComplete ≠ .ok ()
  /-- A bind is checked for the type that the table holds for the key, and for no other type. -/
  type : ∀ s, c.Reaches s → ∀ own ∈ c.parameters, own.parameter.key = p.key →
    ∀ value, (∃ next, s.bind p value = .ok next) ↔
      value.isNull = true ∨ value.type = own.parameter.type

theorem Reaches.declared {c : Compiled} {s : Prepared} (reached : c.Reaches s) :
    s.declared = c.declared := by
  obtain ⟨prepared, calls, prepares, rfl⟩ := reached
  obtain ⟨first, same, tracks⟩ := c.exists_prepare_tracks
  rw [prepares] at same
  cases same
  exact (tracks.performAll calls).2.declared

/-- A generated name is that of one parameter only. -/
theorem GeneratedOnce.eq_of_name {c : Compiled} {parameters : List Parameter}
    (h : c.GeneratedOnce parameters) {q r : NamedParameter} (mem_q : q ∈ c.parameters)
    (mem_r : r ∈ c.parameters) (unnamed : q.parameter.key.isUnnamed = true)
    (same : q.name = r.name) : q = r := by
  have once := h.once q.name (mem_generated_of_unnamed mem_q unnamed)
  have first := find?_declared_of_count (mem_declared_of_parameter mem_q) once
  have second := find?_declared_of_count (mem_declared_of_parameter mem_r) (same ▸ once)
  rw [← same, first, Option.some.injEq, Declared.mk.injEq, Option.some.injEq] at second
  obtain ⟨name, parameter⟩ := q
  obtain ⟨other, parameter'⟩ := r
  exact congrArg₂ NamedParameter.mk same second.2

end Compiled

namespace Template

theorem exists_entry (settings : Settings) {t : Template} {p : Parameter}
    (mem : p ∈ (leaves t).filterMap Leaf.parameter?) :
    ∃ q ∈ (compile settings t).1.parameters, q.parameter.key = p.key ∧
      NamedParameter.nameIn? (compile settings t).1.parameters p.key = some q.name := by
  obtain ⟨leaf, listed, same⟩ := List.mem_filterMap.1 mem
  cases leaf with
  | literal value type => cases same
  | parameter other =>
    cases same
    obtain ⟨name, looked⟩ := (compile_writtenByTables settings t).listed _ listed
    obtain ⟨q, mem, key, rfl⟩ := NamedParameter.exists_of_nameIn? looked
    exact ⟨q, mem, key, looked⟩

section Compile

variable {settings : Settings} {t : Template}

/-- If no named parameter is written like a position, equal names are names of one key. -/
theorem key_eq_of_name (valid : settings.Valid)
    (unlike : UnlikePositions settings.marker ((leaves t).filterMap Leaf.parameter?))
    {q r : NamedParameter} (mem_q : q ∈ (compile settings t).1.parameters)
    (mem_r : r ∈ (compile settings t).1.parameters) (same : q.name = r.name) :
    q.parameter.key = r.parameter.key := by
  have once := compile_generatedOnce valid t
  have byKey := namedByKey_compile settings t
  obtain ⟨p, occurs, key⟩ := exists_occurrence mem_q
  obtain ⟨p', occurs', key'⟩ := exists_occurrence mem_r
  cases kind : q.parameter.key.isUnnamed with
  | true => rw [once.eq_of_name mem_q mem_r kind same]
  | false =>
    cases kind' : r.parameter.key.isUnnamed with
    | true => rw [once.eq_of_name mem_r mem_q kind' same.symm]
    | false =>
      rw [byKey q mem_q kind, byKey r mem_r kind'] at same
      refine Parameter.Key.eq_of_text kind kind' same ?_ ?_
      · intro name position own own'
        exact (unlike p occurs p' occurs' name position (key.trans own) (key'.trans own')).1
      · intro name position own' own
        exact (unlike p' occurs' p occurs name position (key'.trans own') (key.trans own)).1

theorem names_nodup (valid : settings.Valid)
    (unlike : UnlikePositions settings.marker ((leaves t).filterMap Leaf.parameter?)) :
    (compile settings t).1.names.Nodup := by
  have keys := nodup_keys_compile settings t
  refine (compile_generatedOnce valid t).nodup_names (List.Nodup.map_on ?_ keys.of_map)
  intro q mem_q r mem_r same
  exact List.inj_on_of_nodup_map keys mem_q mem_r (key_eq_of_name valid unlike mem_q mem_r same)

/-- No other parameter stands under the text of a position. -/
theorem parameterToken_ne_position (valid : settings.Valid)
    (unlike : UnlikePositions settings.marker ((leaves t).filterMap Leaf.parameter?))
    {p p' : Parameter} (occurs : p ∈ (leaves t).filterMap Leaf.parameter?)
    (occurs' : p' ∈ (leaves t).filterMap Leaf.parameter?) {position : Nat}
    (key' : p'.key = .positional position) (other : p.key ≠ p'.key) :
    (compile settings t).1.parameterToken p ≠ "?" ++ toString position := by
  obtain ⟨q, mem, key, looked⟩ := exists_entry settings occurs
  have byKey := namedByKey_compile settings t q mem
  have marker := (compile_writtenByTables settings t).marker
  intro same
  cases own : p.key with
  | positional position' =>
    rw [Compiled.parameterToken_positional own] at same
    have counters : numbered "?" position' = numbered "?" position := same
    rw [own, key', numbered_inj counters] at other
    exact other rfl
  | named name =>
    rw [Compiled.parameterToken_marked looked (by simp [own]), Compiled.marked, marker] at same
    rw [key, own] at byKey
    rw [byKey rfl] at same
    exact (unlike p occurs p' occurs' name position own key').2 same
  | unnamed token =>
    have unnamed : q.parameter.key.isUnnamed = true := by
      rw [key, own]
      rfl
    obtain ⟨n, generated⟩ :=
      numbered_of_mem_generated (Compiled.mem_generated_of_unnamed mem unnamed)
    have stem := valid.isIdentifier_parameterPrefix
    rw [Compiled.parameterToken_marked looked (by simp [own]), Compiled.marked, marker] at same
    have chars : settings.marker :: q.name.toList = '?' :: (toString position).toList := by
      simpa using congrArg String.toList same
    have digits : q.name = toString position := String.toList_inj.1 (List.cons.inj chars).2
    exact numbered_ne_digits stem n position (generated.symm.trans digits)

theorem parameterToken_ne (valid : settings.Valid)
    (unlike : UnlikePositions settings.marker ((leaves t).filterMap Leaf.parameter?))
    {p p' : Parameter} (occurs : p ∈ (leaves t).filterMap Leaf.parameter?)
    (occurs' : p' ∈ (leaves t).filterMap Leaf.parameter?) (other : p.key ≠ p'.key) :
    (compile settings t).1.parameterToken p ≠ (compile settings t).1.parameterToken p' := by
  by_cases first : ∃ position, p.key = .positional position
  · obtain ⟨position, key⟩ := first
    rw [Compiled.parameterToken_positional key]
    exact (parameterToken_ne_position valid unlike occurs' occurs key other.symm).symm
  by_cases second : ∃ position, p'.key = .positional position
  · obtain ⟨position, key⟩ := second
    rw [Compiled.parameterToken_positional key]
    exact parameterToken_ne_position valid unlike occurs occurs' key other
  obtain ⟨q, mem, key, looked⟩ := exists_entry settings occurs
  obtain ⟨r, mem', key', looked'⟩ := exists_entry settings occurs'
  rw [Compiled.parameterToken_marked looked fun position own => first ⟨position, own⟩,
    Compiled.parameterToken_marked looked' fun position own => second ⟨position, own⟩]
  intro same
  have names : q.name = r.name := (String.append_right_inj _).1 same
  have keys := key_eq_of_name valid unlike mem mem' names
  rw [key, key'] at keys
  exact other keys

theorem apart (valid : settings.Valid)
    (unlike : UnlikePositions settings.marker ((leaves t).filterMap Leaf.parameter?))
    {p p' : Parameter} (occurs : p ∈ (leaves t).filterMap Leaf.parameter?)
    (occurs' : p' ∈ (leaves t).filterMap Leaf.parameter?) (other : p.key ≠ p'.key) :
    (compile settings t).1.Apart p p' := by
  have keys := nodup_keys_compile settings t
  have nodup := names_nodup valid unlike
  obtain ⟨q, mem, key, looked⟩ := exists_entry settings occurs
  obtain ⟨r, mem', key', looked'⟩ := exists_entry settings occurs'
  have names : r.name ≠ q.name := by
    intro same
    have keys := key_eq_of_name valid unlike mem' mem same
    rw [key, key'] at keys
    exact other keys.symm
  have untouched (s : Prepared) (reached : (compile settings t).1.Reaches s) (value : Value)
      (next : Prepared) (bound : s.bind p value = .ok next) :
      next.declared = (compile settings t).1.declared ∧ next.value? r.name = s.value? r.name := by
    have wrote := Compiled.bind_wrote reached.declared looked bound
    exact ⟨wrote.declared.trans reached.declared, by rw [wrote.value?, if_neg names]⟩
  refine ⟨?_, parameterToken_ne valid unlike occurs occurs' other, ?_, ?_, ?_⟩
  · rw [looked, looked']
    exact fun same => names (Option.some.inj same).symm
  · intro s reached value next bound name named
    rw [looked', Option.some.injEq] at named
    rw [← named]
    exact (untouched s reached value next bound).2
  · intro s reached value next bound name named unbound
    rw [looked', Option.some.injEq] at named
    obtain ⟨declared, same⟩ := untouched s reached value next bound
    have still : next.isBound r.name = false := by
      rw [Prepared.isBound, same, named]
      exact unbound
    refine ⟨named ▸ still, fun complete => ?_⟩
    have all := (Compiled.ensureComplete_eq_ok_iff declared).1 complete r.name
      (List.mem_append_right _ (List.mem_map_of_mem mem'))
    rw [still] at all
    cases all
  · intro s reached own listed same value
    have once := List.count_eq_one_of_mem nodup
      (List.mem_append_right _ (List.mem_map_of_mem (f := NamedParameter.name) listed))
    exact Compiled.exists_bind_iff listed keys once reached.declared same.symm value

end Compile

end Template

/--
Under valid settings, all explicit parameters of a tree with different keys are apart from each
other exactly if no named one of them is written like a position of the tree.

Preparing succeeds either way, and the tokens are what stands in the text for the parameters.
-/
theorem apart_iff_unlikePositions (settings : Settings) (valid : settings.Valid) (e : Expr) :
    (∃ prepared, (e.compile settings).1.prepare = .ok prepared) ∧
      (e.compile settings).1.WrittenByTables settings e.template e.occurrences ∧
      ((∀ p ∈ e.occurrences.filterMap Leaf.parameter?,
          ∀ q ∈ e.occurrences.filterMap Leaf.parameter?, p.key ≠ q.key →
            (e.compile settings).1.Apart p q) ↔
        UnlikePositions settings.marker (e.occurrences.filterMap Leaf.parameter?)) := by
  rw [e.compile_eq, e.occurrences_eq]
  have written := Template.compile_writtenByTables settings e.template
  obtain ⟨prepared, prepares, -⟩ := (Template.compile settings e.template).1.exists_prepare_tracks
  refine ⟨⟨prepared, prepares⟩, written, ?_, ?_⟩
  · intro apart p occurs q occurs' name position own own'
    have pair := apart p occurs q occurs' (by simp [own, own'])
    have byKey := Template.namedByKey_compile settings e.template
    obtain ⟨r, mem, key, looked⟩ := Template.exists_entry settings occurs
    obtain ⟨r', mem', key', looked'⟩ := Template.exists_entry settings occurs'
    have text : r.name = name := by
      have same := byKey r mem
      rw [key, own] at same
      exact same rfl
    have text' : r'.name = "?" ++ toString position := by
      rw [own'] at looked'
      exact byKey.nameIn?_positional looked'
    constructor
    · intro same
      refine pair.names ?_
      rw [looked, looked', text, text', same]
    · intro same
      refine pair.tokens ?_
      rw [Compiled.parameterToken_marked looked (by simp [own]),
        Compiled.parameterToken_positional own', Compiled.marked, written.marker, text, same]
  · intro unlike p occurs q occurs' other
    exact Template.apart valid unlike occurs occurs' other

/--
A parameter named `1` is apart from position 1, but one named `?1` is not.

With a question mark for the marker, that named `1` is not apart from the position either.
-/
theorem apart_iff_unlikePositions_of_position_one :
    let ofName (name : String) : Expr := .comparison .equal (.parameter ⟨.named name, .int⟩)
      (.parameter ⟨.positional 1, .string⟩)
    let marked : Settings := { Settings.standard with marker := '?' }
    let AllApart (settings : Settings) (e : Expr) : Prop :=
      ∀ p ∈ e.occurrences.filterMap Leaf.parameter?, ∀ q ∈ e.occurrences.filterMap Leaf.parameter?,
        p.key ≠ q.key → (e.compile settings).1.Apart p q
    Settings.standard.Valid ∧ marked.Valid ∧ AllApart .standard (ofName "1") ∧
      ¬AllApart .standard (ofName "?1") ∧ ¬AllApart marked (ofName "1") := by
  intro ofName marked AllApart
  have valid : marked.Valid := by decide +kernel
  refine ⟨Settings.standard_valid, valid, ?_, ?_, ?_⟩
  · refine (apart_iff_unlikePositions .standard Settings.standard_valid (ofName "1")).2.2.2 ?_
    intro p occurs q occurs' name position own own'
    have named : p = ⟨.named "1", .int⟩ ∨ p = ⟨.positional 1, .string⟩ := List.mem_pair.1 occurs
    have placed : q = ⟨.named "1", .int⟩ ∨ q = ⟨.positional 1, .string⟩ := List.mem_pair.1 occurs'
    rcases named with rfl | rfl
    · rcases placed with rfl | rfl
      · cases own'
      · cases own
        cases own'
        decide +kernel
    · cases own
  · intro apart
    have unlike := (apart_iff_unlikePositions .standard Settings.standard_valid (ofName "?1")).2.2.1
      apart
    refine (unlike ⟨.named "?1", .int⟩ ?_ ⟨.positional 1, .string⟩ ?_ "?1" 1 rfl rfl).1 ?_
    · exact List.mem_cons_self
    · exact List.mem_cons_of_mem _ List.mem_cons_self
    · decide +kernel
  · intro apart
    have unlike := (apart_iff_unlikePositions marked valid (ofName "1")).2.2.1 apart
    refine (unlike ⟨.named "1", .int⟩ ?_ ⟨.positional 1, .string⟩ ?_ "1" 1 rfl rfl).2 ?_
    · exact List.mem_cons_self
    · exact List.mem_cons_of_mem _ List.mem_cons_self
    · decide +kernel

end ParamQuery
