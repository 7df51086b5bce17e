import ParamQuery.Settings.Load

/-!
# Fields read off values

What a JSON value stands for in a field, by the kind of value. The loader reads exactly this, so the
settings of a layer are those whose fields are read off the values of their keys, each field by
itself (`ofLayer?_eq_some_iff`).
-/

namespace ParamQuery.Settings

/-! ## Values -/

/-- A value as a text. Numbers and truth values stand for the text that writes them. -/
inductive AsText : Json → String → Prop where
  | string (s : String) : AsText (.string s) s
  | integer (n : Int) : AsText (.number (.integer n)) (toString n)
  | real (x : Floating.Double) : AsText (.number (.real x)) (Json.realText x)
  | true : AsText (.bool true) "true"
  | false : AsText (.bool false) "false"

/-- A value as a marker, which is a text of a single character. -/
def AsMarker (value : Json) (c : Char) : Prop := AsText value (String.singleton c)

/-- A value as a count. Only integers of 64 bits without a sign count anything. -/
inductive AsCount : Json → UInt64 → Prop where
  | integer (n : UInt64) : AsCount (.number (.integer n.toNat)) n

/-- A value as a flag. A text does not stand for a truth value. -/
inductive AsFlag : Json → Bool → Prop where
  | bool (b : Bool) : AsFlag (.bool b) b

theorem textOf?_eq_some_iff {value : Json} {text : String} :
    textOf? value = some text ↔ AsText value text := by
  constructor
  · intro read
    cases value with
    | string s =>
      cases read
      exact .string text
    | number n =>
      cases n with
      | integer n =>
        cases read
        exact .integer n
      | real x =>
        cases read
        exact .real x
    | bool b =>
      cases b with
      | true =>
        cases read
        exact .true
      | false =>
        cases read
        exact .false
    | null | array | object => cases read
  · intro stands
    cases stands <;> rfl

theorem charOf?_eq_some_iff {value : Json} {c : Char} :
    charOf? value = some c ↔ AsMarker value c := by
  rw [AsMarker, ← textOf?_eq_some_iff, charOf?]
  cases textOf? value with
  | none => simp
  | some text =>
    rw [Option.map_some, Option.some.injEq, ← String.toList_inj, String.toList_singleton]
    split
    next d same => simp_all
    next other =>
      constructor
      · intro absurd
        cases absurd
      · intro same
        exact absurd (congrArg some same) (other c)

theorem countOf?_eq_some_iff {value : Json} {n : UInt64} :
    countOf? value = some n ↔ AsCount value n := by
  have limit : Int.pow 2 64 = (2 ^ 64 : Nat) := by decide
  constructor
  · intro read
    unfold countOf? at read
    split at read
    next i =>
      split at read
      next fits =>
        obtain ⟨count, rfl⟩ : ∃ count : UInt64, i = count.toNat := by
          rw [limit] at fits
          have small : i.toNat < 2 ^ 64 := by omega
          refine ⟨.ofNat i.toNat, ?_⟩
          rw [UInt64.toNat_ofNat_of_lt' small]
          omega
        rw [Int.toNat_natCast, UInt64.ofNat_toNat] at read
        cases read
        exact .integer n
      next => cases read
    next => cases read
  · rintro ⟨⟩
    have below : n.toNat < 2 ^ 64 := n.toNat_lt
    have fits : 0 ≤ (n.toNat : Int) ∧ (n.toNat : Int) < Int.pow 2 64 := by
      rw [limit]
      omega
    rw [countOf?, if_pos fits, Int.toNat_natCast, UInt64.ofNat_toNat]

theorem flagOf?_eq_some_iff {value : Json} {b : Bool} :
    flagOf? value = some b ↔ AsFlag value b := by
  constructor
  · intro read
    cases value with
    | bool b =>
      cases read
      exact .bool b
    | null | number | string | array | object => cases read
  · rintro ⟨⟩
    rfl

/-! ## Fields -/

/-- What a field is if its key has this value, or none. -/
def Reads {α : Type} (stands : Json → α → Prop) (standard : α) : Option Json → α → Prop
  | none, field => field = standard
  | some value, field => stands value field

theorem field?_eq_some_iff {α : Type} {read? : Json → Option α} {stands : Json → α → Prop}
    (same : ∀ {value : Json} {a : α}, read? value = some a ↔ stands value a) {layer : Layer}
    {key : String} {standard field : α} :
    field? read? layer key standard = some field ↔
      Reads stands standard (layer.lookup key) field := by
  unfold field?
  cases layer.lookup key with
  | none => simp [Reads, eq_comm]
  | some value => exact same

def fieldKeys : List String :=
  ["parameter_prefix", "parameter_start", "placeholder_marker", "alias_prefix", "log_bindings",
    "repr_max_chars"]

/-- Settings whose fields are read off the values of their keys. -/
structure ReadOff (value? : String → Option Json) (s : Settings) : Prop where
  parameterPrefix : Reads AsText standard.parameterPrefix (value? "parameter_prefix")
    s.parameterPrefix
  parameterStart : Reads AsCount standard.parameterStart (value? "parameter_start")
    s.parameterStart
  marker : Reads AsMarker standard.marker (value? "placeholder_marker") s.marker
  aliasPrefix : Reads AsText standard.aliasPrefix (value? "alias_prefix") s.aliasPrefix
  logBindings : Reads AsFlag standard.logBindings (value? "log_bindings") s.logBindings
  reprMaxChars : Reads AsCount standard.reprMaxChars (value? "repr_max_chars") s.reprMaxChars

theorem ofLayer?_eq_some_iff {layer : Layer} {s : Settings} :
    ofLayer? layer = some s ↔ ReadOff (fun key => layer.lookup key) s := by
  unfold ofLayer?
  simp only [bind, Option.bind_eq_some_iff, pure, Option.some.injEq,
    field?_eq_some_iff textOf?_eq_some_iff, field?_eq_some_iff charOf?_eq_some_iff,
    field?_eq_some_iff countOf?_eq_some_iff, field?_eq_some_iff flagOf?_eq_some_iff]
  constructor
  · rintro ⟨_, first, _, second, _, third, _, fourth, _, fifth, _, sixth, rfl⟩
    exact ⟨first, second, third, fourth, fifth, sixth⟩
  · rintro ⟨first, second, third, fourth, fifth, sixth⟩
    exact ⟨_, first, _, second, _, third, _, fourth, _, fifth, _, sixth, rfl⟩

/-- Keys without a field have no influence. -/
theorem ReadOff.congr {value? value?' : String → Option Json}
    (same : ∀ key ∈ fieldKeys, value? key = value?' key) {s : Settings} (h : ReadOff value? s) :
    ReadOff value?' s := by
  simp only [fieldKeys, List.forall_mem_cons, List.not_mem_nil, false_imp_iff, implies_true,
    and_true] at same
  obtain ⟨first, second, third, fourth, fifth, sixth⟩ := same
  exact ⟨first ▸ h.parameterPrefix, second ▸ h.parameterStart, third ▸ h.marker,
    fourth ▸ h.aliasPrefix, fifth ▸ h.logBindings, sixth ▸ h.reprMaxChars⟩

theorem ofLayer?_congr {layer layer' : Layer}
    (same : ∀ key ∈ fieldKeys, layer.lookup key = layer'.lookup key) :
    ofLayer? layer = ofLayer? layer' := by
  apply Option.ext
  intro s
  rw [ofLayer?_eq_some_iff, ofLayer?_eq_some_iff]
  exact ⟨ReadOff.congr same, ReadOff.congr fun key mem => (same key mem).symm⟩

end ParamQuery.Settings
