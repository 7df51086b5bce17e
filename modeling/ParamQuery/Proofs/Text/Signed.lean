import ParamQuery.Proofs.Settings.Valid
import ParamQuery.Text.Digits

/-!
# Signed digits

An integer is read from digits behind a sign or none and is written as such. No identifier is of this
form, and a single character only if it is a digit.
-/

namespace ParamQuery.Text

/-- Decimal digits, at least one, behind a sign or none. -/
def IsSigned (cs : List Char) : Prop :=
  ∃ sign digits, cs = sign ++ digits ∧ sign ∈ [[], ['-'], ['+']] ∧ digits ≠ [] ∧
    ∀ c ∈ digits, c.isDigit = true

theorem natOfDigits_map_digitValue (cs : List Char) :
    natOfDigits 10 (cs.map digitValue) = Nat.ofDigitChars 10 cs 0 := by
  rw [natOfDigits, List.foldl_map]
  rfl

theorem readNat?_toDigits (n : Nat) : readNat? (Nat.toDigits 10 n) = some n := by
  have some_digit : (Nat.toDigits 10 n).isEmpty = false := by
    simp [List.isEmpty_eq_false_iff, Nat.toDigits_ne_nil]
  have digits : (Nat.toDigits 10 n).all Char.isDigit = true := by
    rw [List.all_eq_true]
    exact fun c mem => Nat.isDigit_of_mem_toDigits (by decide) (by decide) mem
  rw [readNat?, natOfDigits_map_digitValue, Nat.ofDigitChars_ten_toDigits]
  simp [some_digit, digits]

theorem digits_of_readNat? {cs : List Char} {n : Nat} (h : readNat? cs = some n) :
    cs ≠ [] ∧ ∀ c ∈ cs, c.isDigit = true := by
  unfold readNat? at h
  split at h
  · cases h
  next digits =>
    simp only [Bool.or_eq_true, List.isEmpty_iff, Bool.not_eq_true', not_or,
      Bool.not_eq_false] at digits
    exact ⟨digits.1, List.all_eq_true.1 digits.2⟩

theorem isSigned_of_readInt64? {cs : List Char} {value : Int} (h : readInt64? cs = some value) :
    IsSigned cs := by
  unfold readInt64? at h
  obtain ⟨read, -⟩ := Option.filter_eq_some_iff.1 h
  split at read
  · obtain ⟨n, number, -⟩ := Option.map_eq_some_iff.1 read
    obtain ⟨m, digits, -⟩ := Option.bind_eq_some_iff.1 number
    exact ⟨['-'], _, rfl, by decide, digits_of_readNat? digits⟩
  · obtain ⟨n, digits, -⟩ := Option.map_eq_some_iff.1 read
    exact ⟨['+'], _, rfl, by decide, digits_of_readNat? digits⟩
  · obtain ⟨n, digits, -⟩ := Option.map_eq_some_iff.1 read
    exact ⟨[], _, rfl, by decide, digits_of_readNat? digits⟩

theorem isSigned_toDigits (n : Nat) : IsSigned (Nat.toDigits 10 n) :=
  ⟨[], _, rfl, by decide, Nat.toDigits_ne_nil,
    fun _ mem => Nat.isDigit_of_mem_toDigits (by decide) (by decide) mem⟩

theorem isSigned_toString (value : Int) : IsSigned (toString value).toList := by
  cases value with
  | ofNat n =>
    show IsSigned (Nat.repr n).toList
    rw [Nat.toList_repr]
    exact isSigned_toDigits n
  | negSucc n =>
    show IsSigned ("-" ++ Nat.repr (n + 1)).toList
    rw [String.toList_append, Nat.toList_repr]
    exact ⟨['-'], _, rfl, by decide, Nat.toDigits_ne_nil,
      fun _ mem => Nat.isDigit_of_mem_toDigits (by decide) (by decide) mem⟩

theorem filter_signed (limit n : Nat) :
    (some (n : Int)).filter (fun value => -(limit : Int) ≤ value && value < (limit : Int)) =
      if n < limit then some (n : Int) else none := by
  by_cases small : n < limit
  · have above : -(limit : Int) ≤ (n : Int) := by omega
    simp [Option.filter, small, above]
  · simp [Option.filter, small]

/-- A natural number reads back from its text if it fits in 64 bits with a sign. -/
theorem readInt64?_toString (n : Nat) :
    readInt64? (toString n).toList = if n < Nat.pow 2 63 then some (n : Int) else none := by
  rw [Nat.toString_eq_repr, Nat.toList_repr]
  have digit (c : Char) (rest : List Char) (same : Nat.toDigits 10 n = c :: rest) :
      c.isDigit = true :=
    Nat.isDigit_of_mem_toDigits (by decide) (by decide) (same ▸ List.mem_cons_self)
  unfold readInt64?
  split
  next rest same => exact absurd (digit '-' rest same) (by decide)
  next rest same => exact absurd (digit '+' rest same) (by decide)
  next =>
    have limit : Int.pow 2 63 = (Nat.pow 2 63 : Nat) := by decide
    rw [readNat?_toDigits, limit]
    exact filter_signed (Nat.pow 2 63) n

theorem IsSigned.not_isIdentifier {text : String} (h : IsSigned text.toList) :
    ¬IsIdentifier text := by
  intro identifier
  obtain ⟨first, rest, same, start, -⟩ := isIdentifier_iff.1 identifier
  obtain ⟨sign, digits, split, signs, some_digit, all⟩ := h
  rw [same] at split
  simp only [List.mem_cons, List.not_mem_nil, or_false] at signs
  rcases signs with rfl | rfl | rfl
  · have digit : first.isDigit = true := by
      rw [List.nil_append] at split
      exact all first (split ▸ List.mem_cons_self)
    rw [isNameStart_of_isDigit digit] at start
    cases start
  · cases split
    exact absurd start (by decide)
  · cases split
    exact absurd start (by decide)

theorem IsSigned.isDigit {c : Char} (h : IsSigned [c]) : c.isDigit = true := by
  obtain ⟨sign, digits, split, signs, some_digit, all⟩ := h
  cases sign with
  | nil =>
    rw [List.nil_append] at split
    exact all c (split ▸ List.mem_cons_self)
  | cons first rest =>
    have none : digits = [] := by simp_all
    exact absurd none some_digit

end ParamQuery.Text
