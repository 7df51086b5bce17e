import ParamQuery.Compiled
import ParamQuery.Proofs.Text.Truncation

/-!
# Cutting between characters

Texts are cut at numbers of bytes, and characters take from one to four of them. Counting in
characters and cutting in bytes go together: both cuts lie between characters, the first one not
behind the second, and what they leave are the first and the last characters (`CutsSafely`). So a
truncation that fails where a number would get negative, or where a slice would not begin and end
between characters, never fails (`truncateChecked?_eq`).
-/

namespace ParamQuery.Text

variable {limit : Nat} {s : String}

/-! ## Texts that are their own truncation -/

/-- A notice that is as long as the number in it, or longer by one, has 37 or 36 in it. -/
theorem eq_of_length_truncationNotice {n extra : Nat} (extra_le : extra ≤ 1)
    (size : (truncationNotice n).length = n + extra) : n = 37 - extra := by
  rw [length_truncationNotice, Nat.toString_eq_repr] at size
  have one := Nat.length_repr_le_iff (n := n) (k := 1) (by decide)
  have two := Nat.length_repr_le_iff (n := n) (k := 2) (by decide)
  have none := Nat.length_repr_pos (n := n)
  by_cases small : n < 100
  · have := two.2 small
    omega
  · obtain ⟨j, rfl⟩ : ∃ j, n = j + 37 := ⟨n - 37, by omega⟩
    have below : j < 10 ^ j := Nat.lt_pow_self (by decide)
    have few := (Nat.length_repr_le_iff (n := j + 37) (k := j + 1) (by omega)).2
      (by rw [Nat.pow_succ]; omega)
    omega

/--
A text is its own truncation if it is short enough, or if its middle is the notice already.

Then it has 37 characters beyond an even limit, or 36 beyond an odd one.
-/
theorem truncate_eq_self_iff :
    truncate limit s = s ↔
      s.length ≤ limit ∨
        s.length = limit + (37 - limit % 2) ∧
          middle limit s = truncationNotice (37 - limit % 2) := by
  by_cases short : s.length ≤ limit
  · exact iff_of_true (truncate_of_le short) (Or.inl short)
  have long : limit < s.length := Nat.lt_of_not_le short
  have same : truncate limit s = s ↔ truncationNotice (s.length - limit) = middle limit s := by
    have whole := eq_front_append_middle_append_back long
    calc truncate limit s = s
        ↔ truncate limit s = front limit s ++ middle limit s ++ back limit s := by rw [← whole]
      _ ↔ truncationNotice (s.length - limit) = middle limit s := by
        rw [truncate_of_lt long, String.append_left_inj, String.append_right_inj]
  rw [same, or_iff_right short]
  constructor
  · intro notice
    have size := congrArg String.length notice
    rw [length_middle long] at size
    have beyond := eq_of_length_truncationNotice (by omega) size
    exact ⟨by omega, by rw [← notice, beyond]⟩
  · rintro ⟨size, notice⟩
    rw [notice, size, Nat.add_sub_cancel_left]

/-- A text is not short because truncating leaves it as it is: it may hold its own notice. -/
theorem truncate_eq_self_of_own_notice :
    ¬(truncate 2 "a  ... (37 characters truncated) ...  b" =
        "a  ... (37 characters truncated) ...  b" ↔
      "a  ... (37 characters truncated) ...  b".length ≤ 2) := by
  rw [truncate_eq_self_iff]
  decide +kernel

/-! ## Bytes -/

/-- The numbers of the bytes at which characters begin, if the first one begins at `start`. -/
def charStarts (start : Nat) : List Char → List Nat
  | [] => []
  | c :: rest => start :: charStarts (start + c.utf8Size) rest

/-- The number of the byte at which the character with this number begins, the end if there is none. -/
def byteIndex (s : String) (n : Nat) : Nat := ((charStarts 0 s.toList)[n]?).getD s.utf8ByteSize

/-- Behind the last character there is the end of the text. -/
theorem getElem?_charStarts (start n : Nat) (cs : List Char) :
    ((charStarts start cs)[n]?).getD (start + (String.ofList cs).utf8ByteSize) =
      start + (String.ofList (cs.take n)).utf8ByteSize := by
  induction cs generalizing start n with
  | nil => simp [charStarts]
  | cons c rest ih =>
    cases n with
    | zero => simp [charStarts]
    | succ n =>
      have later := ih (start + c.utf8Size) n
      simp only [charStarts, List.getElem?_cons_succ, List.take_succ_cons, String.ofList_cons,
        String.utf8ByteSize_append, String.utf8ByteSize_singleton]
      rw [Nat.add_assoc, Nat.add_assoc] at later
      exact later

/-- The bytes before a character are those of the characters before it. -/
theorem byteIndex_eq (s : String) (n : Nat) :
    byteIndex s n = (String.ofList (s.toList.take n)).utf8ByteSize := by
  have counted := getElem?_charStarts 0 n s.toList
  rw [String.ofList_toList, Nat.zero_add, Nat.zero_add] at counted
  exact counted

/-- A position before a character is the number of the byte at which it begins. -/
theorem byteIdx_boundary (s : String) (n : Nat) :
    (boundary s n).offset.byteIdx = byteIndex s n := by
  rw [byteIndex_eq, boundary, (String.splits_nextn_startPos s n).offset_eq_rawEndPos]
  rfl

theorem isValid_byteIndex (s : String) (n : Nat) :
    (⟨byteIndex s n⟩ : String.Pos.Raw).IsValid s := by
  rw [← byteIdx_boundary]
  exact (boundary s n).isValid

theorem byteIndex_mono (s : String) {m n : Nat} (le : m ≤ n) : byteIndex s m ≤ byteIndex s n := by
  obtain ⟨more, rfl⟩ := Nat.exists_eq_add_of_le le
  rw [byteIndex_eq, byteIndex_eq, List.take_add, String.ofList_append, String.utf8ByteSize_append]
  exact Nat.le_add_right _ _

theorem byteIndex_le (s : String) (n : Nat) : byteIndex s n ≤ s.utf8ByteSize :=
  String.Pos.Raw.le_iff.1 (isValid_byteIndex s n).le_rawEndPos

theorem extract_zero_byteIndex (s : String) (n : Nat) :
    s.toByteArray.extract 0 (byteIndex s n) = (String.ofList (s.toList.take n)).toByteArray := by
  rw [← byteIdx_boundary]
  exact (String.splits_nextn_startPos s n).toByteArray_left_eq.symm

theorem extract_byteIndex (s : String) (n : Nat) :
    s.toByteArray.extract (byteIndex s n) s.utf8ByteSize =
      (String.ofList (s.toList.drop n)).toByteArray := by
  rw [← byteIdx_boundary]
  exact (String.splits_nextn_startPos s n).toByteArray_right_eq.symm

/-- The two cuts of a text that is too long, in numbers of bytes. -/
structure CutsSafely (limit : Nat) (s : String) : Prop where
  /-- Neither of the two differences of counts is negative. -/
  limit_le : limit ≤ s.length
  half_le : limit / 2 ≤ s.length
  /-- Both cuts lie between characters. -/
  first_valid : (⟨byteIndex s (limit / 2)⟩ : String.Pos.Raw).IsValid s
  second_valid : (⟨byteIndex s (s.length - limit / 2)⟩ : String.Pos.Raw).IsValid s
  ordered : byteIndex s (limit / 2) ≤ byteIndex s (s.length - limit / 2)
  inside : byteIndex s (s.length - limit / 2) ≤ s.utf8ByteSize
  /-- The bytes outside the cuts are those of the first and of the last characters. -/
  before : s.toByteArray.extract 0 (byteIndex s (limit / 2)) = (front limit s).toByteArray
  behind : s.toByteArray.extract (byteIndex s (s.length - limit / 2)) s.utf8ByteSize =
    (back limit s).toByteArray
  front_length : (front limit s).length = limit / 2
  back_length : (back limit s).length = limit / 2

theorem cutsSafely (long : limit < s.length) : CutsSafely limit s where
  limit_le := Nat.le_of_lt long
  half_le := by omega
  first_valid := isValid_byteIndex ..
  second_valid := isValid_byteIndex ..
  ordered := byteIndex_mono s (by omega)
  inside := byteIndex_le ..
  before := extract_zero_byteIndex ..
  behind := extract_byteIndex ..
  front_length := length_front long
  back_length := length_back long

/-! ## Truncation that may fail -/

/-- The difference of two numbers, if it is not negative. -/
def minus? (m n : Nat) : Option Nat := if n ≤ m then some (m - n) else none

/-- The text before a byte, if a character begins or the text ends there. -/
def sliceTo? (s : String) (stop : Nat) : Option String :=
  (s.pos? ⟨stop⟩).map fun p => (s.sliceTo p).copy

def sliceFrom? (s : String) (start : Nat) : Option String :=
  (s.pos? ⟨start⟩).map fun p => (s.sliceFrom p).copy

/-- Truncation in steps each of which may fail. -/
def truncateChecked? (limit : Nat) (s : String) : Option String :=
  if s.length ≤ limit then some s
  else do
    let beyond ← minus? s.length limit
    let kept ← minus? s.length (limit / 2)
    let first ← sliceTo? s (byteIndex s (limit / 2))
    let last ← sliceFrom? s (byteIndex s kept)
    return first ++ truncationNotice beyond ++ last

theorem minus?_of_le {m n : Nat} (le : n ≤ m) : minus? m n = some (m - n) := if_pos le

theorem pos?_offset (p : s.Pos) : s.pos? p.offset = some p := by
  have valid : p.offset.isValidForSlice s.toSlice = true :=
    String.Pos.Raw.isValidForSlice_eq_true_iff.2 p.toSlice.isValidForSlice
  rw [String.pos?, String.Slice.pos?, dif_pos valid]
  rfl

/-- The byte at which a character begins is a position of the text. -/
theorem pos?_byteIndex (s : String) (n : Nat) : s.pos? ⟨byteIndex s n⟩ = some (boundary s n) := by
  rw [← byteIdx_boundary]
  exact pos?_offset (boundary s n)

theorem sliceTo?_byteIndex (s : String) (n : Nat) :
    sliceTo? s (byteIndex s n) = some (String.ofList (s.toList.take n)) := by
  rw [sliceTo?, pos?_byteIndex, Option.map_some, sliceTo_boundary]

theorem sliceFrom?_byteIndex (s : String) (n : Nat) :
    sliceFrom? s (byteIndex s n) = some (String.ofList (s.toList.drop n)) := by
  rw [sliceFrom?, pos?_byteIndex, Option.map_some, sliceFrom_boundary]

/-- No step of a truncation fails. -/
theorem truncateChecked?_eq (limit : Nat) (s : String) :
    truncateChecked? limit s = some (truncate limit s) := by
  rw [truncateChecked?]
  split
  next short => rw [truncate_of_le short]
  next long =>
    have long := Nat.lt_of_not_le long
    have cuts := cutsSafely long
    rw [minus?_of_le cuts.limit_le, minus?_of_le cuts.half_le, truncate_of_lt long]
    simp only [Option.bind_eq_bind, Option.bind_some, sliceTo?_byteIndex, sliceFrom?_byteIndex]
    rfl

/-! ## Logged bindings -/

/-- Whether a text has no more characters than the limit says, a notice apart. -/
def ShortBesidesNotice (limit : Nat) (t : String) : Prop :=
  t.length ≤ limit ∨
    ∃ first count last, t = first ++ truncationNotice count ++ last ∧
      first.length + last.length ≤ limit

theorem shortBesidesNotice_truncate (limit : Nat) (s : String) :
    ShortBesidesNotice limit (truncate limit s) := by
  by_cases short : s.length ≤ limit
  · refine Or.inl ?_
    rwa [truncate_of_le short]
  · have long := Nat.lt_of_not_le short
    refine Or.inr ⟨_, _, _, truncate_of_lt long, ?_⟩
    rw [length_front long, length_back long]
    omega

/--
Truncating is safe for all texts.

A text of no more characters than the limit stays as it is, and so does a longer one exactly if it
holds its own notice already. Otherwise no number gets negative, both cuts lie between characters and
inside the text, the first one not behind the second, and what they leave are as many of the first
and of the last characters as half the limit says. So no step of truncating fails, and logged
bindings have no more characters than the limit says, a notice apart.
-/
theorem truncate_safe (limit : Nat) (s : String) :
    (truncate limit s = s ↔
      s.length ≤ limit ∨
        s.length = limit + (37 - limit % 2) ∧
          middle limit s = truncationNotice (37 - limit % 2)) ∧
      (limit < s.length → CutsSafely limit s ∧
        truncate limit s =
          front limit s ++ truncationNotice (s.length - limit) ++ back limit s) ∧
      truncateChecked? limit s = some (truncate limit s) ∧
      ∀ bindings, ShortBesidesNotice limit (bindingsText limit bindings) :=
  ⟨truncate_eq_self_iff, fun long => ⟨cutsSafely long, truncate_of_lt long⟩,
    truncateChecked?_eq limit s, fun _ => shortBesidesNotice_truncate limit _⟩

/-- Characters of one to four bytes, with a limit that is odd, and a text that is its own truncation. -/
theorem truncate_safe_of_mixed_characters :
    CutsSafely 3 "aé日😀" ∧ byteIndex "aé日😀" 1 = 1 ∧ byteIndex "aé日😀" 3 = 6 ∧
      truncate 3 "aé日😀" = "a  ... (1 characters truncated) ...  😀" ∧
      truncate 2 "é  ... (37 characters truncated) ...  日" =
        "é  ... (37 characters truncated) ...  日" := by
  have cut := (truncate_safe 3 "aé日😀").2.1 (by decide)
  refine ⟨cut.1, by decide +kernel, by decide +kernel, ?_, ?_⟩
  · rw [cut.2]
    decide +kernel
  · exact (truncate_safe 2 _).1.2 (Or.inr (by decide +kernel))

end ParamQuery.Text
