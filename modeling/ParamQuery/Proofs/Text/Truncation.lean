import ParamQuery.Log
import ParamQuery.Naming

/-!
# What a truncated text tells

A text that is too long keeps half of the limit at either end, and its notice counts the characters
beyond the limit. An odd limit has no half: one character less than the limit is kept then, so that
one more is missing than the notice says. The notice is accurate for all texts exactly if the limit
is even (`notice_accurate_iff_even`).
-/

namespace ParamQuery.Text

variable {limit : Nat} {s : String}

/-- The first characters of a text that is cut, as many as half the limit. -/
def front (limit : Nat) (s : String) : String := String.ofList (s.toList.take (limit / 2))

/-- The characters that are missing when a text is cut. -/
def middle (limit : Nat) (s : String) : String :=
  String.ofList ((s.toList.drop (limit / 2)).take (s.length - limit / 2 - limit / 2))

def back (limit : Nat) (s : String) : String :=
  String.ofList (s.toList.drop (s.length - limit / 2))

theorem truncate_of_le (short : s.length ≤ limit) : truncate limit s = s := if_pos short

theorem truncate_of_lt (long : limit < s.length) :
    truncate limit s = front limit s ++ truncationNotice (s.length - limit) ++ back limit s := by
  rw [truncate, if_neg (Nat.not_le_of_lt long)]
  simp only [sliceTo_boundary, sliceFrom_boundary, front, back]

theorem length_front (long : limit < s.length) : (front limit s).length = limit / 2 := by
  rw [front, String.length_ofList, List.length_take, String.length_toList]
  omega

theorem length_back (long : limit < s.length) : (back limit s).length = limit / 2 := by
  rw [back, String.length_ofList, List.length_drop, String.length_toList]
  omega

/-- An odd limit costs one character more. -/
theorem length_middle (long : limit < s.length) :
    (middle limit s).length = s.length - limit + limit % 2 := by
  rw [middle, String.length_ofList, List.length_take, List.length_drop, String.length_toList]
  omega

theorem eq_front_append_middle_append_back (long : limit < s.length) :
    s = front limit s ++ middle limit s ++ back limit s := by
  have behind : s.toList.drop (s.length - limit / 2) =
      (s.toList.drop (limit / 2)).drop (s.length - limit / 2 - limit / 2) := by
    rw [List.drop_drop]
    congr 1
    omega
  rw [front, middle, back, behind, ← String.ofList_append, ← String.ofList_append,
    List.append_assoc, List.take_append_drop, List.take_append_drop, String.ofList_toList]

/-! ## Notices -/

theorem truncationNotice_eq (n : Nat) :
    truncationNotice n = numbered "  ... (" n ++ " characters truncated) ...  " := rfl

theorem truncationNotice_inj {m n : Nat} (same : truncationNotice m = truncationNotice n) :
    m = n := by
  rw [truncationNotice_eq, truncationNotice_eq] at same
  exact numbered_inj (String.append_left_inj _ |>.1 same)

theorem length_truncationNotice (n : Nat) :
    (truncationNotice n).length = (toString n).length + 35 := by
  rw [truncationNotice, String.length_append, String.length_append]
  have before : "  ... (".length = 7 := by decide
  have behind : " characters truncated) ...  ".length = 28 := by decide
  omega

def besidesX (t : String) : List Char := t.toList.filter (· ≠ 'x')

theorem besidesX_append (t u : String) : besidesX (t ++ u) = besidesX t ++ besidesX u := by
  rw [besidesX, String.toList_append, List.filter_append]
  rfl

/-- No notice has an `x` in it. -/
theorem besidesX_truncationNotice (n : Nat) :
    besidesX (truncationNotice n) = (truncationNotice n).toList := by
  refine List.filter_eq_self.2 fun c mem => ?_
  rw [truncationNotice, String.toList_append, String.toList_append, List.mem_append,
    List.mem_append] at mem
  have before : ∀ c ∈ "  ... (".toList, decide (c ≠ 'x') = true :=
    List.all_eq_true.1 (by decide)
  have behind : ∀ c ∈ " characters truncated) ...  ".toList, decide (c ≠ 'x') = true :=
    List.all_eq_true.1 (by decide)
  rcases mem with (first | digit) | last
  · exact before c first
  · rw [Nat.toString_eq_repr, Nat.toList_repr] at digit
    have decimal := Nat.isDigit_of_mem_toDigits (by decide) (by decide) digit
    refine decide_eq_true ?_
    rintro rfl
    exact absurd decimal (by decide)
  · exact behind c last

/-! ## Accuracy -/

/-- A text is cut as its notice says: what is shown of it is all but the characters counted. -/
def NoticeAccurate (limit : Nat) (s : String) : Prop :=
  ∃ shown missing rest : String, s = shown ++ missing ++ rest ∧
    truncate limit s = shown ++ truncationNotice missing.length ++ rest ∧
    shown.length + rest.length ≤ limit

/-- With an odd limit, cutting a text that is one letter too long loses two. -/
theorem not_noticeAccurate_of_odd (odd : limit % 2 = 1) :
    ¬NoticeAccurate limit (String.ofList (List.replicate (limit + 1) 'x')) := by
  have size : (String.ofList (List.replicate (limit + 1) 'x')).length = limit + 1 := by
    rw [String.length_ofList, List.length_replicate]
  have only : besidesX (String.ofList (List.replicate (limit + 1) 'x')) = [] := by
    rw [besidesX, String.toList_ofList, List.filter_replicate]
    rfl
  generalize String.ofList (List.replicate (limit + 1) 'x') = s at size only
  rintro ⟨shown, missing, rest, split, cut, -⟩
  have long : limit < s.length := by omega
  have own := only
  rw [eq_front_append_middle_append_back long] at own
  rw [split] at only
  simp only [besidesX_append, List.append_eq_nil_iff] at own only
  rw [truncate_of_lt long] at cut
  have notices := congrArg besidesX cut
  simp only [besidesX_append, besidesX_truncationNotice, own.1.1, own.2, only.1.1, only.2,
    List.nil_append, List.append_nil] at notices
  have counted := truncationNotice_inj (String.toList_inj.1 notices)
  have lengths := congrArg String.length cut
  have whole := congrArg String.length split
  rw [counted] at lengths
  simp only [String.length_append, length_front long, length_back long] at lengths whole
  omega

/--
The notice of a truncated text is accurate for all texts exactly if the limit is even.

A text that is too long keeps half the limit at either end, and the notice counts the characters
beyond the limit. With an even limit these are the missing ones. With an odd limit one more is missing.
-/
theorem notice_accurate_iff_even (limit : Nat) :
    (∀ s : String, limit < s.length → ∃ shown missing rest : String,
      s = shown ++ missing ++ rest ∧
        truncate limit s = shown ++ truncationNotice (s.length - limit) ++ rest ∧
        shown.length = limit / 2 ∧ rest.length = limit / 2 ∧
        missing.length = s.length - limit + limit % 2) ∧
    ((∀ s : String, limit < s.length → NoticeAccurate limit s) ↔ limit % 2 = 0) := by
  have cut (s : String) (long : limit < s.length) :
      s = front limit s ++ middle limit s ++ back limit s ∧
        truncate limit s = front limit s ++ truncationNotice (s.length - limit) ++ back limit s ∧
        (front limit s).length = limit / 2 ∧ (back limit s).length = limit / 2 ∧
        (middle limit s).length = s.length - limit + limit % 2 :=
    ⟨eq_front_append_middle_append_back long, truncate_of_lt long, length_front long,
      length_back long, length_middle long⟩
  refine ⟨fun s long => ⟨_, _, _, cut s long⟩, ?_⟩
  constructor
  · intro all
    rcases Nat.mod_two_eq_zero_or_one limit with even | odd
    · exact even
    · refine absurd (all _ ?_) (not_noticeAccurate_of_odd odd)
      rw [String.length_ofList, List.length_replicate]
      exact Nat.lt_succ_self limit
  · intro even s long
    obtain ⟨whole, shortened, first, last, between⟩ := cut s long
    rw [even, Nat.add_zero] at between
    refine ⟨_, _, _, whole, ?_, by omega⟩
    rw [between]
    exact shortened

/-- An even limit keeps as many characters as it says, and an odd one keeps one less. -/
theorem notice_accurate_iff_even_of_small_limits :
    NoticeAccurate 2 "日本語" ∧ truncate 2 "日本語" = "日  ... (1 characters truncated) ...  語" ∧
      ¬(∀ s : String, 1 < s.length → NoticeAccurate 1 s) ∧
      truncate 1 "ab" = "  ... (1 characters truncated) ...  " := by
  refine ⟨(notice_accurate_iff_even 2).2.2 rfl "日本語" (by decide), ?_, ?_, ?_⟩
  · rw [truncate_of_lt (by decide)]
    decide +kernel
  · rw [(notice_accurate_iff_even 1).2]
    decide
  · rw [truncate_of_lt (by decide)]
    decide +kernel

end ParamQuery.Text
