import ParamQuery.Proofs.Grouping.Words

/-!
# A chain is read off its text in one way

Two chains with one text are one chain, also if more text stands behind them (`Chain.unique`). The
induction is on the first chain: its beginning and the first word behind an operand tell of what
kind the second one is at the same place, and what they have in common is taken away.
-/

namespace ParamQuery

open Spelling

theorem Comparison.symbol_mem (operator : Comparison) : operator.symbol ∈ going := by
  cases operator <;> decide

theorem Comparison.symbol_inj {o p : Comparison} (same : o.symbol = p.symbol) : o = p := by
  cases o <;> cases p <;> revert same <;> decide

/-! ## Signs and names -/

theorem isInner_position (position : Nat) :
    ∀ l ∈ ofText ("?" ++ toString position), l.isInner = true := by
  intro l mem
  obtain ⟨c, listed, rfl⟩ := List.mem_map.1 mem
  rcases Compiled.eq_or_isDigit_of_mem_position listed with rfl | digit
  · rfl
  · by_contra outer
    rw [Bool.not_eq_true] at outer
    have name : isNameChar c = false := Letter.isName_of_not_isInner outer
    rw [isNameChar_of_isDigit digit] at name
    cases name

theorem Sign.unique {sign other : Sign} {r s : Spelling} (hr : Boundary r) (hs : Boundary s)
    (same : sign.spelling ++ r = other.spelling ++ s) : sign = other ∧ r = s := by
  have opening : sign.opening = other.opening :=
    (Prod.mk.inj (sign.opens.eq other.opens same)).2
  rcases sign.positional_or with ⟨position, rfl⟩ | ⟨spelled, opens⟩
  · rcases other.positional_or with ⟨position', rfl⟩ | ⟨-, opens'⟩
    · obtain ⟨texts, rests⟩ := word_eq (isInner_position position) (isInner_position position') hr
        hs same
      have counters : numbered "?" position = numbered "?" position' := texts
      exact ⟨by rw [numbered_inj counters], rests⟩
    · rw [opens'] at opening
      cases opening
  · rcases other.positional_or with ⟨position', rfl⟩ | ⟨spelled', -⟩
    · rw [opens] at opening
      cases opening
    · rw [spelled, spelled'] at same
      obtain ⟨first, rests⟩ := List.cons.inj same
      exact ⟨Letter.sign.inj first, rests⟩

theorem names_eq {v w : String} {r s : Spelling} (hv : IsIdentifier v) (hw : IsIdentifier w)
    (hr : Boundary r) (hs : Boundary s) (same : ofText v ++ r = ofText w ++ s) : v = w ∧ r = s :=
  word_eq (isName_of_mem hv.all_isNameChar) (isName_of_mem hw.all_isNameChar)
    (fun l mem => Letter.isName_of_not_isInner (hr l mem))
    (fun l mem => Letter.isName_of_not_isInner (hs l mem)) same

/-! ## What stands behind chains -/

namespace Spelling

/-- A text that stands between the items of a list in brackets. -/
structure Separates (separator : String) : Prop where
  follows : ∀ rest, Follows (ofText separator ++ rest)
  other : ∀ rest r, .char ')' :: r ≠ ofText separator ++ rest

theorem separates_comma : Separates ", " := by
  constructor
  · intro rest
    exact .comma (.char ' ' :: rest)
  · rintro rest r ⟨⟩

theorem separates_connective (connective : Connective) :
    Separates (" " ++ connective.keyword ++ " ") := by
  constructor
  · intro rest
    refine .word ?_ (starts_between connective.keyword rest)
    cases connective <;> decide
  · intro rest r same
    obtain ⟨behind, spelled, -⟩ := starts_between connective.keyword rest
    rw [spelled] at same
    cases same

end Spelling

theorem Tail.starts_test (negated : Bool) (t : Tail) (r : Spelling) :
    Starts "is" ((Tail.test negated t).spelling ++ r) := by
  rw [spelling_test]
  cases negated with
  | false => exact ⟨_, rfl, boundary_blank _⟩
  | true => exact ⟨_, rfl, boundary_blank _⟩

theorem Tail.starts_compare (operator : Comparison) (c : Chain) (r : Spelling) :
    Starts operator.symbol ((Tail.compare operator c).spelling ++ r) := by
  rw [spelling_compare, List.append_assoc]
  exact starts_between operator.symbol _

theorem Tail.boundary (t : Tail) {r : Spelling} (boundary : Boundary r) :
    Boundary (t.spelling ++ r) := by
  cases t with
  | done => exact boundary
  | test negated rest => exact (starts_test negated rest r).boundary
  | compare operator right => exact (starts_compare operator right r).boundary

theorem Chain.follows_more {separator : String} (separates : Separates separator) (cs : List Chain)
    (r : Spelling) : Follows (more separator cs ++ .char ')' :: r) := by
  cases cs with
  | nil => exact .bracket r
  | cons c rest =>
    rw [more, List.append_assoc]
    exact separates.follows _

theorem Template.spelling_branches (condition result : Chain) (bs : List (Chain × Chain)) :
    spelling (Chain.templateBranches ((condition, result) :: bs)) =
      ofText " when " ++ (condition.spelling ++ (ofText " then " ++ (result.spelling ++
        spelling (Chain.templateBranches bs)))) := by
  rw [Chain.templateBranches, spelling_fixed, spelling_append, spelling_fixed, spelling_append]
  rfl

theorem Template.spelling_option (lead : String) (c : Chain) :
    spelling (Chain.templateOption lead (some c)) = ofText lead ++ c.spelling := rfl

/-- Behind the branches of a case stands another branch, the default or the end. -/
theorem Chain.starts_default (default : Option Chain) {r : Spelling} (boundary : Boundary r) :
    ∃ word ∈ ["else", "end"], Starts word
      (Template.spelling (templateOption " else " default) ++ (ofText " end" ++ r)) := by
  cases default with
  | none => exact ⟨"end", by decide, r, rfl, boundary⟩
  | some c => exact ⟨"else", by decide, _, rfl, boundary_blank _⟩

theorem Chain.starts_branches (branches : List (Chain × Chain)) {r : Spelling} {word : String}
    (mem : word ∈ ["else", "end"]) (starts : Starts word r) :
    ∃ word ∈ ["when", "else", "end"],
      Starts word (Template.spelling (templateBranches branches) ++ r) := by
  cases branches with
  | nil => exact ⟨word, List.mem_cons_of_mem _ mem, starts⟩
  | cons branch rest => exact ⟨"when", by decide, _, rfl, boundary_blank _⟩

theorem Tail.test_eq {m n : Bool} {t u : Tail} {r s : Spelling}
    (same : (Tail.test m t).spelling ++ r = (Tail.test n u).spelling ++ s) :
    m = n ∧ t.spelling ++ r = u.spelling ++ s := by
  rw [spelling_test, spelling_test, List.append_assoc, List.append_assoc] at same
  have flags : m = n := by
    cases m <;> cases n <;> simp [ofText] at same ⊢
  rw [flags] at same
  exact ⟨flags, List.append_cancel_left same⟩

theorem Atom.opening_eq {a b : Atom} {r s : Spelling} (ha : a.Plain) (hb : b.Plain)
    (same : a.spelling ++ r = b.spelling ++ s) : a.opening = b.opening :=
  (Atom.opens ha).eq (Atom.opens hb) same

theorem Atom.same_kind {a b : Atom} {r s : Spelling} (ha : a.Plain) (hb : b.Plain)
    (same : a.spelling ++ r = b.spelling ++ s) : a.kind = b.kind := by
  rw [← Atom.kind_eq ha, ← Atom.kind_eq hb, Atom.opening_eq ha hb same]

theorem Chain.same_kind {c d : Chain} {r s : Spelling} (hc : c.Plain) (hd : d.Plain)
    (same : c.spelling ++ r = d.spelling ++ s) : c.kind = d.kind := by
  have opening : c.opening = d.opening := (Chain.opens hc).eq (Chain.opens hd) same
  rw [← Chain.kind_eq hc, ← Chain.kind_eq hd, opening]

theorem Atom.kind_ne_not (a : Atom) : a.kind ≠ .not := by
  cases a <;> nofun

/-- A case has no operand if a branch, the default or the end follows at once. -/
theorem Spelling.Starts.ne_lead {word : String} {r : Spelling} (starts : Starts word r)
    (mem : word ∈ ["when", "else", "end"]) (c : Chain) (plain : c.Plain) (more : Spelling) :
    r ≠ ofText " " ++ (c.spelling ++ more) := by
  have names : ∀ word ∈ ["when", "else", "end"], word.toList.all isNameChar = true ∧
      word ≠ "not" ∧ word ≠ "case" := by decide
  have name := names word mem
  obtain ⟨rest, rfl, boundary⟩ := starts
  intro same
  exact Chain.spelling_ne plain name.1 name.2 boundary more (List.cons.inj same).2.symm

theorem Spelling.Starts.follows {word : String} {r : Spelling} (starts : Starts word r)
    (mem : word ∈ ["when", "else", "end"]) : Follows r := by
  have divides : ∀ word ∈ ["when", "else", "end"], word ∈ dividing := by decide
  exact .word (divides word mem) starts

theorem Spelling.starts_end {r : Spelling} (boundary : Boundary r) :
    Starts "end" (ofText " end" ++ r) :=
  ⟨r, rfl, boundary⟩

theorem Spelling.Starts.ne_else {r : Spelling} (starts : Starts "end" r) (more : Spelling) :
    r ≠ ofText " else " ++ more := by
  rintro rfl
  exact absurd (starts.eq (starts_between "else" more) (by decide) (by decide)) (by decide)

theorem Spelling.Starts.ne_branches {word : String} {r : Spelling} (starts : Starts word r)
    (mem : word ∈ ["else", "end"]) (branch : Chain × Chain) (rest : List (Chain × Chain))
    (more : Spelling) :
    r ≠ Template.spelling (Chain.templateBranches (branch :: rest)) ++ more := by
  rintro rfl
  rw [Template.spelling_branches, List.append_assoc] at starts
  have other : ∀ word ∈ ["else", "end"], word ∈ going ++ dividing ∧ word ≠ "when" := by decide
  exact (other word mem).2 (starts.eq (starts_between "when" _) (other word mem).1 (by decide))

theorem Spelling.follows_then (rest : Spelling) : Follows (ofText " then " ++ rest) :=
  .word (by decide) (starts_between "then" rest)

/-- No list ends where a chain begins. -/
theorem Chain.spelling_ne_bracket {c : Chain} (plain : c.Plain) (more rest : Spelling) :
    c.spelling ++ more ≠ .char ')' :: rest := by
  have nothing : "".toList.all isNameChar = true := rfl
  have boundary : Boundary (.char ')' :: rest) := (Follows.bracket rest).boundary
  exact Chain.spelling_ne plain nothing (by decide) boundary more

theorem Connective.eq_of_between {c d : Connective} {r s : Spelling}
    (same : ofText (" " ++ c.keyword ++ " ") ++ r = ofText (" " ++ d.keyword ++ " ") ++ s) :
    c = d := by
  have starts := starts_between c.keyword r
  rw [same] at starts
  have keywords : c.keyword = d.keyword := starts.eq (starts_between d.keyword s)
    (by cases c <;> decide) (by cases d <;> decide)
  cases c <;> cases d <;> revert keywords <;> decide

/-! ## Reading in one way -/

mutual

/-- Chains with one text are equal, also if something follows them that is no part of a chain. -/
theorem Chain.unique : ∀ (c d : Chain) {r s : Spelling}, c.Plain → d.Plain → Follows r →
    Follows s → c.spelling ++ r = d.spelling ++ s → c = d ∧ r = s
  | .not c, d, r, s, hc, hd, hr, hs, same => by
    have kinds := Chain.same_kind (c := .not c) hc hd same
    cases d with
    | operand b u => exact absurd kinds.symm b.kind_ne_not
    | not d =>
      rw [Chain.spelling_not, Chain.spelling_not, List.append_assoc, List.append_assoc] at same
      obtain ⟨rfl, rests⟩ := Chain.unique c d hc hd hr hs (List.append_cancel_left same)
      exact ⟨rfl, rests⟩
  | .operand a t, d, r, s, hc, hd, hr, hs, same => by
    have kinds := Chain.same_kind (c := .operand a t) hc hd same
    cases d with
    | not d => exact absurd kinds a.kind_ne_not
    | operand b u =>
      rw [Chain.spelling_operand, Chain.spelling_operand, List.append_assoc,
        List.append_assoc] at same
      obtain ⟨rfl, tails⟩ := Atom.unique a b hc.1 hd.1 (t.boundary hr.boundary)
        (u.boundary hs.boundary) same
      obtain ⟨rfl, rests⟩ := Tail.unique t u hc.2 hd.2 hr hs tails
      exact ⟨rfl, rests⟩
termination_by structural c => c

theorem Tail.unique : ∀ (t u : Tail) {r s : Spelling}, t.Plain → u.Plain → Follows r →
    Follows s → t.spelling ++ r = u.spelling ++ s → t = u ∧ r = s
  | .done, u, r, s, ht, hu, hr, hs, same => by
    have same : r = u.spelling ++ s := same
    cases u with
    | done => exact ⟨rfl, same⟩
    | test n u => exact absurd (same ▸ Tail.starts_test n u s) (hr.not_starts (by decide))
    | compare p d => exact absurd (same ▸ Tail.starts_compare p d s) (hr.not_starts p.symbol_mem)
  | .test m t, u, r, s, ht, hu, hr, hs, same => by
    have starts := Tail.starts_test m t r
    rw [same] at starts
    cases u with
    | done => exact absurd starts (hs.not_starts (by decide))
    | test n u =>
      obtain ⟨rfl, tails⟩ := Tail.test_eq same
      obtain ⟨rfl, rests⟩ := Tail.unique t u ht hu hr hs tails
      exact ⟨rfl, rests⟩
    | compare p d =>
      have words := starts.eq (Tail.starts_compare p d s) (by decide)
        (List.mem_append_left _ p.symbol_mem)
      cases p <;> exact absurd words (by decide)
  | .compare o c, u, r, s, ht, hu, hr, hs, same => by
    have starts := Tail.starts_compare o c r
    rw [same] at starts
    cases u with
    | done => exact absurd starts (hs.not_starts o.symbol_mem)
    | test n u =>
      have words := starts.eq (Tail.starts_test n u s) (List.mem_append_left _ o.symbol_mem)
        (by decide)
      cases o <;> exact absurd words (by decide)
    | compare p d =>
      have words := starts.eq (Tail.starts_compare p d s) (List.mem_append_left _ o.symbol_mem)
        (List.mem_append_left _ p.symbol_mem)
      obtain rfl := Comparison.symbol_inj words
      rw [Tail.spelling_compare, Tail.spelling_compare, List.append_assoc,
        List.append_assoc] at same
      obtain ⟨rfl, rests⟩ := Chain.unique c d ht hu hr hs (List.append_cancel_left same)
      exact ⟨rfl, rests⟩
termination_by structural t => t

theorem Atom.unique : ∀ (a b : Atom) {r s : Spelling}, a.Plain → b.Plain → Boundary r →
    Boundary s → a.spelling ++ r = b.spelling ++ s → a = b ∧ r = s
  | .leaf sign, b, r, s, ha, hb, hr, hs, same => by
    have kinds := Atom.same_kind (a := .leaf sign) ha hb same
    cases b with
    | leaf other =>
      rw [Atom.spelling_leaf, Atom.spelling_leaf] at same
      obtain ⟨rfl, rests⟩ := Sign.unique hr hs same
      exact ⟨rfl, rests⟩
    | _ => cases kinds
  | .path v f, b, r, s, ha, hb, hr, hs, same => by
    have kinds := Atom.same_kind (a := .path v f) ha hb same
    cases b with
    | path w g =>
      obtain ⟨rfl, -⟩ := Prod.mk.inj (Atom.opening_eq ha hb same)
      rw [Atom.spelling_path, Atom.spelling_path, List.append_assoc, List.append_assoc] at same
      obtain ⟨-, fields⟩ := List.cons.inj (List.append_cancel_left same)
      obtain ⟨rfl, rests⟩ := names_eq ha.2 hb.2 hr hs fields
      exact ⟨rfl, rests⟩
    | _ => cases kinds
  | .call f as, b, r, s, ha, hb, hr, hs, same => by
    have kinds := Atom.same_kind (a := .call f as) ha hb same
    cases b with
    | call g bs =>
      obtain ⟨rfl, -⟩ := Prod.mk.inj (Atom.opening_eq ha hb same)
      simp only [Atom.spelling_call, List.append_assoc, List.cons_append, List.nil_append] at same
      obtain ⟨-, inner⟩ := List.cons.inj (List.append_cancel_left same)
      obtain ⟨rfl, rests⟩ := Chain.unique_items separates_comma as bs ha.2 hb.2 inner
      exact ⟨rfl, rests⟩
    | _ => cases kinds
  | .empty c, b, r, s, ha, hb, hr, hs, same => by
    have kinds := Atom.same_kind (a := .empty c) ha hb same
    cases b with
    | empty d =>
      have connectives : c = d := by
        have opening := Atom.opening_eq (a := .empty c) (b := .empty d) ha hb same
        cases c <;> cases d <;> simp [Atom.opening] at opening ⊢
      obtain rfl := connectives
      exact ⟨rfl, List.append_cancel_left same⟩
    | _ => cases kinds
  | .junction c first second rest, b, r, s, ha, hb, hr, hs, same => by
    have kinds := Atom.same_kind (a := .junction c first second rest) ha hb same
    cases b with
    | junction d first' second' rest' =>
      simp only [Atom.spelling_junction, Chain.items, List.append_assoc, List.cons_append,
        List.nil_append] at same
      have separates := separates_connective c
      have separates' := separates_connective d
      obtain ⟨rfl, inner⟩ := Chain.unique first first' ha.1 hb.1
        (Chain.follows_more separates (second :: rest) r)
        (Chain.follows_more separates' (second' :: rest') s) (List.cons.inj same).2
      simp only [Chain.more, List.append_assoc] at inner
      have connectives := Connective.eq_of_between inner
      subst connectives
      obtain ⟨rfl, behind⟩ := Chain.unique second second' ha.2.1 hb.2.1
        (Chain.follows_more separates rest r) (Chain.follows_more separates rest' s)
        (List.append_cancel_left inner)
      obtain ⟨rfl, rests⟩ := Chain.unique_more separates rest rest' ha.2.2 hb.2.2 behind
      exact ⟨rfl, rests⟩
    | _ => cases kinds
  | .case operand branches default, b, r, s, ha, hb, hr, hs, same => by
    have kinds := Atom.same_kind (a := .case operand branches default) ha hb same
    cases b with
    | case operand' branches' default' =>
      obtain ⟨plain, plains, last⟩ := ha
      obtain ⟨plain', plains', last'⟩ := hb
      simp only [Atom.spelling_case, List.append_assoc] at same
      obtain ⟨word, mem, ends⟩ := Chain.starts_default default hr
      obtain ⟨word', mem', ends'⟩ := Chain.starts_default default' hs
      obtain ⟨next, listed, starts⟩ := Chain.starts_branches branches mem ends
      obtain ⟨next', listed', starts'⟩ := Chain.starts_branches branches' mem' ends'
      obtain ⟨rfl, behind⟩ := Chain.unique_option " " operand operand' plain plain'
        (starts.follows listed) (starts'.follows listed') (starts.ne_lead listed)
        (starts'.ne_lead listed') (List.append_cancel_left same)
      obtain ⟨rfl, closing⟩ := Chain.unique_branches branches branches' plains plains' ends ends'
        mem mem' behind
      have ending := starts_end hr
      have ending' := starts_end hs
      obtain ⟨rfl, rests⟩ := Chain.unique_option " else " default default' last last'
        (ending.follows (by decide)) (ending'.follows (by decide)) (fun _ _ _ => ending.ne_else _)
        (fun _ _ _ => ending'.ne_else _) closing
      exact ⟨rfl, List.append_cancel_left rests⟩
    | _ => cases kinds
termination_by structural a => a

theorem Chain.unique_items {separator : String} (separates : Separates separator) :
    ∀ (cs ds : List Chain) {r s : Spelling}, Chain.PlainAll cs → Chain.PlainAll ds →
      Chain.items separator cs ++ .char ')' :: r = Chain.items separator ds ++ .char ')' :: s →
      cs = ds ∧ r = s
  | [], ds, r, s, hc, hd, same => by
    cases ds with
    | nil => exact ⟨rfl, (List.cons.inj same).2⟩
    | cons d ds =>
      rw [Chain.items, Chain.items, List.append_assoc] at same
      exact absurd same.symm (Chain.spelling_ne_bracket hd.1 _ _)
  | c :: cs, ds, r, s, hc, hd, same => by
    cases ds with
    | nil =>
      rw [Chain.items, Chain.items, List.append_assoc] at same
      exact absurd same (Chain.spelling_ne_bracket hc.1 _ _)
    | cons d ds =>
      rw [Chain.items, Chain.items, List.append_assoc, List.append_assoc] at same
      obtain ⟨rfl, behind⟩ := Chain.unique c d hc.1 hd.1 (Chain.follows_more separates cs r)
        (Chain.follows_more separates ds s) same
      obtain ⟨rfl, rests⟩ := Chain.unique_more separates cs ds hc.2 hd.2 behind
      exact ⟨rfl, rests⟩
termination_by structural cs => cs

theorem Chain.unique_more {separator : String} (separates : Separates separator) :
    ∀ (cs ds : List Chain) {r s : Spelling}, Chain.PlainAll cs → Chain.PlainAll ds →
      Chain.more separator cs ++ .char ')' :: r = Chain.more separator ds ++ .char ')' :: s →
      cs = ds ∧ r = s
  | [], ds, r, s, hc, hd, same => by
    cases ds with
    | nil => exact ⟨rfl, (List.cons.inj same).2⟩
    | cons d ds =>
      simp only [Chain.more, List.append_assoc, List.nil_append] at same
      exact absurd same (separates.other _ _)
  | c :: cs, ds, r, s, hc, hd, same => by
    cases ds with
    | nil =>
      simp only [Chain.more, List.append_assoc, List.nil_append] at same
      exact absurd same.symm (separates.other _ _)
    | cons d ds =>
      simp only [Chain.more, List.append_assoc] at same
      obtain ⟨rfl, behind⟩ := Chain.unique c d hc.1 hd.1 (Chain.follows_more separates cs r)
        (Chain.follows_more separates ds s) (List.append_cancel_left same)
      obtain ⟨rfl, rests⟩ := Chain.unique_more separates cs ds hc.2 hd.2 behind
      exact ⟨rfl, rests⟩
termination_by structural cs => cs

theorem Chain.unique_option (lead : String) : ∀ (o p : Option Chain) {r s : Spelling},
    Chain.PlainOption o → Chain.PlainOption p → Follows r → Follows s →
      (∀ c : Chain, c.Plain → ∀ more, r ≠ ofText lead ++ (c.spelling ++ more)) →
      (∀ c : Chain, c.Plain → ∀ more, s ≠ ofText lead ++ (c.spelling ++ more)) →
      Template.spelling (Chain.templateOption lead o) ++ r =
        Template.spelling (Chain.templateOption lead p) ++ s → o = p ∧ r = s
  | none, p, r, s, ho, hp, hr, hs, other, other', same => by
    cases p with
    | none => exact ⟨rfl, same⟩
    | some d =>
      rw [Template.spelling_option, List.append_assoc] at same
      exact absurd same (other d hp s)
  | some c, p, r, s, ho, hp, hr, hs, other, other', same => by
    rw [Template.spelling_option, List.append_assoc] at same
    cases p with
    | none => exact absurd same.symm (other' c ho r)
    | some d =>
      rw [Template.spelling_option, List.append_assoc] at same
      obtain ⟨rfl, rests⟩ := Chain.unique c d ho hp hr hs (List.append_cancel_left same)
      exact ⟨rfl, rests⟩
termination_by structural o => o

theorem Chain.unique_branches : ∀ (as bs : List (Chain × Chain)) {r s : Spelling} {v w : String},
    Chain.PlainBranches as → Chain.PlainBranches bs → Starts v r → Starts w s →
      v ∈ ["else", "end"] → w ∈ ["else", "end"] →
      Template.spelling (Chain.templateBranches as) ++ r =
        Template.spelling (Chain.templateBranches bs) ++ s → as = bs ∧ r = s
  | [], bs, r, s, v, w, ha, hb, hr, hs, hv, hw, same => by
    cases bs with
    | nil => exact ⟨rfl, same⟩
    | cons b bs => exact absurd same (hr.ne_branches hv b bs s)
  | (c, d) :: as, bs, r, s, v, w, ha, hb, hr, hs, hv, hw, same => by
    cases bs with
    | nil => exact absurd same.symm (hs.ne_branches hw (c, d) as r)
    | cons b bs =>
      obtain ⟨c', d'⟩ := b
      simp only [Template.spelling_branches, List.append_assoc] at same
      obtain ⟨next, listed, starts⟩ := Chain.starts_branches as hv hr
      obtain ⟨next', listed', starts'⟩ := Chain.starts_branches bs hw hs
      obtain ⟨rfl, results⟩ := Chain.unique c c' ha.1 hb.1 (follows_then _) (follows_then _)
        (List.append_cancel_left same)
      obtain ⟨rfl, behind⟩ := Chain.unique d d' ha.2.1 hb.2.1 (starts.follows listed)
        (starts'.follows listed') (List.append_cancel_left results)
      obtain ⟨rfl, rests⟩ := Chain.unique_branches as bs ha.2.2 hb.2.2 hr hs hv hw behind
      exact ⟨rfl, rests⟩
termination_by structural as => as

end

end ParamQuery
