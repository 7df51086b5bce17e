import ParamQuery.Proofs.Inline.Scan
import ParamQuery.Proofs.Settings.Valid

/-!
# The fixed text of trees

The fixed text of a tree consists of identifiers, which the author of the tree chooses, and of plain
text: words, blanks and punctuation. A marker that is in neither leaves the templates of expressions
and of queries scannable (`Expr.scannable_template`, `Query.scannable_template`).
-/

namespace ParamQuery

def punctuation : List Char := ['(', ')', ',', '.', '=', '<', '>', '?']

/-- Whether a character can stand in fixed text that is no identifier. -/
def isPlain (c : Char) : Bool := isNameChar c || c == ' ' || punctuation.contains c

def Unmarked (marker : Char) (texts : List String) : Prop :=
  ∀ text ∈ texts, marker ∉ text.toList

instance (marker : Char) (texts : List String) : Decidable (Unmarked marker texts) :=
  inferInstanceAs (Decidable (∀ text ∈ texts, marker ∉ text.toList))

namespace Expr

mutual

/-- The aliases, attributes and functions that an expression mentions. -/
def identifiers : Expr → List String
  | .literal .. => []
  | .parameter _ => []
  | .path source field _ => [source, field]
  | .call function arguments _ => function :: identifiersAll arguments
  | .comparison _ left right => left.identifiers ++ right.identifiers
  | .junction _ predicates => identifiersAll predicates
  | .not predicate => predicate.identifiers
  | .nullTest _ operand => operand.identifiers
  | .case operand _ _ branches default =>
    identifiersOption operand ++ (identifiersBranches branches ++ identifiersOption default)

def identifiersAll : List Expr → List String
  | [] => []
  | e :: rest => e.identifiers ++ identifiersAll rest

def identifiersOption : Option Expr → List String
  | none => []
  | some e => e.identifiers

def identifiersBranches : List (Expr × Expr) → List String
  | [] => []
  | (condition, result) :: rest =>
    condition.identifiers ++ (result.identifiers ++ identifiersBranches rest)

end

end Expr

theorem Expr.identifiersAll_eq (es : List Expr) : identifiersAll es = es.flatMap identifiers := by
  induction es with
  | nil => rfl
  | cons e rest ih => rw [identifiersAll, ih, List.flatMap_cons]

def Query.identifiers (q : Query) : List String :=
  q.roots.flatMap (fun r => [r.entity, r.aliasName]) ++ q.exprs.flatMap Expr.identifiers

/-! ## Markers in text -/

section Marker

variable {marker : Char}

theorem Unmarked.append_iff {texts others : List String} :
    Unmarked marker (texts ++ others) ↔ Unmarked marker texts ∧ Unmarked marker others :=
  List.forall_mem_append

theorem Unmarked.cons_iff {text : String} {texts : List String} :
    Unmarked marker (text :: texts) ↔ marker ∉ text.toList ∧ Unmarked marker texts :=
  List.forall_mem_cons

theorem not_mem_of_plain (apart : isPlain marker = false) {text : String}
    (plain : text.toList.all isPlain = true) : marker ∉ text.toList := by
  intro mem
  have marked := List.all_eq_true.1 plain marker mem
  rw [apart] at marked
  cases marked

theorem not_mem_append {first second : String} (absent : marker ∉ first.toList)
    (later : marker ∉ second.toList) : marker ∉ (first ++ second).toList := by
  rw [String.toList_append, List.mem_append]
  exact not_or.2 ⟨absent, later⟩

theorem not_mem_intercalate {separator : String} {texts : List String}
    (absent : marker ∉ separator.toList) (all : Unmarked marker texts) :
    marker ∉ (separator.intercalate texts).toList := by
  induction texts with
  | nil => exact List.not_mem_nil
  | cons text rest ih =>
    obtain ⟨first, later⟩ := Unmarked.cons_iff.1 all
    cases rest with
    | nil =>
      rw [String.intercalate_singleton]
      exact first
    | cons other rest =>
      rw [String.intercalate_cons_cons]
      exact not_mem_append (not_mem_append first absent) (ih later)

/-- The marker of valid settings stands in no plain text, unless it is punctuation there. -/
theorem Settings.Valid.isPlain_marker {settings : Settings} (valid : settings.Valid)
    (mark : settings.marker ∉ punctuation) : isPlain settings.marker = false := by
  have isMark : isMarker settings.marker = true := ((valid_iff settings).1 valid).2.2.1
  have noLetter : settings.marker.isAlphanum = false := by
    by_contra letter
    rw [Bool.not_eq_false] at letter
    simp [isMarker, Text.isAlphanumeric_of_isAlphanum _ letter] at isMark
  have noBlank : settings.marker ≠ ' ' := by
    intro same
    rw [same] at isMark
    exact absurd isMark (by decide +kernel)
  have noUnderscore : settings.marker ≠ '_' := by
    intro same
    rw [same] at isMark
    exact absurd isMark (by decide +kernel)
  simp [isPlain, isNameChar, noLetter, noUnderscore, noBlank, mark]

end Marker

/-! ## Templates of trees -/

namespace Template

variable {marker : Char}

/-- Text that no name can go on into stays so if more text stands behind it. -/
theorem Ends.longer (text : String) (ends : Ends [.fixed text]) (more : String) (rest : Template) :
    Ends (.fixed (text ++ more) :: rest) := by
  rw [Ends] at ends ⊢
  rw [String.toList_append, List.head?_append]
  cases h : text.toList.head? with
  | none => simp [h] at ends
  | some first =>
    rw [h] at ends
    exact ends

theorem scannable_junction (apart : isPlain marker = false) (connective : Connective)
    {ts : List Template} (all : ∀ t ∈ ts, Scannable marker t) :
    Scannable marker (junction connective ts) := by
  match ts with
  | [] => exact ⟨not_mem_of_plain apart (by cases connective <;> rfl), trivial⟩
  | [t] => exact all t List.mem_cons_self
  | t :: u :: rest =>
    have keyword : marker ∉ (" " ++ connective.keyword ++ " ").toList :=
      not_mem_of_plain apart (by cases connective <;> rfl)
    have closing : Scannable marker [.fixed ")"] := ⟨not_mem_of_plain apart rfl, trivial⟩
    have inner := Scannable.joined _ all keyword (by cases connective <;> rfl)
    exact ⟨not_mem_of_plain apart rfl, inner.append closing rfl⟩

end Template

namespace Expr

open Template (Ends Scannable)

theorem ends_templateOption_else (e : Option Expr) : Ends (templateOption " else " e) := by
  cases e with
  | none => trivial
  | some e => rfl

theorem ends_templateBranches (bs : List (Expr × Expr)) : Ends (templateBranches bs) := by
  cases bs with
  | nil => trivial
  | cons branch rest => rfl

variable {marker : Char}

mutual

/-- The template of an expression is scannable if no marker stands in its identifiers. -/
theorem scannable_template (apart : isPlain marker = false) :
    ∀ e : Expr, Unmarked marker e.identifiers → Scannable marker e.template
  | .literal .., _ => ⟨trivial, trivial⟩
  | .parameter _, _ => ⟨trivial, trivial⟩
  | .path source field _, h => by
    rw [identifiers, Unmarked.cons_iff, Unmarked.cons_iff] at h
    exact ⟨not_mem_append (not_mem_append h.1 (not_mem_of_plain apart rfl)) h.2.1, trivial⟩
  | .call function arguments _, h => by
    rw [identifiers, Unmarked.cons_iff] at h
    rw [template]
    have inner := Scannable.joined ", " (scannable_templateAll apart arguments h.2)
      (not_mem_of_plain apart rfl) rfl
    have closing : Scannable marker [.fixed ")"] := ⟨not_mem_of_plain apart rfl, trivial⟩
    exact ⟨not_mem_append h.1 (not_mem_of_plain apart rfl), inner.append closing rfl⟩
  | .comparison operator left right, h => by
    rw [identifiers, Unmarked.append_iff] at h
    rw [template]
    have symbol : marker ∉ (" " ++ operator.symbol ++ " ").toList :=
      not_mem_of_plain apart (by cases operator <;> rfl)
    exact (scannable_template apart left h.1).append ⟨symbol, scannable_template apart right h.2⟩
      (by cases operator <;> rfl)
  | .junction connective predicates, h => by
    rw [identifiers] at h
    rw [template]
    exact Template.scannable_junction apart connective (scannable_templateAll apart predicates h)
  | .not predicate, h => by
    rw [identifiers] at h
    rw [template]
    exact ⟨not_mem_of_plain apart rfl, scannable_template apart predicate h⟩
  | .nullTest negated operand, h => by
    rw [identifiers] at h
    rw [template]
    have test : Scannable marker [.fixed (if negated then " is not null" else " is null")] :=
      ⟨not_mem_of_plain apart (by cases negated <;> rfl), trivial⟩
    exact (scannable_template apart operand h).append test (by cases negated <;> rfl)
  | .case operand _ _ branches default, h => by
    rw [identifiers, Unmarked.append_iff, Unmarked.append_iff] at h
    rw [template]
    -- The parts are put together from the last one on, since a part needs to know what follows it.
    have ending : Scannable marker [.fixed " end"] := ⟨not_mem_of_plain apart rfl, trivial⟩
    have last := (scannable_templateOption apart " else " default (not_mem_of_plain apart rfl)
      h.2.2).append ending rfl
    have last_ends : Ends (templateOption " else " default ++ [.fixed " end"]) :=
      (ends_templateOption_else default).append rfl
    have middle := (scannable_templateBranches apart branches h.2.1).append last last_ends
    have all := (scannable_templateOption apart " " operand (not_mem_of_plain apart rfl)
      h.1).append middle ((ends_templateBranches branches).append last_ends)
    exact ⟨not_mem_of_plain apart rfl, all⟩

theorem scannable_templateAll (apart : isPlain marker = false) :
    ∀ es : List Expr, Unmarked marker (identifiersAll es) →
      ∀ t ∈ templateAll es, Scannable marker t
  | [], _ => fun _ mem => absurd mem List.not_mem_nil
  | e :: rest, h => by
    rw [identifiersAll, Unmarked.append_iff] at h
    rw [templateAll]
    exact List.forall_mem_cons.2
      ⟨scannable_template apart e h.1, scannable_templateAll apart rest h.2⟩

theorem scannable_templateOption (apart : isPlain marker = false) (lead : String) :
    ∀ e : Option Expr, marker ∉ lead.toList → Unmarked marker (identifiersOption e) →
      Scannable marker (templateOption lead e)
  | none, _, _ => trivial
  | some e, absent, h => by
    rw [identifiersOption] at h
    rw [templateOption]
    exact ⟨absent, scannable_template apart e h⟩

theorem scannable_templateBranches (apart : isPlain marker = false) :
    ∀ bs : List (Expr × Expr), Unmarked marker (identifiersBranches bs) →
      Scannable marker (templateBranches bs)
  | [], _ => trivial
  | (condition, result) :: rest, h => by
    rw [identifiersBranches, Unmarked.append_iff, Unmarked.append_iff] at h
    rw [templateBranches]
    have results := (scannable_template apart result h.2.1).append
      (scannable_templateBranches apart rest h.2.2) (ends_templateBranches rest)
    have conditions := (scannable_template apart condition h.1).append
      (u := .fixed " then " :: (result.template ++ templateBranches rest))
      ⟨not_mem_of_plain apart rfl, results⟩ rfl
    exact ⟨not_mem_of_plain apart rfl, conditions⟩

end

end Expr

namespace Query

open Template (Ends Scannable)

variable {marker : Char}

theorem ends_templateOrder (os : List Ordering) : Ends (templateOrder os) := by
  cases os with
  | nil => trivial
  | cons o rest => rfl

theorem not_mem_rootsText (apart : isPlain marker = false) {q : Query}
    (h : Unmarked marker (q.roots.flatMap fun r => [r.entity, r.aliasName])) :
    marker ∉ q.rootsText.toList := by
  have texts : Unmarked marker (q.roots.map fun r => r.entity ++ " as " ++ r.aliasName) := by
    intro text mem
    obtain ⟨r, listed, rfl⟩ := List.mem_map.1 mem
    have entity := h r.entity (List.mem_flatMap.2 ⟨r, listed, List.mem_cons_self⟩)
    have aliasName := h r.aliasName
      (List.mem_flatMap.2 ⟨r, listed, List.mem_cons_of_mem _ List.mem_cons_self⟩)
    exact not_mem_append (not_mem_append entity (not_mem_of_plain apart rfl)) aliasName
  exact not_mem_append (not_mem_of_plain apart rfl)
    (not_mem_intercalate (not_mem_of_plain apart rfl) texts)

theorem scannable_templateOrder (apart : isPlain marker = false) {os : List Ordering}
    (all : ∀ o ∈ os, Unmarked marker o.expr.identifiers) : Scannable marker (templateOrder os) := by
  have items : ∀ t ∈ templateOrderings os, Scannable marker t := by
    induction os with
    | nil => exact fun _ mem => absurd mem List.not_mem_nil
    | cons o rest ih =>
      obtain ⟨first, later⟩ := List.forall_mem_cons.1 all
      have direction : Scannable marker [.fixed (" " ++ o.direction.keyword)] :=
        ⟨not_mem_of_plain apart (by cases o.direction <;> rfl), trivial⟩
      have item := (Expr.scannable_template apart o.expr first).append direction
        (Ends.longer " " rfl _ _)
      exact List.forall_mem_cons.2 ⟨item, ih later⟩
  cases os with
  | nil => trivial
  | cons o rest =>
    exact ⟨not_mem_of_plain apart rfl, Scannable.joined _ items (not_mem_of_plain apart rfl) rfl⟩

theorem scannable_templateSelection (apart : isPlain marker = false) {roots : List Root}
    {selections : List Expr} {t : Template} (aliases : ∀ r ∈ roots, marker ∉ r.aliasName.toList)
    (all : Unmarked marker (Expr.identifiersAll selections))
    (h : templateSelection roots selections = .ok t) : Scannable marker t := by
  unfold templateSelection at h
  split at h
  · cases h
  · cases h
    exact ⟨aliases _ List.mem_cons_self, trivial⟩
  · cases h
  · cases h
    exact Scannable.joined _ (Expr.scannable_templateAll apart _ all) (not_mem_of_plain apart rfl)
      rfl

theorem scannable_template (apart : isPlain marker = false) {q : Query}
    (h : Unmarked marker q.identifiers) {t : Template} (same : q.template = .ok t) :
    Scannable marker t := by
  obtain ⟨roots, mentioned⟩ := Unmarked.append_iff.1 h
  have each : ∀ e ∈ q.exprs, Unmarked marker e.identifiers := by
    intro e mem text listed
    exact mentioned text (List.mem_flatMap.2 ⟨e, mem, listed⟩)
  have aliases : ∀ r ∈ q.roots, marker ∉ r.aliasName.toList := by
    intro r mem
    exact roots _ (List.mem_flatMap.2 ⟨r, mem, List.mem_cons_of_mem _ List.mem_cons_self⟩)
  have selections : Unmarked marker (Expr.identifiersAll q.selections) := by
    rw [Expr.identifiersAll_eq]
    intro text mem
    obtain ⟨e, listed, own⟩ := List.mem_flatMap.1 mem
    exact each e (by simp [exprs, listed]) text own
  have restriction : Unmarked marker (Expr.identifiersOption q.restriction) := by
    cases hr : q.restriction with
    | none => exact fun _ mem => absurd mem List.not_mem_nil
    | some e => exact each e (by simp [exprs, hr])
  have orderings : ∀ o ∈ q.orderings, Unmarked marker o.expr.identifiers :=
    fun o mem => each o.expr (List.mem_append_right _ (List.mem_map_of_mem mem))
  cases hs : templateSelection q.roots q.selections with
  | error e => simp [template, hs, Except.map] at same
  | ok selection =>
    simp only [template, hs, Except.map, Except.ok.injEq] at same
    subst same
    have order := scannable_templateOrder apart orderings
    have behind := (Expr.scannable_templateOption apart " where " q.restriction
      (not_mem_of_plain apart rfl) restriction).append order
      (ends_templateOrder q.orderings)
    have rest := (scannable_templateSelection apart aliases selections hs).append
      (u := .fixed q.rootsText :: _) ⟨not_mem_rootsText apart roots, behind⟩
      (Ends.longer " from " rfl _ _)
    exact ⟨not_mem_of_plain apart (by cases q.distinct <;> rfl), rest⟩

end Query

end ParamQuery
