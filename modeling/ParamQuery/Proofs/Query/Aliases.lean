import Mathlib.Data.List.Nodup
import Mathlib.Data.List.Perm.Subperm
import ParamQuery.Proofs.Naming.Search
import ParamQuery.Query

/-!
# The aliases of roots

Roots are added to a query in any order, some under generated aliases and some under chosen ones,
which may look like generated ones. Every counter that the query has passed belongs to the alias of
a root, and generated aliases belong to counters that were passed (`Allocated`). So the next
generated alias is the first one from the counter on that no root has, and all that it skips are
chosen aliases (`roots_allocated`).
-/

namespace ParamQuery.Query

/-- A call that adds a root, under a generated alias or under a chosen one. -/
inductive RootCall where
  | generated (entity : String)
  | chosen (entity aliasName : String)

def call (q : Query) : RootCall → Root × Query
  | .generated entity => q.addRoot entity
  | .chosen entity aliasName => q.addRootAs entity aliasName

def callAll (q : Query) : List RootCall → List Root × Query
  | [] => ([], q)
  | first :: rest =>
    let (root, next) := q.call first
    let (roots, last) := next.callAll rest
    (root :: roots, last)

/-- Whether a root is one that a call may return: its alias is chosen, unless it is generated. -/
def RootCall.Returns : RootCall → Root → Prop
  | .generated entity, root => root.entity = entity
  | .chosen entity aliasName, root => root = ⟨entity, aliasName⟩

def chosenAliases (calls : List RootCall) : List String :=
  calls.filterMap fun
    | .generated _ => none
    | .chosen _ aliasName => some aliasName

/-- The aliases that are generated for calls that return these roots. -/
def generatedAliases (calls : List RootCall) (roots : List Root) : List String :=
  (calls.zip roots).filterMap fun
    | (.generated _, root) => some root.aliasName
    | (.chosen .., _) => none

/-- What holds of a query to which calls have added these roots. -/
structure Allocated (calls : List RootCall) (roots : List Root) (q : Query) : Prop where
  roots_eq : q.roots = roots
  returned : List.Forall₂ RootCall.Returns calls roots
  passed : ∀ n, n < q.nextAlias → numbered q.aliasStem n ∈ q.aliases
  generated : ∀ name ∈ generatedAliases calls roots,
    ∃ n, n < q.nextAlias ∧ name = numbered q.aliasStem n
  nodup : (generatedAliases calls roots).Nodup
  known : ∀ name ∈ q.aliases, name ∈ generatedAliases calls roots ∨ name ∈ chosenAliases calls

section Steps

variable {calls : List RootCall} {roots : List Root} {q : Query}

theorem aliases_addRootAs (q : Query) (entity aliasName : String) :
    (q.addRootAs entity aliasName).2.aliases = q.aliases ++ [aliasName] := by
  simp [addRootAs, aliases]

theorem chosenAliases_append (calls more : List RootCall) :
    chosenAliases (calls ++ more) = chosenAliases calls ++ chosenAliases more :=
  List.filterMap_append

theorem generatedAliases_concat (returned : List.Forall₂ RootCall.Returns calls roots)
    (call : RootCall) (root : Root) :
    generatedAliases (calls ++ [call]) (roots ++ [root]) =
      generatedAliases calls roots ++ generatedAliases [call] [root] := by
  rw [generatedAliases, List.zip_append returned.length_eq, List.filterMap_append]
  rfl

theorem generatedAliases_chosen (returned : List.Forall₂ RootCall.Returns calls roots)
    (entity aliasName : String) (root : Root) :
    generatedAliases (calls ++ [.chosen entity aliasName]) (roots ++ [root]) =
      generatedAliases calls roots :=
  (generatedAliases_concat returned _ root).trans (List.append_nil _)

theorem generatedAliases_generated (returned : List.Forall₂ RootCall.Returns calls roots)
    (entity : String) (root : Root) :
    generatedAliases (calls ++ [.generated entity]) (roots ++ [root]) =
      generatedAliases calls roots ++ [root.aliasName] :=
  generatedAliases_concat returned _ root

def freshAlias (q : Query) : Nat := Naming.firstFree q.aliasStem q.aliases q.nextAlias

theorem nextAlias_le_freshAlias (q : Query) : q.nextAlias ≤ q.freshAlias := Naming.le_firstFree ..

theorem aliases_addRoot (q : Query) (entity : String) :
    (q.addRoot entity).2.aliases = q.aliases ++ [numbered q.aliasStem q.freshAlias] :=
  aliases_addRootAs _ entity _

/-- A counter that is skipped belongs to a chosen alias: generated ones lie before it. -/
theorem Allocated.skipped (h : Allocated calls roots q) {n : Nat} (le : q.nextAlias ≤ n)
    (lt : n < q.freshAlias) : numbered q.aliasStem n ∈ chosenAliases calls := by
  have taken := Naming.mem_of_lt_firstFree q.aliasStem q.aliases q.nextAlias le lt
  rcases h.known _ taken with old | chosen
  · obtain ⟨m, before, same⟩ := h.generated _ old
    have := numbered_inj same
    omega
  · exact chosen

/-- The counter never gets ahead of the number of calls. -/
theorem Allocated.nextAlias_le (h : Allocated calls roots q) : q.nextAlias ≤ calls.length := by
  have distinct : ((List.range q.nextAlias).map (numbered q.aliasStem)).Nodup :=
    List.nodup_range.map fun _ _ same => numbered_inj same
  have within : (List.range q.nextAlias).map (numbered q.aliasStem) ⊆ q.aliases := by
    intro name mem
    obtain ⟨n, lt, rfl⟩ := List.mem_map.1 mem
    exact h.passed n (List.mem_range.1 lt)
  have few := (List.subperm_of_subset distinct within).length_le
  rw [List.length_map, List.length_range, aliases, List.length_map, h.roots_eq] at few
  rw [h.returned.length_eq]
  exact few

theorem allocated_start (stem : String) : Allocated [] [] (start stem) where
  roots_eq := rfl
  returned := .nil
  passed n lt := absurd lt (Nat.not_lt_zero n)
  generated _ mem := absurd mem List.not_mem_nil
  nodup := List.nodup_nil
  known _ mem := absurd mem List.not_mem_nil

theorem Allocated.addRootAs (h : Allocated calls roots q) (entity aliasName : String) :
    Allocated (calls ++ [.chosen entity aliasName]) (roots ++ [⟨entity, aliasName⟩])
      (q.addRootAs entity aliasName).2 where
  roots_eq := congrArg (· ++ _) h.roots_eq
  returned := List.rel_append h.returned (.cons rfl .nil)
  passed n lt := by
    rw [aliases_addRootAs]
    exact List.mem_append_left _ (h.passed n lt)
  generated := by
    rw [generatedAliases_chosen h.returned]
    exact h.generated
  nodup := by
    rw [generatedAliases_chosen h.returned]
    exact h.nodup
  known name mem := by
    rw [generatedAliases_chosen h.returned, chosenAliases_append]
    rw [aliases_addRootAs, List.mem_append] at mem
    rcases mem with old | new
    · exact (h.known name old).imp_right (List.mem_append_left _)
    · exact Or.inr (List.mem_append_right _ new)

theorem Allocated.addRoot (h : Allocated calls roots q) (entity : String) :
    Allocated (calls ++ [.generated entity])
      (roots ++ [⟨entity, numbered q.aliasStem q.freshAlias⟩]) (q.addRoot entity).2 where
  roots_eq := congrArg (· ++ _) h.roots_eq
  returned := List.rel_append h.returned (.cons rfl .nil)
  passed n lt := by
    rw [aliases_addRoot, List.mem_append, List.mem_singleton]
    rcases Nat.lt_or_eq_of_le (Nat.le_of_lt_succ lt) with before | rfl
    · refine Or.inl ?_
      by_cases old : n < q.nextAlias
      · exact h.passed n old
      · exact Naming.mem_of_lt_firstFree _ _ _ (Nat.le_of_not_lt old) before
    · exact Or.inr rfl
  generated name mem := by
    rw [generatedAliases_generated h.returned, List.mem_append, List.mem_singleton] at mem
    rcases mem with old | rfl
    · obtain ⟨n, lt, same⟩ := h.generated name old
      have later := q.nextAlias_le_freshAlias
      exact ⟨n, Nat.lt_succ_of_lt (Nat.lt_of_lt_of_le lt later), same⟩
    · exact ⟨q.freshAlias, Nat.lt_succ_self _, rfl⟩
  nodup := by
    rw [generatedAliases_generated h.returned, List.nodup_append]
    refine ⟨h.nodup, List.nodup_singleton _, ?_⟩
    intro name old other new same
    rw [List.mem_singleton] at new
    obtain ⟨n, lt, written⟩ := h.generated name old
    have later := q.nextAlias_le_freshAlias
    have := numbered_inj (written.symm.trans (same.trans new))
    omega
  known name mem := by
    rw [generatedAliases_generated h.returned, chosenAliases_append]
    rw [aliases_addRoot, List.mem_append] at mem
    rcases mem with old | new
    · exact (h.known name old).imp (List.mem_append_left _) (List.mem_append_left _)
    · exact Or.inl (List.mem_append_right _ new)

theorem Allocated.call (h : Allocated calls roots q) (next : RootCall) :
    Allocated (calls ++ [next]) (roots ++ [(q.call next).1]) (q.call next).2 := by
  cases next with
  | generated entity => exact h.addRoot entity
  | chosen entity aliasName => exact h.addRootAs entity aliasName

theorem Allocated.callAll (h : Allocated calls roots q) (more : List RootCall) :
    Allocated (calls ++ more) (roots ++ (q.callAll more).1) (q.callAll more).2 := by
  induction more generalizing calls roots q with
  | nil =>
    rw [List.append_nil, Query.callAll, List.append_nil]
    exact h
  | cons next rest ih =>
    have later := ih (h.call next)
    rw [List.append_assoc, List.append_assoc] at later
    exact later

end Steps

theorem aliasStem_callAll (q : Query) (calls : List RootCall) :
    (q.callAll calls).2.aliasStem = q.aliasStem := by
  induction calls generalizing q with
  | nil => rfl
  | cons first rest ih =>
    have kept : (q.call first).2.aliasStem = q.aliasStem := by cases first <;> rfl
    exact (ih (q.call first).2).trans kept

/--
Roots get the first free aliases.

After any calls on a new query its roots are those that the calls returned, in the order of the
calls, and no two generated aliases are equal. The search for the next alias ends. The alias is the
stem with the least counter, from that of the query on, whose text is not the alias of a root, and
the query goes on behind it. It skips chosen aliases only, and its counter is never above the number
of calls.
-/
theorem roots_allocated (stem : String) (calls : List RootCall) :
    let (roots, q) := (start stem).callAll calls
    q.roots = roots ∧ List.Forall₂ RootCall.Returns calls roots ∧
      (generatedAliases calls roots).Nodup ∧ q.nextAlias ≤ calls.length ∧
      ∃ counter,
        Naming.search stem q.aliases (calls.length + 1) q.nextAlias = some counter ∧
        IsLeast {n | q.nextAlias ≤ n ∧ numbered stem n ∉ roots.map Root.aliasName} counter ∧
        (∀ n, q.nextAlias ≤ n → n < counter → numbered stem n ∈ chosenAliases calls) ∧
        ∀ entity, q.addRoot entity =
          (⟨entity, numbered stem counter⟩,
            { q with
              nextAlias := counter + 1
              roots := roots ++ [⟨entity, numbered stem counter⟩] }) := by
  have all := (allocated_start stem).callAll calls
  have kept : ((start stem).callAll calls).2.aliasStem = stem := aliasStem_callAll (start stem) calls
  rw [List.nil_append, List.nil_append] at all
  generalize (start stem).callAll calls = run at all kept ⊢
  obtain ⟨roots, q⟩ := run
  dsimp only at all kept ⊢
  subst kept
  have listed : q.aliases = roots.map Root.aliasName := by rw [aliases, all.roots_eq]
  have rounds : q.aliases.length = calls.length := by
    rw [listed, List.length_map, all.returned.length_eq]
  refine ⟨all.roots_eq, all.returned, all.nodup, all.nextAlias_le, q.freshAlias, ?_, ?_, ?_, ?_⟩
  · rw [← rounds]
    exact Naming.search_ends ..
  · rw [← listed]
    exact Naming.isLeast_firstFree ..
  · exact fun n => all.skipped
  · intro entity
    rw [← all.roots_eq]
    rfl

/-- Chosen aliases lie ahead of the counter, one behind the other, and one of them comes twice. -/
theorem roots_allocated_of_chosen_ahead :
    let calls : List RootCall := [.chosen "Person" "t1", .generated "Address", .chosen "Order" "t3",
      .chosen "Item" "t2", .chosen "Item" "t2", .generated "City"]
    let (roots, q) := (start "t").callAll calls
    roots.map Root.aliasName = ["t1", "t0", "t3", "t2", "t2", "t4"] ∧ q.nextAlias = 5 ∧
      q.roots = roots ∧ (generatedAliases calls roots).Nodup ∧
      (q.addRoot "Country").1 = ⟨"Country", "t5"⟩ := by
  intro calls
  have allocated := roots_allocated "t" calls
  obtain ⟨same, -, nodup, -, -⟩ := allocated
  exact ⟨by decide +kernel, by decide +kernel, same, nodup, by decide +kernel⟩

end ParamQuery.Query
