import Mathlib.Tactic.Lemma
import Mathlib.Data.List.Basic
import Federation.Proofs.Reference
import Federation.Proofs.Builder

/-!
# Phantom bases

Adding phantom bases to the ledger of some services changes its definitions only. Every entry is
kept, and each extended name without a definition, in the order of the extensions, gets the
phantom of its first extension's kind appended (`synthesize_definitions_eq`). The ownership
records are untouched (`synthesize_ownership_eq`): a name that is only extended has no owner to
lose, since the ledger files a definition of a name exactly when some service declared it.

Afterwards every extended name has a definition, the definitions and the ownership records file
the same names, and each record's owner is its last base service and each member's owner its
last claimant (`synthesize_laws`).
-/

namespace Federation

open Syntax

namespace Ledger

/-- The entry that phantom synthesis adds to some definitions for a name and its extensions: the
phantom of the first extension's kind, for an extended name without definitions. -/
def phantomEntry (definitions : Table (List TypeDeclaration)) (e : String × List TypeDeclaration) :
    Option (String × List TypeDeclaration) :=
  if definitions.contains e.1 then none else e.2.head?.map fun first => (e.1, [phantom e.1 first.kind])

@[simp] lemma phantom_members (n : String) (k : TypeKind) : (phantom n k).members = [] := by
  cases k <;> rfl

/-- A phantom entry is filed under its own name. -/
lemma phantomEntry_name {definitions : Table (List TypeDeclaration)} {e : String × List TypeDeclaration}
    {x : String × List TypeDeclaration} (h : phantomEntry definitions e = some x) : x.1 = e.1 := by
  unfold phantomEntry at h
  split at h
  · cases h
  · obtain ⟨first, -, rfl⟩ := Option.map_eq_some_iff.1 h
    rfl

/-- The phantom entry of a name depends on the definitions only through whether they file it. -/
lemma phantomEntry_congr {t u : Table (List TypeDeclaration)} {e : String × List TypeDeclaration}
    (h : t.contains e.1 = u.contains e.1) : phantomEntry t e = phantomEntry u e := by
  simp only [phantomEntry, h]

/-- One step of phantom synthesis appends the phantom entry of its name, if any. -/
lemma phantomStep_definitions (acc : Ledger) (e : String × List TypeDeclaration) :
    (phantomStep acc e).definitions = acc.definitions ++ (phantomEntry acc.definitions e).toList := by
  unfold phantomStep phantomEntry
  split
  · simp
  · rename_i h
    have hk : e.1 ∉ acc.definitions.keys := by
      simpa [Table.contains, Table.isSome_find?_iff] using h
    cases e.2 with
    | nil => simp
    | cons first rest => simp [Table.set_of_not_mem hk]

/-- Phantom synthesis keeps the definitions before it and appends, in the order of the
extensions, the phantom entry of each name. -/
lemma foldl_phantomStep_definitions_eq (xs : Table (List TypeDeclaration)) (hn : xs.keys.Nodup)
    (acc : Ledger) :
    (xs.foldl phantomStep acc).definitions =
      acc.definitions ++ xs.filterMap (phantomEntry acc.definitions) := by
  induction xs generalizing acc with
  | nil => simp
  | cons e xs ih =>
    simp only [Table.keys_cons, List.nodup_cons] at hn
    rw [List.foldl_cons, ih hn.2, phantomStep_definitions]
    -- the entry appended for `e` is filed under `e`'s name, which no later name repeats
    have hrest : xs.filterMap (phantomEntry (acc.definitions ++ (phantomEntry acc.definitions e).toList)) =
        xs.filterMap (phantomEntry acc.definitions) := by
      refine List.filterMap_congr fun e' he' => phantomEntry_congr ?_
      have hne : e'.1 ≠ e.1 := fun h => hn.1 (h ▸ Table.mem_keys_of_mem he')
      cases hx : phantomEntry acc.definitions e with
      | none => simp
      | some x =>
        have hx1 := phantomEntry_name hx
        rw [Bool.eq_iff_iff, Table.contains_iff, Table.contains_iff]
        simp only [Option.toList_some, Table.keys, List.map_append, List.mem_append,
          List.map_singleton, List.mem_singleton]
        exact or_iff_left fun h => hne (h.trans hx1)
    rw [hrest, List.filterMap_cons]
    cases phantomEntry acc.definitions e <;> simp

/-- One step of phantom synthesis keeps the ownership records, when a name that it may give a
phantom already has a record without an owner. -/
lemma phantomStep_ownership_eq (acc : Ledger) (e : String × List TypeDeclaration)
    (h : acc.definitions.find? e.1 = none → e.2 ≠ [] →
      ∃ r, acc.ownership.find? e.1 = some r ∧ r.owningService = none) :
    (phantomStep acc e).ownership = acc.ownership := by
  rcases phantomStep_cases acc e with hs | ⟨first, rest, he, hnone, hs⟩
  · rw [hs]
  · obtain ⟨r, hr, hown⟩ := h hnone (by simp [he])
    have hr' : { r with owningService := none } = r := by cases r; simp_all
    rw [hs]
    simp only [Table.update, hr, Option.getD_some, hr']
    exact Table.set_of_find? hr

/-- Phantom synthesis keeps the ownership records, when every name that it may give a phantom
already has a record without an owner. -/
lemma foldl_phantomStep_ownership_eq (xs : Table (List TypeDeclaration)) (hn : xs.keys.Nodup)
    (acc : Ledger)
    (h : ∀ e ∈ xs, acc.definitions.find? e.1 = none → e.2 ≠ [] →
      ∃ r, acc.ownership.find? e.1 = some r ∧ r.owningService = none) :
    (xs.foldl phantomStep acc).ownership = acc.ownership := by
  induction xs generalizing acc with
  | nil => rfl
  | cons e xs ih =>
    simp only [Table.keys_cons, List.nodup_cons] at hn
    have hstep := phantomStep_ownership_eq acc e (h e List.mem_cons_self)
    rw [List.foldl_cons, ih hn.2, hstep]
    -- a later name keeps its definitions through the step, and the records are the same
    intro e' he'
    have hne : e.1 ≠ e'.1 := fun h => hn.1 (h ▸ Table.mem_keys_of_mem he')
    rw [(phantomStep_of_ne e'.1 acc e hne).1, hstep]
    exact h e' (List.mem_cons_of_mem _ he')

section Synthesized

variable (defs : List (String × Definition))

/-- Adding phantom bases to a ledger keeps its definitions and appends, in the order of the
extensions, the phantom of each extended name without a definition. -/
lemma synthesize_definitions_eq :
    (ofDefinitions defs).synthesize.definitions =
      (ofDefinitions defs).definitions ++
        (ofDefinitions defs).extensions.filterMap (phantomEntry (ofDefinitions defs).definitions) :=
  foldl_phantomStep_definitions_eq _ (nodup_keys defs).2.1 _

/-- Adding phantom bases to a ledger keeps its ownership records: an extended name without a
definition was declared by nobody, so its record has no owner already. -/
lemma synthesize_ownership_eq :
    (ofDefinitions defs).synthesize.ownership = (ofDefinitions defs).ownership := by
  refine foldl_phantomStep_ownership_eq _ (nodup_keys defs).2.1 _ fun e he hnone hne => ?_
  have hbase : baseDeclarations defs e.1 = [] := by
    rw [definitions_find?] at hnone
    split at hnone
    · assumption
    · cases hnone
  have hext : extensionDeclarations defs e.1 ≠ [] := by
    have hfind := Table.find?_of_mem (nodup_keys defs).2.1 he
    rw [extensions_find?] at hfind
    split at hfind
    · cases hfind
    · assumption
  obtain ⟨r, hr⟩ := Option.isSome_iff_exists.1
    (Table.isSome_find?_iff.2 ((mem_ownership_keys defs e.1).2 (.inr hext)))
  refine ⟨r, hr, ?_⟩
  have hown := (ownership_agrees defs e.1).owner
  rw [hr, Option.getD_some, hbase] at hown
  exact hown

end Synthesized

end Ledger

/-- The record the reference gives a name: its owner is its last base service, and the owner of
each member its last claimant. -/
lemma Ownership.reference_owners (defs : List (String × Definition)) (name : String) :
    (Ownership.reference defs name).owningService =
        (Ownership.reference defs name).baseServices.getLast? ∧
      ∀ m, (Ownership.reference defs name).extensionFieldOwners.find? m =
        (((Ownership.reference defs name).extensionClaims.find? m).getD []).getLast? := by
  refine ⟨by simp [Ownership.reference, List.getLast?_map], fun m => ?_⟩
  simp [Ownership.reference, Table.find?_setAll, Table.find?_group, List.getLast?_map]

/-- Phantom synthesis on the ledger of some services: it keeps every definition and appends, in
the order of the extensions, a phantom (an empty declaration of the name, of its first
extension's kind) for each extended name without a definition; it keeps the extensions and the
ownership records, so a phantom's name stays without an owner. Afterwards the definitions and
the ownership records file the same names, every extended name has a definition, and every
record's owner is its last base service and every member's owner its last claimant. -/
theorem synthesize_laws (services : List Service) :
    let B := Ledger.build services
    (∀ n k, (Ledger.phantom n k).name = n ∧ (Ledger.phantom n k).kind = k ∧
      (Ledger.phantom n k).members = []) ∧
    B.synthesize.definitions =
      B.definitions ++ B.extensions.filterMap (Ledger.phantomEntry B.definitions) ∧
    B.synthesize.extensions = B.extensions ∧
    B.synthesize.ownership = B.ownership ∧
    (∀ T, B.definitions.contains T = false → T ∈ B.extensions.keys →
      (B.synthesize.ownership.find? T).map (·.owningService) = some none) ∧
    (∀ T, T ∈ B.synthesize.definitions.keys ↔ T ∈ B.synthesize.ownership.keys) ∧
    (∀ T ∈ B.synthesize.extensions.keys, T ∈ B.synthesize.definitions.keys) ∧
    ∀ T r, B.synthesize.ownership.find? T = some r →
      r.owningService = r.baseServices.getLast? ∧
        ∀ m, r.extensionFieldOwners.find? m = ((r.extensionClaims.find? m).getD []).getLast? := by
  intro B
  have hB : B = Ledger.ofDefinitions (serviceDefinitions services) := Ledger.build_eq services
  have hown := Ledger.synthesize_ownership_eq (serviceDefinitions services)
  rw [← hB] at hown
  refine ⟨fun n k => ⟨rfl, by simp, by simp⟩, ?_, Ledger.synthesize_extensions B, hown,
    fun T hT hext => ?_, fun T => ?_, fun T hT => ?_, fun T r hr => ?_⟩
  · rw [hB]
    exact Ledger.synthesize_definitions_eq _
  · -- a phantom's name is extended, so it has a record, whose owner the ledger never set
    have hbase : baseDeclarations (serviceDefinitions services) T = [] := by
      have h := Ledger.definitions_find? (serviceDefinitions services) T
      rw [← hB] at h
      have hnone : B.definitions.find? T = none := by
        simpa [Table.contains, Option.isSome_iff_ne_none] using hT
      rw [hnone] at h
      split at h
      · assumption
      · cases h
    have hmem : T ∈ B.ownership.keys := by
      rw [hB, Ledger.mem_ownership_keys]
      refine .inr fun hnil => ?_
      rw [← Table.isSome_find?_iff, hB, Ledger.extensions_find?, if_pos hnil] at hext
      cases hext
    obtain ⟨r, hr⟩ := Option.isSome_iff_exists.1 (Table.isSome_find?_iff.2 hmem)
    have howner := (Ledger.ownership_agrees (serviceDefinitions services) T).owner
    rw [← hB, hr, Option.getD_some, hbase] at howner
    simp [hown, hr, howner]
  · rw [hB, Ledger.mem_synthesize_definitions_keys, Ledger.mem_synthesize_ownership_keys]
  · -- an extended name has extensions, so phantom synthesis left it a definition
    rw [hB, Ledger.mem_synthesize_definitions_keys]
    rw [hB, Ledger.synthesize_extensions, ← Table.isSome_find?_iff, Ledger.extensions_find?] at hT
    refine .inr fun hnil => ?_
    rw [if_pos hnil] at hT
    cases hT
  · have href : B = Ledger.reference (serviceDefinitions services) :=
      (Ledger.build_eq services).trans (Ledger.ofDefinitions_eq_reference _)
    rw [hown, href, Ledger.reference, Table.find?_tabulate] at hr
    split at hr
    · cases hr
      exact Ownership.reference_owners _ T
    · cases hr

end Federation
