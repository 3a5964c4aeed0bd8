import Mathlib.Tactic.Lemma
import Federation.Proofs.MergeLaw
import Federation.Proofs.Annotation

/-!
# Who owns a composed type and its members

The owner of a type of a composed schema is the last service that declared it as a base type,
and nobody for a type that was only extended. The owner of a field or enum value of an object,
input object or enum type is the last service whose extension of the type claimed the member,
or else the owner of the type (`fieldOwner_eq_last_claimant`).

An extension claims the members it lists whatever the kind of the type it ends up extending:
an extension of another kind than the composed type's is not applied to the type, yet its claims
count. So the owner of a member need not be the service whose declaration the schema uses
(`skipped_extension_claims_member`).
-/

namespace Federation

open Syntax Schema

/-- A declared name is declared as a base type or extended. -/
lemma declarations_ne_nil_of_baseDeclaration {defs : List (String × Definition)} {name : String}
    (h : (baseDeclaration defs name).isSome) :
    baseDeclarations defs name ≠ [] ∨ extensionDeclarations defs name ≠ [] := by
  unfold baseDeclaration at h
  split at h
  · rename_i e he
    exact .inl fun hnil => by simp [hnil] at he
  · refine .inr fun hnil => ?_
    simp [hnil] at h

section Composed

variable {services : List Service} {height : Nat} {c : Composition}

/-- Every declared name has an ownership record, and it agrees with the declarations of the
name. -/
lemma declared_ownership {T : String}
    (hdecl : baseDeclarations (serviceDefinitions services) T ≠ [] ∨
      extensionDeclarations (serviceDefinitions services) T ≠ []) :
    ∃ r, (Ledger.build services).synthesize.ownership.find? T = some r ∧
      r.Agrees (serviceDefinitions services) T := by
  have hkey := (Ledger.mem_synthesize_ownership_keys _ T).2 hdecl
  rw [← Ledger.build_eq] at hkey
  obtain ⟨r, hr⟩ := Option.isSome_iff_exists.1 (Table.isSome_find?_iff.2 hkey)
  have hagree := Ledger.synthesize_ownership_agrees (serviceDefinitions services) T
  rw [← Ledger.build_eq, hr] at hagree
  exact ⟨r, hr, hagree⟩

/-- Every type of a composed schema that is not built in has an ownership record, and it agrees
with the declarations of the type. -/
lemma composed_ownership (h : compose services height = .ok c) {T : String}
    (hT : isStandardName T = false) {t : NamedType} (ht : c.schema.type? T = some t) :
    ∃ r, (Ledger.build services).synthesize.ownership.find? T = some r ∧
      r.Agrees (serviceDefinitions services) T := by
  rcases composed_type?_cases h ht with ⟨hstd, -⟩ | ⟨-, hshape⟩
  · rw [hT] at hstd
    cases hstd
  · obtain ⟨b, hb, -⟩ := composedShape_eq_some hshape
    exact declared_ownership (declarations_ne_nil_of_baseDeclaration (by rw [hb]; rfl))

/-- The owners a composition records for a type of its schema with an ownership record: the
last service that declared the type, and for a member the metadata tracks, the last service that
claimed it, or else the owner of the type. -/
lemma composed_owners (h : compose services height = .ok c) {T : String} {r : Ownership}
    (hr : (Ledger.build services).synthesize.ownership.find? T = some r)
    (hagree : r.Agrees (serviceDefinitions services) T) {t : NamedType}
    (ht : c.schema.type? T = some t) (m : String) :
    c.metadata.typeOwner T = ((baseDeclarations (serviceDefinitions services) T).getLast?).map (·.1) ∧
      c.metadata.fieldOwner T m =
        if t.tracksMember m then
          ((claimants (serviceDefinitions services) T m).getLast?).or (c.metadata.typeOwner T)
        else c.metadata.typeOwner T := by
  obtain ⟨errors, -, hannot⟩ := compose_ok h
  have hnodup := (Ledger.synthesize_nodup_keys (serviceDefinitions services)).2.2
  rw [← Ledger.build_eq] at hnodup
  obtain ⟨howner, hclaim⟩ := annotate_owners hannot hnodup hr hagree.nodup ht m
  have htype : c.metadata.typeOwner T = ((baseDeclarations (serviceDefinitions services) T).getLast?).map (·.1) :=
    howner.trans hagree.owner
  refine ⟨htype, ?_⟩
  rw [Metadata.fieldOwner_eq, hclaim]
  split
  · rw [hagree.claims m]
  · rfl

end Composed

/-- The owner of a field or enum value of an object, input object or enum type of a composed
schema that is not built in is the last service whose extension of the type claimed the member,
whatever the kind of that extension, or else the owner of the type; the owner of the type is the
last service that declared it as a base type. -/
theorem fieldOwner_eq_last_claimant {services : List Service} {height : Nat} {c : Composition}
    (h : compose services height = .ok c) {T : String} (hT : isStandardName T = false)
    {t : NamedType} (ht : c.schema.type? T = some t)
    (hkind : t.kind = .object ∨ t.kind = .inputObject ∨ t.kind = .enum) {m : String}
    (hm : m ∈ t.memberNames) :
    c.metadata.fieldOwner T m =
        ((claimants (serviceDefinitions services) T m).getLast?).or (c.metadata.typeOwner T) ∧
      c.metadata.typeOwner T = ((baseDeclarations (serviceDefinitions services) T).getLast?).map (·.1) := by
  obtain ⟨r, hr, hagree⟩ := composed_ownership h hT ht
  obtain ⟨htype, hfield⟩ := composed_owners h hr hagree ht m
  have htrack : t.tracksMember m = true := (NamedType.tracksMember_iff t m).2 ⟨hkind, hm⟩
  rw [htrack, if_pos rfl] at hfield
  exact ⟨hfield, htype⟩

/-- Two services: one defines the enum `Color { RED }`, the other extends an input object
`Color { RED: Int }`. -/
def colorServices : List Service :=
  [⟨"A", ⟨[.type ⟨none, "Color", [], .enum [⟨none, "RED", []⟩]⟩]⟩⟩,
   ⟨"B", ⟨[.typeExtension ⟨none, "Color", [],
      .inputObject [⟨none, "RED", .named "Int", none, []⟩]⟩]⟩⟩]

/-- The enum value of the composed `Color` is claimed by the input-object extension. -/
theorem color_fieldOwner_last_claimant :
    ∃ c t, compose colorServices 0 = .ok c ∧ c.schema.type? "Color" = some t ∧
      t.kind = .enum ∧ "RED" ∈ t.memberNames ∧
      c.metadata.fieldOwner "Color" "RED" =
        ((claimants (serviceDefinitions colorServices) "Color" "RED").getLast?).or
          (c.metadata.typeOwner "Color") := by
  obtain ⟨c, hc, ht⟩ := exists_ok_of_any (x := compose colorServices 0)
    (p := fun c : Composition =>
      (c.schema.type? "Color").any fun t => t.kind == .enum && t.memberNames.contains "RED")
    (by decide)
  obtain ⟨t, ht, htk⟩ := (Option.any_eq_true _ _).1 ht
  simp only [Bool.and_eq_true, beq_iff_eq, List.contains_iff_mem] at htk
  exact ⟨c, t, hc, ht, htk.1, htk.2,
    (fieldOwner_eq_last_claimant hc (by decide) ht (.inr (.inr htk.1)) htk.2).1⟩

/-- The composed `Color` is the enum of service `A`, which owns it, and no enum extension declares
`RED`; yet the owner of `RED` is service `B`, whose input-object extension was not applied. -/
theorem skipped_extension_claims_member :
    ∃ c, compose colorServices 0 = .ok c ∧
      (c.schema.type? "Color").map (·.kind) = some .enum ∧
      c.metadata.typeOwner "Color" = some "A" ∧
      c.metadata.fieldOwner "Color" "RED" = some "B" := by
  obtain ⟨c, hc, hp⟩ := exists_ok_of_any (x := compose colorServices 0)
    (p := fun c : Composition => (c.schema.type? "Color").map (·.kind) == some TypeKind.enum &&
      c.metadata.typeOwner "Color" == some "A" && c.metadata.fieldOwner "Color" "RED" == some "B")
    (by decide)
  simp only [Bool.and_eq_true, beq_iff_eq] at hp
  exact ⟨c, hc, hp.1.1, hp.1.2, hp.2⟩

end Federation
