import Mathlib.Tactic.Lemma
import Federation.Metadata
import Federation.Proofs.Extend

/-!
# The owners recorded by annotation

Annotating a schema walks the ownership records of the ledger, one type at a time. For a type
the schema has, it records the record's owning service, and, for each field of an object, input
object or enum value the type has, the service that claimed that member, if one did. So the
owner of a type is the owning service of its record, and the owner of such a member is the
service that claimed it, or else the owner of its type (`annotate_owners`).

Each step is read once: a step for another type leaves the owners of this one alone
(`annotateType_frame`), and the step for this type writes them (`annotateType_self`). A record is
met once, since the ledger files each name once, so what the walk records in a view of a type
that other types' steps keep is what the type's own step records (`annotate_at`).
-/

namespace Federation

open Syntax Schema

namespace Metadata

/-- The service a member's metadata records as having claimed it. -/
def claimOf (m : Metadata) (typeName fieldName : String) : Option String :=
  (m.fieldMetadata typeName fieldName).bind (·.serviceName)

variable (m : Metadata)

@[simp] lemma setType_types (n : String) (x : TypeMetadata) :
    (m.setType n x).types = m.types.set n x := rfl

@[simp] lemma setType_fields (n : String) (x : TypeMetadata) : (m.setType n x).fields = m.fields :=
  rfl

@[simp] lemma setField_types (n f : String) (x : FieldMetadata) : (m.setField n f x).types = m.types :=
  rfl

/-- The owner of a member is the service that claimed it, or else the owner of its type. -/
lemma fieldOwner_eq (n f : String) : m.fieldOwner n f = (m.claimOf n f).or (m.typeOwner n) := by
  unfold fieldOwner claimOf
  cases (m.fieldMetadata n f).bind (·.serviceName) <;> rfl

lemma typeOwner_setType (n n' : String) (x : TypeMetadata) :
    (m.setType n x).typeOwner n' = if n = n' then x.serviceName else m.typeOwner n' := by
  unfold typeOwner typeMetadata
  rw [setType_types, Table.find?_set]
  split <;> rfl

@[simp] lemma typeOwner_setField (n f n' : String) (x : FieldMetadata) :
    (m.setField n f x).typeOwner n' = m.typeOwner n' := rfl

@[simp] lemma claimOf_setType (n n' f' : String) (x : TypeMetadata) :
    (m.setType n x).claimOf n' f' = m.claimOf n' f' := rfl

lemma fieldMetadata_setField (n f n' f' : String) (x : FieldMetadata) :
    (m.setField n f x).fieldMetadata n' f' =
      if n = n' ∧ f = f' then some x else m.fieldMetadata n' f' := by
  unfold fieldMetadata setField
  rw [Table.find?_update]
  by_cases hn : n = n'
  · subst hn
    cases m.fields.find? n <;> by_cases hf : f = f' <;> simp [hf, Table.find?_set]
  · simp [hn]

lemma claimOf_setField (n f n' f' : String) (x : FieldMetadata) :
    (m.setField n f x).claimOf n' f' =
      if n = n' ∧ f = f' then x.serviceName else m.claimOf n' f' := by
  unfold claimOf
  rw [fieldMetadata_setField]
  split <;> rfl

end Metadata

/-- Whether the metadata of a type records who claimed a member: a field of an object or input
object, or a value of an enum, that the type has. -/
def Schema.NamedType.tracksMember (t : NamedType) (member : String) : Bool :=
  match t.shape with
  | .object _ fs => fs.keys.contains member
  | .inputObject fs => fs.keys.contains member
  | .enum vs => vs.keys.contains member
  | _ => false

/-- The metadata tracks exactly the members of objects, input objects and enums. -/
lemma Schema.NamedType.tracksMember_iff (t : NamedType) (member : String) :
    t.tracksMember member = true ↔
      (t.kind = .object ∨ t.kind = .inputObject ∨ t.kind = .enum) ∧ member ∈ t.memberNames := by
  unfold tracksMember NamedType.kind NamedType.memberNames
  cases t.shape <;> simp [TypeShape.kind]

/-! ### Object fields -/

section ObjectFields

variable {n : String} {r : Ownership} {height : Nat}

/-- A step over an object's fields leaves the metadata alone, when nobody claimed the field, or
records the field with the service that claimed it. -/
lemma annotateObjectField_cases {md md' : Metadata} {k : String} {f : Field}
    (h : annotateObjectField n r height md (k, f) = .ok md') :
    (md' = md ∧ r.extensionFieldOwners.find? k = none) ∨
      ∃ x : FieldMetadata, x.serviceName = r.extensionFieldOwners.find? k ∧
        md' = md.setField n k x := by
  unfold annotateObjectField at h
  obtain ⟨provides, -, h⟩ := ok_of_bind_eq_ok h
  dsimp only at h
  -- whichever `@requires` is read, the field is recorded unless nobody claimed it and it
  -- provides nothing
  have hrecord : ∀ requires, (if ((r.extensionFieldOwners.find? k).isNone && provides.isNone) = true
      then pure md else pure (md.setField n k
        { serviceName := r.extensionFieldOwners.find? k, requires := requires, provides := provides })) =
        (.ok md' : Except Fault Metadata) →
      (md' = md ∧ r.extensionFieldOwners.find? k = none) ∨
        ∃ x : FieldMetadata, x.serviceName = r.extensionFieldOwners.find? k ∧
          md' = md.setField n k x := by
    intro requires hr
    split at hr
    · rename_i hnone
      cases hr
      simp only [Bool.and_eq_true, Option.isNone_iff_eq_none] at hnone
      exact .inl ⟨rfl, hnone.1⟩
    · cases hr
      exact .inr ⟨_, rfl, rfl⟩
  split at h
  · obtain ⟨requires, -, h⟩ := ok_of_bind_eq_ok h
    exact hrecord requires h
  · exact hrecord none h

/-- Annotating an object's fields records no type owner. -/
lemma annotateObjectFields_typeOwner {md md' : Metadata} {fields : Table Field}
    (h : annotateObjectFields md n fields r height = .ok md') (n' : String) :
    md'.typeOwner n' = md.typeOwner n' :=
  foldlM_except_keep (fun b : Metadata => b.typeOwner n') (fun x _ b b' hx => by
    rcases annotateObjectField_cases hx with ⟨rfl, -⟩ | ⟨y, -, rfl⟩ <;> simp) h

/-- Annotating an object's fields records no member of another type. -/
lemma annotateObjectFields_claimOf_of_ne {md md' : Metadata} {fields : Table Field}
    (h : annotateObjectFields md n fields r height = .ok md') {n' : String} (hne : n ≠ n')
    (f' : String) : md'.claimOf n' f' = md.claimOf n' f' :=
  foldlM_except_keep (fun b : Metadata => b.claimOf n' f') (fun x _ b b' hx => by
    rcases annotateObjectField_cases hx with ⟨rfl, -⟩ | ⟨y, -, rfl⟩
    · rfl
    · simp [Metadata.claimOf_setField, hne]) h

/-- Annotating an object's fields records, for a field the object has, the service that claimed
it, provided what was recorded of the field before agrees with that. -/
lemma annotateObjectFields_claimOf {md md' : Metadata} {fields : Table Field}
    (h : annotateObjectFields md n fields r height = .ok md') (f : String)
    (hbefore : md.claimOf n f = none ∨ md.claimOf n f = r.extensionFieldOwners.find? f) :
    md'.claimOf n f =
      if fields.keys.contains f then r.extensionFieldOwners.find? f else md.claimOf n f := by
  induction fields generalizing md with
  | nil => cases h; rfl
  | cons e fields ih =>
    obtain ⟨k, fld⟩ := e
    obtain ⟨b, hb, hrest⟩ := ok_of_bind_eq_ok h
    rcases annotateObjectField_cases hb with ⟨hbm, hk⟩ | ⟨x, hx, rfl⟩
    · rw [hbm] at hrest
      rw [ih hrest hbefore]
      by_cases hkf : k = f
      · subst hkf
        have : md.claimOf n k = none := by rcases hbefore with h' | h' <;> simp [h', hk]
        simp [this, hk]
      · simp [Ne.symm hkf]
    · -- the field just recorded now agrees with its claimant
      have hclaim : (md.setField n k x).claimOf n f =
          if k = f then r.extensionFieldOwners.find? f else md.claimOf n f := by
        rw [Metadata.claimOf_setField]
        by_cases hkf : k = f
        · subst hkf; simp [hx]
        · simp [hkf]
      have hbefore' : (md.setField n k x).claimOf n f = none ∨
          (md.setField n k x).claimOf n f = r.extensionFieldOwners.find? f := by
        rw [hclaim]
        split
        · exact .inr rfl
        · exact hbefore
      rw [ih hrest hbefore', hclaim]
      by_cases hkf : k = f
      · subst hkf; simp
      · simp [hkf, Ne.symm hkf]

end ObjectFields

/-! ### Claimed members of enums and input objects -/

section ClaimedMembers

variable {n : String} {members : List String}

/-- Recording the claimed members of a type writes no type owner. -/
lemma foldl_claimedMembers_typeOwner (claims : List (String × String)) (md : Metadata)
    (n' : String) :
    (claims.foldl (fun m (x : String × String) =>
      if members.contains x.1 then m.setField n x.1 { serviceName := some x.2 } else m) md).typeOwner
        n' = md.typeOwner n' := by
  induction claims generalizing md with
  | nil => rfl
  | cons x claims ih =>
    rw [List.foldl_cons, ih]
    split <;> rfl

/-- Recording the claimed members of a type records no member of another type. -/
lemma foldl_claimedMembers_claimOf_of_ne (claims : List (String × String)) (md : Metadata)
    {n' : String} (hne : n ≠ n') (f : String) :
    (claims.foldl (fun m (x : String × String) =>
      if members.contains x.1 then m.setField n x.1 { serviceName := some x.2 } else m) md).claimOf
        n' f = md.claimOf n' f := by
  induction claims generalizing md with
  | nil => rfl
  | cons x claims ih =>
    rw [List.foldl_cons, ih]
    split
    · simp [Metadata.claimOf_setField, hne]
    · rfl

/-- Recording the claimed members of a type records, for a member the type has, its claimant. -/
lemma foldl_claimedMembers_claimOf (claims : Table String) (hnd : claims.keys.Nodup)
    (md : Metadata) (f : String) :
    (claims.foldl (fun m (x : String × String) =>
      if members.contains x.1 then m.setField n x.1 { serviceName := some x.2 } else m) md).claimOf
        n f = if members.contains f then (claims.find? f).or (md.claimOf n f) else md.claimOf n f := by
  induction claims generalizing md with
  | nil => split <;> rfl
  | cons x claims ih =>
    obtain ⟨k, s⟩ := x
    rw [Table.keys_cons, List.nodup_cons] at hnd
    rw [List.foldl_cons, ih hnd.2, Table.find?_cons]
    by_cases hkf : k = f
    · -- the claim of this member is its only one
      subst hkf
      have hrest : Table.find? claims k = none := Table.find?_eq_none_iff.2 hnd.1
      by_cases hc : k ∈ members <;> simp [hc, hrest, Metadata.claimOf_setField]
    · have hstep : (if members.contains k then md.setField n k { serviceName := some s } else md).claimOf
          n f = md.claimOf n f := by
        split
        · simp [Metadata.claimOf_setField, hkf]
        · rfl
      simp only [hstep]
      simp [hkf]

end ClaimedMembers

/-! ### One type at a time -/

section Steps

variable {schema : Schema} {height : Nat} {md md' : Metadata}

/-- Annotating one type leaves the owners of every other type and of its members alone. -/
lemma annotateType_frame {name n : String} {r : Ownership}
    (h : annotateType schema height md (name, r) = .ok md') (hne : name ≠ n) :
    md'.typeOwner n = md.typeOwner n ∧ ∀ f, md'.claimOf n f = md.claimOf n f := by
  have hset : (md.setType name { serviceName := r.owningService }).typeOwner n = md.typeOwner n := by
    simp [Metadata.typeOwner_setType, hne]
  unfold annotateType at h
  dsimp only at h
  split at h
  · cases h; exact ⟨rfl, fun _ => rfl⟩
  · split at h
    · obtain ⟨keys, -, h⟩ := ok_of_bind_eq_ok h
      refine ⟨(annotateObjectFields_typeOwner h n).trans (by simp [Metadata.typeOwner_setType, hne]),
        fun f => (annotateObjectFields_claimOf_of_ne h hne f).trans rfl⟩
    · cases h
      exact ⟨(foldl_claimedMembers_typeOwner _ _ n).trans hset,
        fun f => (foldl_claimedMembers_claimOf_of_ne _ _ hne f).trans rfl⟩
    · cases h
      exact ⟨(foldl_claimedMembers_typeOwner _ _ n).trans hset,
        fun f => (foldl_claimedMembers_claimOf_of_ne _ _ hne f).trans rfl⟩
    · cases h
      exact ⟨hset, fun _ => rfl⟩

/-- Annotating a type the schema has, with nothing recorded of its members yet, records the
owning service of its record and, for each member the metadata tracks, its claimant. -/
lemma annotateType_self {n : String} {r : Ownership} {t : NamedType}
    (h : annotateType schema height md (n, r) = .ok md') (ht : schema.type? n = some t)
    (hnd : r.extensionFieldOwners.keys.Nodup) (f : String) (hfresh : md.claimOf n f = none) :
    md'.typeOwner n = r.owningService ∧
      md'.claimOf n f = if t.tracksMember f then r.extensionFieldOwners.find? f else none := by
  have hset : ∀ keys : List (List Selection),
      (md.setType n { serviceName := r.owningService, keys }).typeOwner n = r.owningService := by
    intro keys
    simp [Metadata.typeOwner_setType]
  unfold annotateType at h
  simp only [ht] at h
  split at h
  · rename_i is fields hshape
    obtain ⟨keys, -, h⟩ := ok_of_bind_eq_ok h
    refine ⟨(annotateObjectFields_typeOwner h n).trans (hset keys), ?_⟩
    rw [annotateObjectFields_claimOf h f (.inl (by simpa using hfresh))]
    simp [NamedType.tracksMember, hshape, hfresh]
  · rename_i values hshape
    cases h
    refine ⟨(foldl_claimedMembers_typeOwner _ _ n).trans (hset []), ?_⟩
    rw [annotateClaimedMembers, foldl_claimedMembers_claimOf _ hnd]
    simp [NamedType.tracksMember, hshape, hfresh]
  · rename_i fields hshape
    cases h
    refine ⟨(foldl_claimedMembers_typeOwner _ _ n).trans (hset []), ?_⟩
    rw [annotateClaimedMembers, foldl_claimedMembers_claimOf _ hnd]
    simp [NamedType.tracksMember, hshape, hfresh]
  · rename_i hobj henum hinput
    cases h
    refine ⟨hset [], ?_⟩
    have htrack : t.tracksMember f = false := by
      unfold NamedType.tracksMember
      split
      · rename_i is fs hs; exact absurd hs (hobj is fs)
      · rename_i fs hs; exact absurd hs (hinput fs)
      · rename_i vs hs; exact absurd hs (henum vs)
      · rfl
    simp [htrack, hfresh]

end Steps

/-! ### The walk over the ledger -/

section Walk

variable {schema : Schema} {ownership : Table Ownership} {height : Nat} {md : Metadata}

/-- What annotation records in a view of one type that the steps of other types keep: nothing,
for a type without a record, and otherwise what the type's own step records starting from
nothing recorded, since the ledger files each type once. -/
lemma annotate_at {γ : Type} (V : Metadata → γ) {n : String}
    (hframe : ∀ name r b b', name ≠ n → annotateType schema height b (name, r) = .ok b' → V b' = V b)
    (h : annotate schema ownership height = .ok md) (hn : ownership.keys.Nodup) :
    (ownership.find? n = none → V md = V {}) ∧
      ∀ r, ownership.find? n = some r → ∃ b b', V b = V {} ∧
        annotateType schema height b (n, r) = .ok b' ∧ V md = V b' := by
  -- the steps of records of other types keep the view
  have hkeep : ∀ (xs : List (String × Ownership)) (b b' : Metadata), (∀ x ∈ xs, x.1 ≠ n) →
      xs.foldlM (annotateType schema height) b = .ok b' → V b' = V b :=
    fun xs b b' hxs hfold => foldlM_except_keep V (fun x hx c c' hc => hframe x.1 x.2 c c' (hxs x hx) hc) hfold
  refine ⟨fun hnone => hkeep ownership {} md (fun x hx hxn => ?_) h, fun r hr => ?_⟩
  · exact Table.find?_eq_none_iff.1 hnone (hxn ▸ Table.mem_keys_of_mem hx)
  -- split the records at the one of the type: before and after it, no record names it
  obtain ⟨pre, post, hsplit⟩ := List.append_of_mem (Table.mem_of_find? hr)
  rw [hsplit] at hn h
  simp only [Table.keys, List.map_append, List.map_cons, List.nodup_append, List.nodup_cons,
    List.mem_cons, List.mem_map] at hn
  unfold annotate at h
  rw [List.foldlM_append] at h
  obtain ⟨b, hpre, h⟩ := ok_of_bind_eq_ok h
  rw [List.foldlM_cons] at h
  obtain ⟨b', hself, hpost⟩ := ok_of_bind_eq_ok h
  exact ⟨b, b', hkeep pre {} b (fun x hx hxn => hn.2.2 x.1 ⟨x, hx, rfl⟩ n (.inl rfl) hxn) hpre,
    hself, hkeep post b' md (fun x hx hxn => hn.2.1.1 ⟨x, hx, hxn⟩) hpost⟩

/-- The owners the metadata of a schema records for a type the schema has, whose ownership
record is filed once: the record's owning service for the type, and for a member the metadata
tracks, the service that claimed it. -/
theorem annotate_owners (h : annotate schema ownership height = .ok md)
    (hn : ownership.keys.Nodup) {n : String} {r : Ownership} (hr : ownership.find? n = some r)
    (hnd : r.extensionFieldOwners.keys.Nodup) {t : NamedType} (ht : schema.type? n = some t)
    (f : String) :
    md.typeOwner n = r.owningService ∧
      md.claimOf n f = if t.tracksMember f then r.extensionFieldOwners.find? f else none := by
  -- the steps of other types keep what is recorded of this one
  have hframe : ∀ name r' b b', name ≠ n → annotateType schema height b (name, r') = .ok b' →
      (b'.typeOwner n, b'.claimOf n f) = (b.typeOwner n, b.claimOf n f) := by
    intro name r' b b' hne hb
    obtain ⟨hown, hclaim⟩ := annotateType_frame hb hne
    rw [hown, hclaim]
  obtain ⟨b, b', hb, hself, hmd⟩ := (annotate_at (fun b => (b.typeOwner n, b.claimOf n f)) hframe h hn).2 r hr
  simp only [Prod.mk.injEq] at hb hmd
  obtain ⟨hown, hclaim⟩ := annotateType_self hself ht hnd f (hb.2.trans rfl)
  exact ⟨hmd.1.trans hown, hmd.2.trans hclaim⟩

end Walk

end Federation
