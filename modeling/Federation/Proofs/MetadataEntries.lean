import Mathlib.Tactic.Lemma
import Federation.Proofs.Annotation
import Federation.Proofs.Provenance
import Federation.Proofs.Phantom
import Federation.Proofs.OrderIndependence

/-!
# The entries of the metadata

What annotation records of each type and member, as a function of the schema and of the ledger's
ownership record of the type (`annotate_typeMetadata`, `annotate_fieldMetadata`):

* a type of the ledger that the schema has gets one entry, with its record's owning service and,
  for an object, the usable field sets of the `@key` directives on the declaration it keeps, in
  order (`typeEntry`);
* a field of an object gets an entry when an extension claimed it or when its first `@provides`
  is usable; the entry records the claimant, that field set, and the first `@requires` only for a
  claimed field (`objectFieldEntry`);
* a value of an enum or a field of an input object gets an entry when an extension claimed it
  (`claimedEntry`); no other member does.

A field set is usable when the directive's first argument called `fields` is a string that reads
as a field set (`Directive.selections`): a missing argument, one of another kind or text that
does not read is skipped.

Each step of the walk writes only the entries of its own type (`annotateType_cases`), so what
the walk records of a type is what the type's own step records from nothing (`annotate_at`).
In a composition every type keeps its base declaration, so its keys are read from the directives
on the last base declaration of its name, and never from an extension
(`composed_metadata_laws`).
-/

namespace Federation

open Syntax Schema

/-! ### Reading field sets -/

/-- The field set a federation directive names, read at a height of the call stack: its first
argument called `fields`, when that is a string that reads as a field set. -/
def Syntax.Directive.selections (d : Directive) (height : Nat) : Option (List Selection) :=
  match d.arguments.find? (·.1 == "fields") with
  | some (_, .string s _) => (FieldSet.parse s (height + 1)).toOption
  | _ => none

/-- The usable field set of the first directive of a name among some, if that one has one. -/
def firstUsable (ds : List Directive) (name : String) (height : Nat) : Option (List Selection) :=
  (directivesNamed ds name).head?.bind (·.selections (height + 1))

/-- Reading a directive's field set, when no fault stops it, gives its usable field set. -/
lemma directiveSelections_ok {d : Directive} {height : Nat} {o : Option (List Selection)}
    (h : directiveSelections d height = .ok o) : o = d.selections height := by
  unfold directiveSelections at h
  unfold Directive.selections
  cases hf : d.arguments.find? (·.1 == "fields") with
  | none => rw [hf] at h; cases h; rfl
  | some a =>
    obtain ⟨name, v⟩ := a
    rw [hf] at h
    cases v with
    | string s b =>
      dsimp only at h ⊢
      cases hp : FieldSet.parse s (height + 1) with
      | ok sel => rw [hp] at h; cases h; rfl
      | error e =>
        rw [hp] at h
        cases e with
        | malformed m => cases h; rfl
        | fault f => cases h
    | _ => cases h; rfl

/-- Reading the first directive of a name, when no fault stops it, gives its usable field set. -/
lemma firstSelections_ok {ds : List Directive} {name : String} {height : Nat}
    {o : Option (List Selection)} (h : firstSelections ds name height = .ok o) :
    o = firstUsable ds name height := by
  unfold firstSelections at h
  unfold firstUsable
  cases hd : directivesNamed ds name with
  | nil => rw [hd] at h; cases h; rfl
  | cons d rest => rw [hd] at h; exact directiveSelections_ok h

/-- The entity keys of an object, when no fault stops reading them, are the usable field sets of
its `@key` directives, in order. -/
lemma entityKeys_ok {t : NamedType} {height : Nat} {keys : List (List Selection)}
    (h : entityKeys t height = .ok keys) :
    keys = (directivesNamed t.declaredDirectives "key").filterMap (·.selections (height + 1)) :=
  filterMapM_except_ok (fun _ _ _ hd => directiveSelections_ok hd) h

/-! ### The entries of a type -/

/-- The entry the metadata makes of a type the schema has: the owning service of its record
and, for an object, the usable field sets of the `@key` directives on its declaration, in
order. -/
def typeEntry (r : Ownership) (height : Nat) (t : NamedType) : TypeMetadata where
  serviceName := r.owningService
  keys := match t.shape with
    | .object _ _ => (directivesNamed t.declaredDirectives "key").filterMap (·.selections (height + 2))
    | _ => []

/-- The entry the metadata makes of a field of an object: one when an extension claimed it, with
the claimant and its first `@requires`, or when its first `@provides` is usable. -/
def objectFieldEntry (r : Ownership) (height : Nat) (name : String) (f : Field) :
    Option FieldMetadata :=
  let service := r.extensionFieldOwners.find? name
  let provides := firstUsable f.declaredDirectives "provides" (height + 1)
  let requires := if service.isSome then firstUsable f.declaredDirectives "requires" (height + 1)
    else none
  if service.isNone && provides.isNone then none
  else some { serviceName := service, requires := requires, provides := provides }

/-- The entry the metadata makes of a member of an enum or input object: one with the claimant,
when the type has the member and an extension claimed it. -/
def claimedEntry (r : Ownership) (members : List String) (name : String) : Option FieldMetadata :=
  if members.contains name then (r.extensionFieldOwners.find? name).map fun s => { serviceName := some s }
  else none

/-- The entry the metadata makes of a member of a type the schema has. -/
def memberEntry (r : Ownership) (height : Nat) (t : NamedType) (name : String) :
    Option FieldMetadata :=
  match t.shape with
  | .object _ fields => (fields.find? name).bind (objectFieldEntry r (height + 1) name)
  | .inputObject fields => claimedEntry r fields.keys name
  | .enum values => claimedEntry r values.keys name
  | _ => none

namespace Metadata

variable (m : Metadata)

@[simp] lemma fieldMetadata_setType (n n' f : String) (x : TypeMetadata) :
    (m.setType n x).fieldMetadata n' f = m.fieldMetadata n' f := rfl

lemma fields_find?_setField_of_ne {n n' : String} (hne : n ≠ n') (f : String) (x : FieldMetadata) :
    (m.setField n f x).fields.find? n' = m.fields.find? n' := by
  simp [setField, Table.find?_update, hne]

end Metadata

/-! ### Steps over members -/

section Members

variable {n : String} {r : Ownership} {height : Nat}

/-- A step over an object's fields records the field's entry, if it makes one. -/
lemma annotateObjectField_eq {md md' : Metadata} {k : String} {f : Field}
    (h : annotateObjectField n r height md (k, f) = .ok md') :
    md' = ((objectFieldEntry r height k f).map (md.setField n k)).getD md := by
  unfold annotateObjectField at h
  obtain ⟨provides, hp, h⟩ := ok_of_bind_eq_ok h
  rw [firstSelections_ok hp] at h
  unfold objectFieldEntry
  -- `@requires` is read only for a claimed field
  cases hs : r.extensionFieldOwners.find? k with
  | none =>
    cases hpr : firstUsable f.declaredDirectives "provides" (height + 1) <;>
      simp [hs, hpr] at h ⊢ <;> cases h <;> rfl
  | some s =>
    simp only [hs, Option.isSome_some, if_true] at h
    obtain ⟨requires, hr, h⟩ := ok_of_bind_eq_ok h
    rw [firstSelections_ok hr] at h
    simp at h ⊢
    cases h
    rfl

/-- Annotating an object's fields leaves the types and the members of other types alone. -/
lemma annotateObjectFields_frame {md md' : Metadata} {fields : Table Field}
    (h : annotateObjectFields md n fields r height = .ok md') :
    md'.types = md.types ∧ ∀ n', n ≠ n' → md'.fields.find? n' = md.fields.find? n' := by
  refine ⟨foldlM_except_keep (·.types) (fun e _ b b' hb => ?_) h,
    fun n' hne => foldlM_except_keep (·.fields.find? n') (fun e _ b b' hb => ?_) h⟩
  · rw [annotateObjectField_eq hb]
    cases objectFieldEntry r height e.1 e.2 <;> rfl
  · rw [annotateObjectField_eq hb]
    cases objectFieldEntry r height e.1 e.2
    · rfl
    · exact Metadata.fields_find?_setField_of_ne _ hne _ _

/-- Annotating the fields of an object, whose names are distinct, records for each field its
entry when it makes one. -/
lemma annotateObjectFields_fieldMetadata {md md' : Metadata} {fields : Table Field}
    (h : annotateObjectFields md n fields r height = .ok md') (hnd : fields.keys.Nodup) (k : String) :
    md'.fieldMetadata n k =
      ((fields.find? k).bind (objectFieldEntry r height k)).or (md.fieldMetadata n k) := by
  -- viewed at one field, a step acts only when it is the step of that field
  rw [foldlM_except_view (·.fieldMetadata n k)
    (fun o e => if e.1 = k then (objectFieldEntry r height k e.2).or o else o)
    (fun e _ b b' hb => ?_) h, Table.foldl_or _ hnd]
  rw [annotateObjectField_eq hb]
  by_cases hk : e.1 = k
  · obtain ⟨k', f⟩ := e
    dsimp only at hk
    subst hk
    cases objectFieldEntry r height k' f <;> simp [Metadata.fieldMetadata_setField]
  · cases objectFieldEntry r height e.1 e.2 <;> simp [Metadata.fieldMetadata_setField, hk]

/-- Recording the claimed members of an enum or input object leaves the types and the members
of other types alone. -/
lemma annotateClaimedMembers_frame (md : Metadata) (members : List String) :
    (annotateClaimedMembers md n members r).types = md.types ∧
      ∀ n', n ≠ n' → (annotateClaimedMembers md n members r).fields.find? n' = md.fields.find? n' := by
  unfold annotateClaimedMembers
  refine ⟨foldl_keep (fun b : Metadata => b.types) (fun b e => ?_) _ _,
    fun n' hne => foldl_keep (fun b : Metadata => b.fields.find? n') (fun b e => ?_) _ _⟩
  · obtain ⟨k', s⟩ := e
    dsimp only
    split <;> rfl
  · obtain ⟨k', s⟩ := e
    dsimp only
    split
    · exact Metadata.fields_find?_setField_of_ne _ hne _ _
    · rfl

/-- Recording the claimed members of an enum or input object records, for each member the type
has, its claimant, the record filing each member once. -/
lemma annotateClaimedMembers_fieldMetadata (md : Metadata) (members : List String)
    (hnd : r.extensionFieldOwners.keys.Nodup) (k : String) :
    (annotateClaimedMembers md n members r).fieldMetadata n k =
      (claimedEntry r members k).or (md.fieldMetadata n k) := by
  unfold annotateClaimedMembers
  rw [foldl_view (fun b : Metadata => b.fieldMetadata n k)
    (fun o e => if e.1 = k then (if members.contains k then some
      ({ serviceName := some e.2 } : FieldMetadata) else none).or o else o) (fun b e => ?_),
    Table.foldl_or _ hnd k fun s =>
      if members.contains k then some ({ serviceName := some s } : FieldMetadata) else none]
  · unfold claimedEntry
    cases members.contains k <;> cases r.extensionFieldOwners.find? k <;> rfl
  · obtain ⟨k', s⟩ := e
    dsimp only
    by_cases hk : k' = k
    · subst hk
      split <;> simp [Metadata.fieldMetadata_setField, *]
    · split <;> simp [Metadata.fieldMetadata_setField, hk]

end Members

/-! ### The step of a type -/

section Step

variable {schema : Schema} {height : Nat} {md md' : Metadata} {n : String} {r : Ownership}

/-- The step of a type the schema lacks does nothing; that of a type the schema has files the
type's entry and touches the members of no other type. -/
lemma annotateType_cases (h : annotateType schema height md (n, r) = .ok md') :
    (schema.type? n = none ∧ md' = md) ∨
      ∃ t, schema.type? n = some t ∧ md'.types = md.types.set n (typeEntry r height t) ∧
        ∀ n', n ≠ n' → md'.fields.find? n' = md.fields.find? n' := by
  unfold annotateType at h
  dsimp only at h
  split at h
  · rename_i hnone
    cases h
    exact .inl ⟨hnone, rfl⟩
  · rename_i t ht
    refine .inr ⟨t, ht, ?_⟩
    split at h
    · rename_i is fields hshape
      obtain ⟨keys, hkeys, h⟩ := ok_of_bind_eq_ok h
      obtain ⟨htypes, hframe⟩ := annotateObjectFields_frame h
      refine ⟨?_, fun n' hne => (hframe n' hne).trans rfl⟩
      rw [htypes, Metadata.setType_types, entityKeys_ok hkeys]
      simp [typeEntry, hshape]
    · rename_i values hshape
      cases h
      obtain ⟨htypes, hframe⟩ := annotateClaimedMembers_frame (r := r)
        (md.setType n { serviceName := r.owningService }) values.keys
      exact ⟨by rw [htypes]; simp [typeEntry, hshape], fun n' hne => (hframe n' hne).trans rfl⟩
    · rename_i fields hshape
      cases h
      obtain ⟨htypes, hframe⟩ := annotateClaimedMembers_frame (r := r)
        (md.setType n { serviceName := r.owningService }) fields.keys
      exact ⟨by rw [htypes]; simp [typeEntry, hshape], fun n' hne => (hframe n' hne).trans rfl⟩
    · rename_i hobj _ _
      cases h
      refine ⟨?_, fun _ _ => rfl⟩
      unfold typeEntry
      split
      · rename_i is fields hshape
        exact absurd hshape (hobj is fields)
      · rfl

/-- The step of a type records the entries of its members, when the record files each member
once and the type's members are distinct. -/
lemma annotateType_fieldMetadata (h : annotateType schema height md (n, r) = .ok md')
    (hclaims : r.extensionFieldOwners.keys.Nodup)
    (hmembers : ∀ t, schema.type? n = some t → t.memberNames.Nodup) (k : String) :
    md'.fieldMetadata n k = ((schema.type? n).bind (memberEntry r height · k)).or
      (md.fieldMetadata n k) := by
  unfold annotateType at h
  dsimp only at h
  split at h
  · rename_i hnone
    cases h
    simp [hnone]
  · rename_i t ht
    have hnd := hmembers t ht
    simp only [ht, Option.bind_some]
    unfold memberEntry
    split at h
    · rename_i is fields hshape
      obtain ⟨keys, -, h⟩ := ok_of_bind_eq_ok h
      rw [annotateObjectFields_fieldMetadata h (by simpa [NamedType.memberNames, hshape] using hnd),
        hshape]
      rfl
    · rename_i values hshape
      cases h
      rw [annotateClaimedMembers_fieldMetadata _ _ hclaims, hshape]
      rfl
    · rename_i fields hshape
      cases h
      rw [annotateClaimedMembers_fieldMetadata _ _ hclaims, hshape]
      rfl
    · rename_i hobj henum hinput
      cases h
      split
      · rename_i is fields hshape; exact absurd hshape (hobj is fields)
      · rename_i fields hshape; exact absurd hshape (hinput fields)
      · rename_i values hshape; exact absurd hshape (henum values)
      · rfl

end Step

/-! ### The walk over the ledger -/

section Walk

variable {schema : Schema} {ownership : Table Ownership} {height : Nat} {md : Metadata}

/-- Annotation files each type at most once. -/
lemma annotate_types_nodup (h : annotate schema ownership height = .ok md) : md.types.keys.Nodup := by
  refine foldlM_except_inv (fun b : Metadata => b.types.keys.Nodup) (fun x _ b b' hb hx => ?_)
    (by simp) h
  rcases annotateType_cases hx with ⟨-, rfl⟩ | ⟨t, -, htypes, -⟩
  · exact hb
  · rw [htypes]
    exact Table.nodup_keys_set hb _ _

/-- The entry of a type: its entry from its record, when the ledger has a record of it and the
schema has it. -/
lemma annotate_typeMetadata (h : annotate schema ownership height = .ok md)
    (hn : ownership.keys.Nodup) (T : String) :
    md.typeMetadata T = (ownership.find? T).bind fun r => (schema.type? T).map (typeEntry r height) := by
  have hframe : ∀ name r b b', name ≠ T → annotateType schema height b (name, r) = .ok b' →
      b'.types.find? T = b.types.find? T := by
    intro name r b b' hne hb
    rcases annotateType_cases hb with ⟨-, rfl⟩ | ⟨t, -, htypes, -⟩
    · rfl
    · rw [htypes, Table.find?_set_of_ne _ _ hne]
  obtain ⟨hnone, hsome⟩ := annotate_at (·.types.find? T) hframe h hn
  unfold Metadata.typeMetadata
  cases hr : ownership.find? T with
  | none => exact hnone hr
  | some r =>
    obtain ⟨b, b', hb, hself, hmd⟩ := hsome r hr
    rw [hmd]
    rcases annotateType_cases hself with ⟨hT, rfl⟩ | ⟨t, ht, htypes, -⟩
    · simpa [hT] using hb
    · simp [htypes, ht]

/-- The entry of a member: its entry from its type's record, when the ledger has a record of the
type and the schema has the type, provided records file each member once and the types of the
schema have distinct members. -/
lemma annotate_fieldMetadata (h : annotate schema ownership height = .ok md)
    (hn : ownership.keys.Nodup)
    (hclaims : ∀ T r, ownership.find? T = some r → r.extensionFieldOwners.keys.Nodup)
    (hmembers : ∀ T t, schema.type? T = some t → t.memberNames.Nodup) (T k : String) :
    md.fieldMetadata T k =
      (ownership.find? T).bind fun r => (schema.type? T).bind (memberEntry r height · k) := by
  have hframe : ∀ name r b b', name ≠ T → annotateType schema height b (name, r) = .ok b' →
      b'.fieldMetadata T k = b.fieldMetadata T k := by
    intro name r b b' hne hb
    rcases annotateType_cases hb with ⟨-, rfl⟩ | ⟨t, -, -, hfields⟩
    · rfl
    · unfold Metadata.fieldMetadata
      rw [hfields T hne]
  obtain ⟨hnone, hsome⟩ := annotate_at (·.fieldMetadata T k) hframe h hn
  cases hr : ownership.find? T with
  | none => exact hnone hr
  | some r =>
    obtain ⟨b, b', hb, hself, hmd⟩ := hsome r hr
    rw [hmd, annotateType_fieldMetadata hself (hclaims T r hr) (hmembers T), hb]
    exact Option.or_none

/-- Annotation records members only of types it files. -/
lemma annotate_fields_keys (h : annotate schema ownership height = .ok md)
    (hn : ownership.keys.Nodup) {T : String} (hT : T ∈ md.fields.keys) : T ∈ md.types.keys := by
  have hframe : ∀ name r b b', name ≠ T → annotateType schema height b (name, r) = .ok b' →
      (b'.types.find? T, b'.fields.find? T) = (b.types.find? T, b.fields.find? T) := by
    intro name r b b' hne hb
    rcases annotateType_cases hb with ⟨-, rfl⟩ | ⟨t, -, htypes, hfields⟩
    · rfl
    · rw [htypes, Table.find?_set_of_ne _ _ hne, hfields T hne]
  obtain ⟨hnone, hsome⟩ := annotate_at (fun b => (b.types.find? T, b.fields.find? T)) hframe h hn
  have hfield := Table.isSome_find?_iff.2 hT
  rw [← Table.isSome_find?_iff]
  cases hr : ownership.find? T with
  | none =>
    have hfields : md.fields.find? T = none := by simpa using congrArg Prod.snd (hnone hr)
    rw [hfields] at hfield
    cases hfield
  | some r =>
    obtain ⟨b, b', hb, hself, hmd⟩ := hsome r hr
    simp only [Prod.mk.injEq] at hb hmd
    -- the type's own step files it, or else records nothing of it
    rcases annotateType_cases hself with ⟨-, rfl⟩ | ⟨t, -, htypes, -⟩
    · rw [hmd.2, hb.2] at hfield
      simp at hfield
    · rw [hmd.1, htypes, Table.find?_set_self]
      rfl

end Walk

/-! ### Reading entries -/

section Entries

variable {r : Ownership} {height : Nat}

/-- The keys of a type's entry: for an object, the usable field sets of the `@key` directives on
its declaration; for any other kind, none. -/
lemma typeEntry_keys (t : NamedType) :
    (typeEntry r height t).keys = if t.kind = .object then
      (directivesNamed t.declaredDirectives "key").filterMap (·.selections (height + 2)) else [] := by
  unfold typeEntry NamedType.kind
  cases t.shape <;> simp [TypeShape.kind]

/-- Only a member the metadata tracks gets an entry. -/
lemma tracksMember_of_memberEntry {t : NamedType} {k : String} {x : FieldMetadata}
    (h : memberEntry r height t k = some x) : t.tracksMember k = true := by
  unfold memberEntry at h
  unfold NamedType.tracksMember
  split at h
  · rename_i is fields hshape
    obtain ⟨f, hf, -⟩ := Option.bind_eq_some_iff.1 h
    simpa [hshape] using Table.isSome_find?_iff.1 (by rw [hf]; rfl)
  · rename_i fields hshape
    unfold claimedEntry at h
    split at h
    · rename_i hk
      simpa [hshape] using hk
    · cases h
  · rename_i values hshape
    unfold claimedEntry at h
    split at h
    · rename_i hk
      simpa [hshape] using hk
    · cases h
  · cases h

/-- A field of an object gets an entry exactly when an extension claimed it or its first
`@provides` is usable. -/
lemma objectFieldEntry_isSome (k : String) (f : Field) :
    (objectFieldEntry r height k f).isSome ↔ (r.extensionFieldOwners.find? k).isSome ∨
      (firstUsable f.declaredDirectives "provides" (height + 1)).isSome := by
  unfold objectFieldEntry
  cases r.extensionFieldOwners.find? k <;>
    cases firstUsable f.declaredDirectives "provides" (height + 1) <;> simp

/-- The entry of a field of an object records its claimant and its first usable `@provides`,
and its first usable `@requires` only when it was claimed. -/
lemma objectFieldEntry_eq_some {k : String} {f : Field} {x : FieldMetadata}
    (h : objectFieldEntry r height k f = some x) :
    x.serviceName = r.extensionFieldOwners.find? k ∧
      x.provides = firstUsable f.declaredDirectives "provides" (height + 1) ∧
      x.requires = if (r.extensionFieldOwners.find? k).isSome then
        firstUsable f.declaredDirectives "requires" (height + 1) else none := by
  unfold objectFieldEntry at h
  dsimp only at h
  split at h
  · cases h
  · cases h
    exact ⟨rfl, rfl, rfl⟩

end Entries

/-! ### Compositions -/

/-- The directives written on the last base declaration of a type name; none for a name that is
only extended. -/
def baseDirectives (defs : List (String × Definition)) (name : String) : List Directive :=
  ((baseDeclarations defs name).getLast?.map (·.2.directives)).getD []

/-- A type keeping the base declaration of its name carries the directives written on the last
base declaration: a phantom base carries none. -/
lemma declaredDirectives_of_node {defs : List (String × Definition)} {T : String} {t : NamedType}
    (h : t.node = baseDeclaration defs T) : t.declaredDirectives = baseDirectives defs T := by
  unfold NamedType.declaredDirectives baseDirectives
  rw [h, baseDeclaration]
  cases (baseDeclarations defs T).getLast? with
  | some e => rfl
  | none => cases (extensionDeclarations defs T).head? <;> rfl

/-- A name some definition declares or extends has a base declaration. -/
lemma baseDeclaration_isSome_of_declared {defs : List (String × Definition)} {T : String}
    (h : T ∈ declaredNames defs) : (baseDeclaration defs T).isSome := by
  unfold baseDeclaration
  cases hb : (baseDeclarations defs T).getLast? with
  | some e => rfl
  | none =>
    have hnil := List.getLast?_eq_none_iff.1 hb
    obtain ⟨⟨s, d⟩, he, hname⟩ := List.mem_filterMap.1 h
    cases d with
    | type d =>
      have hmem : (s, d.stripExternal) ∈ baseDeclarations defs T :=
        List.mem_filterMap.2 ⟨_, he, by simpa using hname⟩
      rw [hnil] at hmem
      cases hmem
    | typeExtension d =>
      have hmem : (s, d.stripExternal) ∈ extensionDeclarations defs T :=
        List.mem_filterMap.2 ⟨_, he, by simpa using hname⟩
      cases hx : extensionDeclarations defs T with
      | nil => rw [hx] at hmem; cases hmem
      | cons x xs => rfl
    | _ => cases hname

/-- The ownership records of a composition are those of the reference ledger of the services'
definitions: phantom synthesis adds none. -/
lemma synthesize_ownership_reference (services : List Service) :
    (Ledger.build services).synthesize.ownership =
      Table.tabulate (declaredNames (serviceDefinitions services))
        (Ownership.reference (serviceDefinitions services)) := by
  rw [Ledger.build_eq, Ledger.synthesize_ownership_eq, Ledger.ofDefinitions_eq_reference]
  rfl

/-- A reference record files each claimed member once. -/
lemma Ownership.reference_owners_nodup (defs : List (String × Definition)) (T : String) :
    (Ownership.reference defs T).extensionFieldOwners.keys.Nodup :=
  Table.nodup_keys_setAll (by simp) _

section Composed

variable {services : List Service} {height : Nat} {c : Composition}

/-- A type of a composed schema that is not built in keeps the base declaration of its name. -/
lemma composed_node (h : compose services height = .ok c) {T : String}
    (hT : isStandardName T = false) {t : NamedType} (ht : c.schema.type? T = some t) :
    t.node = baseDeclaration (serviceDefinitions services) T := by
  obtain ⟨errors, hs, -⟩ := compose_ok h
  rw [Ledger.build_eq] at hs
  exact assembled_node hs hT ht

/-- The members of a type of a composed schema are distinct. -/
lemma composed_memberNames_nodup (h : compose services height = .ok c) {T : String}
    {t : NamedType} (ht : c.schema.type? T = some t) : t.memberNames.Nodup := by
  rcases composed_type?_cases h ht with ⟨-, hstd⟩ | ⟨-, hshape⟩
  · -- the built-in types list their members once each
    have hall : standardTypes.all (fun t => decide t.memberNames.Nodup) = true := by decide +kernel
    simpa using List.all_eq_true.1 hall t (List.mem_of_find?_eq_some hstd)
  · obtain ⟨b, -, hp⟩ := composedShape_eq_some hshape
    rw [NamedType.memberNames_eq_keys, (Prod.mk.inj hp).2]
    exact Table.nodup_keys_setAll (by simp) _

end Composed

/-! ### The laws of the metadata -/

/-- The laws of the metadata annotation makes, read at a height of the call stack, of a schema
for the ownership records of a ledger built from some definitions. -/
structure AnnotationLaws (defs : List (String × Definition)) (ownership : Table Ownership)
    (schema : Schema) (height : Nat) (md : Metadata) : Prop where
  /-- The ledger files a record under each name the definitions declare or extend, once. -/
  ownership_keys : ownership.keys = (declaredNames defs).eraseDups
  /-- A type has at most one entry. -/
  types_nodup : md.types.keys.Nodup
  /-- The types with an entry are the declared or extended names the schema has a type for. -/
  mem_types : ∀ T, T ∈ md.types.keys ↔ T ∈ declaredNames defs ∧ (schema.type? T).isSome
  /-- A declared or extended name lacks a type only when it starts with two underscores. -/
  dropped : ∀ T ∈ declaredNames defs, schema.type? T = none → T.startsWith "__" = true
  /-- The entry of a type names the owning service of its record. -/
  owner : ∀ T r x, ownership.find? T = some r → md.typeMetadata T = some x →
    x.serviceName = r.owningService
  /-- A type that is not built in has an entry; an object's keys are the usable field sets of the
  `@key` directives on the last base declaration of its name, in order, so none for a name that
  is only extended; any other type has none. -/
  keys : ∀ T t, schema.type? T = some t → isStandardName T = false →
    ∃ x, md.typeMetadata T = some x ∧ x.keys = if t.kind = .object then
      (directivesNamed (baseDirectives defs T) "key").filterMap (·.selections (height + 2)) else []
  /-- Members have entries only under types that have one. -/
  fields_keys : ∀ T ∈ md.fields.keys, T ∈ md.types.keys
  /-- Only fields of objects and input objects and values of enums of the schema have entries. -/
  tracked : ∀ T k x, md.fieldMetadata T k = some x →
    ∃ t, schema.type? T = some t ∧ t.tracksMember k = true
  /-- A field of an object has an entry exactly when an extension claimed it or its first
  `@provides` is usable; the entry records the claimant, that field set, and the first usable
  `@requires` only for a claimed field. -/
  objectField : ∀ T t r is fields k f, schema.type? T = some t → t.shape = .object is fields →
    ownership.find? T = some r → fields.find? k = some f →
    ((md.fieldMetadata T k).isSome ↔ (r.extensionFieldOwners.find? k).isSome ∨
      (firstUsable f.declaredDirectives "provides" (height + 2)).isSome) ∧
    ∀ x, md.fieldMetadata T k = some x → x.serviceName = r.extensionFieldOwners.find? k ∧
      x.provides = firstUsable f.declaredDirectives "provides" (height + 2) ∧
      x.requires = if (r.extensionFieldOwners.find? k).isSome then
        firstUsable f.declaredDirectives "requires" (height + 2) else none
  /-- A member of an enum or input object has an entry, naming its claimant, exactly when the
  type has it and an extension claimed it. -/
  claimedMember : ∀ T t r k, schema.type? T = some t → (t.kind = .enum ∨ t.kind = .inputObject) →
    ownership.find? T = some r →
    md.fieldMetadata T k = if k ∈ t.memberNames then
      (r.extensionFieldOwners.find? k).map fun s => { serviceName := some s } else none

/-- The metadata of a composition: one entry for each type a service declares or extends that
the composed schema has, owned by its record's owning service, with the keys of the last base
declaration; and entries only for the claimed or providing fields of objects and the claimed
members of enums and input objects. -/
theorem composed_metadata_laws {services : List Service} {height : Nat} {c : Composition}
    (h : compose services height = .ok c) :
    AnnotationLaws (serviceDefinitions services) (Ledger.build services).synthesize.ownership
      c.schema (height + 1) c.metadata := by
  obtain ⟨-, -, hann⟩ := compose_ok h
  have hown := synthesize_ownership_reference services
  have hfind : ∀ T, (Ledger.build services).synthesize.ownership.find? T =
      if T ∈ declaredNames (serviceDefinitions services) then
        some (Ownership.reference (serviceDefinitions services) T) else none := fun T => by
    rw [hown, Table.find?_tabulate]
  have hn : (Ledger.build services).synthesize.ownership.keys.Nodup := by
    rw [hown, Table.keys_tabulate]
    exact Table.nodup_eraseDups _
  have hclaims : ∀ T r, (Ledger.build services).synthesize.ownership.find? T = some r →
      r.extensionFieldOwners.keys.Nodup := fun T r hr => by
    rw [hfind] at hr
    split at hr
    · cases hr
      exact Ownership.reference_owners_nodup _ T
    · cases hr
  have htypes := annotate_typeMetadata hann hn
  have hfields := annotate_fieldMetadata hann hn hclaims fun _ _ ht => composed_memberNames_nodup h ht
  refine ⟨by rw [hown, Table.keys_tabulate], annotate_types_nodup hann, fun T => ?_,
    fun T hT hnone => ?_, fun T r x hr hx => ?_, fun T t ht hT => ?_,
    fun T hT => annotate_fields_keys hann hn hT, fun T k x hx => ?_,
    fun T t r is fields k f ht hshape hr hf => ?_, fun T t r k ht hkind hr => ?_⟩
  · -- a type has an entry when it has a record and a type
    rw [← Table.isSome_find?_iff]
    change (Metadata.typeMetadata _ T).isSome ↔ _
    rw [htypes, hfind]
    split <;> simp_all
  · -- a declared name that does not start with two underscores has a type
    by_contra hstart
    have hsome := composed_type?_isSome h (by simpa using hstart)
      (baseDeclaration_isSome_of_declared hT)
    rw [hnone] at hsome
    cases hsome
  · rw [htypes, hr] at hx
    obtain ⟨t, -, rfl⟩ := Option.map_eq_some_iff.1 hx
    rfl
  · obtain ⟨r, hr, -⟩ := composed_ownership h hT ht
    refine ⟨typeEntry r (height + 1) t, by rw [htypes, hr, ht]; rfl, ?_⟩
    rw [typeEntry_keys, declaredDirectives_of_node (composed_node h hT ht)]
  · rw [hfields] at hx
    obtain ⟨r, -, hx⟩ := Option.bind_eq_some_iff.1 hx
    obtain ⟨t, ht, hx⟩ := Option.bind_eq_some_iff.1 hx
    exact ⟨t, ht, tracksMember_of_memberEntry hx⟩
  · -- the entry of a field is the one its object's step makes of it
    have hentry : c.metadata.fieldMetadata T k = objectFieldEntry r (height + 1 + 1) k f := by
      rw [hfields, hr, ht]
      simp [memberEntry, hshape, hf]
    refine ⟨by rw [hentry]; exact objectFieldEntry_isSome k f, fun x hx => ?_⟩
    rw [hentry] at hx
    exact objectFieldEntry_eq_some hx
  · rw [hfields, hr, ht]
    unfold memberEntry claimedEntry NamedType.memberNames
    unfold NamedType.kind at hkind
    split <;> simp_all [TypeShape.kind]

/-- Service `A` declares the entity `Product` with three `@key` directives, of which only the
first names a usable field set: the second names a number, the third text that does not read.
Service `B` extends `Product` with a `@key` of its own. -/
def keyedProduct : List Service :=
  [⟨"A", ⟨[.type ⟨none, "Product",
      [⟨"key", [("fields", .string "id" false)], none⟩, ⟨"key", [("fields", .int "1")], none⟩,
       ⟨"key", [("fields", .string "\x7b" false)], none⟩],
      .object [] [⟨none, "id", [], .named "ID", []⟩]⟩]⟩⟩,
   ⟨"B", ⟨[.typeExtension ⟨none, "Product", [⟨"key", [("fields", .string "price" false)], none⟩],
      .object [] [⟨none, "price", [], .named "Int", []⟩]⟩]⟩⟩]

/-- The composition of `keyedProduct` keeps one key of `Product`, and its metadata obeys the
laws. -/
theorem keyed_product_laws :
    ∃ c, compose keyedProduct 0 = .ok c ∧
      (c.metadata.typeMetadata "Product").map (·.keys.length) = some 1 ∧
      AnnotationLaws (serviceDefinitions keyedProduct) (Ledger.build keyedProduct).synthesize.ownership
        c.schema (0 + 1) c.metadata := by
  obtain ⟨c, hc, hp⟩ := exists_ok_of_any (x := compose keyedProduct 0)
    (p := fun c : Composition => (c.metadata.typeMetadata "Product").map (·.keys.length) == some 1)
    (by decide +kernel)
  exact ⟨c, hc, by simpa using hp, composed_metadata_laws hc⟩

end Federation
