import Mathlib.Tactic.Lemma
import Mathlib.Data.List.Induction
import Federation.Ledger
import Federation.Proofs.Table

/-!
# Ledgers, read declaratively

What the ledger of a list of services holds, stated over the definitions of the services in
order, each paired with the name of its service (`serviceDefinitions`):

* the definitions of a type name are its base declarations, in order, without their fields
  marked `@external`; its extensions likewise;
* the owner of a type is the service of its last base declaration, and the owner of a member
  the service of the last extension that claims it;
* after phantom bases are added, every type that is declared or extended has a base, whose last
  declaration is the type's last base declaration or, for a type that is only extended, an empty
  declaration of its first extension's kind (`baseDeclaration`).

The proofs go by induction on the definitions from the right: the last definition is the only
one that can change what the ledger says of a name.
-/

namespace Federation

open Syntax

/-- The definitions of services, in order, each with the name of its service. -/
def serviceDefinitions (services : List Service) : List (String × Definition) :=
  services.flatMap fun s => s.document.definitions.map (s.name, ·)

/-- The base declarations of a type name, in order, with their services and without the fields
marked `@external`. -/
def baseDeclarations (defs : List (String × Definition)) (name : String) :
    List (String × TypeDeclaration) :=
  defs.filterMap fun e => match e.2 with
    | .type d => if d.name = name then some (e.1, d.stripExternal) else none
    | _ => none

/-- The extensions of a type name, in order, with their services and without the fields marked
`@external`. -/
def extensionDeclarations (defs : List (String × Definition)) (name : String) :
    List (String × TypeDeclaration) :=
  defs.filterMap fun e => match e.2 with
    | .typeExtension d => if d.name = name then some (e.1, d.stripExternal) else none
    | _ => none

/-- The services whose extensions of a type claim a member, in order. -/
def claimants (defs : List (String × Definition)) (name member : String) : List String :=
  ((extensionDeclarations defs name).filter fun e => e.2.claimedMembers.contains member).map (·.1)

/-- The declaration a type's base is made of: its last base declaration, or, for a type that is
only extended, the empty declaration of its first extension's kind. -/
def baseDeclaration (defs : List (String × Definition)) (name : String) : Option TypeDeclaration :=
  match (baseDeclarations defs name).getLast? with
  | some e => some e.2
  | none => (extensionDeclarations defs name).head?.map fun e => Ledger.phantom name e.2.kind

namespace Syntax.TypeDeclaration

@[simp] lemma stripExternal_name (d : TypeDeclaration) : d.stripExternal.name = d.name := by
  unfold stripExternal; split <;> rfl

@[simp] lemma stripExternal_kind (d : TypeDeclaration) : d.stripExternal.kind = d.kind := by
  unfold stripExternal; split <;> simp_all [kind, TypeBody.kind]

end Syntax.TypeDeclaration

@[simp] lemma TypeBody.kind_empty (k : TypeKind) : (TypeBody.empty k).kind = k := by
  cases k <;> rfl

@[simp] lemma Ledger.phantom_name (n : String) (k : TypeKind) : (Ledger.phantom n k).name = n := rfl

@[simp] lemma Ledger.phantom_kind (n : String) (k : TypeKind) : (Ledger.phantom n k).kind = k :=
  TypeBody.kind_empty k

section Declarations

variable (defs : List (String × Definition)) (name : String)

@[simp] lemma baseDeclarations_nil : baseDeclarations [] name = [] := rfl

@[simp] lemma extensionDeclarations_nil : extensionDeclarations [] name = [] := rfl

lemma baseDeclarations_append_type (s : String) (d : TypeDeclaration) :
    baseDeclarations (defs ++ [(s, .type d)]) name =
      baseDeclarations defs name ++ if d.name = name then [(s, d.stripExternal)] else [] := by
  simp only [baseDeclarations, List.filterMap_append, List.filterMap_cons, List.filterMap_nil]
  split <;> simp_all

lemma extensionDeclarations_append_extension (s : String) (d : TypeDeclaration) :
    extensionDeclarations (defs ++ [(s, .typeExtension d)]) name =
      extensionDeclarations defs name ++ if d.name = name then [(s, d.stripExternal)] else [] := by
  simp only [extensionDeclarations, List.filterMap_append, List.filterMap_cons, List.filterMap_nil]
  split <;> simp_all

lemma baseDeclarations_append_of_not_type (e : String × Definition) (he : ∀ d, e.2 ≠ .type d) :
    baseDeclarations (defs ++ [e]) name = baseDeclarations defs name := by
  obtain ⟨s, x⟩ := e
  cases x <;> simp_all [baseDeclarations]

lemma extensionDeclarations_append_of_not_extension (e : String × Definition)
    (he : ∀ d, e.2 ≠ .typeExtension d) :
    extensionDeclarations (defs ++ [e]) name = extensionDeclarations defs name := by
  obtain ⟨s, x⟩ := e
  cases x <;> simp_all [extensionDeclarations]

/-- A base declaration of a name is a type definition of that name by some service, without its
fields marked `@external`. -/
lemma exists_of_mem_baseDeclarations {e : String × TypeDeclaration}
    (h : e ∈ baseDeclarations defs name) :
    ∃ x ∈ defs, ∃ d, x.2 = .type d ∧ d.name = name ∧ e.2 = d.stripExternal := by
  simp only [baseDeclarations, List.mem_filterMap] at h
  obtain ⟨⟨s, x⟩, hx, he⟩ := h
  cases x <;> simp at he
  obtain ⟨hn, rfl⟩ := he
  exact ⟨_, hx, _, rfl, hn, rfl⟩

/-- An extension of a name is a type extension of that name by some service, without its fields
marked `@external`. -/
lemma exists_of_mem_extensionDeclarations {e : String × TypeDeclaration}
    (h : e ∈ extensionDeclarations defs name) :
    ∃ x ∈ defs, ∃ d, x.2 = .typeExtension d ∧ d.name = name ∧ e.2 = d.stripExternal := by
  simp only [extensionDeclarations, List.mem_filterMap] at h
  obtain ⟨⟨s, x⟩, hx, he⟩ := h
  cases x <;> simp at he
  obtain ⟨hn, rfl⟩ := he
  exact ⟨_, hx, _, rfl, hn, rfl⟩

/-- The declaration a type's base is made of is one of its base declarations, or the phantom of
its first extension's kind. -/
lemma baseDeclaration_cases {b : TypeDeclaration} (h : baseDeclaration defs name = some b) :
    (∃ e ∈ baseDeclarations defs name, b = e.2) ∨ ∃ k, b = Ledger.phantom name k := by
  unfold baseDeclaration at h
  split at h
  · rename_i e he
    cases h
    exact .inl ⟨e, List.mem_of_getLast? he, rfl⟩
  · obtain ⟨e, -, rfl⟩ := Option.map_eq_some_iff.1 h
    exact .inr ⟨_, rfl⟩

/-- Every base declaration of a name bears that name. -/
lemma name_of_mem_baseDeclarations {e : String × TypeDeclaration}
    (h : e ∈ baseDeclarations defs name) : e.2.name = name := by
  obtain ⟨-, -, d, -, hn, he⟩ := exists_of_mem_baseDeclarations defs name h
  rw [he, TypeDeclaration.stripExternal_name, hn]

/-- Every extension of a name bears that name. -/
lemma name_of_mem_extensionDeclarations {e : String × TypeDeclaration}
    (h : e ∈ extensionDeclarations defs name) : e.2.name = name := by
  obtain ⟨-, -, d, -, hn, he⟩ := exists_of_mem_extensionDeclarations defs name h
  rw [he, TypeDeclaration.stripExternal_name, hn]

end Declarations

lemma claimants_append_extension (defs : List (String × Definition)) (name member s : String)
    (d : TypeDeclaration) :
    claimants (defs ++ [(s, .typeExtension d)]) name member =
      claimants defs name member ++
        if d.name = name ∧ member ∈ d.stripExternal.claimedMembers then [s] else [] := by
  unfold claimants
  rw [extensionDeclarations_append_extension]
  by_cases h : d.name = name <;> simp [h]
  split <;> simp_all

lemma claimants_append_of_not_extension (defs : List (String × Definition)) (name member : String)
    (e : String × Definition) (he : ∀ d, e.2 ≠ .typeExtension d) :
    claimants (defs ++ [e]) name member = claimants defs name member := by
  simp only [claimants, extensionDeclarations_append_of_not_extension defs name e he]

namespace Ownership

variable (s : String) (r : Ownership)

/-- Claiming members leaves the owner of the type alone. -/
@[simp] lemma claimAll_owningService (ms : List String) :
    (ms.foldl (·.claim s) r).owningService = r.owningService := by
  induction ms generalizing r with
  | nil => rfl
  | cons m ms ih => exact ih _

/-- After a service claims members, it owns each of them. -/
lemma claimAll_find? (ms : List String) (m : String) :
    (ms.foldl (·.claim s) r).extensionFieldOwners.find? m =
      if m ∈ ms then some s else r.extensionFieldOwners.find? m := by
  induction ms generalizing r with
  | nil => simp
  | cons m' ms ih =>
    rw [List.foldl_cons, ih]
    by_cases h : m ∈ ms
    · simp [h]
    · by_cases h' : m' = m
      · subst h'; simp [claim]
      · simp [h, claim, Table.find?_set_of_ne _ _ h', Ne.symm h']

lemma claimAll_nodup (ms : List String) (h : r.extensionFieldOwners.keys.Nodup) :
    (ms.foldl (·.claim s) r).extensionFieldOwners.keys.Nodup := by
  induction ms generalizing r with
  | nil => exact h
  | cons m ms ih => exact ih _ (Table.nodup_keys_set h _ _)

end Ownership

namespace Ledger

/-- The ledger of definitions recorded one after another. -/
def ofDefinitions (defs : List (String × Definition)) : Ledger :=
  defs.foldl (fun l e => l.record e.1 e.2) {}

/-- Building a ledger records the definitions of all services in order. -/
lemma build_eq (services : List Service) : build services = ofDefinitions (serviceDefinitions services) := by
  simp [build, ofDefinitions, serviceDefinitions, List.foldl_flatMap, List.foldl_map]

lemma ofDefinitions_append (defs : List (String × Definition)) (e : String × Definition) :
    ofDefinitions (defs ++ [e]) = (ofDefinitions defs).record e.1 e.2 := by
  simp [ofDefinitions]

variable (l : Ledger) (s : String) (d : TypeDeclaration)

@[simp] lemma record_type : l.record s (.type d) = l.recordDefinition s d.stripExternal := rfl

@[simp] lemma record_typeExtension : l.record s (.typeExtension d) = l.recordExtension s d.stripExternal :=
  rfl

/-- Definitions other than type definitions and extensions leave the ledger alone. -/
lemma record_eq_self {x : Definition} (h₁ : ∀ d, x ≠ .type d) (h₂ : ∀ d, x ≠ .typeExtension d) :
    l.record s x = l := by
  cases x <;> simp_all [record]

@[simp] lemma recordDefinition_definitions :
    (l.recordDefinition s d).definitions = l.definitions.update d.name [] (· ++ [d]) := rfl

@[simp] lemma recordDefinition_extensions : (l.recordDefinition s d).extensions = l.extensions := rfl

@[simp] lemma recordDefinition_ownership :
    (l.recordDefinition s d).ownership = l.ownership.update d.name {} (·.declareBase s) := rfl

@[simp] lemma recordExtension_definitions : (l.recordExtension s d).definitions = l.definitions := rfl

@[simp] lemma recordExtension_extensions :
    (l.recordExtension s d).extensions = l.extensions.update d.name [] (· ++ [d]) := rfl

@[simp] lemma recordExtension_ownership :
    (l.recordExtension s d).ownership =
      l.ownership.update d.name {} fun r => d.claimedMembers.foldl (·.claim s) r := rfl

end Ledger

namespace Ledger

variable (defs : List (String × Definition)) (name : String)

/-- The definitions a ledger keeps of a name are the name's base declarations, in order. -/
lemma definitions_find? :
    (ofDefinitions defs).definitions.find? name =
      if baseDeclarations defs name = [] then none
      else some ((baseDeclarations defs name).map (·.2)) := by
  induction defs using List.reverseRecOn with
  | nil => rfl
  | append_singleton defs e ih =>
    obtain ⟨s, x⟩ := e
    rw [ofDefinitions_append]
    cases x with
    | type d =>
      rw [baseDeclarations_append_type]
      simp only [record_type, recordDefinition_definitions, Table.find?_update,
        TypeDeclaration.stripExternal_name, ih]
      by_cases h : d.name = name
      · subst h
        by_cases hb : baseDeclarations defs d.name = [] <;> simp [hb, ih]
      · simp [h]
    | typeExtension d =>
      rw [baseDeclarations_append_of_not_type _ _ _ (by simp)]
      simpa using ih
    | _ =>
      rw [record_eq_self _ _ (by simp) (by simp), baseDeclarations_append_of_not_type _ _ _ (by simp)]
      exact ih

/-- The extensions a ledger keeps of a name are the name's extensions, in order. -/
lemma extensions_find? :
    (ofDefinitions defs).extensions.find? name =
      if extensionDeclarations defs name = [] then none
      else some ((extensionDeclarations defs name).map (·.2)) := by
  induction defs using List.reverseRecOn with
  | nil => rfl
  | append_singleton defs e ih =>
    obtain ⟨s, x⟩ := e
    rw [ofDefinitions_append]
    cases x with
    | typeExtension d =>
      rw [extensionDeclarations_append_extension]
      simp only [record_typeExtension, recordExtension_extensions, Table.find?_update,
        TypeDeclaration.stripExternal_name, ih]
      by_cases h : d.name = name
      · subst h
        by_cases hb : extensionDeclarations defs d.name = [] <;> simp [hb, ih]
      · simp [h]
    | type d =>
      rw [extensionDeclarations_append_of_not_extension _ _ _ (by simp)]
      simpa using ih
    | _ =>
      rw [record_eq_self _ _ (by simp) (by simp),
        extensionDeclarations_append_of_not_extension _ _ _ (by simp)]
      exact ih

/-- Each name has one entry in each table of a ledger. -/
lemma nodup_keys :
    (ofDefinitions defs).definitions.keys.Nodup ∧ (ofDefinitions defs).extensions.keys.Nodup ∧
      (ofDefinitions defs).ownership.keys.Nodup := by
  induction defs using List.reverseRecOn with
  | nil => simp [ofDefinitions]
  | append_singleton defs e ih =>
    obtain ⟨s, x⟩ := e
    obtain ⟨h₁, h₂, h₃⟩ := ih
    rw [ofDefinitions_append]
    cases x with
    | type d => exact ⟨Table.nodup_keys_set h₁ _ _, h₂, Table.nodup_keys_set h₃ _ _⟩
    | typeExtension d => exact ⟨h₁, Table.nodup_keys_set h₂ _ _, Table.nodup_keys_set h₃ _ _⟩
    | _ => rw [record_eq_self _ _ (by simp) (by simp)]; exact ⟨h₁, h₂, h₃⟩

/-- A name has an ownership record exactly when it is declared or extended. -/
lemma mem_ownership_keys :
    name ∈ (ofDefinitions defs).ownership.keys ↔
      baseDeclarations defs name ≠ [] ∨ extensionDeclarations defs name ≠ [] := by
  induction defs using List.reverseRecOn with
  | nil => simp [ofDefinitions]
  | append_singleton defs e ih =>
    obtain ⟨s, x⟩ := e
    rw [ofDefinitions_append]
    cases x with
    | type d =>
      rw [baseDeclarations_append_type, extensionDeclarations_append_of_not_extension _ _ _ (by simp)]
      by_cases h : d.name = name
      · subst h; simp
      · simp [h, Ne.symm h, ih]
    | typeExtension d =>
      rw [extensionDeclarations_append_extension, baseDeclarations_append_of_not_type _ _ _ (by simp)]
      by_cases h : d.name = name
      · subst h; simp
      · simp [h, Ne.symm h, ih]
    | _ =>
      rw [record_eq_self _ _ (by simp) (by simp), baseDeclarations_append_of_not_type _ _ _ (by simp),
        extensionDeclarations_append_of_not_extension _ _ _ (by simp)]
      exact ih

end Ledger

/-- An ownership record agrees with the definitions of a type name: the owner is the service of
the last base declaration, the owner of each member the last service whose extension claims it,
and each member is owned once. -/
structure Ownership.Agrees (r : Ownership) (defs : List (String × Definition)) (name : String) :
    Prop where
  owner : r.owningService = ((baseDeclarations defs name).getLast?).map (·.1)
  claims : ∀ m, r.extensionFieldOwners.find? m = (claimants defs name m).getLast?
  nodup : r.extensionFieldOwners.keys.Nodup

namespace Ledger

variable (defs : List (String × Definition)) (name : String)

/-- The ownership record a ledger keeps of a name agrees with the name's declarations; a name
without a record is owned by nobody. -/
lemma ownership_agrees :
    (((ofDefinitions defs).ownership.find? name).getD {}).Agrees defs name := by
  induction defs using List.reverseRecOn with
  | nil => exact ⟨rfl, fun _ => rfl, List.nodup_nil⟩
  | append_singleton defs e ih =>
    obtain ⟨s, x⟩ := e
    rw [ofDefinitions_append]
    cases x with
    | type d =>
      simp only [record_type, recordDefinition_ownership, Table.find?_update,
        TypeDeclaration.stripExternal_name]
      by_cases h : d.name = name
      · simp only [h, if_true, Option.getD_some]
        refine ⟨?_, fun m => ?_, ih.nodup⟩
        · simp [Ownership.declareBase, baseDeclarations_append_type, h]
        · rw [claimants_append_of_not_extension _ _ _ _ (by simp)]
          exact ih.claims m
      · simp only [h, if_false]
        refine ⟨?_, fun m => ?_, ih.nodup⟩
        · rw [baseDeclarations_append_type]; simpa [h] using ih.owner
        · rw [claimants_append_of_not_extension _ _ _ _ (by simp)]; exact ih.claims m
    | typeExtension d =>
      simp only [record_typeExtension, recordExtension_ownership, Table.find?_update,
        TypeDeclaration.stripExternal_name]
      by_cases h : d.name = name
      · simp only [h, if_true, Option.getD_some]
        refine ⟨?_, fun m => ?_, Ownership.claimAll_nodup _ _ _ ih.nodup⟩
        · rw [baseDeclarations_append_of_not_type _ _ _ (by simp), Ownership.claimAll_owningService]
          exact ih.owner
        · rw [Ownership.claimAll_find?, claimants_append_extension, ih.claims m]
          by_cases hm : m ∈ d.stripExternal.claimedMembers <;> simp [h, hm]
      · simp only [h, if_false]
        refine ⟨?_, fun m => ?_, ih.nodup⟩
        · rw [baseDeclarations_append_of_not_type _ _ _ (by simp)]; exact ih.owner
        · rw [claimants_append_extension]; simpa [h] using ih.claims m
    | _ =>
      rw [record_eq_self _ _ (by simp) (by simp)]
      refine ⟨?_, fun m => ?_, ih.nodup⟩
      · rw [baseDeclarations_append_of_not_type _ _ _ (by simp)]; exact ih.owner
      · rw [claimants_append_of_not_extension _ _ _ _ (by simp)]; exact ih.claims m

end Ledger

namespace Ledger

/-- One step of adding phantom bases: a name with extensions but no definition gets the empty
declaration of its first extension's kind and loses its owner. -/
def phantomStep (acc : Ledger) (entry : String × List TypeDeclaration) : Ledger :=
  if acc.definitions.contains entry.1 then acc
  else match entry.2 with
    | [] => acc
    | first :: _ =>
      { acc with
        definitions := acc.definitions.set entry.1 [phantom entry.1 first.kind]
        ownership := acc.ownership.update entry.1 {} fun r => { r with owningService := none } }

lemma synthesize_eq (l : Ledger) : l.synthesize = l.extensions.foldl phantomStep l := rfl

/-- The first extension of a name among entries of extensions, if it has one. -/
def firstExtension (xs : Table (List TypeDeclaration)) (name : String) : Option TypeDeclaration :=
  (xs.find? name).bind List.head?

variable (xs : Table (List TypeDeclaration)) (name : String)

@[simp] lemma phantomStep_extensions (acc : Ledger) (e : String × List TypeDeclaration) :
    (phantomStep acc e).extensions = acc.extensions := by
  unfold phantomStep; split
  · rfl
  · split <;> rfl

lemma foldl_phantomStep_extensions (acc : Ledger) :
    (xs.foldl phantomStep acc).extensions = acc.extensions := by
  induction xs generalizing acc with
  | nil => rfl
  | cons e xs ih => rw [List.foldl_cons, ih, phantomStep_extensions]

/-- What one step changes: the definitions and the ownership of its own name, and only when that
name has no definition and has an extension. -/
lemma phantomStep_cases (acc : Ledger) (e : String × List TypeDeclaration) :
    phantomStep acc e = acc ∨
      ∃ first rest, e.2 = first :: rest ∧ acc.definitions.find? e.1 = none ∧
        phantomStep acc e =
          { acc with
            definitions := acc.definitions.set e.1 [phantom e.1 first.kind]
            ownership := acc.ownership.update e.1 {} fun r => { r with owningService := none } } := by
  unfold phantomStep
  split
  · exact .inl rfl
  · rename_i h
    rcases hx : e.2 with _ | ⟨first, rest⟩
    · exact .inl rfl
    · refine .inr ⟨first, rest, rfl, ?_, rfl⟩
      simpa [Table.contains, Option.isSome_iff_ne_none] using h

/-- After phantom bases are added, a name keeps its definitions, or gets the phantom of its
first extension. -/
lemma foldl_phantomStep_definitions (hn : xs.keys.Nodup) (acc : Ledger) :
    (xs.foldl phantomStep acc).definitions.find? name =
      (acc.definitions.find? name).or
        ((firstExtension xs name).map fun e => [phantom name e.kind]) := by
  induction xs generalizing acc with
  | nil => simp [firstExtension]
  | cons e xs ih =>
    simp only [Table.keys_cons, List.nodup_cons] at hn
    rw [List.foldl_cons, ih hn.2]
    obtain ⟨k, exts⟩ := e
    by_cases hk : k = name
    · subst hk
      have hrest : firstExtension xs k = none := by
        simp [firstExtension, Table.find?_eq_none_iff.2 hn.1]
      simp only [hrest, Option.map_none, Option.or_none]
      unfold phantomStep
      cases hd : acc.definitions.find? k with
      | some ds => simp [Table.contains, hd]
      | none =>
        cases exts with
        | nil => simp [Table.contains, hd, firstExtension, Table.find?_cons]
        | cons first rest => simp [Table.contains, hd, firstExtension, Table.find?_cons]
    · have hfirst : firstExtension ((k, exts) :: xs) name = firstExtension xs name := by
        simp [firstExtension, Table.find?_cons, hk]
      rw [hfirst]
      rcases phantomStep_cases acc (k, exts) with h | ⟨first, rest, -, -, h⟩
      · rw [h]
      · rw [h]; simp [Table.find?_set_of_ne _ _ hk]

/-- A step for another name changes nothing of this one. -/
lemma phantomStep_of_ne (acc : Ledger) (e : String × List TypeDeclaration) (hk : e.1 ≠ name) :
    (phantomStep acc e).definitions.find? name = acc.definitions.find? name ∧
      (phantomStep acc e).ownership.find? name = acc.ownership.find? name := by
  rcases phantomStep_cases acc e with h | ⟨first, rest, -, -, h⟩
  · rw [h]; exact ⟨rfl, rfl⟩
  · rw [h]
    exact ⟨Table.find?_set_of_ne _ _ hk, by simp [Table.find?_update, hk]⟩

/-- A step for a name without definitions and with an extension takes the name's owner away. -/
lemma phantomStep_ownership (acc : Ledger) (k : String) (exts : List TypeDeclaration) :
    (phantomStep acc (k, exts)).ownership.find? k =
      if acc.definitions.find? k = none ∧ exts ≠ [] then
        some { (acc.ownership.find? k).getD {} with owningService := none }
      else acc.ownership.find? k := by
  unfold phantomStep
  cases hd : acc.definitions.find? k with
  | some ds => simp [Table.contains, hd]
  | none =>
    cases exts with
    | nil => simp [Table.contains, hd]
    | cons first rest => simp [Table.contains, hd, Table.find?_update]

/-- After phantom bases are added, a name without definitions but with an extension has lost its
owner; every other record is as it was. -/
lemma foldl_phantomStep_ownership (hn : xs.keys.Nodup) (acc : Ledger) :
    (xs.foldl phantomStep acc).ownership.find? name =
      if acc.definitions.find? name = none ∧ (firstExtension xs name).isSome then
        some { (acc.ownership.find? name).getD {} with owningService := none }
      else acc.ownership.find? name := by
  induction xs generalizing acc with
  | nil => simp [firstExtension]
  | cons e xs ih =>
    simp only [Table.keys_cons, List.nodup_cons] at hn
    rw [List.foldl_cons, ih hn.2]
    obtain ⟨k, exts⟩ := e
    by_cases hk : k = name
    · subst hk
      have hrest : firstExtension xs k = none := by
        simp [firstExtension, Table.find?_eq_none_iff.2 hn.1]
      have hfirst : (firstExtension ((k, exts) :: xs) k).isSome ↔ exts ≠ [] := by
        cases exts <;> simp [firstExtension, Table.find?_cons]
      simp only [hrest, Option.isSome_none, Bool.false_eq_true, and_false, if_false, hfirst]
      exact phantomStep_ownership acc k exts
    · have hfirst : firstExtension ((k, exts) :: xs) name = firstExtension xs name := by
        simp [firstExtension, Table.find?_cons, hk]
      obtain ⟨hd, ho⟩ := phantomStep_of_ne name acc (k, exts) hk
      rw [hfirst, hd, ho]

/-- Adding phantom bases keeps each name to one entry. -/
lemma foldl_phantomStep_nodup (acc : Ledger) (hd : acc.definitions.keys.Nodup)
    (ho : acc.ownership.keys.Nodup) :
    (xs.foldl phantomStep acc).definitions.keys.Nodup ∧
      (xs.foldl phantomStep acc).ownership.keys.Nodup := by
  induction xs generalizing acc with
  | nil => exact ⟨hd, ho⟩
  | cons e xs ih =>
    rw [List.foldl_cons]
    rcases phantomStep_cases acc e with h | ⟨first, rest, -, -, h⟩
    · rw [h]; exact ih acc hd ho
    · rw [h]; exact ih _ (Table.nodup_keys_set hd _ _) (Table.nodup_keys_set ho _ _)

/-! ### The ledger with phantom bases -/

section Synthesized

variable (defs : List (String × Definition)) (name : String)

lemma firstExtension_ofDefinitions :
    firstExtension (ofDefinitions defs).extensions name =
      (extensionDeclarations defs name).head?.map (·.2) := by
  unfold firstExtension
  rw [extensions_find?]
  split
  · simp_all
  · rename_i h
    obtain ⟨e, es, he⟩ := List.exists_cons_of_ne_nil h
    simp [he]

@[simp] lemma synthesize_extensions (l : Ledger) : l.synthesize.extensions = l.extensions :=
  foldl_phantomStep_extensions _ l

/-- The definitions of a name once phantom bases are added: its base declarations, or else the
phantom of its first extension. -/
lemma synthesize_definitions_find? :
    (ofDefinitions defs).synthesize.definitions.find? name =
      if baseDeclarations defs name = [] then
        (extensionDeclarations defs name).head?.map fun e => [phantom name e.2.kind]
      else some ((baseDeclarations defs name).map (·.2)) := by
  rw [synthesize_eq, foldl_phantomStep_definitions _ _ (nodup_keys defs).2.1,
    firstExtension_ofDefinitions, definitions_find?]
  split <;> simp [Option.map_map, Function.comp_def]

/-- The declaration the base of a name is built from, once phantom bases are added, is the last
of its definitions. -/
lemma synthesize_baseDeclaration :
    ((ofDefinitions defs).synthesize.definitions.find? name).bind List.getLast? =
      baseDeclaration defs name := by
  rw [synthesize_definitions_find?, baseDeclaration]
  split
  · rename_i h
    simp [h, Option.bind_map, Function.comp_def]
    cases (extensionDeclarations defs name).head? <;> rfl
  · rename_i h
    cases hl : (baseDeclarations defs name).getLast? with
    | none => simp_all
    | some e => simp [List.getLast?_map, hl]

/-- A name has definitions once phantom bases are added exactly when it is declared or extended. -/
lemma mem_synthesize_definitions_keys :
    name ∈ (ofDefinitions defs).synthesize.definitions.keys ↔
      baseDeclarations defs name ≠ [] ∨ extensionDeclarations defs name ≠ [] := by
  rw [← Table.isSome_find?_iff, synthesize_definitions_find?]
  split <;> simp_all

lemma synthesize_nodup_keys :
    (ofDefinitions defs).synthesize.definitions.keys.Nodup ∧
      (ofDefinitions defs).synthesize.extensions.keys.Nodup ∧
      (ofDefinitions defs).synthesize.ownership.keys.Nodup := by
  obtain ⟨h₁, h₂, h₃⟩ := nodup_keys defs
  obtain ⟨h₁', h₃'⟩ := foldl_phantomStep_nodup (ofDefinitions defs).extensions _ h₁ h₃
  exact ⟨h₁', by simpa using h₂, h₃'⟩

/-- The ownership record of a name still agrees with its declarations once phantom bases are
added: a name that is only extended was owned by nobody already. -/
lemma synthesize_ownership_agrees :
    (((ofDefinitions defs).synthesize.ownership.find? name).getD {}).Agrees defs name := by
  have h := ownership_agrees defs name
  rw [synthesize_eq, foldl_phantomStep_ownership _ _ (nodup_keys defs).2.1]
  split
  · rename_i hc
    have hb : baseDeclarations defs name = [] := by
      have := hc.1
      rw [definitions_find?] at this
      split at this <;> simp_all
    exact ⟨by simp [hb], h.claims, h.nodup⟩
  · exact h

/-- A name has an ownership record once phantom bases are added exactly when it is declared or
extended. -/
lemma mem_synthesize_ownership_keys :
    name ∈ (ofDefinitions defs).synthesize.ownership.keys ↔
      baseDeclarations defs name ≠ [] ∨ extensionDeclarations defs name ≠ [] := by
  rw [← mem_ownership_keys, ← Table.isSome_find?_iff, ← Table.isSome_find?_iff, synthesize_eq,
    foldl_phantomStep_ownership _ _ (nodup_keys defs).2.1]
  split
  · rename_i hc
    simp only [Option.isSome_some, true_iff]
    rw [Table.isSome_find?_iff, mem_ownership_keys]
    rw [firstExtension_ofDefinitions] at hc
    right
    intro he
    simp [he] at hc
  · rfl

/-- The definitions of a name, in the order of the definitions document, are those the ledger
keeps of it. -/
lemma synthesize_definitions_filter :
    ((ofDefinitions defs).synthesize.definitions.flatMap (·.2)).filter (·.name == name) =
      ((ofDefinitions defs).synthesize.definitions.find? name).getD [] := by
  have hn := (synthesize_nodup_keys defs).1
  refine Table.filter_flatMap _ hn (fun e he d hd => ?_) name
  obtain ⟨k, ds⟩ := e
  have hf := Table.find?_of_mem hn he
  rw [synthesize_definitions_find?] at hf
  split at hf
  · obtain ⟨x, -, hx⟩ := Option.map_eq_some_iff.1 hf
    subst hx
    simp_all
  · cases hf
    obtain ⟨x, hx, rfl⟩ := List.mem_map.1 hd
    exact name_of_mem_baseDeclarations defs k hx

/-- The extensions of a name, in the order of the extensions document, are its extensions in
service order. -/
lemma synthesize_extensions_filter :
    ((ofDefinitions defs).synthesize.extensions.flatMap (·.2)).filter (·.name == name) =
      (extensionDeclarations defs name).map (·.2) := by
  have hn := (synthesize_nodup_keys defs).2.1
  rw [synthesize_extensions] at hn ⊢
  rw [Table.filter_flatMap _ hn (fun e he d hd => ?_) name, extensions_find?]
  · split <;> simp_all
  · obtain ⟨k, ds⟩ := e
    have hf := Table.find?_of_mem hn he
    rw [extensions_find?] at hf
    split at hf
    · cases hf
    · cases hf
      obtain ⟨x, hx, rfl⟩ := List.mem_map.1 hd
      exact name_of_mem_extensionDeclarations defs k hx

/-- A declaration of the definitions document is a base declaration of some service, without its
fields marked `@external`, or the phantom base of a name that is only extended. -/
lemma mem_synthesize_definitions {d : TypeDeclaration}
    (h : d ∈ (ofDefinitions defs).synthesize.definitions.flatMap (·.2)) :
    (∃ x ∈ defs, ∃ d₀, x.2 = .type d₀ ∧ d = d₀.stripExternal) ∨ ∃ k, d = phantom d.name k := by
  have hmem : d ∈ ((ofDefinitions defs).synthesize.definitions.flatMap (·.2)).filter
      (·.name == d.name) := List.mem_filter.2 ⟨h, by simp⟩
  rw [synthesize_definitions_filter, synthesize_definitions_find?] at hmem
  split at hmem
  · -- a name that is only extended is defined by a phantom
    cases hx : (extensionDeclarations defs d.name).head? with
    | none => simp [hx] at hmem
    | some e =>
      simp only [hx, Option.map_some, Option.getD_some, List.mem_singleton] at hmem
      exact .inr ⟨_, hmem⟩
  · simp only [Option.getD_some, List.mem_map] at hmem
    obtain ⟨e, he, rfl⟩ := hmem
    obtain ⟨x, hx, d₀, hx2, -, hed⟩ := exists_of_mem_baseDeclarations _ _ he
    exact .inl ⟨x, hx, d₀, hx2, hed⟩

/-- A declaration of the extensions document is an extension of some service, without its fields
marked `@external`. -/
lemma mem_synthesize_extensions {d : TypeDeclaration}
    (h : d ∈ (ofDefinitions defs).synthesize.extensions.flatMap (·.2)) :
    ∃ x ∈ defs, ∃ d₀, x.2 = .typeExtension d₀ ∧ d = d₀.stripExternal := by
  have hmem : d ∈ ((ofDefinitions defs).synthesize.extensions.flatMap (·.2)).filter
      (·.name == d.name) := List.mem_filter.2 ⟨h, by simp⟩
  rw [synthesize_extensions_filter] at hmem
  obtain ⟨e, he, rfl⟩ := List.mem_map.1 hmem
  obtain ⟨x, hx, d₀, hx2, -, hed⟩ := exists_of_mem_extensionDeclarations _ _ he
  exact ⟨x, hx, d₀, hx2, hed⟩

end Synthesized

end Ledger

end Federation
