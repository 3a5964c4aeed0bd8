import Mathlib.Tactic.Lemma
import Federation.Proofs.Ownership

/-!
# Owners do not depend on the order of unrelated services

The owners a composition records for a type read only two subsequences of the services: those
that declare the type as a base type, which decide the type's owner, and, for each member, those
whose extensions of the type claim the member, which decide the member's owner. The kind of the
type is that of its last base declaration, and whether it has a member does not depend on the
order of the extensions that declare it. So reordering the services, keeping the order within
each of these subsequences, keeps every owner of the type (`owners_of_perm`).
-/

namespace Federation

open Syntax Schema

/-- Whether a service declares a type as a base type. -/
def Service.declaresBase (name : String) (s : Service) : Bool :=
  s.document.definitions.any fun
    | .type d => d.name == name
    | _ => false

/-- Whether a service has an extension of a type that claims a member: an object, input object or
enum extension listing it, fields marked external left out. -/
def Service.claimsMember (name member : String) (s : Service) : Bool :=
  s.document.definitions.any fun
    | .typeExtension d => d.name == name && d.stripExternal.claimedMembers.contains member
    | _ => false

/-- The definitions of one service, each with the service's name. -/
def Service.definitions (s : Service) : List (String × Definition) :=
  s.document.definitions.map (s.name, ·)

/-! ### What each service contributes -/

/-- Leaving out items that contribute nothing to a concatenation keeps it. -/
lemma flatMap_filter_of_nil {α β : Type} {p : α → Bool} {g : α → List β}
    (hg : ∀ a, p a = false → g a = []) (l : List α) : (l.filter p).flatMap g = l.flatMap g := by
  induction l with
  | nil => rfl
  | cons a l ih =>
    cases hp : p a
    · simp [hp, hg a hp, ih]
    · simp [hp, ih]

lemma baseDeclarations_serviceDefinitions (services : List Service) (name : String) :
    baseDeclarations (serviceDefinitions services) name =
      services.flatMap fun s => baseDeclarations s.definitions name := by
  unfold baseDeclarations serviceDefinitions Service.definitions
  rw [List.filterMap_flatMap]

lemma claimants_serviceDefinitions (services : List Service) (name member : String) :
    claimants (serviceDefinitions services) name member =
      services.flatMap fun s => claimants s.definitions name member := by
  unfold claimants extensionDeclarations serviceDefinitions Service.definitions
  rw [List.filterMap_flatMap, List.filter_flatMap, List.map_flatMap]

/-- A service that does not declare a type contributes no base declaration of it. -/
lemma baseDeclarations_of_not_declaresBase {s : Service} {name : String}
    (h : s.declaresBase name = false) : baseDeclarations s.definitions name = [] := by
  unfold baseDeclarations Service.definitions
  refine List.filterMap_eq_nil_iff.2 fun e he => ?_
  obtain ⟨d, hd, rfl⟩ := List.mem_map.1 he
  have hno := List.any_eq_false.1 h d hd
  cases d with
  | type d => simpa using hno
  | _ => rfl

/-- A service with no extension of a type claiming a member contributes no claim of it. -/
lemma claimants_of_not_claimsMember {s : Service} {name member : String}
    (h : s.claimsMember name member = false) : claimants s.definitions name member = [] := by
  unfold claimants extensionDeclarations Service.definitions
  refine List.map_eq_nil_iff.2 (List.filter_eq_nil_iff.2 fun e he => ?_)
  obtain ⟨x, hx, hxe⟩ := List.mem_filterMap.1 he
  obtain ⟨d, hd, rfl⟩ := List.mem_map.1 hx
  have hno := List.any_eq_false.1 h d hd
  cases d with
  | typeExtension d =>
    simp only at hxe hno
    split at hxe
    · rename_i hname
      cases hxe
      simpa [hname] using hno
    · cases hxe
  | _ => cases hxe

/-- The base declarations of a type are those of the services that declare it, in order. -/
lemma baseDeclarations_filter (services : List Service) (name : String) :
    baseDeclarations (serviceDefinitions (services.filter (Service.declaresBase name))) name =
      baseDeclarations (serviceDefinitions services) name := by
  rw [baseDeclarations_serviceDefinitions, baseDeclarations_serviceDefinitions]
  exact flatMap_filter_of_nil (fun _ h => baseDeclarations_of_not_declaresBase h) services

/-- The claimants of a member are among the services that claim it, in order. -/
lemma claimants_filter (services : List Service) (name member : String) :
    claimants (serviceDefinitions (services.filter (Service.claimsMember name member))) name member =
      claimants (serviceDefinitions services) name member := by
  rw [claimants_serviceDefinitions, claimants_serviceDefinitions]
  exact flatMap_filter_of_nil (fun _ h => claimants_of_not_claimsMember h) services

/-! ### Members of a composed type -/

/-- The members a type has are those its member table files. -/
lemma NamedType.memberNames_eq_keys (t : NamedType) : t.memberNames = t.memberNodes.keys := by
  unfold NamedType.memberNames NamedType.memberNodes fieldNodes inputNodes valueNodes
  cases t.shape <;> simp [Table.keys]

/-- A merged table of members has a member when the start has it or a declaration declares it. -/
lemma mem_keys_mergeDeclared {start : Table (Option MemberNode)} {ds : List TypeDeclaration}
    {m : String} :
    m ∈ (mergeDeclared start ds).keys ↔ m ∈ start.keys ∨ ∃ d ∈ ds, m ∈ d.members.map (·.1) := by
  unfold mergeDeclared declared
  rw [Table.mem_keys_setAll]
  simp only [List.map_map, List.mem_map, List.mem_flatMap]
  refine or_congr_right ⟨fun ⟨e, ⟨d, hd, he⟩, hm⟩ => ⟨d, hd, e, he, hm⟩,
    fun ⟨d, hd, e, he, hm⟩ => ⟨e, ⟨d, hd, he⟩, hm⟩⟩

/-- Types shaped alike, up to the order in which their extensions declare members, track the
same members. -/
lemma tracksMember_eq_of_shape {t t' : NamedType} {b : TypeDeclaration} {xs xs' : List TypeDeclaration}
    (hperm : xs'.Perm xs) (ht : (t.kind, t.memberNodes) = (b.kind, mergeDeclared [] (b :: xs)))
    (ht' : (t'.kind, t'.memberNodes) = (b.kind, mergeDeclared [] (b :: xs'))) (m : String) :
    t'.tracksMember m = t.tracksMember m := by
  simp only [Prod.mk.injEq] at ht ht'
  have hmem : m ∈ t'.memberNames ↔ m ∈ t.memberNames := by
    rw [NamedType.memberNames_eq_keys, NamedType.memberNames_eq_keys, ht.2, ht'.2,
      mem_keys_mergeDeclared, mem_keys_mergeDeclared]
    simp only [List.mem_cons, exists_eq_or_imp]
    exact or_congr_right (or_congr_right
      ⟨fun ⟨d, hd, hm⟩ => ⟨d, hperm.subset hd, hm⟩, fun ⟨d, hd, hm⟩ => ⟨d, hperm.symm.subset hd, hm⟩⟩)
  rw [Bool.eq_iff_iff, NamedType.tracksMember_iff, NamedType.tracksMember_iff, ht.1, ht'.1, hmem]

/-! ### Two runs -/

section TwoRuns

variable {L L' : List Service} {T : String}

/-- Keeping the order of the services that declare a type keeps its base declarations. -/
lemma baseDeclarations_of_filter_eq
    (hbase : L'.filter (Service.declaresBase T) = L.filter (Service.declaresBase T)) :
    baseDeclarations (serviceDefinitions L') T = baseDeclarations (serviceDefinitions L) T := by
  rw [← baseDeclarations_filter L', hbase, baseDeclarations_filter]

/-- Keeping the order of the services that claim a member keeps its claimants. -/
lemma claimants_of_filter_eq {m : String}
    (hclaim : L'.filter (Service.claimsMember T m) = L.filter (Service.claimsMember T m)) :
    claimants (serviceDefinitions L') T m = claimants (serviceDefinitions L) T m := by
  rw [← claimants_filter L', hclaim, claimants_filter]

/-- A reordering of the services reorders the extensions of a type. -/
lemma extensionDeclarations_perm (hperm : L'.Perm L) :
    ((extensionDeclarations (serviceDefinitions L') T).map (·.2)).Perm
      ((extensionDeclarations (serviceDefinitions L) T).map (·.2)) :=
  ((hperm.flatMap_right _).filterMap _).map _

/-- Two compositions of reorderings of the services, keeping the order of the services that
declare a type, agree on which members of the type are tracked, when the type is declared. -/
lemma tracksMember_of_perm {height height' : Nat} {c c' : Composition} (hperm : L'.Perm L)
    (hbase : L'.filter (Service.declaresBase T) = L.filter (Service.declaresBase T))
    (hdecl : baseDeclarations (serviceDefinitions L) T ≠ [])
    (h : compose L height = .ok c) (h' : compose L' height' = .ok c') {t t' : NamedType}
    (ht : c.schema.type? T = some t) (ht' : c'.schema.type? T = some t') (m : String) :
    t'.tracksMember m = t.tracksMember m := by
  rcases composed_type?_cases h ht with ⟨hstd, hbuiltin⟩ | ⟨hstd, hshape⟩ <;>
    rcases composed_type?_cases h' ht' with ⟨hstd', hbuiltin'⟩ | ⟨hstd', hshape'⟩
  · rw [hbuiltin] at hbuiltin'
    cases hbuiltin'
    rfl
  · rw [hstd] at hstd'; cases hstd'
  · rw [hstd] at hstd'; cases hstd'
  · -- both are shaped by the merge law, from the same base declaration
    obtain ⟨b, hdef, hshape⟩ := composedShape_eq_some hshape
    obtain ⟨b', hdef', hshape'⟩ := composedShape_eq_some hshape'
    have hb : baseDeclaration (serviceDefinitions L') T = baseDeclaration (serviceDefinitions L) T := by
      unfold baseDeclaration
      rw [baseDeclarations_of_filter_eq hbase]
      cases hlast : (baseDeclarations (serviceDefinitions L) T).getLast? with
      | none => exact absurd (List.getLast?_eq_none_iff.1 hlast) hdecl
      | some e => rfl
    rw [hb, hdef] at hdef'
    cases hdef'
    exact tracksMember_eq_of_shape ((extensionDeclarations_perm hperm).filter _) hshape hshape' m

end TwoRuns

/-- Reordering the services, keeping the order of those that declare a type and, for each
member, of those whose extensions of the type claim it, keeps the owner of the type and of each
of its members, for a type declared as a base type whose name does not start with two
underscores. -/
theorem owners_of_perm {L L' : List Service} (hperm : L'.Perm L) {T : String}
    (hT : T.startsWith "__" = false) (hdecl : baseDeclarations (serviceDefinitions L) T ≠ [])
    (hbase : L'.filter (Service.declaresBase T) = L.filter (Service.declaresBase T))
    (hclaim : ∀ m, L'.filter (Service.claimsMember T m) = L.filter (Service.claimsMember T m))
    {height height' : Nat} {c c' : Composition} (h : compose L height = .ok c)
    (h' : compose L' height' = .ok c') :
    c'.metadata.typeOwner T = c.metadata.typeOwner T ∧
      ∀ m, c'.metadata.fieldOwner T m = c.metadata.fieldOwner T m := by
  have hdecl' : baseDeclarations (serviceDefinitions L') T ≠ [] := by
    rwa [baseDeclarations_of_filter_eq hbase]
  -- the type has an ownership record and a type in both compositions
  have hsome : ∀ {services : List Service}, baseDeclarations (serviceDefinitions services) T ≠ [] →
      (baseDeclaration (serviceDefinitions services) T).isSome := by
    intro services hne
    cases hlast : (baseDeclarations (serviceDefinitions services) T).getLast? with
    | none => exact absurd (List.getLast?_eq_none_iff.1 hlast) hne
    | some e => simp [baseDeclaration, hlast]
  obtain ⟨r, hr, hagree⟩ := declared_ownership (.inl hdecl)
  obtain ⟨r', hr', hagree'⟩ := declared_ownership (.inl hdecl')
  obtain ⟨t, ht⟩ := Option.isSome_iff_exists.1 (composed_type?_isSome h hT (hsome hdecl))
  obtain ⟨t', ht'⟩ := Option.isSome_iff_exists.1 (composed_type?_isSome h' hT (hsome hdecl'))
  have htype : c'.metadata.typeOwner T = c.metadata.typeOwner T := by
    rw [(composed_owners h' hr' hagree' ht' "").1, (composed_owners h hr hagree ht "").1,
      baseDeclarations_of_filter_eq hbase]
  refine ⟨htype, fun m => ?_⟩
  rw [(composed_owners h' hr' hagree' ht' m).2, (composed_owners h hr hagree ht m).2, htype,
    tracksMember_of_perm hperm hbase hdecl h h' ht ht' m, claimants_of_filter_eq (hclaim m)]

/-- Three services: `A` defines `type Product { id: ID }`, `X` defines an unrelated type and `B`
extends `Product` with `price`. -/
def productServices : List Service :=
  [⟨"A", ⟨[.type ⟨none, "Product", [], .object [] [⟨none, "id", [], .named "ID", []⟩]⟩]⟩⟩,
   ⟨"X", ⟨[.type ⟨none, "Review", [], .object [] [⟨none, "body", [], .named "String", []⟩]⟩]⟩⟩,
   ⟨"B", ⟨[.typeExtension ⟨none, "Product", [],
      .object [] [⟨none, "price", [], .named "Int", []⟩]⟩]⟩⟩]

/-- Composing the services in reverse order, the extension first, keeps the owners of
`Product`. -/
theorem product_owners_of_reverse :
    ∃ c c', compose productServices 0 = .ok c ∧ compose productServices.reverse 0 = .ok c' ∧
      productServices.reverse.Perm productServices ∧ "Product".startsWith "__" = false ∧
      baseDeclarations (serviceDefinitions productServices) "Product" ≠ [] ∧
      productServices.reverse.filter (Service.declaresBase "Product") =
        productServices.filter (Service.declaresBase "Product") ∧
      (∀ m, productServices.reverse.filter (Service.claimsMember "Product" m) =
        productServices.filter (Service.claimsMember "Product" m)) ∧
      c'.metadata.typeOwner "Product" = c.metadata.typeOwner "Product" ∧
      ∀ m, c'.metadata.fieldOwner "Product" m = c.metadata.fieldOwner "Product" m := by
  obtain ⟨c, hc, -⟩ := exists_ok_of_any (x := compose productServices 0)
    (p := fun _ => true) (by decide)
  obtain ⟨c', hc', -⟩ := exists_ok_of_any (x := compose productServices.reverse 0)
    (p := fun _ => true) (by decide)
  have hperm : productServices.reverse.Perm productServices := List.reverse_perm _
  have hT : "Product".startsWith "__" = false := by decide +kernel
  have hdecl : baseDeclarations (serviceDefinitions productServices) "Product" ≠ [] :=
    List.ne_nil_of_length_pos (by decide)
  have hbase : productServices.reverse.filter (Service.declaresBase "Product") =
      productServices.filter (Service.declaresBase "Product") := rfl
  have hclaim : ∀ m, productServices.reverse.filter (Service.claimsMember "Product" m) =
      productServices.filter (Service.claimsMember "Product" m) := fun _ => rfl
  exact ⟨c, c', hc, hc', hperm, hT, hdecl, hbase, hclaim,
    owners_of_perm hperm hT hdecl hbase hclaim hc hc'⟩

end Federation
