import Mathlib.Tactic.Lemma
import Mathlib.Data.List.Induction
import Federation.Proofs.Ledger

/-!
# The ledger, declaratively

The ledger of some services is a function of the sequence of their definitions, each paired with
its service, in service and document order (`serviceDefinitions`), once every object declaration
has lost its fields marked `@external` (`Ledger.reference`):

* the definitions are the type definitions grouped by name, names in order of first appearance;
  the extensions likewise;
* the ownership records are filed in order of the first declaration or extension of each name.
  The record of a name lists the service of every base declaration, repeats included, the last
  one owning the type; and it groups, by member, the service of every member declaration that an
  object, input object or enum extension of the type makes (`memberClaims`), a later claim
  taking a member from an earlier one (`Ownership.reference`).

The reference commutes with recording one more definition (`Ledger.reference_append`), so the
ledger that the services build is the reference ledger of their definitions
(`build_eq_reference`). Claims are counted per member declaration, not per extension: an
extension that declares a member twice claims it twice (`member_claimed_per_declaration`).
-/

namespace Federation

open Syntax

/-- The type definitions among some definitions, in order, each with its service and without its
fields marked `@external`. -/
def typeDefinitions (defs : List (String × Definition)) : List (String × TypeDeclaration) :=
  defs.filterMap fun e => match e.2 with
    | .type d => some (e.1, d.stripExternal)
    | _ => none

/-- The type extensions among some definitions, in order, each with its service and without its
fields marked `@external`. -/
def typeExtensions (defs : List (String × Definition)) : List (String × TypeDeclaration) :=
  defs.filterMap fun e => match e.2 with
    | .typeExtension d => some (e.1, d.stripExternal)
    | _ => none

/-- The names that type definitions and extensions among some definitions declare, in order. -/
def declaredNames (defs : List (String × Definition)) : List String :=
  defs.filterMap fun e => match e.2 with
    | .type d | .typeExtension d => some d.name
    | _ => none

/-- The member declarations that the extensions of a type name make, in order, each as the
member's name and the service of its extension. Interface, union and scalar extensions make
none. -/
def memberClaims (defs : List (String × Definition)) (name : String) : List (String × String) :=
  (extensionDeclarations defs name).flatMap fun e => e.2.claimedMembers.map (·, e.1)

/-- The ownership record of a type name as its declarations give it: the services of its base
declarations, the last one owning it, and for each member its extensions declare, the services
that declared it, the last one owning it. -/
def Ownership.reference (defs : List (String × Definition)) (name : String) : Ownership where
  owningService := (baseDeclarations defs name).getLast?.map (·.1)
  baseServices := (baseDeclarations defs name).map (·.1)
  extensionFieldOwners := Table.setAll [] (memberClaims defs name)
  extensionClaims := Table.group (memberClaims defs name)

/-- The ledger of some definitions as the definitions give it. -/
def Ledger.reference (defs : List (String × Definition)) : Ledger where
  definitions := Table.group ((typeDefinitions defs).map fun e => (e.2.name, e.2))
  extensions := Table.group ((typeExtensions defs).map fun e => (e.2.name, e.2))
  ownership := Table.tabulate (declaredNames defs) (Ownership.reference defs)

/-! ### One more definition -/

section Append

variable (defs : List (String × Definition)) (s : String)

@[simp] lemma typeDefinitions_append_type (d : TypeDeclaration) :
    typeDefinitions (defs ++ [(s, .type d)]) = typeDefinitions defs ++ [(s, d.stripExternal)] := by
  simp [typeDefinitions]

@[simp] lemma typeDefinitions_append_extension (d : TypeDeclaration) :
    typeDefinitions (defs ++ [(s, .typeExtension d)]) = typeDefinitions defs := by
  simp [typeDefinitions]

@[simp] lemma typeExtensions_append_type (d : TypeDeclaration) :
    typeExtensions (defs ++ [(s, .type d)]) = typeExtensions defs := by
  simp [typeExtensions]

@[simp] lemma typeExtensions_append_extension (d : TypeDeclaration) :
    typeExtensions (defs ++ [(s, .typeExtension d)]) = typeExtensions defs ++ [(s, d.stripExternal)] := by
  simp [typeExtensions]

lemma declaredNames_append_of_name (x : Definition) (d : TypeDeclaration)
    (hx : x = .type d ∨ x = .typeExtension d) :
    declaredNames (defs ++ [(s, x)]) = declaredNames defs ++ [d.name] := by
  rcases hx with rfl | rfl <;> simp [declaredNames]

/-- A name no definition declares or extends has the empty record. -/
lemma Ownership.reference_of_not_mem {name : String} (h : name ∉ declaredNames defs) :
    Ownership.reference defs name = {} := by
  have hbase : baseDeclarations defs name = [] := by
    refine List.eq_nil_iff_forall_not_mem.2 fun e he => h ?_
    obtain ⟨x, hx, d, hxd, hn, -⟩ := exists_of_mem_baseDeclarations defs name he
    simp only [declaredNames, List.mem_filterMap]
    exact ⟨x, hx, by simp [hxd, hn]⟩
  have hext : extensionDeclarations defs name = [] := by
    refine List.eq_nil_iff_forall_not_mem.2 fun e he => h ?_
    obtain ⟨x, hx, d, hxd, hn, -⟩ := exists_of_mem_extensionDeclarations defs name he
    simp only [declaredNames, List.mem_filterMap]
    exact ⟨x, hx, by simp [hxd, hn]⟩
  simp [Ownership.reference, memberClaims, hbase, hext]

lemma memberClaims_append_extension (name : String) (d : TypeDeclaration) :
    memberClaims (defs ++ [(s, .typeExtension d)]) name =
      memberClaims defs name ++
        if d.name = name then d.stripExternal.claimedMembers.map (·, s) else [] := by
  unfold memberClaims
  rw [extensionDeclarations_append_extension]
  split <;> simp

/-- Claiming members one after another, on a record whose claims are those of some member
declarations, gives the record of those declarations and the new ones. -/
lemma Ownership.claimAll_eq (r : Ownership) (cs : List (String × String)) (ms : List String)
    (hc : r.extensionClaims = Table.group cs) (ho : r.extensionFieldOwners = Table.setAll [] cs) :
    ms.foldl (·.claim s) r =
      { r with
        extensionClaims := Table.group (cs ++ ms.map (·, s))
        extensionFieldOwners := Table.setAll [] (cs ++ ms.map (·, s)) } := by
  induction ms generalizing r cs with
  | nil => cases r; simp_all
  | cons m ms ih =>
    rw [List.foldl_cons]
    have hc' : (r.claim s m).extensionClaims = Table.group (cs ++ [(m, s)]) := by
      rw [Table.group_append_singleton, ← hc]; rfl
    have ho' : (r.claim s m).extensionFieldOwners = Table.setAll [] (cs ++ [(m, s)]) := by
      rw [Table.setAll_append, ← ho]; rfl
    rw [ih _ _ hc' ho']
    simp [Ownership.claim]

/-- The record of a name after one more base declaration. -/
lemma Ownership.reference_append_type (d : TypeDeclaration) (name : String) :
    Ownership.reference (defs ++ [(s, .type d)]) name =
      if d.name = name then (Ownership.reference defs name).declareBase s
      else Ownership.reference defs name := by
  have hm : memberClaims (defs ++ [(s, .type d)]) name = memberClaims defs name := by
    rw [memberClaims, memberClaims,
      extensionDeclarations_append_of_not_extension defs name (s, .type d) (by simp)]
  split
  · rename_i h
    simp [Ownership.reference, Ownership.declareBase, baseDeclarations_append_type, h, hm]
  · rename_i h
    simp [Ownership.reference, baseDeclarations_append_type, h, hm]

/-- The record of a name after one more extension. -/
lemma Ownership.reference_append_extension (d : TypeDeclaration) (name : String) :
    Ownership.reference (defs ++ [(s, .typeExtension d)]) name =
      if d.name = name then
        d.stripExternal.claimedMembers.foldl (·.claim s) (Ownership.reference defs name)
      else Ownership.reference defs name := by
  have hb : baseDeclarations (defs ++ [(s, .typeExtension d)]) name = baseDeclarations defs name :=
    baseDeclarations_append_of_not_type _ _ _ (by simp)
  split
  · rename_i h
    rw [Ownership.claimAll_eq s _ (memberClaims defs name) _ rfl rfl]
    simp [Ownership.reference, hb, memberClaims_append_extension, h]
  · rename_i h
    simp [Ownership.reference, hb, memberClaims_append_extension, h]

/-- Definitions other than type definitions and extensions leave the reference alone. -/
lemma Ledger.reference_append_of_other {x : Definition} (h₁ : ∀ d, x ≠ .type d)
    (h₂ : ∀ d, x ≠ .typeExtension d) :
    Ledger.reference (defs ++ [(s, x)]) = Ledger.reference defs := by
  have hb : ∀ name, baseDeclarations (defs ++ [(s, x)]) name = baseDeclarations defs name :=
    fun name => baseDeclarations_append_of_not_type _ _ _ h₁
  have he : ∀ name, extensionDeclarations (defs ++ [(s, x)]) name = extensionDeclarations defs name :=
    fun name => extensionDeclarations_append_of_not_extension _ _ _ h₂
  have hr : Ownership.reference (defs ++ [(s, x)]) = Ownership.reference defs := by
    funext name
    simp [Ownership.reference, memberClaims, hb, he]
  cases x <;> simp_all [Ledger.reference, typeDefinitions, typeExtensions, declaredNames]

/-- The reference ledger of one more definition is the reference ledger with that definition
recorded. -/
lemma Ledger.reference_append (x : Definition) :
    Ledger.reference (defs ++ [(s, x)]) = (Ledger.reference defs).record s x := by
  cases x with
  | type d =>
    -- the new declaration joins the group of its name, whose record it then owns
    simp only [record_type, Ledger.reference, recordDefinition, Ledger.mk.injEq,
      typeDefinitions_append_type, typeExtensions_append_type, List.map_append, List.map_singleton,
      Table.group_append_singleton, TypeDeclaration.stripExternal_name, true_and,
      declaredNames_append_of_name defs s _ d (.inl rfl), Table.update_tabulate]
    refine Table.tabulate_congr fun n _ => ?_
    rw [Ownership.reference_append_type]
    by_cases hn : n = d.name
    · subst hn
      by_cases hmem : d.name ∈ declaredNames defs
      · simp [hmem]
      · simp [hmem, Ownership.reference_of_not_mem defs hmem]
    · simp [hn, Ne.symm hn]
  | typeExtension d =>
    simp only [record_typeExtension, Ledger.reference, recordExtension, Ledger.mk.injEq,
      typeDefinitions_append_extension, typeExtensions_append_extension, List.map_append,
      List.map_singleton, Table.group_append_singleton, TypeDeclaration.stripExternal_name,
      true_and, declaredNames_append_of_name defs s _ d (.inr rfl), Table.update_tabulate]
    refine Table.tabulate_congr fun n _ => ?_
    rw [Ownership.reference_append_extension]
    by_cases hn : n = d.name
    · subst hn
      by_cases hmem : d.name ∈ declaredNames defs
      · simp [hmem]
      · simp [hmem, Ownership.reference_of_not_mem defs hmem]
    · simp [hn, Ne.symm hn]
  | _ =>
    rw [Ledger.reference_append_of_other _ _ (by simp) (by simp),
      Ledger.record_eq_self _ _ (by simp) (by simp)]

end Append

/-- Recording definitions one after another builds their reference ledger. -/
lemma Ledger.ofDefinitions_eq_reference (defs : List (String × Definition)) :
    Ledger.ofDefinitions defs = Ledger.reference defs := by
  induction defs using List.reverseRecOn with
  | nil => rfl
  | append_singleton defs e ih =>
    rw [Ledger.ofDefinitions_append, ih, Ledger.reference_append]

/-- The ledger services build is the reference ledger of their definitions: the type definitions
and the extensions grouped by name in order of first appearance, and for each name declared or
extended, in order of first appearance, the record of the services that declared it and of the
services whose member declarations claimed each of its members. -/
theorem build_eq_reference (services : List Service) :
    Ledger.build services = Ledger.reference (serviceDefinitions services) := by
  rw [Ledger.build_eq]
  exact Ledger.ofDefinitions_eq_reference _

/-- Service `A` extends `T` by an object extension that declares the field `a` twice. -/
def twiceDeclaredMember : List Service :=
  [⟨"A", ⟨[.typeExtension ⟨none, "T", [], .object []
    [⟨none, "a", [], .named "Int", []⟩, ⟨none, "a", [], .named "Int", []⟩]⟩]⟩⟩]

/-- Claims are counted per member declaration: the record of `T` lists `A` twice as a claimant
of `a`, where one entry per extension that declares `a` would list it once. -/
theorem member_claimed_per_declaration :
    ((Ledger.build twiceDeclaredMember).ownership.find? "T").map (·.extensionClaims.find? "a") =
        some (some ["A", "A"]) ∧
      claimants (serviceDefinitions twiceDeclaredMember) "T" "a" = ["A"] := by
  decide +kernel

end Federation
