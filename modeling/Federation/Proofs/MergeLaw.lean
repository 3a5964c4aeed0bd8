import Mathlib.Tactic.Lemma
import Federation.Composition
import Federation.Proofs.Ledger
import Federation.Proofs.Extend

/-!
# The merge law of composed schemas

A composed schema gives each type that is not built in the kind of its base declaration (the last
one, or the empty declaration of its first extension's kind), and the members that declaration
declares merged, by name in order, with those of every extension of that kind in service order
(`composedShape`). A member keeps the place where it first appears and takes the node of its last
declaration: members of earlier base declarations are gone, extensions override the base
whatever the service order, and extensions of another kind add nothing.

The proof follows the two passes. The base definitions extend the schema of the composition's
directives, which holds built-in types only, to a schema shaped by the last definition of each
name (`definitionsPass_shaped`). Only extensions of a matching kind reach the second pass, which
extends that schema by them (`extensionsPass_shaped`). Adding root types then keeps every type it
does not drop (`compose_schema_shaped`).
-/

namespace Federation

open Syntax Schema

/-! ### Composing, step by step -/

/-- A composition is the schema the two passes assemble, annotated by the ledger's ownership. -/
lemma compose_ok {services : List Service} {height : Nat} {c : Composition}
    (h : compose services height = .ok c) :
    ∃ errors, assembleSchema (Ledger.build services).synthesize.definitions
        (Ledger.build services).synthesize.extensions (height + 1) = .ok (c.schema, errors) ∧
      annotate c.schema (Ledger.build services).synthesize.ownership (height + 1) = .ok c.metadata := by
  unfold compose at h
  obtain ⟨⟨schema, errors⟩, hs, h⟩ := ok_of_bind_eq_ok h
  obtain ⟨metadata, hm, h⟩ := ok_of_bind_eq_ok h
  cases h
  refine ⟨errors, hs, ?_⟩
  cases ha : annotate schema (Ledger.build services).synthesize.ownership (height + 1) with
  | error e => rw [ha] at hm; cases hm
  | ok m => rw [ha] at hm; cases hm; rfl

/-- A step of extending succeeds only with the schema extending gives. -/
lemma extend_of_extendStep {s s' : Schema} {doc : List Definition} {height : Nat}
    (h : extendStep s doc height = .ok s') : s.extend doc height = .ok s' := by
  unfold extendStep at h
  cases he : s.extend doc height with
  | ok r => rw [he] at h; cases h; rfl
  | error e => rw [he] at h; cases e <;> cases h

/-! ### The shape rules of the two passes -/

/-- The kind and members the base definitions give a name: those of its base declaration. -/
def baseShape (defs : List (String × Definition)) (name : String) :
    Option (TypeKind × Table (Option MemberNode)) :=
  (baseDeclaration defs name).map fun b => (b.kind, mergeDeclared [] [b])

/-- The kind and declared members a composed schema gives a type that is not built in: the kind
of its base declaration, and the members of that declaration merged, by name in order, with those
of every extension of the type of that kind, in service order. -/
def composedShape (defs : List (String × Definition)) (name : String) :
    Option (TypeKind × Table (Option MemberNode)) :=
  (baseDeclaration defs name).map fun b =>
    (b.kind, mergeDeclared [] (b :: ((extensionDeclarations defs name).map (·.2)).filter
      (·.kind == b.kind)))

/-- The merge law gives a name a kind and members only through the name's base declaration. -/
lemma composedShape_eq_some {defs : List (String × Definition)} {name : String}
    {p : TypeKind × Table (Option MemberNode)} (h : composedShape defs name = some p) :
    ∃ b, baseDeclaration defs name = some b ∧ p = (b.kind, mergeDeclared []
      (b :: ((extensionDeclarations defs name).map (·.2)).filter (·.kind == b.kind))) := by
  obtain ⟨b, hb, rfl⟩ := Option.map_eq_some_iff.1 h
  exact ⟨b, hb, rfl⟩

/-- Only the rule's word on names that are not built in shapes a schema. -/
lemma Schema.Shaped.congr {rule rule' : String → Option (TypeKind × Table (Option MemberNode))}
    {s : Schema} (hs : Shaped rule s) (hr : ∀ n, isStandardName n = false → rule n = rule' n) :
    Shaped rule' s where
  entries := hs.entries
  named := hs.named
  builtin := hs.builtin
  shaped n hn := (hs.shaped n hn).trans (hr n hn)

/-- The schema of the composition's directives holds built-in types only. -/
lemma compositionBase_shaped : Shaped (fun _ => none) compositionBase where
  entries _ he := assemble_type?_of_mem_types he
  named _ _ ht := name_of_standardType? (ofDirectives_type? ht)
  builtin _ _ ht _ := ofDirectives_type? ht
  shaped n hn := by
    cases ht : compositionBase.type? n with
    | none => rfl
    | some t =>
      have := ofDirectives_type? ht
      rw [standardType?_eq_none hn] at this
      cases this

/-- A document of extensions defines nothing. -/
lemma extensionsDocument (xs : List TypeDeclaration) :
    xs.map Definition.typeExtension =
      ([] : List TypeDeclaration).map Definition.type ++ xs.map Definition.typeExtension := rfl

/-- The definitions document of a table of declarations extends nothing. -/
lemma definitionsDocument (t : Table (List TypeDeclaration)) :
    (t.flatMap fun (_, ds) => ds.map Definition.type) =
      (t.flatMap (·.2)).map Definition.type ++ ([] : List TypeDeclaration).map Definition.typeExtension := by
  simp [List.map_flatMap]

section Passes

variable (defs : List (String × Definition))

/-- The definitions document of the ledger defines each name by its base declaration last. -/
lemma extendRule_definitions :
    extendRule (fun _ => none) ((Ledger.ofDefinitions defs).synthesize.definitions.flatMap (·.2)) [] =
      baseShape defs := by
  funext name
  unfold extendRule baseShape
  rw [Ledger.synthesize_definitions_filter, ← Ledger.synthesize_baseDeclaration]
  cases (Ledger.ofDefinitions defs).synthesize.definitions.find? name with
  | none => rfl
  | some ds =>
    simp only [Option.getD_some, Option.bind_some]
    cases ds.getLast? <;> rfl

/-- A declared name is defined by the definitions document of the ledger. -/
lemma exists_definition_of_baseDeclaration {name : String} {b : TypeDeclaration}
    (hb : baseDeclaration defs name = some b) :
    ∃ d ∈ (Ledger.ofDefinitions defs).synthesize.definitions.flatMap (·.2), d.name = name := by
  rw [← Ledger.synthesize_baseDeclaration] at hb
  obtain ⟨ds, hds, hlast⟩ := Option.bind_eq_some_iff.1 hb
  have hmem : b ∈ ((Ledger.ofDefinitions defs).synthesize.definitions.flatMap (·.2)).filter
      (·.name == name) := by
    rw [Ledger.synthesize_definitions_filter, hds]
    exact List.mem_of_getLast? hlast
  have := List.mem_filter.1 hmem
  exact ⟨b, this.1, by simpa using this.2⟩

/-- The base definitions shape the schema by the base declaration of each name. -/
lemma definitionsPass_shaped {height : Nat} {s₁ : Schema}
    (h : extendStep compositionBase ((Ledger.ofDefinitions defs).synthesize.definitions.flatMap
      fun (_, ds) => ds.map Definition.type) height = .ok s₁) :
    Shaped (baseShape defs) s₁ := by
  rw [definitionsDocument] at h
  have hs := extend_shaped compositionBase_shaped (by simp [KindsAgree]) (extend_of_extendStep h)
  rwa [extendRule_definitions] at hs

/-- An extension that applies to a schema shaped by the base declarations has the kind of the
type it extends. -/
lemma kindsAgree_applicable {s₁ : Schema} (hs : Shaped (baseShape defs) s₁)
    (exts : List TypeDeclaration) :
    KindsAgree (baseShape defs) [] (exts.filter (extensionApplies s₁)) := by
  intro e he hn p hp
  rw [extendRule_nil] at hp
  have happ := (List.mem_filter.1 he).2
  have hshape := hs.shaped e.name hn
  rw [hp] at hshape
  obtain ⟨t, ht, rfl⟩ := Option.map_eq_some_iff.1 hshape
  simpa [extensionApplies, ht] using happ

/-- The extensions that apply to a schema shaped by the base declarations, of a name that is not
built in, are those of the kind of the name's base declaration. -/
lemma filter_applicable {s₁ : Schema} (hs : Shaped (baseShape defs) s₁) {name : String}
    (hn : isStandardName name = false) {b : TypeDeclaration}
    (hb : baseDeclaration defs name = some b) :
    (((Ledger.ofDefinitions defs).synthesize.extensions.flatMap (·.2)).filter
        (extensionApplies s₁)).filter (·.name == name) =
      ((extensionDeclarations defs name).map (·.2)).filter (·.kind == b.kind) := by
  have hshape := hs.shaped name hn
  rw [baseShape, hb] at hshape
  obtain ⟨t, ht, hview⟩ := Option.map_eq_some_iff.1 hshape
  have hkind : t.kind = b.kind := congrArg Prod.fst hview
  rw [← Ledger.synthesize_extensions_filter, List.filter_filter, List.filter_filter]
  refine List.filter_congr fun e _ => ?_
  by_cases hname : e.name = name
  · simp [extensionApplies, hname, ht, hkind, Bool.beq_comm]
  · simp [beq_eq_false_iff_ne.2 hname]

/-- The applicable extensions shape the schema by the merge law. -/
lemma extensionsPass_shaped {height : Nat} {s₁ s₂ : Schema} (hs : Shaped (baseShape defs) s₁)
    (h : extendStep s₁ ((((Ledger.ofDefinitions defs).synthesize.extensions.flatMap (·.2)).filter
      (extensionApplies s₁)).map Definition.typeExtension) height = .ok s₂) :
    Shaped (composedShape defs) s₂ := by
  rw [extensionsDocument] at h
  refine (extend_shaped hs (kindsAgree_applicable defs hs _) (extend_of_extendStep h)).congr
    fun name hn => ?_
  unfold extendRule composedShape baseShape
  simp only [List.filter_nil, List.getLast?_nil]
  cases hb : baseDeclaration defs name with
  | none => rfl
  | some b =>
    simp only [Option.map_some, filter_applicable defs hs hn hb]
    rw [← mergeDeclared_append]
    rfl

end Passes

section Assembled

variable {defs : List (String × Definition)} {height : Nat} {schema : Schema}
  {errors : List String}

/-- A schema assembled from the ledger of some definitions is a schema shaped by the merge law, in
which every declared name has a type, with root types added. -/
lemma assembled_shaped (h : assembleSchema (Ledger.ofDefinitions defs).synthesize.definitions
      (Ledger.ofDefinitions defs).synthesize.extensions height = .ok (schema, errors)) :
    ∃ s, Shaped (composedShape defs) s ∧
      (∀ n, (baseDeclaration defs n).isSome → (s.type? n).isSome) ∧ schema = s.withRootTypes := by
  unfold assembleSchema at h
  obtain ⟨s₁, h₁, h⟩ := ok_of_bind_eq_ok h
  obtain ⟨s₂, h₂, h⟩ := ok_of_bind_eq_ok h
  replace h₁ := ok_of_mapError_eq_ok h₁
  replace h₂ := ok_of_mapError_eq_ok h₂
  have hc : schema = s₂.withRootTypes := (congrArg Prod.fst (Except.ok.inj h)).symm
  have hshape₁ := definitionsPass_shaped _ h₁
  refine ⟨s₂, extensionsPass_shaped _ hshape₁ h₂, fun n hn => ?_, hc⟩
  -- a declared name is defined in the first pass and kept by the second
  obtain ⟨b, hb⟩ := Option.isSome_iff_exists.1 hn
  rw [definitionsDocument] at h₁
  rw [extensionsDocument] at h₂
  have hsome₁ := extend_type?_isSome (extend_of_extendStep h₁)
    (.inl (exists_definition_of_baseDeclaration _ hb))
  exact extend_type?_isSome (extend_of_extendStep h₂) (.inr hsome₁)

/-- A type of a schema assembled from the ledger of some definitions is a built-in one, or has the
kind and members the merge law gives its name. -/
lemma assembled_type?_cases (h : assembleSchema (Ledger.ofDefinitions defs).synthesize.definitions
      (Ledger.ofDefinitions defs).synthesize.extensions height = .ok (schema, errors))
    {T : String} {t : NamedType} (ht : schema.type? T = some t) :
    (isStandardName T = true ∧ standardType? T = some t) ∨
      (isStandardName T = false ∧ composedShape defs T = some (t.kind, t.memberNodes)) := by
  obtain ⟨s, hs, -, hc⟩ := assembled_shaped h
  rw [hc] at ht
  have hroot := withRootTypes_type? ht
  cases hT : isStandardName T
  · -- a type that is not built in comes from the schema before root types were added
    have hst : s.type? T = some t := by simpa [standardType?_eq_none hT] using hroot
    refine .inr ⟨rfl, ?_⟩
    rw [← hs.shaped T hT, hst]
    rfl
  · refine .inl ⟨rfl, ?_⟩
    cases hst : s.type? T with
    | none => simpa [hst] using hroot
    | some t' =>
      rw [hst] at hroot
      cases hroot
      exact hs.builtin T t hst hT

end Assembled

/-- A composed schema is a schema shaped by the merge law, in which every declared name has a
type, with root types added. -/
theorem compose_schema_shaped {services : List Service} {height : Nat} {c : Composition}
    (h : compose services height = .ok c) :
    ∃ s, Shaped (composedShape (serviceDefinitions services)) s ∧
      (∀ n, (baseDeclaration (serviceDefinitions services) n).isSome → (s.type? n).isSome) ∧
      c.schema = s.withRootTypes := by
  obtain ⟨errors, hs, -⟩ := compose_ok h
  rw [Ledger.build_eq] at hs
  exact assembled_shaped hs

/-- A type of a composed schema is a built-in one, or has the kind and members the merge law
gives its name. -/
lemma composed_type?_cases {services : List Service} {height : Nat} {c : Composition}
    (h : compose services height = .ok c) {T : String} {t : NamedType}
    (ht : c.schema.type? T = some t) :
    (isStandardName T = true ∧ standardType? T = some t) ∨
      (isStandardName T = false ∧
        composedShape (serviceDefinitions services) T = some (t.kind, t.memberNodes)) := by
  obtain ⟨errors, hs, -⟩ := compose_ok h
  rw [Ledger.build_eq] at hs
  exact assembled_type?_cases hs ht

/-- A declared name that does not start with two underscores has a type in the composed schema. -/
lemma composed_type?_isSome {services : List Service} {height : Nat} {c : Composition}
    (h : compose services height = .ok c) {T : String} (hT : T.startsWith "__" = false)
    (hdecl : (baseDeclaration (serviceDefinitions services) T).isSome) : (c.schema.type? T).isSome := by
  obtain ⟨s, -, hpresent, hc⟩ := compose_schema_shaped h
  obtain ⟨t, ht⟩ := Option.isSome_iff_exists.1 (hpresent T hdecl)
  rw [hc, withRootTypes_type?_of ht hT]
  rfl

/-- The merge law: a type of a composed schema that is not built in has the kind of its base
declaration (the last one, or the empty declaration of its first extension's kind), and its
members, each with the declaration the schema keeps of it, are the members of that declaration
merged, by name in order and the last declaration of a name winning, with those of every
extension of the type of that kind, in service order, fields marked external left out. -/
theorem composed_type_merge_law {services : List Service} {height : Nat} {c : Composition}
    (h : compose services height = .ok c) {T : String} (hT : isStandardName T = false)
    {t : NamedType} (ht : c.schema.type? T = some t) :
    composedShape (serviceDefinitions services) T = some (t.kind, t.memberNodes) := by
  rcases composed_type?_cases h ht with ⟨hstd, -⟩ | ⟨-, hshape⟩
  · rw [hT] at hstd
    cases hstd
  · exact hshape

/-- Three services: the base `type Query { a: Int }`, an object extension adding `b`, and an
interface extension of `Query`, whose kind does not match. -/
def queryServices : List Service :=
  [⟨"A", ⟨[.type ⟨none, "Query", [], .object [] [⟨none, "a", [], .named "Int", []⟩]⟩]⟩⟩,
   ⟨"B", ⟨[.typeExtension ⟨none, "Query", [], .object [] [⟨none, "b", [], .named "Int", []⟩]⟩]⟩⟩,
   ⟨"C", ⟨[.typeExtension ⟨none, "Query", [],
      .interface [] [⟨none, "c", [], .named "Int", []⟩]⟩]⟩⟩]

/-- The composed `Query` follows the merge law. -/
theorem query_merge_law :
    ∃ c t, compose queryServices 0 = .ok c ∧ isStandardName "Query" = false ∧
      c.schema.type? "Query" = some t ∧
      composedShape (serviceDefinitions queryServices) "Query" = some (t.kind, t.memberNodes) := by
  obtain ⟨c, hc, ht⟩ := exists_ok_of_any (x := compose queryServices 0)
    (p := fun c : Composition => (c.schema.type? "Query").isSome) (by decide +kernel)
  obtain ⟨t, ht⟩ := Option.isSome_iff_exists.1 ht
  exact ⟨c, t, hc, by decide, ht, composed_type_merge_law hc (by decide) ht⟩

/-- The interface extension adds nothing to the object `Query`. -/
example : ((compose queryServices 0).toOption.bind (·.schema.type? "Query")).map (·.memberNames) =
    some ["a", "b"] := by
  decide +kernel

end Federation
