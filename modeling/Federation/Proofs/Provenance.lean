import Mathlib.Tactic.Lemma
import Federation.Proofs.MergeLaw

/-!
# Where the declarations a composed schema keeps come from

Every type of a schema, and every field, input field and enum value, keeps the declaration it
was built from. Built-in types keep none. Extending a schema keeps the declaration of every type
it has and gives each type the document defines its last definition, so a schema whose types keep
only declarations of some kind keeps only such declarations once extended by definitions of that
kind (`NodesFrom.extend`); adding root types assembles the schema again from its own types.

So every type of a schema assembled from a ledger keeps no declaration or one of the ledger's
definitions document (`assembled_nodesFrom`), and every field it keeps is a field of the type's
base declaration or of one of its extensions (`assembled_field_node`): the member nodes of a type
are those the merge law gives it.
-/

namespace Federation.Schema

open Syntax

/-! ### Built-in types and drafts -/

/-- Built-in types keep no declaration, of themselves or of their members. -/
lemma standardType?_nodes {n : String} {t : NamedType} (h : standardType? n = some t) :
    t.node = none ∧ ∀ e ∈ t.memberNodes, e.2 = none := by
  have hall : standardTypes.all (fun t => t.node.isNone && t.memberNodes.all (·.2.isNone)) = true := by
    decide
  have ht := List.all_eq_true.1 hall t (List.mem_of_find?_eq_some h)
  simp only [Bool.and_eq_true, Option.isNone_iff_eq_none, List.all_eq_true] at ht
  exact ⟨ht.1, fun e he => ht.2 e he⟩

/-- Completing a draft keeps the declaration of the type it starts from. -/
lemma Completion.node {drafts : Table Draft} {dr : Draft} {t : NamedType}
    (h : Completion drafts dr t) : t.node = dr.base.node := by
  cases dr with
  | complete t' =>
    cases h
    rfl
  | pending base adds => exact h.2.2.1

/-- The draft of a definition starts from the definition, unless its name is built in. -/
lemma draftOfDefinition_node {d : TypeDeclaration} {exts : List TypeDeclaration} {dr : Draft}
    (h : draftOfDefinition d exts = .ok dr) :
    dr.base.node = some d ∨ ∃ t, standardType? d.name = some t ∧ dr = .complete t := by
  unfold draftOfDefinition at h
  split at h
  · rename_i t ht
    cases h
    exact .inr ⟨t, ht, rfl⟩
  · dsimp only at h
    split at h
    · obtain ⟨url, -, h⟩ := ok_of_bind_eq_ok h
      cases h
      exact .inl rfl
    · obtain ⟨values, -, h⟩ := ok_of_bind_eq_ok h
      cases h
      exact .inl rfl
    · cases h
      exact .inl rfl

/-- The draft of a type the schema has starts from a type with the same declaration. -/
lemma draftOfExisting_node {t : NamedType} {exts : List TypeDeclaration} {dr : Draft}
    (h : draftOfExisting t exts = .ok dr) : dr.base.node = t.node := by
  unfold draftOfExisting at h
  split at h
  · cases h
    rfl
  · dsimp only at h
    split at h
    · obtain ⟨url, -, h⟩ := ok_of_bind_eq_ok h
      cases h
      rfl
    · obtain ⟨added, -, h⟩ := ok_of_bind_eq_ok h
      cases h
      rfl
    · split at h <;> cases h <;> rfl
    · cases h
      rfl

/-! ### Schemas whose declarations come from a source -/

/-- Every type a schema lists keeps no declaration, or one of a property. -/
def NodesFrom (D : TypeDeclaration → Prop) (s : Schema) : Prop :=
  ∀ e ∈ s.types, ∀ d, e.2.node = some d → D d

section NodesFrom

variable {D : TypeDeclaration → Prop}

/-- A schema assembled from types that keep no declaration or one of a property keeps no other. -/
lemma NodesFrom.assemble {types : Table NamedType} (h : ∀ e ∈ types, ∀ d, e.2.node = some d → D d)
    (initial : List String) (directives : List DirectiveDefinition)
    (query mutation subscription : Option String) :
    NodesFrom D (Schema.assemble types initial directives query mutation subscription) := by
  intro e he d hd
  have hl := mem_assemble_types he
  cases hfind : types.find? e.1 with
  | none =>
    -- a name the table does not file holds a built-in type
    rw [hfind, Option.orElse_none] at hl
    rw [(standardType?_nodes hl).1] at hd
    cases hd
  | some t =>
    rw [hfind, Option.orElse_some] at hl
    cases hl
    exact h _ (Table.mem_of_find? hfind) d hd

/-- Adding root types keeps the declarations of a schema's types. -/
lemma NodesFrom.withRootTypes {s : Schema} (h : NodesFrom D s) : NodesFrom D s.withRootTypes := by
  rcases withRootTypes_cases s with hs | ⟨q, m, u, hs⟩ <;> rw [hs]
  · exact h
  · exact NodesFrom.assemble h _ _ _ _ _

/-- Extending a schema by definitions of a property keeps it keeping declarations of that
property. -/
lemma NodesFrom.extend {schema s' : Schema} {ds es : List TypeDeclaration} {height : Nat}
    (h : NodesFrom D schema) (hds : ∀ d ∈ ds, D d)
    (he : schema.extend (ds.map .type ++ es.map .typeExtension) height = .ok s') :
    NodesFrom D s' := by
  rcases extend_cases he with ⟨-, -, rfl⟩ | ⟨drafts, types, hd, hc, rfl⟩
  · exact h
  refine NodesFrom.assemble (fun e he d hnode => ?_) _ _ _ _ _
  obtain ⟨dr, hdr, hcomp⟩ := (completeAll_spec drafts hc).1 e he
  rw [hcomp.node] at hnode
  have hfound := draftTypes_find? hd e.1
  rw [Table.find?_of_mem (draftTypes_nodup hd) hdr] at hfound
  -- the draft of the name comes from its last definition, or else from the schema's type
  split at hfound
  · rename_i x hlast
    have hmem := (List.mem_filter.1 (List.mem_of_getLast? hlast)).1
    rcases draftOfDefinition_node (eq_ok_of_toOption hfound.symm) with hn | ⟨t, hstd, rfl⟩
    · rw [hn] at hnode
      cases hnode
      exact hds _ hmem
    · change t.node = some d at hnode
      rw [(standardType?_nodes hstd).1] at hnode
      cases hnode
  · split at hfound
    · rename_i x hexist
      rw [draftOfExisting_node (eq_ok_of_toOption hfound.symm)] at hnode
      exact h x (List.mem_filter.1 (List.mem_of_getLast? hexist)).1 d hnode
    · cases hfound

end NodesFrom

/-! ### The declaration each type keeps -/

/-- A schema whose types that are not built in each keep the declaration a rule gives their name;
a name the schema has no type for is given none. -/
def NodesBy (node : String → Option TypeDeclaration) (s : Schema) : Prop :=
  ∀ n, isStandardName n = false → (s.type? n).bind (·.node) = node n

section NodesBy

variable {schema s' : Schema} {ds es : List TypeDeclaration} {height : Nat}

/-- A type that is not built in keeps, once a schema is extended, the last definition of its name
in the document, or else the declaration its type kept. -/
lemma extend_type?_node (hentries : ∀ e ∈ schema.types, schema.type? e.1 = some e.2)
    (h : schema.extend (ds.map .type ++ es.map .typeExtension) height = .ok s') {n : String}
    (hn : isStandardName n = false) {t : NamedType} (ht : s'.type? n = some t) :
    t.node = (ds.filter (·.name == n)).getLast?.or ((schema.type? n).bind (·.node)) := by
  rcases extend_cases h with ⟨rfl, rfl, rfl⟩ | ⟨drafts, types, hd, hc, rfl⟩
  · simp [ht]
  have hfind : types.find? n = some t := by
    simpa [standardType?_eq_none hn] using assemble_type? ht
  obtain ⟨dr, hdr, hcomp⟩ := (completeAll_spec drafts hc).1 (n, t) (Table.mem_of_find? hfind)
  rw [hcomp.node]
  have hfound := draftTypes_find? hd n
  rw [Table.find?_of_mem (draftTypes_nodup hd) hdr] at hfound
  -- the draft of the name comes from its last definition, or else from the schema's type
  cases hlast : (ds.filter (·.name == n)).getLast? with
  | some d =>
    rw [hlast] at hfound
    have hdn : d.name = n := by simpa using (List.mem_filter.1 (List.mem_of_getLast? hlast)).2
    rcases draftOfDefinition_node (eq_ok_of_toOption hfound.symm) with hnode | ⟨t', hstd, -⟩
    · exact hnode
    · rw [hdn, standardType?_eq_none hn] at hstd
      cases hstd
  | none =>
    rw [hlast] at hfound
    cases hexist : (schema.types.filter (·.1 == n)).getLast? with
    | none => rw [hexist] at hfound; cases hfound
    | some e =>
      rw [hexist] at hfound
      have hmem := List.mem_filter.1 (List.mem_of_getLast? hexist)
      have hen : e.1 = n := by simpa using hmem.2
      have hse : schema.type? n = some e.2 := hen ▸ hentries e hmem.1
      rw [draftOfExisting_node (eq_ok_of_toOption hfound.symm), hse]
      rfl

/-- Extending a schema gives each name that is not built in the last definition of it in the
document, and keeps the declaration of every other name. -/
lemma NodesBy.extend {node : String → Option TypeDeclaration} (hs : NodesBy node schema)
    (hentries : ∀ e ∈ schema.types, schema.type? e.1 = some e.2)
    (h : schema.extend (ds.map .type ++ es.map .typeExtension) height = .ok s') :
    NodesBy (fun n => (ds.filter (·.name == n)).getLast?.or (node n)) s' := by
  intro n hn
  show _ = (ds.filter (·.name == n)).getLast?.or (node n)
  rw [← hs n hn]
  cases ht : s'.type? n with
  | some t => exact extend_type?_node hentries h hn ht
  | none =>
    -- a name defined, or with a type before, has a type after
    cases hlast : (ds.filter (·.name == n)).getLast? with
    | some d =>
      have hmem := List.mem_filter.1 (List.mem_of_getLast? hlast)
      have hsome := extend_type?_isSome h (.inl ⟨d, hmem.1, by simpa using hmem.2⟩)
      rw [ht] at hsome
      cases hsome
    | none =>
      cases hs' : schema.type? n with
      | none => rfl
      | some t₀ =>
        have hsome := extend_type?_isSome h (.inr (by rw [hs']; rfl))
        rw [ht] at hsome
        cases hsome

end NodesBy

/-! ### Assembled schemas -/

section Assembled

variable {defs : List (String × Definition)} {height : Nat} {schema : Schema}
  {errors : List String}

/-- Every type of a schema assembled from the ledger of some definitions keeps no declaration, or a
declaration of the ledger's definitions document. -/
lemma assembled_nodesFrom (h : assembleSchema (Ledger.ofDefinitions defs).synthesize.definitions
      (Ledger.ofDefinitions defs).synthesize.extensions height = .ok (schema, errors)) :
    NodesFrom (· ∈ (Ledger.ofDefinitions defs).synthesize.definitions.flatMap (·.2)) schema := by
  unfold assembleSchema at h
  obtain ⟨s₁, h₁, h⟩ := ok_of_bind_eq_ok h
  obtain ⟨s₂, h₂, h⟩ := ok_of_bind_eq_ok h
  replace h₁ := ok_of_mapError_eq_ok h₁
  replace h₂ := ok_of_mapError_eq_ok h₂
  cases h
  rw [definitionsDocument] at h₁
  rw [extensionsDocument] at h₂
  have hbase : NodesFrom (· ∈ (Ledger.ofDefinitions defs).synthesize.definitions.flatMap (·.2))
      compositionBase := NodesFrom.assemble (by simp) _ _ _ _ _
  have hn₁ := NodesFrom.extend hbase (fun d hd => hd) (extend_of_extendStep h₁)
  exact (NodesFrom.extend hn₁ (by simp) (extend_of_extendStep h₂)).withRootTypes

/-- Every type of a schema assembled from the ledger of some definitions whose name is not built
in keeps the base declaration of its name: the last one, or the empty declaration of its first
extension's kind. Extensions leave the declaration a type keeps alone. -/
lemma assembled_node (h : assembleSchema (Ledger.ofDefinitions defs).synthesize.definitions
      (Ledger.ofDefinitions defs).synthesize.extensions height = .ok (schema, errors))
    {T : String} (hT : isStandardName T = false) {t : NamedType} (ht : schema.type? T = some t) :
    t.node = baseDeclaration defs T := by
  unfold assembleSchema at h
  obtain ⟨s₁, h₁, h⟩ := ok_of_bind_eq_ok h
  obtain ⟨s₂, h₂, h⟩ := ok_of_bind_eq_ok h
  replace h₁ := ok_of_mapError_eq_ok h₁
  replace h₂ := ok_of_mapError_eq_ok h₂
  cases h
  have hshape₁ := definitionsPass_shaped _ h₁
  rw [definitionsDocument] at h₁
  rw [extensionsDocument] at h₂
  have hbase : NodesBy (fun _ => none) compositionBase := fun n hn => by
    have := compositionBase_shaped.shaped n hn
    cases hc : compositionBase.type? n with
    | none => rfl
    | some t₀ => rw [hc] at this; cases this
  -- the definitions pass gives each name the last of its definitions in the ledger
  have hnodes₁ : NodesBy (baseDeclaration defs) s₁ := by
    have := NodesBy.extend hbase compositionBase_shaped.entries (extend_of_extendStep h₁)
    intro n hn
    rw [this n hn]
    dsimp only
    rw [Option.or_none, Ledger.synthesize_definitions_filter,
      ← Ledger.synthesize_baseDeclaration]
    cases (Ledger.ofDefinitions defs).synthesize.definitions.find? n <;> rfl
  have hnodes₂ := NodesBy.extend hnodes₁ hshape₁.entries (extend_of_extendStep h₂)
  have hst : s₂.type? T = some t := by
    simpa [standardType?_eq_none hT] using withRootTypes_type? ht
  have := hnodes₂ T hT
  simpa [hst] using this

/-- A member a merged table of declared members keeps is one a declaration lists. -/
lemma mem_mergeDeclared_nil {ds : List TypeDeclaration} {k : String} {m : MemberNode}
    (h : (k, some m) ∈ mergeDeclared [] ds) : ∃ d ∈ ds, (k, m) ∈ d.members := by
  rcases Table.mem_setAll h with h | h
  · cases h
  · simp only [declared, List.mem_map, List.mem_flatMap] at h
    obtain ⟨e, ⟨d, hd, he⟩, heq⟩ := h
    simp only [Prod.mk.injEq, Option.some.injEq] at heq
    obtain ⟨rfl, rfl⟩ := heq
    exact ⟨d, hd, he⟩

/-- A field a declaration lists is a field of its object or interface body. -/
lemma TypeDeclaration.field_of_mem_members {d : TypeDeclaration} {k : String} {fd : FieldDefinition}
    (h : (k, MemberNode.field fd) ∈ d.members) :
    ∃ is fs, (d.body = .object is fs ∨ d.body = .interface is fs) ∧ fd ∈ fs := by
  unfold TypeDeclaration.members at h
  split at h
  · rename_i is fs hb
    obtain ⟨f, hf, hfd⟩ := List.mem_map.1 h
    cases hfd
    exact ⟨is, fs, .inl hb, hf⟩
  · rename_i is fs hb
    obtain ⟨f, hf, hfd⟩ := List.mem_map.1 h
    cases hfd
    exact ⟨is, fs, .inr hb, hf⟩
  · obtain ⟨f, -, hfd⟩ := List.mem_map.1 h
    cases hfd
  · obtain ⟨v, -, hfd⟩ := List.mem_map.1 h
    cases hfd
  · cases h
  · cases h

/-- A field declaration a type of an assembled schema keeps is a field of the type's base
declaration or of one of its extensions. -/
lemma assembled_field_node (h : assembleSchema (Ledger.ofDefinitions defs).synthesize.definitions
      (Ledger.ofDefinitions defs).synthesize.extensions height = .ok (schema, errors))
    {T : String} {t : NamedType} (ht : schema.type? T = some t) {k : String} {fd : FieldDefinition}
    (hk : (k, some (MemberNode.field fd)) ∈ t.memberNodes) :
    ∃ d, (baseDeclaration defs T = some d ∨ d ∈ (extensionDeclarations defs T).map (·.2)) ∧
      ∃ is fs, (d.body = .object is fs ∨ d.body = .interface is fs) ∧ fd ∈ fs := by
  rcases assembled_type?_cases h ht with ⟨-, hstd⟩ | ⟨-, hshape⟩
  · cases (standardType?_nodes hstd).2 _ hk
  · obtain ⟨b, hb, hp⟩ := composedShape_eq_some hshape
    rw [Prod.mk.injEq] at hp
    rw [hp.2] at hk
    obtain ⟨d, hd, hmem⟩ := mem_mergeDeclared_nil hk
    refine ⟨d, ?_, TypeDeclaration.field_of_mem_members hmem⟩
    rcases List.mem_cons.1 hd with rfl | hd
    · exact .inl hb
    · exact .inr (List.mem_filter.1 hd).1

end Assembled

end Federation.Schema
