import Mathlib.Tactic.Lemma
import Federation.Proofs.Resolution

/-!
# When a composed schema cannot be built

Composing services builds, for each name that is not built in, the declaration its base is made
of and the extensions of that declaration's kind, all without their fields marked `@external`
(`survivors`). Base declarations a later one overrides, extensions of another kind, and fields
marked `@external` are never built.

A composition resolves every name a declaration it builds refers to: each is a built-in type or
one some service declares or extends (`knowsType`). The converse fails. When the schema cannot be
built, the failure ends in one of three reasons (`PassReason`), read off the declarations the
failing pass builds: a name one of them refers to is no type; one of them gives a default, which
is read against a type that takes no input; or the call stack runs out. The second needs no
unknown name at all. The failure carries the validation errors of the base definitions when the
first pass fails, and those of both passes when the second one does
(`compose_unbuildable_law`).
-/

namespace Federation

open Syntax Schema

/-! ### The declarations a composition builds -/

section Declarations

variable (defs : List (String × Definition))

/-- The declaration a composition builds the base of a name from: the name's base declaration,
unless the name is built in. -/
def survivingBase (n : String) : Option TypeDeclaration :=
  if isStandardName n then none else baseDeclaration defs n

/-- The extensions a composition applies to a name: those of the kind of the declaration it builds
the name's base from. -/
def survivingExtensions (n : String) : List TypeDeclaration :=
  ((survivingBase defs n).map fun b =>
    ((extensionDeclarations defs n).map (·.2)).filter (·.kind == b.kind)).getD []

/-- The declarations of a name a composition builds. -/
def survivors (n : String) : List TypeDeclaration :=
  (survivingBase defs n).toList ++ survivingExtensions defs n

/-- Whether a composition has a type of a name: a built-in one, or one that some definition
declares or extends. -/
def knowsType (n : String) : Bool :=
  isStandardName n || !(baseDeclarations defs n).isEmpty || !(extensionDeclarations defs n).isEmpty

/-- Why a pass of composition cannot build its schema, read off the declarations it builds: one of
them refers to a name the composition has no type of; one of them gives a default, and a default
is read against a type that takes no input; or the call stack runs out. -/
inductive PassReason (built : TypeDeclaration → Prop) : String → Prop
  | unknown {d : TypeDeclaration} {x : String} : built d → x ∈ d.references →
      knowsType defs x = false → PassReason built (unknownTypeMessage x)
  | unexpected {d : TypeDeclaration} (x : String) : built d → d.hasDefault = true →
      PassReason built (unexpectedInputMessage x)
  | tooDeep : PassReason built (Fault.message .tooDeep)

variable {defs}

/-- A name has a base declaration exactly when some definition declares or extends it. -/
lemma isSome_baseDeclaration (n : String) :
    (baseDeclaration defs n).isSome =
      (!(baseDeclarations defs n).isEmpty || !(extensionDeclarations defs n).isEmpty) := by
  unfold baseDeclaration
  cases hb : baseDeclarations defs n with
  | nil => cases extensionDeclarations defs n <;> simp
  | cons e es => simp [List.getLast?_cons]

lemma knowsType_eq (n : String) :
    knowsType defs n = (isStandardName n || (baseDeclaration defs n).isSome) := by
  rw [knowsType, isSome_baseDeclaration, Bool.or_assoc]

/-- A name a composition builds a base for is not built in, and the base is its base
declaration. -/
lemma survivingBase_eq_some {n : String} {b : TypeDeclaration} (h : survivingBase defs n = some b) :
    isStandardName n = false ∧ baseDeclaration defs n = some b := by
  unfold survivingBase at h
  split at h
  · cases h
  · exact ⟨by simpa using ‹¬isStandardName n = true›, h⟩

/-- An extension a composition applies to a name is one of the name's extensions, of the kind of
the base it builds for the name. -/
lemma mem_survivingExtensions {n : String} {d : TypeDeclaration} :
    d ∈ survivingExtensions defs n ↔ ∃ b, survivingBase defs n = some b ∧
      d ∈ (extensionDeclarations defs n).map (·.2) ∧ d.kind = b.kind := by
  unfold survivingExtensions
  cases survivingBase defs n with
  | none => simp
  | some b => simp

/-- A declaration a composition builds is a type definition or extension of some service,
without its fields marked `@external`, or the phantom base of a name that is only extended. -/
lemma mem_survivors {n : String} {d : TypeDeclaration} (h : d ∈ survivors defs n) :
    (∃ x ∈ defs, ∃ d₀, (x.2 = .type d₀ ∨ x.2 = .typeExtension d₀) ∧ d = d₀.stripExternal) ∨
      ∃ k, d = Ledger.phantom n k := by
  unfold survivors survivingExtensions survivingBase at h
  split at h
  · simp at h
  · rcases List.mem_append.1 h with hb | he
    · rcases baseDeclaration_cases _ _ (Option.mem_toList.1 hb) with ⟨e, he, rfl⟩ | ⟨k, rfl⟩
      · obtain ⟨x, hx, d₀, hx2, -, hed⟩ := exists_of_mem_baseDeclarations _ _ he
        exact .inl ⟨x, hx, d₀, .inl hx2, hed⟩
      · exact .inr ⟨k, rfl⟩
    · cases hb : baseDeclaration defs n with
      | none => simp [hb] at he
      | some b =>
        simp only [hb, Option.map_some, Option.getD_some, List.mem_filter, List.mem_map] at he
        obtain ⟨⟨e, he, rfl⟩, -⟩ := he
        obtain ⟨x, hx, d₀, hx2, -, hed⟩ := exists_of_mem_extensionDeclarations _ _ he
        exact .inl ⟨x, hx, d₀, .inr hx2, hed⟩

end Declarations

/-- Declarations of kinds without members refer to nothing. -/
lemma TypeDeclaration.references_eq_nil {d : TypeDeclaration}
    (h : d.kind = .scalar ∨ d.kind = .enum) : d.references = [] := by
  cases hb : d.body <;> simp_all [TypeDeclaration.kind, TypeBody.kind, TypeDeclaration.references]

@[simp] lemma Ledger.references_phantom (n : String) (k : TypeKind) :
    (Ledger.phantom n k).references = [] := by
  cases k <;> rfl

/-! ### Schemas shaped by a rule -/

namespace Schema.Shaped

variable {rule : String → Option (TypeKind × Table (Option MemberNode))} {s : Schema}

/-- Each type of a shaped schema is filed under its own name. -/
lemma named_entries (hs : Shaped rule s) : ∀ e ∈ s.types, e.2.name = e.1 :=
  fun e he => hs.named e.1 e.2 (hs.entries e he)

/-- A shaped schema has a type of a name that is not built in exactly when the rule gives one. -/
lemma mem_keys_iff (hs : Shaped rule s) {x : String} (hx : isStandardName x = false) :
    x ∈ s.types.keys ↔ (rule x).isSome := by
  rw [← Table.isSome_find?_iff, ← hs.shaped x hx, Option.isSome_map]
  rfl

/-- A name resolves among the drafts of a document over a shaped schema exactly when it is built
in, the document defines it, or the rule gives it a type. -/
lemma lookupDraft_isSome_iff (hs : Shaped rule s) {ds : List TypeDeclaration}
    {extensions : Table (List TypeDeclaration)} {drafts : Table Draft}
    (h : draftTypes s ds extensions = .ok drafts) (x : String) :
    (lookupDraft drafts x).isSome ↔
      isStandardName x = true ∨ (∃ d ∈ ds, d.name = x) ∨ (rule x).isSome := by
  rw [Schema.lookupDraft_isSome_iff h]
  cases hx : isStandardName x
  · rw [hs.mem_keys_iff hx]
  · simp

end Schema.Shaped

/-! ### The two passes -/

section Passes

variable {defs : List (String × Definition)}

/-- The last definition of a name in the definitions document of the ledger is the name's base
declaration. -/
lemma getLast?_definitions (n : String) :
    (((Ledger.ofDefinitions defs).synthesize.definitions.flatMap (·.2)).filter (·.name == n)).getLast? =
      baseDeclaration defs n := by
  rw [Ledger.synthesize_definitions_filter, ← Ledger.synthesize_baseDeclaration]
  cases (Ledger.ofDefinitions defs).synthesize.definitions.find? n <;> rfl

/-- The definitions document of the ledger defines a name exactly when the name has a base
declaration. -/
lemma exists_definition_iff (n : String) :
    (∃ d ∈ (Ledger.ofDefinitions defs).synthesize.definitions.flatMap (·.2), d.name = n) ↔
      (baseDeclaration defs n).isSome := by
  rw [← getLast?_definitions, List.getLast?_isSome, Ne, List.filter_eq_nil_iff]
  simp only [beq_iff_eq, not_forall, not_not, exists_prop]

/-- The extensions of a name that is not built in that the second pass applies are those a
composition applies to it. -/
lemma applicable_filter {s₁ : Schema} (hs : Shaped (baseShape defs) s₁) {n : String}
    (hn : isStandardName n = false) :
    (((Ledger.ofDefinitions defs).synthesize.extensions.flatMap (·.2)).filter
        (extensionApplies s₁)).filter (·.name == n) = survivingExtensions defs n := by
  unfold survivingExtensions survivingBase
  rw [if_neg (by simp [hn])]
  cases hb : baseDeclaration defs n with
  | some b => exact filter_applicable defs hs hn hb
  | none =>
    -- a name with no base declaration has no extensions either
    have hext : extensionDeclarations defs n = [] := by
      have h : (baseDeclaration defs n).isSome = _ := isSome_baseDeclaration n
      rw [hb] at h
      simp at h
      exact h.2
    refine List.eq_nil_iff_forall_not_mem.2 fun e he => ?_
    obtain ⟨he, hname⟩ := List.mem_filter.1 he
    have hmem : e ∈ ((Ledger.ofDefinitions defs).synthesize.extensions.flatMap (·.2)).filter
        (·.name == n) := List.mem_filter.2 ⟨(List.mem_filter.1 he).1, hname⟩
    rw [Ledger.synthesize_extensions_filter, hext] at hmem
    cases hmem

section Definitions

variable {drafts : Table Draft}
  (hd : draftTypes compositionBase ((Ledger.ofDefinitions defs).synthesize.definitions.flatMap (·.2)) []
    = .ok drafts)
include hd

/-- A name resolves among the drafts of the first pass exactly when the composition has a type of
it. -/
lemma definitionsPass_lookupDraft (x : String) :
    (lookupDraft drafts x).isSome = knowsType defs x := by
  rw [knowsType_eq, Bool.eq_iff_iff, compositionBase_shaped.lookupDraft_isSome_iff hd,
    exists_definition_iff]
  simp

/-- A declaration the first pass waits on is the base declaration of a name not built in. -/
lemma definitionsPass_waits {d : TypeDeclaration} (hw : Waits drafts d) :
    ∃ n, survivingBase defs n = some d := by
  obtain ⟨n, hn, hlast | hext⟩ := waits_cases compositionBase_shaped.named_entries hd hw
  · refine ⟨n, ?_⟩
    rw [survivingBase, if_neg (by simp [hn]), ← getLast?_definitions, hlast]
  · simp at hext

/-- Once the first pass completes its drafts, every name a base declaration it builds refers to
is a type of the composition. -/
lemma definitionsPass_resolves {height : Nat} {types : Table NamedType}
    (hc : completeAll drafts height = .ok types) {n : String} {b : TypeDeclaration}
    (hb : survivingBase defs n = some b) : ∀ x ∈ b.references, knowsType defs x = true := by
  obtain ⟨hn, hbase⟩ := survivingBase_eq_some hb
  by_cases hk : b.kind = .scalar ∨ b.kind = .enum
  · simp [TypeDeclaration.references_eq_nil hk]
  obtain ⟨hks, hke⟩ := not_or.1 hk
  -- the draft filed under the name is pending on its base declaration
  have hlast := (getLast?_definitions n).trans hbase
  have hmem := List.mem_filter.1 (List.mem_of_getLast? hlast)
  have hname : b.name = n := by simpa using hmem.2
  obtain ⟨dr, hdr⟩ : ∃ dr, drafts.find? n = some dr :=
    Option.isSome_iff_exists.1 (Table.isSome_find?_iff.2 ((mem_keys_draftTypes hd n).2
      (.inl ⟨b, hmem.1, hname⟩)))
  have hf := draftTypes_find? hd n
  simp only [hlast, hdr] at hf
  obtain ⟨base, rfl, hbn, hbk⟩ :=
    draftOfDefinition_of_kind (by rw [hname]; exact hn) hks hke (eq_ok_of_toOption hf.symm)
  have hl : lookupDraft drafts base.name = drafts.find? n := by
    rw [hbn, hname, lookupDraft_of_nonstandard hn]
  rw [hdr] at hl
  intro x hx
  rw [← definitionsPass_lookupDraft hd]
  exact references_resolved_of_pending hc hl List.mem_cons_self hbk.symm x hx

/-- Why the first pass fails to complete its drafts, read off the base declarations. -/
lemma definitionsPass_reason {r : String} (hr : BuildReason drafts r) :
    PassReason defs (fun d => ∃ n, survivingBase defs n = some d) r := by
  cases hr with
  | unknown hw hx hl =>
    refine .unknown (definitionsPass_waits hd hw) hx ?_
    rw [← definitionsPass_lookupDraft hd, hl]
    rfl
  | unexpected x hw hdef => exact .unexpected x (definitionsPass_waits hd hw) hdef
  | tooDeep => exact .tooDeep

end Definitions

section Extensions

variable {s₁ : Schema} (hs : Shaped (baseShape defs) s₁) {drafts : Table Draft}
  (hd : draftTypes s₁ [] ((((Ledger.ofDefinitions defs).synthesize.extensions.flatMap (·.2)).filter
    (extensionApplies s₁)).foldl (fun m d => Table.update m d.name [] (· ++ [d])) []) = .ok drafts)
include hs hd

/-- A name resolves among the drafts of the second pass exactly when the composition has a type
of it. -/
lemma extensionsPass_lookupDraft (x : String) :
    (lookupDraft drafts x).isSome = knowsType defs x := by
  rw [knowsType_eq, Bool.eq_iff_iff, hs.lookupDraft_isSome_iff hd]
  simp [baseShape]

/-- A declaration the second pass waits on is an extension a composition applies. -/
lemma extensionsPass_waits {d : TypeDeclaration} (hw : Waits drafts d) :
    ∃ n, d ∈ survivingExtensions defs n := by
  obtain ⟨n, hn, hlast | hext⟩ := waits_cases hs.named_entries hd hw
  · simp at hlast
  · rw [find?_extensionTable, applicable_filter hs hn] at hext
    exact ⟨n, hext⟩

/-- Once the second pass completes its drafts, every name an extension it applies refers to is a
type of the composition. -/
lemma extensionsPass_resolves {height : Nat} {types : Table NamedType}
    (hc : completeAll drafts height = .ok types) {n : String} {d : TypeDeclaration}
    (hdn : d ∈ survivingExtensions defs n) : ∀ x ∈ d.references, knowsType defs x = true := by
  obtain ⟨b, hb, -, hdk⟩ := mem_survivingExtensions.1 hdn
  obtain ⟨hn, hbase⟩ := survivingBase_eq_some hb
  by_cases hk : d.kind = .scalar ∨ d.kind = .enum
  · simp [TypeDeclaration.references_eq_nil hk]
  obtain ⟨hks, hke⟩ := not_or.1 hk
  -- the type the first pass built of the name has the kind of its base declaration
  have hshape := hs.shaped n hn
  rw [baseShape, hbase] at hshape
  obtain ⟨t, ht, hview⟩ := Option.map_eq_some_iff.1 hshape
  have htk : d.kind = t.kind := hdk.trans (congrArg Prod.fst hview).symm
  have htn : t.name = n := hs.named n t ht
  -- its draft is pending on the extensions applied to the name
  obtain ⟨dr, hdr, hex⟩ := draftTypes_find?_existing hs.entries hd ht
  rw [find?_extensionTable, applicable_filter hs hn] at hex
  obtain ⟨base, rfl, hbn, hbk⟩ := draftOfExisting_of_kind (by rw [htn]; exact hn)
    (htk ▸ hks) (htk ▸ hke) (List.ne_nil_of_mem hdn) hex
  have hl : lookupDraft drafts base.name = drafts.find? n := by
    rw [hbn, htn, lookupDraft_of_nonstandard hn]
  rw [hdr] at hl
  intro x hx
  rw [← extensionsPass_lookupDraft hs hd]
  exact references_resolved_of_pending hc hl hdn (htk.trans hbk.symm) x hx

/-- Why the second pass fails to complete its drafts, read off the extensions it applies. -/
lemma extensionsPass_reason {r : String} (hr : BuildReason drafts r) :
    PassReason defs (fun d => ∃ n, d ∈ survivingExtensions defs n) r := by
  cases hr with
  | unknown hw hx hl =>
    refine .unknown (extensionsPass_waits hs hd hw) hx ?_
    rw [← extensionsPass_lookupDraft hs hd, hl]
    rfl
  | unexpected x hw hdef => exact .unexpected x (extensionsPass_waits hs hd hw) hdef
  | tooDeep => exact .tooDeep

end Extensions

/-- A schema assembled from the ledger of some definitions was built from every declaration a
composition builds, so each name such a declaration refers to is a type of the composition. -/
lemma assembled_resolves {height : Nat} {p : Schema × List String}
    (h : assembleSchema (Ledger.ofDefinitions defs).synthesize.definitions
      (Ledger.ofDefinitions defs).synthesize.extensions height = .ok p)
    {n : String} {d : TypeDeclaration} (hd : d ∈ survivors defs n) :
    ∀ x ∈ d.references, knowsType defs x = true := by
  unfold assembleSchema at h
  obtain ⟨s₁, h₁, h⟩ := ok_of_bind_eq_ok h
  obtain ⟨s₂, h₂, -⟩ := ok_of_bind_eq_ok h
  replace h₁ := ok_of_mapError_eq_ok h₁
  replace h₂ := extend_of_extendStep (ok_of_mapError_eq_ok h₂)
  have hs := definitionsPass_shaped defs h₁
  replace h₁ := extend_of_extendStep h₁
  rw [definitionsDocument] at h₁
  rw [extensionsDocument] at h₂
  rcases List.mem_append.1 hd with hb | he
  · -- the base declaration, built by the first pass
    have hb := Option.mem_toList.1 hb
    rcases extend_cases h₁ with ⟨hds, -, -⟩ | ⟨drafts, types, hdr, hc, -⟩
    · have hsome : (baseDeclaration defs n).isSome := by simp [(survivingBase_eq_some hb).2]
      obtain ⟨e, he, -⟩ := (exists_definition_iff n).2 hsome
      rw [hds] at he
      cases he
    · exact definitionsPass_resolves hdr hc hb
  · -- an extension of the base's kind, applied by the second pass
    rcases extend_cases h₂ with ⟨-, hes, -⟩ | ⟨drafts, types, hdr, hc, -⟩
    · obtain ⟨b, hb, -⟩ := mem_survivingExtensions.1 he
      have happ := applicable_filter hs (survivingBase_eq_some hb).1
      rw [hes, List.filter_nil] at happ
      rw [← happ] at he
      cases he
    · exact extensionsPass_resolves hs hdr hc he

end Passes

/-! ### Composing -/

lemma error_of_bind_eq_error {ε α β : Type} {x : Except ε α} {f : α → Except ε β} {e : ε}
    (h : x >>= f = .error e) : x = .error e ∨ ∃ a, x = .ok a ∧ f a = .error e := by
  cases x with
  | error e₀ =>
    cases h
    exact .inl rfl
  | ok a => exact .inr ⟨a, rfl, h⟩

/-- Carrying validation errors on a failure leaves an unbuildable schema unbuildable, and every
other failure as it is. -/
lemma mapError_withErrors {α : Type} {x : Except CompositionError α} {errors : List String}
    {f : Unbuildable} (h : x.mapError (·.withErrors errors) = .error (.unbuildable f)) :
    ∃ f₀, x = .error (.unbuildable f₀) ∧ f = { f₀ with errors } := by
  cases x with
  | ok a => cases h
  | error e =>
    cases e with
    | unbuildable f₀ =>
      cases h
      exact ⟨f₀, rfl, rfl⟩
    | invalidArgument m => cases h
    | fault g => cases h

/-- A step of extending fails with an unbuildable schema only when extending fails with a
mismatch, whose message the failure carries. -/
lemma extendStep_unbuildable {s : Schema} {doc : List Definition} {height : Nat} {f : Unbuildable}
    (h : extendStep s doc height = .error (.unbuildable f)) :
    ∃ m, s.extend doc height = .error (.mismatch m) ∧
      f = { message := "Unable to build composed schema: " ++ m } := by
  unfold extendStep at h
  split at h
  · cases h
  · rename_i m hm
    cases h
    exact ⟨m, hm, rfl⟩
  · cases h
  · cases h

/-- A composition fails with an unbuildable schema only when assembling its ledger does. -/
lemma assembleSchema_of_compose {services : List Service} {height : Nat} {f : Unbuildable}
    (h : compose services height = .error (.unbuildable f)) :
    assembleSchema (Ledger.build services).synthesize.definitions
      (Ledger.build services).synthesize.extensions (height + 1) = .error (.unbuildable f) := by
  unfold compose at h
  rcases error_of_bind_eq_error h with h | ⟨⟨schema, errors⟩, -, h⟩
  · exact h
  · -- annotating fails only with a fault
    rcases error_of_bind_eq_error h with h | ⟨_, -, h⟩
    · cases ha : annotate schema (Ledger.build services).synthesize.ownership (height + 1) <;>
        rw [ha] at h <;> cases h
    · cases h

section Errors

variable (defs : List (String × Definition))

/-- The validation errors of the first pass of composing definitions: their base declarations
checked against the composition's directives. -/
def definitionsErrors : List String :=
  validateDeclarations compositionBase
    (((Ledger.ofDefinitions defs).synthesize.definitions.flatMap (·.2)).map Definition.type)

/-- The validation errors of the second pass of composing definitions: their extensions checked
against the schema the first pass built. -/
def extensionsErrors (s₁ : Schema) : List String :=
  validateDeclarations s₁
    (((Ledger.ofDefinitions defs).synthesize.extensions.flatMap (·.2)).map Definition.typeExtension)

/-- The schema the first pass of composing definitions builds, at a height of the call stack. -/
def definitionsPass (height : Nat) : Except CompositionError Schema :=
  extendStep compositionBase
    (((Ledger.ofDefinitions defs).synthesize.definitions.flatMap (·.2)).map Definition.type) height

end Errors

/-- Assembling the ledger of some definitions fails with an unbuildable schema for a reason read
off the declarations of the pass that fails, and carries the validation errors of the passes run
so far. -/
lemma assembleSchema_unbuildable {defs : List (String × Definition)} {height : Nat}
    {f : Unbuildable}
    (h : assembleSchema (Ledger.ofDefinitions defs).synthesize.definitions
      (Ledger.ofDefinitions defs).synthesize.extensions height = .error (.unbuildable f)) :
    ∃ pre r, f.message = "Unable to build composed schema: " ++ pre ++ r ∧
      ((PassReason defs (fun d => ∃ n, survivingBase defs n = some d) r ∧
          f.errors = definitionsErrors defs) ∨
        (PassReason defs (fun d => ∃ n, d ∈ survivingExtensions defs n) r ∧
          ∃ s₁, definitionsPass defs (height + 6) = .ok s₁ ∧
            f.errors = definitionsErrors defs ++ extensionsErrors defs s₁)) := by
  unfold assembleSchema at h
  rw [definitionsDocument] at h
  rcases error_of_bind_eq_error h with h₁ | ⟨s₁, h₁, h⟩
  · -- the first pass fails
    obtain ⟨f₁, hf₁, rfl⟩ := mapError_withErrors h₁
    obtain ⟨m, hm, rfl⟩ := extendStep_unbuildable hf₁
    obtain ⟨drafts, hdr, pre, r, rfl, hr⟩ := extend_mismatch hm
    refine ⟨pre, r, String.append_assoc.symm, .inl ⟨definitionsPass_reason hdr hr, ?_⟩⟩
    simp [definitionsErrors]
  · rcases error_of_bind_eq_error h with h₂ | ⟨_, -, h⟩
    · -- the second pass fails, over the schema the first one built
      replace h₁ := ok_of_mapError_eq_ok h₁
      have hs := definitionsPass_shaped defs (by rw [definitionsDocument]; exact h₁)
      obtain ⟨f₂, hf₂, rfl⟩ := mapError_withErrors h₂
      obtain ⟨m, hm, rfl⟩ := extendStep_unbuildable hf₂
      rw [extensionsDocument] at hm
      obtain ⟨drafts, hdr, pre, r, rfl, hr⟩ := extend_mismatch hm
      refine ⟨pre, r, String.append_assoc.symm, .inr ⟨extensionsPass_reason hs hdr hr, s₁, ?_, ?_⟩⟩
      · simpa [definitionsPass] using h₁
      · simp [definitionsErrors, extensionsErrors]
    · cases h

/-- Composing services resolves every name a declaration it builds refers to: each is a built-in
type or one some service declares or extends. The converse fails. When the schema cannot be
built, the failure names a reason read off the declarations of the pass that failed, which is an
unknown name, a default read against a type that takes no input, or the call stack running out;
and it carries the validation errors of the base definitions when the first pass fails, and
those of both passes when the second one does. -/
theorem compose_unbuildable_law (services : List Service) (height : Nat) :
    (∀ c, compose services height = .ok c → ∀ n, ∀ d ∈ survivors (serviceDefinitions services) n,
        ∀ x ∈ d.references, knowsType (serviceDefinitions services) x = true) ∧
      ∀ f, compose services height = .error (.unbuildable f) → ∃ pre r,
        f.message = "Unable to build composed schema: " ++ pre ++ r ∧
        ((PassReason (serviceDefinitions services)
            (fun d => ∃ n, survivingBase (serviceDefinitions services) n = some d) r ∧
            f.errors = definitionsErrors (serviceDefinitions services)) ∨
          (PassReason (serviceDefinitions services)
            (fun d => ∃ n, d ∈ survivingExtensions (serviceDefinitions services) n) r ∧
            ∃ s₁, definitionsPass (serviceDefinitions services) (height + 7) = .ok s₁ ∧
              f.errors = definitionsErrors (serviceDefinitions services) ++
                extensionsErrors (serviceDefinitions services) s₁)) := by
  refine ⟨fun c hc n d hd => ?_, fun f hf => ?_⟩
  · obtain ⟨errors, hs, -⟩ := compose_ok hc
    rw [Ledger.build_eq] at hs
    exact assembled_resolves hs hd
  · have h := assembleSchema_of_compose hf
    rw [Ledger.build_eq] at h
    exact assembleSchema_unbuildable h

/-- One service, whose `Query` has a field taking an argument of type `Query` that defaults to
`1`. -/
def defaultServices : List Service :=
  [⟨"a", ⟨[.type ⟨none, "Query", [], .object []
    [⟨none, "f", [⟨none, "a", .named "Query", some (.int "1"), []⟩], .named "Int", []⟩]⟩]⟩⟩]

/-- A composition can fail to build its schema though every name the declarations it builds refer
to is a type of it: here a default is read against the object type `Query`. -/
theorem default_argument_unbuildable :
    compose defaultServices 0 = .error (.unbuildable
      { message := "Unable to build composed schema: Query fields cannot be resolved. " ++
          "Unexpected input type: Query." }) ∧
      ∀ n, ∀ d ∈ survivors (serviceDefinitions defaultServices) n, ∀ x ∈ d.references,
        knowsType (serviceDefinitions defaultServices) x = true := by
  refine ⟨rfl, fun n d hd => ?_⟩
  rcases mem_survivors hd with ⟨y, hy, d₀, hd₀, rfl⟩ | ⟨k, rfl⟩
  · -- the one declaration is the service's `Query`
    simp only [serviceDefinitions, defaultServices, List.flatMap_cons, List.flatMap_nil,
      List.map_cons, List.map_nil, List.append_nil, List.mem_singleton] at hy
    subst hy
    rcases hd₀ with hd₀ | hd₀ <;> cases hd₀
    decide +kernel
  · simp

end Federation
