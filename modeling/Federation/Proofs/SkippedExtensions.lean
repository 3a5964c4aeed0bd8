import Mathlib.Tactic.Lemma
import Mathlib.Tactic.SplitIfs
import Mathlib.Data.List.Basic
import Federation.Proofs.MergeLaw

/-!
# Skipped extensions are the refused ones

The second pass of a composition validates the extensions against the schema of the first pass,
then leaves out the extensions of a type of another kind. The two decisions are made apart: the
validation rule on extended kinds reports `Cannot extend non-<kind> type '<name>'.` or, for a
type that exists nowhere, `Cannot extend type '<name>' because it is not defined.`; the filter
keeps an extension when the type is absent or of the extension's kind.

They agree. No other rule reports a message that starts with `Cannot extend`
(`checkDeclaration_refusals`), so the refusals of a document are those of the rule on extended
kinds, in order (`validateDeclarations_refusals`). Every extended name has a type after the first
pass, its own base or the phantom of its first extension (`definitionsPass_type?_isSome`), so the
rule never reports an undefined type, and it refuses exactly the extensions the filter leaves
out, one message each, in order (`skipped_extensions_reported`).
-/

namespace Federation.Schema

open Syntax

/-- Whether a validation message refuses an extension: it starts with `Cannot extend`. -/
def refusesExtension (m : String) : Bool := m.startsWith "Cannot extend"

/-- No message of a list refuses an extension. -/
def Quiet (ms : List String) : Prop := ∀ m ∈ ms, refusesExtension m = false

/-- A message whose first letter is not `C` refuses nothing. -/
lemma refusesExtension_of_head {m : String} (hm : m.toList.head? ≠ some 'C') :
    refusesExtension m = false := by
  rw [Bool.eq_false_iff]
  intro h
  rw [refusesExtension, String.startsWith_string_iff] at h
  obtain ⟨t, ht⟩ := h
  rw [← ht] at hm
  simp at hm

namespace Quiet

@[simp] lemma nil : Quiet [] := by simp [Quiet]

@[simp] lemma append_iff {a b : List String} : Quiet (a ++ b) ↔ Quiet a ∧ Quiet b := by
  simp [Quiet, or_imp, forall_and]

lemma singleton {m : String} (h : m.toList.head? ≠ some 'C') : Quiet [m] := by
  simpa [Quiet] using refusesExtension_of_head h

lemma flatMap {α : Type} {l : List α} {f : α → List String} (h : ∀ x ∈ l, Quiet (f x)) :
    Quiet (l.flatMap f) := by
  intro m hm
  obtain ⟨x, hx, hmx⟩ := List.mem_flatMap.1 hm
  exact h x hx m hmx

lemma filterMap {α : Type} {l : List α} {f : α → Option String}
    (h : ∀ x ∈ l, ∀ m, f x = some m → m.toList.head? ≠ some 'C') : Quiet (l.filterMap f) := by
  intro m hm
  obtain ⟨x, hx, hfx⟩ := List.mem_filterMap.1 hm
  exact refusesExtension_of_head (h x hx m hfx)

lemma map {α : Type} {l : List α} {f : α → String} (h : ∀ x ∈ l, (f x).toList.head? ≠ some 'C') :
    Quiet (l.map f) := by
  intro m hm
  obtain ⟨x, hx, rfl⟩ := List.mem_map.1 hm
  exact refusesExtension_of_head (h x hx)

lemma filter_eq_nil {ms : List String} (h : Quiet ms) : ms.filter refusesExtension = [] :=
  List.filter_eq_nil_iff.2 fun m hm => by simp [h m hm]

/-- A fold whose steps only append quiet messages keeps its messages quiet. -/
lemma foldl {α β : Type} {f : List String × β → α → List String × β} {xs : List α}
    {init : List String × β} (hf : ∀ acc x, Quiet acc.1 → Quiet (f acc x).1) (h : Quiet init.1) :
    Quiet (xs.foldl f init).1 := by
  induction xs generalizing init with
  | nil => exact h
  | cons x xs ih => exact ih (hf init x h)

end Quiet

/-! ### Every other rule -/

section Checks

variable (ctx : SdlContext)

lemma quiet_checkTypeName (known : List String) (name : String) :
    Quiet (checkTypeName ctx known name).1 := by
  unfold checkTypeName
  split
  · exact Quiet.singleton (by simp [String.toList_append])
  · split
    · exact Quiet.singleton (by simp [String.toList_append])
    · exact Quiet.nil

lemma quiet_checkEnumValues (memory : Table (List String)) (typeName : String)
    (values : List String) : Quiet (checkEnumValues ctx memory typeName values).1 := by
  unfold checkEnumValues
  refine Quiet.foldl (fun ⟨errors, seen⟩ v hacc => ?_) Quiet.nil
  dsimp only at hacc ⊢
  split_ifs
  · exact Quiet.append_iff.2 ⟨hacc, Quiet.singleton (by simp [String.toList_append])⟩
  · exact Quiet.append_iff.2 ⟨hacc, Quiet.singleton (by simp [String.toList_append])⟩
  · exact hacc

lemma quiet_checkFieldNames (memory : Table (List String)) (typeName : String)
    (fields : List String) : Quiet (checkFieldNames ctx memory typeName fields).1 := by
  unfold checkFieldNames
  refine Quiet.foldl (fun ⟨errors, seen⟩ v hacc => ?_) Quiet.nil
  dsimp only at hacc ⊢
  split_ifs
  · exact Quiet.append_iff.2 ⟨hacc, Quiet.singleton (by simp [String.toList_append])⟩
  · exact Quiet.append_iff.2 ⟨hacc, Quiet.singleton (by simp [String.toList_append])⟩
  · exact hacc

lemma quiet_checkUniqueDirectives (seen : List String) (directives : List Directive) :
    Quiet (checkUniqueDirectives ctx seen directives).1 := by
  unfold checkUniqueDirectives
  refine Quiet.foldl (fun ⟨errors, seen⟩ d hacc => ?_) Quiet.nil
  dsimp only at hacc ⊢
  split_ifs
  · exact Quiet.append_iff.2 ⟨hacc, Quiet.singleton (by simp [String.toList_append])⟩
  · exact hacc
  · exact hacc

lemma quiet_checkArgumentDefinitions (typeName : String) (fields : List FieldDefinition) :
    Quiet (checkArgumentDefinitions typeName fields) :=
  Quiet.flatMap fun _ _ => Quiet.map fun _ _ => by simp [String.toList_append]

lemma quiet_checkTypeRef (t : TypeRef) : Quiet (checkTypeRef ctx t) := by
  unfold checkTypeRef
  dsimp only
  split
  · exact Quiet.nil
  · exact Quiet.singleton (by simp [String.toList_append])

lemma quiet_checkInputFields (v : Value) : Quiet (checkInputFields v) := by
  induction v using checkInputFields.induct
    (motive_1 := fun seen fields => Quiet (checkInputFields.go seen fields))
    (motive_3 := fun items => Quiet (checkInputFields.goList items)) with
  | case1 fields ih => simpa [checkInputFields] using ih
  | case2 items ih => simpa [checkInputFields] using ih
  | case3 t h1 h2 =>
    unfold checkInputFields
    split
    · exact absurd rfl (h1 _)
    · exact absurd rfl (h2 _)
    · exact Quiet.nil
  | case4 => simp [checkInputFields.goList]
  | case5 v vs ihv ihvs => simp [checkInputFields.goList, ihv, ihvs]
  | case6 seen => simp [checkInputFields.go]
  | case7 seen n v rest ihv ihrest =>
    simp only [checkInputFields.go, Quiet.append_iff]
    refine ⟨⟨?_, ihv⟩, ihrest⟩
    split
    · exact Quiet.singleton (by simp [String.toList_append])
    · exact Quiet.nil

lemma quiet_checkDirective (loc : DirectiveLocation) (d : Directive) :
    Quiet (checkDirective ctx loc d) := by
  unfold checkDirective
  dsimp only
  simp only [Quiet.append_iff]
  refine ⟨⟨⟨⟨?_, ?_⟩, ?_⟩, ?_⟩, ?_⟩
  · split
    · split
      · exact Quiet.nil
      · exact Quiet.singleton (by simp [String.toList_append])
    · exact Quiet.singleton (by simp [String.toList_append])
  · split
    · refine Quiet.filterMap fun a _ m hm => ?_
      split at hm
      · cases hm
      · cases hm; simp [String.toList_append]
    · exact Quiet.nil
  · exact Quiet.map fun _ _ => by simp [String.toList_append]
  · exact Quiet.flatMap fun _ _ => quiet_checkInputFields _
  · split
    · refine Quiet.filterMap fun a _ m hm => ?_
      split at hm
      · cases hm; simp [String.toList_append]
      · cases hm
    · exact Quiet.nil

lemma quiet_checkDirectives (loc : DirectiveLocation) (ds : List Directive) :
    Quiet (checkDirectives ctx loc ds) :=
  Quiet.flatMap fun d _ => quiet_checkDirective ctx loc d

lemma quiet_checkInputValue (loc : DirectiveLocation) (v : InputValueDefinition) :
    Quiet (checkInputValue ctx loc v) := by
  unfold checkInputValue
  simp only [Quiet.append_iff]
  refine ⟨⟨⟨quiet_checkUniqueDirectives ctx _ _, quiet_checkTypeRef ctx _⟩, ?_⟩,
    quiet_checkDirectives ctx _ _⟩
  split
  · exact quiet_checkInputFields _
  · exact Quiet.nil

lemma quiet_checkField (f : FieldDefinition) : Quiet (checkField ctx f) := by
  unfold checkField
  simp only [Quiet.append_iff]
  exact ⟨⟨⟨quiet_checkUniqueDirectives ctx _ _,
    Quiet.flatMap fun v _ => quiet_checkInputValue ctx _ v⟩, quiet_checkTypeRef ctx _⟩,
    quiet_checkDirectives ctx _ _⟩

lemma quiet_checkParts (extension : Bool) (d : TypeDeclaration) :
    Quiet (checkParts ctx extension d) := by
  unfold checkParts
  dsimp only
  split
  · exact quiet_checkDirectives ctx _ _
  · exact Quiet.append_iff.2 ⟨Quiet.append_iff.2 ⟨Quiet.flatMap fun _ _ => quiet_checkTypeRef ctx _,
      quiet_checkDirectives ctx _ _⟩, Quiet.flatMap fun f _ => quiet_checkField ctx f⟩
  · exact Quiet.append_iff.2 ⟨Quiet.append_iff.2 ⟨Quiet.flatMap fun _ _ => quiet_checkTypeRef ctx _,
      quiet_checkDirectives ctx _ _⟩, Quiet.flatMap fun f _ => quiet_checkField ctx f⟩
  · exact Quiet.append_iff.2 ⟨quiet_checkDirectives ctx _ _,
      Quiet.flatMap fun _ _ => quiet_checkTypeRef ctx _⟩
  · exact Quiet.append_iff.2 ⟨quiet_checkDirectives ctx _ _, Quiet.flatMap fun v _ =>
      Quiet.append_iff.2 ⟨quiet_checkUniqueDirectives ctx _ _, quiet_checkDirectives ctx _ _⟩⟩
  · exact Quiet.append_iff.2 ⟨quiet_checkDirectives ctx _ _,
      Quiet.flatMap fun v _ => quiet_checkInputValue ctx _ v⟩

/-! ### The rule on extended kinds -/

lemma refusesExtension_cannotExtend (rest : String) :
    refusesExtension ("Cannot extend" ++ rest) = true := by
  rw [refusesExtension, String.startsWith_string_iff, String.toList_append]
  exact List.prefix_append _ _

/-- Every message of the rule on extended kinds refuses an extension. -/
lemma refusals_checkExtension (d : TypeDeclaration) :
    (checkExtension ctx d).filter refusesExtension = checkExtension ctx d := by
  refine List.filter_eq_self.2 fun m hm => ?_
  unfold checkExtension at hm
  dsimp only at hm
  split at hm
  · split at hm
    · cases hm
    · rw [List.mem_singleton] at hm
      subst hm
      have : "Cannot extend non-" = "Cannot extend" ++ " non-" := rfl
      simp only [this, String.append_assoc, refusesExtension_cannotExtend]
  · rw [List.mem_singleton] at hm
    subst hm
    have : "Cannot extend type '" = "Cannot extend" ++ " type '" := rfl
    simp only [this, String.append_assoc, refusesExtension_cannotExtend]

/-- Of the messages about one declaration, those that refuse an extension are the messages of the
rule on extended kinds, which looks at extensions only. -/
lemma checkDeclaration_refusals (memory : SdlMemory) (extension : Bool) (d : TypeDeclaration) :
    (checkDeclaration ctx memory extension d).1.filter refusesExtension =
      if extension then checkExtension ctx d else [] := by
  unfold checkDeclaration
  -- whatever the body, every rule but the one on extended kinds reports quiet messages
  cases extension <;> cases d.body <;>
    simp [List.filter_append, Quiet.filter_eq_nil, quiet_checkTypeName, quiet_checkEnumValues,
      quiet_checkFieldNames, quiet_checkArgumentDefinitions, quiet_checkUniqueDirectives,
      quiet_checkParts, refusals_checkExtension]

end Checks

/-- The messages of a definition that refuse an extension: those of the rule on extended kinds. -/
def SdlContext.refusals (ctx : SdlContext) : Definition → List String
  | .typeExtension d => checkExtension ctx d
  | _ => []

/-- Definitions other than extensions are refused nothing. -/
lemma SdlContext.refusals_definitions (ctx : SdlContext) (ds : List TypeDeclaration) :
    (ds.map Definition.type).flatMap ctx.refusals = [] := by
  simp [List.flatMap_map, SdlContext.refusals]

/-- A walk over definitions whose every step appends the refusals of its definition to what was
reported before reports, in all, those refusals in order. -/
lemma foldl_refusals (ctx : SdlContext) {β : Type} {f : List String × β → Definition → List String × β}
    (hf : ∀ acc x, (f acc x).1.filter refusesExtension = acc.1.filter refusesExtension ++ ctx.refusals x)
    (defs : List Definition) (acc : List String × β) :
    (defs.foldl f acc).1.filter refusesExtension =
      acc.1.filter refusesExtension ++ defs.flatMap ctx.refusals := by
  induction defs generalizing acc with
  | nil => simp
  | cons x defs ih => rw [List.foldl_cons, ih, hf, List.flatMap_cons, List.append_assoc]

/-- The messages of a document that refuse an extension are those the rule on extended kinds
reports for its extensions, in order. -/
lemma validateDeclarations_refusals (schema : Schema) (defs : List Definition) :
    (validateDeclarations schema defs).filter refusesExtension =
      defs.flatMap (SdlContext.ofDocument schema defs).refusals := by
  unfold validateDeclarations
  refine (foldl_refusals (SdlContext.ofDocument schema defs) (fun acc x => ?_) defs
    (([] : List String), ({} : SdlMemory))).trans ?_
  · obtain ⟨errors, memory⟩ := acc
    cases x <;> simp [List.filter_append, checkDeclaration_refusals, SdlContext.refusals]
  · simp

end Federation.Schema

namespace Federation

open Syntax Schema

/-- A composition carries the schema and the validation errors that the two passes assemble. -/
lemma compose_assembles {services : List Service} {height : Nat} {c : Composition}
    (h : compose services height = .ok c) :
    assembleSchema (Ledger.build services).synthesize.definitions
      (Ledger.build services).synthesize.extensions (height + 1) = .ok (c.schema, c.errors) := by
  unfold compose at h
  obtain ⟨⟨schema, errors⟩, hs, h⟩ := ok_of_bind_eq_ok h
  obtain ⟨metadata, -, h⟩ := ok_of_bind_eq_ok h
  cases h
  exact hs

/-- A document of extensions defines no kind. -/
lemma SdlContext.definedKinds_extensions (schema : Schema) (xs : List TypeDeclaration) :
    (SdlContext.ofDocument schema (xs.map .typeExtension)).definedKinds = [] := by
  simp [SdlContext.ofDocument]

/-- Against a document that defines no kind, the rule on extended kinds refuses an extension of a
type the schema has exactly when the extension does not apply, naming the extension's kind. -/
lemma checkExtension_of_type? {ctx : SdlContext} (hk : ctx.definedKinds = []) {d : TypeDeclaration}
    {t : NamedType} (ht : ctx.schema.type? d.name = some t) :
    checkExtension ctx d =
      if extensionApplies ctx.schema d then []
      else ["Cannot extend non-" ++ d.kind.phrase ++ " type '" ++ d.name ++ "'."] := by
  simp [checkExtension, hk, ht, extensionApplies]

/-- An extended name has a base declaration: its last own one, or the phantom of its first
extension. -/
lemma baseDeclaration_isSome_of_extension {defs : List (String × Definition)} {name : String}
    (h : extensionDeclarations defs name ≠ []) : (baseDeclaration defs name).isSome := by
  unfold baseDeclaration
  split
  · rfl
  · obtain ⟨e, es, he⟩ := List.exists_cons_of_ne_nil h
    simp [he]

/-- The first pass of a composition gives every extended name a type. -/
lemma definitionsPass_type?_isSome {defs : List (String × Definition)} {height : Nat}
    {s₁ : Schema}
    (h₁ : extendStep compositionBase
      (((Ledger.ofDefinitions defs).synthesize.definitions.flatMap (·.2)).map Definition.type)
      height = .ok s₁)
    {d : TypeDeclaration} (hd : d ∈ (Ledger.ofDefinitions defs).synthesize.extensions.flatMap (·.2)) :
    (s₁.type? d.name).isSome := by
  have hmem : d ∈ ((Ledger.ofDefinitions defs).synthesize.extensions.flatMap (·.2)).filter
      (·.name == d.name) := List.mem_filter.2 ⟨hd, by simp⟩
  rw [Ledger.synthesize_extensions_filter] at hmem
  have hext : extensionDeclarations defs d.name ≠ [] := by
    intro hnil
    simp [hnil] at hmem
  obtain ⟨b, hb⟩ := Option.isSome_iff_exists.1 (baseDeclaration_isSome_of_extension hext)
  have h₁' := extend_of_extendStep h₁
  rw [← List.append_nil (List.map Definition.type _),
    ← List.map_nil (f := Definition.typeExtension)] at h₁'
  exact extend_type?_isSome h₁' (.inl (exists_definition_of_baseDeclaration _ hb))

/-- Each item refused unless it passes a test: the refusals are those of the items that fail it,
in order. -/
lemma flatMap_unless {α : Type} (xs : List α) (p : α → Bool) (f : α → String) :
    xs.flatMap (fun x => if p x then [] else [f x]) = (xs.filter fun x => !p x).map f := by
  induction xs with
  | nil => rfl
  | cons x xs ih => cases hx : p x <;> simp [hx, ih]

/-- A message about an undefined type refuses an extension. -/
lemma refusesExtension_of_undefined {m : String} (h : m.startsWith "Cannot extend type '" = true) :
    refusesExtension m = true := by
  rw [String.startsWith_string_iff] at h
  rw [refusesExtension, String.startsWith_string_iff]
  refine List.IsPrefix.trans ?_ h
  simp [List.cons_prefix_cons]

/-- A message about an extension of another kind is no message about an undefined type. -/
lemma mismatch_startsWith_undefined (k n : String) :
    ("Cannot extend non-" ++ k ++ " type '" ++ n ++ "'.").startsWith "Cannot extend type '" = false := by
  rw [Bool.eq_false_iff]
  intro h
  rw [String.startsWith_string_iff] at h
  simp [String.toList_append, List.cons_prefix_cons] at h

/-- Skipped extensions are exactly the refused ones. In a composition, the first pass extends the
schema of the composition's directives by the definitions; the second extends the result by the
extensions that apply to it, those of a type it lacks or has with the extension's kind. Of all the
validation errors, those that start with `Cannot extend` are one `Cannot extend non-<kind> type
'<name>'.` for each extension left out of the second pass, in the order of the extensions, naming
its kind and type; none says that a type is not defined. -/
theorem skipped_extensions_reported {services : List Service} {height : Nat} {c : Composition}
    (h : compose services height = .ok c) :
    let ledger := (Ledger.build services).synthesize
    let exts := ledger.extensions.flatMap (·.2)
    ∃ s₁ s₂,
      extendStep compositionBase ((ledger.definitions.flatMap (·.2)).map Definition.type)
        (height + 1 + 6) = .ok s₁ ∧
      extendStep s₁ ((exts.filter (extensionApplies s₁)).map Definition.typeExtension)
        (height + 1 + 6) = .ok s₂ ∧
      c.schema = s₂.withRootTypes ∧
      c.errors.filter refusesExtension =
        (exts.filter fun d => !extensionApplies s₁ d).map (fun d =>
          "Cannot extend non-" ++ d.kind.phrase ++ " type '" ++ d.name ++ "'.") ∧
      ∀ m ∈ c.errors, m.startsWith "Cannot extend type '" = false := by
  intro ledger exts
  have hA := compose_assembles h
  unfold assembleSchema at hA
  obtain ⟨s₁, h₁, hA⟩ := ok_of_bind_eq_ok hA
  obtain ⟨s₂, h₂, hA⟩ := ok_of_bind_eq_ok hA
  replace h₁ := ok_of_mapError_eq_ok h₁
  replace h₂ := ok_of_mapError_eq_ok h₂
  obtain ⟨hschema, herrors⟩ := Prod.mk.inj (Except.ok.inj hA)
  rw [definitionsDocument, List.map_nil, List.append_nil] at h₁
  -- the refusals are those of the extensions document, each extension's own
  have hrefusals : c.errors.filter refusesExtension =
      (exts.filter fun d => !extensionApplies s₁ d).map fun d =>
        "Cannot extend non-" ++ d.kind.phrase ++ " type '" ++ d.name ++ "'." := by
    rw [← herrors, List.filter_append, validateDeclarations_refusals, validateDeclarations_refusals,
      definitionsDocument]
    simp only [List.map_nil, List.append_nil, SdlContext.refusals_definitions, List.nil_append]
    rw [List.flatMap_map, ← flatMap_unless]
    refine List.flatMap_congr fun d hd => ?_
    have hd' : d ∈ (Ledger.ofDefinitions (serviceDefinitions services)).synthesize.extensions.flatMap
        (·.2) := by rwa [← Ledger.build_eq]
    have h₁' := h₁
    rw [Ledger.build_eq] at h₁'
    obtain ⟨t, ht⟩ := Option.isSome_iff_exists.1 (definitionsPass_type?_isSome h₁' hd')
    exact checkExtension_of_type? (SdlContext.definedKinds_extensions _ _) ht
  refine ⟨s₁, s₂, h₁, h₂, hschema.symm, hrefusals, fun m hm => ?_⟩
  -- a message about an undefined type would be a refusal, and every refusal names a kind
  rw [Bool.eq_false_iff]
  intro hundef
  have hmem : m ∈ c.errors.filter refusesExtension :=
    List.mem_filter.2 ⟨hm, refusesExtension_of_undefined hundef⟩
  rw [hrefusals] at hmem
  obtain ⟨d, -, rfl⟩ := List.mem_map.1 hmem
  rw [mismatch_startsWith_undefined] at hundef
  cases hundef

/-- Service `A` declares the enum `Color`, service `B` extends `Color` as an input object. -/
def mismatchedColor : List Service :=
  [⟨"A", ⟨[.type ⟨none, "Color", [], .enum [⟨none, "RED", []⟩]⟩]⟩⟩,
   ⟨"B", ⟨[.typeExtension ⟨none, "Color", [],
      .inputObject [⟨none, "RED", .named "Int", none, []⟩]⟩]⟩⟩]

/-- The input-object extension of the enum `Color` is refused once and left out. -/
theorem mismatched_color_reported :
    ∃ c, compose mismatchedColor 0 = .ok c ∧
      c.errors.filter refusesExtension = ["Cannot extend non-input object type 'Color'."] ∧
      let ledger := (Ledger.build mismatchedColor).synthesize
      let exts := ledger.extensions.flatMap (·.2)
      ∃ s₁ s₂,
        extendStep compositionBase ((ledger.definitions.flatMap (·.2)).map Definition.type)
          (0 + 1 + 6) = .ok s₁ ∧
        extendStep s₁ ((exts.filter (extensionApplies s₁)).map Definition.typeExtension)
          (0 + 1 + 6) = .ok s₂ ∧
        c.schema = s₂.withRootTypes ∧
        c.errors.filter refusesExtension =
          (exts.filter fun d => !extensionApplies s₁ d).map (fun d =>
            "Cannot extend non-" ++ d.kind.phrase ++ " type '" ++ d.name ++ "'.") ∧
        ∀ m ∈ c.errors, m.startsWith "Cannot extend type '" = false := by
  obtain ⟨c, hc, hp⟩ := exists_ok_of_any (x := compose mismatchedColor 0)
    (p := fun c : Composition =>
      c.errors.filter refusesExtension == ["Cannot extend non-input object type 'Color'."])
    (by decide +kernel)
  exact ⟨c, hc, by simpa using hp, skipped_extensions_reported hc⟩

end Federation
