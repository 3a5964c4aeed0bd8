import Mathlib.Tactic.Lemma
import Federation.Proofs.Provenance

/-!
# How composition fails

Composition fails as a whole in three ways (`CompositionError`), and only the first is the
failure of building the composed schema; the other two escape it. The schema cannot be built
when a declaration that takes part refers to a type that exists nowhere, or when a default
cannot be read. The arguments of a `@deprecated` or `@specifiedBy` directive may not fit the
directive; and reading the field set of a federation directive may meet a fault.

Here the escape routes are traced back to the input. Building members fails only with a
mismatch as long as the arguments of every `@deprecated` and `@specifiedBy` directive that the
declarations apply read (`Directive.argumentsRead`): this is an invariant of every builder, by
induction on its budget for the two mutually recursive readers of defaults. Annotating the
schema fails only with a fault met reading the field set of a directive on the declaration of a
type or field the schema keeps, and those declarations are the services' own. So a composition
fails with something other than an unbuildable schema only because of a directive some service
applies (`compose_error_sources`). It happens: a service that deprecates an enum value with the
reason `5` makes composition fail with an invalid argument (`deprecated_reason_escapes`).
-/

namespace Federation

open Syntax Schema

/-! ### Directives whose arguments building reads -/

namespace Syntax

/-- Whether the arguments of a directive read against its definition, for the two directives
whose arguments building a schema reads: `@deprecated` and `@specifiedBy`. -/
def Directive.argumentsRead (d : Directive) : Bool :=
  if d.name = "deprecated" then (argumentValues deprecatedDirective d).isOk
  else if d.name = "specifiedBy" then (argumentValues specifiedByDirective d).isOk
  else true

/-- The directives a field applies: to itself and to its arguments. -/
def FieldDefinition.appliedDirectives (f : FieldDefinition) : List Directive :=
  f.directives ++ f.arguments.flatMap (·.directives)

/-- The directives a declaration applies: to itself and to each of its members, the arguments
of its fields included. -/
def TypeDeclaration.appliedDirectives (d : TypeDeclaration) : List Directive :=
  d.directives ++ match d.body with
    | .object _ fs | .interface _ fs => fs.flatMap FieldDefinition.appliedDirectives
    | .inputObject fs => fs.flatMap (·.directives)
    | .enum vs => vs.flatMap (·.directives)
    | .scalar | .union _ => []

/-- Whether every directive a declaration applies has arguments that read. -/
def TypeDeclaration.directivesRead (d : TypeDeclaration) : Bool :=
  d.appliedDirectives.all (·.argumentsRead)

/-- The directives a type definition or extension applies. Other definitions are not built into
the schema. -/
def Definition.appliedDirectives : Definition → List Directive
  | .type d | .typeExtension d => d.appliedDirectives
  | _ => []

namespace TypeDeclaration

variable {d : TypeDeclaration} {x : Directive}

lemma mem_appliedDirectives_of_directives (hx : x ∈ d.directives) : x ∈ d.appliedDirectives :=
  List.mem_append_left _ hx

lemma mem_appliedDirectives_of_field {is : List String} {fs : List FieldDefinition}
    (hb : d.body = .object is fs ∨ d.body = .interface is fs) {f : FieldDefinition} (hf : f ∈ fs)
    (hx : x ∈ f.appliedDirectives) : x ∈ d.appliedDirectives := by
  refine List.mem_append_right _ ?_
  rcases hb with hb | hb <;> simpa [hb] using ⟨f, hf, hx⟩

lemma mem_appliedDirectives_of_inputField {fs : List InputValueDefinition}
    (hb : d.body = .inputObject fs) {f : InputValueDefinition} (hf : f ∈ fs)
    (hx : x ∈ f.directives) : x ∈ d.appliedDirectives :=
  List.mem_append_right _ (by simpa [hb] using ⟨f, hf, hx⟩)

lemma mem_appliedDirectives_of_enumValue {vs : List EnumValueDefinition} (hb : d.body = .enum vs)
    {v : EnumValueDefinition} (hv : v ∈ vs) (hx : x ∈ v.directives) : x ∈ d.appliedDirectives :=
  List.mem_append_right _ (by simpa [hb] using ⟨v, hv, hx⟩)

/-- Removing the fields marked `@external` removes the directives they apply. -/
lemma appliedDirectives_stripExternal (hx : x ∈ d.stripExternal.appliedDirectives) :
    x ∈ d.appliedDirectives := by
  unfold stripExternal at hx
  split at hx
  · rename_i is fs hb
    simp only [appliedDirectives, hb, List.mem_append, List.mem_flatMap, List.mem_filter] at hx ⊢
    rcases hx with hx | ⟨f, ⟨hf, -⟩, hx⟩
    · exact .inl hx
    · exact .inr ⟨f, hf, hx⟩
  · exact hx

end TypeDeclaration

end Syntax

/-- A phantom base applies no directives. -/
@[simp] lemma Ledger.appliedDirectives_phantom (n : String) (k : TypeKind) :
    (Ledger.phantom n k).appliedDirectives = [] := by
  cases k <;> rfl

namespace Schema

/-- A computation that fails only with errors of a property. -/
def FailsWith {ε α : Type} (P : ε → Prop) (x : Except ε α) : Prop :=
  ∀ e, x = .error e → P e

namespace FailsWith

variable {ε α β γ : Type} {P Q : ε → Prop}

lemma ok (a : α) : FailsWith P (.ok a : Except ε α) := by
  intro e he
  cases he

lemma bind {x : Except ε α} {f : α → Except ε β} (hx : FailsWith P x)
    (hf : ∀ a, x = .ok a → FailsWith P (f a)) : FailsWith P (x >>= f) := by
  intro e he
  cases x with
  | error e₀ =>
    cases he
    exact hx _ rfl
  | ok a => exact hf a rfl e he

lemma mono {x : Except ε α} (h : FailsWith P x) (hPQ : ∀ e, P e → Q e) : FailsWith Q x :=
  fun e he => hPQ e (h e he)

lemma mapError {δ : Type} {R : δ → Prop} {x : Except ε α} {g : ε → δ} (h : FailsWith P x)
    (hg : ∀ e, P e → R (g e)) : FailsWith R (x.mapError g) := by
  intro e he
  cases x with
  | error e₀ =>
    cases he
    exact hg _ (h _ rfl)
  | ok a => cases he

lemma map {x : Except ε α} {g : α → β} (h : FailsWith P x) : FailsWith P (x.map g) := by
  intro e he
  cases x with
  | error e₀ =>
    cases he
    exact h _ rfl
  | ok a => cases he

/-- A fold fails only as its steps do. -/
lemma foldlM {f : β → γ → Except ε β} {xs : List γ} {init : β}
    (hf : ∀ x ∈ xs, ∀ b, FailsWith P (f b x)) : FailsWith P (xs.foldlM f init) := by
  induction xs generalizing init with
  | nil => exact ok _
  | cons x xs ih =>
    rw [List.foldlM_cons]
    exact bind (hf x List.mem_cons_self init) fun b _ =>
      ih fun y hy => hf y (List.mem_cons_of_mem _ hy)

/-- A filtering map fails only as its steps do. -/
lemma filterMapM {f : γ → Except ε (Option β)} {xs : List γ}
    (hf : ∀ x ∈ xs, FailsWith P (f x)) : FailsWith P (xs.filterMapM f) := by
  induction xs with
  | nil => exact ok _
  | cons x xs ih =>
    rw [List.filterMapM_cons]
    refine bind (hf x List.mem_cons_self) fun o _ => ?_
    have hrest := ih fun y hy => hf y (List.mem_cons_of_mem _ hy)
    cases o with
    | none => exact hrest
    | some b => exact bind hrest fun _ _ => ok _

end FailsWith

/-- A computation that may fail succeeds when its outcome reads as a success. -/
lemma exists_ok_of_isOk {ε α : Type} {x : Except ε α} (h : x.isOk = true) : ∃ a, x = .ok a := by
  cases x with
  | error e => cases h
  | ok a => exact ⟨a, rfl⟩

/-- A fold that may fail succeeds, with an invariant of its accumulator, when every step from
an accumulator with the invariant succeeds with one. -/
lemma foldlM_except_total {ε α β : Type} {f : α → β → Except ε α} {xs : List β} {init : α}
    (I : α → Prop) (hf : ∀ x ∈ xs, ∀ b, I b → ∃ b', f b x = .ok b' ∧ I b') (h₀ : I init) :
    ∃ r, xs.foldlM f init = .ok r ∧ I r := by
  induction xs generalizing init with
  | nil => exact ⟨init, rfl, h₀⟩
  | cons x xs ih =>
    obtain ⟨b, hb, hI⟩ := hf x List.mem_cons_self init h₀
    rw [List.foldlM_cons, hb]
    exact ih (fun y hy => hf y (List.mem_cons_of_mem _ hy)) hI

/-- A computation followed by another succeeds, with a property of its result, when the first
succeeds and the second succeeds from what the first gives. -/
lemma exists_ok_bind {ε α β : Type} {x : Except ε α} {f : α → Except ε β} {P : α → Prop}
    {Q : β → Prop} (hx : ∃ a, x = .ok a ∧ P a) (hf : ∀ a, P a → ∃ b, f a = .ok b ∧ Q b) :
    ∃ b, (x >>= f) = .ok b ∧ Q b := by
  obtain ⟨a, rfl, ha⟩ := hx
  exact hf a ha

/-! ### Mismatches -/

/-- Whether a failure of building is a mismatch: a reference or value with no place in the
schema. -/
def SchemaError.isMismatch : SchemaError → Bool
  | .mismatch _ => true
  | _ => false

@[simp] lemma SchemaError.isMismatch_within (pre : String) (e : SchemaError) :
    (e.within pre).isMismatch = e.isMismatch := by
  cases e <;> rfl

/-- A step of building that, from any memory, fails only with a mismatch. -/
def Mismatches {α : Type} (act : BuildM α) : Prop :=
  ∀ s, FailsWith (fun e : SchemaError => e.isMismatch = true) (act.run s)

namespace Mismatches

variable {α β γ : Type}

lemma pure (a : α) : Mismatches (Pure.pure a : BuildM α) :=
  fun _ => FailsWith.ok _

lemma throw {e : SchemaError} (h : e.isMismatch = true) : Mismatches (MonadExcept.throw e : BuildM α) := by
  intro s e' he
  cases he
  exact h

lemma bind {x : BuildM α} {f : α → BuildM β} (hx : Mismatches x) (hf : ∀ a, Mismatches (f a)) :
    Mismatches (x >>= f) := by
  intro s
  rw [StateT.run_bind]
  exact FailsWith.bind (hx s) fun p _ => hf p.1 p.2

lemma get : Mismatches (MonadState.get : BuildM BuildState) :=
  fun _ => FailsWith.ok _

lemma modify (f : BuildState → BuildState) : Mismatches (modify f : BuildM PUnit) :=
  fun _ => FailsWith.ok _

/-- Naming where a step failed keeps a mismatch a mismatch. -/
lemma within {act : BuildM α} (pre : String) (h : Mismatches act) :
    Mismatches (Schema.within pre act) := by
  intro s e he
  change (tryCatch (act.run s) fun e => (MonadExcept.throw (e.within pre) : BuildM α).run s) = _
    at he
  cases hx : act.run s with
  | error e₀ =>
    rw [hx] at he
    cases he
    rw [SchemaError.isMismatch_within]
    exact h s _ hx
  | ok p =>
    rw [hx] at he
    cases he

/-- A check that succeeds fails with nothing. -/
lemma lift {act : Except SchemaError α} (h : ∃ a, act = .ok a) : Mismatches (Schema.lift act) := by
  obtain ⟨a, rfl⟩ := h
  exact pure a

lemma foldlM {f : β → γ → BuildM β} {xs : List γ} {init : β}
    (hf : ∀ x ∈ xs, ∀ b, Mismatches (f b x)) : Mismatches (xs.foldlM f init) := by
  induction xs generalizing init with
  | nil => exact pure _
  | cons x xs ih =>
    rw [List.foldlM_cons]
    exact bind (hf x List.mem_cons_self init) fun b => ih fun y hy => hf y (List.mem_cons_of_mem _ hy)

lemma forM {f : γ → BuildM PUnit} {xs : List γ} (hf : ∀ x ∈ xs, Mismatches (f x)) :
    Mismatches (xs.forM f) := by
  induction xs with
  | nil => exact pure _
  | cons x xs ih =>
    change Mismatches (f x >>= fun _ => xs.forM f)
    exact bind (hf x List.mem_cons_self) fun _ => ih fun y hy => hf y (List.mem_cons_of_mem _ hy)

end Mismatches

/-! ### Reading the two directives -/

/-- A node's deprecation reads when every directive on it has arguments that read. -/
lemma deprecationOf_ok {ds : List Directive} (h : ∀ d ∈ ds, d.argumentsRead = true) :
    ∃ r, deprecationOf ds = .ok r := by
  unfold deprecationOf
  split
  · exact ⟨none, rfl⟩
  · rename_i d hd
    have hname : d.name = "deprecated" := by simpa using List.find?_some hd
    have hread := h d (List.mem_of_find?_eq_some hd)
    simp only [Directive.argumentsRead, hname, if_true] at hread
    obtain ⟨args, hargs⟩ := exists_ok_of_isOk hread
    rw [hargs]
    exact ⟨_, rfl⟩

/-- A scalar's specification link reads when every directive on it has arguments that read. -/
lemma specifiedByOf_ok {ds : List Directive} (h : ∀ d ∈ ds, d.argumentsRead = true) :
    ∃ r, specifiedByOf ds = .ok r := by
  unfold specifiedByOf
  split
  · exact ⟨none, rfl⟩
  · rename_i d hd
    have hname : d.name = "specifiedBy" := by simpa using List.find?_some hd
    have hread := h d (List.mem_of_find?_eq_some hd)
    simp only [Directive.argumentsRead, hname] at hread
    obtain ⟨args, hargs⟩ := exists_ok_of_isOk hread
    rw [hargs]
    exact ⟨_, rfl⟩

section Declarations

variable {d : TypeDeclaration} (h : d.directivesRead = true)
include h

lemma TypeDeclaration.argumentsRead_of_mem {x : Directive} (hx : x ∈ d.appliedDirectives) :
    x.argumentsRead = true :=
  List.all_eq_true.1 h x hx

lemma TypeDeclaration.directives_read : ∀ x ∈ d.directives, x.argumentsRead = true :=
  fun _ hx => TypeDeclaration.argumentsRead_of_mem h (TypeDeclaration.mem_appliedDirectives_of_directives hx)

lemma TypeDeclaration.enumValues_read {vs : List EnumValueDefinition} (hb : d.body = .enum vs) :
    ∀ v ∈ vs, ∀ x ∈ v.directives, x.argumentsRead = true := fun _ hv _ hx =>
  TypeDeclaration.argumentsRead_of_mem h (TypeDeclaration.mem_appliedDirectives_of_enumValue hb hv hx)

lemma TypeDeclaration.inputFields_read {fs : List InputValueDefinition}
    (hb : d.body = .inputObject fs) : ∀ f ∈ fs, ∀ x ∈ f.directives, x.argumentsRead = true :=
  fun _ hf _ hx => TypeDeclaration.argumentsRead_of_mem h (TypeDeclaration.mem_appliedDirectives_of_inputField hb hf hx)

lemma TypeDeclaration.fields_read {is : List String} {fs : List FieldDefinition}
    (hb : d.body = .object is fs ∨ d.body = .interface is fs) :
    ∀ f ∈ fs, ∀ x ∈ f.appliedDirectives, x.argumentsRead = true :=
  fun _ hf _ hx => TypeDeclaration.argumentsRead_of_mem h (TypeDeclaration.mem_appliedDirectives_of_field hb hf hx)

end Declarations

/-- The enum values of declarations whose directives read are built. -/
lemma buildEnumValues_ok {nodes : List TypeDeclaration} (h : ∀ d ∈ nodes, d.directivesRead = true) :
    ∃ vs, buildEnumValues nodes = .ok vs := by
  unfold buildEnumValues
  refine (foldlM_except_total (fun _ => True) (fun d hd acc _ => ?_) trivial).imp fun _ h => h.1
  split
  · rename_i vs hb
    refine (foldlM_except_total (fun _ => True) (fun v hv acc _ => ?_) trivial).imp
      fun _ h => ⟨h.1, trivial⟩
    obtain ⟨dep, hdep⟩ := deprecationOf_ok (TypeDeclaration.enumValues_read (h d hd) hb v hv)
    rw [hdep]
    exact ⟨_, rfl, trivial⟩
  · exact ⟨acc, rfl, trivial⟩

/-! ### The builders fail only with mismatches -/

section Builders

variable (drafts : Table Draft)

lemma requireType_mismatches (n : String) : Mismatches (requireType drafts n) := by
  unfold requireType
  split
  · exact Mismatches.pure _
  · exact Mismatches.throw rfl

lemma resolveType_mismatches (height : Nat) (type : TypeRef) :
    Mismatches (resolveType drafts height type) := by
  unfold resolveType
  dsimp only
  split
  · exact Mismatches.throw rfl
  · exact requireType_mismatches drafts _

lemma reresolveType_mismatches (height : Nat) (type : TypeRef) :
    Mismatches (reresolveType height type) := by
  unfold reresolveType
  split
  · exact Mismatches.throw rfl
  · exact Mismatches.pure _

lemma readAll_mismatches {read : Value → BuildM (Option InputValue)}
    (hread : ∀ v, Mismatches (read v)) (vs : List Value) : Mismatches (readAll read vs) := by
  induction vs with
  | nil => exact Mismatches.pure _
  | cons v vs ih =>
    unfold readAll
    refine Mismatches.bind (hread v) fun r => ?_
    cases r with
    | none => exact Mismatches.pure _
    | some x =>
      refine Mismatches.bind ih fun r => ?_
      cases r <;> exact Mismatches.pure _

lemma readFields_mismatches {read : TypeRef → Value → BuildM (Option InputValue)}
    (hread : ∀ t v, Mismatches (read t v)) (given : Table Value) (acc : Table InputValue)
    (fields : List (String × InputField)) : Mismatches (readFields read given acc fields) := by
  induction fields generalizing acc with
  | nil => exact Mismatches.pure _
  | cons e fields ih =>
    obtain ⟨n, f⟩ := e
    unfold readFields
    split
    · split
      · exact ih _
      · exact Mismatches.pure _
      · exact ih _
    · refine Mismatches.bind (hread _ _) fun r => ?_
      cases r with
      | none => exact Mismatches.pure _
      | some x => exact ih _

/-- An argument or input field whose directives read fails only with a mismatch. -/
lemma buildInputValue_mismatches (height : Nat) {read : TypeRef → Value → BuildM (Option InputValue)}
    (hread : ∀ t v, Mismatches (read t v)) {iv : InputValueDefinition}
    (hiv : ∀ x ∈ iv.directives, x.argumentsRead = true) :
    Mismatches (buildInputValue drafts height read iv) := by
  unfold buildInputValue
  refine Mismatches.bind (resolveType_mismatches drafts _ _) fun _ => ?_
  have hrest : ∀ dflt : Option InputValue, Mismatches (do
      let dep ← lift (deprecationOf iv.directives)
      pure { name := iv.name, description := iv.description, type := iv.type, default := dflt,
             deprecation := dep, node := some iv : InputField }) :=
    fun _ => Mismatches.bind (Mismatches.lift (deprecationOf_ok hiv)) fun _ => Mismatches.pure _
  split
  · exact Mismatches.bind (Mismatches.pure _) fun _ => hrest _
  · exact Mismatches.bind (hread _ _) fun _ => hrest _

/-- The input fields of declarations whose directives read fail only with a mismatch. -/
lemma buildInputFields_mismatches (height : Nat) {read : TypeRef → Value → BuildM (Option InputValue)}
    (hread : ∀ t v, Mismatches (read t v)) (start : Table InputField) {adds : List TypeDeclaration}
    (hadds : ∀ a ∈ adds, a.directivesRead = true) :
    Mismatches (buildInputFields drafts height read start adds) := by
  unfold buildInputFields
  refine Mismatches.bind (Mismatches.forM fun _ _ => reresolveType_mismatches _ _) fun _ => ?_
  refine Mismatches.foldlM fun d hd acc => ?_
  split
  · rename_i fs hb
    exact Mismatches.foldlM fun iv hiv acc => Mismatches.bind
      (buildInputValue_mismatches drafts _ hread (TypeDeclaration.inputFields_read (hadds d hd) hb iv hiv))
      fun _ => Mismatches.pure _
  · exact Mismatches.pure _

/-- Whether a draft, when pending, waits on declarations whose directives read. -/
def DraftRead : Draft → Prop
  | .complete _ => True
  | .pending _ adds => ∀ a ∈ adds, a.directivesRead = true

/-- Every draft waits on declarations whose directives read. -/
def DraftsRead : Prop :=
  ∀ e ∈ drafts, DraftRead e.2

variable {drafts}

lemma DraftsRead.lookupDraft (hd : DraftsRead drafts) {n : String} {base : NamedType}
    {adds : List TypeDeclaration} (h : lookupDraft drafts n = some (.pending base adds)) :
    ∀ a ∈ adds, a.directivesRead = true := by
  unfold Schema.lookupDraft at h
  split at h
  · cases h
  · exact hd _ (Table.mem_of_find? h)

/-- Reading a default and building the fields of an input object fail only with mismatches,
when every pending draft waits on declarations whose directives read. -/
lemma readers_mismatch (hd : DraftsRead drafts) (fuel : Nat) :
    (∀ h ty v, Mismatches (readDefault drafts fuel h ty v)) ∧
      ∀ h n, Mismatches (inputFieldsOf drafts fuel h n) := by
  induction fuel with
  | zero => exact ⟨fun _ _ _ => Mismatches.throw rfl, fun _ _ => Mismatches.throw rfl⟩
  | succ fuel ih =>
    obtain ⟨ihRead, ihFields⟩ := ih
    refine ⟨fun h ty v => ?_, fun h n => ?_⟩
    · rw [readDefault.eq_def]
      dsimp only
      split
      · exact Mismatches.throw rfl
      split
      · exact Mismatches.pure _
      · split
        · exact Mismatches.pure _
        · exact ihRead _ _ _
      · exact Mismatches.pure _
      · split
        · exact Mismatches.bind (readAll_mismatches (ihRead _ _) _) fun _ => Mismatches.pure _
        · exact Mismatches.bind (ihRead _ _ _) fun _ => Mismatches.pure _
      · split
        · exact Mismatches.pure _
        · split
          · split
            · refine Mismatches.bind (ihFields _ _) fun _ => ?_
              exact Mismatches.bind (readFields_mismatches (ihRead _) _ _ _) fun _ => Mismatches.pure _
            · exact Mismatches.pure _
          · exact Mismatches.pure _
          · exact Mismatches.pure _
          · exact Mismatches.throw rfl
    · rw [inputFieldsOf.eq_def]
      dsimp only
      refine Mismatches.bind Mismatches.get fun st => ?_
      split
      · exact Mismatches.pure _
      · split
        · rename_i base adds hdraft
          -- the declarations built here are those the draft of the name waits on
          have hrest : Mismatches (do
              let fs ← within (n ++ " fields cannot be resolved. ")
                (buildInputFields drafts (h + 5) (readDefault drafts fuel (h + 4)) base.inputFields
                  adds)
              modify fun s => { s with inputFields := s.inputFields.set n fs }
              pure fs) :=
            Mismatches.bind (Mismatches.within _ (buildInputFields_mismatches drafts _ (ihRead _) _
              (hd.lookupDraft hdraft))) fun _ =>
              Mismatches.bind (Mismatches.modify _) fun _ => Mismatches.pure _
          split
          · exact Mismatches.bind (Mismatches.throw rfl) fun _ => hrest
          · exact hrest
        · exact Mismatches.pure _
        · exact Mismatches.pure _

/-- A field whose directives read fails only with a mismatch. -/
lemma buildField_mismatches (hd : DraftsRead drafts) (fuel height : Nat) {f : FieldDefinition}
    (hf : ∀ x ∈ f.appliedDirectives, x.argumentsRead = true) :
    Mismatches (buildField drafts fuel height f) := by
  unfold buildField
  refine Mismatches.bind (resolveType_mismatches drafts _ _) fun _ => ?_
  refine Mismatches.bind (Mismatches.foldlM fun a ha acc => ?_) fun _ => ?_
  · have harg : ∀ x ∈ a.directives, x.argumentsRead = true := fun x hx =>
      hf x (List.mem_append_right _ (List.mem_flatMap.2 ⟨a, ha, hx⟩))
    exact Mismatches.bind (buildInputValue_mismatches drafts _ ((readers_mismatch hd fuel).1 _) harg)
      fun _ => Mismatches.pure _
  · exact Mismatches.bind (Mismatches.lift (deprecationOf_ok fun x hx =>
      hf x (List.mem_append_left _ hx))) fun _ => Mismatches.pure _

/-- The fields of declarations whose directives read fail only with mismatches. -/
lemma buildFields_mismatches (hd : DraftsRead drafts) (fuel height : Nat) (start : Table Field)
    {adds : List TypeDeclaration} (hadds : ∀ a ∈ adds, a.directivesRead = true) :
    Mismatches (buildFields drafts fuel height start adds) := by
  unfold buildFields
  refine Mismatches.bind (Mismatches.forM fun e _ => ?_) fun _ => ?_
  · exact Mismatches.bind (reresolveType_mismatches _ _) fun _ =>
      Mismatches.forM fun _ _ => reresolveType_mismatches _ _
  refine Mismatches.foldlM fun d hdm acc => ?_
  -- the fields an object or interface declaration lists, one after another
  have hfields : ∀ is fs, (d.body = .object is fs ∨ d.body = .interface is fs) →
      Mismatches (fs.foldlM (fun acc f => do
          let x ← buildField drafts fuel height f
          pure (acc.set f.name x)) acc) := fun is fs hb =>
    Mismatches.foldlM fun f hf _ => Mismatches.bind
      (buildField_mismatches hd fuel height (TypeDeclaration.fields_read (hadds d hdm) hb f hf))
      fun _ => Mismatches.pure _
  split
  · exact hfields _ _ (.inl ‹_›)
  · exact hfields _ _ (.inr ‹_›)
  · exact Mismatches.pure _

lemma buildNames_mismatches (start added : List String) :
    Mismatches (buildNames drafts start added) :=
  Mismatches.bind (Mismatches.forM fun _ _ => requireType_mismatches drafts _) fun _ =>
    Mismatches.pure _

/-- Completing a draft that waits on declarations whose directives read fails only with a
mismatch. -/
lemma completeDraft_mismatches (hd : DraftsRead drafts) (fuel height : Nat) {dr : Draft}
    (hdr : DraftRead dr) : Mismatches (completeDraft drafts fuel height dr) := by
  cases dr with
  | complete t => exact Mismatches.pure _
  | pending base adds =>
    have hadds : ∀ a ∈ adds, a.directivesRead = true := hdr
    unfold completeDraft
    dsimp only
    split
    · refine Mismatches.bind (Mismatches.within _ (buildNames_mismatches _ _)) fun _ => ?_
      exact Mismatches.bind (Mismatches.within _ (buildFields_mismatches hd _ _ _ hadds)) fun _ =>
        Mismatches.pure _
    · refine Mismatches.bind (Mismatches.within _ (buildNames_mismatches _ _)) fun _ => ?_
      exact Mismatches.bind (Mismatches.within _ (buildFields_mismatches hd _ _ _ hadds)) fun _ =>
        Mismatches.pure _
    · exact Mismatches.bind (Mismatches.within _ (buildNames_mismatches _ _)) fun _ =>
        Mismatches.pure _
    · exact Mismatches.bind ((readers_mismatch hd fuel).2 _ _) fun _ => Mismatches.pure _
    · exact Mismatches.pure _

/-- Completing drafts that wait on declarations whose directives read fails only with a
mismatch. -/
lemma completeAll_failsWith (hd : DraftsRead drafts) (height : Nat) :
    FailsWith (fun e : SchemaError => e.isMismatch = true) (completeAll drafts height) := by
  unfold completeAll
  dsimp only
  refine FailsWith.map (Mismatches.foldlM (fun e he acc => ?_) {})
  exact Mismatches.bind (completeDraft_mismatches hd (stackLimit + 1) height (hd e he)) fun _ =>
    Mismatches.pure _

end Builders

/-! ### Drafts never fail -/

/-- The draft of a definition whose directives, and those of its extensions, read is made, and
waits on declarations whose directives read. -/
lemma draftOfDefinition_ok {d : TypeDeclaration} {exts : List TypeDeclaration}
    (hd : d.directivesRead = true) (hexts : ∀ e ∈ exts, e.directivesRead = true) :
    ∃ dr, draftOfDefinition d exts = .ok dr ∧ DraftRead dr := by
  have hall : ∀ a ∈ d :: exts, a.directivesRead = true := by
    simpa using ⟨hd, hexts⟩
  unfold draftOfDefinition
  split
  · exact ⟨_, rfl, trivial⟩
  · dsimp only
    split
    · obtain ⟨url, hurl⟩ := specifiedByOf_ok (TypeDeclaration.directives_read hd)
      rw [hurl]
      exact ⟨_, rfl, trivial⟩
    · obtain ⟨values, hv⟩ := buildEnumValues_ok hall
      rw [hv]
      exact ⟨_, rfl, trivial⟩
    · exact ⟨_, rfl, hall⟩

/-- The draft of a type the schema has, with extensions whose directives read, is made, and waits
on declarations whose directives read. -/
lemma draftOfExisting_ok (t : NamedType) {exts : List TypeDeclaration}
    (hexts : ∀ e ∈ exts, e.directivesRead = true) :
    ∃ dr, draftOfExisting t exts = .ok dr ∧ DraftRead dr := by
  unfold draftOfExisting
  split
  · exact ⟨_, rfl, trivial⟩
  · dsimp only
    split
    · -- the links of the extensions, read one after another
      refine exists_ok_bind (P := fun _ => True) ?_ fun _ _ => ⟨_, rfl, trivial⟩
      refine foldlM_except_total (fun _ => True) (fun e he u _ => ?_) trivial
      obtain ⟨x, hx⟩ := specifiedByOf_ok (TypeDeclaration.directives_read (hexts e he))
      rw [hx]
      exact ⟨_, rfl, trivial⟩
    · obtain ⟨added, hv⟩ := buildEnumValues_ok hexts
      rw [hv]
      exact ⟨_, rfl, trivial⟩
    · split
      · exact ⟨_, rfl, trivial⟩
      · exact ⟨_, rfl, hexts⟩
    · exact ⟨_, rfl, hexts⟩

/-- Filing a draft that is made keeps every draft filed waiting on declarations whose
directives read. -/
lemma set_draft_ok {acc : Table Draft} (hacc : DraftsRead acc) (k : String)
    {x : Except SchemaError Draft} (hx : ∃ dr, x = .ok dr ∧ DraftRead dr) :
    ∃ acc', (do let dr ← x; pure (acc.set k dr)) = .ok acc' ∧ DraftsRead acc' := by
  obtain ⟨dr, rfl, hdr⟩ := hx
  refine ⟨acc.set k dr, rfl, fun e he => ?_⟩
  rcases Table.mem_set he with rfl | he
  · exact hdr
  · exact hacc e he

/-- The drafts of definitions and extensions whose directives read are made, and wait on
declarations whose directives read. -/
lemma draftTypes_ok (schema : Schema) {defs : List TypeDeclaration}
    {extensions : Table (List TypeDeclaration)} (hdefs : ∀ d ∈ defs, d.directivesRead = true)
    (hexts : ∀ n, ∀ e ∈ (extensions.find? n).getD [], e.directivesRead = true) :
    ∃ drafts, draftTypes schema defs extensions = .ok drafts ∧ DraftsRead drafts := by
  unfold draftTypes
  refine exists_ok_bind (foldlM_except_total DraftsRead
    (fun e _ acc hacc => set_draft_ok hacc e.1 (draftOfExisting_ok e.2 (hexts e.1)))
    (by simp [DraftsRead])) fun existing hexr => ?_
  exact foldlM_except_total DraftsRead
    (fun d hd acc hacc => set_draft_ok hacc d.name (draftOfDefinition_ok (hdefs d hd) (hexts d.name)))
    hexr

/-- Extending a schema by definitions and extensions whose directives read fails only with a
mismatch. -/
lemma extend_failsWith (schema : Schema) {ds es : List TypeDeclaration}
    (hds : ∀ d ∈ ds, d.directivesRead = true) (hes : ∀ e ∈ es, e.directivesRead = true)
    (height : Nat) :
    FailsWith (fun e : SchemaError => e.isMismatch = true)
      (schema.extend (ds.map .type ++ es.map .typeExtension) height) := by
  rw [extend_eq]
  split
  · exact FailsWith.ok _
  · -- the extensions filed under a name are among the document's
    obtain ⟨drafts, hd, hread⟩ := draftTypes_ok schema hds fun n x hx => by
      rw [find?_extensionTable] at hx
      exact hes x (List.mem_filter.1 hx).1
    rw [hd]
    show FailsWith _ (completeAll drafts height >>= _)
    exact FailsWith.bind (completeAll_failsWith hread height) fun _ _ => FailsWith.ok _

end Schema

/-! ### The declarations a ledger builds from -/

section Ledger

variable {defs : List (String × Definition)}
  (hread : ∀ x ∈ defs, ∀ d ∈ x.2.appliedDirectives, d.argumentsRead = true)
include hread

/-- A type definition or extension of a service, without its fields marked `@external`, applies
directives that read when those of the services do. -/
lemma directivesRead_of_stripped {x : String × Definition} (hx : x ∈ defs) {d : TypeDeclaration}
    (hd : x.2 = .type d ∨ x.2 = .typeExtension d) : d.stripExternal.directivesRead = true := by
  refine List.all_eq_true.2 fun y hy => hread x hx y ?_
  rcases hd with hd | hd <;> rw [hd] <;> exact TypeDeclaration.appliedDirectives_stripExternal hy

/-- The definitions document of a ledger holds base declarations of the services and phantom
bases, so its directives read when those of the services do. -/
lemma directivesRead_of_mem_definitions {d : TypeDeclaration}
    (hd : d ∈ (Ledger.ofDefinitions defs).synthesize.definitions.flatMap (·.2)) :
    d.directivesRead = true := by
  rcases Ledger.mem_synthesize_definitions defs hd with ⟨x, hx, d₀, hx2, rfl⟩ | ⟨k, hk⟩
  · exact directivesRead_of_stripped hread hx (.inl hx2)
  · rw [hk]
    simp [TypeDeclaration.directivesRead]

/-- The extensions document of a ledger holds extensions of the services, so its directives read
when those of the services do. -/
lemma directivesRead_of_mem_extensions {d : TypeDeclaration}
    (hd : d ∈ (Ledger.ofDefinitions defs).synthesize.extensions.flatMap (·.2)) :
    d.directivesRead = true := by
  obtain ⟨x, hx, d₀, hx2, rfl⟩ := Ledger.mem_synthesize_extensions defs hd
  exact directivesRead_of_stripped hread hx (.inr hx2)

end Ledger

/-! ### Composition -/

/-- A step of extending by declarations whose directives read fails only when the schema cannot
be built. -/
lemma extendStep_failsWith (s : Schema) {ds es : List TypeDeclaration}
    (hds : ∀ d ∈ ds, d.directivesRead = true) (hes : ∀ e ∈ es, e.directivesRead = true)
    (height : Nat) :
    FailsWith (fun e => ∃ m, e = CompositionError.unbuildable m)
      (extendStep s (ds.map .type ++ es.map .typeExtension) height) := by
  intro e he
  unfold extendStep at he
  split at he
  · cases he
  · cases he
    exact ⟨_, rfl⟩
  · rename_i m hm
    cases extend_failsWith s hds hes height _ hm
  · rename_i f hf
    cases extend_failsWith s hds hes height _ hf

/-- Merging a ledger's declarations whose directives read fails only when the schema cannot be
built. -/
lemma assembleSchema_failsWith {definitions extensions : Table (List TypeDeclaration)}
    (hdefs : ∀ d ∈ definitions.flatMap (·.2), d.directivesRead = true)
    (hexts : ∀ d ∈ extensions.flatMap (·.2), d.directivesRead = true) (height : Nat) :
    FailsWith (fun e => ∃ m, e = CompositionError.unbuildable m)
      (assembleSchema definitions extensions height) := by
  unfold assembleSchema
  dsimp only
  rw [definitionsDocument]
  -- a pass that fails carries the validation errors found so far, and stays unbuildable
  have hcollect : ∀ errors e, (∃ m, e = CompositionError.unbuildable m) →
      ∃ m, e.withErrors errors = CompositionError.unbuildable m := by
    rintro errors _ ⟨m, rfl⟩
    exact ⟨_, rfl⟩
  refine FailsWith.bind ((extendStep_failsWith _ hdefs (by simp) _).mapError (hcollect _)) fun s _ => ?_
  refine FailsWith.bind (FailsWith.mapError ?_ (hcollect _)) fun _ _ => FailsWith.ok _
  rw [extensionsDocument]
  exact extendStep_failsWith _ (by simp) (fun d hd => hexts d (List.mem_filter.1 hd).1) _

/-- A fault met reading the field set of a directive that a type of a schema, or one of its
fields, is declared with. -/
def FieldSetFault (schema : Schema) (f : Fault) : Prop :=
  ∃ n t, schema.type? n = some t ∧ ∃ d depth, directiveSelections d depth = .error f ∧
    (d ∈ t.declaredDirectives ∨
      ∃ k fd, (k, some (MemberNode.field fd)) ∈ t.memberNodes ∧ d ∈ fd.directives)

/-- Reading the field set of the first directive of a name fails only with a fault met reading the
field set of one of the directives. -/
lemma firstSelections_failsWith (ds : List Directive) (name : String) (height : Nat) :
    FailsWith (fun f => ∃ d ∈ ds, ∃ depth, directiveSelections d depth = .error f)
      (firstSelections ds name height) := by
  unfold firstSelections
  split
  · exact FailsWith.ok _
  · rename_i d rest hds
    intro f hf
    have hd : d ∈ directivesNamed ds name := by
      rw [hds]
      exact List.mem_cons_self
    exact ⟨d, (List.mem_filter.1 hd).1, _, hf⟩

/-- A directive on the declaration of a field of an object type stands on a field declaration the
type keeps among its members. -/
lemma mem_memberNodes_of_declaredDirectives {t : NamedType} {is : List String}
    {fields : Table Field} (hshape : t.shape = .object is fields) {e : String × Field}
    (he : e ∈ fields) {d : Directive} (hd : d ∈ e.2.declaredDirectives) :
    ∃ k fd, (k, some (MemberNode.field fd)) ∈ t.memberNodes ∧ d ∈ fd.directives := by
  unfold Schema.Field.declaredDirectives at hd
  split at hd
  · rename_i fd hnode
    have hmem : (e.1, e.2.node.map MemberNode.field) ∈ fieldNodes fields :=
      List.mem_map_of_mem (f := Prod.map id fun f : Field => f.node.map MemberNode.field) he
    rw [hnode] at hmem
    refine ⟨e.1, fd, ?_, hd⟩
    simpa [NamedType.memberNodes, hshape] using hmem
  · cases hd

/-- Annotating a schema fails only with a fault met reading the field set of a directive that a
type of the schema, or one of its fields, is declared with. -/
lemma annotate_failsWith (schema : Schema) (ownership : Table Ownership) (height : Nat) :
    FailsWith (FieldSetFault schema) (annotate schema ownership height) := by
  refine FailsWith.foldlM fun entry _ m => ?_
  unfold annotateType
  dsimp only
  split
  · exact FailsWith.ok _
  · rename_i t ht
    split
    · rename_i is fields hshape
      -- the keys stand on the type's declaration, the rest on its fields' declarations
      refine FailsWith.bind (FailsWith.filterMapM fun d hd f hf =>
          ⟨_, t, ht, d, _, hf, .inl (List.mem_filter.1 hd).1⟩)
        fun keys _ => FailsWith.foldlM fun field hfield acc => ?_
      have hsel : ∀ name depth, FailsWith (FieldSetFault schema)
          (firstSelections field.2.declaredDirectives name depth) := fun name depth =>
        (firstSelections_failsWith _ _ _).mono fun f ⟨d, hd, depth', hf⟩ =>
          ⟨_, t, ht, d, depth', hf, .inr (mem_memberNodes_of_declaredDirectives hshape hfield hd)⟩
      unfold annotateObjectField
      refine FailsWith.bind (hsel _ _) fun provides _ => ?_
      dsimp only
      -- the requirements of a field are read only when the field was claimed
      split
      · refine FailsWith.bind (hsel _ _) fun requires _ => ?_
        split <;> exact FailsWith.ok _
      · refine FailsWith.bind (FailsWith.ok _) fun requires _ => ?_
        split <;> exact FailsWith.ok _
    · exact FailsWith.ok _
    · exact FailsWith.ok _
    · exact FailsWith.ok _

section Compose

variable {services : List Service}

/-- The definitions of the services, each with the name of its service, are those of the
services' documents. -/
lemma mem_serviceDefinitions {x : String × Definition} (hx : x ∈ serviceDefinitions services) :
    ∃ s ∈ services, x.2 ∈ s.document.definitions := by
  obtain ⟨s, hs, hx⟩ := List.mem_flatMap.1 hx
  obtain ⟨d, hd, rfl⟩ := List.mem_map.1 hx
  exact ⟨s, hs, hd⟩

/-- A directive on a declaration of a type or field that a schema assembled from the ledger of some
definitions keeps is applied by one of the definitions. -/
lemma directive_source {defs : List (String × Definition)} {height : Nat} {schema : Schema}
    {errors : List String}
    (h : assembleSchema (Ledger.ofDefinitions defs).synthesize.definitions
      (Ledger.ofDefinitions defs).synthesize.extensions height = .ok (schema, errors))
    {n : String} {t : NamedType} (ht : schema.type? n = some t) {d : Directive}
    (hd : d ∈ t.declaredDirectives ∨
      ∃ k fd, (k, some (MemberNode.field fd)) ∈ t.memberNodes ∧ d ∈ fd.directives) :
    ∃ x ∈ defs, d ∈ x.2.appliedDirectives := by
  -- a declaration a service wrote, without its fields marked external, applies fewer directives
  have hstripped : ∀ {x : String × Definition} {d₀ : TypeDeclaration}, x ∈ defs →
      (x.2 = .type d₀ ∨ x.2 = .typeExtension d₀) → d ∈ d₀.stripExternal.appliedDirectives →
      ∃ x ∈ defs, d ∈ x.2.appliedDirectives := by
    intro x d₀ hx hx2 hmem
    refine ⟨x, hx, ?_⟩
    rcases hx2 with hx2 | hx2 <;> rw [hx2] <;> exact TypeDeclaration.appliedDirectives_stripExternal hmem
  rcases hd with hd | ⟨k, fd, hk, hd⟩
  · -- on the type's own declaration: a base declaration, as a phantom applies none
    unfold NamedType.declaredDirectives at hd
    split at hd
    · rename_i decl hnode
      have hdecl := assembled_nodesFrom h (n, t) (Table.mem_of_find? ht) decl hnode
      have hmem := TypeDeclaration.mem_appliedDirectives_of_directives hd
      rcases Ledger.mem_synthesize_definitions defs hdecl with ⟨x, hx, d₀, hx2, rfl⟩ | ⟨k, hk⟩
      · exact hstripped hx (.inl hx2) hmem
      · rw [hk, Ledger.appliedDirectives_phantom] at hmem
        cases hmem
    · cases hd
  · -- on one of its fields: a field of its base declaration or of one of its extensions
    obtain ⟨decl, hdecl, is, fs, hb, hfd⟩ := assembled_field_node h ht hk
    have hmem := TypeDeclaration.mem_appliedDirectives_of_field hb hfd (List.mem_append_left _ hd)
    rcases hdecl with hdecl | hdecl
    · rcases baseDeclaration_cases _ _ hdecl with ⟨e, he, rfl⟩ | ⟨k', rfl⟩
      · obtain ⟨x, hx, d₀, hx2, -, hed⟩ := exists_of_mem_baseDeclarations _ _ he
        rw [hed] at hmem
        exact hstripped hx (.inl hx2) hmem
      · rw [Ledger.appliedDirectives_phantom] at hmem
        cases hmem
    · obtain ⟨e, he, rfl⟩ := List.mem_map.1 hdecl
      obtain ⟨x, hx, d₀, hx2, -, hed⟩ := exists_of_mem_extensionDeclarations _ _ he
      rw [hed] at hmem
      exact hstripped hx (.inr hx2) hmem

/-- Composing services whose directives read fails only when the schema cannot be built, or with a
fault met reading the field set of a directive some service applies. -/
lemma compose_failsWith
    (hread : ∀ s ∈ services, ∀ x ∈ s.document.definitions, ∀ d ∈ x.appliedDirectives,
      d.argumentsRead = true)
    (height : Nat) :
    FailsWith (fun err => (∃ m, err = .unbuildable m) ∨ ∃ f, err = .fault f ∧
        ∃ s ∈ services, ∃ x ∈ s.document.definitions, ∃ d ∈ x.appliedDirectives,
          ∃ depth, directiveSelections d depth = .error f)
      (compose services height) := by
  have hdefs : ∀ x ∈ serviceDefinitions services, ∀ d ∈ x.2.appliedDirectives,
      d.argumentsRead = true := fun x hx => by
    obtain ⟨s, hs, hx⟩ := mem_serviceDefinitions hx
    exact hread s hs _ hx
  unfold compose
  rw [Ledger.build_eq]
  refine FailsWith.bind ((assembleSchema_failsWith
    (fun d hd => directivesRead_of_mem_definitions hdefs hd)
    (fun d hd => directivesRead_of_mem_extensions hdefs hd) _).mono fun e he => .inl he)
    fun p hp => ?_
  obtain ⟨schema, errors⟩ := p
  refine FailsWith.bind (FailsWith.mapError (annotate_failsWith _ _ _) fun f hf => .inr ⟨f, rfl, ?_⟩)
    fun _ _ => FailsWith.ok _
  -- the directive whose field set met the fault is one a service applies
  obtain ⟨n, t, ht, d, depth, hsel, hd⟩ := hf
  obtain ⟨x, hx, hdx⟩ := directive_source hp ht hd
  obtain ⟨s, hs, hxs⟩ := mem_serviceDefinitions hx
  exact ⟨s, hs, x.2, hxs, d, hdx, depth, hsel⟩

/-- Composition fails with something other than an unbuildable schema only because of a directive
some service applies: its arguments do not read (a `@deprecated` or `@specifiedBy` directive that
does not fit its definition), or reading its field set met the fault the composition fails with. -/
theorem compose_error_sources {height : Nat} {err : CompositionError}
    (h : compose services height = .error err) :
    (∃ m, err = .unbuildable m) ∨
      ∃ s ∈ services, ∃ x ∈ s.document.definitions, ∃ d ∈ x.appliedDirectives,
        d.argumentsRead = false ∨ ∃ f depth, err = .fault f ∧ directiveSelections d depth = .error f := by
  by_cases hread : ∀ s ∈ services, ∀ x ∈ s.document.definitions, ∀ d ∈ x.appliedDirectives,
      d.argumentsRead = true
  · rcases compose_failsWith hread height err h with hu | ⟨f, hf, s, hs, x, hx, d, hd, depth, hsel⟩
    · exact .inl hu
    · exact .inr ⟨s, hs, x, hx, d, hd, .inr ⟨f, depth, hf, hsel⟩⟩
  · push Not at hread
    obtain ⟨s, hs, x, hx, d, hd, hfalse⟩ := hread
    exact .inr ⟨s, hs, x, hx, d, hd, .inl (by simpa using hfalse)⟩

end Compose

/-- One service, which declares the enum `E { A @deprecated(reason: 5) }`. -/
def deprecatedServices : List Service :=
  [⟨"a", ⟨[.type ⟨none, "E", [],
    .enum [⟨none, "A", [⟨"deprecated", [("reason", .int "5")], none⟩]⟩]⟩]⟩⟩]

/-- The failure to compose `deprecatedServices` is traced to a directive whose arguments do not
read. -/
theorem deprecated_reason_traced :
    ∃ err, compose deprecatedServices 0 = .error err ∧
      ∃ s ∈ deprecatedServices, ∃ x ∈ s.document.definitions, ∃ d ∈ x.appliedDirectives,
        d.argumentsRead = false := by
  have h : compose deprecatedServices 0 =
      .error (.invalidArgument "Argument 'reason' has invalid value 5.") := rfl
  refine ⟨_, h, ?_⟩
  rcases compose_error_sources h with ⟨m, hm⟩ | ⟨s, hs, x, hx, d, hd, hbad | ⟨f, depth, hf, -⟩⟩
  · cases hm
  · exact ⟨s, hs, x, hx, d, hd, hbad⟩
  · cases hf

/-- A reason that is not a string makes composition fail with an invalid argument, not with an
unbuildable schema. -/
theorem deprecated_reason_escapes :
    compose deprecatedServices 0 =
      .error (.invalidArgument "Argument 'reason' has invalid value 5.") := rfl

end Federation
