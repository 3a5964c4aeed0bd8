import Mathlib.Tactic.Lemma
import Federation.Proofs.Failure

/-!
# Which references a composition resolves

A type declaration refers to other types by name: the interfaces it implements, the types of its
fields and of their arguments, the members of a union, the types of input fields
(`TypeDeclaration.references`). Building a schema resolves those names for the declarations that
take part in it: the base declaration of each name, and the extensions of the name of that
declaration's kind (`Surviving`). Overridden base declarations and extensions of another kind are
never built, so what they refer to is never looked up.

Two facts about building members carry the main statement. When it succeeds, every name the
declarations it built refer to is a type it has (`completeAll_resolves`); the memory of input
fields built on the way only ever holds fields whose types were resolved. When it fails with a
mismatch, the mismatch ends in one of three reasons (`BuildReason`): a name a declaration refers
to is no type; a default is read against a type that takes no input, which needs a declaration
with a default; or the call stack runs out (`completeAll_failsFor`).

A composition therefore succeeds only when every reference of a declaration that takes part names
a built-in type or one some service declares or extends; when its schema cannot be built, the
failure names one of the three reasons and carries the validation errors of the passes run so
far (`compose_unbuildable_law`).
-/

namespace Federation.Syntax

/-- The names a declaration refers to: the interfaces it implements, then the type of each field
followed by the types of its arguments; the members of a union; the types of input fields. -/
def TypeDeclaration.references (d : TypeDeclaration) : List String :=
  match d.body with
  | .object is fs | .interface is fs =>
    is ++ fs.flatMap fun f => f.type.baseName :: f.arguments.map (·.type.baseName)
  | .union ms => ms
  | .inputObject fs => fs.map (·.type.baseName)
  | .scalar | .enum _ => []

/-- Whether a declaration gives an argument of one of its fields, or one of its input fields, a
default value. -/
def TypeDeclaration.hasDefault (d : TypeDeclaration) : Bool :=
  match d.body with
  | .object _ fs | .interface _ fs => fs.any fun f => f.arguments.any (·.defaultValue.isSome)
  | .inputObject fs => fs.any (·.defaultValue.isSome)
  | .scalar | .union _ | .enum _ => false

namespace TypeDeclaration

variable {d : TypeDeclaration} {is : List String} {fs : List FieldDefinition} {f : FieldDefinition}

/-- The type of a field an object or interface declaration lists is a name it refers to. -/
lemma mem_references_of_field (hb : d.body = .object is fs ∨ d.body = .interface is fs) (hf : f ∈ fs) :
    f.type.baseName ∈ d.references := by
  have hmem : f.type.baseName ∈ fs.flatMap fun f => f.type.baseName :: f.arguments.map (·.type.baseName) :=
    List.mem_flatMap.2 ⟨f, hf, List.mem_cons_self⟩
  rcases hb with hb | hb <;> simpa [references, hb] using List.mem_append_right is hmem

/-- The type of an argument of a field an object or interface declaration lists is a name it
refers to. -/
lemma mem_references_of_argument (hb : d.body = .object is fs ∨ d.body = .interface is fs)
    (hf : f ∈ fs) {a : InputValueDefinition} (ha : a ∈ f.arguments) :
    a.type.baseName ∈ d.references := by
  have hmem : a.type.baseName ∈ fs.flatMap fun f => f.type.baseName :: f.arguments.map (·.type.baseName) :=
    List.mem_flatMap.2 ⟨f, hf, List.mem_cons_of_mem _ (List.mem_map_of_mem ha)⟩
  rcases hb with hb | hb <;> simpa [references, hb] using List.mem_append_right is hmem

/-- A default of an argument of a field an object or interface declaration lists is one the
declaration gives. -/
lemma hasDefault_of_argument (hb : d.body = .object is fs ∨ d.body = .interface is fs)
    (hf : f ∈ fs) {a : InputValueDefinition} (ha : a ∈ f.arguments) (hsome : a.defaultValue.isSome) :
    d.hasDefault = true := by
  rcases hb with hb | hb <;>
    simpa [hasDefault, hb] using ⟨f, hf, a, ha, hsome⟩

variable {ivs : List InputValueDefinition} {iv : InputValueDefinition}

lemma mem_references_of_inputField (hb : d.body = .inputObject ivs) (hiv : iv ∈ ivs) :
    iv.type.baseName ∈ d.references := by
  simpa [references, hb] using ⟨iv, hiv, rfl⟩

lemma hasDefault_of_inputField (hb : d.body = .inputObject ivs) (hiv : iv ∈ ivs)
    (hsome : iv.defaultValue.isSome) : d.hasDefault = true := by
  simpa [hasDefault, hb] using ⟨iv, hiv, hsome⟩

end TypeDeclaration

end Federation.Syntax

namespace Federation.Schema

open Syntax

/-- The interfaces a declaration lists are names it refers to. -/
lemma TypeDeclaration.mem_references_of_interfaceName {d : Syntax.TypeDeclaration} {n : String}
    (hn : n ∈ TypeDeclaration.interfaceNames d) : n ∈ d.references := by
  unfold TypeDeclaration.interfaceNames at hn
  unfold Syntax.TypeDeclaration.references
  split at hn <;> simp_all

/-- The members a union declaration lists are names it refers to. -/
lemma TypeDeclaration.mem_references_of_unionMember {d : Syntax.TypeDeclaration} {n : String}
    (hn : n ∈ TypeDeclaration.unionMembers d) : n ∈ d.references := by
  unfold TypeDeclaration.unionMembers at hn
  unfold Syntax.TypeDeclaration.references
  split at hn <;> simp_all

/-! ### Failures that end in a reason -/

/-- A failure of building whose mismatch, when it is one, ends in a reason a rule allows. -/
def SchemaError.EndsIn (R : String → Prop) : SchemaError → Prop
  | .mismatch m => ∃ pre r, m = pre ++ r ∧ R r
  | _ => True

/-- Naming where a step failed keeps the reason its mismatch ends in. -/
lemma SchemaError.EndsIn.within {R : String → Prop} {e : SchemaError} (h : e.EndsIn R)
    (pre : String) : (e.within pre).EndsIn R := by
  cases e with
  | mismatch m =>
    obtain ⟨p, r, rfl, hr⟩ := h
    exact ⟨pre ++ p, r, String.append_assoc.symm, hr⟩
  | invalidArgument m => trivial
  | fault f => trivial

/-- A step of building that, from any memory, fails with a mismatch only for a reason a rule
allows. -/
def FailsFor {α : Type} (R : String → Prop) (act : BuildM α) : Prop :=
  ∀ s, FailsWith (SchemaError.EndsIn R) (act.run s)

namespace FailsFor

variable {α β γ : Type} {R : String → Prop}

lemma pure (a : α) : FailsFor R (Pure.pure a : BuildM α) :=
  fun _ => FailsWith.ok _

/-- A mismatch for a reason the rule allows. -/
lemma reason {r : String} (h : R r) : FailsFor R (MonadExcept.throw (.mismatch r) : BuildM α) := by
  intro s e he
  cases he
  exact ⟨"", r, String.empty_append.symm, h⟩

lemma bind {x : BuildM α} {f : α → BuildM β} (hx : FailsFor R x) (hf : ∀ a, FailsFor R (f a)) :
    FailsFor R (x >>= f) := by
  intro s
  rw [StateT.run_bind]
  exact FailsWith.bind (hx s) fun p _ => hf p.1 p.2

lemma get : FailsFor R (MonadState.get : BuildM BuildState) :=
  fun _ => FailsWith.ok _

lemma modify (f : BuildState → BuildState) : FailsFor R (modify f : BuildM PUnit) :=
  fun _ => FailsWith.ok _

/-- Naming where a step failed keeps the reason of a mismatch. -/
lemma within {act : BuildM α} (pre : String) (h : FailsFor R act) :
    FailsFor R (Schema.within pre act) := by
  intro s e he
  change (tryCatch (act.run s) fun e => (MonadExcept.throw (e.within pre) : BuildM α).run s) = _
    at he
  cases hx : act.run s with
  | error e₀ =>
    rw [hx] at he
    cases he
    exact (h s _ hx).within pre
  | ok p =>
    rw [hx] at he
    cases he

/-- A check that never fails with a mismatch. -/
lemma lift {act : Except SchemaError α} (h : FailsWith (fun e => e.isMismatch = false) act) :
    FailsFor R (Schema.lift act) := by
  intro s e he
  cases act with
  | ok a => cases he
  | error e₀ =>
    cases he
    have hm := h e rfl
    cases e with
    | mismatch m => cases hm
    | invalidArgument m => trivial
    | fault f => trivial

lemma foldlM {f : β → γ → BuildM β} {xs : List γ} {init : β}
    (hf : ∀ x ∈ xs, ∀ b, FailsFor R (f b x)) : FailsFor R (xs.foldlM f init) := by
  induction xs generalizing init with
  | nil => exact pure _
  | cons x xs ih =>
    rw [List.foldlM_cons]
    exact bind (hf x List.mem_cons_self init) fun b => ih fun y hy => hf y (List.mem_cons_of_mem _ hy)

lemma forM {f : γ → BuildM PUnit} {xs : List γ} (hf : ∀ x ∈ xs, FailsFor R (f x)) :
    FailsFor R (xs.forM f) := by
  induction xs with
  | nil => exact pure _
  | cons x xs ih =>
    change FailsFor R (f x >>= fun _ => xs.forM f)
    exact bind (hf x List.mem_cons_self) fun _ => ih fun y hy => hf y (List.mem_cons_of_mem _ hy)

end FailsFor

/-! ### Directive arguments fail with no mismatch -/

lemma argumentError_isMismatch (site : Option DirectiveSite) (offset : DirectiveSite → Nat)
    (message : String) : (argumentError site offset message).isMismatch = false := by
  unfold argumentError
  split
  · rfl
  · dsimp only
    split <;> rfl

lemma argumentValues_failsWith (def_ : DirectiveDefinition) (d : Directive) :
    FailsWith (fun e => e.isMismatch = false) (argumentValues def_ d) := by
  unfold argumentValues
  refine FailsWith.foldlM fun entry _ acc => ?_
  -- every failure is an error about the directive's arguments
  have hthrow : ∀ m off, FailsWith (fun e : SchemaError => e.isMismatch = false)
      (throw (argumentError d.site off m) : Except SchemaError (Table InputValue)) := by
    intro m off e he
    cases he
    exact argumentError_isMismatch _ _ _
  dsimp only
  split
  · split
    · exact FailsWith.ok _
    · exact hthrow _ _
    · exact FailsWith.ok _
  · split
    · exact hthrow _ _
    · split
      · exact FailsWith.ok _
      · exact hthrow _ _

lemma deprecationOf_failsWith (ds : List Directive) :
    FailsWith (fun e => e.isMismatch = false) (deprecationOf ds) := by
  unfold deprecationOf
  split
  · exact FailsWith.ok _
  · exact FailsWith.bind (argumentValues_failsWith _ _) fun _ _ => FailsWith.ok _

/-! ### Why building fails -/

/-- A declaration that a pending draft waits on. -/
def Waits (drafts : Table Draft) (d : TypeDeclaration) : Prop :=
  ∃ n base adds, (n, Draft.pending base adds) ∈ drafts ∧ d ∈ adds

/-- Why completing drafts fails with a mismatch: a name that a declaration some draft waits on
refers to is no type; a default is read against a type that takes no input, which only a draft
waiting on a declaration with a default does; or the call stack runs out. -/
inductive BuildReason (drafts : Table Draft) : String → Prop
  | unknown {d : TypeDeclaration} {n : String} : Waits drafts d → n ∈ d.references →
      lookupDraft drafts n = none → BuildReason drafts (unknownTypeMessage n)
  | unexpected {d : TypeDeclaration} (n : String) : Waits drafts d → d.hasDefault = true →
      BuildReason drafts (unexpectedInputMessage n)
  | tooDeep : BuildReason drafts (Fault.message .tooDeep)

section Failing

variable {drafts : Table Draft}

/-- Some declaration that a draft waits on refers to a name. -/
def Referred (drafts : Table Draft) (n : String) : Prop :=
  ∃ d, Waits drafts d ∧ n ∈ d.references

/-- Some declaration that a draft waits on gives a default. -/
def DefaultWaits (drafts : Table Draft) : Prop :=
  ∃ d, Waits drafts d ∧ d.hasDefault = true

lemma recursionError_failsFor {α : Type} :
    FailsFor (BuildReason drafts) (MonadExcept.throw recursionError : BuildM α) :=
  FailsFor.reason .tooDeep

lemma requireType_failsFor {n : String} (h : Referred drafts n) :
    FailsFor (BuildReason drafts) (requireType drafts n) := by
  obtain ⟨d, hd, hn⟩ := h
  unfold requireType
  split
  · exact FailsFor.pure _
  · rename_i hl
    exact FailsFor.reason (.unknown hd hn (Option.not_isSome_iff_eq_none.1 hl))

lemma resolveType_failsFor (height : Nat) {type : TypeRef} (h : Referred drafts type.baseName) :
    FailsFor (BuildReason drafts) (resolveType drafts height type) := by
  unfold resolveType
  dsimp only
  split
  · exact recursionError_failsFor
  · exact requireType_failsFor h

lemma reresolveType_failsFor (height : Nat) (type : TypeRef) :
    FailsFor (BuildReason drafts) (reresolveType height type) := by
  unfold reresolveType
  split
  · exact recursionError_failsFor
  · exact FailsFor.pure _

variable {R : String → Prop}

lemma readAll_failsFor {read : Value → BuildM (Option InputValue)} (hread : ∀ v, FailsFor R (read v))
    (vs : List Value) : FailsFor R (readAll read vs) := by
  induction vs with
  | nil => exact FailsFor.pure _
  | cons v vs ih =>
    unfold readAll
    refine FailsFor.bind (hread v) fun r => ?_
    cases r with
    | none => exact FailsFor.pure _
    | some x =>
      refine FailsFor.bind ih fun r => ?_
      cases r <;> exact FailsFor.pure _

lemma readFields_failsFor {read : TypeRef → Value → BuildM (Option InputValue)}
    (hread : ∀ t v, FailsFor R (read t v)) (given : Table Value) (acc : Table InputValue)
    (fields : List (String × InputField)) : FailsFor R (readFields read given acc fields) := by
  induction fields generalizing acc with
  | nil => exact FailsFor.pure _
  | cons e fields ih =>
    obtain ⟨n, f⟩ := e
    unfold readFields
    split
    · split
      · exact ih _
      · exact FailsFor.pure _
      · exact ih _
    · refine FailsFor.bind (hread _ _) fun r => ?_
      cases r with
      | none => exact FailsFor.pure _
      | some x => exact ih _

/-- An argument or input field that a waiting declaration lists: its type is referred to, and a
default it gives is read only then. -/
lemma buildInputValue_failsFor (height : Nat) {read : TypeRef → Value → BuildM (Option InputValue)}
    {iv : InputValueDefinition} (href : Referred drafts iv.type.baseName)
    (hread : iv.defaultValue.isSome → ∀ t v, FailsFor (BuildReason drafts) (read t v)) :
    FailsFor (BuildReason drafts) (buildInputValue drafts height read iv) := by
  unfold buildInputValue
  refine FailsFor.bind (resolveType_failsFor _ href) fun _ => ?_
  have hrest : ∀ dflt : Option InputValue, FailsFor (BuildReason drafts) (do
      let dep ← lift (deprecationOf iv.directives)
      pure { name := iv.name, description := iv.description, type := iv.type, default := dflt,
             deprecation := dep, node := some iv : InputField }) :=
    fun _ => FailsFor.bind (FailsFor.lift (deprecationOf_failsWith _)) fun _ => FailsFor.pure _
  split
  · exact FailsFor.bind (FailsFor.pure _) fun _ => hrest _
  · rename_i v hv
    exact FailsFor.bind (hread (by simp [hv]) _ _) fun _ => hrest _

/-- A declaration that the pending draft of a name waits on is one some draft waits on. -/
lemma waits_of_lookupDraft {n : String} {base : NamedType} {adds : List TypeDeclaration}
    (h : lookupDraft drafts n = some (.pending base adds)) : ∀ d ∈ adds, Waits drafts d := by
  intro d hd
  unfold lookupDraft at h
  split at h
  · cases h
  · exact ⟨n, base, adds, Table.mem_of_find? h, hd⟩

/-- The input fields of declarations some draft waits on fail only for a reason. -/
lemma buildInputFields_failsFor (height : Nat) {read : TypeRef → Value → BuildM (Option InputValue)}
    (hread : DefaultWaits drafts → ∀ t v, FailsFor (BuildReason drafts) (read t v))
    (start : Table InputField) {adds : List TypeDeclaration} (hadds : ∀ d ∈ adds, Waits drafts d) :
    FailsFor (BuildReason drafts) (buildInputFields drafts height read start adds) := by
  unfold buildInputFields
  refine FailsFor.bind (FailsFor.forM fun _ _ => reresolveType_failsFor _ _) fun _ => ?_
  refine FailsFor.foldlM fun d hd acc => ?_
  split
  · rename_i ivs hb
    refine FailsFor.foldlM fun iv hiv acc => FailsFor.bind ?_ fun _ => FailsFor.pure _
    exact buildInputValue_failsFor _ ⟨d, hadds d hd, TypeDeclaration.mem_references_of_inputField hb hiv⟩
      fun hsome => hread ⟨d, hadds d hd, TypeDeclaration.hasDefault_of_inputField hb hiv hsome⟩
  · exact FailsFor.pure _

/-- Reading a default fails only for a reason, when some declaration a draft waits on gives a
default; building the fields of an input object fails only for a reason. -/
lemma readers_failsFor (fuel : Nat) :
    (DefaultWaits drafts → ∀ h ty v, FailsFor (BuildReason drafts) (readDefault drafts fuel h ty v)) ∧
      ∀ h n, FailsFor (BuildReason drafts) (inputFieldsOf drafts fuel h n) := by
  induction fuel with
  | zero => exact ⟨fun _ _ _ _ => recursionError_failsFor, fun _ _ => recursionError_failsFor⟩
  | succ fuel ih =>
    obtain ⟨ihRead, ihFields⟩ := ih
    refine ⟨fun hdef h ty v => ?_, fun h n => ?_⟩
    · rw [readDefault.eq_def]
      dsimp only
      split
      · exact recursionError_failsFor
      split
      · exact FailsFor.pure _
      · split
        · exact FailsFor.pure _
        · exact ihRead hdef _ _ _
      · exact FailsFor.pure _
      · split
        · exact FailsFor.bind (readAll_failsFor (ihRead hdef _ _) _) fun _ => FailsFor.pure _
        · exact FailsFor.bind (ihRead hdef _ _ _) fun _ => FailsFor.pure _
      · split
        · exact FailsFor.pure _
        · split
          · split
            · refine FailsFor.bind (ihFields _ _) fun _ => ?_
              exact FailsFor.bind (readFields_failsFor (ihRead hdef _) _ _ _) fun _ => FailsFor.pure _
            · exact FailsFor.pure _
          · exact FailsFor.pure _
          · exact FailsFor.pure _
          · -- a default read against a type that takes no input
            obtain ⟨d, hd, hdd⟩ := hdef
            exact FailsFor.reason (.unexpected _ hd hdd)
    · rw [inputFieldsOf.eq_def]
      dsimp only
      refine FailsFor.bind FailsFor.get fun st => ?_
      split
      · exact FailsFor.pure _
      · split
        · rename_i base adds hdraft
          -- the declarations built here are those the draft of the name waits on
          have hrest : FailsFor (BuildReason drafts) (do
              let fs ← within (n ++ " fields cannot be resolved. ")
                (buildInputFields drafts (h + 5) (readDefault drafts fuel (h + 4)) base.inputFields
                  adds)
              modify fun s => { s with inputFields := s.inputFields.set n fs }
              pure fs) :=
            FailsFor.bind (FailsFor.within _ (buildInputFields_failsFor _ (fun hdef => ihRead hdef _) _
              (waits_of_lookupDraft hdraft))) fun _ =>
              FailsFor.bind (FailsFor.modify _) fun _ => FailsFor.pure _
          split
          · exact FailsFor.bind recursionError_failsFor fun _ => hrest
          · exact hrest
        · exact FailsFor.pure _
        · exact FailsFor.pure _

/-- A field that a declaration some draft waits on lists fails only for a reason. -/
lemma buildField_failsFor (fuel height : Nat) {d : TypeDeclaration} (hd : Waits drafts d)
    {is : List String} {fs : List FieldDefinition}
    (hb : d.body = .object is fs ∨ d.body = .interface is fs) {f : FieldDefinition} (hf : f ∈ fs) :
    FailsFor (BuildReason drafts) (buildField drafts fuel height f) := by
  unfold buildField
  refine FailsFor.bind (resolveType_failsFor _ ⟨d, hd, TypeDeclaration.mem_references_of_field hb hf⟩)
    fun _ => ?_
  refine FailsFor.bind (FailsFor.foldlM fun a ha acc => ?_) fun _ => ?_
  · refine FailsFor.bind (buildInputValue_failsFor _
      ⟨d, hd, TypeDeclaration.mem_references_of_argument hb hf ha⟩ fun hsome => ?_) fun _ => FailsFor.pure _
    exact (readers_failsFor fuel).1 ⟨d, hd, TypeDeclaration.hasDefault_of_argument hb hf ha hsome⟩ _
  · exact FailsFor.bind (FailsFor.lift (deprecationOf_failsWith _)) fun _ => FailsFor.pure _

/-- The fields of declarations some draft waits on fail only for a reason. -/
lemma buildFields_failsFor (fuel height : Nat) (start : Table Field) {adds : List TypeDeclaration}
    (hadds : ∀ d ∈ adds, Waits drafts d) :
    FailsFor (BuildReason drafts) (buildFields drafts fuel height start adds) := by
  unfold buildFields
  refine FailsFor.bind (FailsFor.forM fun e _ => ?_) fun _ => ?_
  · exact FailsFor.bind (reresolveType_failsFor _ _) fun _ =>
      FailsFor.forM fun _ _ => reresolveType_failsFor _ _
  refine FailsFor.foldlM fun d hdm acc => ?_
  -- the fields an object or interface declaration lists, one after another
  have hfields : ∀ is fs, (d.body = .object is fs ∨ d.body = .interface is fs) →
      FailsFor (BuildReason drafts) (fs.foldlM (fun acc f => do
          let x ← buildField drafts fuel height f
          pure (acc.set f.name x)) acc) := fun is fs hb =>
    FailsFor.foldlM fun f hf _ =>
      FailsFor.bind (buildField_failsFor fuel height (hadds d hdm) hb hf) fun _ => FailsFor.pure _
  split
  · exact hfields _ _ (.inl ‹_›)
  · exact hfields _ _ (.inr ‹_›)
  · exact FailsFor.pure _

lemma buildNames_failsFor (start : List String) {added : List String}
    (h : ∀ n ∈ added, Referred drafts n) : FailsFor (BuildReason drafts) (buildNames drafts start added) :=
  FailsFor.bind (FailsFor.forM fun n hn => requireType_failsFor (h n hn)) fun _ => FailsFor.pure _

/-- Completing a draft filed under a name fails only for a reason. -/
lemma completeDraft_failsFor (fuel height : Nat) {n : String} {dr : Draft} (he : (n, dr) ∈ drafts) :
    FailsFor (BuildReason drafts) (completeDraft drafts fuel height dr) := by
  cases dr with
  | complete t => exact FailsFor.pure _
  | pending base adds =>
    have hadds : ∀ d ∈ adds, Waits drafts d := fun d hd => ⟨n, base, adds, he, hd⟩
    -- the interfaces and members the declarations list are names they refer to
    have hinterfaces : ∀ x ∈ adds.flatMap TypeDeclaration.interfaceNames, Referred drafts x := by
      intro x hx
      obtain ⟨d, hd, hx⟩ := List.mem_flatMap.1 hx
      exact ⟨d, hadds d hd, TypeDeclaration.mem_references_of_interfaceName hx⟩
    have hmembers : ∀ x ∈ adds.flatMap TypeDeclaration.unionMembers, Referred drafts x := by
      intro x hx
      obtain ⟨d, hd, hx⟩ := List.mem_flatMap.1 hx
      exact ⟨d, hadds d hd, TypeDeclaration.mem_references_of_unionMember hx⟩
    unfold completeDraft
    dsimp only
    split
    · refine FailsFor.bind (FailsFor.within _ (buildNames_failsFor _ hinterfaces)) fun _ => ?_
      exact FailsFor.bind (FailsFor.within _ (buildFields_failsFor _ _ _ hadds)) fun _ =>
        FailsFor.pure _
    · refine FailsFor.bind (FailsFor.within _ (buildNames_failsFor _ hinterfaces)) fun _ => ?_
      exact FailsFor.bind (FailsFor.within _ (buildFields_failsFor _ _ _ hadds)) fun _ =>
        FailsFor.pure _
    · exact FailsFor.bind (FailsFor.within _ (buildNames_failsFor _ hmembers)) fun _ =>
        FailsFor.pure _
    · exact FailsFor.bind ((readers_failsFor fuel).2 _ _) fun _ => FailsFor.pure _
    · exact FailsFor.pure _

/-- Completing drafts fails with a mismatch only for a reason. -/
lemma completeAll_failsFor (height : Nat) :
    FailsWith (SchemaError.EndsIn (BuildReason drafts)) (completeAll drafts height) := by
  unfold completeAll
  dsimp only
  refine FailsWith.map (FailsFor.foldlM (fun e he acc => ?_) {})
  exact FailsFor.bind (completeDraft_failsFor (stackLimit + 1) height he) fun _ => FailsFor.pure _

end Failing

/-! ### What building resolves -/

/-- A fold whose every step yields a property of the item it takes yields the property of all
its items. -/
lemma Keeps.foldlM_all {α β : Type} {P : BuildState → Prop} {f : α → β → BuildM α} {xs : List β}
    {init : α} (Q : β → Prop) (hf : ∀ x ∈ xs, ∀ a, Keeps P (f a x) fun _ => Q x) :
    Keeps P (xs.foldlM f init) fun _ => ∀ x ∈ xs, Q x := by
  induction xs generalizing init with
  | nil => exact Keeps.pure fun _ h => absurd h List.not_mem_nil
  | cons x xs ih =>
    rw [List.foldlM_cons]
    refine Keeps.bind (hf x List.mem_cons_self init) fun a hx => ?_
    refine (ih fun y hy => hf y (List.mem_cons_of_mem _ hy)).mono fun _ hrest y hy => ?_
    rcases List.mem_cons.1 hy with rfl | hy
    · exact hx
    · exact hrest y hy

/-- A loop whose every step yields a property of the item it takes yields the property of all
its items. -/
lemma Keeps.forM_all {β : Type} {P : BuildState → Prop} {f : β → BuildM PUnit} {xs : List β}
    (Q : β → Prop) (hf : ∀ x ∈ xs, Keeps P (f x) fun _ => Q x) :
    Keeps P (xs.forM f) fun _ => ∀ x ∈ xs, Q x := by
  induction xs with
  | nil => exact Keeps.pure fun _ h => absurd h List.not_mem_nil
  | cons x xs ih =>
    change Keeps P (f x >>= fun _ => xs.forM f) _
    refine Keeps.bind (hf x List.mem_cons_self) fun _ hx => ?_
    refine (ih fun y hy => hf y (List.mem_cons_of_mem _ hy)).mono fun _ hrest y hy => ?_
    rcases List.mem_cons.1 hy with rfl | hy
    · exact hx
    · exact hrest y hy

section Resolving

variable (drafts : Table Draft)

/-- The input fields a pending draft of a name declares have types the drafts have. -/
def InputsResolved (n : String) : Prop :=
  ∀ base adds, lookupDraft drafts n = some (.pending base adds) →
    ∀ d ∈ adds, d.kind = .inputObject → ∀ x ∈ d.references, (lookupDraft drafts x).isSome

/-- A memory whose remembered input fields were built only for names whose input fields have
types the drafts have. -/
def CacheResolved (st : BuildState) : Prop :=
  ∀ n fs, st.inputFields.find? n = some fs → InputsResolved drafts n

/-- What completing a draft resolves: for a pending draft filed under its name, every name that
its declarations of its kind refer to. -/
def DraftResolved : Draft → Prop
  | .complete _ => True
  | .pending base adds => lookupDraft drafts base.name = some (.pending base adds) →
      ∀ d ∈ adds, d.kind = base.kind → ∀ x ∈ d.references, (lookupDraft drafts x).isSome

variable {drafts} {P : BuildState → Prop}

lemma requireType_resolves (n : String) :
    Keeps P (requireType drafts n) fun _ => (lookupDraft drafts n).isSome := by
  unfold requireType
  split
  · exact Keeps.pure ‹_›
  · exact Keeps.throw _

lemma resolveType_resolves (height : Nat) (type : TypeRef) :
    Keeps P (resolveType drafts height type) fun _ => (lookupDraft drafts type.baseName).isSome := by
  unfold resolveType
  dsimp only
  split
  · exact Keeps.throw _
  · exact requireType_resolves _

lemma buildInputValue_resolves (height : Nat) {read : TypeRef → Value → BuildM (Option InputValue)}
    (hread : ∀ t v, Keeps P (read t v) fun _ => True) (iv : InputValueDefinition) :
    Keeps P (buildInputValue drafts height read iv)
      fun _ => (lookupDraft drafts iv.type.baseName).isSome := by
  unfold buildInputValue
  refine Keeps.bind (resolveType_resolves _ _) fun _ hres => ?_
  have hrest : ∀ dflt, Keeps P (do
      let dep ← lift (deprecationOf iv.directives)
      pure { name := iv.name, description := iv.description, type := iv.type, default := dflt,
             deprecation := dep, node := some iv : InputField })
      fun _ => (lookupDraft drafts iv.type.baseName).isSome :=
    fun _ => Keeps.bind (Keeps.lift _) fun _ _ => Keeps.pure hres
  split
  · exact Keeps.bind (Keeps.pure (Q := fun _ => True) trivial) fun _ _ => hrest _
  · exact Keeps.bind (hread _ _) fun _ _ => hrest _

/-- Building the input fields of declarations resolves what their input object declarations refer
to. -/
lemma buildInputFields_resolves (height : Nat) {read : TypeRef → Value → BuildM (Option InputValue)}
    (hread : ∀ t v, Keeps P (read t v) fun _ => True) (start : Table InputField)
    (adds : List TypeDeclaration) :
    Keeps P (buildInputFields drafts height read start adds) fun _ =>
      ∀ d ∈ adds, d.kind = .inputObject → ∀ x ∈ d.references, (lookupDraft drafts x).isSome := by
  unfold buildInputFields
  refine Keeps.bind (Keeps.forM fun _ _ => reresolveType_keeps _ _) fun _ _ => ?_
  refine Keeps.foldlM_all _ fun d _ acc => ?_
  split
  · rename_i ivs hb
    refine (Keeps.foldlM_all (fun iv : InputValueDefinition => (lookupDraft drafts iv.type.baseName).isSome)
      fun iv _ acc => Keeps.bind (buildInputValue_resolves _ hread iv) fun _ h => Keeps.pure h).mono
      fun _ hall _ x hx => ?_
    simp only [TypeDeclaration.references, hb, List.mem_map] at hx
    obtain ⟨iv, hiv, rfl⟩ := hx
    exact hall iv hiv
  · rename_i hb
    refine Keeps.pure fun hk => ?_
    cases hbody : d.body with
    | inputObject ivs => exact absurd hbody (hb ivs)
    | _ => simp [TypeDeclaration.kind, hbody, TypeBody.kind] at hk

/-- Reading a default keeps the memory resolved, and building the input fields of a name resolves
what its draft's input object declarations refer to. -/
lemma readers_resolve (fuel : Nat) :
    (∀ h ty v, Keeps (CacheResolved drafts) (readDefault drafts fuel h ty v) fun _ => True) ∧
      ∀ h n, Keeps (CacheResolved drafts) (inputFieldsOf drafts fuel h n) fun _ =>
        InputsResolved drafts n := by
  induction fuel with
  | zero => exact ⟨fun _ _ _ => Keeps.throw _, fun _ _ => Keeps.throw _⟩
  | succ fuel ih =>
    obtain ⟨ihRead, ihFields⟩ := ih
    refine ⟨fun h ty v => ?_, fun h n => ?_⟩
    · rw [readDefault.eq_def]
      dsimp only
      split
      · exact Keeps.throw _
      split
      · exact Keeps.pure trivial
      · split
        · exact Keeps.pure trivial
        · exact ihRead _ _ _
      · exact Keeps.pure trivial
      · split
        · exact Keeps.bind (readAll_keeps (ihRead _ _) _) fun _ _ => Keeps.pure trivial
        · exact Keeps.bind (ihRead _ _ _) fun _ _ => Keeps.pure trivial
      · split
        · exact Keeps.pure trivial
        · split
          · split
            · refine Keeps.bind (ihFields _ _) fun _ _ => ?_
              exact Keeps.bind (readFields_keeps (ihRead _) _ _ _) fun _ _ => Keeps.pure trivial
            · exact Keeps.pure trivial
          · exact Keeps.pure trivial
          · exact Keeps.pure trivial
          · exact Keeps.throw _
    · rw [inputFieldsOf.eq_def]
      dsimp only
      refine Keeps.bind Keeps.get fun st hst => ?_
      split
      · exact Keeps.pure (hst _ _ ‹_›)
      · split
        · rename_i base adds hd
          -- the fields built here resolve the draft's declarations, which the memory then records
          have hrest : Keeps (CacheResolved drafts) (do
              let fs ← within (n ++ " fields cannot be resolved. ")
                (buildInputFields drafts (h + 5) (readDefault drafts fuel (h + 4)) base.inputFields
                  adds)
              modify fun s => { s with inputFields := s.inputFields.set n fs }
              pure fs) fun _ => InputsResolved drafts n := by
            refine Keeps.bind (Keeps.within _ (buildInputFields_resolves _ (ihRead _) _ _))
              fun fs hfs => ?_
            have hres : InputsResolved drafts n := fun base' adds' h' => by
              rw [hd] at h'
              cases h'
              exact hfs
            refine Keeps.bind (Keeps.modify fun s hs k gs hk => ?_) fun _ _ => Keeps.pure hres
            by_cases hkn : n = k
            · subst hkn
              exact hres
            · rw [Table.find?_set_of_ne _ _ hkn] at hk
              exact hs k gs hk
          split
          · exact Keeps.bind (Keeps.throw (Q := fun _ => True) _) fun _ _ => hrest
          · exact hrest
        · exact Keeps.pure fun base adds h => by simp_all
        · exact Keeps.pure fun base adds h => by simp_all

/-- What building a field resolves: its type and the types of its arguments. -/
def FieldResolved (drafts : Table Draft) (f : FieldDefinition) : Prop :=
  (lookupDraft drafts f.type.baseName).isSome ∧
    ∀ a ∈ f.arguments, (lookupDraft drafts a.type.baseName).isSome

lemma buildField_resolves (fuel height : Nat) (f : FieldDefinition) :
    Keeps (CacheResolved drafts) (buildField drafts fuel height f) fun _ => FieldResolved drafts f := by
  unfold buildField
  refine Keeps.bind (resolveType_resolves _ _) fun _ htype => ?_
  refine Keeps.bind (Keeps.foldlM_all (fun a : InputValueDefinition =>
    (lookupDraft drafts a.type.baseName).isSome) fun a _ acc =>
      Keeps.bind (buildInputValue_resolves _ ((readers_resolve fuel).1 _) a) fun _ h => Keeps.pure h)
    fun _ hargs => ?_
  exact Keeps.bind (Keeps.lift _) fun _ _ => Keeps.pure ⟨htype, hargs⟩

/-- Building the fields of declarations resolves the fields their object and interface
declarations list. -/
lemma buildFields_resolves (fuel height : Nat) (start : Table Field) (adds : List TypeDeclaration) :
    Keeps (CacheResolved drafts) (buildFields drafts fuel height start adds) fun _ =>
      ∀ d ∈ adds, ∀ is fs, (d.body = .object is fs ∨ d.body = .interface is fs) →
        ∀ f ∈ fs, FieldResolved drafts f := by
  unfold buildFields
  refine Keeps.bind (Keeps.forM fun e _ => ?_) fun _ _ => ?_
  · exact Keeps.bind (reresolveType_keeps _ _) fun _ _ => Keeps.forM fun _ _ => reresolveType_keeps _ _
  refine Keeps.foldlM_all _ fun d _ acc => ?_
  -- the fields an object or interface declaration lists, one after another
  have hfields : ∀ is fs, (d.body = .object is fs ∨ d.body = .interface is fs) →
      Keeps (CacheResolved drafts) (fs.foldlM (fun acc f => do
          let x ← buildField drafts fuel height f
          pure (acc.set f.name x)) acc) fun _ =>
        ∀ is' fs', (d.body = .object is' fs' ∨ d.body = .interface is' fs') →
          ∀ f ∈ fs', FieldResolved drafts f := by
    intro is fs hb
    refine (Keeps.foldlM_all (FieldResolved drafts) fun f _ _ =>
      Keeps.bind (buildField_resolves fuel height f) fun _ h => Keeps.pure h).mono
      fun _ hall is' fs' hb' => ?_
    have : fs' = fs := by rcases hb with hb | hb <;> rcases hb' with hb' | hb' <;> simp_all
    exact this ▸ hall
  split
  · exact hfields _ _ (.inl ‹_›)
  · exact hfields _ _ (.inr ‹_›)
  · rename_i hobj hiface
    exact Keeps.pure fun is fs hb => by rcases hb with hb | hb <;> simp_all

lemma buildNames_resolves (start added : List String) :
    Keeps (CacheResolved drafts) (buildNames drafts start added) fun _ =>
      ∀ n ∈ added, (lookupDraft drafts n).isSome :=
  Keeps.bind (Keeps.forM_all _ fun n _ => requireType_resolves n) fun _ h => Keeps.pure h

/-- An object or interface declaration whose interfaces and fields resolve refers only to names
that resolve. -/
lemma references_resolved_of_fields {d : TypeDeclaration} {is : List String}
    {fs : List FieldDefinition} (hb : d.body = .object is fs ∨ d.body = .interface is fs)
    (his : ∀ x ∈ is, (lookupDraft drafts x).isSome) (hfs : ∀ f ∈ fs, FieldResolved drafts f) :
    ∀ x ∈ d.references, (lookupDraft drafts x).isSome := by
  intro x hx
  have hx' : x ∈ is ∨ ∃ f ∈ fs, x = f.type.baseName ∨ ∃ a ∈ f.arguments, x = a.type.baseName := by
    rcases hb with hb | hb <;> simpa [TypeDeclaration.references, hb, eq_comm] using hx
  rcases hx' with hx | ⟨f, hf, rfl | ⟨a, ha, rfl⟩⟩
  · exact his x hx
  · exact (hfs f hf).1
  · exact (hfs f hf).2 a ha

/-- Completing a draft resolves what its declarations of its kind refer to. -/
lemma completeDraft_resolves (fuel height : Nat) (dr : Draft) :
    Keeps (CacheResolved drafts) (completeDraft drafts fuel height dr) fun _ =>
      DraftResolved drafts dr := by
  cases dr with
  | complete t => exact Keeps.pure trivial
  | pending base adds =>
    unfold completeDraft
    dsimp only
    split
    · rename_i is fs hshape
      refine Keeps.bind (Keeps.within _ (buildNames_resolves _ _)) fun _ hnames => ?_
      refine Keeps.bind (Keeps.within _ (buildFields_resolves _ _ _ _)) fun _ hfields => ?_
      refine Keeps.pure fun _ d hd hk => ?_
      obtain ⟨is', fs', hb⟩ : ∃ is fs, d.body = .object is fs := by
        cases hb : d.body <;> simp_all [TypeDeclaration.kind, TypeBody.kind, NamedType.kind, TypeShape.kind]
      refine references_resolved_of_fields (.inl hb) (fun x hx => hnames x ?_) (hfields d hd _ _ (.inl hb))
      exact List.mem_flatMap.2 ⟨d, hd, by simpa [TypeDeclaration.interfaceNames, hb] using hx⟩
    · rename_i is fs hshape
      refine Keeps.bind (Keeps.within _ (buildNames_resolves _ _)) fun _ hnames => ?_
      refine Keeps.bind (Keeps.within _ (buildFields_resolves _ _ _ _)) fun _ hfields => ?_
      refine Keeps.pure fun _ d hd hk => ?_
      obtain ⟨is', fs', hb⟩ : ∃ is fs, d.body = .interface is fs := by
        cases hb : d.body <;> simp_all [TypeDeclaration.kind, TypeBody.kind, NamedType.kind, TypeShape.kind]
      refine references_resolved_of_fields (.inr hb) (fun x hx => hnames x ?_) (hfields d hd _ _ (.inr hb))
      exact List.mem_flatMap.2 ⟨d, hd, by simpa [TypeDeclaration.interfaceNames, hb] using hx⟩
    · rename_i ms hshape
      refine Keeps.bind (Keeps.within _ (buildNames_resolves _ _)) fun _ hmembers => ?_
      refine Keeps.pure fun _ d hd hk x hx => hmembers x (List.mem_flatMap.2 ⟨d, hd, ?_⟩)
      obtain ⟨ms', hb⟩ : ∃ ms, d.body = .union ms := by
        cases hb : d.body <;> simp_all [TypeDeclaration.kind, TypeBody.kind, NamedType.kind, TypeShape.kind]
      simpa [TypeDeclaration.unionMembers, TypeDeclaration.references, hb] using hx
    · rename_i fs hshape
      refine Keeps.bind ((readers_resolve fuel).2 _ _) fun _ hfs => Keeps.pure fun hd d hdm hk => ?_
      exact hfs base adds hd d hdm (by simp [hk, NamedType.kind, hshape, TypeShape.kind])
    · rename_i hobj hiface hunion hinput
      refine Keeps.pure fun _ d _ hk x hx => ?_
      -- the base is a scalar or an enum, and declarations of those kinds refer to nothing
      cases hshape : base.shape <;> cases hb : d.body <;>
        simp_all [TypeDeclaration.kind, TypeBody.kind, NamedType.kind, TypeShape.kind,
          TypeDeclaration.references]

/-- Completing drafts that succeeds resolves what each of them promises. -/
lemma completeAll_resolves {height : Nat} {types : Table NamedType}
    (h : completeAll drafts height = .ok types) : ∀ e ∈ drafts, DraftResolved drafts e.2 := by
  unfold completeAll at h
  dsimp only at h
  cases hr : (drafts.foldlM (fun (acc : Table NamedType) (entry : String × Draft) => do
      let t ← completeDraft drafts (stackLimit + 1) height entry.2
      pure (acc.set entry.1 t)) [] : BuildM (Table NamedType)).run {} with
  | error e => rw [hr] at h; cases h
  | ok p =>
    refine (Keeps.foldlM_all (fun e : String × Draft => DraftResolved drafts e.2)
      (fun e _ acc => Keeps.bind (completeDraft_resolves _ _ e.2) fun _ h => Keeps.pure h)
      {} p.1 p.2 (fun _ _ h => ?_) hr).2
    simp at h

/-- A declaration a pending draft filed under its base's name waits on, of the base's kind, refers
only to names that resolve, once completing the drafts succeeds. -/
lemma references_resolved_of_pending {height : Nat} {types : Table NamedType}
    (h : completeAll drafts height = .ok types) {base : NamedType} {adds : List TypeDeclaration}
    (hl : lookupDraft drafts base.name = some (.pending base adds)) {d : TypeDeclaration}
    (hd : d ∈ adds) (hk : d.kind = base.kind) : ∀ x ∈ d.references, (lookupDraft drafts x).isSome := by
  have hmem : (base.name, Draft.pending base adds) ∈ drafts := by
    unfold lookupDraft at hl
    split at hl
    · cases hl
    · exact Table.mem_of_find? hl
  exact completeAll_resolves h _ hmem hl d hd hk

end Resolving

/-! ### The drafts building starts from -/

lemma specifiedByOf_failsWith (ds : List Directive) :
    FailsWith (fun e => e.isMismatch = false) (specifiedByOf ds) := by
  unfold specifiedByOf
  split
  · exact FailsWith.ok _
  · exact FailsWith.bind (argumentValues_failsWith _ _) fun _ _ => FailsWith.ok _

lemma buildEnumValues_failsWith (nodes : List TypeDeclaration) :
    FailsWith (fun e => e.isMismatch = false) (buildEnumValues nodes) := by
  unfold buildEnumValues
  refine FailsWith.foldlM fun d _ acc => ?_
  split
  · exact FailsWith.foldlM fun v _ acc =>
      FailsWith.bind (deprecationOf_failsWith _) fun _ _ => FailsWith.ok _
  · exact FailsWith.ok _

lemma draftOfDefinition_failsWith (d : TypeDeclaration) (exts : List TypeDeclaration) :
    FailsWith (fun e => e.isMismatch = false) (draftOfDefinition d exts) := by
  unfold draftOfDefinition
  split
  · exact FailsWith.ok _
  · dsimp only
    split
    · exact FailsWith.bind (specifiedByOf_failsWith _) fun _ _ => FailsWith.ok _
    · exact FailsWith.bind (buildEnumValues_failsWith _) fun _ _ => FailsWith.ok _
    · exact FailsWith.ok _

lemma draftOfExisting_failsWith (t : NamedType) (exts : List TypeDeclaration) :
    FailsWith (fun e => e.isMismatch = false) (draftOfExisting t exts) := by
  unfold draftOfExisting
  split
  · exact FailsWith.ok _
  · dsimp only
    split
    · refine FailsWith.bind (FailsWith.foldlM fun e _ u => ?_) fun _ _ => FailsWith.ok _
      exact FailsWith.bind (specifiedByOf_failsWith _) fun _ _ => FailsWith.ok _
    · exact FailsWith.bind (buildEnumValues_failsWith _) fun _ _ => FailsWith.ok _
    · exact FailsWith.ok _
    · exact FailsWith.ok _

/-- Making drafts never fails with a mismatch: only directive arguments can make it fail. -/
lemma draftTypes_failsWith (schema : Schema) (ds : List TypeDeclaration)
    (extensions : Table (List TypeDeclaration)) :
    FailsWith (fun e => e.isMismatch = false) (draftTypes schema ds extensions) := by
  unfold draftTypes
  refine FailsWith.bind (FailsWith.foldlM fun e _ acc => ?_) fun _ _ => FailsWith.foldlM fun d _ acc => ?_
  · exact FailsWith.bind (draftOfExisting_failsWith _ _) fun _ _ => FailsWith.ok _
  · exact FailsWith.bind (draftOfDefinition_failsWith _ _) fun _ _ => FailsWith.ok _

/-- A pending draft of a definition is of the definition's name and kind and waits on the
definition and the extensions given with it. -/
lemma draftOfDefinition_pending {d : TypeDeclaration} {exts : List TypeDeclaration} {base : NamedType}
    {adds : List TypeDeclaration} (h : draftOfDefinition d exts = .ok (.pending base adds)) :
    isStandardName d.name = false ∧ base.name = d.name ∧ base.kind = d.kind ∧ adds = d :: exts := by
  unfold draftOfDefinition at h
  cases hs : standardType? d.name with
  | some t => rw [hs] at h; cases h
  | none =>
    rw [hs] at h
    dsimp only at h
    split at h
    · obtain ⟨_, -, h⟩ := ok_of_bind_eq_ok h
      cases h
    · obtain ⟨_, -, h⟩ := ok_of_bind_eq_ok h
      cases h
    · cases h
      exact ⟨by simp [isStandardName_eq, hs], rfl, TypeShape.kind_empty _, rfl⟩

/-- A pending draft of a type a schema has is of the type's name and kind and waits on the
extensions given with it. -/
lemma draftOfExisting_pending {t : NamedType} {exts : List TypeDeclaration} {base : NamedType}
    {adds : List TypeDeclaration} (h : draftOfExisting t exts = .ok (.pending base adds)) :
    isStandardName t.name = false ∧ base.name = t.name ∧ base.kind = t.kind ∧ adds = exts := by
  unfold draftOfExisting at h
  cases hs : isStandardName t.name
  · simp only [hs, Bool.false_eq_true, if_false] at h
    split at h
    · obtain ⟨_, -, h⟩ := ok_of_bind_eq_ok h
      cases h
    · obtain ⟨_, -, h⟩ := ok_of_bind_eq_ok h
      cases h
    · split at h
      · cases h
      · cases h
        exact ⟨rfl, rfl, rfl, rfl⟩
    · cases h
      exact ⟨rfl, rfl, rfl, rfl⟩
  · simp only [hs, if_true] at h
    cases h

/-- The draft of a definition of a kind whose members are built later, under a name that is not
built in, is pending on the definition and the extensions given with it. -/
lemma draftOfDefinition_of_kind {d : TypeDeclaration} {exts : List TypeDeclaration} {dr : Draft}
    (hn : isStandardName d.name = false) (hs : d.kind ≠ .scalar) (he : d.kind ≠ .enum)
    (h : draftOfDefinition d exts = .ok dr) :
    ∃ base, dr = .pending base (d :: exts) ∧ base.name = d.name ∧ base.kind = d.kind := by
  unfold draftOfDefinition at h
  rw [standardType?_eq_none hn] at h
  dsimp only at h
  split at h
  · contradiction
  · contradiction
  · cases h
    exact ⟨_, rfl, rfl, TypeShape.kind_empty _⟩

/-- The draft of a type a schema has, of a kind whose members are built later, under a name that
is not built in and with extensions, is pending on those extensions. -/
lemma draftOfExisting_of_kind {t : NamedType} {exts : List TypeDeclaration} {dr : Draft}
    (hn : isStandardName t.name = false) (hs : t.kind ≠ .scalar) (he : t.kind ≠ .enum)
    (hne : exts ≠ []) (h : draftOfExisting t exts = .ok dr) :
    ∃ base, dr = .pending base exts ∧ base.name = t.name ∧ base.kind = t.kind := by
  unfold draftOfExisting at h
  simp only [hn, Bool.false_eq_true, if_false] at h
  split at h
  · rename_i url hshape
    exact absurd (by simp [NamedType.kind, hshape, TypeShape.kind]) hs
  · rename_i vs hshape
    exact absurd (by simp [NamedType.kind, hshape, TypeShape.kind]) he
  · have hempty : exts.isEmpty = false := by simpa [List.isEmpty_iff] using hne
    simp only [hempty, Bool.false_eq_true, if_false] at h
    cases h
    exact ⟨_, rfl, rfl, rfl⟩
  · cases h
    exact ⟨_, rfl, rfl, rfl⟩

section Drafts

variable {schema : Schema} {ds : List TypeDeclaration} {extensions : Table (List TypeDeclaration)}
  {drafts : Table Draft}

/-- A name resolves among the drafts of a document exactly when it is built in, the document
defines it, or the schema has it. -/
lemma lookupDraft_isSome_iff (h : draftTypes schema ds extensions = .ok drafts) (x : String) :
    (lookupDraft drafts x).isSome ↔
      isStandardName x = true ∨ (∃ d ∈ ds, d.name = x) ∨ x ∈ schema.types.keys := by
  cases hx : isStandardName x
  · rw [lookupDraft_of_nonstandard hx, Table.isSome_find?_iff, mem_keys_draftTypes h]
    simp
  · obtain ⟨t, ht⟩ := Option.isSome_iff_exists.1 ((isStandardName_eq x) ▸ hx)
    simp [lookupDraft, ht]

/-- A declaration a draft waits on is the last definition of the draft's name, or an extension
filed under it; the name is not built in. -/
lemma waits_cases (hnamed : ∀ e ∈ schema.types, e.2.name = e.1)
    (h : draftTypes schema ds extensions = .ok drafts) {d : TypeDeclaration} (hw : Waits drafts d) :
    ∃ n, isStandardName n = false ∧
      ((ds.filter (·.name == n)).getLast? = some d ∨ d ∈ (extensions.find? n).getD []) := by
  obtain ⟨n, base, adds, hmem, hd⟩ := hw
  have hf := Table.find?_of_mem (draftTypes_nodup h) hmem
  rw [draftTypes_find? h] at hf
  refine ⟨n, ?_⟩
  split at hf
  · rename_i d₀ hlast
    have hname : d₀.name = n := by
      simpa using (List.mem_filter.1 (List.mem_of_getLast? hlast)).2
    obtain ⟨hs, -, -, rfl⟩ := draftOfDefinition_pending (eq_ok_of_toOption hf)
    rw [hname] at hs
    rcases List.mem_cons.1 hd with rfl | hd
    · exact ⟨hs, .inl hlast⟩
    · exact ⟨hs, .inr hd⟩
  · split at hf
    · rename_i e hlast
      have he := List.mem_filter.1 (List.mem_of_getLast? hlast)
      obtain ⟨hs, -, -, rfl⟩ := draftOfExisting_pending (eq_ok_of_toOption hf)
      rw [hnamed e he.1, show e.1 = n by simpa using he.2] at hs
      exact ⟨hs, .inr hd⟩
    · cases hf

/-- The draft filed under a name the schema has, when the document defines nothing: that of the
name's type, with the extensions filed under the name. -/
lemma draftTypes_find?_existing (hentries : ∀ e ∈ schema.types, schema.type? e.1 = some e.2)
    (h : draftTypes schema [] extensions = .ok drafts) {n : String} {t : NamedType}
    (ht : schema.type? n = some t) :
    ∃ dr, drafts.find? n = some dr ∧ draftOfExisting t ((extensions.find? n).getD []) = .ok dr := by
  have hnt : (n, t) ∈ schema.types := Table.mem_of_find? ht
  obtain ⟨e, he⟩ : ∃ e, (schema.types.filter (·.1 == n)).getLast? = some e :=
    Option.isSome_iff_exists.1 (List.getLast?_isSome.2 (List.ne_nil_of_mem (List.mem_filter.2 ⟨hnt, by simp⟩)))
  have hmem := List.mem_filter.1 (List.mem_of_getLast? he)
  have hkey : e.1 = n := by simpa using hmem.2
  have het : e.2 = t := by
    have := hentries e hmem.1
    rw [hkey, ht] at this
    exact (Option.some.inj this).symm
  obtain ⟨dr, hdr⟩ : ∃ dr, drafts.find? n = some dr :=
    Option.isSome_iff_exists.1 (Table.isSome_find?_iff.2 ((mem_keys_draftTypes h n).2
      (.inr (Table.mem_keys_of_mem hnt))))
  have hf := draftTypes_find? h n
  simp only [List.filter_nil, List.getLast?_nil, he, hdr, het] at hf
  exact ⟨dr, hdr, eq_ok_of_toOption hf.symm⟩

end Drafts

/-- Extending a schema fails with a mismatch only when completing the drafts it makes fails, for
a reason. -/
lemma extend_mismatch {schema : Schema} {ds es : List TypeDeclaration} {height : Nat} {m : String}
    (h : schema.extend (ds.map .type ++ es.map .typeExtension) height = .error (.mismatch m)) :
    ∃ drafts, draftTypes schema ds (es.foldl (fun m d => Table.update m d.name [] (· ++ [d])) []) =
        .ok drafts ∧ ∃ pre r, m = pre ++ r ∧ BuildReason drafts r := by
  rw [extend_eq] at h
  split at h
  · cases h
  · cases hd : draftTypes schema ds (es.foldl (fun m d => Table.update m d.name [] (· ++ [d])) []) with
    | error e =>
      rw [hd] at h
      cases h
      cases draftTypes_failsWith _ _ _ _ hd
    | ok drafts =>
      rw [hd] at h
      exact ⟨drafts, rfl,
        FailsWith.bind (completeAll_failsFor height) (fun _ _ => FailsWith.ok _) _ h⟩

end Federation.Schema
