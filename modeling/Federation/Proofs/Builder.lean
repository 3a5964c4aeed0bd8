import Mathlib.Tactic.Lemma
import Federation.Schema.Build
import Federation.Proofs.Table

/-!
# Building members

What building the members of a type produces, whatever it meets on the way: each field, input
field and enum value keeps the declaration it came from, and the members of a type are those
it had, then those its declarations add, merged by name in order (`mergeDeclared`).

Building reads defaults, and reading a default against an input object builds that object's
fields once and remembers them. The memory is the one piece of state, and `Keeps` says that a
step of building leaves it as good as it found it and yields a result of a property. The
memory is good (`CacheGood`) when the fields remembered for a name are those the name's draft
declares; every builder keeps it so, by induction on its budget for the two mutually recursive
readers.
-/

namespace Federation.Syntax

/-- A member as declared: a field, an input field or an enum value. -/
inductive MemberNode where
  | field (f : FieldDefinition)
  | inputField (f : InputValueDefinition)
  | enumValue (v : EnumValueDefinition)

/-- The members a declaration lists, each with its name. -/
def TypeDeclaration.members (d : TypeDeclaration) : List (String × MemberNode) :=
  match d.body with
  | .object _ fs | .interface _ fs => fs.map fun f => (f.name, .field f)
  | .inputObject fs => fs.map fun f => (f.name, .inputField f)
  | .enum vs => vs.map fun v => (v.name, .enumValue v)
  | .scalar | .union _ => []

/-- Kinds compare by their constructors. -/
instance : LawfulBEq TypeKind where
  eq_of_beq {a b} := by cases a <;> cases b <;> decide
  rfl {a} := by cases a <;> decide

end Federation.Syntax

namespace Federation.Schema

open Syntax

/-- The members declarations list, in order, as entries of a table of declared members. -/
def declared (ds : List TypeDeclaration) : List (String × Option MemberNode) :=
  (ds.flatMap TypeDeclaration.members).map fun e => (e.1, some e.2)

/-- A table of members merged with the members of declarations, by name in order. -/
def mergeDeclared (start : Table (Option MemberNode)) (ds : List TypeDeclaration) :
    Table (Option MemberNode) :=
  start.setAll (declared ds)

/-- The fields of an object or interface, each with its declaration. -/
def fieldNodes (fs : Table Field) : Table (Option MemberNode) :=
  fs.map (Prod.map id fun f => f.node.map .field)

/-- The fields of an input object, each with its declaration. -/
def inputNodes (fs : Table InputField) : Table (Option MemberNode) :=
  fs.map (Prod.map id fun f => f.node.map .inputField)

/-- The values of an enum, each with its declaration. -/
def valueNodes (vs : Table EnumValue) : Table (Option MemberNode) :=
  vs.map (Prod.map id fun v => v.node.map .enumValue)

/-- The members of a named type, each with its declaration. -/
def NamedType.memberNodes (t : NamedType) : Table (Option MemberNode) :=
  match t.shape with
  | .object _ fs | .interface _ fs => fieldNodes fs
  | .inputObject fs => inputNodes fs
  | .enum vs => valueNodes vs
  | .scalar _ | .union _ => []

@[simp] lemma declared_nil : declared [] = [] := rfl

lemma declared_append (ds es : List TypeDeclaration) :
    declared (ds ++ es) = declared ds ++ declared es := by
  simp [declared]

lemma mergeDeclared_append (start : Table (Option MemberNode)) (ds es : List TypeDeclaration) :
    mergeDeclared start (ds ++ es) = mergeDeclared (mergeDeclared start ds) es := by
  simp [mergeDeclared, declared_append, Table.setAll_append]

/-- Merging declarations one at a time, each only when it passes a test, is merging those that
pass. -/
lemma foldl_mergeDeclared (p : TypeDeclaration → Bool) (start : Table (Option MemberNode))
    (ds : List TypeDeclaration) :
    ds.foldl (fun t d => mergeDeclared t ([d].filter p)) start = mergeDeclared start (ds.filter p) := by
  induction ds generalizing start with
  | nil => rfl
  | cons d ds ih =>
    rw [List.foldl_cons, ih, List.filter_cons, ← mergeDeclared_append]
    split <;> simp_all

/-- Merging one declaration is setting its members one after another. -/
lemma mergeDeclared_singleton (start : Table (Option MemberNode)) (d : TypeDeclaration) :
    mergeDeclared start [d] = d.members.foldl (fun t e => t.set e.1 (some e.2)) start := by
  simp [mergeDeclared, declared, Table.setAll, List.foldl_map]

/-! ### Steps that keep the memory good -/

/-- A step of building that, from a memory with a property, ends with a memory with it and a
result of a property. -/
def Keeps {α : Type} (P : BuildState → Prop) (act : BuildM α) (Q : α → Prop) : Prop :=
  ∀ s a s', P s → act.run s = .ok (a, s') → P s' ∧ Q a

namespace Keeps

variable {α β γ δ : Type} {P : BuildState → Prop}

lemma pure {Q : α → Prop} {a : α} (h : Q a) : Keeps P (Pure.pure a) Q := by
  intro s b s' hs hr
  cases hr
  exact ⟨hs, h⟩

lemma bind {Q₁ : α → Prop} {Q₂ : β → Prop} {x : BuildM α} {f : α → BuildM β}
    (hx : Keeps P x Q₁) (hf : ∀ a, Q₁ a → Keeps P (f a) Q₂) : Keeps P (x >>= f) Q₂ := by
  intro s b s' hs hr
  rw [StateT.run_bind] at hr
  cases h : x.run s with
  | error e => simp [h, Bind.bind, Except.bind] at hr
  | ok p =>
    obtain ⟨hp, hq⟩ := hx s p.1 p.2 hs h
    rw [h] at hr
    exact hf p.1 hq p.2 b s' hp hr

lemma throw {Q : α → Prop} (e : SchemaError) : Keeps P (MonadExcept.throw e) Q := by
  intro s b s' hs hr
  cases hr

lemma mono {Q Q' : α → Prop} {act : BuildM α} (h : Keeps P act Q) (hq : ∀ a, Q a → Q' a) :
    Keeps P act Q' :=
  fun s a s' hs hr => (h s a s' hs hr).imp_right (hq a)

lemma and {Q Q' : α → Prop} {act : BuildM α} (h : Keeps P act Q) (h' : Keeps P act Q') :
    Keeps P act fun a => Q a ∧ Q' a :=
  fun s a s' hs hr => ⟨(h s a s' hs hr).1, (h s a s' hs hr).2, (h' s a s' hs hr).2⟩

lemma get : Keeps P MonadState.get P := by
  intro s b s' hs hr
  cases hr
  exact ⟨hs, hs⟩

lemma modify {f : BuildState → BuildState} (hf : ∀ s, P s → P (f s)) :
    Keeps P (modify f) fun _ => True := by
  intro s b s' hs hr
  cases hr
  exact ⟨hf s hs, trivial⟩

/-- Naming where a step failed changes nothing of what it does when it succeeds. -/
lemma within {Q : α → Prop} {act : BuildM α} (pre : String) (h : Keeps P act Q) :
    Keeps P (Schema.within pre act) Q := by
  intro s b s' hs hr
  have hr' : act.run s = .ok (b, s') := by
    change (tryCatch (act.run s) fun e => (MonadExcept.throw (e.within pre) : BuildM α).run s) = _
      at hr
    cases hx : act.run s with
    | error e => rw [hx] at hr; cases hr
    | ok p => rw [hx] at hr; exact hr
  exact h s b s' hs hr'

/-- A check that cannot touch the memory yields what it computes. -/
lemma lift (act : Except SchemaError α) : Keeps P (Schema.lift act) fun a => act = .ok a := by
  intro s b s' hs hr
  cases act with
  | ok a => cases hr; exact ⟨hs, rfl⟩
  | error e => cases hr

/-- A fold keeps the memory good when each step does, and it yields what a pure fold over a
view of its results computes when each step does so. -/
lemma foldlM {f : β → γ → BuildM β} {xs : List γ} {init : β} (R : β → δ) (g : δ → γ → δ)
    (hf : ∀ x ∈ xs, ∀ b, Keeps P (f b x) fun b' => R b' = g (R b) x) :
    Keeps P (xs.foldlM f init) fun b => R b = xs.foldl g (R init) := by
  induction xs generalizing init with
  | nil => exact pure rfl
  | cons x xs ih =>
    rw [List.foldlM_cons]
    refine bind (hf x List.mem_cons_self init) fun b hb => ?_
    refine (ih fun y hy => hf y (List.mem_cons_of_mem _ hy)).mono fun c hc => ?_
    rw [hc, hb, List.foldl_cons]

/-- A fold keeps the memory good and an invariant of its accumulator when each step does. -/
lemma foldlM_inv {f : β → γ → BuildM β} {xs : List γ} {init : β} (I : β → Prop)
    (hf : ∀ x ∈ xs, ∀ b, I b → Keeps P (f b x) I) (h₀ : I init) : Keeps P (xs.foldlM f init) I := by
  induction xs generalizing init with
  | nil => exact pure h₀
  | cons x xs ih =>
    rw [List.foldlM_cons]
    exact bind (hf x List.mem_cons_self init h₀) fun b hb =>
      ih (fun y hy => hf y (List.mem_cons_of_mem _ hy)) hb

/-- A loop keeps the memory good when each of its steps does. -/
lemma forM {f : γ → BuildM PUnit} {xs : List γ} (hf : ∀ x ∈ xs, Keeps P (f x) fun _ => True) :
    Keeps P (xs.forM f) fun _ => True := by
  induction xs with
  | nil => exact pure trivial
  | cons x xs ih =>
    change Keeps P (f x >>= fun _ => xs.forM f) _
    exact bind (hf x List.mem_cons_self) fun _ _ => ih fun y hy => hf y (List.mem_cons_of_mem _ hy)

end Keeps

/-! ### The builders, one by one -/

variable {P : BuildState → Prop} (drafts : Table Draft)

lemma requireType_keeps (n : String) : Keeps P (requireType drafts n) fun _ => True := by
  unfold requireType
  split
  · exact Keeps.pure trivial
  · exact Keeps.throw _

lemma resolveType_keeps (height : Nat) (type : TypeRef) :
    Keeps P (resolveType drafts height type) fun _ => True := by
  unfold resolveType
  dsimp only
  split
  · exact Keeps.throw _
  · exact requireType_keeps drafts _

lemma reresolveType_keeps (height : Nat) (type : TypeRef) :
    Keeps P (reresolveType height type) fun _ => True := by
  unfold reresolveType
  split
  · exact Keeps.throw _
  · exact Keeps.pure trivial

lemma readAll_keeps {read : Value → BuildM (Option InputValue)}
    (hread : ∀ v, Keeps P (read v) fun _ => True) (vs : List Value) :
    Keeps P (readAll read vs) fun _ => True := by
  induction vs with
  | nil => exact Keeps.pure trivial
  | cons v vs ih =>
    unfold readAll
    refine Keeps.bind (hread v) fun r _ => ?_
    cases r with
    | none => exact Keeps.pure trivial
    | some x =>
      refine Keeps.bind ih fun r _ => ?_
      cases r <;> exact Keeps.pure trivial

lemma readFields_keeps {read : TypeRef → Value → BuildM (Option InputValue)}
    (hread : ∀ t v, Keeps P (read t v) fun _ => True) (given : Table Value)
    (acc : Table InputValue) (fields : List (String × InputField)) :
    Keeps P (readFields read given acc fields) fun _ => True := by
  induction fields generalizing acc with
  | nil => exact Keeps.pure trivial
  | cons e fields ih =>
    obtain ⟨n, f⟩ := e
    unfold readFields
    split
    · split
      · exact ih _
      · exact Keeps.pure trivial
      · exact ih _
    · refine Keeps.bind (hread _ _) fun r _ => ?_
      cases r with
      | none => exact Keeps.pure trivial
      | some x => exact ih _

/-- An argument or input field keeps the declaration it was built from. -/
lemma buildInputValue_keeps (height : Nat) {read : TypeRef → Value → BuildM (Option InputValue)}
    (hread : ∀ t v, Keeps P (read t v) fun _ => True) (iv : InputValueDefinition) :
    Keeps P (buildInputValue drafts height read iv) fun f => f.node = some iv := by
  unfold buildInputValue
  refine Keeps.bind (resolveType_keeps drafts _ _) fun _ _ => ?_
  dsimp only
  -- the default is read, if there is one, before the deprecation
  have rest : ∀ dflt, Keeps P (do
      let dep ← lift (deprecationOf iv.directives)
      pure { name := iv.name, description := iv.description, type := iv.type, default := dflt,
             deprecation := dep, node := some iv }) fun f : InputField => f.node = some iv :=
    fun _ => Keeps.bind (Keeps.lift _) fun _ _ => Keeps.pure rfl
  split
  · exact Keeps.bind (Keeps.pure (Q := fun _ => True) trivial) fun _ _ => rest _
  · exact Keeps.bind (hread _ _) fun _ _ => rest _

/-- Setting a built member keeps the table of declared members in step. -/
lemma inputNodes_set (fs : Table InputField) (n : String) (f : InputField) :
    inputNodes (fs.set n f) = (inputNodes fs).set n (f.node.map .inputField) :=
  Table.map_set _ fs n f

lemma fieldNodes_set (fs : Table Field) (n : String) (f : Field) :
    fieldNodes (fs.set n f) = (fieldNodes fs).set n (f.node.map .field) :=
  Table.map_set _ fs n f

/-- The input fields built for a type are those it had, merged with those its input object
declarations add. -/
lemma buildInputFields_keeps (height : Nat) {read : TypeRef → Value → BuildM (Option InputValue)}
    (hread : ∀ t v, Keeps P (read t v) fun _ => True) (start : Table InputField)
    (adds : List TypeDeclaration) :
    Keeps P (buildInputFields drafts height read start adds) fun fs =>
      inputNodes fs = mergeDeclared (inputNodes start) (adds.filter (·.kind == .inputObject)) := by
  unfold buildInputFields
  refine Keeps.bind (Keeps.forM fun _ _ => reresolveType_keeps _ _) fun _ _ => ?_
  refine (Keeps.foldlM inputNodes (fun t d => mergeDeclared t ([d].filter (·.kind == .inputObject)))
    fun d _ acc => ?_).mono fun fs h => by rw [h, foldl_mergeDeclared]
  split
  · rename_i ivs hbody
    have hk : [d].filter (·.kind == .inputObject) = [d] := by
      simp [TypeDeclaration.kind, hbody, TypeBody.kind]
    have hm : d.members = ivs.map fun iv => (iv.name, .inputField iv) := by
      simp [TypeDeclaration.members, hbody]
    rw [hk, mergeDeclared_singleton, hm, List.foldl_map]
    refine Keeps.foldlM inputNodes (fun t iv => t.set iv.name (some (.inputField iv)))
      fun iv _ acc => Keeps.bind (buildInputValue_keeps drafts _ hread iv) fun f hf => ?_
    exact Keeps.pure (by rw [inputNodes_set, hf]; rfl)
  · rename_i hbody
    have hk : [d].filter (·.kind == .inputObject) = [] := by
      cases hd : d.body <;> simp_all [TypeDeclaration.kind, TypeBody.kind]
    rw [hk]
    exact Keeps.pure rfl

/-! ### The memory of input fields -/

/-- The input fields remembered for a name are those its draft declares: those its base had,
merged with those its input object declarations add. -/
def FieldsOf (n : String) (fs : Table InputField) : Prop :=
  ∀ base adds, lookupDraft drafts n = some (.pending base adds) →
    inputNodes fs = mergeDeclared (inputNodes base.inputFields) (adds.filter (·.kind == .inputObject))

/-- A memory is good when the input fields it remembers for each name are those the name's draft
declares. -/
def CacheGood (st : BuildState) : Prop :=
  ∀ n fs, st.inputFields.find? n = some fs → FieldsOf drafts n fs

/-- Remembering the fields a name's draft declares keeps the memory good. -/
lemma CacheGood.set {st : BuildState} (h : CacheGood drafts st) {n : String} {fs : Table InputField}
    (hfs : FieldsOf drafts n fs) :
    CacheGood drafts { st with inputFields := st.inputFields.set n fs } := by
  intro k gs hk
  by_cases hkn : n = k
  · subst hkn
    simp only [Table.find?_set_self, Option.some.injEq] at hk
    exact hk ▸ hfs
  · rw [Table.find?_set_of_ne _ _ hkn] at hk
    exact h k gs hk

/-- Reading a default and building the fields of an input object keep the memory good, and the
fields built for a name are those its draft declares. -/
lemma readers_keep (fuel : Nat) :
    (∀ h ty v, Keeps (CacheGood drafts) (readDefault drafts fuel h ty v) fun _ => True) ∧
      ∀ h n, Keeps (CacheGood drafts) (inputFieldsOf drafts fuel h n) (FieldsOf drafts n) := by
  induction fuel with
  | zero => exact ⟨fun _ _ _ => Keeps.throw _, fun _ _ => Keeps.throw _⟩
  | succ fuel ih =>
    obtain ⟨ihRead, ihFields⟩ := ih
    refine ⟨fun h ty v => ?_, fun h n => ?_⟩
    · rw [readDefault.eq_def]
      dsimp only
      split
      · exact Keeps.throw _
      split
      · exact Keeps.pure trivial
      · split
        · exact Keeps.pure trivial
        · exact ihRead _ _ _
      · exact Keeps.pure trivial
      · split
        · exact Keeps.bind (readAll_keeps (ihRead _ _) _) fun _ _ => Keeps.pure trivial
        · exact Keeps.bind (ihRead _ _ _) fun _ _ => Keeps.pure trivial
      · split
        · exact Keeps.pure trivial
        · split
          · split
            · refine Keeps.bind (ihFields _ _) fun _ _ => ?_
              exact Keeps.bind (readFields_keeps (ihRead _) _ _ _) fun _ _ => Keeps.pure trivial
            · exact Keeps.pure trivial
          · exact Keeps.pure trivial
          · exact Keeps.pure trivial
          · exact Keeps.throw _
    · rw [inputFieldsOf.eq_def]
      dsimp only
      refine Keeps.bind Keeps.get fun st hst => ?_
      split
      · exact Keeps.pure (hst _ _ ‹_›)
      · split
        · rename_i base adds hd
          -- the fields built here are the ones the memory then remembers
          have hrest : Keeps (CacheGood drafts) (do
              let fs ← within (n ++ " fields cannot be resolved. ")
                (buildInputFields drafts (h + 5) (readDefault drafts fuel (h + 4)) base.inputFields
                  adds)
              modify fun s => { s with inputFields := s.inputFields.set n fs }
              pure fs) (FieldsOf drafts n) := by
            refine Keeps.bind (Keeps.within _ (buildInputFields_keeps drafts _ (ihRead _) _ _))
              fun fs hfs => ?_
            have hof : FieldsOf drafts n fs := fun base' adds' h' => by
              rw [hd] at h'
              cases h'
              exact hfs
            exact Keeps.bind (Keeps.modify fun s hs => hs.set drafts hof) fun _ _ => Keeps.pure hof
          split
          · exact Keeps.bind (Keeps.throw (Q := fun _ => True) _) fun _ _ => hrest
          · exact hrest
        · exact Keeps.pure fun base adds h => by simp_all
        · exact Keeps.pure fun base adds h => by simp_all

/-! ### Fields, names and whole types -/

/-- A field keeps the declaration it was built from. -/
lemma buildField_keeps (fuel height : Nat) (f : FieldDefinition) :
    Keeps (CacheGood drafts) (buildField drafts fuel height f) fun x => x.node = some f := by
  unfold buildField
  refine Keeps.bind (resolveType_keeps drafts _ _) fun _ _ => ?_
  refine Keeps.bind (Keeps.foldlM_inv (fun _ => True) (fun a _ acc _ => ?_) trivial) fun _ _ => ?_
  · exact Keeps.bind (buildInputValue_keeps drafts _ ((readers_keep drafts fuel).1 _) a)
      fun _ _ => Keeps.pure trivial
  · exact Keeps.bind (Keeps.lift _) fun _ _ => Keeps.pure rfl

/-- The fields built for an object or interface are those it had, merged with those its object
and interface declarations add. -/
lemma buildFields_keeps (fuel height : Nat) (start : Table Field) (adds : List TypeDeclaration) :
    Keeps (CacheGood drafts) (buildFields drafts fuel height start adds) fun fs =>
      fieldNodes fs = mergeDeclared (fieldNodes start)
        (adds.filter fun d => d.kind == .object || d.kind == .interface) := by
  unfold buildFields
  refine Keeps.bind (Keeps.forM fun e _ => ?_) fun _ _ => ?_
  · exact Keeps.bind (reresolveType_keeps _ _) fun _ _ => Keeps.forM fun _ _ => reresolveType_keeps _ _
  refine (Keeps.foldlM fieldNodes
    (fun t d => mergeDeclared t ([d].filter fun d => d.kind == .object || d.kind == .interface))
    fun d _ acc => ?_).mono fun fs h => by rw [h, foldl_mergeDeclared]
  -- the fields an object or interface declaration lists, one after another
  have hfields : ∀ fs : List FieldDefinition, d.members = fs.map (fun f => (f.name, .field f)) →
      [d].filter (fun d => d.kind == .object || d.kind == .interface) = [d] →
      Keeps (CacheGood drafts) (fs.foldlM (fun acc f => do
          let x ← buildField drafts fuel height f
          pure (acc.set f.name x)) acc) fun b =>
        fieldNodes b = mergeDeclared (fieldNodes acc)
          ([d].filter fun d => d.kind == .object || d.kind == .interface) := by
    intro fs hm hk
    rw [hk, mergeDeclared_singleton, hm, List.foldl_map]
    refine Keeps.foldlM fieldNodes (fun t f => t.set f.name (some (.field f)))
      fun f _ acc => Keeps.bind (buildField_keeps drafts fuel height f) fun x hx => ?_
    exact Keeps.pure (by rw [fieldNodes_set, hx]; rfl)
  split
  · rename_i fs hbody
    exact hfields fs (by simp [TypeDeclaration.members, hbody])
      (by simp [TypeDeclaration.kind, hbody, TypeBody.kind])
  · rename_i fs hbody
    exact hfields fs (by simp [TypeDeclaration.members, hbody])
      (by simp [TypeDeclaration.kind, hbody, TypeBody.kind])
  · rename_i hobj hiface
    have hk : [d].filter (fun d => d.kind == .object || d.kind == .interface) = [] := by
      cases hd : d.body <;> simp_all [TypeDeclaration.kind, TypeBody.kind]
    rw [hk]
    exact Keeps.pure rfl

lemma buildNames_keeps (start added : List String) :
    Keeps (CacheGood drafts) (buildNames drafts start added) fun _ => True :=
  Keeps.bind (Keeps.forM fun _ _ => requireType_keeps drafts _) fun _ _ => Keeps.pure trivial

/-- Merging declarations that list no members changes nothing. -/
lemma mergeDeclared_of_members_nil (start : Table (Option MemberNode)) {ds : List TypeDeclaration}
    (h : ∀ d ∈ ds, d.members = []) : mergeDeclared start ds = start := by
  have : declared ds = [] := by
    simp only [declared, List.map_eq_nil_iff, List.flatMap_eq_nil_iff]
    exact h
  simp [mergeDeclared, this]

lemma members_eq_nil_of_kind {d : TypeDeclaration} (h : d.kind = .union ∨ d.kind = .scalar) :
    d.members = [] := by
  unfold TypeDeclaration.members
  cases hd : d.body <;> simp_all [TypeDeclaration.kind, TypeBody.kind]

/-- What completing a draft yields: a complete draft, itself; a pending one, a type of the same
name, kind and declaration whose members are those it had merged with those its declarations
add, provided it is the draft of its name, its declarations are of its kind and it is not an
enum (enums are complete from the start). -/
def Completion : Draft → NamedType → Prop
  | .complete t, t' => t' = t
  | .pending base adds, t =>
    t.name = base.name ∧ t.kind = base.kind ∧ t.node = base.node ∧
      (lookupDraft drafts base.name = some (.pending base adds) → (∀ a ∈ adds, a.kind = base.kind) →
        base.kind ≠ .enum → t.memberNodes = mergeDeclared base.memberNodes adds)

/-- Completing a draft yields its completion. -/
lemma completeDraft_keeps (fuel height : Nat) (dr : Draft) :
    Keeps (CacheGood drafts) (completeDraft drafts fuel height dr) (Completion drafts dr) := by
  cases dr with
  | complete t => exact Keeps.pure rfl
  | pending base adds =>
    unfold completeDraft
    dsimp only
    split
    · rename_i is fs hshape
      refine Keeps.bind (Keeps.within _ (buildNames_keeps drafts _ _)) fun _ _ => ?_
      refine Keeps.bind (Keeps.within _ (buildFields_keeps drafts _ _ _ _)) fun fs' hfs => ?_
      refine Keeps.pure ⟨rfl, by simp [NamedType.kind, hshape, TypeShape.kind], rfl, fun _ hk _ => ?_⟩
      have hkind : base.kind = .object := by simp [NamedType.kind, hshape, TypeShape.kind]
      rw [List.filter_eq_self.2 fun a ha => by simp [hk a ha, hkind]] at hfs
      simpa [NamedType.memberNodes, hshape] using hfs
    · rename_i is fs hshape
      refine Keeps.bind (Keeps.within _ (buildNames_keeps drafts _ _)) fun _ _ => ?_
      refine Keeps.bind (Keeps.within _ (buildFields_keeps drafts _ _ _ _)) fun fs' hfs => ?_
      refine Keeps.pure ⟨rfl, by simp [NamedType.kind, hshape, TypeShape.kind], rfl, fun _ hk _ => ?_⟩
      have hkind : base.kind = .interface := by simp [NamedType.kind, hshape, TypeShape.kind]
      rw [List.filter_eq_self.2 fun a ha => by simp [hk a ha, hkind]] at hfs
      simpa [NamedType.memberNodes, hshape] using hfs
    · rename_i ms hshape
      refine Keeps.bind (Keeps.within _ (buildNames_keeps drafts _ _)) fun _ _ => ?_
      refine Keeps.pure ⟨rfl, by simp [NamedType.kind, hshape, TypeShape.kind], rfl, fun _ hk _ => ?_⟩
      have hkind : base.kind = .union := by simp [NamedType.kind, hshape, TypeShape.kind]
      rw [mergeDeclared_of_members_nil _ fun a ha => members_eq_nil_of_kind (.inl (hk a ha ▸ hkind))]
      simp [NamedType.memberNodes, hshape]
    · rename_i fs hshape
      refine Keeps.bind ((readers_keep drafts fuel).2 _ _) fun fs' hfs => ?_
      refine Keeps.pure ⟨rfl, by simp [NamedType.kind, hshape, TypeShape.kind], rfl, fun hd hk _ => ?_⟩
      have hkind : base.kind = .inputObject := by simp [NamedType.kind, hshape, TypeShape.kind]
      have h := hfs base adds hd
      rw [List.filter_eq_self.2 fun a ha => by simp [hk a ha, hkind]] at h
      simpa [NamedType.memberNodes, NamedType.inputFields, hshape] using h
    · rename_i hobj hiface hunion hinput
      refine Keeps.pure ⟨rfl, rfl, rfl, fun _ hk hne => ?_⟩
      cases hshape : base.shape with
      | scalar url =>
        have hkind : base.kind = .scalar := by simp [NamedType.kind, hshape, TypeShape.kind]
        rw [mergeDeclared_of_members_nil _ fun a ha => members_eq_nil_of_kind (.inr (hk a ha ▸ hkind))]
      | enum vs => exact absurd (by simp [NamedType.kind, hshape, TypeShape.kind]) hne
      | object is fs => exact absurd hshape (hobj is fs)
      | interface is fs => exact absurd hshape (hiface is fs)
      | union ms => exact absurd hshape (hunion ms)
      | inputObject fs => exact absurd hshape (hinput fs)

lemma cacheGood_empty : CacheGood drafts {} := by
  intro n fs h
  simp at h

/-- The names of a table, as a table of nothing. -/
def namesOf {α : Type} (t : Table α) : Table Unit := t.map (Prod.map id fun _ => ())

lemma mem_keys_namesOf {α : Type} (t : Table α) (k : String) : k ∈ (namesOf t).keys ↔ k ∈ t.keys := by
  simp [namesOf, Table.keys, Function.comp_def]

/-- Completing all drafts yields, for each name, the completion of its draft, and exactly the
names of the drafts. -/
lemma completeAll_spec {height : Nat} {types : Table NamedType}
    (h : completeAll drafts height = .ok types) :
    (∀ e ∈ types, ∃ dr, (e.1, dr) ∈ drafts ∧ Completion drafts dr e.2) ∧
      ∀ k, k ∈ types.keys ↔ k ∈ drafts.keys := by
  unfold completeAll at h
  dsimp only at h
  cases hr : (drafts.foldlM (fun (acc : Table NamedType) (entry : String × Draft) => do
      let t ← completeDraft drafts (stackLimit + 1) height entry.2
      pure (acc.set entry.1 t)) [] : BuildM (Table NamedType)).run {} with
  | error e => rw [hr] at h; cases h
  | ok p =>
    rw [hr] at h
    cases h
    -- each step sets the name of its draft to the draft's completion
    obtain ⟨-, hI⟩ := Keeps.foldlM_inv
      (fun acc : Table NamedType => ∀ e ∈ acc, ∃ dr, (e.1, dr) ∈ drafts ∧ Completion drafts dr e.2)
      (fun x hx acc hacc =>
        Keeps.bind (completeDraft_keeps drafts (stackLimit + 1) height x.2) fun t ht =>
          Keeps.pure fun e he => by
            rcases Table.mem_set he with rfl | he
            · exact ⟨x.2, hx, ht⟩
            · exact hacc e he)
      (by simp) {} p.1 p.2 (cacheGood_empty drafts) hr
    obtain ⟨-, hN⟩ := Keeps.foldlM namesOf (fun u x => u.set x.1 ())
      (fun x _ acc => Keeps.bind (completeDraft_keeps drafts (stackLimit + 1) height x.2) fun t _ =>
        Keeps.pure (by exact Table.map_set (fun _ => ()) acc x.1 t)) {} p.1 p.2
      (cacheGood_empty drafts) hr
    refine ⟨hI, fun k => ?_⟩
    have hfold : drafts.foldl (fun u x => u.set x.1 ()) (namesOf ([] : Table NamedType)) =
        Table.setAll [] (namesOf drafts) := by
      simp [namesOf, Table.setAll, List.foldl_map]
    rw [← mem_keys_namesOf, hN, hfold, Table.mem_keys_setAll]
    simp only [Table.keys_nil, List.not_mem_nil, false_or]
    exact mem_keys_namesOf drafts k

end Federation.Schema
