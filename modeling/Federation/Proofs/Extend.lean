import Mathlib.Tactic.Lemma
import Mathlib.Data.List.Induction
import Federation.Proofs.Builder
import Federation.Proofs.Assemble

/-!
# Extending a schema

What extending a schema by a document makes of each type. A type the document defines becomes
the last definition of its name, with the extensions the document gives it; a type the schema
has keeps its kind and takes the members its extensions add. Built-in types stay as they are.

The statement is an invariant of schemas, `Shaped`: every type is filed under its own name,
built-in names hold their built-in types, and every other name has the kind and the declared
members that a rule gives it. Extending by definitions alone makes a schema of built-in types
shaped by the rule "the last definition"; extending by extensions of matching kinds keeps a
shaped schema shaped by the rule "and then the extensions". Adding root types changes no type.
-/

namespace Federation.Schema

open Syntax

/-! ### Folds that may fail -/

section ExceptFold

variable {ε α β γ : Type}

/-- A computation that may fail, followed by another, succeeds only through a success of the
first. -/
lemma ok_of_bind_eq_ok {x : Except ε α} {f : α → Except ε β} {b : β} (h : x >>= f = .ok b) :
    ∃ a, x = .ok a ∧ f a = .ok b := by
  cases x with
  | error e => cases h
  | ok a => exact ⟨a, rfl, h⟩

/-- Renaming the failures of a computation changes none of its successes. -/
lemma ok_of_mapError_eq_ok {δ : Type} {x : Except ε α} {g : ε → δ} {a : α} (h : x.mapError g = .ok a) :
    x = .ok a := by
  cases x with
  | error e => cases h
  | ok b => cases h; rfl

/-- A computation that may fail, read as an optional value, has a value only when it succeeds. -/
lemma eq_ok_of_toOption {x : Except ε α} {a : α} (h : x.toOption = some a) : x = .ok a := by
  cases x with
  | error e => cases h
  | ok b => cases h; rfl

/-- A computation whose result, read as an optional value, has a property succeeds with a value
that has it. -/
lemma exists_ok_of_any {x : Except ε α} {p : α → Bool} (h : x.toOption.any p = true) :
    ∃ a, x = .ok a ∧ p a = true := by
  cases x with
  | error e => cases h
  | ok a => exact ⟨a, rfl, h⟩

/-- A fold that may fail yields, when it succeeds, what a pure fold over a view of its results
computes, provided each step does. -/
lemma foldlM_except_view {f : α → β → Except ε α} {xs : List β} {init r : α} (R : α → γ)
    (g : γ → β → γ) (hf : ∀ x ∈ xs, ∀ b b', f b x = .ok b' → R b' = g (R b) x)
    (h : xs.foldlM f init = .ok r) : R r = xs.foldl g (R init) := by
  induction xs generalizing init with
  | nil => cases h; rfl
  | cons x xs ih =>
    rw [List.foldlM_cons] at h
    cases hx : f init x with
    | error e => rw [hx] at h; cases h
    | ok b =>
      rw [hx] at h
      rw [ih (fun y hy => hf y (List.mem_cons_of_mem _ hy)) h, List.foldl_cons,
        hf x List.mem_cons_self init b hx]

/-- A fold that may fail keeps an invariant of its accumulator when each step does. -/
lemma foldlM_except_inv {f : α → β → Except ε α} {xs : List β} {init r : α} (I : α → Prop)
    (hf : ∀ x ∈ xs, ∀ b b', I b → f b x = .ok b' → I b') (h₀ : I init)
    (h : xs.foldlM f init = .ok r) : I r := by
  induction xs generalizing init with
  | nil => cases h; exact h₀
  | cons x xs ih =>
    rw [List.foldlM_cons] at h
    cases hx : f init x with
    | error e => rw [hx] at h; cases h
    | ok b =>
      rw [hx] at h
      exact ih (fun y hy => hf y (List.mem_cons_of_mem _ hy)) (hf x List.mem_cons_self _ _ h₀ hx) h

/-- A fold that may fail keeps a view of its accumulator that each step keeps. -/
lemma foldlM_except_keep {f : α → β → Except ε α} {xs : List β} {init r : α} (R : α → γ)
    (hf : ∀ x ∈ xs, ∀ b b', f b x = .ok b' → R b' = R b) (h : xs.foldlM f init = .ok r) :
    R r = R init :=
  foldlM_except_inv (fun b => R b = R init) (fun x hx b b' hb hx' => (hf x hx b b' hx').trans hb)
    rfl h

/-- A fold keeps a view of its accumulator that each step keeps. -/
lemma foldl_keep {f : α → β → α} (R : α → γ) (hf : ∀ a x, R (f a x) = R a) (xs : List β) (a : α) :
    R (xs.foldl f a) = R a := by
  induction xs generalizing a with
  | nil => rfl
  | cons x xs ih => rw [List.foldl_cons, ih, hf]

/-- A fold yields what a fold over a view of its accumulator computes, provided each step does. -/
lemma foldl_view {f : α → β → α} (R : α → γ) (g : γ → β → γ) (hf : ∀ a x, R (f a x) = g (R a) x)
    (xs : List β) (a : α) : R (xs.foldl f a) = xs.foldl g (R a) := by
  induction xs generalizing a with
  | nil => rfl
  | cons x xs ih => rw [List.foldl_cons, ih, hf, List.foldl_cons]

/-- A filtering map that may fail yields, when it succeeds, what a pure filtering map computes,
provided each step does. -/
lemma filterMapM_except_ok {f : β → Except ε (Option α)} {g : β → Option α} {xs : List β}
    {ys : List α} (hf : ∀ x ∈ xs, ∀ o, f x = .ok o → o = g x) (h : xs.filterMapM f = .ok ys) :
    ys = xs.filterMap g := by
  induction xs generalizing ys with
  | nil => cases h; rfl
  | cons x xs ih =>
    rw [List.filterMapM_cons] at h
    obtain ⟨o, hx, h⟩ := ok_of_bind_eq_ok h
    have hrest : ∀ y ∈ xs, ∀ o, f y = .ok o → o = g y := fun y hy => hf y (List.mem_cons_of_mem _ hy)
    rw [List.filterMap_cons, ← hf x List.mem_cons_self o hx]
    cases o with
    | none => exact ih hrest h
    | some a =>
      obtain ⟨zs, hzs, h⟩ := ok_of_bind_eq_ok h
      cases h
      rw [ih hrest hzs]

/-- Keeping the last value of the items that pass a test is reading the last of them. -/
lemma foldl_last {p : β → Bool} (v : β → Option α) (xs : List β) (o : Option α) :
    xs.foldl (fun o x => if p x then v x else o) o =
      match (xs.filter p).getLast? with
      | some x => v x
      | none => o := by
  induction xs using List.reverseRecOn with
  | nil => rfl
  | append_singleton xs x ih =>
    rw [List.foldl_append, ih, List.filter_append]
    by_cases hx : p x <;> simp [hx]

end ExceptFold

/-! ### Built-in types -/

lemma lookupDraft_of_nonstandard {drafts : Table Draft} {n : String} (h : isStandardName n = false) :
    lookupDraft drafts n = drafts.find? n := by
  simp [lookupDraft, standardType?_eq_none h]

/-! ### Drafts -/

/-- A draft of a name, a kind and declared members: a complete type of that name, kind and
members, or a pending one whose declarations, all of the kind, merge into those members. Enums
are never pending. -/
def DraftSpec (n : String) (k : TypeKind) (nodes : Table (Option MemberNode)) : Draft → Prop
  | .complete t => t.name = n ∧ t.kind = k ∧ t.memberNodes = nodes
  | .pending base adds =>
    base.name = n ∧ base.kind = k ∧ k ≠ .enum ∧ (∀ a ∈ adds, a.kind = k) ∧
      mergeDeclared base.memberNodes adds = nodes

/-- Completing a draft of a name, a kind and declared members yields a type of that name, kind
and members, when a pending draft is the one filed under its name. -/
lemma DraftSpec.completion {drafts : Table Draft} {n : String} {k : TypeKind}
    {nodes : Table (Option MemberNode)} {dr : Draft} {t : NamedType} (hs : DraftSpec n k nodes dr)
    (hc : Completion drafts dr t) (hl : ∀ base adds, dr = .pending base adds → lookupDraft drafts n = some dr) :
    t.name = n ∧ t.kind = k ∧ t.memberNodes = nodes := by
  cases dr with
  | complete t' => cases hc; exact hs
  | pending base adds =>
    obtain ⟨hn, hk, hne, hadds, hm⟩ := hs
    obtain ⟨hn', hk', -, hm'⟩ := hc
    subst hn hk
    exact ⟨hn', hk', (hm' (hl base adds rfl) hadds hne).trans hm⟩

/-- Declarations of a kind without members list none. -/
lemma mergeDeclared_memberless (start : Table (Option MemberNode)) {ds : List TypeDeclaration}
    {k : TypeKind} (hk : k = .scalar ∨ k = .union) (h : ∀ d ∈ ds, d.kind = k) :
    mergeDeclared start ds = start :=
  mergeDeclared_of_members_nil start fun d hd => members_eq_nil_of_kind (by rcases hk with rfl | rfl <;> simp [h d hd])

/-- The enum values built from declarations are those their enum declarations list, merged. -/
lemma buildEnumValues_nodes {ds : List TypeDeclaration} {vs : Table EnumValue}
    (h : buildEnumValues ds = .ok vs) :
    valueNodes vs = mergeDeclared [] (ds.filter (·.kind == .enum)) := by
  unfold buildEnumValues at h
  rw [foldlM_except_view valueNodes (fun t d => mergeDeclared t ([d].filter (·.kind == .enum)))
    (fun d _ acc acc' hd => ?_) h, foldl_mergeDeclared]
  · rfl
  split at hd
  · rename_i values hbody
    have hk : [d].filter (·.kind == .enum) = [d] := by
      simp [TypeDeclaration.kind, hbody, TypeBody.kind]
    have hm : d.members = values.map fun v => (v.name, .enumValue v) := by
      simp [TypeDeclaration.members, hbody]
    rw [hk, mergeDeclared_singleton, hm, List.foldl_map]
    refine foldlM_except_view valueNodes (fun t v => t.set v.name (some (.enumValue v)))
      (fun v _ b b' hv => ?_) hd
    cases hdep : deprecationOf v.directives with
    | error e => rw [hdep] at hv; cases hv
    | ok dep =>
      rw [hdep] at hv
      cases hv
      exact Table.map_set _ b v.name _
  · rename_i hbody
    cases hd
    have hk : [d].filter (·.kind == .enum) = [] := by
      cases hb : d.body <;> simp_all [TypeDeclaration.kind, TypeBody.kind]
    rw [hk]
    rfl

@[simp] lemma TypeShape.kind_empty (k : TypeKind) : (TypeShape.empty k).kind = k := by
  cases k <;> rfl

lemma memberNodes_empty (n : String) (d : Option String) (k : TypeKind) (node : Option TypeDeclaration)
    (exts : List TypeDeclaration) :
    NamedType.memberNodes ⟨n, d, TypeShape.empty k, node, exts⟩ = [] := by
  cases k <;> rfl

/-- The draft of a definition of a name that is not built in: its kind, and the members it and
the extensions the document gives it declare. -/
lemma draftOfDefinition_spec {d : TypeDeclaration} {exts : List TypeDeclaration} {dr : Draft}
    (hn : isStandardName d.name = false) (hk : ∀ e ∈ exts, e.kind = d.kind)
    (h : draftOfDefinition d exts = .ok dr) :
    DraftSpec d.name d.kind (mergeDeclared [] (d :: exts)) dr := by
  have hall : ∀ e ∈ d :: exts, e.kind = d.kind := by simpa using hk
  unfold draftOfDefinition at h
  rw [standardType?_eq_none hn] at h
  dsimp only at h
  split at h
  · rename_i hscalar
    obtain ⟨url, -, h⟩ := ok_of_bind_eq_ok h
    cases h
    refine ⟨rfl, hscalar.symm, ?_⟩
    rw [mergeDeclared_memberless _ (.inl rfl) (hscalar ▸ hall)]
    rfl
  · rename_i henum
    obtain ⟨values, hv, h⟩ := ok_of_bind_eq_ok h
    cases h
    refine ⟨rfl, henum.symm, ?_⟩
    change valueNodes values = _
    rw [buildEnumValues_nodes hv, List.filter_eq_self.2 fun a ha => by simp [hall a ha, henum]]
  · rename_i hscalar henum
    cases h
    exact ⟨rfl, TypeShape.kind_empty _, henum, hall, by rw [memberNodes_empty]⟩

/-- The draft of a definition of a built-in name is the built-in type. -/
lemma draftOfDefinition_standard {d : TypeDeclaration} {exts : List TypeDeclaration} {dr : Draft}
    (hn : isStandardName d.name = true) (h : draftOfDefinition d exts = .ok dr) :
    ∃ t, standardType? d.name = some t ∧ dr = .complete t := by
  rw [isStandardName_eq, Option.isSome_iff_exists] at hn
  obtain ⟨t, ht⟩ := hn
  unfold draftOfDefinition at h
  rw [ht] at h
  cases h
  exact ⟨t, ht, rfl⟩

/-- The draft of a type the schema has, under a name that is not built in: its kind, and its
members merged with those the extensions of its kind add. -/
lemma draftOfExisting_spec {t : NamedType} {exts : List TypeDeclaration} {dr : Draft}
    (hn : isStandardName t.name = false) (hk : ∀ e ∈ exts, e.kind = t.kind)
    (h : draftOfExisting t exts = .ok dr) :
    DraftSpec t.name t.kind (mergeDeclared t.memberNodes exts) dr := by
  unfold draftOfExisting at h
  simp only [hn, Bool.false_eq_true, if_false] at h
  split at h
  · rename_i url hshape
    have hkind : t.kind = .scalar := by simp [NamedType.kind, hshape, TypeShape.kind]
    obtain ⟨url', -, h⟩ := ok_of_bind_eq_ok h
    cases h
    refine ⟨rfl, hkind.symm, ?_⟩
    rw [mergeDeclared_memberless _ (.inl rfl) (hkind ▸ hk)]
    simp [NamedType.memberNodes, hshape]
  · rename_i vs hshape
    have hkind : t.kind = .enum := by simp [NamedType.kind, hshape, TypeShape.kind]
    obtain ⟨added, hv, h⟩ := ok_of_bind_eq_ok h
    cases h
    refine ⟨rfl, hkind.symm, ?_⟩
    have hnodes := buildEnumValues_nodes hv
    rw [List.filter_eq_self.2 fun a ha => by simp [hk a ha, hkind]] at hnodes
    have hset : added.foldl (fun acc (x : String × EnumValue) => acc.set x.1 x.2) vs =
        vs.setAll added := rfl
    change valueNodes (added.foldl _ vs) = mergeDeclared t.memberNodes exts
    simp only [NamedType.memberNodes, hshape, hset]
    rw [valueNodes, Table.map_setAll, ← valueNodes, ← valueNodes, hnodes, mergeDeclared,
      mergeDeclared, Table.setAll_setAll_nil]
  · rename_i ms hshape
    have hkind : t.kind = .union := by simp [NamedType.kind, hshape, TypeShape.kind]
    split at h
    · rename_i hempty
      cases h
      have : exts = [] := List.isEmpty_iff.1 hempty
      subst this
      exact ⟨rfl, rfl, rfl⟩
    · cases h
      exact ⟨rfl, rfl, by simp [hkind], hk, rfl⟩
  · rename_i hscalar henum hunion
    cases h
    refine ⟨rfl, rfl, fun he => ?_, hk, rfl⟩
    cases hshape : t.shape with
    | enum vs => exact henum vs hshape
    | _ => simp [NamedType.kind, hshape, TypeShape.kind] at he

/-- A built-in type the schema has stays as it is. -/
lemma draftOfExisting_standard {t : NamedType} {exts : List TypeDeclaration} {dr : Draft}
    (hn : isStandardName t.name = true) (h : draftOfExisting t exts = .ok dr) : dr = .complete t := by
  unfold draftOfExisting at h
  rw [hn] at h
  cases h
  rfl

/-! ### The drafts of a document -/

/-- The draft filed under a name: that of the name's last definition in the document, or else
that of the schema's last type of the name, each with the extensions of the name. -/
lemma draftTypes_find? {schema : Schema} {defs : List TypeDeclaration}
    {extensions : Table (List TypeDeclaration)} {drafts : Table Draft}
    (h : draftTypes schema defs extensions = .ok drafts) (n : String) :
    drafts.find? n =
      match (defs.filter (·.name == n)).getLast? with
      | some d => (draftOfDefinition d ((extensions.find? n).getD [])).toOption
      | none =>
        match (schema.types.filter (·.1 == n)).getLast? with
        | some e => (draftOfExisting e.2 ((extensions.find? n).getD [])).toOption
        | none => none := by
  obtain ⟨existing, hex, hdefs⟩ := ok_of_bind_eq_ok h
  -- each step sets the draft of one name: viewed at the name, it keeps the last draft made
  have hdefs' := foldlM_except_view (fun acc : Table Draft => acc.find? n)
    (fun o d => if d.name == n then (draftOfDefinition d ((extensions.find? n).getD [])).toOption
      else o) (fun d _ acc acc' hd => ?_) hdefs
  · have hex' := foldlM_except_view (fun acc : Table Draft => acc.find? n)
      (fun o e => if e.1 == n then (draftOfExisting e.2 ((extensions.find? n).getD [])).toOption
        else o) (fun e _ acc acc' he => ?_) hex
    · rw [hdefs', foldl_last, hex', foldl_last]
      cases (defs.filter (·.name == n)).getLast? <;>
        cases (schema.types.filter (·.1 == n)).getLast? <;> rfl
    obtain ⟨dr, hdr, he⟩ := ok_of_bind_eq_ok he
    cases he
    rw [Table.find?_set]
    by_cases hn : e.1 = n
    · subst hn; simp [hdr, Except.toOption]
    · simp [hn]
  obtain ⟨dr, hdr, hd⟩ := ok_of_bind_eq_ok hd
  cases hd
  rw [Table.find?_set]
  by_cases hn : d.name = n
  · subst hn; simp [hdr, Except.toOption]
  · simp [hn]

/-- The drafts file each name once. -/
lemma draftTypes_nodup {schema : Schema} {defs : List TypeDeclaration}
    {extensions : Table (List TypeDeclaration)} {drafts : Table Draft}
    (h : draftTypes schema defs extensions = .ok drafts) : drafts.keys.Nodup := by
  obtain ⟨existing, hex, hdefs⟩ := ok_of_bind_eq_ok h
  have hstep : ∀ (acc acc' : Table Draft) (k : String) (draft : Except SchemaError Draft),
      acc.keys.Nodup → (do let dr ← draft; pure (acc.set k dr)) = .ok acc' → acc'.keys.Nodup := by
    intro acc acc' k draft hn hx
    obtain ⟨dr, -, hx⟩ := ok_of_bind_eq_ok hx
    cases hx
    exact Table.nodup_keys_set hn _ _
  refine foldlM_except_inv (fun acc : Table Draft => acc.keys.Nodup)
    (fun d _ acc acc' => hstep acc acc' d.name _) ?_ hdefs
  exact foldlM_except_inv (fun acc : Table Draft => acc.keys.Nodup)
    (fun e _ acc acc' => hstep acc acc' e.1 _) (by simp) hex

/-- The names the drafts file: those the document defines and those the schema has. -/
lemma mem_keys_draftTypes {schema : Schema} {defs : List TypeDeclaration}
    {extensions : Table (List TypeDeclaration)} {drafts : Table Draft}
    (h : draftTypes schema defs extensions = .ok drafts) (n : String) :
    n ∈ drafts.keys ↔ (∃ d ∈ defs, d.name = n) ∨ n ∈ schema.types.keys := by
  obtain ⟨existing, hex, hdefs⟩ := ok_of_bind_eq_ok h
  -- viewed through its names, each step appends the name it sets unless it is there already
  have hstep : ∀ (acc acc' : Table Draft) (k : String) (draft : Except SchemaError Draft),
      (do let dr ← draft; pure (acc.set k dr)) = .ok acc' →
      (n ∈ acc'.keys) = (n = k ∨ n ∈ acc.keys) := by
    intro acc acc' k draft hx
    obtain ⟨dr, -, hx⟩ := ok_of_bind_eq_ok hx
    cases hx
    exact propext Table.mem_keys_set
  have hdefs' := foldlM_except_view (fun acc : Table Draft => n ∈ acc.keys)
    (fun P d => n = d.name ∨ P) (fun d _ acc acc' => hstep acc acc' d.name _) hdefs
  have hex' := foldlM_except_view (fun acc : Table Draft => n ∈ acc.keys)
    (fun P e => n = e.1 ∨ P) (fun e _ acc acc' => hstep acc acc' e.1 _) hex
  -- a fold of disjunctions is the disjunction over the list
  have hor : ∀ {β : Type} (name : β → String) (xs : List β) (P : Prop),
      xs.foldl (fun P x => n = name x ∨ P) P ↔ P ∨ ∃ x ∈ xs, n = name x := by
    intro β name xs
    induction xs with
    | nil => intro P; simp
    | cons x xs ih =>
      intro P
      rw [List.foldl_cons, ih]
      simp only [List.mem_cons, exists_eq_or_imp, or_assoc, or_left_comm]
  rw [hdefs', hor, hex', hor]
  simp [Table.keys, eq_comm, or_comm]

/-- Extensions filed by name, in order. -/
lemma find?_extensionTable (es : List TypeDeclaration) (n : String) :
    ((es.foldl (fun m d => Table.update m d.name [] (· ++ [d])) []).find? n).getD [] =
      es.filter (·.name == n) := by
  suffices h : ∀ acc : Table (List TypeDeclaration),
      ((es.foldl (fun m d => Table.update m d.name [] (· ++ [d])) acc).find? n).getD [] =
        (acc.find? n).getD [] ++ es.filter (·.name == n) from
    h []
  induction es with
  | nil => intro acc; simp
  | cons e es ih =>
    intro acc
    rw [List.foldl_cons, ih, Table.find?_update]
    by_cases he : e.name = n
    · subst he; simp
    · simp [he]

/-! ### Extending a schema -/

/-- Extending a schema by definitions and extensions: by none it stays as it is; otherwise the
drafts of its types are made and completed, and it is assembled from the complete types. -/
lemma extend_eq (schema : Schema) (ds es : List TypeDeclaration) (height : Nat) :
    schema.extend (ds.map .type ++ es.map .typeExtension) height =
      if ds = [] ∧ es = [] then .ok schema else (do
        let drafts ← draftTypes schema ds
          (es.foldl (fun m d => Table.update m d.name [] (· ++ [d])) [])
        let types ← completeAll drafts height
        pure (Schema.assemble types types.keys schema.directives schema.query schema.mutation
          schema.subscription)) := by
  have hnone : ∀ xs : List TypeDeclaration,
      xs.filterMap (fun _ => (none : Option TypeDeclaration)) = [] :=
    fun xs => List.filterMap_eq_nil_iff.2 fun _ _ => rfl
  unfold Schema.extend
  simp only [List.filterMap_append, List.filterMap_map, Function.comp_def, List.filterMap_some,
    hnone, List.append_nil, List.nil_append]
  by_cases h : ds = [] ∧ es = []
  · obtain ⟨rfl, rfl⟩ := h
    rfl
  · have hempty : (ds.isEmpty && es.isEmpty) = false := by simpa [List.isEmpty_iff] using h
    rw [if_neg h, hempty]
    rfl

/-- Extending a schema by definitions and extensions: by none it stays as it is; otherwise it is
assembled from the completed drafts, starting from all of them. -/
lemma extend_cases {schema s' : Schema} {ds es : List TypeDeclaration} {height : Nat}
    (h : schema.extend (ds.map .type ++ es.map .typeExtension) height = .ok s') :
    (ds = [] ∧ es = [] ∧ s' = schema) ∨
      ∃ drafts types,
        draftTypes schema ds (es.foldl (fun m d => Table.update m d.name [] (· ++ [d])) []) =
          .ok drafts ∧
        completeAll drafts height = .ok types ∧
        s' = Schema.assemble types types.keys schema.directives schema.query schema.mutation
          schema.subscription := by
  rw [extend_eq] at h
  split at h
  · rename_i hempty
    cases h
    exact .inl ⟨hempty.1, hempty.2, rfl⟩
  · obtain ⟨drafts, hd, h⟩ := ok_of_bind_eq_ok h
    obtain ⟨types, hc, h⟩ := ok_of_bind_eq_ok h
    cases h
    exact .inr ⟨drafts, types, hd, hc, rfl⟩

/-- What extending by definitions and extensions makes of a name the rule gives a kind and members
for: the last definition of the name with the extensions of the name; for a name not defined, its
type with the extensions of the name. -/
def extendRule (rule : String → Option (TypeKind × Table (Option MemberNode)))
    (ds es : List TypeDeclaration) (n : String) : Option (TypeKind × Table (Option MemberNode)) :=
  match (ds.filter (·.name == n)).getLast? with
  | some d => some (d.kind, mergeDeclared [] (d :: es.filter (·.name == n)))
  | none => (rule n).map fun p => (p.1, mergeDeclared p.2 (es.filter (·.name == n)))

/-- The extended rule gives a kind and members only for a name defined or given one before. -/
lemma extendRule_isSome {rule : String → Option (TypeKind × Table (Option MemberNode))}
    {ds es : List TypeDeclaration} {n : String} (h : (extendRule rule ds es n).isSome) :
    (∃ d ∈ ds, d.name = n) ∨ (rule n).isSome := by
  unfold extendRule at h
  split at h
  · rename_i d hlast
    have := List.mem_filter.1 (List.mem_of_getLast? hlast)
    exact .inl ⟨d, this.1, by simpa using this.2⟩
  · exact .inr (by simpa using h)

/-- Extending by nothing keeps every name's kind and members. -/
@[simp] lemma extendRule_nil (rule : String → Option (TypeKind × Table (Option MemberNode))) :
    extendRule rule [] [] = rule := by
  funext n
  cases h : rule n <;> simp [extendRule, h, mergeDeclared]

/-- A schema shaped by a rule: each entry is the type filed under its name, each type carries its
name, a built-in name holds its built-in type, and any other name holds a type exactly when the
rule gives a kind and members for it, and then of that kind with those members. -/
structure Shaped (rule : String → Option (TypeKind × Table (Option MemberNode))) (s : Schema) :
    Prop where
  entries : ∀ e ∈ s.types, s.type? e.1 = some e.2
  named : ∀ n t, s.type? n = some t → t.name = n
  builtin : ∀ n t, s.type? n = some t → isStandardName n = true → standardType? n = some t
  shaped : ∀ n, isStandardName n = false →
    (s.type? n).map (fun t => (t.kind, t.memberNodes)) = rule n

/-- The completion of a name's draft made from its definition: the built-in type for a built-in
name, and otherwise a type of the name, of the definition's kind, with the members the definition
and the extensions declare. -/
lemma completion_of_definition {drafts : Table Draft} {d : TypeDeclaration}
    {exts : List TypeDeclaration} {dr : Draft} {t : NamedType} {n : String} (hdn : d.name = n)
    (hkinds : isStandardName n = false → ∀ e ∈ exts, e.kind = d.kind)
    (hdr : draftOfDefinition d exts = .ok dr) (hdraft : drafts.find? n = some dr)
    (hcomp : Completion drafts dr t) :
    (isStandardName n = true ∧ standardType? n = some t) ∨
      (isStandardName n = false ∧ t.name = n ∧ t.kind = d.kind ∧
        t.memberNodes = mergeDeclared [] (d :: exts)) := by
  subst hdn
  cases hn : isStandardName d.name
  · have hspec := draftOfDefinition_spec hn (hkinds hn) hdr
    have hl : ∀ base adds, dr = .pending base adds → lookupDraft drafts d.name = some dr :=
      fun _ _ _ => by rw [lookupDraft_of_nonstandard hn, hdraft]
    exact .inr ⟨rfl, DraftSpec.completion hspec hcomp hl⟩
  · obtain ⟨t₀, ht₀, rfl⟩ := draftOfDefinition_standard hn hdr
    cases hcomp
    exact .inl ⟨rfl, ht₀⟩

/-- The completion of a name's draft made from a type the schema has: the type itself for a
built-in name, and otherwise a type of the name, of the type's kind, with its members and those
the extensions declare. -/
lemma completion_of_existing {drafts : Table Draft} {t₀ : NamedType} {exts : List TypeDeclaration}
    {dr : Draft} {t : NamedType} {n : String} (hname : t₀.name = n)
    (hbuiltin : isStandardName n = true → standardType? n = some t₀)
    (hkinds : isStandardName n = false → ∀ e ∈ exts, e.kind = t₀.kind)
    (hdr : draftOfExisting t₀ exts = .ok dr) (hdraft : drafts.find? n = some dr)
    (hcomp : Completion drafts dr t) :
    (isStandardName n = true ∧ standardType? n = some t) ∨
      (isStandardName n = false ∧ t.name = n ∧ t.kind = t₀.kind ∧
        t.memberNodes = mergeDeclared t₀.memberNodes exts) := by
  subst hname
  cases hn : isStandardName t₀.name
  · have hspec := draftOfExisting_spec hn (hkinds hn) hdr
    have hl : ∀ base adds, dr = .pending base adds → lookupDraft drafts t₀.name = some dr :=
      fun _ _ _ => by rw [lookupDraft_of_nonstandard hn, hdraft]
    exact .inr ⟨rfl, DraftSpec.completion hspec hcomp hl⟩
  · cases draftOfExisting_standard hn hdr
    cases hcomp
    exact .inl ⟨rfl, hbuiltin hn⟩

section ExtendShaped

variable {rule : String → Option (TypeKind × Table (Option MemberNode))} {schema s' : Schema}
  {ds es : List TypeDeclaration} {height : Nat}

/-- The extensions agree in kind with the types they extend. -/
def KindsAgree (rule : String → Option (TypeKind × Table (Option MemberNode)))
    (ds es : List TypeDeclaration) : Prop :=
  ∀ e ∈ es, isStandardName e.name = false → ∀ p, extendRule rule ds [] e.name = some p → p.1 = e.kind

/-- A name the schema has or the document defines has a type after extending. -/
lemma extend_type?_isSome (h : schema.extend (ds.map .type ++ es.map .typeExtension) height = .ok s')
    {n : String} (hn : (∃ d ∈ ds, d.name = n) ∨ (schema.type? n).isSome) : (s'.type? n).isSome := by
  rcases extend_cases h with ⟨rfl, rfl, rfl⟩ | ⟨drafts, types, hd, hc, rfl⟩
  · simpa using hn
  · have hkeys : n ∈ types.keys := by
      rw [(completeAll_spec drafts hc).2, mem_keys_draftTypes hd]
      exact hn.imp id Table.isSome_find?_iff.1
    obtain ⟨t, ht⟩ := Option.isSome_iff_exists.1 (Table.isSome_find?_iff.2 hkeys)
    rw [assemble_type?_of_mem (t := t) hkeys (by simp [ht])]
    rfl

/-- A type after extending is a built-in one, or has its name and the kind and members the
extended rule gives. -/
lemma extend_type?_cases (hs : Shaped rule schema) (hk : KindsAgree rule ds es)
    (h : schema.extend (ds.map .type ++ es.map .typeExtension) height = .ok s') {n : String}
    {t : NamedType} (ht : s'.type? n = some t) :
    (isStandardName n = true ∧ standardType? n = some t) ∨
      (isStandardName n = false ∧ t.name = n ∧ extendRule rule ds es n = some (t.kind, t.memberNodes)) := by
  rcases extend_cases h with ⟨rfl, rfl, rfl⟩ | ⟨drafts, types, hd, hc, rfl⟩
  · cases hn : isStandardName n
    · have := hs.shaped n hn
      rw [ht] at this
      exact .inr ⟨rfl, hs.named n t ht, by simpa using this.symm⟩
    · exact .inl ⟨rfl, hs.builtin n t ht hn⟩
  · have hl := assemble_type? ht
    cases hfind : types.find? n with
    | none =>
      rw [hfind] at hl
      exact .inl ⟨isStandardName_of_standardType? hl, hl⟩
    | some t' =>
      rw [hfind] at hl
      cases hl
      obtain ⟨dr, hdr, hcomp⟩ := (completeAll_spec drafts hc).1 (n, t) (Table.mem_of_find? hfind)
      have hdraft : drafts.find? n = some dr := Table.find?_of_mem (draftTypes_nodup hd) hdr
      have hfound := draftTypes_find? hd n
      rw [hdraft, find?_extensionTable] at hfound
      -- the draft of the name comes from its last definition, or else from its type
      cases hlast : (ds.filter (·.name == n)).getLast? with
      | some d =>
        rw [hlast] at hfound
        have hdn : d.name = n := by simpa using (List.mem_filter.1 (List.mem_of_getLast? hlast)).2
        have hkinds : isStandardName n = false → ∀ e ∈ es.filter (·.name == n), e.kind = d.kind := by
          intro hn e he
          have hen : e.name = n := by simpa using (List.mem_filter.1 he).2
          exact (hk e (List.mem_filter.1 he).1 (hen ▸ hn) (d.kind, _)
            (by rw [hen, extendRule, hlast])).symm
        rcases completion_of_definition hdn hkinds (eq_ok_of_toOption hfound.symm) hdraft hcomp with
          hstd | ⟨hn, hname, hkind, hnodes⟩
        · exact .inl hstd
        · exact .inr ⟨hn, hname, by rw [extendRule, hlast, hkind, hnodes]⟩
      | none =>
        rw [hlast] at hfound
        cases hexist : (schema.types.filter (·.1 == n)).getLast? with
        | none => rw [hexist] at hfound; cases hfound
        | some e =>
          rw [hexist] at hfound
          have hmem := List.mem_filter.1 (List.mem_of_getLast? hexist)
          have hen : e.1 = n := by simpa using hmem.2
          have hse : schema.type? n = some e.2 := hen ▸ hs.entries e hmem.1
          have hrule : isStandardName n = false → rule n = some (e.2.kind, e.2.memberNodes) :=
            fun hn => by rw [← hs.shaped n hn, hse]; rfl
          have hkinds : isStandardName n = false → ∀ x ∈ es.filter (·.name == n),
              x.kind = e.2.kind := by
            intro hn x hx
            have hxn : x.name = n := by simpa using (List.mem_filter.1 hx).2
            exact (hk x (List.mem_filter.1 hx).1 (hxn ▸ hn) (e.2.kind, _)
              (by rw [hxn, extendRule, hlast, hrule hn]; rfl)).symm
          rcases completion_of_existing (hs.named n e.2 hse) (hs.builtin n e.2 hse) hkinds
            (eq_ok_of_toOption hfound.symm) hdraft hcomp with hstd | ⟨hn, hname, hkind, hnodes⟩
          · exact .inl hstd
          · exact .inr ⟨hn, hname, by rw [extendRule, hlast, hrule hn, hkind, hnodes]; rfl⟩

/-- Extending a shaped schema by definitions and by extensions that agree in kind with the types
they extend gives a schema shaped by the extended rule. -/
theorem extend_shaped (hs : Shaped rule schema) (hk : KindsAgree rule ds es)
    (h : schema.extend (ds.map .type ++ es.map .typeExtension) height = .ok s') :
    Shaped (extendRule rule ds es) s' where
  entries := by
    rcases extend_cases h with ⟨-, -, rfl⟩ | ⟨drafts, types, -, -, rfl⟩
    · exact hs.entries
    · exact fun e he => assemble_type?_of_mem_types he
  named n t ht := by
    rcases extend_type?_cases hs hk h ht with ⟨-, hstd⟩ | ⟨-, hname, -⟩
    · exact name_of_standardType? hstd
    · exact hname
  builtin n t ht hn := by
    rcases extend_type?_cases hs hk h ht with ⟨-, hstd⟩ | ⟨hn', -⟩
    · exact hstd
    · rw [hn] at hn'; cases hn'
  shaped n hn := by
    cases ht : s'.type? n with
    | some t =>
      rcases extend_type?_cases hs hk h ht with ⟨hn', -⟩ | ⟨-, -, hrule⟩
      · rw [hn] at hn'; cases hn'
      · exact hrule.symm
    | none =>
      -- a name the extended rule knows was defined or had a type, so it has one now
      cases hr : extendRule rule ds es n with
      | none => rfl
      | some p =>
        have hsome : (s'.type? n).isSome := by
          refine extend_type?_isSome h ((extendRule_isSome (by rw [hr]; rfl)).imp id fun hrule => ?_)
          rw [← hs.shaped n hn] at hrule
          simpa using hrule
        rw [ht] at hsome
        cases hsome

end ExtendShaped

end Federation.Schema
