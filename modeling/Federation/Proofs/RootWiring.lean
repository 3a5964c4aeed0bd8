import Mathlib.Logic.Relation
import Federation.Proofs.MergeLaw

/-!
# Root types

A schema that lacks a root operation type takes the object type of its conventional name
(`Query`, `Mutation`, `Subscription`) as that root (`withRootTypes_roots`); it changes exactly
when it takes one (`withRootTypes_eq_self_iff`), and a second wiring changes nothing
(`withRootTypes_idem`).

When a root is taken, the schema is assembled again from its types whose names do not start with
two underscores. An assembled schema files exactly the names reached, through the references of
types, from the names it starts from, its roots, the types of its directives' arguments and the
introspection type `__Schema` (`assemble_type?_iff`), each under the type its table, or else the
built-in types, give it. So a type whose name starts with two underscores survives exactly when
it is so reached, and the introspection types always are.

The walk behind that order runs on fuel. The fuel is at least the number of references of all
the types the walk may visit, and every new name it visits spends the references of that name
(`unseenReferences_visit`), so the walk never runs out before its stack is empty.
-/

namespace Federation

/-- Looking a name up in two tables joined is looking it up in the first, then the second. -/
lemma Table.find?_append {α : Type} (T₁ T₂ : Table α) (n : String) :
    Table.find? (T₁ ++ T₂) n = (T₁.find? n).orElse fun _ => T₂.find? n := by
  induction T₁ with
  | nil => rfl
  | cons e rest ih =>
    obtain ⟨k, v⟩ := e
    by_cases hk : k = n <;> simp [Table.find?_cons, hk, ih]

end Federation

namespace Federation.Schema

open Syntax

/-! ### References -/

/-- The names the type of a name refers to; none when the name has no type. -/
def referencesOf (lookup : String → Option NamedType) (n : String) : List String :=
  match lookup n with
  | some t => t.references
  | none => []

/-- A type refers to a name when the name is among its references. -/
def RefersTo (lookup : String → Option NamedType) (m n : String) : Prop :=
  n ∈ referencesOf lookup m

/-- A name is reached from some names when a chain of references leads to it from one of them. -/
def Reaches (lookup : String → Option NamedType) (start : List String) (n : String) : Prop :=
  ∃ s ∈ start, Relation.ReflTransGen (RefersTo lookup) s n

lemma Reaches.of_mem {lookup : String → Option NamedType} {start : List String} {n : String}
    (h : n ∈ start) : Reaches lookup start n :=
  ⟨n, h, .refl⟩

lemma Reaches.refers {lookup : String → Option NamedType} {start : List String} {m n : String}
    (h : Reaches lookup start m) (hn : n ∈ referencesOf lookup m) : Reaches lookup start n := by
  obtain ⟨s, hs, hsm⟩ := h
  exact ⟨s, hs, hsm.tail hn⟩

/-! ### The walk over references -/

section Walk

variable (lookup : String → Option NamedType)

/-- A walk takes the next name off its stack: a name already seen is dropped, and a new one is
seen and ordered, with the names its type refers to put on the stack. -/
lemma walkTypes_succ_cons (fuel : Nat) (n : String) (stack seen order : List String) :
    walkTypes lookup (fuel + 1) (n :: stack) (seen, order) =
      if n ∈ seen then walkTypes lookup fuel stack (seen, order)
      else walkTypes lookup fuel (referencesOf lookup n ++ stack) (seen ++ [n], order ++ [n]) := by
  simp only [walkTypes, List.contains_iff_mem]
  rfl

/-- A walk that has nothing left to do, by its stack or its fuel, ends where it is. -/
lemma walkTypes_of_done {fuel : Nat} {stack : List String} (h : fuel = 0 ∨ stack = [])
    (acc : List String × List String) : walkTypes lookup fuel stack acc = acc := by
  rcases h with rfl | rfl
  · rfl
  · cases fuel <;> rfl

/-- A walk keeps every name it has seen. -/
lemma mem_walkTypes_seen (fuel : Nat) (stack seen order : List String) {x : String}
    (hx : x ∈ seen) : x ∈ (walkTypes lookup fuel stack (seen, order)).1 := by
  induction fuel generalizing stack seen order with
  | zero => rwa [walkTypes_of_done lookup (.inl rfl)]
  | succ fuel ih =>
    cases stack with
    | nil => rwa [walkTypes_of_done lookup (.inr rfl)]
    | cons n stack =>
      rw [walkTypes_succ_cons]
      split
      · exact ih _ _ _ hx
      · exact ih _ _ _ (List.mem_append_left _ hx)

/-- A name a walk has seen was seen before it, or the walk has ordered it. -/
lemma walkTypes_seen_cases (fuel : Nat) (stack seen order : List String) {x : String}
    (hx : x ∈ (walkTypes lookup fuel stack (seen, order)).1) :
    x ∈ seen ∨ x ∈ (walkTypes lookup fuel stack (seen, order)).2 := by
  induction fuel generalizing stack seen order with
  | zero => rw [walkTypes_of_done lookup (.inl rfl)] at hx; exact .inl hx
  | succ fuel ih =>
    cases stack with
    | nil => rw [walkTypes_of_done lookup (.inr rfl)] at hx; exact .inl hx
    | cons n stack =>
      rw [walkTypes_succ_cons] at hx ⊢
      split at hx
      · rw [if_pos ‹_›]
        exact ih _ _ _ hx
      · rw [if_neg ‹_›]
        rcases ih _ _ _ hx with h | h
        · rcases List.mem_append.1 h with h | h
          · exact .inl h
          · -- the new name is ordered as it is seen
            rw [List.mem_singleton.1 h]
            exact .inr (mem_walkTypes_of_mem _ _ _ _ (by simp))
        · exact .inr h

/-- What holds of the names on a walk's stack and of those it has ordered, and passes along
references, holds of every name it orders. -/
lemma walkTypes_order_of (R : String → Prop) (hR : ∀ m n, R m → n ∈ referencesOf lookup m → R n)
    (fuel : Nat) (stack seen order : List String) (hstack : ∀ x ∈ stack, R x)
    (horder : ∀ x ∈ order, R x) : ∀ x ∈ (walkTypes lookup fuel stack (seen, order)).2, R x := by
  induction fuel generalizing stack seen order with
  | zero => rwa [walkTypes_of_done lookup (.inl rfl)]
  | succ fuel ih =>
    cases stack with
    | nil => rwa [walkTypes_of_done lookup (.inr rfl)]
    | cons n stack =>
      have hn := hstack n (List.mem_cons_self ..)
      rw [walkTypes_succ_cons]
      split
      · exact ih _ _ _ (fun x hx => hstack x (List.mem_cons_of_mem _ hx)) horder
      · refine ih _ _ _ (fun x hx => ?_) (fun x hx => ?_)
        · rcases List.mem_append.1 hx with hx | hx
          · exact hR n x hn hx
          · exact hstack x (List.mem_cons_of_mem _ hx)
        · rcases List.mem_append.1 hx with hx | hx
          · exact horder x hx
          · rwa [List.mem_singleton.1 hx]

/-- With fuel for every name on its stack and every reference of the names it has not seen, a
walk sees its whole stack; and of the names it has seen, those whose references were on the stack
or seen before have them all seen after. -/
lemma walkTypes_closes (Φ : List String → Nat)
    (hΦ : ∀ seen n, n ∉ seen → (referencesOf lookup n).length + Φ (seen ++ [n]) ≤ Φ seen)
    (done : String → Prop) (fuel : Nat) (stack seen order : List String)
    (hfuel : stack.length + Φ seen ≤ fuel)
    (hclosed : ∀ m ∈ seen, done m → ∀ r ∈ referencesOf lookup m, r ∈ seen ∨ r ∈ stack) :
    (∀ x ∈ stack, x ∈ (walkTypes lookup fuel stack (seen, order)).1) ∧
      ∀ m ∈ (walkTypes lookup fuel stack (seen, order)).1, done m →
        ∀ r ∈ referencesOf lookup m, r ∈ (walkTypes lookup fuel stack (seen, order)).1 := by
  induction fuel generalizing stack seen order with
  | zero =>
    have hstack : stack = [] := List.eq_nil_of_length_eq_zero (by omega)
    subst hstack
    rw [walkTypes_of_done lookup (.inl rfl)]
    exact ⟨nofun, fun m hm hd r hr => (hclosed m hm hd r hr).resolve_right nofun⟩
  | succ fuel ih =>
    cases stack with
    | nil =>
      rw [walkTypes_of_done lookup (.inr rfl)]
      exact ⟨nofun, fun m hm hd r hr => (hclosed m hm hd r hr).resolve_right nofun⟩
    | cons n stack =>
      rw [walkTypes_succ_cons]
      simp only [List.length_cons] at hfuel
      split
      · -- a name seen before is dropped; it stays seen
        next hn =>
        obtain ⟨hs, hc⟩ := ih stack seen order (by omega) fun m hm hd r hr => by
          rcases hclosed m hm hd r hr with h | h
          · exact .inl h
          · rcases List.mem_cons.1 h with rfl | h
            · exact .inl hn
            · exact .inr h
        refine ⟨fun x hx => ?_, hc⟩
        rcases List.mem_cons.1 hx with rfl | hx
        · exact mem_walkTypes_seen lookup _ _ _ _ hn
        · exact hs x hx
      · -- a new name spends its references from the budget and puts them on the stack
        next hn =>
        have hspend := hΦ seen n hn
        obtain ⟨hs, hc⟩ := ih (referencesOf lookup n ++ stack) (seen ++ [n]) (order ++ [n])
          (by simp only [List.length_append]; omega) fun m hm hd r hr => by
            rcases List.mem_append.1 hm with hm | hm
            · rcases hclosed m hm hd r hr with h | h
              · exact .inl (List.mem_append_left _ h)
              · rcases List.mem_cons.1 h with rfl | h
                · exact .inl (by simp)
                · exact .inr (List.mem_append_right _ h)
            · rw [List.mem_singleton.1 hm] at hr
              exact .inr (List.mem_append_left _ hr)
        refine ⟨fun x hx => ?_, hc⟩
        rcases List.mem_cons.1 hx with rfl | hx
        · exact mem_walkTypes_seen lookup _ _ _ _ (by simp)
        · exact hs x (List.mem_append_right _ hx)

/-- The walks from the names a schema's order starts from, each taken in turn after ordering the
name itself. -/
def startWalks (fuel : Nat) (xs : List String) (acc : List String × List String) :
    List String × List String :=
  xs.foldl (fun acc n => walkTypes lookup fuel (referencesOf lookup n) (acc.1, acc.2 ++ [n])) acc

lemma typeOrder_eq (initial extra : List String) (fuel : Nat) :
    typeOrder lookup initial extra fuel =
      (walkTypes lookup fuel extra (startWalks lookup fuel initial (initial, []))).2 := rfl

/-- The walks from the starting names keep every name seen. -/
lemma mem_startWalks_seen (fuel : Nat) (xs : List String) (acc : List String × List String)
    {x : String} (hx : x ∈ acc.1) : x ∈ (startWalks lookup fuel xs acc).1 := by
  induction xs generalizing acc with
  | nil => exact hx
  | cons n xs ih => exact ih _ (mem_walkTypes_seen lookup _ _ _ _ hx)

/-- What holds of the starting names and passes along references holds of every name the walks
from them order. -/
lemma startWalks_order_of (R : String → Prop) (hR : ∀ m n, R m → n ∈ referencesOf lookup m → R n)
    (fuel : Nat) (xs : List String) (acc : List String × List String) (hxs : ∀ x ∈ xs, R x)
    (horder : ∀ x ∈ acc.2, R x) : ∀ x ∈ (startWalks lookup fuel xs acc).2, R x := by
  induction xs generalizing acc with
  | nil => exact horder
  | cons n xs ih =>
    have hn := hxs n (List.mem_cons_self ..)
    refine ih _ (fun x hx => hxs x (List.mem_cons_of_mem _ hx)) ?_
    refine walkTypes_order_of lookup R hR _ _ _ _ (fun x hx => hR n x hn hx) fun x hx => ?_
    rcases List.mem_append.1 hx with hx | hx
    · exact horder x hx
    · rwa [List.mem_singleton.1 hx]

/-- With fuel for the references of any seen name beyond the budget, the walks from the starting
names, all seen from the outset, leave every seen name with its references seen, and every seen
name ordered. The invariant: a seen name whose walk is done has its references seen, and a seen
name is still to be walked from or already ordered. -/
lemma startWalks_closes (Φ : List String → Nat)
    (hΦ : ∀ seen n, n ∉ seen → (referencesOf lookup n).length + Φ (seen ++ [n]) ≤ Φ seen)
    (fuel : Nat) (hfuel : ∀ seen n, n ∈ seen → (referencesOf lookup n).length + Φ seen ≤ fuel)
    (xs : List String) (seen order : List String) (hxs : ∀ x ∈ xs, x ∈ seen)
    (hclosed : ∀ m ∈ seen, m ∉ xs → ∀ r ∈ referencesOf lookup m, r ∈ seen)
    (hordered : ∀ m ∈ seen, m ∈ xs ∨ m ∈ order) :
    (∀ m ∈ (startWalks lookup fuel xs (seen, order)).1,
        ∀ r ∈ referencesOf lookup m, r ∈ (startWalks lookup fuel xs (seen, order)).1) ∧
      ∀ m ∈ (startWalks lookup fuel xs (seen, order)).1, m ∈ (startWalks lookup fuel xs (seen, order)).2 := by
  induction xs generalizing seen order with
  | nil =>
    refine ⟨fun m hm r hr => hclosed m hm nofun r hr, fun m hm => ?_⟩
    exact (hordered m hm).resolve_left nofun
  | cons n xs ih =>
    have hn := hxs n (List.mem_cons_self ..)
    obtain ⟨-, hc⟩ := walkTypes_closes lookup Φ hΦ (· ∉ xs) fuel (referencesOf lookup n) seen
      (order ++ [n]) (hfuel seen n hn) fun m hm hx r hr => by
        by_cases hmn : m = n
        · subst hmn
          exact .inr hr
        · exact .inl (hclosed m hm (by simp [hmn, hx]) r hr)
    refine ih _ _ (fun x hx => mem_walkTypes_seen lookup _ _ _ _ (hxs x (List.mem_cons_of_mem _ hx)))
      hc fun m hm => ?_
    rcases walkTypes_seen_cases lookup _ _ _ _ hm with hm | hm
    · rcases hordered m hm with hm | hm
      · rcases List.mem_cons.1 hm with rfl | hm
        · exact .inr (mem_walkTypes_of_mem _ _ _ _ (by simp))
        · exact .inl hm
      · exact .inr (mem_walkTypes_of_mem _ _ _ _ (List.mem_append_left _ hm))
    · exact .inr hm

/-- Every name the order of a schema's types holds is reached from the names it starts from. -/
lemma reaches_of_mem_typeOrder {initial extra : List String} {fuel : Nat} {n : String}
    (h : n ∈ typeOrder lookup initial extra fuel) : Reaches lookup (initial ++ extra) n := by
  rw [typeOrder_eq] at h
  have hR : ∀ m r, Reaches lookup (initial ++ extra) m → r ∈ referencesOf lookup m →
      Reaches lookup (initial ++ extra) r := fun _ _ hm hr => hm.refers hr
  refine walkTypes_order_of lookup _ hR _ _ _ _ (fun x hx => .of_mem (List.mem_append_right _ hx))
    (startWalks_order_of lookup _ hR _ _ _ (fun x hx => .of_mem (List.mem_append_left _ hx))
      fun _ hx => (List.not_mem_nil hx).elim) n h

/-- With fuel for the references of all types the walk may visit and for the extra names, the
order of a schema's types holds every name reached from the names it starts from. -/
lemma mem_typeOrder_of_reaches (Φ : List String → Nat)
    (hΦ : ∀ seen n, n ∉ seen → (referencesOf lookup n).length + Φ (seen ++ [n]) ≤ Φ seen)
    {initial extra : List String} {fuel : Nat}
    (hfuel : ∀ seen n, n ∈ seen → (referencesOf lookup n).length + Φ seen ≤ fuel)
    (hextra : ∀ seen, extra.length + Φ seen ≤ fuel) {n : String}
    (h : Reaches lookup (initial ++ extra) n) : n ∈ typeOrder lookup initial extra fuel := by
  rw [typeOrder_eq]
  obtain ⟨hc₀, ho₀⟩ := startWalks_closes lookup Φ hΦ fuel hfuel initial initial []
    (fun _ hx => hx) (fun _ hm hx => absurd hm hx) (fun _ hm => .inl hm)
  set start := startWalks lookup fuel initial (initial, [])
  obtain ⟨hextra', hc⟩ := walkTypes_closes lookup Φ hΦ (fun _ => True) fuel extra start.1 start.2
    (hextra _) fun m hm _ r hr => .inl (hc₀ m hm r hr)
  -- every name reached is seen by the walk from the extra names
  have hseen : n ∈ (walkTypes lookup fuel extra (start.1, start.2)).1 := by
    obtain ⟨s, hs, hsn⟩ := h
    induction hsn with
    | refl =>
      rcases List.mem_append.1 hs with hs | hs
      · exact mem_walkTypes_seen lookup _ _ _ _ (mem_startWalks_seen lookup _ _ _ hs)
      · exact hextra' s hs
    | tail _ hr ih => exact hc _ ih trivial _ hr
  rcases walkTypes_seen_cases lookup _ _ _ _ hseen with hn | hn
  · exact mem_walkTypes_of_mem _ _ _ _ (ho₀ n hn)
  · exact hn

end Walk

/-! ### The budget of a walk -/

/-- The number of references of the entries of a table whose names are not seen. -/
def unseenReferences (seen : List String) : Table NamedType → Nat
  | [] => 0
  | (k, t) :: rest => (if k ∈ seen then 0 else t.references.length) + unseenReferences seen rest

/-- Seeing more names leaves fewer references unseen. -/
lemma unseenReferences_anti {seen seen' : List String} (h : ∀ x ∈ seen, x ∈ seen')
    (T : Table NamedType) : unseenReferences seen' T ≤ unseenReferences seen T := by
  induction T with
  | nil => exact Nat.le_refl _
  | cons e rest ih =>
    obtain ⟨k, t⟩ := e
    by_cases hk : k ∈ seen
    · simp only [unseenReferences, hk, h k hk, if_true]
      omega
    · simp only [unseenReferences, hk, if_false]
      split_ifs <;> omega

/-- Seeing a new name spends at least the references of its type. -/
lemma unseenReferences_visit {seen : List String} {n : String} (hn : n ∉ seen)
    (T : Table NamedType) :
    (referencesOf T.find? n).length + unseenReferences (seen ++ [n]) T ≤ unseenReferences seen T := by
  induction T with
  | nil => simp [referencesOf, unseenReferences]
  | cons e rest ih =>
    obtain ⟨k, t⟩ := e
    by_cases hk : k = n
    · subst hk
      have := @unseenReferences_anti seen (seen ++ [k]) (fun x hx => List.mem_append_left _ hx) rest
      simp [referencesOf, unseenReferences, Table.find?_cons, hn]
      omega
    · have hmem : k ∈ seen ++ [n] ↔ k ∈ seen := by simp [hk]
      have href : referencesOf (Table.find? ((k, t) :: rest)) n = referencesOf (Table.find? rest) n := by
        simp [referencesOf, Table.find?_cons, hk]
      simp only [unseenReferences, href, hmem]
      omega

/-- The references of a seen name and those not seen are among all references. -/
lemma unseenReferences_seen {seen : List String} {n : String} (hn : n ∈ seen)
    (T : Table NamedType) :
    (referencesOf T.find? n).length + unseenReferences seen T ≤ unseenReferences [] T := by
  induction T with
  | nil => simp [referencesOf, unseenReferences]
  | cons e rest ih =>
    obtain ⟨k, t⟩ := e
    by_cases hk : k = n
    · subst hk
      have := @unseenReferences_anti [] seen (fun _ hx => (List.not_mem_nil hx).elim) rest
      simp [referencesOf, unseenReferences, Table.find?_cons, hn]
      omega
    · have href : referencesOf (Table.find? ((k, t) :: rest)) n = referencesOf (Table.find? rest) n := by
        simp [referencesOf, Table.find?_cons, hk]
      simp only [unseenReferences, href, List.not_mem_nil, if_false]
      split_ifs <;> omega

/-- Before anything is seen, every reference of a table is unseen. -/
lemma unseenReferences_nil (T : Table NamedType) :
    unseenReferences [] T = (T.map fun e => e.2.references.length).foldr (· + ·) 0 := by
  induction T with
  | nil => rfl
  | cons e rest ih =>
    obtain ⟨k, t⟩ := e
    simp [unseenReferences, ih]

/-! ### Assembled schemas -/

/-- The type of a name in a table of types, or else the built-in type of that name. -/
def typeLookup (types : Table NamedType) (n : String) : Option NamedType :=
  (types.find? n).orElse fun _ => standardType? n

/-- The names an assembled schema walks from besides its types: its roots, the types of its
directives' arguments, and the introspection type `__Schema`. -/
def walkRoots (directives : List DirectiveDefinition) (query mutation subscription : Option String) :
    List String :=
  [query, mutation, subscription].filterMap id ++
    directives.flatMap (fun d => d.arguments.map (·.2.type.baseName)) ++ ["__Schema"]

/-- The built-in types, filed under their names. -/
def standardTable : Table NamedType := standardTypes.map fun t => (t.name, t)

lemma find?_map_name (ts : List NamedType) (n : String) :
    ts.find? (·.name == n) = Table.find? (ts.map fun t => (t.name, t)) n := by
  induction ts with
  | nil => rfl
  | cons t ts ih =>
    by_cases h : t.name = n
    · simp [List.find?, Table.find?_cons, h]
    · have h' : (t.name == n) = false := by simpa using h
      simp only [List.find?, h', List.map_cons, Table.find?_cons, h, if_false, ih]

/-- Looking a name up among some types and then the built-in ones is looking it up in the two
tables one after the other. -/
lemma typeLookup_eq (types : Table NamedType) (n : String) :
    typeLookup types n = Table.find? (types ++ standardTable) n := by
  rw [typeLookup, standardType?, find?_map_name, Table.find?_append]
  rfl

lemma unseenReferences_append (seen : List String) (T₁ T₂ : Table NamedType) :
    unseenReferences seen (T₁ ++ T₂) = unseenReferences seen T₁ + unseenReferences seen T₂ := by
  induction T₁ with
  | nil => simp [unseenReferences]
  | cons e rest ih =>
    obtain ⟨k, t⟩ := e
    simp only [List.cons_append, unseenReferences, ih]
    omega

lemma unseenReferences_standardTable :
    unseenReferences [] standardTable =
      (standardTypes.map fun t => t.references.length).foldr (· + ·) 0 := by
  rw [standardTable]
  induction standardTypes with
  | nil => rfl
  | cons t ts ih => simp [unseenReferences, ih]

section Assemble

variable {types : Table NamedType} {initial : List String} {directives : List DirectiveDefinition}
  {query mutation subscription : Option String}

/-- An assembled schema files, in the order of its walk, every name walked that has a type; the
walk has fuel for the references of all types it may visit and for its roots. -/
lemma assemble_types_eq : ∃ fuel, unseenReferences [] (types ++ standardTable) +
      (walkRoots directives query mutation subscription).length ≤ fuel ∧
    (Schema.assemble types initial directives query mutation subscription).types =
      (typeOrder (typeLookup types) initial (walkRoots directives query mutation subscription)
        fuel).filterMap fun n => (typeLookup types n).map (n, ·) := by
  refine ⟨_, ?_, rfl⟩
  show _ ≤ (types.map fun e => e.2.references.length).foldr (· + ·) 0 + _ + _ + _ + _
  rw [unseenReferences_append, unseenReferences_standardTable, unseenReferences_nil, walkRoots]
  omega

/-- An assembled schema files exactly the names reached from the names it starts from and its
walk roots, each under the type its table, or else the built-in types, give it. -/
theorem assemble_type?_iff {n : String} {t : NamedType} :
    (Schema.assemble types initial directives query mutation subscription).type? n = some t ↔
      Reaches (typeLookup types) (initial ++ walkRoots directives query mutation subscription) n ∧
        typeLookup types n = some t := by
  obtain ⟨fuel, hfuel, htypes⟩ :=
    @assemble_types_eq types initial directives query mutation subscription
  have hlookup : typeLookup types = Table.find? (types ++ standardTable) :=
    funext (typeLookup_eq types)
  constructor
  · intro h
    have hmem := Table.mem_of_find? h
    rw [htypes, List.mem_filterMap] at hmem
    obtain ⟨m, hm, he⟩ := hmem
    obtain ⟨t', ht', he⟩ := Option.map_eq_some_iff.1 he
    cases he
    exact ⟨reaches_of_mem_typeOrder _ hm, ht'⟩
  · rintro ⟨hr, ht⟩
    -- the walk's fuel covers a seen name's references and the unseen ones, and the roots
    have hall : ∀ seen, unseenReferences seen (types ++ standardTable) ≤
        unseenReferences [] (types ++ standardTable) := fun _ => unseenReferences_anti (fun _ hx => (List.not_mem_nil hx).elim) _
    have hn : n ∈ typeOrder (typeLookup types) initial (walkRoots directives query mutation subscription) fuel := by
      refine mem_typeOrder_of_reaches (typeLookup types)
        (fun seen => unseenReferences seen (types ++ standardTable)) (fun _ _ hm => ?_)
        (fun seen m hm => ?_) (fun seen => ?_) hr
      · rw [hlookup]
        exact unseenReferences_visit hm _
      · have := unseenReferences_seen hm (types ++ standardTable)
        rw [← hlookup] at this
        omega
      · have := hall seen
        omega
    refine @assemble_type?_of_mem_types types initial directives query mutation subscription (n, t) ?_
    rw [htypes, List.mem_filterMap]
    exact ⟨n, hn, by rw [ht]; rfl⟩

end Assemble

/-! ### Root types -/

/-- The root operation types of a schema: query, mutation and subscription. -/
def roots (s : Schema) : List (Option String) := [s.query, s.mutation, s.subscription]

/-- The root types a schema takes: those it has, or else the object types of the conventional
names. -/
def wiredRoots (s : Schema) : List (Option String) :=
  [s.rootFor s.query "Query", s.rootFor s.mutation "Mutation",
    s.rootFor s.subscription "Subscription"]

/-- A root is added for an operation exactly when the root taken differs from the one there is. -/
lemma added_iff (s : Schema) (current : Option String) (n : String) :
    (current.isNone && (s.rootFor current n).isSome) = true ↔ s.rootFor current n ≠ current := by
  cases current with
  | some r => simp [Schema.rootFor]
  | none => cases s.hasObject n <;> simp [Schema.rootFor]

/-- Adding root types leaves a schema alone when it takes the roots it has, and otherwise
assembles it again, from its types whose names do not start with two underscores, with the roots
it takes. -/
lemma withRootTypes_eq (s : Schema) : s.withRootTypes =
    if wiredRoots s = roots s then s
    else Schema.assemble s.types (s.types.keys.filter fun n => !n.startsWith "__") s.directives
      (s.rootFor s.query "Query") (s.rootFor s.mutation "Mutation")
      (s.rootFor s.subscription "Subscription") := by
  rw [Schema.withRootTypes]
  simp only [Bool.or_eq_true, added_iff, wiredRoots, roots, List.cons.injEq, and_true]
  by_cases h : s.rootFor s.query "Query" = s.query ∧ s.rootFor s.mutation "Mutation" = s.mutation ∧
      s.rootFor s.subscription "Subscription" = s.subscription
  · rw [if_pos h, if_neg]
    tauto
  · rw [if_neg h, if_pos]
    tauto


/-- Adding root types takes, for each operation, the root the schema has, or else the object type
of the operation's conventional name. -/
lemma withRootTypes_roots (s : Schema) : roots s.withRootTypes = wiredRoots s := by
  rw [withRootTypes_eq]
  split
  · next h => exact h.symm
  · rfl

/-- Adding root types changes a schema exactly when it adds a root. -/
lemma withRootTypes_eq_self_iff (s : Schema) :
    s.withRootTypes = s ↔ roots s.withRootTypes = roots s := by
  refine ⟨fun h => by rw [h], fun h => ?_⟩
  rw [withRootTypes_roots] at h
  rw [withRootTypes_eq, if_pos h]

/-- Adding root types keeps the directives. -/
lemma withRootTypes_directives (s : Schema) : s.withRootTypes.directives = s.directives := by
  rw [withRootTypes_eq]
  split <;> rfl

/-- A schema that adds a root files exactly the names its walk reaches from its types whose names
do not start with two underscores, its roots, its directives' arguments and `__Schema`, each under
its own type of the name, or else the built-in one. -/
lemma withRootTypes_type?_iff {s : Schema} (h : wiredRoots s ≠ roots s) {n : String}
    {t : NamedType} :
    s.withRootTypes.type? n = some t ↔
      Reaches (typeLookup s.types) (s.types.keys.filter (fun n => !n.startsWith "__") ++
        walkRoots s.directives s.withRootTypes.query s.withRootTypes.mutation
          s.withRootTypes.subscription) n ∧
        typeLookup s.types n = some t := by
  rw [withRootTypes_eq, if_neg h]
  exact assemble_type?_iff

/-- Adding root types keeps the type, or the absence of one, of a name that does not start with
two underscores and is not built in. -/
lemma withRootTypes_type?_of_plain {s : Schema} {n : String} (hn : n.startsWith "__" = false)
    (hs : standardType? n = none) : s.withRootTypes.type? n = s.type? n := by
  cases ht : s.type? n with
  | some t => exact withRootTypes_type?_of ht hn
  | none =>
    cases hr : s.withRootTypes.type? n with
    | none => rfl
    | some t =>
      have := withRootTypes_type? hr
      simp [ht, hs] at this

lemma withRootTypes_hasObject {s : Schema} {n : String} (hn : n.startsWith "__" = false)
    (hs : standardType? n = none) : s.withRootTypes.hasObject n = s.hasObject n := by
  unfold Schema.hasObject
  rw [withRootTypes_type?_of_plain hn hs]

/-- A root taken is taken again by a schema that agrees on the object type of its name. -/
lemma rootFor_rootFor {s r : Schema} {current : Option String} {n : String}
    (h : r.hasObject n = s.hasObject n) : r.rootFor (s.rootFor current n) n = s.rootFor current n := by
  cases current with
  | some x => rfl
  | none => cases hs : s.hasObject n <;> simp [Schema.rootFor, h, hs]

/-- The conventional names of the root types are not built in and do not start with two
underscores, so adding root types keeps whether they name object types. -/
lemma withRootTypes_hasObject_conventional (s : Schema) :
    s.withRootTypes.hasObject "Query" = s.hasObject "Query" ∧
      s.withRootTypes.hasObject "Mutation" = s.hasObject "Mutation" ∧
      s.withRootTypes.hasObject "Subscription" = s.hasObject "Subscription" :=
  ⟨withRootTypes_hasObject (by decide +kernel) (by decide),
    withRootTypes_hasObject (by decide +kernel) (by decide),
    withRootTypes_hasObject (by decide +kernel) (by decide)⟩

/-- Adding root types a second time changes nothing: the roots taken the first time are taken
again. -/
lemma withRootTypes_idem (s : Schema) : s.withRootTypes.withRootTypes = s.withRootTypes := by
  obtain ⟨hq, hm, hu⟩ := withRootTypes_hasObject_conventional s
  have hr := withRootTypes_roots s
  simp only [roots, wiredRoots, List.cons.injEq, and_true] at hr
  obtain ⟨h₁, h₂, h₃⟩ := hr
  rw [withRootTypes_eq_self_iff, withRootTypes_roots, wiredRoots, roots, h₁, h₂, h₃,
    rootFor_rootFor hq, rootFor_rootFor hm, rootFor_rootFor hu]

/-! ### The roots of a composed schema -/

/-- Extending a schema keeps its roots. -/
lemma extend_roots {s s' : Schema} {doc : List Definition} {height : Nat}
    (h : s.extend doc height = .ok s') : roots s' = roots s := by
  unfold Schema.extend at h
  dsimp only at h
  split at h
  · cases h
    rfl
  · obtain ⟨drafts, -, h⟩ := ok_of_bind_eq_ok h
    obtain ⟨types, -, h⟩ := ok_of_bind_eq_ok h
    cases h
    rfl

/-- A schema assembled from ledgers is a schema without roots, with root types added. -/
lemma assembleSchema_roots {definitions extensions : Table (List TypeDeclaration)} {height : Nat}
    {schema : Schema} {errors : List String}
    (h : assembleSchema definitions extensions height = .ok (schema, errors)) :
    ∃ s, roots s = [none, none, none] ∧ schema = s.withRootTypes := by
  unfold assembleSchema at h
  obtain ⟨s₁, h₁, h⟩ := ok_of_bind_eq_ok h
  obtain ⟨s₂, h₂, h⟩ := ok_of_bind_eq_ok h
  have e₁ := extend_roots (extend_of_extendStep (ok_of_mapError_eq_ok h₁))
  have e₂ := extend_roots (extend_of_extendStep (ok_of_mapError_eq_ok h₂))
  exact ⟨s₂, e₂.trans (e₁.trans rfl), (congrArg Prod.fst (Except.ok.inj h)).symm⟩

/-- The roots of a composed schema are exactly its object types named `Query`, `Mutation` and
`Subscription`. -/
lemma composed_roots {services : List Service} {height : Nat} {c : Composition}
    (h : compose services height = .ok c) :
    c.roots = [if c.schema.hasObject "Query" then some "Query" else none,
      if c.schema.hasObject "Mutation" then some "Mutation" else none,
      if c.schema.hasObject "Subscription" then some "Subscription" else none] := by
  obtain ⟨errors, hs, -⟩ := compose_ok h
  obtain ⟨s, hroots, hc⟩ := assembleSchema_roots hs
  obtain ⟨hq, hm, hu⟩ := withRootTypes_hasObject_conventional s
  simp only [roots, List.cons.injEq, and_true] at hroots
  obtain ⟨h₁, h₂, h₃⟩ := hroots
  have hr := withRootTypes_roots s
  rw [← hc] at hr hq hm hu
  show roots c.schema = _
  rw [hr, wiredRoots, h₁, h₂, h₃, hq, hm, hu]
  rfl


/-! ### The laws of root wiring -/

/-- Adding root types takes, for each operation, the root the schema has, or else the object type
of the operation's conventional name. It changes the schema exactly when it adds a root; the
schema then keeps its directives and files exactly the names reached from its types whose names do
not start with two underscores, its roots, its directives' arguments and `__Schema`, each under
the schema's own type of the name, or else the built-in one. A second wiring changes nothing. A
composed schema, which has no roots before wiring, has as roots exactly its object types of the
conventional names. -/
theorem root_wiring_laws :
    (∀ s : Schema, roots s.withRootTypes = wiredRoots s ∧
      (s.withRootTypes = s ↔ roots s.withRootTypes = roots s) ∧
      (s.withRootTypes = s ∨ s.withRootTypes.directives = s.directives ∧
        ∀ n t, s.withRootTypes.type? n = some t ↔
          Reaches (typeLookup s.types) (s.types.keys.filter (fun n => !n.startsWith "__") ++
            walkRoots s.directives s.withRootTypes.query s.withRootTypes.mutation
              s.withRootTypes.subscription) n ∧
          typeLookup s.types n = some t) ∧
      s.withRootTypes.withRootTypes = s.withRootTypes) ∧
    ∀ services height c, compose services height = .ok c →
      c.roots = [if c.schema.hasObject "Query" then some "Query" else none,
        if c.schema.hasObject "Mutation" then some "Mutation" else none,
        if c.schema.hasObject "Subscription" then some "Subscription" else none] := by
  refine ⟨fun s => ⟨withRootTypes_roots s, withRootTypes_eq_self_iff s, ?_, withRootTypes_idem s⟩,
    fun _ _ _ h => composed_roots h⟩
  by_cases h : wiredRoots s = roots s
  · exact .inl (by rw [withRootTypes_eq, if_pos h])
  · exact .inr ⟨withRootTypes_directives s, fun _ _ => withRootTypes_type?_iff h⟩

/-- One service declaring an object type `Query` and a scalar `Mutation`. -/
def queryWithScalarMutation : List Service :=
  [⟨"A", ⟨[.type ⟨none, "Query", [], .object [] [⟨none, "a", [], .named "Int", []⟩]⟩,
    .type ⟨none, "Mutation", [], .scalar⟩]⟩⟩]

/-- The service composes, and its roots are its object types of the conventional names. -/
theorem query_with_scalar_mutation_roots :
    ∃ c, compose queryWithScalarMutation 0 = .ok c ∧
      c.roots = [if c.schema.hasObject "Query" then some "Query" else none,
        if c.schema.hasObject "Mutation" then some "Mutation" else none,
        if c.schema.hasObject "Subscription" then some "Subscription" else none] := by
  obtain ⟨c, hc, -⟩ := exists_ok_of_any (x := compose queryWithScalarMutation 0)
    (p := fun _ => true) (by decide +kernel)
  exact ⟨c, hc, root_wiring_laws.2 _ _ c hc⟩

/-- The schema of one object type `Query { a: Int }` under the composition's directives, before
any root is wired in. -/
def rootlessQuerySchema : Schema :=
  Schema.assemble [("Query", { name := "Query", shape := .object [] [("a", { name := "a", type := .named "Int" })] })]
    ["Query"] compositionDirectives none none none

/-- Wiring in `Query` keeps the introspection type `__Schema`, although no type of the schema
whose name does not start with two underscores, and no directive, refers to it, directly or
through the types they refer to. -/
theorem introspection_outlives_wiring :
    roots rootlessQuerySchema.withRootTypes ≠ roots rootlessQuerySchema ∧
      (rootlessQuerySchema.withRootTypes.type? "__Schema").isSome ∧
      (∀ e ∈ rootlessQuerySchema.types, e.1.startsWith "__" = false →
        ∀ m ∈ e.2.references, m ≠ "__Schema" ∧
          referencesOf (typeLookup rootlessQuerySchema.types) m = []) ∧
      ∀ d ∈ rootlessQuerySchema.directives, ∀ a ∈ d.arguments, a.2.type.baseName ≠ "__Schema" ∧
        referencesOf (typeLookup rootlessQuerySchema.types) a.2.type.baseName = [] := by
  decide +kernel

end Federation.Schema
