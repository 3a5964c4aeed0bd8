import Mathlib.Tactic.Lemma
import Mathlib.Logic.Basic
import Federation.Schema.Build
import Federation.Proofs.Table

/-!
# Assembling a schema from its types

A schema is assembled from a table of complete types and a list of names to start from: it walks
the types they refer to and files each name it reaches under what the table, or else the
built-in types, give for it. The walk only ever appends to its order, so every name it starts
from is filed. Here the two facts the rest of the development uses: every entry of an assembled
schema is what the lookup gives for its name (`mem_assemble_types`), and every name it starts
from that the lookup knows is filed (`assemble_type?_of_mem`). Adding root types assembles the
schema again from its own types, so it keeps every type whose name does not start with two
underscores and files nothing new but built-in types.
-/

namespace Federation.Schema

open Syntax

/-! ### Built-in types -/

/-- A built-in type is filed under its own name. -/
lemma name_of_standardType? {n : String} {t : NamedType} (h : standardType? n = some t) :
    t.name = n := by
  have := List.find?_some h
  simpa using this

/-- The built-in names are exactly those with a built-in type. -/
lemma isStandardName_eq (n : String) : isStandardName n = (standardType? n).isSome := by
  have hnames : standardNames = standardTypes.map (·.name) := rfl
  rw [isStandardName, hnames, standardType?, Bool.eq_iff_iff]
  simp

lemma standardType?_eq_none {n : String} (h : isStandardName n = false) : standardType? n = none := by
  rw [isStandardName_eq] at h
  simpa using h

lemma isStandardName_of_standardType? {n : String} {t : NamedType} (h : standardType? n = some t) :
    isStandardName n = true := by
  rw [isStandardName_eq, h]
  rfl

/-! ### The walk over references -/

/-- Walking references only appends to the order it builds. -/
lemma mem_walkTypes_of_mem (lookup : String → Option NamedType) (fuel : Nat) (stack : List String)
    (acc : List String × List String) {x : String} (h : x ∈ acc.2) :
    x ∈ (walkTypes lookup fuel stack acc).2 := by
  induction fuel generalizing stack acc with
  | zero => simpa [walkTypes] using h
  | succ fuel ih =>
    obtain ⟨seen, order⟩ := acc
    cases stack with
    | nil => simpa [walkTypes] using h
    | cons n stack =>
      rw [walkTypes]
      split
      · exact ih _ _ h
      · exact ih _ _ (List.mem_append_left _ h)

/-- Every name the order starts from is in the order. -/
lemma mem_typeOrder {lookup : String → Option NamedType} {initial extra : List String} {fuel : Nat}
    {n : String} (h : n ∈ initial) : n ∈ typeOrder lookup initial extra fuel := by
  unfold typeOrder
  refine mem_walkTypes_of_mem _ _ _ _ ?_
  -- the fold over the starting names appends each before walking from it
  suffices hfold : ∀ (refs : String → List String) (xs : List String)
      (acc : List String × List String), n ∈ acc.2 ∨ n ∈ xs →
      n ∈ (xs.foldl (fun (acc : List String × List String) m =>
        walkTypes lookup fuel (refs m) (acc.1, acc.2 ++ [m])) acc).2 from
    hfold _ initial _ (.inr h)
  intro refs xs
  induction xs with
  | nil => intro acc h; simpa using h
  | cons m xs ih =>
    intro acc h
    refine ih _ ?_
    by_cases hm : n = m
    · subst hm
      exact .inl (mem_walkTypes_of_mem _ _ _ _ (by simp))
    · rcases h with h | h
      · exact .inl (mem_walkTypes_of_mem _ _ _ _ (List.mem_append_left _ h))
      · exact .inr ((List.mem_cons.1 h).resolve_left hm)

/-! ### Assembled schemas -/

section Assemble

variable {types : Table NamedType} {initial : List String} {directives : List DirectiveDefinition}
  {query mutation subscription : Option String}

/-- Every entry of an assembled schema is what the table, or else the built-in types, give for
its name. -/
lemma mem_assemble_types {e : String × NamedType}
    (h : e ∈ (Schema.assemble types initial directives query mutation subscription).types) :
    (types.find? e.1).orElse (fun _ => standardType? e.1) = some e.2 := by
  simp only [Schema.assemble, List.mem_filterMap, Option.map_eq_some_iff] at h
  obtain ⟨n, -, t, ht, rfl⟩ := h
  exact ht

/-- A type of an assembled schema is what the table, or else the built-in types, give for its
name. -/
lemma assemble_type? {n : String} {t : NamedType}
    (h : (Schema.assemble types initial directives query mutation subscription).type? n = some t) :
    (types.find? n).orElse (fun _ => standardType? n) = some t :=
  mem_assemble_types (Table.mem_of_find? h)

/-- A name an assembled schema starts from is filed under what the lookup gives for it. -/
lemma assemble_type?_of_mem {n : String} {t : NamedType} (hn : n ∈ initial)
    (ht : (types.find? n).orElse (fun _ => standardType? n) = some t) :
    (Schema.assemble types initial directives query mutation subscription).type? n = some t := by
  have hmem : (n, t) ∈ (Schema.assemble types initial directives query mutation subscription).types := by
    simp only [Schema.assemble, List.mem_filterMap]
    exact ⟨n, mem_typeOrder hn, by simp only [ht, Option.map_some]⟩
  obtain ⟨t', ht'⟩ := Option.isSome_iff_exists.1
    (Table.isSome_find?_iff.2 (Table.mem_keys_of_mem hmem))
  have := mem_assemble_types (Table.mem_of_find? ht')
  rw [ht] at this
  cases this
  exact ht'

/-- Every entry of an assembled schema is the type it files under that name. -/
lemma assemble_type?_of_mem_types {e : String × NamedType}
    (h : e ∈ (Schema.assemble types initial directives query mutation subscription).types) :
    (Schema.assemble types initial directives query mutation subscription).type? e.1 = some e.2 := by
  obtain ⟨t', ht'⟩ := Option.isSome_iff_exists.1 (Table.isSome_find?_iff.2 (Table.mem_keys_of_mem h))
  have h₁ := mem_assemble_types h
  rw [assemble_type? ht'] at h₁
  cases h₁
  exact ht'

end Assemble

/-- The schema of the given directives holds built-in types only. -/
lemma ofDirectives_type? {directives : List DirectiveDefinition} {n : String} {t : NamedType}
    (h : (Schema.ofDirectives directives).type? n = some t) : standardType? n = some t := by
  simpa using assemble_type? h

/-! ### Root types -/

/-- Adding root types leaves the schema alone, or assembles it again from its types whose names
do not start with two underscores. -/
lemma withRootTypes_cases (s : Schema) :
    s.withRootTypes = s ∨ ∃ query mutation subscription, s.withRootTypes =
      Schema.assemble s.types (s.types.keys.filter fun n => !n.startsWith "__") s.directives query
        mutation subscription := by
  unfold Schema.withRootTypes
  dsimp only
  exact (ite_eq_or_eq _ _ _).symm.imp id fun h => ⟨_, _, _, h⟩

/-- A type of the schema with root types is a type of the schema, or a built-in one. -/
lemma withRootTypes_type? {s : Schema} {n : String} {t : NamedType}
    (h : s.withRootTypes.type? n = some t) :
    (s.type? n).orElse (fun _ => standardType? n) = some t := by
  rcases withRootTypes_cases s with hs | ⟨q, m, u, hs⟩ <;> rw [hs] at h
  · simp [h]
  · exact assemble_type? h

/-- Adding root types keeps every type whose name does not start with two underscores. -/
lemma withRootTypes_type?_of {s : Schema} {n : String} {t : NamedType} (h : s.type? n = some t)
    (hn : n.startsWith "__" = false) : s.withRootTypes.type? n = some t := by
  rcases withRootTypes_cases s with hs | ⟨q, m, u, hs⟩ <;> rw [hs]
  · exact h
  · have hfind : s.types.find? n = some t := h
    refine assemble_type?_of_mem ?_ (by simp [hfind])
    exact List.mem_filter.2 ⟨Table.mem_keys_of_mem (Table.mem_of_find? hfind), by simp [hn]⟩

end Federation.Schema
