import Mathlib.Tactic.Lemma
import Mathlib.Data.List.Induction
import Federation.Data.Table

/-!
# Tables: lookups, names and merges

The laws of the insertion-ordered table that the composition relies on. A lookup finds the first
entry of a name; setting replaces in place or appends; a table whose names are distinct is one
in which every entry is what a lookup finds.

`Table.setAll` sets a list of entries one after another: it is the "insert, or replace the value
in place" merge of the composed schema. Merging a merged list is merging the list itself
(`setAll_setAll_nil`), which is why enum values added in a batch land where they would one by
one.

Tables are also read off lists: `Table.tabulate` files a function's values under some names,
each once, in order of first appearance, and `Table.group` files the values of entries under
their names. Updating a tabulated name is tabulating the updated function
(`update_tabulate`), so one more entry adds its value to the group of its name
(`group_append_singleton`).
-/

namespace Federation.Table

variable {α β : Type}

/-- Sets entries one after another, each replacing the value of its name in place or appending. -/
def setAll (t : Table α) (entries : List (String × α)) : Table α :=
  entries.foldl (fun t e => t.set e.1 e.2) t

@[simp] lemma find?_nil (k : String) : find? ([] : Table α) k = none := rfl

lemma find?_cons (k' k : String) (v : α) (t : Table α) :
    find? ((k', v) :: t) k = if k' = k then some v else t.find? k := by
  simp [find?]

@[simp] lemma keys_nil : keys ([] : Table α) = [] := rfl

@[simp] lemma keys_cons (e : String × α) (t : Table α) : keys (e :: t) = e.1 :: t.keys := rfl

/-- A name has an entry exactly when a lookup finds one. -/
lemma find?_eq_none_iff {t : Table α} {k : String} : t.find? k = none ↔ k ∉ t.keys := by
  induction t with
  | nil => simp
  | cons e t ih =>
    obtain ⟨k', v⟩ := e
    by_cases h : k' = k
    · subst h; simp [find?_cons]
    · simp [find?_cons, h, ih, Ne.symm h]

lemma mem_keys_of_mem {t : Table α} {k : String} {v : α} (h : (k, v) ∈ t) : k ∈ t.keys :=
  List.mem_map.2 ⟨_, h, rfl⟩

/-- What a lookup finds is an entry of the table. -/
lemma mem_of_find? {t : Table α} {k : String} {v : α} (h : t.find? k = some v) : (k, v) ∈ t := by
  induction t with
  | nil => simp at h
  | cons e t ih =>
    obtain ⟨k', v'⟩ := e
    by_cases hk : k' = k
    · subst hk; simp [find?_cons] at h; simp [h]
    · simp only [find?_cons, hk, if_false] at h
      exact List.mem_cons_of_mem _ (ih h)

lemma isSome_find?_iff {t : Table α} {k : String} : (t.find? k).isSome ↔ k ∈ t.keys := by
  cases h : t.find? k with
  | none => simpa using find?_eq_none_iff.1 h
  | some v => simpa using mem_keys_of_mem (mem_of_find? h)

lemma contains_iff {t : Table α} {k : String} : t.contains k = true ↔ k ∈ t.keys :=
  isSome_find?_iff

/-- In a table whose names are distinct, a lookup finds every entry. -/
lemma find?_of_mem {t : Table α} (hn : t.keys.Nodup) {k : String} {v : α} (h : (k, v) ∈ t) :
    t.find? k = some v := by
  induction t with
  | nil => simp at h
  | cons e t ih =>
    obtain ⟨k', v'⟩ := e
    simp only [keys_cons, List.nodup_cons] at hn
    rcases List.mem_cons.mp h with h | h
    · cases h; simp [find?_cons]
    · have hne : k' ≠ k := by
        rintro rfl
        exact hn.1 (List.mem_map.2 ⟨_, h, rfl⟩)
      rw [find?_cons, if_neg hne]
      exact ih hn.2 h

/-- A walk over a table whose names are distinct, in which only the entry of one name acts, and
acts by giving a value or by keeping the one before, reads that name's entry. -/
lemma foldl_or (t : Table α) (hn : t.keys.Nodup) (k : String) (v : α → Option β) (o : Option β) :
    t.foldl (fun o e => if e.1 = k then (v e.2).or o else o) o = ((t.find? k).bind v).or o := by
  induction t generalizing o with
  | nil => rfl
  | cons e t ih =>
    obtain ⟨k', a⟩ := e
    simp only [keys_cons, List.nodup_cons] at hn
    rw [List.foldl_cons, ih hn.2, find?_cons]
    by_cases hk : k' = k
    · -- the rest of the table has no entry of the name
      subst hk
      simp [find?_eq_none_iff.2 hn.1]
    · simp [hk]

/-- The value of a name after setting one. -/
lemma find?_set (t : Table α) (k j : String) (v : α) :
    (t.set k v).find? j = if k = j then some v else t.find? j := by
  split
  · rename_i h
    subst h
    exact find?_set_self t k v
  · rename_i h
    exact find?_set_of_ne t v h

/-- The names after setting: the same when the name has an entry, the name appended otherwise. -/
lemma keys_set (t : Table α) (k : String) (v : α) :
    (t.set k v).keys = if k ∈ t.keys then t.keys else t.keys ++ [k] := by
  induction t with
  | nil => simp [set]
  | cons e t ih =>
    obtain ⟨k', v'⟩ := e
    by_cases h : k' = k
    · subst h; simp [set]
    · simp only [set, beq_iff_eq, h, if_false, keys_cons, ih, List.mem_cons, Ne.symm h, false_or]
      split <;> simp

@[simp] lemma mem_keys_set {t : Table α} {k j : String} {v : α} :
    j ∈ (t.set k v).keys ↔ j = k ∨ j ∈ t.keys := by
  rw [keys_set]
  split <;> simp_all [or_comm]

lemma nodup_keys_set {t : Table α} (hn : t.keys.Nodup) (k : String) (v : α) :
    (t.set k v).keys.Nodup := by
  rw [keys_set]
  split
  · exact hn
  · rename_i h
    refine List.nodup_append.2 ⟨hn, by simp, ?_⟩
    rintro a ha b hb rfl
    simp_all

/-- Setting a name to the value it has changes nothing. -/
lemma set_of_find? {t : Table α} {k : String} {v : α} (h : t.find? k = some v) : t.set k v = t := by
  induction t with
  | nil => simp at h
  | cons e t ih =>
    obtain ⟨k', v'⟩ := e
    by_cases hk : k' = k
    · subst hk
      simp only [find?_cons, if_true, Option.some.injEq] at h
      simp [set, h]
    · simp only [find?_cons, hk, if_false] at h
      simp [set, hk, ih h]

/-- Setting a name without an entry appends it. -/
lemma set_of_not_mem {t : Table α} {k : String} (h : k ∉ t.keys) (v : α) :
    t.set k v = t ++ [(k, v)] := by
  induction t with
  | nil => rfl
  | cons e t ih =>
    obtain ⟨k', v'⟩ := e
    simp only [keys_cons, List.mem_cons, not_or] at h
    simp [set, Ne.symm h.1, ih h.2]

/-- Every entry after setting is the new one or an entry from before. -/
lemma mem_set {t : Table α} {k : String} {v : α} {e : String × α} (h : e ∈ t.set k v) :
    e = (k, v) ∨ e ∈ t := by
  induction t with
  | nil => simpa [set] using h
  | cons e' t ih =>
    obtain ⟨k', v'⟩ := e'
    by_cases hk : k' = k
    · subst hk
      simp only [set, beq_self_eq_true, if_true, List.mem_cons] at h
      rcases h with h | h
      · exact .inl h
      · exact .inr (List.mem_cons_of_mem _ h)
    · simp only [set, beq_iff_eq, hk, if_false, List.mem_cons] at h
      rcases h with rfl | h
      · exact .inr List.mem_cons_self
      · rcases ih h with h | h
        · exact .inl h
        · exact .inr (List.mem_cons_of_mem _ h)

/-- Updating a name sets it to the changed value, starting from the default. -/
lemma find?_update (t : Table α) (k j : String) (d : α) (f : α → α) :
    (t.update k d f).find? j = if k = j then some (f ((t.find? k).getD d)) else t.find? j := by
  unfold update
  exact find?_set t k j _

@[simp] lemma keys_update {t : Table α} {k : String} {d : α} {f : α → α} :
    (t.update k d f).keys = (t.set k (f ((t.find? k).getD d))).keys := rfl

lemma mem_update {t : Table α} {k : String} {d : α} {f : α → α} {e : String × α}
    (h : e ∈ t.update k d f) : e = (k, f ((t.find? k).getD d)) ∨ e ∈ t :=
  mem_set h

/-- Setting a name twice keeps the second value. -/
@[simp] lemma set_set (t : Table α) (k : String) (v v' : α) : (t.set k v').set k v = t.set k v := by
  induction t with
  | nil => simp [set]
  | cons e t ih =>
    obtain ⟨k', w⟩ := e
    by_cases h : k' = k
    · subst h; simp [set]
    · simp [set, h, ih]

/-- Setting a name that has an entry commutes with setting another name. -/
lemma set_comm {t : Table α} {k a : String} (hk : k ∈ t.keys) (ha : a ≠ k) (v b : α) :
    (t.set a b).set k v = (t.set k v).set a b := by
  induction t with
  | nil => simp at hk
  | cons e t ih =>
    obtain ⟨k', w⟩ := e
    simp only [keys_cons, List.mem_cons] at hk
    by_cases h1 : k' = k
    · subst h1
      simp [set, Ne.symm ha]
    · by_cases h2 : k' = a
      · subst h2
        simp [set, h1]
      · rcases hk with rfl | hk
        · exact absurd rfl h1
        · simp [set, h1, h2, ih hk]

@[simp] lemma setAll_nil (t : Table α) : t.setAll [] = t := rfl

@[simp] lemma setAll_cons (t : Table α) (e : String × α) (es : List (String × α)) :
    t.setAll (e :: es) = (t.set e.1 e.2).setAll es := rfl

lemma setAll_append (t : Table α) (es fs : List (String × α)) :
    t.setAll (es ++ fs) = (t.setAll es).setAll fs := by
  simp [setAll, List.foldl_append]

/-- The names of a merge: those of the table and those of the merged entries. -/
@[simp] lemma mem_keys_setAll {t : Table α} {es : List (String × α)} {j : String} :
    j ∈ (t.setAll es).keys ↔ j ∈ t.keys ∨ j ∈ es.map (·.1) := by
  induction es generalizing t with
  | nil => simp
  | cons e es ih =>
    simp only [setAll_cons, ih, mem_keys_set, List.map_cons, List.mem_cons]
    simp only [or_assoc, or_left_comm]

/-- An entry of a merge is an entry of the table or one of the merged entries. -/
lemma mem_setAll {t : Table α} {es : List (String × α)} {e : String × α} (h : e ∈ t.setAll es) :
    e ∈ t ∨ e ∈ es := by
  induction es generalizing t with
  | nil => exact .inl h
  | cons x es ih =>
    rcases ih h with h | h
    · rcases mem_set h with rfl | h
      · exact .inr List.mem_cons_self
      · exact .inl h
    · exact .inr (List.mem_cons_of_mem _ h)

lemma nodup_keys_setAll {t : Table α} (hn : t.keys.Nodup) (es : List (String × α)) :
    (t.setAll es).keys.Nodup := by
  induction es generalizing t with
  | nil => exact hn
  | cons e es ih => exact ih (nodup_keys_set hn _ _)

/-- Merging commutes with setting a name that the table has and the merged entries lack. -/
lemma setAll_set_comm {s : Table α} {k : String} (hk : k ∈ s.keys) {u : Table α}
    (hu : k ∉ u.keys) (v : α) : (s.setAll u).set k v = (s.set k v).setAll u := by
  induction u generalizing s with
  | nil => rfl
  | cons e u ih =>
    obtain ⟨a, b⟩ := e
    simp only [keys_cons, List.mem_cons, not_or] at hu
    simp only [setAll_cons]
    rw [ih (mem_keys_set.2 (.inr hk)) hu.2, set_comm hk (Ne.symm hu.1)]

/-- Merging a table in which a name was set is setting the name after the merge. -/
lemma setAll_set (t : Table α) {u : Table α} (hu : u.keys.Nodup) (k : String) (v : α) :
    t.setAll (u.set k v) = (t.setAll u).set k v := by
  induction u generalizing t with
  | nil => rfl
  | cons e u ih =>
    obtain ⟨k', v'⟩ := e
    simp only [keys_cons, List.nodup_cons] at hu
    by_cases h : k' = k
    · subst h
      have hk : k' ∈ (t.set k' v').keys := mem_keys_set.2 (.inl rfl)
      simp only [set, beq_self_eq_true, if_true, setAll_cons]
      rw [setAll_set_comm hk hu.1, set_set]
    · simp only [set, beq_iff_eq, h, if_false, setAll_cons]
      exact ih _ hu.2

/-- Merging a merge of entries is merging the entries one by one. -/
lemma setAll_setAll (t : Table α) {u : Table α} (hu : u.keys.Nodup) (es : List (String × α)) :
    t.setAll (u.setAll es) = (t.setAll u).setAll es := by
  induction es generalizing u with
  | nil => rfl
  | cons e es ih =>
    simp only [setAll_cons]
    rw [ih (nodup_keys_set hu _ _), setAll_set t hu]

lemma setAll_setAll_nil (t : Table α) (es : List (String × α)) :
    t.setAll (setAll ([] : Table α) es) = t.setAll es :=
  setAll_setAll t (by simp) es

/-- Changing every value of a table commutes with setting. -/
lemma map_set (g : α → β) (t : Table α) (k : String) (v : α) :
    (t.set k v).map (Prod.map id g) = set (t.map (Prod.map id g)) k (g v) := by
  induction t with
  | nil => simp [set]
  | cons e t ih =>
    obtain ⟨k', w⟩ := e
    by_cases h : k' = k
    · subst h; simp [set]
    · simp [set, h, ih]

lemma map_setAll (g : α → β) (t : Table α) (es : List (String × α)) :
    (t.setAll es).map (Prod.map id g) = setAll (t.map (Prod.map id g)) (es.map (Prod.map id g)) := by
  induction es generalizing t with
  | nil => rfl
  | cons e es ih => simp [ih, map_set]

/-- In a table of lists with distinct names, each list holding only items of its own name, the
items of a name in the table's order are the list kept for that name. -/
lemma filter_flatMap {t : Table (List β)} (key : β → String) (hn : t.keys.Nodup)
    (hk : ∀ e ∈ t, ∀ x ∈ e.2, key x = e.1) (k : String) :
    (t.flatMap (·.2)).filter (fun x => key x == k) = (t.find? k).getD [] := by
  induction t with
  | nil => rfl
  | cons e t ih =>
    obtain ⟨k', g⟩ := e
    simp only [keys_cons, List.nodup_cons] at hn
    have hg : ∀ x ∈ g, key x = k' := hk _ List.mem_cons_self
    have ht : ∀ e ∈ t, ∀ x ∈ e.2, key x = e.1 := fun e he => hk e (List.mem_cons_of_mem _ he)
    rw [List.flatMap_cons, List.filter_append, ih hn.2 ht, find?_cons]
    by_cases h : k' = k
    · subst h
      have hnone : find? t k' = none := find?_eq_none_iff.2 hn.1
      rw [List.filter_eq_self.2 (by simpa using hg), hnone]
      simp
    · have hnil : g.filter (fun x => key x == k) = [] :=
        List.filter_eq_nil_iff.2 fun x hx => by simp [hg x hx, h]
      simp [hnil, h]

/-! ### Tables read off lists -/

/-- Names without repeats, in order of first appearance, after one more name. -/
lemma eraseDups_append_singleton (xs : List String) (x : String) :
    (xs ++ [x]).eraseDups = if x ∈ xs then xs.eraseDups else xs.eraseDups ++ [x] := by
  rw [List.eraseDups_append]
  by_cases h : x ∈ xs <;> simp [h, List.removeAll, List.eraseDups_cons]

lemma nodup_eraseDups (xs : List String) : xs.eraseDups.Nodup := by
  induction xs using List.reverseRecOn with
  | nil => simp
  | append_singleton xs x ih =>
    rw [eraseDups_append_singleton]
    split
    · exact ih
    · rename_i h
      exact List.nodup_append.2 ⟨ih, by simp, fun a ha b hb hab => h (by simp_all [List.mem_eraseDups])⟩

/-- Setting a name in a table of a function's values at distinct names gives the table of the
changed function, the name appended if it is new. -/
lemma set_map_pairs {xs : List String} (hn : xs.Nodup) (f : String → α) (k : String) (v : α) :
    set (xs.map fun n => (n, f n)) k v =
      (if k ∈ xs then xs else xs ++ [k]).map fun n => (n, if n = k then v else f n) := by
  induction xs with
  | nil => simp [set]
  | cons x xs ih =>
    rw [List.nodup_cons] at hn
    by_cases hx : x = k
    · subst hx
      have hrest : (xs.map fun n => (n, if n = x then v else f n)) = xs.map fun n => (n, f n) :=
        List.map_congr_left fun n hn' => by
          rw [if_neg (fun h : n = x => hn.1 (h ▸ hn'))]
      simp [set, hrest]
    · have hk : k ∈ x :: xs ↔ k ∈ xs := by simp [Ne.symm hx]
      simp only [List.map_cons, set, beq_iff_eq, hx, if_false, ih hn.2, hk]
      split <;> simp [hx]

/-- The values of a function at some names, as a table: each name once, in order of first
appearance. -/
def tabulate (keys : List String) (f : String → α) : Table α :=
  keys.eraseDups.map fun k => (k, f k)

section Tabulate

variable {names : List String} {f g : String → α}

@[simp] lemma keys_tabulate : (tabulate names f).keys = names.eraseDups := by
  simp [tabulate, keys, Function.comp_def]

lemma find?_tabulate (k : String) :
    (tabulate names f).find? k = if k ∈ names then some (f k) else none := by
  split
  · rename_i h
    refine find?_of_mem (by simpa using nodup_eraseDups names) ?_
    exact List.mem_map.2 ⟨k, List.mem_eraseDups.2 h, rfl⟩
  · rename_i h
    rw [find?_eq_none_iff, keys_tabulate, List.mem_eraseDups]
    exact h

lemma tabulate_congr (h : ∀ k ∈ names, f k = g k) : tabulate names f = tabulate names g :=
  List.map_congr_left fun k hk => by rw [h k (List.mem_eraseDups.1 hk)]

/-- Updating a name of a table of a function's values is tabulating the changed function, the
name appended. -/
lemma update_tabulate (k : String) (d : α) (u : α → α) :
    (tabulate names f).update k d u =
      tabulate (names ++ [k]) fun n => if n = k then u (if k ∈ names then f k else d) else f n := by
  have hv : ((tabulate names f).find? k).getD d = if k ∈ names then f k else d := by
    rw [find?_tabulate]; split <;> rfl
  rw [update, hv, tabulate, set_map_pairs (nodup_eraseDups names), tabulate,
    eraseDups_append_singleton]
  simp only [List.mem_eraseDups]

/-- Entries grouped by name: each name once, in order of first appearance, with its values in
order. -/
def group (entries : List (String × α)) : Table (List α) :=
  tabulate (entries.map (·.1)) fun k => (entries.filter (·.1 == k)).map (·.2)

@[simp] lemma group_nil : group ([] : List (String × α)) = [] := rfl

/-- One more entry adds its value to the group of its name. -/
lemma group_append_singleton (es : List (String × α)) (k : String) (v : α) :
    group (es ++ [(k, v)]) = (group es).update k [] (· ++ [v]) := by
  unfold group
  rw [update_tabulate, List.map_append, List.map_singleton]
  refine tabulate_congr fun n _ => ?_
  by_cases hn : n = k
  · subst hn
    have hnil : n ∉ es.map (·.1) → (es.filter (·.1 == n)).map (·.2) = [] := by
      intro h
      simp only [List.map_eq_nil_iff, List.filter_eq_nil_iff, beq_iff_eq]
      intro e he hen
      exact h (List.mem_map.2 ⟨e, he, hen⟩)
    by_cases h : n ∈ es.map (·.1)
    · simp [h, List.filter_append]
    · simp [h, hnil h, List.filter_append]
  · simp [hn, List.filter_append, Ne.symm hn]

lemma find?_group (es : List (String × α)) (k : String) :
    ((group es).find? k).getD [] = (es.filter (·.1 == k)).map (·.2) := by
  rw [group, find?_tabulate]
  split
  · rfl
  · rename_i h
    symm
    simp only [Option.getD_none, List.map_eq_nil_iff, List.filter_eq_nil_iff, beq_iff_eq]
    exact fun e he hek => h (List.mem_map.2 ⟨e, he, hek⟩)

/-- The value a merge of entries gives a name: that of its last entry, or else the table's. -/
lemma find?_setAll (t : Table α) (es : List (String × α)) (k : String) :
    (t.setAll es).find? k = ((es.filter (·.1 == k)).getLast?.map (·.2)).or (t.find? k) := by
  induction es using List.reverseRecOn with
  | nil => simp
  | append_singleton es e ih =>
    rw [setAll_append, setAll_cons, setAll_nil, find?_set, ih, List.filter_append]
    by_cases h : e.1 = k <;> simp [h]

end Tabulate

end Federation.Table
