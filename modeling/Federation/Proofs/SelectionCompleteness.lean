import Mathlib
import Federation.Proofs.SelectionReading

/-!
# The reader reads back every readable selection

From the tokens of a readable value, directive or selection, followed by a token that cannot
continue it, the reader reads back what they stand for, directives up to where they stood
(`parseSelection_readsBack`), unless the stack runs out first. The step budget never ends such a
reading: it only needs to exceed the number of tokens read.
-/

namespace Federation.Syntax.Parser

variable {α β γ : Type}

/-- From a cursor, a reading step either runs out of stack or succeeds, with `P` of what it read
and of the tokens it leaves. -/
def Accepts (c : Cursor) (act : ParseM α) (P : α → List Token → Prop) : Prop :=
  act.run c = .error (.fault .tooDeep) ∨ ∃ a c', act.run c = .ok (a, c') ∧ P a c'.tokens

namespace Accepts

variable {c : Cursor} {act : ParseM α} {P P' : α → List Token → Prop}

lemma mono (h : Accepts c act P) (hp : ∀ a ts, P a ts → P' a ts) : Accepts c act P' := by
  rcases h with h | ⟨a, c', h, hq⟩
  · exact .inl h
  · exact .inr ⟨a, c', h, hp a _ hq⟩

lemma pure {a : α} (h : P a c.tokens) : Accepts c (Pure.pure a : ParseM α) P :=
  .inr ⟨a, c, rfl, h⟩

/-- A step, then a step that depends on what the first read. -/
lemma bind {x : ParseM α} {f : α → ParseM β} {P₁ : α → List Token → Prop}
    {P : β → List Token → Prop} (hx : Accepts c x P₁)
    (hf : ∀ a c₁, P₁ a c₁.tokens → Accepts c₁ (f a) P) : Accepts c (x >>= f) P := by
  rcases hx with hx | ⟨a, c₁, hx, hp⟩
  · left
    rw [StateT.run_bind, hx]
    rfl
  · rcases hf a c₁ hp with h | ⟨b, c', h, hq⟩
    · left
      rw [StateT.run_bind, hx]
      exact h
    · right
      exact ⟨b, c', by rw [StateT.run_bind, hx]; exact h, hq⟩

lemma map {f : α → β} {P : β → List Token → Prop} (h : Accepts c act fun a ts => P (f a) ts) :
    Accepts c (f <$> act) P := by
  rw [map_eq_pure_bind]
  exact h.bind fun a c₁ hp => Accepts.pure hp

lemma nested (n : Nat) (h : Accepts { c with height := c.height + n } act P) :
    Accepts c (Parser.nested n act) P := by
  unfold Parser.nested
  rcases h with h | ⟨a, c', h, hp⟩
  · left
    simp only [StateT.run_bind, StateT.run_modify, pure_bind]
    rw [h]
    rfl
  · right
    refine ⟨a, { c' with height := c'.height - n }, ?_, hp⟩
    simp only [StateT.run_bind, StateT.run_modify, pure_bind]
    rw [h]
    rfl

lemma framed (h : Accepts { c with height := c.height + 1 } act P) :
    Accepts c (Parser.framed act) P := Accepts.nested 1 h

/-- Where a step does not depend on the height of the stack, nesting it changes nothing. -/
lemma nested_of_forall (n : Nat) (h : ∀ c' : Cursor, c'.tokens = c.tokens → Accepts c' act P) :
    Accepts c (Parser.nested n act) P :=
  Accepts.nested n (h _ rfl)

lemma framed_of_forall (h : ∀ c' : Cursor, c'.tokens = c.tokens → Accepts c' act P) :
    Accepts c (Parser.framed act) P :=
  Accepts.nested_of_forall 1 h

lemma current : Accepts c Parser.current fun l ts => l = c.current ∧ ts = c.tokens :=
  .inr ⟨c.current, c, rfl, rfl, rfl⟩

lemma peek (k : TokenKind) :
    Accepts c (Parser.peek k) fun b ts => b = (c.current.token.kind == k) ∧ ts = c.tokens :=
  .inr ⟨_, c, rfl, rfl, rfl⟩

lemma get : Accepts c (MonadState.get : ParseM Cursor) fun _ ts => ts = c.tokens :=
  .inr ⟨c, c, rfl, rfl⟩

/-- Two branches that meet again in the step `k`. -/
lemma ite_bind {p : Prop} [Decidable p] {x y : ParseM β} {k : β → ParseM α}
    {R : β → List Token → Prop} (hx : p → Accepts c x R) (hy : ¬p → Accepts c y R)
    (hk : ∀ b c₁, R b c₁.tokens → Accepts c₁ (k b) P) :
    Accepts c (if p then x >>= k else y >>= k) P := by
  split
  · rename_i hp
    exact (hx hp).bind hk
  · rename_i hp
    exact (hy hp).bind hk

/-- Two branches that meet again in the step `k`, one of them a step whose result is mapped,
the other a value. -/
lemma ite_join {b : Bool} {x : ParseM γ} {f : γ → β} {a : β} {k : β → ParseM α}
    {R : β → List Token → Prop} (hx : b = true → Accepts c x fun l ts => R (f l) ts)
    (ha : b = false → R a c.tokens)
    (hk : ∀ p c₁, R p c₁.tokens → Accepts c₁ (k p) P) :
    Accepts c (if b = true then x >>= fun l => Pure.pure (f l) >>= k else Pure.pure a >>= k) P := by
  split
  · rename_i hb
    refine (hx hb).bind fun l c₁ hl => ?_
    rw [pure_bind]
    exact hk _ _ hl
  · rename_i hb
    rw [pure_bind]
    exact hk a c (ha (by simpa using hb))

end Accepts

lemma touch_run_cases (k : Nat) (c : Cursor) :
    (touch k).run c = .error (.fault .tooDeep) ∨ (touch k).run c = .ok ((), c) := by
  have e : (touch k).run c =
      (if c.height + k > stackLimit then throw (.fault .tooDeep) else pure () : ParseM Unit).run c :=
    rfl
  rw [e]
  split
  · exact .inl rfl
  · exact .inr rfl

/-! ### Tokens -/

/-- Two places with the same tokens ahead stand on the same token. -/
lemma Cursor.current_eq_of_tokens {c c' : Cursor} (h : c'.tokens = c.tokens) :
    c'.current.token = c.current.token := by
  have e := Cursor.head?_tokens c'
  rw [h, Cursor.head?_tokens] at e
  exact (Option.some.inj e).symm

section Tokens

variable {c : Cursor} {t : Token} {ts : List Token}

/-- Moving on from a token that is not the end of input leaves the tokens after it, when they
hold the end of input (no lexical error stands there). -/
lemma advance_accepts (h : c.tokens = t :: ts) (ht : t ≠ .eof) (hts : ts ≠ []) :
    Accepts c advance fun _ r => r = ts := by
  have hcur := Cursor.current_of_tokens h
  have hrest := Cursor.rest_tokens h ht
  unfold Accepts
  rw [advance, StateT.run_bind]
  rcases touch_run_cases (moveReach c) c with hk | hk
  · left
    simp only [StateT.run_get, pure_bind, StateT.run_bind, hk]
    rfl
  · right
    simp only [StateT.run_get, pure_bind, StateT.run_bind, hk]
    rw [← hcur] at ht
    split
    · contradiction
    · rename_i l r hr _
      exact ⟨(), _, rfl, by rw [← hrest, hr]; rfl⟩
    · rename_i p r hr _
      exact ⟨(), _, rfl, by rw [← hrest, hr]; rfl⟩
    · rename_i e r hr _
      rw [hr] at hrest
      exact absurd hrest.symm hts

lemma framed_advance_accepts (h : c.tokens = t :: ts) (ht : t ≠ .eof) (hts : ts ≠ []) :
    Accepts c (framed advance) fun _ r => r = ts :=
  Accepts.framed_of_forall fun _ e => advance_accepts (e.trans h) ht hts

/-- A token of the kind expected is taken. -/
lemma expect_accepts {k : TokenKind} (h : c.tokens = t :: ts) (hk : t.kind = k) (hts : ts ≠ []) :
    Accepts c (expect k) fun t' r => t' = t ∧ r = ts := by
  refine Accepts.framed_of_forall fun c' e => ?_
  rw [← e] at h
  have hcur := Cursor.current_of_tokens h
  have ht : t ≠ .eof := by
    rintro rfl
    exact hts (by simpa [Cursor.tokens_eq, hcur] using h)
  refine Accepts.current.bind fun l c₁ hstep => ?_
  obtain ⟨hl, e₁⟩ := hstep
  rw [hl, hcur, if_pos (beq_iff_eq.2 hk)]
  exact (advance_accepts (e₁.trans h) ht hts).bind fun _ c₂ e₂ => Accepts.pure ⟨rfl, e₂⟩

lemma parseName_accepts {n : String} (h : c.tokens = .name n :: ts) (hts : ts ≠ []) :
    Accepts c parseName fun m r => m = n ∧ r = ts := by
  refine Accepts.framed_of_forall fun c' e => ?_
  refine (expect_accepts (e.trans h) rfl hts).bind fun t c₁ hstep => ?_
  obtain ⟨ht, e₁⟩ := hstep
  rw [ht]
  exact Accepts.pure ⟨rfl, e₁⟩

lemma parseNamedType_accepts {n : String} (h : c.tokens = .name n :: ts) (hts : ts ≠ []) :
    Accepts c parseNamedType fun m r => m = n ∧ r = ts :=
  Accepts.framed_of_forall fun _ e => parseName_accepts (e.trans h) hts

/-- An optional punctuator that is there is taken. -/
lemma expectOptional_accepts_of_eq {p : Punctuator} (h : c.tokens = .punct p :: ts)
    (hts : ts ≠ []) : Accepts c (expectOptional (.punct p)) fun b r => b = true ∧ r = ts := by
  refine Accepts.framed_of_forall fun c' e => ?_
  have hcur := Cursor.current_of_tokens (e.trans h)
  refine (Accepts.peek _).bind fun b c₁ hstep => ?_
  obtain ⟨hb, e₁⟩ := hstep
  rw [hb, hcur, if_pos (by simp [Token.kind])]
  exact (advance_accepts (e₁.trans (e.trans h)) (by simp) hts).bind fun _ c₂ e₂ =>
    Accepts.pure ⟨rfl, e₂⟩

/-- An optional punctuator that is not there is not taken. -/
lemma expectOptional_accepts_of_ne {p : Punctuator} (ht : c.current.token ≠ .punct p) :
    Accepts c (expectOptional (.punct p)) fun b r => b = false ∧ r = c.tokens := by
  refine Accepts.framed_of_forall fun c' e => ?_
  have hcur := Cursor.current_eq_of_tokens e
  refine (Accepts.peek _).bind fun b c₁ hstep => ?_
  obtain ⟨hb, e₁⟩ := hstep
  have hk : (c'.current.token.kind == TokenKind.punct p) = false := by
    rw [beq_eq_false_iff_ne, hcur]
    exact fun hk => ht (Token.eq_of_kind_punct hk)
  rw [hb, hk]
  exact Accepts.pure ⟨rfl, e₁.trans e⟩

lemma peekKeyword_accepts (v : String) :
    Accepts c (peekKeyword v) fun b r => (b = true ↔ c.current.token = .name v) ∧ r = c.tokens := by
  refine Accepts.current.bind fun l c₁ hstep => ?_
  obtain ⟨hl, e₁⟩ := hstep
  subst hl
  split
  · rename_i n hn
    exact Accepts.pure ⟨by simp [hn], e₁⟩
  · rename_i hn
    exact Accepts.pure ⟨by simpa using fun e => hn v e, e₁⟩

/-- A keyword that is there is taken. -/
lemma expectOptionalKeyword_accepts_of_eq {v : String} (h : c.tokens = .name v :: ts)
    (hts : ts ≠ []) : Accepts c (expectOptionalKeyword v) fun b r => b = true ∧ r = ts := by
  refine Accepts.framed_of_forall fun c' e => ?_
  have hcur := Cursor.current_of_tokens (e.trans h)
  refine (peekKeyword_accepts v).bind fun b c₁ hstep => ?_
  obtain ⟨hb, e₁⟩ := hstep
  rw [show b = true from hb.2 hcur, if_pos rfl]
  exact (advance_accepts (e₁.trans (e.trans h)) (by simp) hts).bind fun _ c₂ e₂ =>
    Accepts.pure ⟨rfl, e₂⟩

/-- A keyword that is not there is not taken. -/
lemma expectOptionalKeyword_accepts_of_ne {v : String} (ht : c.current.token ≠ .name v) :
    Accepts c (expectOptionalKeyword v) fun b r => b = false ∧ r = c.tokens := by
  refine Accepts.framed_of_forall fun c' e => ?_
  have hcur := Cursor.current_eq_of_tokens e
  refine (peekKeyword_accepts v).bind fun b c₁ hstep => ?_
  obtain ⟨hb, e₁⟩ := hstep
  have hb' : b = false := by
    rw [hcur] at hb
    simpa [ht] using hb
  rw [hb']
  exact Accepts.pure ⟨rfl, e₁.trans e⟩

/-- A fragment's name other than `on` is taken. -/
lemma parseFragmentName_accepts {n : String} (h : c.tokens = .name n :: ts) (hn : n ≠ "on")
    (hts : ts ≠ []) : Accepts c parseFragmentName fun m r => m = n ∧ r = ts := by
  refine Accepts.framed_of_forall fun c' e => ?_
  have hcur := Cursor.current_of_tokens (e.trans h)
  refine Accepts.current.bind fun l c₁ hstep => ?_
  obtain ⟨hl, e₁⟩ := hstep
  rw [hl, hcur, if_neg (by simpa [Token.value?] using hn)]
  exact parseName_accepts (e₁.trans (e.trans h)) hts

end Tokens

/-! ### Lists of items -/

/-- A reading step reads back each `b` with `Good b` from its tokens `T b`, when what follows
them starts with a token of `Follow`: it reads an `a` with `R b a` and leaves what follows. -/
def ReadsBack (item : ParseM α) (T : β → List Token) (Good : β → Prop) (Follow : Token → Prop)
    (R : β → α → Prop) : Prop :=
  ∀ b c t rest, Good b → Follow t → c.tokens = T b ++ t :: rest →
    Accepts c item fun a r => R b a ∧ r = t :: rest

lemma length_le_length_flatMap {l : List β} {f : β → List γ} {b : β} (h : b ∈ l) :
    (f b).length ≤ (l.flatMap f).length := by
  induction l with
  | nil => cases h
  | cons a l ih =>
    rcases List.mem_cons.1 h with rfl | h
    · simp
    · have := ih h
      simp only [List.flatMap_cons, List.length_append]
      omega

section Items

variable {item : ParseM α} {T : β → List Token} {Good : β → Prop} {Follow : Token → Prop}
  {R : β → α → Prop}

/-- Each item starts with a token that may follow an item, and that is not `p`. -/
def Starts (T : β → List Token) (Follow : Token → Prop) (p : Token) (b : β) : Prop :=
  ∃ t ts, T b = t :: ts ∧ Follow t ∧ t ≠ p

/-- What follows an item in a list closed by `p` starts with a token that may follow it. -/
lemma follower_head {p : Token} (hp : Follow p) {bs : List β}
    (hs : ∀ b ∈ bs, Starts T Follow p b) (rest : List Token) :
    ∃ t r, bs.flatMap T ++ p :: rest = t :: r ∧ Follow t := by
  cases bs with
  | nil => exact ⟨p, rest, rfl, hp⟩
  | cons b bs =>
    obtain ⟨t, ts, hb, ht, -⟩ := hs b (List.mem_cons_self ..)
    exact ⟨t, ts ++ bs.flatMap T ++ p :: rest, by simp [hb], ht⟩

/-- Items up to a closing punctuator are read back, when the budget exceeds their tokens. -/
lemma untilClose_accepts (p : Punctuator) (h : ReadsBack item T Good Follow R)
    (hp : Follow (.punct p)) :
    ∀ (bs : List β) (n : Nat) (c : Cursor) (rest : List Token),
      (∀ b ∈ bs, Good b ∧ Starts T Follow (.punct p) b) → (bs.flatMap T).length < n →
      c.tokens = bs.flatMap T ++ .punct p :: rest → rest ≠ [] →
      Accepts c (untilClose (.punct p) item n) fun as r => List.Forall₂ R bs as ∧ r = rest
  | _, 0, _, _, _, hn, _, _ => absurd hn (Nat.not_lt_zero _)
  | [], n + 1, c, rest, _, _, hc, hrest => by
    refine (expectOptional_accepts_of_eq hc hrest).bind fun b c₁ hstep => ?_
    obtain ⟨hb, e₁⟩ := hstep
    rw [hb, if_pos rfl]
    exact Accepts.pure ⟨.nil, e₁⟩
  | b :: bs, n + 1, c, rest, hbs, hn, hc, hrest => by
    obtain ⟨hgood, t, ts, hb, -, htp⟩ := hbs b (List.mem_cons_self ..)
    have hc' : c.tokens = t :: (ts ++ bs.flatMap T ++ .punct p :: rest) := by simp [hc, hb]
    refine (expectOptional_accepts_of_ne (by rwa [Cursor.current_of_tokens hc'])).bind
      fun x c₁ hstep => ?_
    obtain ⟨hx, e₁⟩ := hstep
    rw [hx, if_neg Bool.false_ne_true]
    obtain ⟨t', r', ht', hfollow⟩ := follower_head hp (fun b hb => (hbs b (List.mem_cons_of_mem _ hb)).2) rest
    have e₁' : c₁.tokens = T b ++ t' :: r' := by rw [e₁, hc, ← ht']; simp
    refine (h b c₁ t' r' hgood hfollow e₁').bind fun a c₂ hstep => ?_
    obtain ⟨hr, e₂⟩ := hstep
    have hn' : (bs.flatMap T).length < n := by
      simp only [List.flatMap_cons, List.length_append, hb, List.length_cons] at hn
      omega
    refine (untilClose_accepts p h hp bs n c₂ rest (fun b hb => hbs b (List.mem_cons_of_mem _ hb))
      hn' (e₂.trans ht'.symm) hrest).bind fun as c₃ hstep => ?_
    obtain ⟨has, e₃⟩ := hstep
    exact Accepts.pure ⟨.cons hr has, e₃⟩

/-- Items between two punctuators, at least one, are read back. -/
lemma manyOf_accepts (o p : Punctuator) (h : ReadsBack item T Good Follow R)
    (hp : Follow (.punct p)) {bs : List β} {n : Nat} {c : Cursor} {rest : List Token}
    (hne : bs ≠ []) (hbs : ∀ b ∈ bs, Good b ∧ Starts T Follow (.punct p) b)
    (hn : (bs.flatMap T).length < n) (hc : c.tokens = .punct o :: bs.flatMap T ++ .punct p :: rest)
    (hrest : rest ≠ []) :
    Accepts c (manyOf (.punct o) (.punct p) item n) fun as r => List.Forall₂ R bs as ∧ r = rest := by
  obtain ⟨b, bs, rfl⟩ := List.exists_cons_of_ne_nil hne
  obtain ⟨hgood, t, ts, hb, hfollow, -⟩ := hbs b (List.mem_cons_self ..)
  refine Accepts.framed_of_forall fun c' e => ?_
  refine (expect_accepts (e.trans hc) rfl (by simp [hb])).bind fun _ c₁ hstep => ?_
  obtain ⟨_, e₁⟩ := hstep
  obtain ⟨t', r', ht', hfollow'⟩ := follower_head hp (fun b hb => (hbs b (List.mem_cons_of_mem _ hb)).2) rest
  have e₁' : c₁.tokens = T b ++ t' :: r' := by rw [e₁, ← ht']; simp
  refine (h b c₁ t' r' hgood hfollow' e₁').bind fun a c₂ hstep => ?_
  obtain ⟨hr, e₂⟩ := hstep
  have hn' : (bs.flatMap T).length < n := by
    simp only [List.flatMap_cons, List.length_append] at hn
    omega
  refine (untilClose_accepts p h hp bs n c₂ rest (fun b hb => hbs b (List.mem_cons_of_mem _ hb))
    hn' (e₂.trans ht'.symm) hrest).bind fun as c₃ hstep => ?_
  obtain ⟨has, e₃⟩ := hstep
  exact Accepts.pure ⟨.cons hr has, e₃⟩

/-- Items between two punctuators, if any, are read back; no items leave the tokens as they
are, when the next is not the opening punctuator. -/
lemma optionalManyOf_accepts (o p : Punctuator) (h : ReadsBack item T Good Follow R)
    (hp : Follow (.punct p)) {bs : List β} {n : Nat} {c : Cursor} {t : Token} {rest : List Token}
    (hbs : ∀ b ∈ bs, Good b ∧ Starts T Follow (.punct p) b) (hn : (bs.flatMap T).length < n)
    (hc : c.tokens = (if bs = [] then [] else .punct o :: bs.flatMap T ++ [.punct p]) ++ t :: rest)
    (ht : bs = [] → t ≠ .punct o) :
    Accepts c (optionalManyOf (.punct o) (.punct p) item n) fun as r =>
      List.Forall₂ R bs as ∧ r = t :: rest := by
  refine Accepts.framed_of_forall fun c' e => ?_
  cases bs with
  | nil =>
    have hc' : c'.tokens = t :: rest := by simpa using e.trans hc
    refine (expectOptional_accepts_of_ne (by rw [Cursor.current_of_tokens hc']; exact ht rfl)).bind
      fun x c₁ hstep => ?_
    obtain ⟨hx, e₁⟩ := hstep
    rw [hx, if_neg Bool.false_ne_true]
    exact Accepts.pure ⟨.nil, e₁.trans hc'⟩
  | cons b bs =>
    obtain ⟨hgood, t₀, ts, hb, hfollow, -⟩ := hbs b (List.mem_cons_self ..)
    have hc' : c'.tokens = .punct o :: (T b ++ bs.flatMap T ++ .punct p :: t :: rest) := by
      simp [e, hc]
    refine (expectOptional_accepts_of_eq hc' (by simp [hb])).bind fun x c₁ hstep => ?_
    obtain ⟨hx, e₁⟩ := hstep
    rw [hx, if_pos rfl]
    obtain ⟨t', r', ht', hfollow'⟩ :=
      follower_head hp (fun b hb => (hbs b (List.mem_cons_of_mem _ hb)).2) (t :: rest)
    have e₁' : c₁.tokens = T b ++ t' :: r' := by rw [e₁, List.append_assoc, ht']
    refine (h b c₁ t' r' hgood hfollow' e₁').bind fun a c₂ hstep => ?_
    obtain ⟨hr, e₂⟩ := hstep
    have hn' : (bs.flatMap T).length < n := by
      simp only [List.flatMap_cons, List.length_append] at hn
      omega
    refine (untilClose_accepts p h hp bs n c₂ (t :: rest)
      (fun b hb => hbs b (List.mem_cons_of_mem _ hb)) hn' (e₂.trans ht'.symm) (by simp)).bind
      fun as c₃ hstep => ?_
    obtain ⟨has, e₃⟩ := hstep
    exact Accepts.pure ⟨.cons hr has, e₃⟩

/-- Items between two punctuators are read back. -/
lemma anyOf_accepts (o p : Punctuator) (h : ReadsBack item T Good Follow R)
    (hp : Follow (.punct p)) {bs : List β} {n : Nat} {c : Cursor} {rest : List Token}
    (hbs : ∀ b ∈ bs, Good b ∧ Starts T Follow (.punct p) b)
    (hn : (bs.flatMap T).length < n) (hc : c.tokens = .punct o :: bs.flatMap T ++ .punct p :: rest)
    (hrest : rest ≠ []) :
    Accepts c (anyOf (.punct o) (.punct p) item n) fun as r => List.Forall₂ R bs as ∧ r = rest := by
  refine Accepts.framed_of_forall fun c' e => ?_
  refine (expect_accepts (e.trans hc) rfl (by simp)).bind fun _ c₁ hstep => ?_
  obtain ⟨_, e₁⟩ := hstep
  exact untilClose_accepts p h hp bs n c₁ rest hbs hn (by rw [e₁]; simp) hrest

/-- Items each starting with a token of a kind are read back, up to a token of another kind. -/
lemma whilePeek_accepts (k : TokenKind) (h : ReadsBack item T Good Follow R) :
    ∀ (bs : List β) (n : Nat) (c : Cursor) (t : Token) (rest : List Token),
      (∀ b ∈ bs, Good b ∧ ∃ t ts, T b = t :: ts ∧ Follow t ∧ t.kind = k) →
      (bs.flatMap T).length < n → c.tokens = bs.flatMap T ++ t :: rest → Follow t → t.kind ≠ k →
      Accepts c (whilePeek k item n) fun as r => List.Forall₂ R bs as ∧ r = t :: rest
  | _, 0, _, _, _, _, hn, _, _, _ => absurd hn (Nat.not_lt_zero _)
  | [], n + 1, c, t, rest, _, _, hc, _, htk => by
    refine (Accepts.peek k).bind fun x c₁ hstep => ?_
    obtain ⟨hx, e₁⟩ := hstep
    rw [hx, Cursor.current_of_tokens hc, if_neg (by simpa using htk)]
    exact Accepts.pure ⟨.nil, e₁.trans hc⟩
  | b :: bs, n + 1, c, t, rest, hbs, hn, hc, hft, htk => by
    obtain ⟨hgood, t₀, ts, hb, -, hk⟩ := hbs b (List.mem_cons_self ..)
    have hc' : c.tokens = t₀ :: (ts ++ bs.flatMap T ++ t :: rest) := by simp [hc, hb]
    refine (Accepts.peek k).bind fun x c₁ hstep => ?_
    obtain ⟨hx, e₁⟩ := hstep
    rw [hx, Cursor.current_of_tokens hc', if_pos (by simpa using hk)]
    have hbs' : ∀ b ∈ bs, Good b ∧ ∃ t ts, T b = t :: ts ∧ Follow t ∧ t.kind = k :=
      fun b hb => hbs b (List.mem_cons_of_mem _ hb)
    obtain ⟨t', r', ht', hfollow'⟩ : ∃ t' r', bs.flatMap T ++ t :: rest = t' :: r' ∧ Follow t' := by
      cases bs with
      | nil => exact ⟨t, rest, rfl, hft⟩
      | cons b' bs =>
        obtain ⟨-, t₁, ts₁, hb', hf₁, -⟩ := hbs' b' (List.mem_cons_self ..)
        exact ⟨t₁, ts₁ ++ bs.flatMap T ++ t :: rest, by simp [hb'], hf₁⟩
    have e₁' : c₁.tokens = T b ++ t' :: r' := by rw [e₁, hc, List.flatMap_cons, List.append_assoc, ht']
    refine (h b c₁ t' r' hgood hfollow' e₁').bind fun a c₂ hstep => ?_
    obtain ⟨hr, e₂⟩ := hstep
    have hn' : (bs.flatMap T).length < n := by
      simp only [List.flatMap_cons, List.length_append, hb, List.length_cons] at hn
      omega
    refine (whilePeek_accepts k h bs n c₂ t rest hbs' hn' (e₂.trans ht'.symm) hft htk).bind
      fun as c₃ hstep => ?_
    obtain ⟨has, e₃⟩ := hstep
    exact Accepts.pure ⟨.cons hr has, e₃⟩

end Items

/-! ### Values -/

section Values

variable {c : Cursor} {t : Token} {rest : List Token} {fuel : Nat}

/-- A value's first token does not close a list. -/
lemma Value.starts (v : Value) : Starts Value.tokens (fun _ => True) (.punct .bracketR) v := by
  cases v with
  | string s block => cases block <;> exact ⟨_, [], rfl, trivial, (by simp)⟩
  | _ => exact ⟨_, _, rfl, trivial, (by simp)⟩

/-- A value of one token is read back by stepping over that token. -/
lemma framed_advance_pure {tok : Token} {v : Value} (hc : c.tokens = tok :: t :: rest)
    (htok : tok ≠ .eof) :
    Accepts c (Parser.framed advance >>= fun _ => Pure.pure v) fun w r => v = w ∧ r = t :: rest :=
  (framed_advance_accepts hc htok (by simp)).bind fun _ _ e => Accepts.pure ⟨rfl, e⟩

/-- A variable is read back from its dollar sign and its name. -/
lemma variable_readsBack {n : String} (hc : c.tokens = .punct .dollar :: .name n :: t :: rest) :
    Accepts c (Parser.framed (Parser.framed do
        let _ ← expect (.punct .dollar)
        return Value.variable (← parseName)))
      fun w r => .variable n = w ∧ r = t :: rest := by
  refine Accepts.framed_of_forall fun c₁ e₁ => Accepts.framed_of_forall fun c₂ e₂ => ?_
  refine (expect_accepts (e₂.trans (e₁.trans hc)) rfl (by simp)).bind fun _ c₃ hstep => ?_
  obtain ⟨_, e₃⟩ := hstep
  refine (parseName_accepts e₃ (by simp)).bind fun m c₄ hstep => ?_
  obtain ⟨hm, e₄⟩ := hstep
  exact Accepts.pure ⟨by rw [hm], e₄⟩

/-- The items of a list are read back from between its brackets, when each item is. -/
lemma listItems_readsBack
    (hv : ReadsBack (parseValue false fuel) Value.tokens (fun v => v.Readable ∧ v.tokens.length < fuel)
      (fun _ => True) Eq)
    {items : List Value} (hread : (Value.list items).Readable)
    (hlen : (Value.list items).tokens.length < fuel + 1)
    (hc : c.tokens = (Value.list items).tokens ++ t :: rest) :
    Accepts c (Parser.framed (anyOf (.punct .bracketL) (.punct .bracketR) (parseValue false fuel) fuel))
      fun as r => items = as ∧ r = t :: rest := by
  simp only [Value.tokens, Value.itemTokens_eq, List.cons_append, List.append_assoc,
    List.length_cons, List.length_append] at hc hlen
  have hitems : ∀ w ∈ items, (w.Readable ∧ w.tokens.length < fuel) ∧
      Starts Value.tokens (fun _ => True) (.punct .bracketR) w := fun w hw =>
    ⟨⟨(Value.itemsReadable_iff items).1 hread w hw,
      by have := length_le_length_flatMap (f := Value.tokens) hw; omega⟩, Value.starts w⟩
  refine (Accepts.framed_of_forall fun c' e => anyOf_accepts _ _ hv trivial hitems
    (by omega) (e.trans hc) (by simp)).mono fun as r hq => ⟨?_, hq.2⟩
  rw [← List.forall₂_eq_eq_eq]
  exact hq.1

/-- The fields of an object are read back from between its braces, when each field is. -/
lemma objectFields_readsBack
    (hf : ReadsBack (parseObjectField false fuel) (fun f => .name f.1 :: .punct .colon :: f.2.tokens)
      (fun f => f.2.Readable ∧ f.2.tokens.length + 2 < fuel) (fun _ => True) Eq)
    {fields : List (String × Value)} (hread : (Value.object fields).Readable)
    (hlen : (Value.object fields).tokens.length < fuel + 1)
    (hc : c.tokens = (Value.object fields).tokens ++ t :: rest) :
    Accepts c (Parser.framed (anyOf (.punct .braceL) (.punct .braceR) (parseObjectField false fuel) fuel))
      fun as r => fields = as ∧ r = t :: rest := by
  simp only [Value.tokens, Value.fieldTokens_eq, List.cons_append, List.append_assoc,
    List.length_cons, List.length_append] at hc hlen
  have hfields : ∀ w ∈ fields, (w.2.Readable ∧ w.2.tokens.length + 2 < fuel) ∧
      Starts (fun f => .name f.1 :: .punct .colon :: f.2.tokens) (fun _ => True)
        (.punct .braceR) w := fun w hw => by
    refine ⟨⟨(Value.fieldsReadable_iff fields).1 hread w hw, ?_⟩, _, _, rfl, trivial, (by simp)⟩
    have := length_le_length_flatMap
      (f := fun f : String × Value => .name f.1 :: .punct .colon :: f.2.tokens) hw
    simp only [List.length_cons] at this
    omega
  refine (Accepts.framed_of_forall fun c' e => anyOf_accepts _ _ hf trivial hfields
    (by omega) (e.trans hc) (by simp)).mono fun as r hq => ⟨?_, hq.2⟩
  rw [← List.forall₂_eq_eq_eq]
  exact hq.1

end Values

/-- A value is read back from its tokens, whatever follows them; so is a field of an object. -/
lemma parseValue_readsBack : ∀ fuel,
    ReadsBack (parseValue false fuel) Value.tokens (fun v => v.Readable ∧ v.tokens.length < fuel)
        (fun _ => True) Eq ∧
      ReadsBack (parseObjectField false fuel) (fun f => .name f.1 :: .punct .colon :: f.2.tokens)
        (fun f => f.2.Readable ∧ f.2.tokens.length + 2 < fuel) (fun _ => True) Eq
  | 0 => ⟨fun _ _ _ _ h => absurd h.2 (Nat.not_lt_zero _),
      fun _ _ _ _ h => absurd h.2 (Nat.not_lt_zero _)⟩
  | fuel + 1 => by
    obtain ⟨hv, hf⟩ := parseValue_readsBack fuel
    constructor
    · rintro v c t rest ⟨hread, hlen⟩ _ hc
      rw [parseValue]
      refine Accepts.framed_of_forall fun c' e => ?_
      refine Accepts.current.bind fun l c₁ hstep => ?_
      obtain ⟨hl, e₁⟩ := hstep
      subst hl
      have hc' := e₁.trans (e.trans hc)
      -- the value's first token chooses the production
      cases v with
      | «variable» n =>
        simp only [Value.tokens, List.cons_append, List.nil_append] at hc hc'
        rw [Cursor.current_of_tokens (e.trans hc)]
        exact variable_readsBack hc'
      | list items =>
        simp only [Value.tokens, List.cons_append] at hc
        rw [Cursor.current_of_tokens (e.trans hc)]
        exact (listItems_readsBack hv hread hlen hc').bind fun as _ h =>
          Accepts.pure ⟨by rw [h.1], h.2⟩
      | object fields =>
        simp only [Value.tokens, List.cons_append] at hc
        rw [Cursor.current_of_tokens (e.trans hc)]
        exact (objectFields_readsBack hf hread hlen hc').bind fun as _ h =>
          Accepts.pure ⟨by rw [h.1], h.2⟩
      | enum n =>
        -- a readable enum value is not named as a literal
        obtain ⟨h₁, h₂, h₃⟩ := hread
        simp only [Value.tokens, List.cons_append, List.nil_append] at hc hc'
        rw [Cursor.current_of_tokens (e.trans hc)]
        refine (framed_advance_accepts hc' (by simp) (by simp)).bind fun _ _ e₂ => ?_
        simp only [beq_iff_eq, h₁, h₂, h₃, if_false]
        exact Accepts.pure ⟨rfl, e₂⟩
      | string s₀ block =>
        cases block
        all_goals
          simp only [Value.tokens, List.cons_append, List.nil_append, Bool.false_eq_true,
            if_false, if_true] at hc hc'
          rw [Cursor.current_of_tokens (e.trans hc)]
          exact framed_advance_pure hc' (by simp)
      | boolean b =>
        cases b
        all_goals
          simp only [Value.tokens, List.cons_append, List.nil_append, Bool.false_eq_true,
            if_false, if_true] at hc hc'
          rw [Cursor.current_of_tokens (e.trans hc)]
          exact framed_advance_pure hc' (by simp)
      | int _ | float _ | null =>
        simp only [Value.tokens, List.cons_append, List.nil_append] at hc hc'
        rw [Cursor.current_of_tokens (e.trans hc)]
        exact framed_advance_pure hc' (by simp)
    · rintro f c t rest ⟨hread, hlen⟩ _ hc
      obtain ⟨n, v⟩ := f
      rw [parseObjectField]
      refine Accepts.framed_of_forall fun c' e => ?_
      refine (parseName_accepts (e.trans hc) (by simp)).bind fun m c₁ hstep => ?_
      obtain ⟨hm, e₁⟩ := hstep
      refine (expect_accepts e₁ rfl (by simp)).bind fun _ c₂ hstep => ?_
      obtain ⟨_, e₂⟩ := hstep
      refine (hv v c₂ t rest ⟨hread, by dsimp only at hlen; omega⟩ trivial e₂).bind fun w c₃ hstep => ?_
      obtain ⟨hw, e₃⟩ := hstep
      exact Accepts.pure ⟨by rw [hm, hw], e₃⟩

/-! ### Arguments and directives -/

lemma map_eq_map_of_forall₂ {f : β → γ} {g : α → γ} {bs : List β} {as : List α}
    (h : List.Forall₂ (fun b a => g a = f b) bs as) : as.map g = bs.map f := by
  induction h with
  | nil => rfl
  | cons hab _ ih => simp [hab, ih]

/-- An argument is read back from its name, a colon and its value. -/
lemma parseArgument_readsBack (fuel : Nat) :
    ReadsBack (parseArgument false fuel) (fun a => .name a.1 :: .punct .colon :: a.2.tokens)
      (fun a => a.2.Readable ∧ a.2.tokens.length < fuel) (fun _ => True) fun a a' => a'.1 = a := by
  rintro a c t rest ⟨hread, hlen⟩ _ hc
  obtain ⟨n, v⟩ := a
  refine Accepts.nested_of_forall _ fun c' e => ?_
  refine (parseName_accepts (e.trans hc) (by simp)).bind fun m c₁ hstep => ?_
  obtain ⟨hm, e₁⟩ := hstep
  refine (expect_accepts e₁ rfl (by simp)).bind fun _ c₂ hstep => ?_
  obtain ⟨_, e₂⟩ := hstep
  refine Accepts.current.bind fun _ c₃ hstep => ?_
  obtain ⟨_, e₃⟩ := hstep
  refine ((parseValue_readsBack fuel).1 v c₃ t rest ⟨hread, hlen⟩ trivial
    (e₃.trans e₂)).bind fun w c₄ hstep => ?_
  obtain ⟨hw, e₄⟩ := hstep
  exact Accepts.pure ⟨by rw [hm, hw], e₄⟩

/-- Arguments are read back from their tokens, when no parenthesis follows where there are
none. -/
lemma parseArguments_accepts {fuel : Nat} {c : Cursor} {arguments : List (String × Value)}
    {follow : List Token} (hread : Value.FieldsReadable arguments)
    (hlen : (Value.fieldTokens arguments).length < fuel)
    (hc : c.tokens = argumentTokens arguments ++ follow) (hf : follow ≠ [])
    (ht : arguments = [] → follow.head? ≠ some (.punct .parenL)) :
    Accepts c (parseArguments false fuel) fun as r => as.map (·.1) = arguments ∧ r = follow := by
  obtain ⟨t, rest, rfl⟩ := List.exists_cons_of_ne_nil hf
  have hitems : ∀ a ∈ arguments, (a.2.Readable ∧ a.2.tokens.length < fuel) ∧
      Starts (fun a => .name a.1 :: .punct .colon :: a.2.tokens) (fun _ => True) (.punct .parenR) a :=
    fun a ha =>
      ⟨⟨(Value.fieldsReadable_iff arguments).1 hread a ha, by
        have := length_le_length_flatMap
          (f := fun f : String × Value => .name f.1 :: .punct .colon :: f.2.tokens) ha
        rw [Value.fieldTokens_eq] at hlen
        simp only [List.length_cons] at this
        omega⟩, _, _, rfl, trivial, (by simp)⟩
  have hc' : c.tokens = (if arguments = [] then [] else .punct .parenL ::
      arguments.flatMap (fun a => .name a.1 :: .punct .colon :: a.2.tokens) ++ [.punct .parenR]) ++
        t :: rest := by
    rw [hc, argumentTokens, Value.fieldTokens_eq]
  refine (Accepts.framed_of_forall fun c' e => optionalManyOf_accepts _ _
    (parseArgument_readsBack fuel) trivial hitems (by rwa [Value.fieldTokens_eq] at hlen)
      (e.trans hc') fun h he => ht h (by rw [he]; rfl)).mono fun as r hq => ⟨?_, hq.2⟩
  simpa using map_eq_map_of_forall₂ (f := id) hq.1

lemma Directive.unsited_eq {d d' : Directive} (hn : d'.name = d.name)
    (ha : d'.arguments = d.arguments) : d'.unsited = d.unsited := by
  cases d
  cases d'
  simp_all [Directive.unsited]

/-- A directive is read back from its tokens, up to where it stood, when no parenthesis follows
it. -/
lemma parseDirective_readsBack (fuel : Nat) :
    ReadsBack (parseDirective false fuel) Directive.tokens
      (fun d => d.Readable ∧ d.tokens.length ≤ fuel) (fun t => t ≠ .punct .parenL)
      fun d d' => d'.unsited = d.unsited := by
  rintro d c t rest ⟨hread, hlen⟩ ht hc
  have hargs : (Value.fieldTokens d.arguments).length < fuel := by
    simp only [Directive.tokens, argumentTokens, List.length_cons] at hlen
    split at hlen
    · rename_i h
      simp only [h, Value.fieldTokens_nil, List.length_nil]
      omega
    · simp only [List.length_cons, List.length_append] at hlen
      omega
  refine Accepts.framed_of_forall fun c' e => ?_
  simp only [Directive.tokens, List.cons_append] at hc
  refine Accepts.current.bind fun _ c₁ hstep => ?_
  obtain ⟨_, e₁⟩ := hstep
  refine (expect_accepts (e₁.trans (e.trans hc)) rfl (by simp)).bind fun _ c₂ hstep => ?_
  obtain ⟨_, e₂⟩ := hstep
  refine (parseName_accepts e₂ (by simp)).bind fun n c₃ hstep => ?_
  obtain ⟨hn, e₃⟩ := hstep
  refine (parseArguments_accepts hread hargs e₃ (by simp) fun _ h => ht (by simpa using h)).bind fun as c₄ hstep => ?_
  obtain ⟨has, e₄⟩ := hstep
  refine Accepts.get.bind fun _ c₅ e₅ => ?_
  exact Accepts.pure ⟨Directive.unsited_eq hn has, e₅.trans e₄⟩

/-- Directives are read back from their tokens, up to where they stood, when what follows them
starts with neither an at sign nor a parenthesis. -/
lemma parseDirectives_accepts {fuel : Nat} {c : Cursor} {ds : List Directive}
    {follow : List Token} (hread : ∀ d ∈ ds, d.Readable) (hlen : (directiveTokens ds).length < fuel)
    (hc : c.tokens = directiveTokens ds ++ follow) (hf : follow ≠ [])
    (hparen : follow.head? ≠ some (.punct .parenL)) (hat : follow.head? ≠ some (.punct .atSign)) :
    Accepts c (parseDirectives false fuel) fun ds' r =>
      ds'.map Directive.unsited = ds.map Directive.unsited ∧ r = follow := by
  obtain ⟨t, rest, rfl⟩ := List.exists_cons_of_ne_nil hf
  have hitems : ∀ d ∈ ds, (d.Readable ∧ d.tokens.length ≤ fuel) ∧
      ∃ t ts, d.tokens = t :: ts ∧ t ≠ .punct .parenL ∧ t.kind = .punct .atSign := fun d hd =>
    ⟨⟨hread d hd, by
      have := length_le_length_flatMap (f := Directive.tokens) hd
      rw [directiveTokens] at hlen
      omega⟩, _, _, rfl, (by simp), rfl⟩
  refine (Accepts.nested_of_forall _ fun c' e => whilePeek_accepts _ (parseDirective_readsBack fuel)
    ds fuel c' t rest hitems hlen (e.trans hc) (fun h => hparen (by rw [h]; rfl))
      fun hk => hat (by rw [Token.eq_of_kind_punct hk]; rfl)).mono fun ds' r hq => ⟨?_, hq.2⟩
  exact map_eq_map_of_forall₂ hq.1

/-! ### Selections -/

/-- The tokens that may follow a selection in a selection set: the name or the spread that
starts the next one, or the closing brace. -/
def Selection.Follows (t : Token) : Prop :=
  (∃ n, t = .name n) ∨ t = .punct .spread ∨ t = .punct .braceR

/-- What may follow a selection continues none of its parts. -/
lemma Selection.Follows.ne {t : Token} (h : Selection.Follows t) :
    t ≠ .punct .colon ∧ t ≠ .punct .parenL ∧ t ≠ .punct .atSign ∧ t ≠ .punct .braceL := by
  rcases h with ⟨n, rfl⟩ | rfl | rfl <;> exact ⟨by simp, by simp, by simp, by simp⟩

lemma Selection.starts (s : Selection) :
    Starts Selection.tokens Selection.Follows (.punct .braceR) s := by
  cases s with
  | field a n arguments ds sels =>
    cases a with
    | none => exact ⟨.name n, _, by rw [Selection.tokens_field]; rfl, .inl ⟨n, rfl⟩, (by simp)⟩
    | some a => exact ⟨.name a, _, by rw [Selection.tokens_field]; rfl, .inl ⟨a, rfl⟩, (by simp)⟩
  | fragmentSpread n ds => exact ⟨_, _, rfl, .inr (.inl rfl), (by simp)⟩
  | inlineFragment tc ds sels => exact ⟨_, _, rfl, .inr (.inl rfl), (by simp)⟩

/-- Selection sets are read back from the braces around their selections: the half of
`parseSelection_readsBack` that a field and an inline fragment need at the fuel below. -/
def SelectionSetsReadBack (fuel : Nat) : Prop :=
  ReadsBack (parseSelectionSet fuel)
    (fun ss => .punct .braceL :: Selection.listTokens ss ++ [.punct .braceR])
    (fun ss => ss ≠ [] ∧ Selection.ListReadable ss ∧ (Selection.listTokens ss).length + 2 < fuel)
    (fun _ => True) (fun ss ss' => Selection.listUnsited ss' = Selection.listUnsited ss)

section Productions

variable {c : Cursor} {t : Token} {rest : List Token} {fuel : Nat}

/-- A field's tokens start with a name: its alias, then a colon and its name; or its name. -/
lemma aliasTokens_append_name (al : Option String) (n : String) (Z : List Token) :
    ∃ m Y, aliasTokens al ++ .name n :: Z = .name m :: Y ∧
      ((al = none ∧ m = n ∧ Y = Z) ∨ (al = some m ∧ Y = .punct .colon :: .name n :: Z)) := by
  cases al <;> simp [aliasTokens]

/-- What follows a field's name starts its arguments, its directives or its selection set, so it
is a colon only when what follows the field is. -/
lemma head?_fieldTail_ne_colon (arguments : List (String × Value)) (ds : List Directive)
    (sels : Option (List Selection)) (ht : t ≠ .punct .colon) :
    (argumentTokens arguments ++ (directiveTokens ds ++ (fieldSetTokens sels ++ t :: rest))).head? ≠
      some (.punct .colon) := by
  simp only [head?_argumentTokens_append, head?_directiveTokens_append,
    head?_fieldSetTokens_append, List.head?_cons]
  split_ifs <;> simp [ht]

/-- After a field's first name, a colon is taken exactly when that name was an alias. -/
lemma alias_colon_accepts {al : Option String} {m n : String} {Y Z : List Token}
    (hZ : Z.head? ≠ some (.punct .colon)) (hc : c.tokens = Y)
    (hcases : (al = none ∧ m = n ∧ Y = Z) ∨ (al = some m ∧ Y = .punct .colon :: .name n :: Z)) :
    Accepts c (expectOptional (.punct .colon)) fun b ts =>
      (al = none ∧ m = n ∧ b = false ∧ ts = Z) ∨ (al = some m ∧ b = true ∧ ts = .name n :: Z) := by
  rcases hcases with ⟨hal, hmn, rfl⟩ | ⟨hal, rfl⟩
  · refine (expectOptional_accepts_of_ne fun h => hZ ?_).mono
      fun b ts hq => .inl ⟨hal, hmn, hq.1, hq.2.trans hc⟩
    rw [← hc, Cursor.head?_tokens, h]
  · exact (expectOptional_accepts_of_eq hc (by simp)).mono fun b ts hq => .inr ⟨hal, hq⟩

/-- A field's first name, an optional colon and, after a colon, its name: the alias and the name
are read back, and the field goes on with `k` from what follows them. -/
lemma fieldNames_accepts {al : Option String} {n : String} {Z : List Token}
    (hZ : Z.head? ≠ some (.punct .colon)) (hZne : Z ≠ [])
    (hc : c.tokens = aliasTokens al ++ .name n :: Z) {k : Option String × String → ParseM α}
    {P : α → List Token → Prop} (hk : ∀ c₁ : Cursor, c₁.tokens = Z → Accepts c₁ (k (al, n)) P) :
    Accepts c (parseName >>= fun m => expectOptional (.punct .colon) >>= fun b =>
      if b = true then parseName >>= fun l => Pure.pure (some m, l) >>= k
      else Pure.pure (none, m) >>= k) P := by
  obtain ⟨m, Y, hY, hcases⟩ := aliasTokens_append_name al n Z
  rw [hY] at hc
  refine (parseName_accepts hc (by rcases hcases with ⟨-, -, rfl⟩ | ⟨-, rfl⟩ <;> simp [hZne])).bind
    fun m' c₁ hstep => ?_
  obtain ⟨hm', e₁⟩ := hstep
  subst m'
  refine (alias_colon_accepts hZ e₁ hcases).bind fun b c₂ hb => ?_
  -- the alias and the name meet again in `k`
  refine Accepts.ite_join (R := fun p ts => p = (al, n) ∧ ts = Z) ?_ ?_ fun p c₃ hstep => ?_
  · rintro rfl
    rcases hb with ⟨-, -, h, -⟩ | ⟨hal, -, e₂⟩
    · cases h
    · exact (parseName_accepts e₂ hZne).mono fun l ts hq => ⟨by rw [hal, hq.1], hq.2⟩
  · rintro rfl
    rcases hb with ⟨hal, hmn, -, e₂⟩ | ⟨-, h, -⟩
    · exact ⟨by rw [hal, hmn], e₂⟩
    · cases h
  obtain ⟨hp, e₃⟩ := hstep
  subst hp
  exact hk c₃ e₃

/-- A field forgets where its directives stood as its parts do. -/
lemma Selection.unsited_field_congr {al : Option String} {n : String}
    {arguments : List (String × Value)} {ds ds' : List Directive}
    {sels sels' : Option (List Selection)}
    (hds : ds'.map Directive.unsited = ds.map Directive.unsited)
    (hsels : sels'.map Selection.listUnsited = sels.map Selection.listUnsited) :
    (Selection.field al n arguments ds' sels').unsited =
      (Selection.field al n arguments ds sels).unsited := by
  cases sels <;> cases sels' <;> simp_all [Selection.unsited]

/-- After a field's directives, a brace opens its selection set, which is read back; any other
token ends the field. Either way the field is then built, by `k`. -/
lemma fieldSelections_accepts (hset : SelectionSetsReadBack fuel) {sels : Option (List Selection)}
    (hsels : ∀ ss, sels = some ss → ss ≠ [] ∧ Selection.ListReadable ss)
    (hlen : (fieldSetTokens sels).length < fuel) (hbrace : t ≠ .punct .braceL) {b : Bool}
    (hb : b = (c.current.token.kind == .punct .braceL))
    (hc : c.tokens = fieldSetTokens sels ++ t :: rest) {k : Option (List Selection) → ParseM α}
    {P : α → List Token → Prop}
    (hk : ∀ sels' c₁, sels'.map Selection.listUnsited = sels.map Selection.listUnsited →
      c₁.tokens = t :: rest → Accepts c₁ (k sels') P) :
    Accepts c (if b = true then some <$> parseSelectionSet fuel >>= k else Pure.pure none >>= k) P := by
  refine Accepts.ite_bind (R := fun sels' r =>
    sels'.map Selection.listUnsited = sels.map Selection.listUnsited ∧ r = t :: rest) ?_ ?_
    fun sels' c₁ h => hk sels' c₁ h.1 h.2
  · -- a brace: the field has a selection set
    intro hopen
    cases sels with
    | none =>
      rw [hb, Cursor.current_of_tokens hc] at hopen
      exact absurd (Token.eq_of_kind_punct (by simpa using hopen)) hbrace
    | some ss =>
      obtain ⟨hne, hss⟩ := hsels ss rfl
      simp only [fieldSetTokens, List.length_cons, List.length_append] at hlen hc
      refine Accepts.map ((hset ss c t rest ⟨hne, hss, by omega⟩ trivial hc).mono
        fun ss' r hq => ⟨?_, hq.2⟩)
      simp [hq.1]
  · -- no brace: the field has none
    intro hopen
    cases sels with
    | none => exact Accepts.pure ⟨rfl, hc⟩
    | some ss =>
      simp only [fieldSetTokens, List.cons_append] at hc
      rw [hb, Cursor.current_of_tokens hc] at hopen
      exact absurd (by simp [Token.kind]) hopen

/-- A field is read back from its tokens, up to where its directives stood, when what follows may
follow a selection. -/
lemma parseSelection_field_readsBack (hset : SelectionSetsReadBack fuel) {al : Option String}
    {n : String} {arguments : List (String × Value)} {ds : List Directive}
    {sels : Option (List Selection)} (hread : (Selection.field al n arguments ds sels).Readable)
    (hlen : (Selection.field al n arguments ds sels).tokens.length < fuel + 1)
    (hfollow : Selection.Follows t)
    (hc : c.tokens = (Selection.field al n arguments ds sels).tokens ++ t :: rest) :
    Accepts c (parseSelection (fuel + 1)) fun s' r =>
      s'.unsited = (Selection.field al n arguments ds sels).unsited ∧ r = t :: rest := by
  obtain ⟨hcolon, hparen, hat, hbrace⟩ := hfollow.ne
  obtain ⟨hargs, hds, hsels⟩ := Selection.readable_field.1 hread
  rw [Selection.tokens_field] at hc hlen
  simp only [List.append_assoc, List.cons_append, List.length_append, List.length_cons] at hc hlen
  have hargsLen := length_fieldTokens_le arguments
  -- a field starts with a name, its alias or its name, not with a spread
  obtain ⟨m, Y, hY, -⟩ := aliasTokens_append_name al n
    (argumentTokens arguments ++ (directiveTokens ds ++ (fieldSetTokens sels ++ t :: rest)))
  rw [parseSelection]
  refine Accepts.framed_of_forall fun c' e => ?_
  refine (Accepts.peek _).bind fun b c₁ hstep => ?_
  obtain ⟨hb, e₁⟩ := hstep
  rw [hb, Cursor.current_of_tokens (e.trans (hc.trans hY)), if_neg (by simp [Token.kind])]
  refine Accepts.framed_of_forall fun c₂ e₂ => ?_
  refine fieldNames_accepts (head?_fieldTail_ne_colon arguments ds sels hcolon) (by simp)
    (e₂.trans (e₁.trans (e.trans hc))) fun c₅ e₅ => ?_
  refine (parseArguments_accepts hargs (by omega) e₅ (by simp) fun _ h => ?_).bind
    fun as c₆ hstep => ?_
  · simp only [head?_directiveTokens_append, head?_fieldSetTokens_append,
      List.head?_cons] at h
    split_ifs at h <;> cases h
    exact hparen rfl
  obtain ⟨has, e₆⟩ := hstep
  have hfollow : (fieldSetTokens sels ++ t :: rest).head? ≠ some (.punct .parenL) ∧
      (fieldSetTokens sels ++ t :: rest).head? ≠ some (.punct .atSign) := by
    rw [head?_fieldSetTokens_append]
    split <;> simp [hparen, hat]
  refine (parseDirectives_accepts hds (by omega) e₆ (by simp) hfollow.1 hfollow.2).bind
    fun ds' c₇ hstep => ?_
  obtain ⟨hds', e₇⟩ := hstep
  refine (Accepts.peek _).bind fun b' c₈ hstep => ?_
  obtain ⟨hb', e₈⟩ := hstep
  exact fieldSelections_accepts hset hsels (by omega) hbrace (b := b')
    (by rw [hb', Cursor.current_eq_of_tokens e₈]) (e₈.trans e₇) fun sels' c₉ hsels' e₉ =>
      Accepts.pure ⟨by rw [has, Selection.unsited_field_congr hds' hsels'], e₉⟩

/-- A fragment spread is read back from its tokens, up to where its directives stood, when what
follows may follow a selection. -/
lemma parseSelection_fragmentSpread_readsBack {n : String} {ds : List Directive}
    (hread : (Selection.fragmentSpread n ds).Readable)
    (hlen : (Selection.fragmentSpread n ds).tokens.length < fuel + 1)
    (hfollow : Selection.Follows t)
    (hc : c.tokens = (Selection.fragmentSpread n ds).tokens ++ t :: rest) :
    Accepts c (parseSelection (fuel + 1)) fun s' r =>
      s'.unsited = (Selection.fragmentSpread n ds).unsited ∧ r = t :: rest := by
  obtain ⟨-, hparen, hat, -⟩ := hfollow.ne
  obtain ⟨hon, hds⟩ := hread
  simp only [Selection.tokens, List.cons_append, List.length_cons] at hc hlen
  rw [parseSelection]
  refine Accepts.framed_of_forall fun c' e => ?_
  refine (Accepts.peek _).bind fun b c₁ hstep => ?_
  obtain ⟨hb, e₁⟩ := hstep
  rw [hb, Cursor.current_of_tokens (e.trans hc), if_pos (by simp [Token.kind])]
  refine Accepts.framed_of_forall fun c₂ e₂ => ?_
  refine (expect_accepts (e₂.trans (e₁.trans (e.trans hc))) rfl (by simp)).bind
    fun _ c₃ hstep => ?_
  obtain ⟨_, e₃⟩ := hstep
  -- a name other than `on` after the spread: no type condition, so a fragment's name
  refine (expectOptionalKeyword_accepts_of_ne
    (by rw [Cursor.current_of_tokens e₃]; simpa using hon)).bind fun on c₄ hstep => ?_
  obtain ⟨hon', e₄⟩ := hstep
  refine (Accepts.peek _).bind fun b' c₅ hstep => ?_
  obtain ⟨hb', e₅⟩ := hstep
  rw [hon', hb', Cursor.current_of_tokens (e₄.trans e₃), if_pos (by simp [Token.kind])]
  refine (parseFragmentName_accepts (e₅.trans (e₄.trans e₃)) hon (by simp)).bind
    fun m c₆ hstep => ?_
  obtain ⟨hm, e₆⟩ := hstep
  refine (parseDirectives_accepts hds (by omega) e₆ (by simp) (by simpa using hparen)
    (by simpa using hat)).bind fun ds' c₇ hstep => ?_
  obtain ⟨hds', e₇⟩ := hstep
  exact Accepts.pure ⟨by simp [Selection.unsited, hm, hds'], e₇⟩

/-- After an inline fragment's type condition come its directives and its brace: neither `on`
nor a name. -/
lemma inlineFragment_tail_current {ds : List Directive} {Z : List Token}
    (hc : c.tokens = directiveTokens ds ++ .punct .braceL :: Z) :
    c.current.token ≠ .name "on" ∧ c.current.token.kind ≠ .name := by
  have hcur := Cursor.head?_tokens c
  rw [hc, head?_directiveTokens_append] at hcur
  split at hcur
  all_goals
    simp only [List.head?_cons, Option.some.injEq] at hcur
    rw [← hcur]
    exact ⟨by simp, by simp [Token.kind]⟩

/-- An inline fragment's type condition is read back: `on` and a name, or nothing. -/
lemma typeCondition_accepts {tc : Option String} {Z : List Token}
    (hc : c.tokens = conditionTokens tc ++ (directiveTokens ds ++ .punct .braceL :: Z)) :
    Accepts c (expectOptionalKeyword "on") fun on ts =>
      (tc = none ∧ on = false ∧ ts = directiveTokens ds ++ .punct .braceL :: Z) ∨
      ∃ T, tc = some T ∧ on = true ∧ ts = .name T :: directiveTokens ds ++ .punct .braceL :: Z := by
  cases tc with
  | none =>
    exact (expectOptionalKeyword_accepts_of_ne (inlineFragment_tail_current hc).1).mono
      fun on ts hq => .inl ⟨rfl, hq.1, hq.2.trans hc⟩
  | some T =>
    exact (expectOptionalKeyword_accepts_of_eq hc (by simp)).mono
      fun on ts hq => .inr ⟨T, rfl, hq⟩

/-- An inline fragment is read back from its tokens, up to where its directives stood, when what
follows may follow a selection. -/
lemma parseSelection_inlineFragment_readsBack (hset : SelectionSetsReadBack fuel)
    {tc : Option String} {ds : List Directive} {sels : List Selection}
    (hread : (Selection.inlineFragment tc ds sels).Readable)
    (hlen : (Selection.inlineFragment tc ds sels).tokens.length < fuel + 1)
    (hc : c.tokens = (Selection.inlineFragment tc ds sels).tokens ++ t :: rest) :
    Accepts c (parseSelection (fuel + 1)) fun s' r =>
      s'.unsited = (Selection.inlineFragment tc ds sels).unsited ∧ r = t :: rest := by
  obtain ⟨hds, hne, hsels⟩ := hread
  simp only [Selection.tokens, List.cons_append, List.append_assoc, List.length_cons,
    List.length_append] at hc hlen
  rw [parseSelection]
  refine Accepts.framed_of_forall fun c' e => ?_
  refine (Accepts.peek _).bind fun b c₁ hstep => ?_
  obtain ⟨hb, e₁⟩ := hstep
  rw [hb, Cursor.current_of_tokens (e.trans hc), if_pos (by simp [Token.kind])]
  refine Accepts.framed_of_forall fun c₂ e₂ => ?_
  refine (expect_accepts (e₂.trans (e₁.trans (e.trans hc))) rfl (by simp)).bind
    fun _ c₃ hstep => ?_
  obtain ⟨_, e₃⟩ := hstep
  refine (typeCondition_accepts e₃).bind fun on c₄ hon => (Accepts.peek _).bind
    fun b' c₅ hstep => ?_
  obtain ⟨hb', e₅⟩ := hstep
  -- with no type condition, the directives or the brace that follow are not a fragment's name
  have hinline : (!on && b') = false := by
    rcases hon with ⟨-, rfl, e₄⟩ | ⟨T, -, rfl, -⟩
    · rw [hb']
      simpa using (inlineFragment_tail_current e₄).2
    · rfl
  rw [hinline, if_neg Bool.false_ne_true]
  refine Accepts.ite_bind (R := fun o ts => o = tc ∧ ts = directiveTokens ds ++ .punct .braceL ::
      (Selection.listTokens sels ++ .punct .braceR :: t :: rest)) ?_ ?_
    fun o c₆ hstep => ?_
  · intro h
    rcases hon with ⟨-, rfl, -⟩ | ⟨T, rfl, -, e₄⟩
    · cases h
    · exact Accepts.map ((parseNamedType_accepts (e₅.trans e₄) (by simp)).mono
        fun m ts hq => ⟨by rw [hq.1], hq.2⟩)
  · intro h
    rcases hon with ⟨rfl, -, e₄⟩ | ⟨T, -, rfl, -⟩
    · exact Accepts.pure ⟨rfl, e₅.trans e₄⟩
    · exact absurd rfl h
  obtain ⟨ho, e₆⟩ := hstep
  refine (parseDirectives_accepts hds (by omega) e₆ (by simp) (by simp) (by simp)).bind
    fun ds' c₇ hstep => ?_
  obtain ⟨hds', e₇⟩ := hstep
  refine (hset sels c₇ t rest ⟨hne, hsels, by omega⟩ trivial
    (by rw [e₇]; simp)).bind fun ss' c₈ hstep => ?_
  obtain ⟨hss', e₈⟩ := hstep
  exact Accepts.pure ⟨by simp [Selection.unsited, ho, hds', hss'], e₈⟩

end Productions

/-- A selection set is read back from its braces around its selections, and a selection from its
tokens when what follows may follow it; directives are read back up to where they stood. -/
lemma parseSelection_readsBack : ∀ fuel,
    ReadsBack (parseSelectionSet fuel)
        (fun ss => .punct .braceL :: Selection.listTokens ss ++ [.punct .braceR])
        (fun ss => ss ≠ [] ∧ Selection.ListReadable ss ∧ (Selection.listTokens ss).length + 2 < fuel)
        (fun _ => True) (fun ss ss' => Selection.listUnsited ss' = Selection.listUnsited ss) ∧
      ReadsBack (parseSelection fuel) Selection.tokens (fun s => s.Readable ∧ s.tokens.length < fuel)
        Selection.Follows fun s s' => s'.unsited = s.unsited
  | 0 => ⟨fun _ _ _ _ h => absurd h.2.2 (Nat.not_lt_zero _),
      fun _ _ _ _ h => absurd h.2 (Nat.not_lt_zero _)⟩
  | fuel + 1 => by
    obtain ⟨hset, hsel⟩ := parseSelection_readsBack fuel
    constructor
    · -- a selection set: its selections between braces, each read at the fuel below
      rintro ss c t rest ⟨hne, hread, hlen⟩ _ hc
      have hitems : ∀ s ∈ ss, (s.Readable ∧ s.tokens.length < fuel) ∧
          Starts Selection.tokens Selection.Follows (.punct .braceR) s := fun s hs =>
        ⟨⟨(Selection.listReadable_iff ss).1 hread s hs, by
          have := length_le_length_flatMap (f := Selection.tokens) hs
          rw [Selection.listTokens_eq] at hlen
          omega⟩, Selection.starts s⟩
      have hc' : c.tokens =
          .punct .braceL :: ss.flatMap Selection.tokens ++ .punct .braceR :: t :: rest := by
        rw [hc]
        simp [Selection.listTokens_eq]
      rw [parseSelectionSet]
      refine (Accepts.framed_of_forall fun c' e => manyOf_accepts _ _ hsel (.inr (.inr rfl)) hne
        hitems (by rw [Selection.listTokens_eq] at hlen; omega) (e.trans hc') (by simp)).mono
          fun ss' r hq => ⟨?_, hq.2⟩
      show Selection.listUnsited ss' = Selection.listUnsited ss
      rw [Selection.listUnsited_eq, Selection.listUnsited_eq]
      exact map_eq_map_of_forall₂ hq.1
    · -- a selection: one lemma for each production, with the selection sets at the fuel below
      rintro s c t rest ⟨hread, hlen⟩ hfollow hc
      cases s with
      | field al n arguments ds sels =>
        exact parseSelection_field_readsBack hset hread hlen hfollow hc
      | fragmentSpread n ds =>
        exact parseSelection_fragmentSpread_readsBack hread hlen hfollow hc
      | inlineFragment tc ds sels =>
        exact parseSelection_inlineFragment_readsBack hset hread hlen hc
end Federation.Syntax.Parser
