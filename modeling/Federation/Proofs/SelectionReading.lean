import Mathlib.Tactic.Lemma
import Federation.Proofs.SelectionTokens

/-!
# What the reader of selections reads

The reader of a document reads values, directives and selections off its token stream. Each of
its reading functions that succeeds has consumed exactly the tokens of what it read, and what it
read is readable (`parseSelection_sound`, `parseSelectionSet_sound`): the token forms of
`Federation.Proofs.SelectionTokens` are the grammar the reader accepts, and it accepts them in
one way only.
-/

namespace Federation.Syntax.Parser

variable {α β γ : Type}

/-- The tokens from the reader's place to the end of its stream. -/
def Cursor.tokens (c : Cursor) : List Token := (TokenStream.cons c.current c.rest).tokens

lemma Cursor.tokens_eq (c : Cursor) : c.tokens =
    if c.current.token = .eof then [.eof] else c.current.token :: c.rest.tokens := rfl

/-- The reader stands on the first token of what is left to read. -/
lemma Cursor.head?_tokens (c : Cursor) : c.tokens.head? = some c.current.token := by
  rw [Cursor.tokens_eq]
  split
  · rename_i heof
    rw [heof]
    rfl
  · rfl

lemma Cursor.current_of_tokens {c : Cursor} {t : Token} {ts : List Token} (h : c.tokens = t :: ts) :
    c.current.token = t := by
  simpa [h] using (Cursor.head?_tokens c).symm

/-- After a token that is not the end of input, the reader's stream holds the rest. -/
lemma Cursor.rest_tokens {c : Cursor} {t : Token} {ts : List Token} (h : c.tokens = t :: ts)
    (ht : t ≠ .eof) : c.rest.tokens = ts := by
  have hcur := Cursor.current_of_tokens h
  rw [Cursor.tokens_eq, if_neg (hcur ▸ ht)] at h
  exact (List.cons.inj h).2

/-- The height of the stack is no part of what is left to read. -/
@[simp] lemma Cursor.tokens_height (c : Cursor) (n : Nat) :
    ({ c with height := n } : Cursor).tokens = c.tokens := rfl

/-! ### Running reading steps -/

lemma run_bind_ok {x : ParseM α} {f : α → ParseM β} {c c' : Cursor} {b : β}
    (h : (x >>= f).run c = .ok (b, c')) :
    ∃ a c₁, x.run c = .ok (a, c₁) ∧ (f a).run c₁ = .ok (b, c') := by
  rw [StateT.run_bind] at h
  cases hx : x.run c with
  | error e => rw [hx] at h; cases h
  | ok p => rw [hx] at h; exact ⟨p.1, p.2, rfl, h⟩

lemma touch_run {k : Nat} {c c' : Cursor} {u : Unit} (h : (touch k).run c = .ok (u, c')) :
    c' = c := by
  have e : (touch k).run c =
      (if c.height + k > stackLimit then throw (.fault .tooDeep) else pure () : ParseM Unit).run c :=
    rfl
  rw [e] at h
  split at h
  · cases h
  · cases h
    rfl

lemma fail_run (e : SyntaxError) (c : Cursor) (p : α × Cursor) :
    (fail e : ParseM α).run c ≠ .ok p := by
  intro h
  obtain ⟨u, c₁, -, h⟩ := run_bind_ok h
  cases h

lemma current_run {c c' : Cursor} {l : Lexeme} (h : current.run c = .ok (l, c')) :
    l = c.current ∧ c' = c := by
  cases h
  exact ⟨rfl, rfl⟩

lemma peek_run {k : TokenKind} {c c' : Cursor} {b : Bool} (h : (peek k).run c = .ok (b, c')) :
    b = (c.current.token.kind == k) ∧ c' = c := by
  cases h
  exact ⟨rfl, rfl⟩

lemma nested_run {n : Nat} {act : ParseM α} {c c' : Cursor} {a : α}
    (h : (nested n act).run c = .ok (a, c')) :
    ∃ c₁, act.run { c with height := c.height + n } = .ok (a, c₁) ∧
      c' = { c₁ with height := c₁.height - n } := by
  obtain ⟨u, d, hm, h⟩ := run_bind_ok h
  cases hm
  obtain ⟨a', d', hact, h⟩ := run_bind_ok h
  obtain ⟨u', d'', hm', h⟩ := run_bind_ok h
  cases hm'
  cases h
  exact ⟨d', hact, rfl⟩

lemma unexpectedLexeme_run (l : Lexeme) (c : Cursor) (p : α × Cursor) :
    (unexpectedLexeme l : ParseM α).run c ≠ .ok p := by
  intro h
  obtain ⟨c₁, h, -⟩ := nested_run h
  exact fail_run _ _ _ h

lemma unexpected_run (c : Cursor) (p : α × Cursor) : (unexpected : ParseM α).run c ≠ .ok p := by
  intro h
  obtain ⟨l, c₁, -, h⟩ := run_bind_ok h
  exact unexpectedLexeme_run _ _ _ h

/-- Moving on consumes the current token, unless the reader is at the end of input. -/
lemma advance_run {c c' : Cursor} {u : Unit} (h : advance.run c = .ok (u, c')) :
    c.tokens = (if c.current.token = .eof then [] else [c.current.token]) ++ c'.tokens := by
  obtain ⟨c₀, c₁, hget, h⟩ := run_bind_ok h
  cases hget
  obtain ⟨u₁, c₂, htouch, h⟩ := run_bind_ok h
  cases touch_run htouch
  split at h
  · rename_i heof
    cases h
    simp [heof]
  · rename_i l r hrest hne
    cases h
    rw [Cursor.tokens_eq c, if_neg hne, if_neg hne, hrest]
    rfl
  · rename_i p r hrest hne
    cases h
    rw [Cursor.tokens_eq c, if_neg hne, if_neg hne, hrest]
    rfl
  · cases h

/-- Moving on from a token that is not the end of input consumes that token. -/
lemma framed_advance_run {c c' : Cursor} {u : Unit} (h : (framed advance).run c = .ok (u, c'))
    (hne : c.current.token ≠ .eof) : c.tokens = c.current.token :: c'.tokens := by
  obtain ⟨c₁, hadv, rfl⟩ := nested_run h
  have e := advance_run hadv
  rw [if_neg hne] at e
  exact e

/-! ### What a reading step consumes -/

/-- Every success of a reading step from a cursor consumes tokens `ts` of its stream, off the
front, with `Q a ts` of what it read. -/
def ConsumesAt (c : Cursor) (act : ParseM α) (Q : α → List Token → Prop) : Prop :=
  ∀ a c', act.run c = .ok (a, c') → ∃ ts, c.tokens = ts ++ c'.tokens ∧ Q a ts

/-- What a reading step consumes from any cursor. -/
def Consumes (act : ParseM α) (Q : α → List Token → Prop) : Prop := ∀ c, ConsumesAt c act Q

namespace Consumes

variable {act : ParseM α} {Q Q' : α → List Token → Prop}

lemma mono (h : Consumes act Q) (hq : ∀ a ts, Q a ts → Q' a ts) : Consumes act Q' := by
  intro c a c' hrun
  obtain ⟨ts, e, q⟩ := h c a c' hrun
  exact ⟨ts, e, hq a ts q⟩

lemma pure {a : α} (h : Q a []) : Consumes (Pure.pure a : ParseM α) Q := by
  intro c b c' hrun
  cases hrun
  exact ⟨[], rfl, h⟩

/-- What two steps consume is what the first does, then what the second does. -/
lemma bind {x : ParseM α} {f : α → ParseM β} {Q₁ : α → List Token → Prop}
    {Q : β → List Token → Prop} (hx : Consumes x Q₁)
    (hf : ∀ a ts, Q₁ a ts → Consumes (f a) fun b us => Q b (ts ++ us)) : Consumes (x >>= f) Q := by
  intro c b c' hrun
  obtain ⟨a, c₁, h₁, h₂⟩ := run_bind_ok hrun
  obtain ⟨ts, e₁, q₁⟩ := hx c a c₁ h₁
  obtain ⟨us, e₂, q₂⟩ := hf a ts q₁ c₁ b c' h₂
  exact ⟨ts ++ us, by rw [e₁, e₂, List.append_assoc], q₂⟩

lemma map {f : α → β} {Q : β → List Token → Prop} (h : Consumes act fun a ts => Q (f a) ts) :
    Consumes (f <$> act) Q := by
  rw [map_eq_pure_bind]
  exact h.bind fun a ts q => Consumes.pure (by simpa using q)

lemma nested (n : Nat) (h : Consumes act Q) : Consumes (Parser.nested n act) Q := by
  intro c a c' hrun
  obtain ⟨c₁, hact, rfl⟩ := nested_run hrun
  exact h { c with height := c.height + n } a c₁ hact

lemma framed (h : Consumes act Q) : Consumes (Parser.framed act) Q := h.nested 1

lemma fail (e : SyntaxError) : Consumes (Parser.fail e : ParseM α) Q :=
  fun _ _ _ h => absurd h (fail_run _ _ _)

lemma unexpected : Consumes (Parser.unexpected : ParseM α) Q :=
  fun _ _ _ h => absurd h (unexpected_run _ _)

lemma unexpectedLexeme (l : Lexeme) : Consumes (Parser.unexpectedLexeme l : ParseM α) Q :=
  fun _ _ _ h => absurd h (unexpectedLexeme_run _ _ _)

lemma current : Consumes Parser.current fun _ ts => ts = [] := by
  intro c l c' h
  obtain ⟨-, rfl⟩ := current_run h
  exact ⟨[], rfl, rfl⟩

lemma peek (k : TokenKind) : Consumes (Parser.peek k) fun _ ts => ts = [] := by
  intro c b c' h
  obtain ⟨-, rfl⟩ := peek_run h
  exact ⟨[], rfl, rfl⟩

lemma get : Consumes (MonadState.get : ParseM Cursor) fun _ ts => ts = [] := by
  intro c c₁ c' h
  cases h
  exact ⟨[], rfl, rfl⟩

/-- Two branches that meet again in the step `k`. -/
lemma ite_bind {c : Prop} [Decidable c] {x y : ParseM β} {k : β → ParseM α}
    {R : β → List Token → Prop} (hx : c → Consumes x R) (hy : ¬c → Consumes y R)
    (hk : ∀ p ts, R p ts → Consumes (k p) fun a us => Q a (ts ++ us)) :
    Consumes (if c then x >>= k else y >>= k) Q := by
  split
  · rename_i hc
    exact (hx hc).bind hk
  · rename_i hc
    exact (hy hc).bind hk

/-- Two branches that meet again in the step `k`, one of them a step whose result is mapped,
the other a value. -/
lemma ite_join {b : Bool} {x : ParseM γ} {f : γ → β} {a : β} {k : β → ParseM α}
    {R : β → List Token → Prop} (hx : b = true → Consumes x fun l ts => R (f l) ts)
    (ha : b = false → R a [])
    (hk : ∀ p ts, R p ts → Consumes (k p) fun a us => Q a (ts ++ us)) :
    Consumes (if b = true then x >>= fun l => Pure.pure (f l) >>= k else Pure.pure a >>= k) Q := by
  split
  · rename_i hb
    refine (hx hb).bind fun l ts hl => ?_
    rw [pure_bind]
    exact hk _ _ hl
  · rename_i hb
    rw [pure_bind]
    exact (hk a [] (ha (by simpa using hb))).mono fun s us h => by simpa using h

/-- A step that looks at the current token first: what it does next may depend on that token. -/
lemma current_bind {f : Lexeme → ParseM α} (h : ∀ c, ConsumesAt c (f c.current) Q) :
    Consumes (Parser.current >>= f) Q := by
  intro c a c' hrun
  obtain ⟨l, c₁, hl, hrun⟩ := run_bind_ok hrun
  obtain ⟨rfl, rfl⟩ := current_run hl
  exact h _ a c' hrun

/-- Moving on from a token that is not the end of input consumes it. -/
lemma advance_bind {c : Cursor} {f : Unit → ParseM α} (hne : c.current.token ≠ .eof)
    (h : Consumes (f ()) fun a us => Q a (c.current.token :: us)) :
    ConsumesAt c (Parser.framed advance >>= f) Q := by
  intro a c' hrun
  obtain ⟨u, c₁, hadv, hrun⟩ := run_bind_ok hrun
  obtain ⟨us, e, q⟩ := h c₁ a c' hrun
  exact ⟨_, by rw [framed_advance_run hadv hne, e]; rfl, q⟩

end Consumes

/-! ### Tokens -/

/-- Taking a punctuator consumes it. -/
lemma expect_punct_consumes (p : Punctuator) :
    Consumes (expect (.punct p)) fun t ts => t = .punct p ∧ ts = [.punct p] := by
  refine Consumes.framed fun c t c' h => ?_
  obtain ⟨l, c₁, hl, h⟩ := run_bind_ok h
  obtain ⟨rfl, rfl⟩ := current_run hl
  split at h
  · rename_i hk
    obtain ⟨u, c₂, hadv, h⟩ := run_bind_ok h
    cases h
    have ht := Token.eq_of_kind_punct (beq_iff_eq.1 hk)
    refine ⟨[.punct p], ?_, ht, rfl⟩
    rw [advance_run hadv, ht]
    rfl
  · exact absurd h (fail_run _ _ _)

/-- Taking a name consumes it. -/
lemma expect_name_consumes : Consumes (expect .name) fun t ts => t.kind = .name ∧ ts = [t] := by
  refine Consumes.framed fun c t c' h => ?_
  obtain ⟨l, c₁, hl, h⟩ := run_bind_ok h
  obtain ⟨rfl, rfl⟩ := current_run hl
  split at h
  · rename_i hk
    obtain ⟨u, c₂, hadv, h⟩ := run_bind_ok h
    cases h
    have hk := beq_iff_eq.1 hk
    obtain ⟨n, hn⟩ := Token.eq_of_kind_name hk
    refine ⟨_, ?_, hk, rfl⟩
    rw [advance_run hadv, hn]
    rfl
  · exact absurd h (fail_run _ _ _)

lemma parseName_consumes : Consumes parseName fun n ts => ts = [.name n] := by
  refine Consumes.framed (Consumes.bind expect_name_consumes fun t ts ht => ?_)
  split
  · exact Consumes.pure (by simpa using ht.2)
  · exact Consumes.unexpected

/-- Taking a punctuator if it is there consumes it when it was. -/
lemma expectOptional_punct_consumes (p : Punctuator) :
    Consumes (expectOptional (.punct p)) fun b ts => ts = if b then [.punct p] else [] := by
  refine Consumes.framed fun c b c' h => ?_
  obtain ⟨b₀, c₁, hb, h⟩ := run_bind_ok h
  obtain ⟨rfl, rfl⟩ := peek_run hb
  split at h
  · rename_i hk
    obtain ⟨u, c₂, hadv, h⟩ := run_bind_ok h
    cases h
    have ht := Token.eq_of_kind_punct (beq_iff_eq.1 hk)
    refine ⟨[.punct p], ?_, rfl⟩
    rw [advance_run hadv, ht]
    rfl
  · cases h
    exact ⟨[], rfl, rfl⟩

lemma peekKeyword_run {v : String} {c c' : Cursor} {b : Bool}
    (h : (peekKeyword v).run c = .ok (b, c')) : c' = c ∧ (b = true → c.current.token = .name v) := by
  obtain ⟨l, c₁, hl, h⟩ := run_bind_ok h
  obtain ⟨rfl, rfl⟩ := current_run hl
  split at h
  · rename_i n hn
    cases h
    exact ⟨rfl, fun hb => by rw [hn, beq_iff_eq.1 hb]⟩
  · cases h
    exact ⟨rfl, nofun⟩

/-- Taking a keyword if it is there consumes it when it was. -/
lemma expectOptionalKeyword_consumes (v : String) :
    Consumes (expectOptionalKeyword v) fun b ts => ts = if b then [.name v] else [] := by
  refine Consumes.framed fun c b c' h => ?_
  obtain ⟨b₀, c₁, hb, h⟩ := run_bind_ok h
  obtain ⟨hc, hv⟩ := peekKeyword_run hb
  subst c₁
  split at h
  · rename_i hk
    obtain ⟨u, c₂, hadv, h⟩ := run_bind_ok h
    cases h
    have ht := hv hk
    refine ⟨[.name v], ?_, rfl⟩
    rw [advance_run hadv, ht]
    rfl
  · cases h
    exact ⟨[], rfl, rfl⟩

/-- A fragment's name is a name other than `on`. -/
lemma parseFragmentName_consumes :
    Consumes parseFragmentName fun n ts => ts = [.name n] ∧ n ≠ "on" := by
  refine Consumes.framed fun c n c' h => ?_
  obtain ⟨l, c₁, hl, h⟩ := run_bind_ok h
  obtain ⟨rfl, rfl⟩ := current_run hl
  split at h
  · exact absurd h (unexpected_run _ _)
  · rename_i hon
    obtain ⟨ts, e, rfl⟩ := parseName_consumes _ _ _ h
    have hcur := Cursor.current_of_tokens e
    refine ⟨_, e, rfl, fun hn => hon ?_⟩
    rw [hcur, hn]
    rfl

/-! ### Lists of items -/

section Items

variable {item : ParseM α} {T : α → List Token} {P : α → Prop}

/-- Items up to a closing punctuator: their tokens, then the closing one. -/
lemma untilClose_consumes (p : Punctuator) (h : Consumes item fun a ts => ts = T a ∧ P a) :
    ∀ n, Consumes (untilClose (.punct p) item n) fun as ts =>
      ts = as.flatMap T ++ [.punct p] ∧ ∀ a ∈ as, P a
  | 0 => Consumes.unexpected
  | n + 1 => by
    refine Consumes.bind (expectOptional_punct_consumes p) fun b ts hb => ?_
    split
    · exact Consumes.pure (by simp_all)
    · refine h.bind fun a us ha => (untilClose_consumes p h n).bind fun as vs has => ?_
      exact Consumes.pure (by simp_all)

/-- Items in a pair of punctuators, at least one. -/
lemma manyOf_consumes (o p : Punctuator) (h : Consumes item fun a ts => ts = T a ∧ P a) (n : Nat) :
    Consumes (manyOf (.punct o) (.punct p) item n) fun as ts =>
      ts = .punct o :: as.flatMap T ++ [.punct p] ∧ as ≠ [] ∧ ∀ a ∈ as, P a := by
  refine Consumes.framed ((expect_punct_consumes o).bind fun t ts ht => ?_)
  refine h.bind fun a us ha => (untilClose_consumes p h n).bind fun as vs has => ?_
  exact Consumes.pure (by simp_all)

/-- Items in a pair of punctuators, at least one, or no items and no tokens. -/
lemma optionalManyOf_consumes (o p : Punctuator) (h : Consumes item fun a ts => ts = T a ∧ P a)
    (n : Nat) :
    Consumes (optionalManyOf (.punct o) (.punct p) item n) fun as ts =>
      ts = (if as = [] then [] else .punct o :: as.flatMap T ++ [.punct p]) ∧ ∀ a ∈ as, P a := by
  refine Consumes.framed ((expectOptional_punct_consumes o).bind fun b ts hb => ?_)
  split
  · refine h.bind fun a us ha => (untilClose_consumes p h n).bind fun as vs has => ?_
    exact Consumes.pure (by simp_all)
  · exact Consumes.pure (by simp_all)

/-- Items in a pair of punctuators. -/
lemma anyOf_consumes (o p : Punctuator) (h : Consumes item fun a ts => ts = T a ∧ P a) (n : Nat) :
    Consumes (anyOf (.punct o) (.punct p) item n) fun as ts =>
      ts = .punct o :: as.flatMap T ++ [.punct p] ∧ ∀ a ∈ as, P a := by
  refine Consumes.framed ((expect_punct_consumes o).bind fun t ts ht => ?_)
  refine (untilClose_consumes p h n).mono fun as us has => ?_
  simp_all

/-- Items for as long as they start with a kind of token. -/
lemma whilePeek_consumes (k : TokenKind) (h : Consumes item fun a ts => ts = T a ∧ P a) :
    ∀ n, Consumes (whilePeek k item n) fun as ts => ts = as.flatMap T ∧ ∀ a ∈ as, P a
  | 0 => Consumes.unexpected
  | n + 1 => by
    refine (Consumes.peek k).bind fun b ts hb => ?_
    split
    · refine h.bind fun a us ha => (whilePeek_consumes k h n).bind fun as vs has => ?_
      exact Consumes.pure (by simp_all)
    · exact Consumes.pure (by simp_all)

end Items

/-! ### Values, arguments and directives -/

/-- A value is read off exactly its tokens, and is readable; so is a field of an object. -/
lemma parseValue_consumes (isConst : Bool) : ∀ fuel,
    Consumes (parseValue isConst fuel) (fun v ts => ts = v.tokens ∧ v.Readable) ∧
      Consumes (parseObjectField isConst fuel)
        (fun f ts => ts = .name f.1 :: .punct .colon :: f.2.tokens ∧ f.2.Readable)
  | 0 => ⟨by rw [parseValue]; exact Consumes.unexpected,
      by rw [parseObjectField]; exact Consumes.unexpected⟩
  | fuel + 1 => by
    obtain ⟨hv, hf⟩ := parseValue_consumes isConst fuel
    constructor
    · rw [parseValue]
      refine Consumes.framed (Consumes.current_bind fun c => ?_)
      split
      · rename_i heq
        exact ((anyOf_consumes _ _ hv fuel).framed.bind fun vs ts h => Consumes.pure
          (by simp_all [Value.tokens, Value.itemTokens_eq, Value.Readable, Value.itemsReadable_iff])) c
      · rename_i heq
        exact ((anyOf_consumes _ _ hf fuel).framed.bind fun fs ts h => Consumes.pure
          ⟨by simp [h.1, Value.tokens, Value.fieldTokens_eq],
            by simpa [Value.Readable, Value.fieldsReadable_iff] using h.2⟩) c
      -- a scalar: its one token
      iterate 4
        · rename_i t heq
          exact Consumes.advance_bind (by simp [heq])
            (Consumes.pure (by simp [heq, Value.tokens, Value.Readable]))
      · rename_i n heq
        refine Consumes.advance_bind (by simp [heq]) ?_
        -- `true`, `false` and `null` are literals, and any other name an enum value
        repeat' split
        all_goals exact Consumes.pure (by simp_all [Value.tokens, Value.Readable])
      · rename_i heq
        split
        · -- a variable in a constant value is an error
          exact (Consumes.framed ((expect_punct_consumes _).bind fun _ _ _ =>
            Consumes.current.bind fun l _ _ => by
              split
              · exact Consumes.fail _
              · exact Consumes.unexpectedLexeme _)) c
        · exact (Consumes.framed (Consumes.framed ((expect_punct_consumes _).bind fun t ts ht =>
            parseName_consumes.bind fun n us hn =>
              Consumes.pure (by simp_all [Value.tokens, Value.Readable])))) c
      · exact Consumes.unexpectedLexeme _ c
    · rw [parseObjectField]
      refine Consumes.framed (parseName_consumes.bind fun n ts hn => ?_)
      refine (expect_punct_consumes _).bind fun t us ht => hv.bind fun v vs hvs => ?_
      exact Consumes.pure (by simp_all)


/-- An argument is read off its name, a colon and its value. -/
lemma parseArgument_consumes (isConst : Bool) (fuel : Nat) :
    Consumes (parseArgument isConst fuel) fun a ts =>
      ts = .name a.1.1 :: .punct .colon :: a.1.2.tokens ∧ a.1.2.Readable := by
  refine Consumes.nested _ (parseName_consumes.bind fun n ts hn => ?_)
  refine (expect_punct_consumes _).bind fun t us ht => Consumes.current.bind fun l vs hl => ?_
  refine (parseValue_consumes isConst fuel).1.bind fun v ws hv => ?_
  exact Consumes.pure (by simp_all)

lemma parseArguments_consumes (isConst : Bool) (fuel : Nat) :
    Consumes (parseArguments isConst fuel) fun as ts =>
      ts = argumentTokens (as.map (·.1)) ∧ Value.FieldsReadable (as.map (·.1)) := by
  refine ((optionalManyOf_consumes _ _ (parseArgument_consumes isConst fuel) fuel).framed).mono
    fun as ts h => ⟨?_, ?_⟩
  · simp [h.1, argumentTokens, Value.fieldTokens_eq, List.flatMap_map]
  · simpa [Value.fieldsReadable_iff] using h.2

/-- A directive is read off its at sign, name and arguments. -/
lemma parseDirective_consumes (isConst : Bool) (fuel : Nat) :
    Consumes (parseDirective isConst fuel) fun d ts => ts = d.tokens ∧ d.Readable := by
  refine Consumes.framed (Consumes.current.bind fun l ts hl => ?_)
  refine (expect_punct_consumes _).bind fun t us ht => parseName_consumes.bind fun n vs hn => ?_
  refine (parseArguments_consumes isConst fuel).bind fun as ws has => Consumes.get.bind fun s xs hs => ?_
  exact Consumes.pure (by simp_all [Directive.tokens, Directive.Readable])

lemma parseDirectives_consumes (isConst : Bool) (fuel : Nat) :
    Consumes (parseDirectives isConst fuel) fun ds ts => ts = directiveTokens ds ∧ ∀ d ∈ ds, d.Readable :=
  Consumes.nested _ (whilePeek_consumes _ (parseDirective_consumes isConst fuel) fuel)


/-! ### Selections -/

lemma parseNamedType_consumes : Consumes parseNamedType fun n ts => ts = [.name n] :=
  parseName_consumes.framed

/-- A selection set is read off its braces around its selections, of which there is one at
least; a selection off exactly its tokens. What is read is readable. -/
lemma parseSelection_consumes : ∀ fuel,
    Consumes (parseSelectionSet fuel) (fun ss ts =>
        ts = .punct .braceL :: Selection.listTokens ss ++ [.punct .braceR] ∧ ss ≠ [] ∧
          Selection.ListReadable ss) ∧
      Consumes (parseSelection fuel) fun s ts => ts = s.tokens ∧ s.Readable
  | 0 => ⟨by rw [parseSelectionSet]; exact Consumes.unexpected,
      by rw [parseSelection]; exact Consumes.unexpected⟩
  | fuel + 1 => by
    obtain ⟨hset, hsel⟩ := parseSelection_consumes fuel
    constructor
    · rw [parseSelectionSet]
      refine ((manyOf_consumes _ _ hsel fuel).framed).mono fun ss ts h => ?_
      simpa [Selection.listTokens_eq, Selection.listReadable_iff] using h
    · rw [parseSelection]
      refine Consumes.framed ((Consumes.peek _).bind fun b ts hts => ?_)
      split
      · -- a fragment spread or an inline fragment
        refine Consumes.framed ((expect_punct_consumes _).bind fun t us ht => ?_)
        refine (expectOptionalKeyword_consumes "on").bind fun on vs hon => ?_
        refine (Consumes.peek _).bind fun b ws hb => ?_
        split
        · refine parseFragmentName_consumes.bind fun n xs hn => ?_
          refine (parseDirectives_consumes false fuel).bind fun ds ys hds => ?_
          exact Consumes.pure (by simp_all [Selection.tokens, Selection.Readable])
        · refine Consumes.ite_bind ?_ ?_ fun tc xs (htc : (on = true ∧ ∃ t, tc = some t ∧ xs = [.name t]) ∨
            (on = false ∧ tc = none ∧ xs = [])) => ?_
          · exact fun hon => Consumes.map (parseNamedType_consumes.mono fun t xs h => by simp_all)
          · exact fun hon => Consumes.pure (by simp_all)
          refine (parseDirectives_consumes false fuel).bind fun ds ys hds => ?_
          refine hset.bind fun ss zs hss => Consumes.pure ⟨?_, ?_⟩
          · have hcond : vs ++ (ws ++ xs) = conditionTokens tc := by
              rcases htc with ⟨rfl, t, rfl, rfl⟩ | ⟨rfl, rfl, rfl⟩ <;> simp_all [conditionTokens]
            simp only [hts, ht.2, hds.1, hss.1, Selection.tokens, ← hcond]
            simp
          · simp_all [Selection.Readable]
      · -- a field
        refine Consumes.framed (parseName_consumes.bind fun m us hm => ?_)
        refine (expectOptional_punct_consumes _).bind fun b vs hb => ?_
        refine Consumes.ite_join ?_ ?_ fun p ws (hp : (b = false ∧ p = (none, m) ∧ ws = []) ∨
          (b = true ∧ ∃ n, p = (some m, n) ∧ ws = [.name n])) => ?_
        · exact fun hb => parseName_consumes.mono fun n ws h => by simp_all
        · exact fun hb => by simp_all
        obtain ⟨al, n⟩ := p
        refine (parseArguments_consumes false fuel).bind fun as xs has => ?_
        refine (parseDirectives_consumes false fuel).bind fun ds ys hds => ?_
        refine (Consumes.peek _).bind fun b' zs hzs => ?_
        refine Consumes.ite_bind ?_ ?_ fun sels ys' (hsels : (sels = none ∧ ys' = []) ∨
          ∃ ss, sels = some ss ∧ ys' = .punct .braceL :: Selection.listTokens ss ++ [.punct .braceR] ∧
            ss ≠ [] ∧ Selection.ListReadable ss) => ?_
        · exact fun _ => Consumes.map (hset.mono fun ss ts h => by simp_all)
        · exact fun _ => Consumes.pure (by simp)
        -- the alias and the name, then whether the field has a selection set
        have halias : ∀ r, us ++ (vs ++ (ws ++ r)) = aliasTokens al ++ .name n :: r := by
          intro r
          rcases hp with ⟨rfl, hp, rfl⟩ | ⟨rfl, n', hp, rfl⟩ <;> cases hp <;> simp_all [aliasTokens]
        obtain ⟨rfl, hargs⟩ := has
        obtain ⟨rfl, hdirs⟩ := hds
        subst hts hzs
        refine Consumes.pure ⟨?_, ?_⟩
        · rcases hsels with ⟨rfl, rfl⟩ | ⟨ss, rfl, rfl, -⟩
          all_goals rw [List.nil_append, halias]; simp [Selection.tokens]
        · rcases hsels with ⟨rfl, rfl⟩ | ⟨ss, rfl, rfl, hss⟩
          all_goals simp_all [Selection.Readable]

end Federation.Syntax.Parser
