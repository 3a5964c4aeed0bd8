import Mathlib
import Federation.Proofs.SelectionCompleteness
import Federation.Metadata

/-!
# What a field set reads

A field set is read by wrapping it as `query { … }` and reading the whole wrapped text as a
document. When the tokens of the wrapped text are `query`, a brace, the tokens `ts` of the field
set and the closing brace, and the field set closes no brace it did not open, the reader accepts
exactly the non-empty sequences of readable selections: what it returns stands for `ts`, and the
selections that `ts` stands for are read back, up to where their directives stood, unless the
stack runs out first (`FieldSet.parse_accepts_exactly_selections`).

Both conditions are needed. A field set that closes the wrapping brace itself, as in
`a } query { b`, ends the operation early and the definitions after it are read and dropped; a
comment at the end of a field set runs to the end of its line and swallows the closing brace, so
`sku # id` is no field set although its own tokens are one selection
(`fieldSet_wrapping_leaks`).
-/

namespace Federation.Syntax

/-! ### Braces -/

/-- How a token changes the depth of braces. -/
def Token.braceShift : Token → Int
  | .punct .braceL => 1
  | .punct .braceR => -1
  | _ => 0

/-- The depth of braces after a token list, from depth zero. -/
def braceDepth (ts : List Token) : Int := (ts.map Token.braceShift).sum

@[simp] lemma braceDepth_nil : braceDepth [] = 0 := rfl

@[simp] lemma braceDepth_cons (t : Token) (ts : List Token) :
    braceDepth (t :: ts) = t.braceShift + braceDepth ts := by
  simp [braceDepth]

@[simp] lemma braceDepth_append (ts us : List Token) :
    braceDepth (ts ++ us) = braceDepth ts + braceDepth us := by
  simp [braceDepth]

/-- Every closing brace of a token list closes a brace opened before it in the list. -/
def ClosesOwnBraces (ts : List Token) : Prop :=
  ∀ k < ts.length, ts[k]? = some (.punct .braceR) → 0 < braceDepth (ts.take k)

instance : DecidablePred ClosesOwnBraces := fun ts =>
  inferInstanceAs (Decidable (∀ k < ts.length, _))

lemma ClosesOwnBraces.depth_pos {ts pre post : List Token} (h : ClosesOwnBraces ts)
    (hts : ts = pre ++ .punct .braceR :: post) : 0 < braceDepth pre := by
  have hk := h pre.length (by simp [hts]) (by simp [hts])
  rwa [hts, List.take_left'] at hk
  rfl

mutual

lemma Value.braceDepth_tokens : ∀ v : Value, braceDepth v.tokens = 0
  | .variable _ | .int _ | .float _ | .null | .enum _ => by simp [Value.tokens, Token.braceShift]
  | .string _ b => by cases b <;> simp [Value.tokens, Token.braceShift]
  | .boolean b => by cases b <;> simp [Value.tokens, Token.braceShift]
  | .list items => by simp [Value.tokens, Token.braceShift, Value.braceDepth_itemTokens items]
  | .object fields => by
    simp [Value.tokens, Token.braceShift, Value.braceDepth_fieldTokens fields]

lemma Value.braceDepth_itemTokens : ∀ vs : List Value, braceDepth (Value.itemTokens vs) = 0
  | [] => by simp
  | v :: vs => by simp [Value.braceDepth_tokens v, Value.braceDepth_itemTokens vs]

lemma Value.braceDepth_fieldTokens :
    ∀ fs : List (String × Value), braceDepth (Value.fieldTokens fs) = 0
  | [] => by simp
  | (_, v) :: fs => by
    simp [Token.braceShift, Value.braceDepth_tokens v, Value.braceDepth_fieldTokens fs]

end

lemma braceDepth_argumentTokens (arguments : List (String × Value)) :
    braceDepth (argumentTokens arguments) = 0 := by
  unfold argumentTokens
  split <;> simp [Token.braceShift, Value.braceDepth_fieldTokens]

lemma braceDepth_directiveTokens (ds : List Directive) : braceDepth (directiveTokens ds) = 0 := by
  induction ds with
  | nil => simp
  | cons d ds ih => simp [ih, Directive.tokens, Token.braceShift, braceDepth_argumentTokens]

mutual

/-- Selections open as many braces as they close. -/
lemma Selection.braceDepth_tokens : ∀ s : Selection, braceDepth s.tokens = 0
  | .field a _ arguments ds none => by
    cases a <;> simp [Selection.tokens, aliasTokens, Token.braceShift, braceDepth_argumentTokens,
      braceDepth_directiveTokens]
  | .field a _ arguments ds (some sels) => by
    cases a <;> simp [Selection.tokens, aliasTokens, Token.braceShift, braceDepth_argumentTokens,
      braceDepth_directiveTokens, Selection.braceDepth_listTokens sels]
  | .fragmentSpread _ ds => by simp [Selection.tokens, Token.braceShift, braceDepth_directiveTokens]
  | .inlineFragment tc ds sels => by
    cases tc <;> simp [Selection.tokens, conditionTokens, Token.braceShift,
      braceDepth_directiveTokens, Selection.braceDepth_listTokens sels]

lemma Selection.braceDepth_listTokens : ∀ ss : List Selection, braceDepth (Selection.listTokens ss) = 0
  | [] => by simp
  | s :: ss => by simp [Selection.braceDepth_tokens s, Selection.braceDepth_listTokens ss]

end

/-- A list that closes only its own braces, followed by a closing brace and the end of input, holds
exactly the tokens of a brace-balanced list that some closing brace follows. -/
lemma eq_of_append_braceR {ts pre r : List Token} (hown : ClosesOwnBraces ts)
    (hpre : braceDepth pre = 0)
    (h : ts ++ [.punct .braceR, .eof] = pre ++ .punct .braceR :: r) : ts = pre := by
  rcases List.append_eq_append_iff.1 h with ⟨a, rfl, ha⟩ | ⟨c, rfl, hc⟩
  · -- the closing brace of `pre` is the one after `ts`
    rcases a with _ | ⟨x, _ | ⟨y, a⟩⟩
    · simp
    · simp at ha
    · simp at ha
  · -- a closing brace inside `ts` after `pre` would close a brace `pre` does not open
    rcases c with _ | ⟨x, c⟩
    · simp
    · obtain ⟨rfl, -⟩ := List.cons.inj hc
      have := hown.depth_pos rfl
      omega

end Federation.Syntax

namespace Federation.Syntax.Parser

variable {α β : Type}

/-- From a cursor, a reading step either fails with an error that `F` allows, or succeeds with
`P` of what it read and of the tokens it leaves. -/
def Holds (F : ReadError → Prop) (c : Cursor) (act : ParseM α) (P : α → List Token → Prop) :
    Prop :=
  (∃ e, act.run c = .error e ∧ F e) ∨ ∃ a c', act.run c = .ok (a, c') ∧ P a c'.tokens

namespace Holds

variable {F : ReadError → Prop} {c : Cursor} {act : ParseM α} {P P' : α → List Token → Prop}

lemma of_accepts (hF : F (.fault .tooDeep)) (h : Accepts c act P) : Holds F c act P := by
  rcases h with h | h
  · exact .inl ⟨_, h, hF⟩
  · exact .inr h

lemma pure {a : α} (h : P a c.tokens) : Holds F c (Pure.pure a : ParseM α) P :=
  .inr ⟨a, c, rfl, h⟩

lemma bind {x : ParseM α} {f : α → ParseM β} {P₁ : α → List Token → Prop}
    {P : β → List Token → Prop} (hx : Holds F c x P₁)
    (hf : ∀ a c₁, P₁ a c₁.tokens → Holds F c₁ (f a) P) : Holds F c (x >>= f) P := by
  rcases hx with ⟨e, hx, he⟩ | ⟨a, c₁, hx, hp⟩
  · left
    refine ⟨e, ?_, he⟩
    rw [StateT.run_bind, hx]
    rfl
  · rcases hf a c₁ hp with ⟨e, h, he⟩ | ⟨b, c', h, hq⟩
    · left
      exact ⟨e, by rw [StateT.run_bind, hx]; exact h, he⟩
    · right
      exact ⟨b, c', by rw [StateT.run_bind, hx]; exact h, hq⟩

/-- Where a step does not depend on the height of the stack, nesting it changes nothing. -/
lemma nested_of_forall (n : Nat) (h : ∀ c' : Cursor, c'.tokens = c.tokens → Holds F c' act P) :
    Holds F c (Parser.nested n act) P := by
  unfold Parser.nested
  rcases h { c with height := c.height + n } rfl with ⟨e, h, he⟩ | ⟨a, c', h, hp⟩
  · left
    refine ⟨e, ?_, he⟩
    simp only [StateT.run_bind, StateT.run_modify, pure_bind]
    rw [h]
    rfl
  · right
    refine ⟨a, { c' with height := c'.height - n }, ?_, hp⟩
    simp only [StateT.run_bind, StateT.run_modify, pure_bind]
    rw [h]
    rfl

lemma framed_of_forall (h : ∀ c' : Cursor, c'.tokens = c.tokens → Holds F c' act P) :
    Holds F c (Parser.framed act) P :=
  Holds.nested_of_forall 1 h

/-- What a step consumes, as it holds from one cursor. -/
lemma of_consumes {Q : α → List Token → Prop} (h : Consumes act Q) :
    Holds (fun _ => True) c act fun a r => ∃ ts, c.tokens = ts ++ r ∧ Q a ts := by
  cases hrun : act.run c with
  | error e => exact .inl ⟨e, hrun, trivial⟩
  | ok p => exact .inr ⟨p.1, p.2, hrun, h c p.1 p.2 hrun⟩

/-- Any step fails or succeeds. -/
lemma trivial : Holds (fun _ => True) c act fun _ _ => True := by
  cases hrun : act.run c with
  | error e => exact .inl ⟨e, hrun, True.intro⟩
  | ok p => exact .inr ⟨p.1, p.2, hrun, True.intro⟩

lemma mono (h : Holds F c act P) (hp : ∀ a ts, P a ts → P' a ts) : Holds F c act P' := by
  rcases h with h | ⟨a, c', h, hq⟩
  · exact .inl h
  · exact .inr ⟨a, c', h, hp a _ hq⟩

end Holds

variable {c : Cursor} {R : List Token} {fuel : Nat}

lemma parseOperationType_accepts {ts : List Token} (h : c.tokens = .name "query" :: ts)
    (hts : ts ≠ []) : Accepts c parseOperationType fun op r => op = .query ∧ r = ts := by
  refine Accepts.framed_of_forall fun c' e => ?_
  have hcur := Cursor.current_of_tokens (e.trans h)
  refine Accepts.current.bind fun l c₁ hstep => ?_
  obtain ⟨hl, e₁⟩ := hstep
  refine (expect_accepts (e₁.trans (e.trans h)) rfl hts).bind fun _ c₂ hstep => ?_
  obtain ⟨_, e₂⟩ := hstep
  rw [hl, hcur]
  exact Accepts.pure ⟨rfl, e₂⟩

/-- Without its opening token, a bracketed list that may be absent is absent. -/
lemma optionalManyOf_accepts_of_ne {o p : Punctuator} {item : ParseM α}
    (ht : c.current.token ≠ .punct o) :
    Accepts c (optionalManyOf (.punct o) (.punct p) item fuel) fun xs r => xs = [] ∧ r = c.tokens := by
  refine Accepts.framed_of_forall fun c' e => ?_
  refine (expectOptional_accepts_of_ne (by rwa [Cursor.current_eq_of_tokens e])).bind
    fun b c₁ hstep => ?_
  obtain ⟨hb, e₁⟩ := hstep
  rw [hb]
  exact Accepts.pure ⟨rfl, e₁.trans e⟩

variable {F : ReadError → Prop}

lemma parseOperationDefinition_holds {P : List Selection → List Token → Prop}
    (hF : F (.fault .tooDeep)) (hfuel : 0 < fuel)
    (hc : c.tokens = .name "query" :: .punct .braceL :: R)
    (hk : ∀ c₁ : Cursor, c₁.tokens = .punct .braceL :: R → Holds F c₁ (parseSelectionSet fuel) P) :
    Holds F c (parseOperationDefinition fuel) fun d r =>
      ∃ ss, d = .operation .query none [] [] ss ∧ P ss r := by
  rw [parseOperationDefinition]
  refine Holds.framed_of_forall fun c' e => ?_
  refine (Holds.of_accepts hF (Accepts.peek _)).bind fun b c₁ hstep => ?_
  obtain ⟨hb, e₁⟩ := hstep
  rw [hb, Cursor.current_of_tokens (e.trans hc), if_neg (by simp [Token.kind])]
  refine (Holds.of_accepts hF (parseOperationType_accepts (e₁.trans (e.trans hc)) (by simp))).bind
    fun op c₂ hstep => ?_
  obtain ⟨hop, e₂⟩ := hstep
  refine (Holds.of_accepts hF (Accepts.peek _)).bind fun b' c₃ hstep => ?_
  obtain ⟨hb', e₃⟩ := hstep
  -- after the keyword stands the brace: no name, no variables and no directives
  have hbrace := Cursor.current_of_tokens (e₃.trans e₂)
  dsimp only
  rw [hb', Cursor.current_of_tokens e₂, if_neg (by simp [Token.kind]), pure_bind]
  refine (Holds.of_accepts hF (Accepts.framed_of_forall
    (P := fun (vs : List VariableDefinition) r => vs = [] ∧ r = c₃.tokens) fun c₄ e₄ =>
    (optionalManyOf_accepts_of_ne (by rw [Cursor.current_eq_of_tokens e₄, hbrace]; simp)).mono
      fun vs r hq => ⟨hq.1, hq.2.trans e₄⟩)).bind fun vs c₅ hstep => ?_
  obtain ⟨hvs, e₅⟩ := hstep
  have e₅' : c₅.tokens = directiveTokens [] ++ .punct .braceL :: R := e₅.trans (e₃.trans e₂)
  refine (Holds.of_accepts hF (parseDirectives_accepts (by simp) hfuel e₅' (by simp)
    (by simp) (by simp))).bind
      fun ds c₆ hstep => ?_
  obtain ⟨hds, e₆⟩ := hstep
  refine (hk c₆ e₆).bind fun ss c₇ hss => Holds.pure ⟨ss, ?_, hss⟩
  simp_all

/-- A definition that starts with the keyword `query` is an operation. -/
lemma parseDefinition_holds {P : List Selection → List Token → Prop}
    (hF : F (.fault .tooDeep)) (hfuel : 0 < fuel)
    (hc : c.tokens = .name "query" :: .punct .braceL :: R)
    (hk : ∀ c₁ : Cursor, c₁.tokens = .punct .braceL :: R → Holds F c₁ (parseSelectionSet fuel) P) :
    Holds F c (parseDefinition fuel) fun d r =>
      ∃ ss, d = .operation .query none [] [] ss ∧ P ss r := by
  rw [parseDefinition]
  refine Holds.framed_of_forall fun c' e => ?_
  have hcur := Cursor.current_of_tokens (e.trans hc)
  refine (Holds.of_accepts hF (Accepts.peek _)).bind fun b c₁ hstep => ?_
  obtain ⟨hb, e₁⟩ := hstep
  rw [hb, hcur, if_neg (by simp [Token.kind])]
  refine (Holds.of_accepts hF Accepts.current).bind fun l c₂ hstep => ?_
  obtain ⟨hl, e₂⟩ := hstep
  rw [hl, Cursor.current_of_tokens (e₁.trans (e.trans hc))]
  dsimp only
  rw [pure_bind, if_neg Bool.false_ne_true]
  refine (Holds.of_accepts hF Accepts.current).bind fun k c₃ hstep => ?_
  obtain ⟨hk', e₃⟩ := hstep
  rw [hk', Cursor.current_of_tokens (e₂.trans (e₁.trans (e.trans hc)))]
  have hkw : TypeKind.ofKeyword? "query" = none := rfl
  simp only [hkw]
  rw [if_neg (by decide), if_neg (by decide), if_neg Bool.false_ne_true, if_pos (by decide)]
  exact (parseOperationDefinition_holds hF hfuel (e₃.trans (e₂.trans (e₁.trans (e.trans hc)))) hk)

/-- At the end of input the reader stays there. -/
lemma advance_eof_accepts (h : c.tokens = [.eof]) : Accepts c advance fun _ r => r = [.eof] := by
  have hcur := Cursor.current_of_tokens h
  unfold Accepts
  rw [advance, StateT.run_bind]
  rcases touch_run_cases (moveReach c) c with hk | hk
  · left
    simp only [StateT.run_get, pure_bind, StateT.run_bind, hk]
    rfl
  · right
    simp only [StateT.run_get, pure_bind, StateT.run_bind, hk]
    split
    · exact ⟨(), c, rfl, h⟩
    all_goals contradiction

lemma expectOptional_eof_accepts (h : c.tokens = [.eof]) :
    Accepts c (expectOptional .eof) fun b r => b = true ∧ r = [.eof] := by
  refine Accepts.framed_of_forall fun c' e => (Accepts.peek _).bind fun b c₁ hstep => ?_
  obtain ⟨hb, e₁⟩ := hstep
  rw [hb, Cursor.current_of_tokens (e.trans h), if_pos (by rfl)]
  exact (advance_eof_accepts (e₁.trans (e.trans h))).bind fun _ c₂ e₂ => Accepts.pure ⟨rfl, e₂⟩

/-- At the end of input, items up to the end of input are none. -/
lemma untilClose_eof_accepts {item : ParseM α} (h : c.tokens = [.eof]) (hfuel : 0 < fuel) :
    Accepts c (untilClose .eof item fuel) fun xs r => xs = [] ∧ r = [.eof] := by
  obtain ⟨n, rfl⟩ := Nat.exists_eq_add_of_lt hfuel
  rw [untilClose]
  refine (expectOptional_eof_accepts h).bind fun b c₁ hstep => ?_
  obtain ⟨hb, e₁⟩ := hstep
  rw [hb, if_pos rfl]
  exact Accepts.pure ⟨rfl, e₁⟩

/-- A document that opens with `query {` reads that operation first. -/
lemma parseDocument_holds {P : List Selection → List Token → Prop}
    (hF : F (.fault .tooDeep)) (hfuel : 0 < fuel)
    (hc : c.tokens = .name "query" :: .punct .braceL :: R)
    (hk : ∀ c₁ : Cursor, c₁.tokens = .punct .braceL :: R → Holds F c₁ (parseSelectionSet fuel) P)
    (hrest : ∀ ss (c₂ : Cursor), P ss c₂.tokens →
      Holds F c₂ (untilClose .eof (parseDefinition fuel) fuel) fun _ _ => True) :
    Holds F c (parseDocument fuel) fun doc _ =>
      ∃ ss r, doc.definitions.head? = some (.operation .query none [] [] ss) ∧ P ss r := by
  rw [parseDocument]
  refine Holds.framed_of_forall fun c' e => Holds.framed_of_forall fun c'' e' => ?_
  refine (parseDefinition_holds hF hfuel (e'.trans (e.trans hc)) hk).bind
    fun d c₁ hstep => ?_
  obtain ⟨ss, hd, hss⟩ := hstep
  exact (hrest ss c₁ hss).bind fun ds c₂ _ => Holds.pure ⟨ss, c₁.tokens, by simp [hd], hss⟩

/-- The reader starts on the first token of a stream that does not open with a lexical error. -/
lemma Cursor.start_tokens {source : String} {height : Nat} {st : TokenStream}
    (h : st.tokens ≠ []) : ∃ c, Cursor.start source height st = .ok c ∧ c.tokens = st.tokens := by
  cases st with
  | eof p r => exact ⟨_, rfl, by simp [Cursor.tokens, TokenStream.tokens]⟩
  | error e r => exact absurd rfl h
  | cons l r => exact ⟨_, rfl, rfl⟩

/-- A stream holds a token for each of its lexemes, and the end of input. -/
lemma TokenStream.length_tokens_le (st : TokenStream) : st.tokens.length ≤ st.length + 1 := by
  induction st with
  | eof p r => simp [TokenStream.tokens]
  | error e r => simp [TokenStream.tokens]
  | cons l r ih =>
    simp only [TokenStream.tokens, TokenStream.length]
    split
    · simp
    · simp only [List.length_cons]
      omega

/-- A source whose tokens open with `query {` is read as a document from its first token, with
a budget larger than the tokens after those two. -/
lemma parse_holds {source : String} (height : Nat) {Q : Document → Prop}
    (hscan : (Lexer.scan source.toList).tokens = .name "query" :: .punct .braceL :: R)
    (hdoc : ∀ (c : Cursor) fuel, c.tokens = .name "query" :: .punct .braceL :: R →
      R.length < fuel → Holds F c (parseDocument fuel) fun doc _ => Q doc) :
    (∃ e, parse source height = .error e ∧ F e) ∨ ∃ doc, parse source height = .ok doc ∧ Q doc := by
  obtain ⟨c, hstart, hc⟩ := @Cursor.start_tokens source height (Lexer.scan source.toList)
    (by simp [hscan])
  have hlen : R.length < budget (Lexer.scan source.toList) := by
    have := TokenStream.length_tokens_le (Lexer.scan source.toList)
    rw [hscan] at this
    simp only [List.length_cons] at this
    unfold budget
    omega
  have hparse : parse source height =
      (·.1) <$> (parseDocument (budget (Lexer.scan source.toList))).run c := by
    simp only [parse, hstart]
    rfl
  rcases hdoc c _ (hc.trans hscan) hlen with ⟨e, hrun, he⟩ | ⟨doc, c', hrun, hq⟩
  · exact .inl ⟨e, by rw [hparse, hrun]; rfl, he⟩
  · exact .inr ⟨doc, by rw [hparse, hrun]; rfl, hq⟩

end Federation.Syntax.Parser

namespace Federation

open Syntax Parser

/-- A field set whose wrapped text reads as `query {` and more is read as the operation that
opens its document. -/
lemma FieldSet.parse_holds {s : String} (height : Nat) {R : List Token} {F : ReadError → Prop}
    {Q : List Selection → Prop}
    (hscan : (Lexer.scan (FieldSet.source s).toList).tokens = .name "query" :: .punct .braceL :: R)
    (hdoc : ∀ (c : Cursor) fuel, c.tokens = .name "query" :: .punct .braceL :: R →
      R.length < fuel → Holds F c (parseDocument fuel) fun doc _ =>
        ∃ ss, doc.definitions.head? = some (.operation .query none [] [] ss) ∧ Q ss) :
    (∃ e, FieldSet.parse s height = .error e ∧ F e) ∨
      ∃ ss, FieldSet.parse s height = .ok ss ∧ Q ss := by
  rcases Parser.parse_holds (height + 1) hscan hdoc with ⟨e, he, hF⟩ | ⟨doc, hdoc', hq⟩
  · exact .inl ⟨e, by rw [FieldSet.parse, he]; rfl, hF⟩
  · obtain ⟨ss, hhead, hq⟩ := hq
    refine .inr ⟨ss, ?_, hq⟩
    obtain ⟨_ | ⟨d, ds⟩⟩ := doc
    · cases hhead
    · cases hhead
      rw [FieldSet.parse, hdoc']
      rfl

theorem FieldSet.parse_accepts_exactly_selections (s : String) (ts : List Token)
    (hscan : (Lexer.scan (FieldSet.source s).toList).tokens =
      .name "query" :: .punct .braceL :: (ts ++ [.punct .braceR, .eof])) :
    (ClosesOwnBraces ts → ∀ height sels, FieldSet.parse s height = .ok sels →
      sels ≠ [] ∧ Selection.ListReadable sels ∧ Selection.listTokens sels = ts) ∧
    (∀ ss, ss ≠ [] → Selection.ListReadable ss → Selection.listTokens ss = ts → ∀ height,
      FieldSet.parse s height = .error (.fault .tooDeep) ∨
        ∃ sels, FieldSet.parse s height = .ok sels ∧
          Selection.listUnsited sels = Selection.listUnsited ss) ∧
    ∀ (d : Directive) b height, d.arguments.find? (·.1 == "fields") = some ("fields", .string s b) →
      ∀ sels, directiveSelections d height = .ok (some sels) ↔
        FieldSet.parse s (height + 1) = .ok sels := by
  refine ⟨?_, ?_, ?_⟩
  · -- what is read off the selection set stands for the tokens up to the first unopened brace
    intro hown height sels hparse
    have hdoc : ∀ (c : Cursor) fuel, c.tokens = .name "query" :: .punct .braceL ::
        (ts ++ [.punct .braceR, .eof]) → (ts ++ [.punct .braceR, .eof] : List Token).length < fuel →
        Holds (fun _ => True) c (parseDocument fuel) fun doc _ =>
          ∃ ss, doc.definitions.head? = some (.operation .query none [] [] ss) ∧
            ∃ r, ts ++ [.punct .braceR, .eof] = Selection.listTokens ss ++ .punct .braceR :: r ∧
              ss ≠ [] ∧ Selection.ListReadable ss := by
      intro c fuel hc hlen
      have hsel : ∀ c₁ : Cursor, c₁.tokens = .punct .braceL :: (ts ++ [.punct .braceR, .eof]) →
          Holds (fun _ => True) c₁ (parseSelectionSet fuel) fun ss r =>
            ts ++ [.punct .braceR, .eof] = Selection.listTokens ss ++ .punct .braceR :: r ∧
              ss ≠ [] ∧ Selection.ListReadable ss := by
        intro c₁ e₁
        refine (Holds.of_consumes (parseSelection_consumes fuel).1).mono fun ss r hq => ?_
        obtain ⟨us, hus, hus', hread⟩ := hq
        rw [e₁, hus'] at hus
        exact ⟨by simpa using hus, hread⟩
      refine (parseDocument_holds True.intro (by omega) hc hsel fun _ _ _ => Holds.trivial).mono
        fun doc _ hq => ?_
      obtain ⟨ss, r, hhead, hq⟩ := hq
      exact ⟨ss, hhead, r, hq⟩
    rcases FieldSet.parse_holds height hscan hdoc with ⟨e, he, -⟩ |
      ⟨ss, hss, r, hr, hne, hread⟩
    · rw [hparse] at he
      cases he
    · rw [hparse] at hss
      cases hss
      exact ⟨hne, hread, (eq_of_append_braceR hown (Selection.braceDepth_listTokens sels) hr).symm⟩
  · -- the selections are read back, and the end of input follows them
    intro ss hne hread hts height
    subst hts
    have hdoc : ∀ (c : Cursor) fuel, c.tokens = .name "query" :: .punct .braceL ::
        (Selection.listTokens ss ++ [.punct .braceR, .eof]) →
        (Selection.listTokens ss ++ [.punct .braceR, .eof] : List Token).length < fuel →
        Holds (· = .fault .tooDeep) c (parseDocument fuel) fun doc _ =>
          ∃ sels, doc.definitions.head? = some (.operation .query none [] [] sels) ∧
            Selection.listUnsited sels = Selection.listUnsited ss := by
      intro c fuel hc hlen
      simp only [List.length_append, List.length_cons, List.length_nil] at hlen
      have hsel : ∀ c₁ : Cursor,
          c₁.tokens = .punct .braceL :: (Selection.listTokens ss ++ [.punct .braceR, .eof]) →
          Holds (· = .fault .tooDeep) c₁ (parseSelectionSet fuel) fun sels r =>
            Selection.listUnsited sels = Selection.listUnsited ss ∧ r = [.eof] := fun c₁ e₁ =>
        Holds.of_accepts rfl ((parseSelection_readsBack fuel).1 ss c₁ .eof []
          ⟨hne, hread, by omega⟩ True.intro (by rw [e₁]; simp))
      refine (parseDocument_holds (F := (· = .fault .tooDeep)) rfl (by omega) hc hsel
        fun _ c₂ hq => Holds.of_accepts rfl
          ((untilClose_eof_accepts hq.2 (by omega)).mono fun _ _ _ => True.intro)).mono
        fun doc _ hq => ?_
      obtain ⟨sels, r, hhead, hq, -⟩ := hq
      exact ⟨sels, hhead, hq⟩
    rcases FieldSet.parse_holds height hscan hdoc with ⟨e, he, rfl⟩ | h
    · exact .inl he
    · exact .inr h
  · intro d b height hfind sels
    unfold directiveSelections
    rw [hfind]
    dsimp only
    split <;> simp_all [pure, Except.pure]

/-- The key `id organization { id }` reads back as its two fields. -/
theorem organization_key_reads_back :
    (Lexer.scan (FieldSet.source "id organization \x7b id \x7d").toList).tokens =
      .name "query" :: .punct .braceL :: ([.name "id", .name "organization", .punct .braceL,
        .name "id", .punct .braceR] ++ [.punct .braceR, .eof]) ∧
    (FieldSet.parse "id organization \x7b id \x7d" 0 = .error (.fault .tooDeep) ∨
      ∃ sels, FieldSet.parse "id organization \x7b id \x7d" 0 = .ok sels ∧
        Selection.listUnsited sels = Selection.listUnsited [.field none "id" [] [] none,
          .field none "organization" [] [] (some [.field none "id" [] [] none])]) :=
  ⟨by decide +kernel, (FieldSet.parse_accepts_exactly_selections _ [.name "id", .name "organization",
    .punct .braceL, .name "id", .punct .braceR] (by decide +kernel)).2.1 _
    (by simp) (by simp [Selection.ListReadable, Selection.Readable, Value.FieldsReadable])
    (by decide) 0⟩

/-- A comment at the end of a field set runs on over the closing brace of its wrapping, so a
field set whose own tokens are one selection is rejected; and a field set that closes the
wrapping brace itself is read up to there, the rest of its text being dropped. -/
theorem fieldSet_wrapping_leaks :
    ((Lexer.scan "sku # id".toList).tokens =
        Selection.listTokens [.field none "sku" [] [] none] ++ [.eof] ∧
      (FieldSet.parse "sku # id" 0).toOption.isNone = true) ∧
    ((Lexer.scan "a \x7d query \x7b b".toList).tokens =
        [.name "a", .punct .braceR, .name "query", .punct .braceL, .name "b", .eof] ∧
      (FieldSet.parse "a \x7d query \x7b b" 0).toOption.map Selection.listTokens = some [.name "a"]) := by
  refine ⟨⟨?_, ?_⟩, ?_, ?_⟩ <;> decide +kernel

end Federation
