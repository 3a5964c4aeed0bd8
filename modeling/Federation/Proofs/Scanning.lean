import Mathlib
import Federation.Proofs.SelectionTokens

/-!
# Scanning text piece by piece

What the scanner makes of a text built from pieces. `ScansTo cs ts Next` says that the characters
`cs`, followed by any text that `Next` admits, scan to the tokens `ts` and then to what that text
scans to, from any position and with any budget the scanner may have left. Pieces compose
(`ScansTo.append`), so the tokens of a whole printed text are read off those of its pieces, and a
text whose pieces are all accounted for scans to their tokens and the end of input
(`ScansTo.scan_tokens`).

The pieces here are the separators a printer writes between tokens (blanks, commas and line
breaks, `skipped_scansTo`), punctuators and the spread, and names, which must be followed by a
character that cannot continue them (`NameEnd`). Numbers and strings have modules of their own.
-/

namespace Federation.Syntax.Lexer

/-- The characters `cs` scan to `ts` before any text that `Next` admits: from any position, with
any record of skipped comments and with any budget larger than what is left, the scan yields `ts`
and goes on as a scan of that text with a budget larger than it. -/
def ScansTo (cs : List Char) (ts : List Token) (Next : List Char → Prop) : Prop :=
  ∀ rest, Next rest → ∀ fuel pos skipped, (cs ++ rest).length < fuel →
    ∃ fuel' pos' skipped', rest.length < fuel' ∧
      (scanFrom fuel (cs ++ rest) pos skipped).tokens =
        ts ++ (scanFrom fuel' rest pos' skipped').tokens

namespace ScansTo

variable {a b : List Char} {ts us : List Token} {N N' N₁ N₂ : List Char → Prop}

lemma nil : ScansTo [] [] N :=
  fun _ _ fuel pos skipped hlen => ⟨fuel, pos, skipped, hlen, rfl⟩

/-- Two pieces scan to their tokens one after the other, when what may follow the second piece
and the second piece itself may follow the first. -/
lemma append (h₁ : ScansTo a ts N₁) (h₂ : ScansTo b us N₂) (hN : ∀ r, N₂ r → N₁ (b ++ r)) :
    ScansTo (a ++ b) (ts ++ us) N₂ := by
  intro rest hr fuel pos skipped hlen
  obtain ⟨f₁, p₁, k₁, hlen₁, e₁⟩ :=
    h₁ (b ++ rest) (hN rest hr) fuel pos skipped (by simpa using hlen)
  obtain ⟨f₂, p₂, k₂, hlen₂, e₂⟩ := h₂ rest hr f₁ p₁ k₁ hlen₁
  exact ⟨f₂, p₂, k₂, hlen₂, by rw [List.append_assoc, e₁, e₂, List.append_assoc]⟩

lemma mono (h : ScansTo a ts N) (hN : ∀ r, N' r → N r) : ScansTo a ts N' :=
  fun rest hr => h rest (hN rest hr)

/-- A whole text that scans to `ts` before the empty text scans to `ts` and the end of input. -/
lemma scan_tokens (h : ScansTo a ts N) (hN : N []) : (scan a).tokens = ts ++ [.eof] := by
  obtain ⟨fuel, pos, skipped, hlen, e⟩ := h [] hN (a.length + 1) 0 0 (by simp)
  obtain ⟨fuel, rfl⟩ : ∃ f, fuel = f + 1 := ⟨fuel - 1, by omega⟩
  simpa [scan, scanFrom, TokenStream.tokens] using e

/-- The text before the one a scan reaches scans to the tokens met before it. -/
lemma scan_tokens_prefix (h : ScansTo a ts N) (hN : N b) :
    ∃ fuel pos skipped, b.length < fuel ∧
      (scan (a ++ b)).tokens = ts ++ (scanFrom fuel b pos skipped).tokens :=
  h b hN _ 0 0 (by simp)

end ScansTo

@[simp] lemma TokenStream.tokens_cons {t : Token} (ht : t ≠ .eof) (start reach : Nat)
    (s : TokenStream) : (TokenStream.cons ⟨t, start, reach⟩ s).tokens = t :: s.tokens := by
  simp [TokenStream.tokens, ht]

/-! ### Separators and punctuators -/

/-- The characters a printer writes between tokens: blank, comma and line feed. -/
def isSeparator (c : Char) : Bool := c == ' ' || c == ',' || c == '\n'

lemma scanFrom_separator {c : Char} (hc : isSeparator c = true) (fuel : Nat) (rest : List Char)
    (pos skipped : Nat) :
    scanFrom (fuel + 1) (c :: rest) pos skipped = scanFrom fuel rest (pos + 1) skipped := by
  simp only [isSeparator, Bool.or_eq_true, beq_iff_eq] at hc
  rcases hc with (rfl | rfl) | rfl <;> rfl

/-- Separators scan to no token, whatever follows them. -/
lemma skipped_scansTo {cs : List Char} (hcs : ∀ c ∈ cs, isSeparator c = true)
    {N : List Char → Prop} : ScansTo cs [] N := by
  induction cs with
  | nil => exact .nil
  | cons c cs ih =>
    intro rest hr fuel pos skipped hlen
    obtain ⟨fuel, rfl⟩ : ∃ f, fuel = f + 1 := ⟨fuel - 1, by simp at hlen; omega⟩
    rw [List.cons_append, scanFrom_separator (hcs c (by simp))]
    exact ih (fun d hd => hcs d (by simp [hd])) rest hr fuel (pos + 1) skipped
      (by simp at hlen ⊢; omega)

lemma punct_scansTo {c : Char} {p : Punctuator} (h : Punctuator.ofChar? c = some p)
    {N : List Char → Prop} : ScansTo [c] [.punct p] N := by
  intro rest _ fuel pos skipped hlen
  obtain ⟨fuel, rfl⟩ : ∃ f, fuel = f + 1 := ⟨fuel - 1, by simp at hlen; omega⟩
  refine ⟨fuel, pos + 1, 0, by simpa using hlen, ?_⟩
  -- each punctuator's character takes the scanner's punctuator branch
  have hstep : scanFrom (fuel + 1) (c :: rest) pos skipped =
      .cons ⟨.punct p, pos, max skipped 3⟩ (scanFrom fuel rest (pos + 1) 0) := by
    unfold Punctuator.ofChar? at h
    split at h <;> cases h <;> rfl
  simp [hstep]

lemma spread_scansTo {N : List Char → Prop} : ScansTo ['.', '.', '.'] [.punct .spread] N := by
  intro rest _ fuel pos skipped hlen
  obtain ⟨fuel, rfl⟩ : ∃ f, fuel = f + 1 := ⟨fuel - 1, by simp at hlen; omega⟩
  have hstep : scanFrom (fuel + 1) (['.', '.', '.'] ++ rest) pos skipped =
      .cons ⟨.punct .spread, pos, max skipped 3⟩ (scanFrom fuel rest (pos + 3) 0) := rfl
  exact ⟨fuel, pos + 3, 0, by simp at hlen; omega, by rw [hstep]; simp⟩

/-! ### Names -/

/-- A name: a letter or an underscore, then letters, digits and underscores. -/
def isNameText : List Char → Bool
  | c :: cs => isNameStart c && cs.all isNameContinue
  | [] => false

/-- What may follow a name: no character that would continue it. -/
def NameEnd (rest : List Char) : Prop := ∀ c ∈ rest.head?, isNameContinue c = false

/-- Digits and the characters that start names, as ranges of code points. -/
lemma isDigit_iff {c : Char} : isDigit c = true ↔ 48 ≤ c.toNat ∧ c.toNat ≤ 57 := by
  simp only [isDigit, Bool.and_eq_true, decide_eq_true_eq, Char.le_def, UInt32.le_iff_toNat_le]
  rfl

lemma isNameStart_iff {c : Char} : isNameStart c = true ↔
    (65 ≤ c.toNat ∧ c.toNat ≤ 90) ∨ (97 ≤ c.toNat ∧ c.toNat ≤ 122) ∨ c.toNat = 95 := by
  simp only [isNameStart, Bool.or_eq_true, Bool.and_eq_true, decide_eq_true_eq, Char.le_def,
    UInt32.le_iff_toNat_le, beq_iff_eq, or_assoc]
  rw [← Char.toNat_inj]
  rfl

lemma isNameStart_eq_false_of_isDigit {c : Char} (h : isDigit c = true) : isNameStart c = false := by
  rw [isDigit_iff] at h
  cases hn : isNameStart c
  · rfl
  · rw [isNameStart_iff] at hn
    omega

/-- A character that starts a name or a number is neither skipped, nor a comment, nor a
punctuator. -/
lemma not_skipped_of_starts {c : Char} (h : isNameStart c = true ∨ isDigit c = true ∨ c = '-') :
    (c == ' ' || c == '\t' || c == ',' || c == '﻿' || c == '\n' || c == '\r') = false ∧
      (c == '#') = false ∧ Punctuator.ofChar? c = none := by
  refine ⟨?_, ?_, ?_⟩
  · cases hb : (c == ' ' || c == '\t' || c == ',' || c == '﻿' || c == '\n' || c == '\r')
    · rfl
    · simp only [Bool.or_eq_true, beq_iff_eq] at hb
      rcases hb with ((((rfl | rfl) | rfl) | rfl) | rfl) | rfl <;> simp [isNameStart, isDigit] at h
  · cases hc : c == '#'
    · rfl
    · simp only [beq_iff_eq] at hc
      subst hc
      simp [isNameStart, isDigit] at h
  · unfold Punctuator.ofChar?
    split <;> simp_all [isNameStart, isDigit]

/-- A run of characters of a class, followed by one outside it, is what the class takes. -/
lemma takeWhile_append_of_head {α : Type*} {p : α → Bool} {xs ys : List α} (hxs : ∀ c ∈ xs, p c = true)
    (hys : ∀ c ∈ ys.head?, p c = false) : (xs ++ ys).takeWhile p = xs := by
  rw [List.takeWhile_append_of_pos hxs]
  cases ys with
  | nil => simp
  | cons d ys => simp [hys d (by simp)]

lemma dropWhile_append_of_head {α : Type*} {p : α → Bool} {xs ys : List α} (hxs : ∀ c ∈ xs, p c = true)
    (hys : ∀ c ∈ ys.head?, p c = false) : (xs ++ ys).dropWhile p = ys := by
  rw [List.dropWhile_append_of_pos hxs]
  cases ys with
  | nil => simp
  | cons d ys => simp [hys d (by simp)]

/-- The scanner reads a name as far as the characters that continue it go. -/
lemma scanFrom_name {c : Char} (h : isNameStart c = true) (fuel : Nat) (rest : List Char)
    (pos skipped : Nat) :
    scanFrom (fuel + 1) (c :: rest) pos skipped =
      .cons ⟨.name (String.ofList (c :: rest.takeWhile isNameContinue)), pos, max skipped 4⟩
        (scanFrom fuel (rest.dropWhile isNameContinue)
          (pos + ((rest.takeWhile isNameContinue).length + 1)) 0) := by
  obtain ⟨hb, hh, hp⟩ := not_skipped_of_starts (.inl h)
  -- the name's characters are a prefix of the input, and the scan goes on after them
  have htake : rest.take (rest.takeWhile isNameContinue).length = rest.takeWhile isNameContinue :=
    (List.prefix_iff_eq_take.1 (List.takeWhile_prefix _)).symm
  have hdrop : rest.drop (rest.takeWhile isNameContinue).length = rest.dropWhile isNameContinue :=
    calc rest.drop (rest.takeWhile isNameContinue).length
        = (rest.takeWhile isNameContinue ++ rest.dropWhile isNameContinue).drop
            (rest.takeWhile isNameContinue).length := by rw [List.takeWhile_append_dropWhile]
      _ = rest.dropWhile isNameContinue := List.drop_left
  simp only [scanFrom, hb, hh, hp, h]
  simp [List.take_succ_cons, htake, hdrop]

lemma name_scansTo {cs : List Char} (h : isNameText cs = true) :
    ScansTo cs [.name (String.ofList cs)] NameEnd := by
  obtain ⟨c, cs, rfl⟩ : ∃ c cs', cs = c :: cs' := by
    cases cs with
    | nil => simp [isNameText] at h
    | cons c cs => exact ⟨c, cs, rfl⟩
  simp only [isNameText, Bool.and_eq_true, List.all_eq_true] at h
  intro rest hr fuel pos skipped hlen
  obtain ⟨fuel, rfl⟩ : ∃ f, fuel = f + 1 := ⟨fuel - 1, by simp at hlen; omega⟩
  refine ⟨fuel, pos + (cs.length + 1), 0, by simp at hlen; omega, ?_⟩
  -- the name stops where the text that follows it starts
  rw [List.cons_append, scanFrom_name h.1, takeWhile_append_of_head h.2 hr,
    dropWhile_append_of_head h.2 hr]
  simp

/-! ### Indentation -/

/-- A character of a text indented by `n` blanks: a line feed starts the indentation of the next
line. -/
def indentBy (n : Nat) (c : Char) : List Char :=
  if c = '\n' then '\n' :: List.replicate n ' ' else [c]

lemma indentChar_eq_indentBy : indentChar = indentBy 2 := by
  funext c
  by_cases h : c = '\n' <;> simp [indentChar, indentBy, h]

@[simp] lemma indentBy_zero_flatMap (cs : List Char) : cs.flatMap (indentBy 0) = cs := by
  induction cs with
  | nil => rfl
  | cons c cs ih => by_cases h : c = '\n' <;> simp [indentBy, h, ih]

/-- A text with no line feed is left as it is by indentation. -/
lemma indentBy_flatMap_of_forall {cs : List Char} (h : ∀ c ∈ cs, c ≠ '\n') (n : Nat) :
    cs.flatMap (indentBy n) = cs := by
  induction cs with
  | nil => rfl
  | cons c cs ih =>
    simp only [List.mem_cons, forall_eq_or_imp] at h
    simp [indentBy, h.1, ih h.2]

/-- Indenting an indented text adds the indentations. -/
lemma indentBy_flatMap_indentBy (m n : Nat) (cs : List Char) :
    (cs.flatMap (indentBy m)).flatMap (indentBy n) = cs.flatMap (indentBy (m + n)) := by
  induction cs with
  | nil => rfl
  | cons c cs ih =>
    by_cases h : c = '\n'
    · subst h
      have hsp : (List.replicate m ' ').flatMap (indentBy n) = List.replicate m ' ' :=
        indentBy_flatMap_of_forall (by simp) n
      simp only [indentBy, if_true, List.flatMap_cons, List.cons_append, List.flatMap_append, hsp,
        ih]
      rw [← List.append_assoc, List.replicate_append_replicate, Nat.add_comm]
    · simp [indentBy, h, ih]

/-- Indented separators are separators. -/
lemma isSeparator_of_mem_indentBy {cs : List Char} (hcs : ∀ c ∈ cs, isSeparator c = true)
    (n : Nat) : ∀ c ∈ cs.flatMap (indentBy n), isSeparator c = true := by
  intro c hc
  obtain ⟨d, hd, hc⟩ := List.mem_flatMap.1 hc
  by_cases h : d = '\n'
  · simp only [indentBy, h, if_true, List.mem_cons, List.mem_replicate] at hc
    rcases hc with rfl | ⟨-, rfl⟩ <;> rfl
  · simp only [indentBy, h, if_false, List.mem_singleton] at hc
    exact hc ▸ hcs d hd

end Federation.Syntax.Lexer
