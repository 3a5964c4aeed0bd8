import Mathlib
import Federation.Proofs.NumberReading
import Federation.Syntax.StringLiteral

/-!
# Quoted strings read back

A string value written as a quoted string (`printString`) scans back to that value
(`printString_scansTo`). The printer writes each character either as it is or as an escape
(`escapedChars`); each escape it writes is decoded to the character it stands for
(`readEscape_escape`), and each character it leaves as it is neither ends the string nor starts
an escape (`escapeChar_eq_none`), so the reader of the string's body gives back the value
character by character (`readString_escaped`).
-/

namespace Federation.Syntax

open Lexer

/-- The characters a character is written as inside a quoted string. -/
def escapedChars (c : Char) : List Char := ((escapeChar c).getD c.toString).toList

lemma printString_toList (s : String) :
    (printString s).toList = '"' :: s.toList.flatMap escapedChars ++ ['"'] := by
  simp [printString, String.toList_join, List.flatMap_map]
  rfl

/-- A character written as it is neither closes the string nor starts an escape, nor breaks the
line. -/
lemma escapeChar_eq_none {c : Char} (h : escapeChar c = none) :
    c ≠ '"' ∧ c ≠ '\\' ∧ c ≠ '\n' ∧ c ≠ '\r' := by
  refine ⟨?_, ?_, ?_, ?_⟩ <;> rintro rfl <;> simp [escapeChar] at h

/-- The four hexadecimal digits written for a control character are read back as its code. -/
lemma fourHex_hexCode : ∀ n < 160,
    (hexCode n).toList.length = 4 ∧ fourHex (hexCode n).toList = .ok (some n) := by
  decide +kernel

/-- A four-digit escape that names a scalar value is decoded to the character with that code. -/
lemma readEscape_unicode {a b c d : Char} {n : Nat} (ha : a ≠ '{')
    (hfour : fourHex [a, b, c, d] = .ok (some n)) (hs : isScalar n = true) (more : List Char)
    (pos : Nat) : readEscape ('\\' :: 'u' :: a :: b :: c :: d :: more) pos = .ok (Char.ofNat n, 6) := by
  unfold readEscape
  split
  · simp_all
  · simp_all
  · simp_all
  · rename_i rest _ _ _ heq
    simp only [List.cons.injEq, true_and] at heq
    subst heq
    have hd : (fourHex (a :: b :: c :: d :: more)).mapError (fun f => (ReadError.fault f, 4)) =
        .ok (some n) := by
      rw [show fourHex (a :: b :: c :: d :: more) = fourHex [a, b, c, d] from rfl, hfour]
      rfl
    simp only [bind, Except.bind, hd, hs, if_true]
    rfl
  · rename_i hne heq
    simp only [List.cons.injEq] at heq
    exact absurd heq.2.1.symm hne
  · simp_all

/-- An escape the printer writes is decoded to the character it stands for. -/
lemma readEscape_escape {c : Char} {e : String} (h : escapeChar c = some e) (more : List Char)
    (pos : Nat) : readEscape (e.toList ++ more) pos = .ok (c, e.toList.length) := by
  unfold escapeChar at h
  split_ifs at h with h₁ h₂ h₃ h₄ h₅ h₆ h₇ h₈ <;> cases h
  · simp only [beq_iff_eq] at h₁; subst h₁; rfl
  · simp only [beq_iff_eq] at h₂; subst h₂; rfl
  · simp only [beq_iff_eq] at h₃; subst h₃; rfl
  · simp only [beq_iff_eq] at h₄; subst h₄; rfl
  · simp only [beq_iff_eq] at h₅; subst h₅; rfl
  · simp only [beq_iff_eq] at h₆; subst h₆; rfl
  · simp only [beq_iff_eq] at h₇; subst h₇; rfl
  · -- any other control character is written by its code in four hexadecimal digits
    have hlt : c.toNat < 160 := by
      simp only [Bool.or_eq_true, decide_eq_true_eq, Bool.and_eq_true] at h₈
      omega
    obtain ⟨hlen, hfour⟩ := fourHex_hexCode c.toNat hlt
    obtain ⟨a, b, c', d, hcode⟩ : ∃ a b c' d, (hexCode c.toNat).toList = [a, b, c', d] := by
      rcases hl : (hexCode c.toNat).toList with _ | ⟨a, _ | ⟨b, _ | ⟨c', _ | ⟨d, _ | ⟨e, l⟩⟩⟩⟩⟩ <;>
        rw [hl] at hlen <;> simp at hlen
      exact ⟨a, b, c', d, rfl⟩
    rw [hcode] at hfour
    have ha : a ≠ '{' := by
      rintro rfl
      simp [fourHex, hexValue, isDigit, pure, Except.pure] at hfour
    have hscalar : isScalar c.toNat = true := by
      simp only [isScalar, Bool.or_eq_true, decide_eq_true_eq]
      omega
    have hu : "\\u".toList = ['\\', 'u'] := by decide
    simp only [String.toList_append, hcode, hu, List.cons_append, List.nil_append]
    rw [readEscape_unicode ha hfour hscalar, Char.ofNat_toNat]
    rfl

/-- Every escape starts with a backslash. -/
lemma escapeChar_eq_some {c : Char} {e : String} (h : escapeChar c = some e) :
    ∃ e', e.toList = '\\' :: e' := by
  unfold escapeChar at h
  split_ifs at h <;> cases h
  -- a control character without a letter of its own is written by its code
  on_goal -1 =>
    exact ⟨'u' :: (hexCode c.toNat).toList, by simp [show "\\u".toList = ['\\', 'u'] by decide]⟩
  all_goals exact ⟨_, rfl⟩

/-- The reader of a quoted string's body gives back, from the printed body and the closing quote,
the value, with the count of characters it took. -/
lemma readString_escaped (s : List Char) : ∀ (fuel pos : Nat) (acc rest : List Char) (reach : Nat),
    s.length < fuel → ∃ r, readString fuel (s.flatMap escapedChars ++ '"' :: rest) pos acc reach =
      .ok (String.ofList (acc.reverse ++ s), (s.flatMap escapedChars).length + 1, r) := by
  induction s with
  | nil =>
    intro fuel pos acc rest reach hfuel
    obtain ⟨fuel, rfl⟩ : ∃ f, fuel = f + 1 := ⟨fuel - 1, by simp at hfuel; omega⟩
    exact ⟨max reach 4, by simp [readString]; rfl⟩
  | cons c s ih =>
    intro fuel pos acc rest reach hfuel
    obtain ⟨fuel, rfl⟩ : ∃ f, fuel = f + 1 := ⟨fuel - 1, by simp at hfuel; omega⟩
    cases he : escapeChar c with
    | none =>
      -- a character written as it is is taken as it is
      obtain ⟨hq, hb, hn, hr⟩ := escapeChar_eq_none he
      obtain ⟨r, hread⟩ := ih fuel (pos + 1) (c :: acc) rest (max reach 2) (by simpa using hfuel)
      refine ⟨r, ?_⟩
      simp only [List.flatMap_cons, escapedChars, he, Option.getD_none, Char.toString_eq_singleton,
        String.toList_singleton, List.cons_append]
      simp only [readString, List.nil_append, hread]
      simp [bind, Except.bind, pure, Except.pure]
    | some e =>
      -- an escape is decoded, and the reading goes on after it
      obtain ⟨e', he'⟩ := escapeChar_eq_some he
      obtain ⟨r, hread⟩ := ih fuel (pos + e.toList.length) (c :: acc) rest 5 (by simpa using hfuel)
      refine ⟨r, ?_⟩
      have hesc := readEscape_escape he (s.flatMap escapedChars ++ '"' :: rest) pos
      simp only [List.flatMap_cons, escapedChars, he, Option.getD_some, List.append_assoc]
      rw [he'] at hesc ⊢
      simp only [List.cons_append] at hesc ⊢
      have hdrop : List.drop ('\\' :: e').length
          ('\\' :: (e' ++ (s.flatMap escapedChars ++ '"' :: rest))) =
          s.flatMap escapedChars ++ '"' :: rest := by
        rw [← List.cons_append, List.drop_left]
      rw [he'] at hread
      simp only [readString, hesc, Except.mapError, bind, Except.bind, hdrop, hread]
      simp [pure, Except.pure]
      omega

/-- Each character is written as at least one character. -/
lemma length_le_flatMap_escapedChars (s : List Char) : s.length ≤ (s.flatMap escapedChars).length := by
  induction s with
  | nil => simp
  | cons c s ih =>
    have : 1 ≤ (escapedChars c).length := by
      cases he : escapeChar c with
      | none => simp [escapedChars, he]
      | some e =>
        obtain ⟨e', he'⟩ := escapeChar_eq_some he
        simp [escapedChars, he, he']
    simp only [List.flatMap_cons, List.length_append, List.length_cons]
    omega

/-- A quoted string's body never starts with a quote. -/
lemma head?_flatMap_escapedChars (s : List Char) (rest : List Char) :
    (s.flatMap escapedChars ++ rest).head? = some '"' → s = [] := by
  cases s with
  | nil => simp
  | cons c s =>
    intro h
    cases he : escapeChar c with
    | none =>
      have := (escapeChar_eq_none he).1
      simp_all [escapedChars]
    | some e =>
      obtain ⟨e', he'⟩ := escapeChar_eq_some he
      simp [escapedChars, he, he'] at h

/-- The scanner reads a quoted string at a quote that does not open a block string. -/
lemma scanFrom_string {rest : List Char} {pos skipped fuel n reach : Nat} {v : String}
    (hq : ∀ more, rest ≠ '"' :: '"' :: more)
    (hread : readString rest.length rest (pos + 1) [] 0 = .ok (v, n, reach)) :
    scanFrom (fuel + 1) ('"' :: rest) pos skipped =
      .cons ⟨.string v, pos, max skipped reach⟩ (scanFrom fuel (rest.drop n) (pos + 1 + n) 0) := by
  simp +decide only [scanFrom, Punctuator.ofChar?, if_true, if_false]
  rw [hread]

/-- What may follow a quoted string: no quote, which would turn an empty string into the opening
of a block string. -/
def QuoteEnd (rest : List Char) : Prop := rest.head? ≠ some '"'

/-- A quoted string scans back to its value. -/
lemma printString_scansTo (v : String) : ScansTo (printString v).toList [.string v] QuoteEnd := by
  intro rest hr fuel pos skipped hlen
  obtain ⟨fuel, rfl⟩ : ∃ f, fuel = f + 1 := ⟨fuel - 1, by simp at hlen; omega⟩
  have hlong := length_le_flatMap_escapedChars v.toList
  rw [printString_toList] at hlen
  simp only [List.cons_append, List.append_assoc, List.nil_append, List.length_cons,
    List.length_append] at hlen
  obtain ⟨r, hread⟩ := readString_escaped v.toList
    (v.toList.flatMap escapedChars ++ '"' :: rest).length (pos + 1) [] rest 0
    (by simp only [List.length_append, List.length_cons]; omega)
  -- no block string opens here: the body starts with no quote, or the string is empty and no
  -- quote follows it
  have hq : ∀ more, v.toList.flatMap escapedChars ++ '"' :: rest ≠ '"' :: '"' :: more := by
    intro more h
    have hnil := head?_flatMap_escapedChars v.toList ('"' :: rest) (by rw [h]; rfl)
    rw [hnil] at h
    exact hr (by simp at h; simp [h])
  refine ⟨fuel, pos + 1 + ((v.toList.flatMap escapedChars).length + 1), 0, by omega, ?_⟩
  simp only [printString_toList, List.cons_append, List.append_assoc, List.nil_append]
  have hdrop : (v.toList.flatMap escapedChars ++ '"' :: rest).drop
      ((v.toList.flatMap escapedChars).length + 1) = rest := by
    rw [← List.singleton_append, ← List.append_assoc, ← List.length_singleton (a := '"'),
      ← List.length_append, List.drop_left]
  rw [scanFrom_string hq hread, hdrop]
  simp

end Federation.Syntax
