import Mathlib
import Federation.Proofs.BlockString

/-!
# What the scanner yields

Every token the scanner yields is well formed (`scan_lexical`): a name is made of the characters
of names, a number follows the grammar of number literals, and a block string has the shape the
scanner gives the values it reads (`BlockShape`). A name's characters are the run the scanner
takes (`isNameText_take`), a number is what `readNumber` accepts (`readNumber_eq_ok_iff`), and a
block string's value is made of raw lines without line breaks (`readBlockLines_clean`,
`blockValue_shape`).
-/

namespace Federation.Syntax

open Lexer

/-- A token as the scanner makes it: a name of name characters, a number of the grammar of
number literals, a block string of the shape the scanner gives its values. -/
def Token.Lexical : Token → Prop
  | .name n => isNameText n.toList = true
  | .int t => NumberLiteral t.toList (.int t)
  | .float t => NumberLiteral t.toList (.float t)
  | .blockString v => BlockShape v.toList
  | _ => True

lemma TokenStream.lexical_cons {l : Lexeme} {r : TokenStream} (hl : l.token.Lexical)
    (hr : ∀ t ∈ r.tokens, t.Lexical) : ∀ t ∈ (TokenStream.cons l r).tokens, t.Lexical := by
  intro t ht
  simp only [TokenStream.tokens] at ht
  split at ht
  · rw [List.mem_singleton.1 ht]
    trivial
  · rcases List.mem_cons.1 ht with rfl | ht
    · exact hl
    · exact hr t ht

lemma TokenStream.lexical_error (e : ReadError) (r : Nat) :
    ∀ t ∈ (TokenStream.error e r).tokens, t.Lexical := by
  simp [TokenStream.tokens]

/-- A name the scanner reads is a name. -/
lemma isNameText_take {c : Char} {rest : List Char} (h : isNameStart c = true) :
    isNameText ((c :: rest).take ((rest.takeWhile isNameContinue).length + 1)) = true := by
  have htake : rest.take (rest.takeWhile isNameContinue).length = rest.takeWhile isNameContinue :=
    (List.prefix_iff_eq_take.1 (List.takeWhile_prefix _)).symm
  simp [isNameText, h, htake, List.all_takeWhile]

/-- A number the scanner reads is a number literal. -/
lemma lexical_of_readNumber {cs : List Char} {pos n : Nat} {t : Token}
    (h : readNumber cs pos = .ok (t, n)) : t.Lexical := by
  obtain ⟨lit, -, -, -, hlit, -⟩ := readNumber_eq_ok_iff.1 h
  have hlit' := hlit
  obtain ⟨i, f, e, -, -, -, -, rfl⟩ := hlit
  split <;> rename_i hfe <;> simpa [Token.Lexical, hfe] using hlit'

/-- Every token a scan yields, from any point of any text, is well formed. -/
lemma scanFrom_lexical : ∀ fuel cs pos skipped,
    ∀ t ∈ (scanFrom fuel cs pos skipped).tokens, t.Lexical := by
  intro fuel
  induction fuel with
  | zero => intro cs pos skipped; simp [scanFrom, TokenStream.tokens, Token.Lexical]
  | succ fuel ih =>
    intro cs pos skipped
    cases cs with
    | nil => simp [scanFrom, TokenStream.tokens, Token.Lexical]
    | cons c rest =>
      simp only [scanFrom]
      split
      · exact ih _ _ _
      split
      · exact ih _ _ _
      split
      · exact TokenStream.lexical_cons trivial (ih _ _ _)
      split
      · refine TokenStream.lexical_cons ?_ (ih _ _ _)
        simp only [Token.Lexical, String.toList_ofList]
        exact isNameText_take ‹_›
      split
      · split
        · exact TokenStream.lexical_cons (lexical_of_readNumber (by assumption)) (ih _ _ _)
        · exact TokenStream.lexical_error _ _
      split
      · split
        · exact TokenStream.lexical_cons trivial (ih _ _ _)
        · exact TokenStream.lexical_error _ _
      split
      · split
        · split
          · rename_i hread
            exact TokenStream.lexical_cons
              (blockValue_shape (readBlockLines_clean hread (by simp) (by simp))) (ih _ _ _)
          · exact TokenStream.lexical_error _ _
        · split
          · exact TokenStream.lexical_cons trivial (ih _ _ _)
          · exact TokenStream.lexical_error _ _
      split
      · exact TokenStream.lexical_error _ _
      · exact TokenStream.lexical_error _ _

/-- Every token of a text is well formed. -/
lemma scan_lexical (cs : List Char) : ∀ t ∈ (scan cs).tokens, t.Lexical :=
  scanFrom_lexical _ _ _ _

end Federation.Syntax
