import Mathlib
import Federation.Proofs.ScannedTokens

/-!
# Printed selections scan back

The text the printer writes for a value, a directive or a selection scans back to the tokens that
stand for it, wherever it stands in a block indented by `n` blanks (`indented n`) and whatever
delimiter follows it (`Delimited`): `Value.print_scansTo`, `Directive.print_scansTo` and
`Selection.print_scansTo`. Each token comes back as it was, except a block string, whose value
the scanner re-reads (`Token.reread`, `rereadBlock`). The hypotheses are those the reader's own
output meets: every token is well formed (`Token.Lexical`) and every selection set holds a
selection (`Selection.Readable`).

The layout is stated once: pieces joined by separators (`ScansTo.intercalate`), between brackets
(`bracketed_scansTo`), one per line in a nested block (`wrapLines_scansTo`) and joined by blanks
with the empty ones left out (`joinNonEmpty_scansTo`). A field's arguments scan back on its line
or one per line alike (`fieldLine_scansTo`), so the line length at which the printer breaks them
plays no part. A printed field set, wrapped as its reader wraps it, scans to `query`, a brace, the
selections' tokens, a brace and the end of input (`FieldSet.source_print_tokens`).
-/

namespace Federation.Syntax

open Lexer

/-! ### What may follow a printed item -/

/-- A character the printer writes right after an item: a separator or a punctuator. -/
def isDelimiter (c : Char) : Bool := isSeparator c || (Punctuator.ofChar? c).isSome

/-- A delimiter continues no name, no number and no string. -/
lemma isDelimiter_facts {c : Char} (h : isDelimiter c = true) :
    isNameContinue c = false ∧ isNameStart c = false ∧ isDigit c = false ∧ c ≠ '.' ∧ c ≠ '"' := by
  simp only [isDelimiter, Bool.or_eq_true] at h
  rcases h with h | h
  · simp only [isSeparator, Bool.or_eq_true, beq_iff_eq] at h
    rcases h with (rfl | rfl) | rfl <;> decide
  · unfold Punctuator.ofChar? at h
    split at h <;> first | decide | simp at h

/-- What may follow a printed item: nothing, or a delimiter. -/
def Delimited (rest : List Char) : Prop := ∀ c ∈ rest.head?, isDelimiter c = true

namespace Delimited

variable {rest : List Char}

lemma nameEnd (h : Delimited rest) : NameEnd rest :=
  fun c hc => (isDelimiter_facts (h c hc)).1

lemma numberEnd (h : Delimited rest) : NumberEnd rest := fun c hc =>
  have hf := isDelimiter_facts (h c hc)
  ⟨hf.2.2.1, hf.2.2.2.1, hf.2.1⟩

lemma quoteEnd (h : Delimited rest) : QuoteEnd rest := fun hc =>
  (isDelimiter_facts (h '"' hc)).2.2.2.2 rfl

lemma nil : Delimited [] := fun _ hc => by cases hc

lemma cons {c : Char} (hc : isDelimiter c = true) (r : List Char) : Delimited (c :: r) :=
  fun d hd => by
    simp only [List.head?_cons, Option.mem_def, Option.some.injEq] at hd
    exact hd ▸ hc

lemma append {a : List Char} (ha : Delimited a) (hr : Delimited rest) : Delimited (a ++ rest) := by
  cases a with
  | nil => exact hr
  | cons c a => exact cons (ha c rfl) _

end Delimited

/-! ### Joining pieces -/

/-- Pieces separated by separators scan to their tokens one after the other. -/
lemma ScansTo.intercalate {α : Type} {sep : List Char} (hsep : ∀ c ∈ sep, isSeparator c = true)
    (hne : sep ≠ []) {xs : List α} {P : α → List Char} {T : α → List Token}
    (h : ∀ x ∈ xs, ScansTo (P x) (T x) Delimited) :
    ScansTo (sep.intercalate (xs.map P)) (xs.flatMap T) Delimited := by
  induction xs with
  | nil => exact .nil
  | cons x xs ih =>
    cases xs with
    | nil => simpa using h x (by simp)
    | cons y ys =>
      have hdelim : ∀ r, Delimited (sep ++ r) := by
        obtain ⟨c, sep', rfl⟩ := List.exists_cons_of_ne_nil hne
        intro r
        exact Delimited.cons (by simp [isDelimiter, hsep c (by simp)]) _
      rw [List.map_cons, List.intercalate_cons_of_ne_nil (by simp), List.flatMap_cons,
        List.append_assoc]
      exact (h x (by simp)).append ((skipped_scansTo (N := fun _ => True) hsep).append
        (ih fun z hz => h z (List.mem_cons_of_mem _ hz)) fun _ _ => trivial)
        fun r _ => by rw [List.append_assoc]; exact hdelim _

/-! ### Text without line feeds -/

/-- A text as it stands inside a block indented by `n` blanks. -/
def indented (n : Nat) (s : String) : List Char := s.toList.flatMap (indentBy n)

@[simp] lemma indented_append (n : Nat) (s t : String) :
    indented n (s ++ t) = indented n s ++ indented n t := by
  simp [indented]

lemma indented_of_not_mem {n : Nat} {s : String} (h : '\n' ∉ s.toList) : indented n s = s.toList :=
  indentBy_flatMap_of_forall (fun _ hc hn => h (hn ▸ hc)) n

lemma newline_not_mem_of_isNameText {cs : List Char} (h : isNameText cs = true) : '\n' ∉ cs := by
  cases cs with
  | nil => simp [isNameText] at h
  | cons _ cs =>
    simp only [isNameText, Bool.and_eq_true, List.all_eq_true] at h
    intro hn
    rcases List.mem_cons.1 hn with hc | hn
    · rw [← hc] at h
      exact absurd h.1 (by decide)
    · exact absurd (h.2 _ hn) (by decide)

lemma newline_not_mem_of_isDigits {ds : List Char} (h : isDigits ds = true) : '\n' ∉ ds := by
  intro hn
  simp only [isDigits, Bool.and_eq_true, List.all_eq_true] at h
  exact absurd (h.2 _ hn) (by decide)

lemma NumberLiteral.newline_not_mem {lit : List Char} {t : Token} (h : NumberLiteral lit t) :
    '\n' ∉ lit := by
  obtain ⟨i, f, e, rfl, hi, hf, he, -⟩ := h
  have hu : ∀ {ds}, IsUnsignedPart ds → '\n' ∉ ds := by
    rintro ds (rfl | ⟨hds, -⟩)
    · decide
    · exact newline_not_mem_of_isDigits hds
  simp only [List.mem_append, not_or]
  refine ⟨⟨?_, ?_⟩, ?_⟩
  · rcases hi with hi | ⟨ds, rfl, hds⟩
    · exact hu hi
    · simpa using hu hds
  · rcases hf with rfl | ⟨ds, rfl, hds⟩
    · simp
    · simpa using newline_not_mem_of_isDigits hds
  · rcases he with rfl | ⟨c, sign, ds, rfl, hc, hsign, hds⟩
    · simp
    · simp only [List.mem_cons, List.mem_append, not_or]
      refine ⟨by rcases hc with rfl | rfl <;> decide, ?_, newline_not_mem_of_isDigits hds⟩
      rcases hsign with rfl | rfl | rfl <;> decide

/-- The four hexadecimal digits of a control character's escape break no line. -/
lemma newline_not_mem_hexCode : ∀ n < 160, '\n' ∉ (hexCode n).toList := by
  decide +kernel

/-- No escape breaks a line, and a character written as it is is no line feed. -/
lemma newline_not_mem_escapedChars (c : Char) : '\n' ∉ escapedChars c := by
  unfold escapedChars
  cases he : escapeChar c with
  | none => simpa using fun h => (escapeChar_eq_none he).2.2.1 h.symm
  | some e =>
    simp only [Option.getD_some]
    unfold escapeChar at he
    split_ifs at he with h1 h2 h3 h4 h5 h6 h7 h8 <;> cases he <;> try decide
    simp only [String.toList_append, List.mem_append, not_or]
    refine ⟨by decide, newline_not_mem_hexCode _ ?_⟩
    simp only [Bool.or_eq_true, decide_eq_true_eq, Bool.and_eq_true] at h8
    omega

/-- A quoted string is printed on one line. -/
lemma newline_not_mem_printString (s : String) : '\n' ∉ (printString s).toList := by
  intro hn
  rw [printString_toList] at hn
  rcases List.mem_cons.1 hn with h | hn
  · exact absurd h (by decide)
  rcases List.mem_append.1 hn with hn | hn
  · obtain ⟨c, -, hc⟩ := List.mem_flatMap.1 hn
    exact newline_not_mem_escapedChars c hc
  · exact absurd (List.mem_singleton.1 hn) (by decide)

/-- Nothing scans to no token. -/
lemma ScansTo.eq_nil {ts : List Token} (h : ScansTo [] ts Delimited) : ts = [] := by
  have e := h.scan_tokens Delimited.nil
  rw [show (scan []).tokens = [.eof] from rfl] at e
  simpa using e.symm

/-- A text that scans to some token is not empty. -/
lemma ScansTo.ne_empty {n : Nat} {s : String} {ts : List Token}
    (h : ScansTo (indented n s) ts Delimited) (hts : ts ≠ []) : s ≠ "" := by
  rintro rfl
  exact hts (ScansTo.eq_nil (by simpa [indented] using h))

/-! ### Joining texts -/

lemma ne_empty_of_toList {s : String} (h : s.toList ≠ []) : s ≠ "" :=
  fun hs => h (by simp [hs])

/-- Joining texts none of which is empty keeps them all. -/
lemma joinNonEmpty_eq {sep : String} {items : List String} (h : ∀ s ∈ items, s ≠ "") :
    joinNonEmpty sep items = sep.intercalate items := by
  unfold joinNonEmpty
  rw [List.filter_eq_self.2 fun s hs => by simpa using h s hs]

lemma wrapNonEmpty_of_ne {o s c : String} (h : s ≠ "") : wrapNonEmpty o s c = o ++ s ++ c := by
  simp [wrapNonEmpty, String.isEmpty_iff, h]

lemma toList_ne_nil {s : String} (h : s ≠ "") : s.toList ≠ [] := by
  simpa using h

lemma intercalate_cons_ne_empty (sep : String) {x : String} (hx : x ≠ "") (xs : List String) :
    sep.intercalate (x :: xs) ≠ "" := by
  apply ne_empty_of_toList
  cases xs with
  | nil => simpa using hx
  | cons y ys => simp [hx]

lemma joinNonEmpty_ne_empty (sep : String) {x : String} (hx : x ≠ "") (xs : List String) :
    joinNonEmpty sep (x :: xs) ≠ "" := by
  rw [joinNonEmpty, List.filter_cons_of_pos (by simpa using hx)]
  exact intercalate_cons_ne_empty sep hx _

lemma flatMap_intercalate {α β : Type} (f : α → List β) (sep : List α) (L : List (List α)) :
    (sep.intercalate L).flatMap f = (sep.flatMap f).intercalate (L.map (·.flatMap f)) := by
  induction L with
  | nil => rfl
  | cons l L ih =>
    cases L with
    | nil => simp
    | cons l' L =>
      rw [List.intercalate_cons_cons, List.flatMap_append, List.flatMap_append, ih]
      simp

/-- Texts joined by a separator on one line, inside a block. -/
lemma indented_intercalate (n : Nat) {sep : String} (hsep : '\n' ∉ sep.toList)
    (items : List String) :
    indented n (sep.intercalate items) = sep.toList.intercalate (items.map (indented n)) := by
  rw [indented, String.toList_intercalate, flatMap_intercalate,
    indentBy_flatMap_of_forall (fun _ hc hn => hsep (hn ▸ hc)), List.map_map]
  rfl

/-! ### Values -/

/-- A token with the value of a block string changed by `f`. -/
def Token.mapBlock (f : String → String) : Token → Token
  | .blockString v => .blockString (f v)
  | t => t

/-- What the reader makes of a printed token: a block string's value is re-read, any other token
is itself. -/
abbrev Token.reread : Token → Token := Token.mapBlock rereadBlock

lemma Value.printList_eq (vs : List Value) : Value.printList vs = vs.map Value.print := by
  induction vs with
  | nil => rfl
  | cons v vs ih => simp [Value.printList, ih]

/-- The text of a named value: the name, a colon and a blank, and the value. -/
def fieldText (f : String × Value) : String := f.1 ++ ": " ++ f.2.print

lemma fieldText_ne_empty (f : String × Value) : fieldText f ≠ "" :=
  ne_empty_of_toList (by simp [fieldText])

lemma Value.printFields_eq (fs : List (String × Value)) :
    Value.printFields fs = fs.map fieldText := by
  induction fs with
  | nil => rfl
  | cons f fs ih =>
    obtain ⟨n, v⟩ := f
    simp [Value.printFields, ih, fieldText]

lemma printArguments_eq (arguments : List (String × Value)) :
    printArguments arguments = arguments.map fieldText := by
  unfold printArguments
  congr 1

/-- A name scans to itself wherever what follows is delimited. -/
lemma name_scansTo' {x : String} (hx : isNameText x.toList = true) :
    ScansTo x.toList [.name x] Delimited := by
  have h := (name_scansTo hx).mono fun _ hr => Delimited.nameEnd hr
  rwa [String.ofList_toList] at h

lemma name_indented_scansTo (n : Nat) {x : String} (hx : isNameText x.toList = true) :
    ScansTo (indented n x) [.name x] Delimited := by
  rw [indented_of_not_mem (newline_not_mem_of_isNameText hx)]
  exact name_scansTo' hx

lemma number_indented_scansTo (n : Nat) {x : String} {t : Token} (ht : NumberLiteral x.toList t) :
    ScansTo (indented n x) [t] Delimited := by
  rw [indented_of_not_mem (NumberLiteral.newline_not_mem ht)]
  exact (number_scansTo ht).mono fun _ hr => hr.numberEnd

lemma ne_newline_of_ofChar {c : Char} {p : Punctuator} (h : Punctuator.ofChar? c = some p) :
    c ≠ '\n' := by
  rintro rfl
  cases h

lemma indented_punct {n : Nat} {s : String} {c : Char} {p : Punctuator} (hs : s.toList = [c])
    (h : Punctuator.ofChar? c = some p) : indented n s = [c] := by
  simp [indented, hs, indentBy, ne_newline_of_ofChar h]

lemma punct_indented_scansTo (n : Nat) {s : String} {c : Char} {p : Punctuator}
    (hs : s.toList = [c]) (h : Punctuator.ofChar? c = some p) {N : List Char → Prop} :
    ScansTo (indented n s) [.punct p] N := by
  rw [indented_punct hs h]
  exact punct_scansTo h

lemma separators_indented_scansTo (n : Nat) {s : String} (hs : ∀ c ∈ s.toList, isSeparator c = true)
    {N : List Char → Prop} : ScansTo (indented n s) [] N :=
  skipped_scansTo (isSeparator_of_mem_indentBy hs n)

@[simp] lemma Token.reread_punct (p : Punctuator) : Token.reread (.punct p) = .punct p := rfl
@[simp] lemma Token.reread_name (x : String) : Token.reread (.name x) = .name x := rfl
@[simp] lemma Token.reread_int (t : String) : Token.reread (.int t) = .int t := rfl
@[simp] lemma Token.reread_float (t : String) : Token.reread (.float t) = .float t := rfl
@[simp] lemma Token.reread_string (s : String) : Token.reread (.string s) = .string s := rfl
@[simp] lemma Token.reread_blockString (s : String) :
    Token.reread (.blockString s) = .blockString (rereadBlock s) := rfl

/-- A name, a colon and a blank before a text that scans back. -/
lemma labelled_scansTo (n : Nat) {y rest : String} {ts : List Token}
    (hy : isNameText y.toList = true) (h : ScansTo (indented n rest) ts Delimited) :
    ScansTo (indented n (y ++ ": " ++ rest)) (.name y :: .punct .colon :: ts) Delimited := by
  rw [show (": " : String) = ":" ++ " " from rfl, indented_append, indented_append,
    indented_append, List.append_assoc, List.append_assoc]
  refine (name_indented_scansTo n hy).append
    ((punct_indented_scansTo n (c := ':') (by simp) rfl (N := fun _ => True)).append
      ((separators_indented_scansTo n (by simp [isSeparator]) (N := fun _ => True)).append h
        fun _ _ => trivial) fun _ _ => trivial) fun r _ => ?_
  exact Delimited.cons (c := ':') (by decide) _

/-- A name, a colon and a blank before a value that scans back. -/
lemma fieldText_scansTo (n : Nat) {x : String} {v : Value} (hx : isNameText x.toList = true)
    (hv : ScansTo (indented n v.print) (v.tokens.map Token.reread) Delimited) :
    ScansTo (indented n (fieldText (x, v))) ((.name x :: .punct .colon :: v.tokens).map Token.reread)
      Delimited :=
  labelled_scansTo n hx hv

/-- Texts that scan back, joined by commas between two punctuators. -/
lemma bracketed_scansTo (n : Nat) (co cc : Char) {o c : String} {po pc : Punctuator}
    (ho : o.toList = [co]) (hpo : Punctuator.ofChar? co = some po)
    (hc : c.toList = [cc]) (hpc : Punctuator.ofChar? cc = some pc)
    {α : Type} {xs : List α} {P : α → String} {T : α → List Token} (hne : ∀ x ∈ xs, P x ≠ "")
    (h : ∀ x ∈ xs, ScansTo (indented n (P x)) (T x) Delimited) :
    ScansTo (indented n (o ++ joinNonEmpty ", " (xs.map P) ++ c))
      (.punct po :: xs.flatMap T ++ [.punct pc]) Delimited := by
  have hclose : ∀ r, Delimited (indented n c ++ r) := fun r => by
    rw [indented_punct hc hpc]
    exact Delimited.cons (by simp [isDelimiter, hpc]) _
  rw [joinNonEmpty_eq (by simpa using hne), indented_append, indented_append,
    indented_intercalate n (by simp), List.map_map, List.append_assoc]
  exact (punct_indented_scansTo n ho hpo (N := fun _ => True)).append
    ((ScansTo.intercalate (by simp [isSeparator]) (by simp) h).append
      (punct_indented_scansTo n hc hpc) fun r _ => hclose r) fun _ _ => trivial

lemma Value.tokens_ne_nil (v : Value) : v.tokens ≠ [] := by
  cases v <;> simp [Value.tokens]

/-- A list value scans back when its items do. -/
lemma Value.list_scansTo (n : Nat) {items : List Value}
    (h : ∀ v ∈ items, ScansTo (indented n v.print) (v.tokens.map Token.reread) Delimited) :
    ScansTo (indented n (Value.list items).print) ((Value.list items).tokens.map Token.reread)
      Delimited := by
  rw [Value.print, Value.printList_eq]
  simp only [Value.tokens, Value.itemTokens_eq, List.map_cons, List.map_append, List.map_flatMap,
    Token.reread_punct, List.map_nil]
  exact bracketed_scansTo n '[' ']' (by simp) rfl (by simp) rfl
    (fun v hv => ScansTo.ne_empty (h v hv) (by simpa using Value.tokens_ne_nil v)) h

/-- An object value scans back when its named values do. -/
lemma Value.object_scansTo (n : Nat) {fields : List (String × Value)}
    (h : ∀ f ∈ fields, ScansTo (indented n (fieldText f))
      ((.name f.1 :: .punct .colon :: f.2.tokens).map Token.reread) Delimited) :
    ScansTo (indented n (Value.object fields).print) ((Value.object fields).tokens.map Token.reread)
      Delimited := by
  rw [Value.print, Value.printFields_eq]
  simp only [Value.tokens, Value.fieldTokens_eq, List.map_cons, List.map_append, List.map_flatMap,
    Token.reread_punct, List.map_nil]
  exact bracketed_scansTo n '\x7b' '\x7d' (by simp) rfl (by simp) rfl
    (fun f _ => fieldText_ne_empty f) h

mutual

/-- A well-formed value, printed inside a block indented by `n` blanks, scans to its tokens, each
block string re-read. -/
lemma Value.print_scansTo (n : Nat) : ∀ v : Value, (∀ t ∈ v.tokens, t.Lexical) →
    ScansTo (indented n v.print) (v.tokens.map Token.reread) Delimited
  | .variable x, h => by
    have hx : isNameText x.toList = true := h (.name x) (by simp [Value.tokens])
    simp only [Value.print, Value.tokens, indented_append, List.map_cons, List.map_nil,
      Token.reread_punct, Token.reread_name]
    exact (punct_indented_scansTo n (c := '$') (by simp) rfl (N := fun _ => True)).append
      (name_indented_scansTo n hx) fun _ _ => trivial
  | .int t, h => by
    have ht : NumberLiteral t.toList (.int t) := h (.int t) (by simp [Value.tokens])
    simp only [Value.print, Value.tokens, List.map_cons, List.map_nil, Token.reread_int]
    exact number_indented_scansTo n ht
  | .float t, h => by
    have ht : NumberLiteral t.toList (.float t) := h (.float t) (by simp [Value.tokens])
    simp only [Value.print, Value.tokens, List.map_cons, List.map_nil, Token.reread_float]
    exact number_indented_scansTo n ht
  | .string s false, _ => by
    simp only [Value.print, Value.tokens, List.map_cons, List.map_nil, Token.reread_string,
      Bool.false_eq_true, if_false]
    rw [indented_of_not_mem (newline_not_mem_printString s)]
    exact (printString_scansTo s).mono fun _ hr => hr.quoteEnd
  | .string s true, h => by
    have hs : BlockShape s.toList := h (.blockString s) (by simp [Value.tokens])
    simp only [Value.print, Value.tokens, List.map_cons, List.map_nil, Token.reread_blockString,
      if_true]
    exact (printBlockString_scansTo n hs).mono fun _ _ => trivial
  | .boolean b, _ => by
    cases b <;> simp only [Value.print, Value.tokens, List.map_cons, List.map_nil,
      Token.reread_name] <;> exact name_indented_scansTo n (by decide)
  | .null, _ => by
    simp only [Value.print, Value.tokens, List.map_cons, List.map_nil, Token.reread_name]
    exact name_indented_scansTo n (by decide)
  | .enum x, h => by
    have hx : isNameText x.toList = true := h (.name x) (by simp [Value.tokens])
    simp only [Value.print, Value.tokens, List.map_cons, List.map_nil, Token.reread_name]
    exact name_indented_scansTo n hx
  | .list items, h => by
    have hl : ∀ t ∈ Value.itemTokens items, t.Lexical := fun t ht =>
      h t (by simp [Value.tokens, ht])
    exact Value.list_scansTo n (Value.printItems_scansTo n items hl)
  | .object fields, h => by
    have hl : ∀ t ∈ Value.fieldTokens fields, t.Lexical := fun t ht =>
      h t (by simp [Value.tokens, ht])
    exact Value.object_scansTo n (Value.printFields_scansTo n fields hl)

/-- Each item of a list of well-formed values scans back. -/
lemma Value.printItems_scansTo (n : Nat) : ∀ vs : List Value,
    (∀ t ∈ Value.itemTokens vs, t.Lexical) →
    ∀ v ∈ vs, ScansTo (indented n v.print) (v.tokens.map Token.reread) Delimited
  | [], _ => by simp
  | v :: vs, h => List.forall_mem_cons.2
    ⟨Value.print_scansTo n v fun t ht => h t (by simp [ht]),
      Value.printItems_scansTo n vs fun t ht => h t (by simp [ht])⟩

/-- Each named value of a list of well-formed ones scans back. -/
lemma Value.printFields_scansTo (n : Nat) : ∀ fs : List (String × Value),
    (∀ t ∈ Value.fieldTokens fs, t.Lexical) →
    ∀ f ∈ fs, ScansTo (indented n (fieldText f))
      ((.name f.1 :: .punct .colon :: f.2.tokens).map Token.reread) Delimited
  | [], _ => by simp
  | (x, v) :: fs, h => List.forall_mem_cons.2
    ⟨fieldText_scansTo n (h (.name x) (by simp)) (Value.print_scansTo n v fun t ht => h t (by simp [ht])),
      Value.printFields_scansTo n fs fun t ht => h t (by simp [ht])⟩

end


lemma indentChars_ne_empty {s : String} (hs : s ≠ "") :
    String.ofList (s.toList.flatMap indentChar) ≠ "" := by
  obtain ⟨c, cs, hcs⟩ := List.exists_cons_of_ne_nil (toList_ne_nil hs)
  apply ne_empty_of_toList
  simp only [hcs, List.flatMap_cons, String.toList_ofList, indentChar]
  split <;> simp

lemma indentLines_ne_empty {s : String} (hs : s ≠ "") : indentLines s ≠ "" := by
  rw [indentLines, wrapNonEmpty_of_ne (indentChars_ne_empty hs)]
  simp

/-- Text indented by two blanks inside a block indented by `n` blanks stands indented by
`n + 2` blanks. -/
lemma indented_indentLines (n : Nat) {s : String} (hs : s ≠ "") :
    indented n (indentLines s) = [' ', ' '] ++ indented (n + 2) s := by
  rw [indentLines, wrapNonEmpty_of_ne (indentChars_ne_empty hs), indented, indented]
  simp [indentChar_eq_indentBy, indentBy_flatMap_indentBy, indentBy, Nat.add_comm]

lemma indented_lines (n : Nat) (items : List String) :
    indented n ("\n".intercalate items) =
      ('\n' :: List.replicate n ' ').intercalate (items.map (indented n)) := by
  rw [indented, String.toList_intercalate, flatMap_intercalate, List.map_map]
  simp [indentBy]
  rfl

/-- Pieces that scan back, one per line in a block indented by two more blanks, between a
punctuator that ends a line and one that starts a line. -/
lemma wrapLines_scansTo (n : Nat) (co cc : Char) {o c : String} {po pc : Punctuator}
    (ho : o.toList = [co, '\n']) (hpo : Punctuator.ofChar? co = some po)
    (hc : c.toList = ['\n', cc]) (hpc : Punctuator.ofChar? cc = some pc)
    {α : Type} {xs : List α} {P : α → String} {T : α → List Token} (hxs : xs ≠ [])
    (hne : ∀ x ∈ xs, P x ≠ "")
    (h : ∀ x ∈ xs, ScansTo (indented (n + 2) (P x)) (T x) Delimited) :
    ScansTo (indented n (wrapNonEmpty o (indentLines (joinNonEmpty "\n" (xs.map P))) c))
      (.punct po :: xs.flatMap T ++ [.punct pc]) Delimited := by
  obtain ⟨x, xs', rfl⟩ := List.exists_cons_of_ne_nil hxs
  have hj : "\n".intercalate ((x :: xs').map P) ≠ "" :=
    intercalate_cons_ne_empty _ (hne x (by simp)) _
  have hopen : indented n o = [co] ++ ('\n' :: List.replicate n ' ') := by
    simp [indented, ho, indentBy, ne_newline_of_ofChar hpo]
  have hclose : indented n c = ('\n' :: List.replicate n ' ') ++ [cc] := by
    simp [indented, hc, indentBy, ne_newline_of_ofChar hpc]
  have hsep : ∀ m, ∀ d ∈ '\n' :: List.replicate m ' ', isSeparator d = true := by
    intro m d hd
    simp only [List.mem_cons, List.mem_replicate] at hd
    rcases hd with rfl | ⟨-, rfl⟩ <;> rfl
  rw [joinNonEmpty_eq (by simpa using hne), wrapNonEmpty_of_ne (indentLines_ne_empty hj),
    indented_append, indented_append, indented_indentLines n hj, indented_lines, List.map_map,
    hopen, hclose]
  simp only [List.append_assoc]
  exact (punct_scansTo hpo (N := fun _ => True)).append
    ((skipped_scansTo (hsep n) (N := fun _ => True)).append
      ((skipped_scansTo (by simp [isSeparator] : ∀ c ∈ [' ', ' '], isSeparator c = true)
        (N := fun _ => True)).append
        ((ScansTo.intercalate (hsep (n + 2)) (by simp) h).append
          ((skipped_scansTo (hsep n) (N := fun _ => True)).append (punct_scansTo hpc)
            fun _ _ => trivial)
          fun r _ => Delimited.cons (by decide) _)
        fun _ _ => trivial) fun _ _ => trivial) fun _ _ => trivial

/-- Leaving out the empty texts leaves out no token when an empty text stands for none. -/
lemma flatMap_filter_nonEmpty {items : List (String × List Token)}
    (he : ∀ x ∈ items, x.1 = "" → x.2 = []) :
    (items.filter fun x => !x.1.isEmpty).flatMap Prod.snd = items.flatMap Prod.snd := by
  induction items with
  | nil => rfl
  | cons x xs ih =>
    have ih := ih fun y hy => he y (List.mem_cons_of_mem _ hy)
    by_cases hx : x.1 = ""
    · simp [hx, he x (by simp) hx, ih]
    · simp [hx, ih]

/-- Texts joined by blanks, the empty ones left out, scan to the tokens of all of them. -/
lemma joinNonEmpty_scansTo (n : Nat) (items : List (String × List Token))
    (h : ∀ x ∈ items, ScansTo (indented n x.1) x.2 Delimited) {texts : List String}
    {ts : List Token} (htexts : items.map Prod.fst = texts) (hts : items.flatMap Prod.snd = ts) :
    ScansTo (indented n (joinNonEmpty " " texts)) ts Delimited := by
  subst htexts hts
  have he : ∀ x ∈ items, x.1 = "" → x.2 = [] := fun x hx hx1 =>
    ScansTo.eq_nil (by simpa [hx1, indented] using h x hx)
  rw [joinNonEmpty, List.filter_map, indented_intercalate n (by simp), List.map_map,
    ← flatMap_filter_nonEmpty he]
  exact ScansTo.intercalate (by simp [isSeparator]) (by simp)
    fun x hx => h x (List.mem_filter.1 hx).1

/-- A text after a blank, or nothing when the text is empty. -/
lemma wrapBlank_scansTo (n : Nat) {s : String} {ts : List Token}
    (h : ScansTo (indented n s) ts Delimited) :
    ScansTo (indented n (wrapNonEmpty " " s "")) ts Delimited := by
  by_cases hs : s = ""
  · subst hs
    have hts : ts = [] := ScansTo.eq_nil (by simpa [indented] using h)
    subst hts
    exact ScansTo.nil
  · rw [wrapNonEmpty_of_ne hs, indented_append, indented_append]
    simpa [indented] using (separators_indented_scansTo n (s := " ") (by simp [isSeparator])
      (N := fun _ => True)).append h fun _ _ => trivial

/-- A text put between a delimiter and anything, or left out, is delimited. -/
lemma Delimited.indented_wrap (n : Nat) (co : Char) {o : String}
    (ho : o.toList.head? = some co) (hco : isDelimiter co = true) (s c : String) :
    Delimited (indented n (wrapNonEmpty o s c)) := by
  obtain ⟨os, hos⟩ := List.head?_eq_some_iff.1 ho
  unfold wrapNonEmpty
  split
  · exact Delimited.nil
  · simp only [indented, String.toList_append, hos, List.cons_append, List.flatMap_cons,
      indentBy]
    split
    · exact Delimited.cons (by decide) _
    · exact Delimited.cons hco _

lemma mem_argumentTokens {arguments : List (String × Value)} {t : Token}
    (ht : t ∈ Value.fieldTokens arguments) : t ∈ argumentTokens arguments := by
  rcases eq_or_ne arguments [] with rfl | hne
  · simp at ht
  · simp [argumentTokens, hne, ht]

/-- Arguments on the line of their field or directive, in parentheses and separated by
commas. -/
lemma arguments_scansTo (n : Nat) {arguments : List (String × Value)}
    (hl : ∀ t ∈ Value.fieldTokens arguments, t.Lexical) :
    ScansTo (indented n (wrapNonEmpty "(" (joinNonEmpty ", " (printArguments arguments)) ")"))
      ((argumentTokens arguments).map Token.reread) Delimited := by
  rcases eq_or_ne arguments [] with rfl | hne
  · simpa [printArguments, argumentTokens, wrapNonEmpty, joinNonEmpty, indented] using
      (ScansTo.nil : ScansTo [] [] Delimited)
  have hj : joinNonEmpty ", " (arguments.map fieldText) ≠ "" := by
    obtain ⟨f, fs, rfl⟩ := List.exists_cons_of_ne_nil hne
    exact joinNonEmpty_ne_empty _ (fieldText_ne_empty f) _
  rw [printArguments_eq, wrapNonEmpty_of_ne hj]
  simp only [argumentTokens, if_neg hne, List.map_cons, List.map_append, Value.fieldTokens_eq,
    List.map_flatMap, Token.reread_punct, List.map_nil]
  exact bracketed_scansTo n '(' ')' (by simp) rfl (by simp) rfl (fun g _ => fieldText_ne_empty g)
    (Value.printFields_scansTo n _ hl)

/-- Arguments one per line, when they do not fit on the line of their field. -/
lemma longArguments_scansTo (n : Nat) {arguments : List (String × Value)}
    (hl : ∀ t ∈ Value.fieldTokens arguments, t.Lexical) :
    ScansTo (indented n (wrapNonEmpty "(\n" (indentLines (joinNonEmpty "\n"
      (printArguments arguments))) "\n)")) ((argumentTokens arguments).map Token.reread)
      Delimited := by
  rcases eq_or_ne arguments [] with rfl | hne
  · simpa [printArguments, argumentTokens, wrapNonEmpty, joinNonEmpty, indentLines, indented] using
      (ScansTo.nil : ScansTo [] [] Delimited)
  rw [printArguments_eq]
  simp only [argumentTokens, if_neg hne, List.map_cons, List.map_append, Value.fieldTokens_eq,
    List.map_flatMap, Token.reread_punct, List.map_nil]
  exact wrapLines_scansTo n '(' ')' (by simp) rfl (by simp) rfl hne
    (fun f _ => fieldText_ne_empty f) (Value.printFields_scansTo (n + 2) _ hl)

/-- A well-formed directive scans back. -/
lemma Directive.print_scansTo (n : Nat) {d : Directive} (h : ∀ t ∈ d.tokens, t.Lexical) :
    ScansTo (indented n d.print) (d.tokens.map Token.reread) Delimited := by
  have hx : isNameText d.name.toList = true := h (.name d.name) (by simp [Directive.tokens])
  have hl : ∀ t ∈ Value.fieldTokens d.arguments, t.Lexical := fun t ht =>
    h t (by simp [Directive.tokens, mem_argumentTokens ht])
  rw [Directive.print, indented_append, indented_append, List.append_assoc]
  simp only [Directive.tokens, List.map_cons, Token.reread_punct, Token.reread_name]
  exact (punct_indented_scansTo n (c := '@') (by simp) rfl (N := fun _ => True)).append
    ((name_indented_scansTo n hx).append (arguments_scansTo n hl)
      fun r hr => (Delimited.indented_wrap n '(' (by simp) (by decide) _ _).append hr)
    fun _ _ => trivial

/-- Well-formed directives, separated by blanks, scan back. -/
lemma directives_scansTo (n : Nat) {ds : List Directive}
    (h : ∀ t ∈ directiveTokens ds, t.Lexical) :
    ScansTo (indented n (printDirectives ds)) ((directiveTokens ds).map Token.reread) Delimited := by
  have hne : ∀ s ∈ ds.map Directive.print, s ≠ "" := by
    simp only [List.mem_map]
    rintro _ ⟨d, -, rfl⟩
    exact ne_empty_of_toList (by simp [Directive.print])
  rw [printDirectives, joinNonEmpty_eq hne, indented_intercalate n (by simp), List.map_map]
  simp only [directiveTokens, List.map_flatMap]
  exact ScansTo.intercalate (by simp [isSeparator]) (by simp) fun d hd =>
    Directive.print_scansTo n fun t ht => h t (List.mem_flatMap.2 ⟨d, hd, ht⟩)

/-! ### Selections -/

lemma spread_indented_scansTo (n : Nat) {N : List Char → Prop} :
    ScansTo (indented n "...") [.punct .spread] N := by
  rw [indented_of_not_mem (by simp)]
  simpa using spread_scansTo

/-- The alias of a field as printed before its name. -/
def aliasText : Option String → String
  | some a => a ++ ": "
  | none => ""

/-- The line of a field: its alias and name, and its arguments on the same line unless that
line grows longer than `maxLineLength`, one per line otherwise. -/
def fieldLine (a : Option String) (x : String) (arguments : List (String × Value)) : String :=
  let head := aliasText a ++ x
  let line := head ++ wrapNonEmpty "(" (joinNonEmpty ", " (printArguments arguments)) ")"
  if line.length > maxLineLength then
    head ++ wrapNonEmpty "(\n" (indentLines (joinNonEmpty "\n" (printArguments arguments))) "\n)"
  else line

/-- The selection set of a field as printed, if it has one. -/
def setText : Option (List Selection) → String
  | some sels => block (Selection.printList sels)
  | none => ""

lemma Selection.print_field (a : Option String) (x : String) (arguments : List (String × Value))
    (ds : List Directive) (sels : Option (List Selection)) :
    (Selection.field a x arguments ds sels).print =
      joinNonEmpty " " [fieldLine a x arguments, printDirectives ds, setText sels] := by
  cases a <;> cases sels <;> rfl

lemma Selection.print_fragmentSpread (x : String) (ds : List Directive) :
    (Selection.fragmentSpread x ds).print = "..." ++ x ++ wrapNonEmpty " " (printDirectives ds) "" :=
  rfl

lemma Selection.print_inlineFragment (tc : Option String) (ds : List Directive)
    (sels : List Selection) :
    (Selection.inlineFragment tc ds sels).print = joinNonEmpty " " ["...",
      wrapNonEmpty "on " (tc.getD "") "", printDirectives ds, block (Selection.printList sels)] :=
  rfl

lemma Selection.printList_eq (ss : List Selection) : Selection.printList ss = ss.map Selection.print := by
  induction ss with
  | nil => rfl
  | cons s ss ih => simp [Selection.printList, ih]

lemma Selection.tokens_ne_nil (s : Selection) : s.tokens ≠ [] := by
  rcases s with ⟨a, x, arguments, ds, sels⟩ | ⟨x, ds⟩ | ⟨tc, ds, sels⟩
  · simp [Selection.tokens_field]
  · simp [Selection.tokens]
  · simp [Selection.tokens]

/-- The line of a well-formed field scans back, whether its arguments fit on it or not. -/
lemma fieldLine_scansTo (n : Nat) {a : Option String} {x : String}
    {arguments : List (String × Value)} (ha : ∀ y ∈ a, isNameText y.toList = true)
    (hx : isNameText x.toList = true) (hl : ∀ t ∈ Value.fieldTokens arguments, t.Lexical) :
    ScansTo (indented n (fieldLine a x arguments))
      ((aliasTokens a ++ .name x :: argumentTokens arguments).map Token.reread) Delimited := by
  have hhead : ∀ {args : String},
      ScansTo (indented n args) ((argumentTokens arguments).map Token.reread) Delimited →
      Delimited (indented n args) →
      ScansTo (indented n (aliasText a ++ x ++ args))
        ((aliasTokens a ++ .name x :: argumentTokens arguments).map Token.reread) Delimited := by
    intro args h hd
    have hname : ScansTo (indented n (x ++ args))
        (.name x :: (argumentTokens arguments).map Token.reread) Delimited := by
      rw [indented_append]
      exact (name_indented_scansTo n hx).append h fun r hr => hd.append hr
    cases a with
    | none => simpa [aliasText, aliasTokens, indented] using hname
    | some y =>
      rw [aliasText, String.append_assoc]
      simpa [aliasTokens] using labelled_scansTo n (ha y rfl) hname
  simp only [fieldLine]
  split
  · exact hhead (longArguments_scansTo n hl)
      (Delimited.indented_wrap n '(' (by simp) (by decide) _ _)
  · exact hhead (arguments_scansTo n hl)
      (Delimited.indented_wrap n '(' (by simp) (by decide) _ _)

/-- A selection set of selections that scan back one per line scans back. -/
lemma set_scansTo (n : Nat) {sels : List Selection} (hne : sels ≠ [])
    (h : ∀ s ∈ sels, ScansTo (indented (n + 2) s.print) (s.tokens.map Token.reread) Delimited) :
    ScansTo (indented n (block (Selection.printList sels)))
      ((fieldSetTokens (some sels)).map Token.reread) Delimited := by
  have hprint : ∀ s ∈ sels, s.print ≠ "" := fun s hs =>
    ScansTo.ne_empty (h s hs) (by simpa using Selection.tokens_ne_nil s)
  rw [block, Selection.printList_eq]
  simp only [fieldSetTokens, Selection.listTokens_eq, List.map_cons, List.map_append,
    List.map_flatMap, Token.reread_punct, List.map_nil]
  exact wrapLines_scansTo n '\x7b' '\x7d' (by simp) rfl (by simp) rfl hne hprint h

/-- A well-formed field scans back when its selection set does. -/
lemma Selection.field_scansTo (n : Nat) {a : Option String} {x : String}
    {arguments : List (String × Value)} {ds : List Directive} {sels : Option (List Selection)}
    (hl : ∀ t ∈ (Selection.field a x arguments ds sels).tokens, t.Lexical)
    (hset : ScansTo (indented n (setText sels)) ((fieldSetTokens sels).map Token.reread)
      Delimited) :
    ScansTo (indented n (Selection.field a x arguments ds sels).print)
      ((Selection.field a x arguments ds sels).tokens.map Token.reread) Delimited := by
  rw [Selection.tokens_field] at hl ⊢
  have ha : ∀ y ∈ a, isNameText y.toList = true := fun y hy =>
    hl (.name y) (by cases hy; simp [aliasTokens])
  have hline : ScansTo (indented n (fieldLine a x arguments))
      ((aliasTokens a ++ .name x :: argumentTokens arguments).map Token.reread) Delimited :=
    fieldLine_scansTo n ha (hl (.name x) (by simp))
      fun t ht => hl t (by simp [mem_argumentTokens ht])
  have hdirs : ScansTo (indented n (printDirectives ds)) ((directiveTokens ds).map Token.reread)
      Delimited := directives_scansTo n fun t ht => hl t (by simp [ht])
  rw [Selection.print_field]
  exact joinNonEmpty_scansTo n [(fieldLine a x arguments, _), (printDirectives ds, _),
    (setText sels, _)] (by simpa using ⟨hline, hdirs, hset⟩) rfl (by simp)

/-- A well-formed fragment spread scans back. -/
lemma Selection.fragmentSpread_scansTo (n : Nat) {x : String} {ds : List Directive}
    (hl : ∀ t ∈ (Selection.fragmentSpread x ds).tokens, t.Lexical) :
    ScansTo (indented n (Selection.fragmentSpread x ds).print)
      ((Selection.fragmentSpread x ds).tokens.map Token.reread) Delimited := by
  have hx : isNameText x.toList = true := hl (.name x) (by simp [Selection.tokens])
  have hdirs : ScansTo (indented n (printDirectives ds)) ((directiveTokens ds).map Token.reread)
      Delimited := directives_scansTo n fun t ht => hl t (by simp [Selection.tokens, ht])
  rw [Selection.print_fragmentSpread, indented_append, indented_append, List.append_assoc]
  simp only [Selection.tokens, List.map_cons, Token.reread_punct, Token.reread_name]
  exact (spread_indented_scansTo n (N := fun _ => True)).append
    ((name_indented_scansTo n hx).append (wrapBlank_scansTo n hdirs)
      fun r hr => (Delimited.indented_wrap n ' ' (by simp) (by decide) _ _).append hr)
    fun _ _ => trivial

/-- A well-formed inline fragment scans back when its selection set does. -/
lemma Selection.inlineFragment_scansTo (n : Nat) {tc : Option String} {ds : List Directive}
    {sels : List Selection}
    (hl : ∀ t ∈ (Selection.inlineFragment tc ds sels).tokens, t.Lexical)
    (hset : ScansTo (indented n (block (Selection.printList sels)))
      ((fieldSetTokens (some sels)).map Token.reread) Delimited) :
    ScansTo (indented n (Selection.inlineFragment tc ds sels).print)
      ((Selection.inlineFragment tc ds sels).tokens.map Token.reread) Delimited := by
  have hdirs : ScansTo (indented n (printDirectives ds)) ((directiveTokens ds).map Token.reread)
      Delimited := directives_scansTo n fun t ht => hl t (by simp [Selection.tokens, ht])
  have hcond : ScansTo (indented n (wrapNonEmpty "on " (tc.getD "") ""))
      ((conditionTokens tc).map Token.reread) Delimited := by
    cases tc with
    | none => simpa [wrapNonEmpty, conditionTokens, indented] using (ScansTo.nil : ScansTo [] [] Delimited)
    | some t =>
      have ht : isNameText t.toList = true := hl (.name t) (by simp [Selection.tokens, conditionTokens])
      have hne : t ≠ "" := fun h => by simp [h, isNameText] at ht
      have hon : isNameText "on".toList = true := by simp [isNameText]; decide
      rw [Option.getD_some, wrapNonEmpty_of_ne hne, show ("on " : String) = "on" ++ " " from rfl]
      simp only [indented_append, conditionTokens, List.map_cons, Token.reread_name, List.map_nil,
        show indented n "" = [] from rfl, List.append_nil, List.append_assoc]
      exact (name_indented_scansTo n hon).append
        ((separators_indented_scansTo n (by simp [isSeparator]) (N := fun _ => True)).append
          (name_indented_scansTo n ht) fun _ _ => trivial) fun r _ => Delimited.cons (c := ' ') rfl _
  rw [Selection.print_inlineFragment]
  exact joinNonEmpty_scansTo n [("...", [.punct .spread]),
    (wrapNonEmpty "on " (tc.getD "") "", (conditionTokens tc).map Token.reread),
    (printDirectives ds, (directiveTokens ds).map Token.reread),
    (block (Selection.printList sels), (fieldSetTokens (some sels)).map Token.reread)]
    (by simpa using ⟨spread_indented_scansTo n, hcond, hdirs, hset⟩) (by simp)
    (by simp [Selection.tokens, fieldSetTokens])


mutual

/-- A readable, well-formed selection, printed inside a block indented by `n` blanks, scans to
its tokens, each block string re-read. -/
lemma Selection.print_scansTo (n : Nat) : ∀ s : Selection, s.Readable →
    (∀ t ∈ s.tokens, t.Lexical) → ScansTo (indented n s.print) (s.tokens.map Token.reread) Delimited
  | .field a x arguments ds none, _, hl =>
    Selection.field_scansTo n hl (by simpa [setText, fieldSetTokens, indented] using ScansTo.nil)
  | .field a x arguments ds (some sels), hr, hl =>
    Selection.field_scansTo n hl (set_scansTo n hr.2.2.1 (Selection.printList_scansTo (n + 2) sels
      hr.2.2.2 fun t ht => hl t (by simp [Selection.tokens, ht])))
  | .fragmentSpread x ds, _, hl => Selection.fragmentSpread_scansTo n hl
  | .inlineFragment tc ds sels, hr, hl =>
    Selection.inlineFragment_scansTo n hl (set_scansTo n hr.2.1 (Selection.printList_scansTo (n + 2)
      sels hr.2.2 fun t ht => hl t (by simp [Selection.tokens, ht])))

/-- Each selection of a readable, well-formed list scans back. -/
lemma Selection.printList_scansTo (n : Nat) : ∀ ss : List Selection, Selection.ListReadable ss →
    (∀ t ∈ Selection.listTokens ss, t.Lexical) →
    ∀ s ∈ ss, ScansTo (indented n s.print) (s.tokens.map Token.reread) Delimited
  | [], _, _ => by simp
  | s :: ss, hr, hl => List.forall_mem_cons.2
    ⟨Selection.print_scansTo n s hr.1 fun t ht => hl t (by simp [ht]),
      Selection.printList_scansTo n ss hr.2 fun t ht => hl t (by simp [ht])⟩

end

end Federation.Syntax

namespace Federation

open Syntax Lexer

/-- A printed field set of readable, well-formed selections scans to their tokens, each block
string re-read. -/
lemma FieldSet.print_scansTo {sels : List Selection} (hr : Selection.ListReadable sels)
    (hl : ∀ t ∈ Selection.listTokens sels, t.Lexical) :
    ScansTo (FieldSet.print sels).toList ((Selection.listTokens sels).map Token.reread) Delimited := by
  have h := Selection.printList_scansTo 0 sels hr hl
  rw [FieldSet.print, String.toList_intercalate, List.map_map, Selection.listTokens_eq,
    List.map_flatMap]
  exact ScansTo.intercalate (by simp [isSeparator]) (by simp) fun s hs => by
    simpa [indented] using h s hs

/-- The wrapped text of a printed field set scans to `query`, a brace, the selections' tokens with
each block string re-read, a brace and the end of input. -/
lemma FieldSet.source_print_tokens {sels : List Selection} (hr : Selection.ListReadable sels)
    (hl : ∀ t ∈ Selection.listTokens sels, t.Lexical) :
    (scan (FieldSet.source (FieldSet.print sels)).toList).tokens =
      .name "query" :: .punct .braceL ::
        ((Selection.listTokens sels).map Token.reread ++ [.punct .braceR, .eof]) := by
  have hquery : isNameText "query".toList = true := by simp [isNameText]; decide
  have hsp : ∀ N : List Char → Prop, ScansTo [' '] [] N := fun _ =>
    skipped_scansTo (by simp [isSeparator])
  have hclose := (hsp fun _ => True).append (punct_scansTo (c := '\x7d') rfl (N := fun _ => True))
    fun _ _ => trivial
  have hbody := (FieldSet.print_scansTo hr hl).append hclose fun _ _ => Delimited.cons (c := ' ') rfl _
  have h := (name_scansTo' hquery).append ((hsp fun _ => True).append
    ((punct_scansTo (c := '\x7b') rfl (N := fun _ => True)).append
      ((hsp fun _ => True).append hbody fun _ _ => trivial) fun _ _ => trivial) fun _ _ => trivial)
    fun _ _ => Delimited.cons (c := ' ') rfl _
  rw [FieldSet.source]
  simpa using h.scan_tokens trivial

end Federation
