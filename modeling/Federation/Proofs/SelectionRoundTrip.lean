import Mathlib
import Federation.Proofs.SelectionPrinting
import Federation.Proofs.FieldSetReading
import Federation.Proofs.MetadataEntries

/-!
# Printing and reading field sets

What a field set reads as is a non-empty list of readable selections, all of whose tokens are
well formed (`FieldSet.parse_ok_tokens`, `FieldSet.lexical_of_parse_ok`), so its printed text
scans back to its tokens (`FieldSet.source_print_tokens`) and is read back
(`FieldSet.parse_print`): as the same selections up to where their directives stood, with the
value of each block string re-read, unless the stack runs out first. The re-read selections are
the tree with its block strings mapped by `rereadBlock` (`Selection.listMapBlocks`), and they are
the selections themselves exactly when the printer keeps the indentation of each block string
(`rereadBlock_eq_self_iff`, `Selection.listUnsited_listMapBlocks_eq_iff`).

It does not keep it for a value that starts with a blank or a tab, holds no line feed, and which
the printer's line splitting, at every line boundary, cuts into several lines: the printer then
opens the string with a line break, and the reader, which breaks lines only at line feeds and
carriage returns, takes the leading blanks for indentation and drops them
(`fieldSet_reprint_drops_indentation`). `FieldSet.print_parse_round_trip` collects the round trip
of every field set read, and of the keys and the required and provided field sets that the
metadata of a composition records.
-/

namespace Federation.Syntax

/-! ### Changing the block strings of a syntax tree -/

mutual

/-- A value with the value of each block string in it changed by `f`. -/
def Value.mapBlocks (f : String → String) : Value → Value
  | .variable x => .variable x
  | .int t => .int t
  | .float t => .float t
  | .string s b => .string (if b then f s else s) b
  | .boolean b => .boolean b
  | .null => .null
  | .enum x => .enum x
  | .list items => .list (Value.mapItems f items)
  | .object fields => .object (Value.mapFields f fields)

/-- The items of a list value, each with its block strings changed by `f`. -/
def Value.mapItems (f : String → String) : List Value → List Value
  | [] => []
  | v :: vs => v.mapBlocks f :: Value.mapItems f vs

/-- Named values, each with its block strings changed by `f`. -/
def Value.mapFields (f : String → String) : List (String × Value) → List (String × Value)
  | [] => []
  | (x, v) :: fs => (x, v.mapBlocks f) :: Value.mapFields f fs

end

/-- A directive with the block strings of its arguments changed by `f`. -/
def Directive.mapBlocks (f : String → String) (d : Directive) : Directive :=
  { d with arguments := Value.mapFields f d.arguments }

mutual

/-- A selection with the block strings of its arguments and directives changed by `f`, in its
selection set too. -/
def Selection.mapBlocks (f : String → String) : Selection → Selection
  | .field a x arguments ds none =>
    .field a x (Value.mapFields f arguments) (ds.map (Directive.mapBlocks f)) none
  | .field a x arguments ds (some sels) =>
    .field a x (Value.mapFields f arguments) (ds.map (Directive.mapBlocks f))
      (some (Selection.listMapBlocks f sels))
  | .fragmentSpread x ds => .fragmentSpread x (ds.map (Directive.mapBlocks f))
  | .inlineFragment tc ds sels =>
    .inlineFragment tc (ds.map (Directive.mapBlocks f)) (Selection.listMapBlocks f sels)

/-- Selections, each with its block strings changed by `f`. -/
def Selection.listMapBlocks (f : String → String) : List Selection → List Selection
  | [] => []
  | s :: ss => s.mapBlocks f :: Selection.listMapBlocks f ss

end

variable {f : String → String}

mutual

/-- Changing the block strings of a value changes those of its tokens. -/
lemma Value.tokens_mapBlocks (f : String → String) : ∀ v : Value,
    (v.mapBlocks f).tokens = v.tokens.map (Token.mapBlock f)
  | .variable _ | .int _ | .float _ | .boolean _ | .null | .enum _ => rfl
  | .string s b => by cases b <;> rfl
  | .list items => by
    simp [Value.mapBlocks, Value.tokens, Value.itemTokens_mapItems f items, Token.mapBlock]
  | .object fields => by
    simp [Value.mapBlocks, Value.tokens, Value.fieldTokens_mapFields f fields, Token.mapBlock]

lemma Value.itemTokens_mapItems (f : String → String) : ∀ vs : List Value,
    Value.itemTokens (Value.mapItems f vs) = (Value.itemTokens vs).map (Token.mapBlock f)
  | [] => rfl
  | v :: vs => by
    simp [Value.mapItems, Value.tokens_mapBlocks f v, Value.itemTokens_mapItems f vs]

lemma Value.fieldTokens_mapFields (f : String → String) : ∀ fs : List (String × Value),
    Value.fieldTokens (Value.mapFields f fs) = (Value.fieldTokens fs).map (Token.mapBlock f)
  | [] => rfl
  | (x, v) :: fs => by
    simp [Value.mapFields, Value.tokens_mapBlocks f v, Value.fieldTokens_mapFields f fs,
      Token.mapBlock]

end

@[simp] lemma Value.mapFields_eq_nil {fs : List (String × Value)} :
    Value.mapFields f fs = [] ↔ fs = [] := by
  cases fs <;> simp [Value.mapFields]

@[simp] lemma Selection.listMapBlocks_eq_nil {ss : List Selection} :
    Selection.listMapBlocks f ss = [] ↔ ss = [] := by
  cases ss <;> simp [Selection.listMapBlocks]

lemma argumentTokens_mapFields (f : String → String) (arguments : List (String × Value)) :
    argumentTokens (Value.mapFields f arguments) = (argumentTokens arguments).map (Token.mapBlock f) := by
  by_cases h : arguments = []
  · simp [argumentTokens, h]
  · simp [argumentTokens, h, Value.fieldTokens_mapFields, Token.mapBlock]

lemma Directive.tokens_mapBlocks (f : String → String) (d : Directive) :
    (d.mapBlocks f).tokens = d.tokens.map (Token.mapBlock f) := by
  simp [Directive.tokens, Directive.mapBlocks, argumentTokens_mapFields, Token.mapBlock]

lemma directiveTokens_map_mapBlocks (f : String → String) (ds : List Directive) :
    directiveTokens (ds.map (Directive.mapBlocks f)) = (directiveTokens ds).map (Token.mapBlock f) := by
  simp [directiveTokens, List.flatMap_map, Directive.tokens_mapBlocks, List.map_flatMap]

@[simp] lemma aliasTokens_map_mapBlock (f : String → String) (a : Option String) :
    (aliasTokens a).map (Token.mapBlock f) = aliasTokens a := by
  cases a <;> rfl

@[simp] lemma conditionTokens_map_mapBlock (f : String → String) (tc : Option String) :
    (conditionTokens tc).map (Token.mapBlock f) = conditionTokens tc := by
  cases tc <;> rfl

mutual

/-- Changing the block strings of a selection changes those of its tokens. -/
lemma Selection.tokens_mapBlocks (f : String → String) : ∀ s : Selection,
    (s.mapBlocks f).tokens = s.tokens.map (Token.mapBlock f)
  | .field a x arguments ds none => by
    simp [Selection.mapBlocks, Selection.tokens, argumentTokens_mapFields,
      directiveTokens_map_mapBlocks, Token.mapBlock]
  | .field a x arguments ds (some sels) => by
    simp [Selection.mapBlocks, Selection.tokens, argumentTokens_mapFields,
      directiveTokens_map_mapBlocks, Token.mapBlock, Selection.listTokens_listMapBlocks f sels]
  | .fragmentSpread x ds => by
    simp [Selection.mapBlocks, Selection.tokens, directiveTokens_map_mapBlocks, Token.mapBlock]
  | .inlineFragment tc ds sels => by
    simp [Selection.mapBlocks, Selection.tokens, directiveTokens_map_mapBlocks, Token.mapBlock,
      Selection.listTokens_listMapBlocks f sels]

lemma Selection.listTokens_listMapBlocks (f : String → String) : ∀ ss : List Selection,
    Selection.listTokens (Selection.listMapBlocks f ss) =
      (Selection.listTokens ss).map (Token.mapBlock f)
  | [] => rfl
  | s :: ss => by
    simp [Selection.listMapBlocks, Selection.tokens_mapBlocks f s,
      Selection.listTokens_listMapBlocks f ss]

end

/-! ### What the change keeps -/

mutual

lemma Value.readable_mapBlocks (f : String → String) : ∀ v : Value, v.Readable →
    (v.mapBlocks f).Readable
  | .variable _, h | .int _, h | .float _, h | .string _ _, h | .boolean _, h | .null, h
  | .enum _, h => h
  | .list items, h => Value.itemsReadable_mapItems f items h
  | .object fields, h => Value.fieldsReadable_mapFields f fields h

lemma Value.itemsReadable_mapItems (f : String → String) : ∀ vs : List Value,
    Value.ItemsReadable vs → Value.ItemsReadable (Value.mapItems f vs)
  | [], h => h
  | v :: vs, h => ⟨Value.readable_mapBlocks f v h.1, Value.itemsReadable_mapItems f vs h.2⟩

lemma Value.fieldsReadable_mapFields (f : String → String) : ∀ fs : List (String × Value),
    Value.FieldsReadable fs → Value.FieldsReadable (Value.mapFields f fs)
  | [], h => h
  | (_, v) :: fs, h => ⟨Value.readable_mapBlocks f v h.1, Value.fieldsReadable_mapFields f fs h.2⟩

end

lemma Directive.readable_map_mapBlocks {ds : List Directive} (h : ∀ d ∈ ds, d.Readable) :
    ∀ d ∈ ds.map (Directive.mapBlocks f), d.Readable := by
  simp only [List.mem_map]
  rintro _ ⟨d, hd, rfl⟩
  exact Value.fieldsReadable_mapFields f _ (h d hd)

mutual

/-- Changing block strings keeps a selection readable. -/
lemma Selection.readable_mapBlocks (f : String → String) : ∀ s : Selection, s.Readable →
    (s.mapBlocks f).Readable
  | .field _ _ arguments _ none, h =>
    ⟨Value.fieldsReadable_mapFields f arguments h.1, Directive.readable_map_mapBlocks h.2⟩
  | .field _ _ arguments _ (some sels), h =>
    ⟨Value.fieldsReadable_mapFields f arguments h.1, Directive.readable_map_mapBlocks h.2.1,
      by simpa using h.2.2.1, Selection.listReadable_listMapBlocks f sels h.2.2.2⟩
  | .fragmentSpread _ _, h => ⟨h.1, Directive.readable_map_mapBlocks h.2⟩
  | .inlineFragment _ _ sels, h =>
    ⟨Directive.readable_map_mapBlocks h.1, by simpa using h.2.1,
      Selection.listReadable_listMapBlocks f sels h.2.2⟩

lemma Selection.listReadable_listMapBlocks (f : String → String) : ∀ ss : List Selection,
    Selection.ListReadable ss → Selection.ListReadable (Selection.listMapBlocks f ss)
  | [], h => h
  | s :: ss, h =>
    ⟨Selection.readable_mapBlocks f s h.1, Selection.listReadable_listMapBlocks f ss h.2⟩

end

/-! ### Trees the change leaves alone -/

mutual

lemma Value.mapBlocks_eq_self : ∀ v : Value, (∀ w, Token.blockString w ∈ v.tokens → f w = w) →
    v.mapBlocks f = v
  | .variable _, _ | .int _, _ | .float _, _ | .boolean _, _ | .null, _ | .enum _, _ => rfl
  | .string s b, h => by
    cases b
    · rfl
    · simp [Value.mapBlocks, h s (by simp [Value.tokens])]
  | .list items, h => by
    rw [Value.mapBlocks, Value.mapItems_eq_self items fun w hw => h w (by simp [Value.tokens, hw])]
  | .object fields, h => by
    rw [Value.mapBlocks,
      Value.mapFields_eq_self fields fun w hw => h w (by simp [Value.tokens, hw])]

lemma Value.mapItems_eq_self : ∀ vs : List Value,
    (∀ w, Token.blockString w ∈ Value.itemTokens vs → f w = w) → Value.mapItems f vs = vs
  | [], _ => rfl
  | v :: vs, h => by
    rw [Value.mapItems, Value.mapBlocks_eq_self v fun w hw => h w (by simp [hw]),
      Value.mapItems_eq_self vs fun w hw => h w (by simp [hw])]

lemma Value.mapFields_eq_self : ∀ fs : List (String × Value),
    (∀ w, Token.blockString w ∈ Value.fieldTokens fs → f w = w) → Value.mapFields f fs = fs
  | [], _ => rfl
  | (x, v) :: fs, h => by
    rw [Value.mapFields, Value.mapBlocks_eq_self v fun w hw => h w (by simp [hw]),
      Value.mapFields_eq_self fs fun w hw => h w (by simp [hw])]

end

lemma Directive.map_mapBlocks_eq_self {ds : List Directive}
    (h : ∀ w, Token.blockString w ∈ directiveTokens ds → f w = w) :
    ds.map (Directive.mapBlocks f) = ds := by
  refine (List.map_congr_left fun d hd => ?_).trans (List.map_id ds)
  have hargs := Value.mapFields_eq_self d.arguments fun w hw =>
    h w (List.mem_flatMap.2 ⟨d, hd, by simp [Directive.tokens, mem_argumentTokens hw]⟩)
  simp [Directive.mapBlocks, hargs]

mutual

lemma Selection.mapBlocks_eq_self : ∀ s : Selection,
    (∀ w, Token.blockString w ∈ s.tokens → f w = w) → s.mapBlocks f = s
  | .field a x arguments ds none, h => by
    rw [Selection.mapBlocks,
      Value.mapFields_eq_self arguments fun w hw =>
        h w (by simp [Selection.tokens, mem_argumentTokens hw]),
      Directive.map_mapBlocks_eq_self fun w hw => h w (by simp [Selection.tokens, hw])]
  | .field a x arguments ds (some sels), h => by
    rw [Selection.mapBlocks,
      Value.mapFields_eq_self arguments fun w hw =>
        h w (by simp [Selection.tokens, mem_argumentTokens hw]),
      Directive.map_mapBlocks_eq_self fun w hw => h w (by simp [Selection.tokens, hw]),
      Selection.listMapBlocks_eq_self sels fun w hw => h w (by simp [Selection.tokens, hw])]
  | .fragmentSpread x ds, h => by
    rw [Selection.mapBlocks,
      Directive.map_mapBlocks_eq_self fun w hw => h w (by simp [Selection.tokens, hw])]
  | .inlineFragment tc ds sels, h => by
    rw [Selection.mapBlocks,
      Directive.map_mapBlocks_eq_self fun w hw => h w (by simp [Selection.tokens, hw]),
      Selection.listMapBlocks_eq_self sels fun w hw => h w (by simp [Selection.tokens, hw])]

lemma Selection.listMapBlocks_eq_self : ∀ ss : List Selection,
    (∀ w, Token.blockString w ∈ Selection.listTokens ss → f w = w) →
    Selection.listMapBlocks f ss = ss
  | [], _ => rfl
  | s :: ss, h => by
    rw [Selection.listMapBlocks, Selection.mapBlocks_eq_self s fun w hw => h w (by simp [hw]),
      Selection.listMapBlocks_eq_self ss fun w hw => h w (by simp [hw])]

end

/-- Changing block strings leaves selections as they are exactly when it leaves each of their
block strings as it is. -/
lemma Selection.listMapBlocks_eq_self_iff {ss : List Selection} :
    Selection.listMapBlocks f ss = ss ↔
      ∀ w, Token.blockString w ∈ Selection.listTokens ss → f w = w := by
  refine ⟨fun h w hw => ?_, Selection.listMapBlocks_eq_self ss⟩
  have htokens := congrArg Selection.listTokens h
  rw [Selection.listTokens_listMapBlocks] at htokens
  have := List.map_eq_map_iff.1 (htokens.trans (List.map_id _).symm) _ hw
  simpa [Token.mapBlock] using this

/-- Re-reading leaves a block string as it is exactly when printing keeps its indentation. -/
lemma rereadBlock_eq_self_iff (v : String) : rereadBlock v = v ↔ keepsIndentation v = true := by
  unfold rereadBlock
  by_cases hk : keepsIndentation v = true
  · simp [hk]
  · simp only [hk, if_false, Bool.false_eq_true, iff_false]
    intro heq
    have hs : startsIndented v.toList = true := by
      by_contra hs
      exact hk (by simp [keepsIndentation, hs])
    obtain ⟨c, cs, hv⟩ : ∃ c cs, v.toList = c :: cs := by
      cases h : v.toList with
      | nil => simp [h, startsIndented] at hs
      | cons c cs => exact ⟨c, cs, rfl⟩
    have hc : (c == ' ' || c == '\t') = true := by simpa [startsIndented, hv] using hs
    have hpos : 0 < Lexer.indentOf v.toList := by simp [Lexer.indentOf, hv, hc]
    have hlen := congrArg (fun t => t.toList.length) heq
    simp only [String.toList_ofList, List.length_drop] at hlen
    rw [hv] at hlen hpos
    simp at hlen
    omega

/-! ### Printing forgets where directives stood -/

lemma printDirectives_map_unsited (ds : List Directive) :
    printDirectives (ds.map Directive.unsited) = printDirectives ds := by
  simp only [printDirectives, List.map_map]
  rfl

mutual

lemma Selection.print_unsited : ∀ s : Selection, s.unsited.print = s.print
  | .field a x arguments ds none => by
    simp only [Selection.unsited, Selection.print_field, printDirectives_map_unsited]
  | .field a x arguments ds (some sels) => by
    simp only [Selection.unsited, Selection.print_field, printDirectives_map_unsited, setText,
      Selection.printList_listUnsited sels]
  | .fragmentSpread x ds => by
    simp only [Selection.unsited, Selection.print_fragmentSpread, printDirectives_map_unsited]
  | .inlineFragment tc ds sels => by
    simp only [Selection.unsited, Selection.print_inlineFragment, printDirectives_map_unsited,
      Selection.printList_listUnsited sels]

lemma Selection.printList_listUnsited : ∀ ss : List Selection,
    Selection.printList (Selection.listUnsited ss) = Selection.printList ss
  | [] => rfl
  | s :: ss => by
    simp only [Selection.listUnsited_cons, Selection.printList, Selection.print_unsited s,
      Selection.printList_listUnsited ss]

end

/-! ### Forgetting where directives stood, and block strings -/

@[simp] lemma directiveTokens_map_unsited (ds : List Directive) :
    directiveTokens (ds.map Directive.unsited) = directiveTokens ds := by
  simp [directiveTokens, List.flatMap_map]

mutual

@[simp] lemma Selection.tokens_unsited : ∀ s : Selection, s.unsited.tokens = s.tokens
  | .field a x arguments ds none => by simp [Selection.unsited, Selection.tokens]
  | .field a x arguments ds (some sels) => by
    simp [Selection.unsited, Selection.tokens, Selection.listTokens_listUnsited sels]
  | .fragmentSpread x ds => by simp [Selection.unsited, Selection.tokens]
  | .inlineFragment tc ds sels => by
    simp [Selection.unsited, Selection.tokens, Selection.listTokens_listUnsited sels]

@[simp] lemma Selection.listTokens_listUnsited : ∀ ss : List Selection,
    Selection.listTokens (Selection.listUnsited ss) = Selection.listTokens ss
  | [] => rfl
  | s :: ss => by simp [Selection.tokens_unsited s, Selection.listTokens_listUnsited ss]

end

lemma Directive.map_unsited_mapBlocks (ds : List Directive) :
    (ds.map (Directive.mapBlocks f)).map Directive.unsited =
      (ds.map Directive.unsited).map (Directive.mapBlocks f) := by
  simp only [List.map_map]
  rfl

mutual

lemma Selection.unsited_mapBlocks : ∀ s : Selection,
    (s.mapBlocks f).unsited = s.unsited.mapBlocks f
  | .field a x arguments ds none => by
    simp only [Selection.mapBlocks, Selection.unsited, Directive.map_unsited_mapBlocks]
  | .field a x arguments ds (some sels) => by
    simp only [Selection.mapBlocks, Selection.unsited, Directive.map_unsited_mapBlocks,
      Selection.listUnsited_listMapBlocks sels]
  | .fragmentSpread x ds => by
    simp only [Selection.mapBlocks, Selection.unsited, Directive.map_unsited_mapBlocks]
  | .inlineFragment tc ds sels => by
    simp only [Selection.mapBlocks, Selection.unsited, Directive.map_unsited_mapBlocks,
      Selection.listUnsited_listMapBlocks sels]

lemma Selection.listUnsited_listMapBlocks : ∀ ss : List Selection,
    Selection.listUnsited (Selection.listMapBlocks f ss) =
      Selection.listMapBlocks f (Selection.listUnsited ss)
  | [] => rfl
  | s :: ss => by
    simp only [Selection.listMapBlocks, Selection.listUnsited_cons, Selection.unsited_mapBlocks s,
      Selection.listUnsited_listMapBlocks ss]

end

/-- Up to where directives stood, changing block strings leaves selections as they are exactly
when it leaves each of their block strings as it is. -/
lemma Selection.listUnsited_listMapBlocks_eq_iff {ss : List Selection} :
    Selection.listUnsited (Selection.listMapBlocks f ss) = Selection.listUnsited ss ↔
      ∀ w, Token.blockString w ∈ Selection.listTokens ss → f w = w := by
  rw [Selection.listUnsited_listMapBlocks, Selection.listMapBlocks_eq_self_iff,
    Selection.listTokens_listUnsited]

end Federation.Syntax

namespace Federation

open Syntax Parser Lexer

/-! ### What a field set reads as -/

/-- The wrapped text of any field set scans first to `query` and a brace. -/
lemma FieldSet.source_tokens (s : String) :
    ∃ R, (scan (FieldSet.source s).toList).tokens = .name "query" :: .punct .braceL :: R := by
  have hquery : isNameText "query".toList = true := by simp [isNameText]; decide
  have h := (name_scansTo' hquery).append
    ((skipped_scansTo (by simp [isSeparator] : ∀ c ∈ [' '], isSeparator c = true)
      (N := fun _ => True)).append (punct_scansTo (c := '\x7b') rfl (N := fun _ => True))
      fun _ _ => trivial) fun _ _ => Delimited.cons (c := ' ') rfl _
  obtain ⟨fuel, pos, skipped, -, e⟩ :=
    h.scan_tokens_prefix (b := (" " ++ s ++ " \x7d").toList) trivial
  exact ⟨_, by rw [FieldSet.source]; simpa using e⟩

/-- What a field set reads as: a non-empty list of readable selections, whose tokens follow
`query` and a brace in its wrapped text, up to a closing brace. -/
lemma FieldSet.parse_ok_tokens {s : String} {height : Nat} {sels : List Selection}
    (h : FieldSet.parse s height = .ok sels) :
    sels ≠ [] ∧ Selection.ListReadable sels ∧ ∃ r,
      (scan (FieldSet.source s).toList).tokens =
        .name "query" :: .punct .braceL :: (Selection.listTokens sels ++ .punct .braceR :: r) := by
  obtain ⟨R, hscan⟩ := FieldSet.source_tokens s
  have hdoc : ∀ (c : Cursor) fuel, c.tokens = .name "query" :: .punct .braceL :: R →
      R.length < fuel → Holds (fun _ => True) c (parseDocument fuel) fun doc _ =>
        ∃ ss, doc.definitions.head? = some (.operation .query none [] [] ss) ∧
          ∃ r, R = Selection.listTokens ss ++ .punct .braceR :: r ∧ ss ≠ [] ∧
            Selection.ListReadable ss := by
    intro c fuel hc hlen
    -- the selection set is read off the tokens after `query`, up to its closing brace
    have hsel : ∀ c₁ : Cursor, c₁.tokens = .punct .braceL :: R →
        Holds (fun _ => True) c₁ (parseSelectionSet fuel) fun ss r =>
          R = Selection.listTokens ss ++ .punct .braceR :: r ∧ ss ≠ [] ∧
            Selection.ListReadable ss := by
      intro c₁ e₁
      refine (Holds.of_consumes (parseSelection_consumes fuel).1).mono fun ss r hq => ?_
      obtain ⟨us, hus, hus', hread⟩ := hq
      rw [e₁, hus'] at hus
      exact ⟨by simpa using hus, hread⟩
    refine (parseDocument_holds True.intro (by omega) hc hsel fun _ _ _ => Holds.trivial).mono
      fun doc _ hq => ?_
    obtain ⟨ss, r, hhead, hq⟩ := hq
    exact ⟨ss, hhead, r, hq⟩
  rcases FieldSet.parse_holds height hscan hdoc with ⟨e, he, -⟩ | ⟨ss, hss, r, hr, hne, hread⟩
  · rw [h] at he
    cases he
  · rw [h] at hss
    cases hss
    exact ⟨hne, hread, r, by rw [hscan, hr]⟩

/-- Every token of what a field set reads as is well formed. -/
lemma FieldSet.lexical_of_parse_ok {s : String} {height : Nat} {sels : List Selection}
    (h : FieldSet.parse s height = .ok sels) : ∀ t ∈ Selection.listTokens sels, t.Lexical := by
  obtain ⟨-, -, r, hscan⟩ := FieldSet.parse_ok_tokens h
  intro t ht
  exact scan_lexical _ t (by rw [hscan]; simp [ht])

/-- A printed field set of readable, well-formed selections reads back as those selections with
each block string re-read, up to where their directives stood, unless the stack runs out. -/
lemma FieldSet.parse_print {sels : List Selection} (hne : sels ≠ [])
    (hr : Selection.ListReadable sels) (hl : ∀ t ∈ Selection.listTokens sels, t.Lexical)
    (height : Nat) :
    FieldSet.parse (FieldSet.print sels) height = .error (.fault .tooDeep) ∨
      ∃ sels', FieldSet.parse (FieldSet.print sels) height = .ok sels' ∧
        Selection.listUnsited sels' =
          Selection.listUnsited (Selection.listMapBlocks rereadBlock sels) := by
  set ss := Selection.listMapBlocks rereadBlock sels with hss
  have hscan : (scan (FieldSet.source (FieldSet.print sels)).toList).tokens =
      .name "query" :: .punct .braceL :: (Selection.listTokens ss ++ [.punct .braceR, .eof]) := by
    rw [FieldSet.source_print_tokens hr hl, hss, Selection.listTokens_listMapBlocks]
  have hne' : ss ≠ [] := by simpa [hss] using hne
  have hread : Selection.ListReadable ss := Selection.listReadable_listMapBlocks _ sels hr
  have hdoc : ∀ (c : Cursor) fuel, c.tokens = .name "query" :: .punct .braceL ::
      (Selection.listTokens ss ++ [.punct .braceR, .eof]) →
      (Selection.listTokens ss ++ [.punct .braceR, .eof] : List Token).length < fuel →
      Holds (· = .fault .tooDeep) c (parseDocument fuel) fun doc _ =>
        ∃ sels', doc.definitions.head? = some (.operation .query none [] [] sels') ∧
          Selection.listUnsited sels' = Selection.listUnsited ss := by
    intro c fuel hc hlen
    simp only [List.length_append, List.length_cons, List.length_nil] at hlen
    -- the selection set is read back, and the end of input follows it
    have hsel : ∀ c₁ : Cursor,
        c₁.tokens = .punct .braceL :: (Selection.listTokens ss ++ [.punct .braceR, .eof]) →
        Holds (· = .fault .tooDeep) c₁ (parseSelectionSet fuel) fun sels' r =>
          Selection.listUnsited sels' = Selection.listUnsited ss ∧ r = [.eof] := fun c₁ e₁ =>
      Holds.of_accepts rfl ((parseSelection_readsBack fuel).1 ss c₁ .eof []
        ⟨hne', hread, by omega⟩ True.intro (by rw [e₁]; simp))
    refine (parseDocument_holds (F := (· = .fault .tooDeep)) rfl (by omega) hc hsel
      fun _ c₂ hq => Holds.of_accepts rfl
        ((untilClose_eof_accepts hq.2 (by omega)).mono fun _ _ _ => True.intro)).mono
      fun doc _ hq => ?_
    obtain ⟨sels', r, hhead, hq, -⟩ := hq
    exact ⟨sels', hhead, hq⟩
  rcases FieldSet.parse_holds height hscan hdoc with ⟨e, he, rfl⟩ | h
  · exact .inl he
  · exact .inr h

lemma FieldSet.print_listUnsited (ss : List Selection) :
    FieldSet.print (Selection.listUnsited ss) = FieldSet.print ss := by
  rw [FieldSet.print, FieldSet.print, ← Selection.printList_eq, ← Selection.printList_eq,
    Selection.printList_listUnsited]

/-- The printed field set of readable, well-formed selections is not empty. -/
lemma FieldSet.print_ne_empty {sels : List Selection} (hne : sels ≠ [])
    (hr : Selection.ListReadable sels) (hl : ∀ t ∈ Selection.listTokens sels, t.Lexical) :
    FieldSet.print sels ≠ "" := by
  intro hempty
  have h := FieldSet.print_scansTo hr hl
  rw [hempty, String.toList_empty] at h
  obtain ⟨s, ss, rfl⟩ := List.exists_cons_of_ne_nil hne
  have := List.map_eq_nil_iff.1 (ScansTo.eq_nil h)
  simp only [Selection.listTokens_cons, List.append_eq_nil_iff] at this
  exact Selection.tokens_ne_nil s this.1

/-! ### The field sets of the metadata -/

/-- Selections that some text reads as a field set. -/
def FieldSet.Read (sels : List Selection) : Prop :=
  ∃ s height, FieldSet.parse s height = .ok sels

lemma Syntax.Directive.selections_read {d : Directive} {height : Nat} {sels : List Selection}
    (h : d.selections height = some sels) : FieldSet.Read sels := by
  unfold Directive.selections at h
  split at h
  · exact ⟨_, _, Schema.eq_ok_of_toOption h⟩
  · cases h

lemma firstUsable_read {ds : List Directive} {name : String} {height : Nat}
    {sels : List Selection} (h : firstUsable ds name height = some sels) : FieldSet.Read sels := by
  obtain ⟨d, -, hd⟩ := Option.bind_eq_some_iff.1 h
  exact Directive.selections_read hd

lemma typeEntry_keys_read {r : Ownership} {height : Nat} {t : Schema.NamedType}
    {sels : List Selection} (h : sels ∈ (typeEntry r height t).keys) : FieldSet.Read sels := by
  unfold typeEntry at h
  split at h
  · obtain ⟨d, -, hd⟩ := List.mem_filterMap.1 h
    exact Directive.selections_read hd
  · cases h

/-- A claimed member of an enum or input object names no field set. -/
lemma claimedEntry_fieldSets {r : Ownership} {members : List String} {name : String}
    {x : FieldMetadata} (h : claimedEntry r members name = some x) :
    x.requires = none ∧ x.provides = none := by
  unfold claimedEntry at h
  split at h
  · obtain ⟨_, -, rfl⟩ := Option.map_eq_some_iff.1 h
    exact ⟨rfl, rfl⟩
  · cases h

/-- The entry of a member names only field sets that were read. -/
lemma memberEntry_read {r : Ownership} {height : Nat} {t : Schema.NamedType} {name : String}
    {x : FieldMetadata} (h : memberEntry r height t name = some x) :
    (∀ sels ∈ x.requires, FieldSet.Read sels) ∧ ∀ sels ∈ x.provides, FieldSet.Read sels := by
  unfold memberEntry at h
  split at h
  · obtain ⟨f, -, hf⟩ := Option.bind_eq_some_iff.1 h
    unfold objectFieldEntry at hf
    dsimp only at hf
    split at hf
    · cases hf
    · cases hf
      refine ⟨fun sels hs => ?_, fun sels hs => firstUsable_read hs⟩
      split at hs
      · exact firstUsable_read hs
      · cases hs
  · obtain ⟨hr, hp⟩ := claimedEntry_fieldSets h
    simp [hr, hp]
  · obtain ⟨hr, hp⟩ := claimedEntry_fieldSets h
    simp [hr, hp]
  · cases h

/-- The metadata of a composition names only field sets that were read: the keys of its types
and what its members require and provide. -/
lemma composed_fieldSets_read {services : List Service} {height : Nat} {c : Composition}
    (h : compose services height = .ok c) :
    (∀ T x, c.metadata.typeMetadata T = some x → ∀ sels ∈ x.keys, FieldSet.Read sels) ∧
    ∀ T name x, c.metadata.fieldMetadata T name = some x →
      (∀ sels ∈ x.requires, FieldSet.Read sels) ∧ ∀ sels ∈ x.provides, FieldSet.Read sels := by
  obtain ⟨-, -, hann⟩ := compose_ok h
  have hown := synthesize_ownership_reference services
  have hn : (Ledger.build services).synthesize.ownership.keys.Nodup := by
    rw [hown, Table.keys_tabulate]
    exact Table.nodup_eraseDups _
  have hclaims : ∀ T r, (Ledger.build services).synthesize.ownership.find? T = some r →
      r.extensionFieldOwners.keys.Nodup := fun T r hr => by
    rw [hown, Table.find?_tabulate] at hr
    split at hr
    · cases hr
      exact Ownership.reference_owners_nodup _ T
    · cases hr
  refine ⟨fun T x hx sels hs => ?_, fun T name x hx => ?_⟩
  · rw [annotate_typeMetadata hann hn] at hx
    obtain ⟨r, -, hx⟩ := Option.bind_eq_some_iff.1 hx
    obtain ⟨t, -, rfl⟩ := Option.map_eq_some_iff.1 hx
    exact typeEntry_keys_read hs
  · rw [annotate_fieldMetadata hann hn hclaims fun _ _ ht => composed_memberNames_nodup h ht] at hx
    obtain ⟨r, -, hx⟩ := Option.bind_eq_some_iff.1 hx
    obtain ⟨t, -, hx⟩ := Option.bind_eq_some_iff.1 hx
    exact memberEntry_read hx

/-! ### The round trip -/

/-- Selections whose printed field set reads back as them, each block string re-read: the
printed text is not empty, and reading it gives those selections up to where their directives
stood, unless the stack runs out first. -/
def FieldSet.ReadsBack (sels : List Selection) : Prop :=
  FieldSet.print sels ≠ "" ∧ ∀ height,
    FieldSet.parse (FieldSet.print sels) height = .error (.fault .tooDeep) ∨
      ∃ sels', FieldSet.parse (FieldSet.print sels) height = .ok sels' ∧
        Selection.listUnsited sels' =
          Selection.listUnsited (Selection.listMapBlocks rereadBlock sels)

/-- What a field set reads as is not empty and reads back from its printed text. -/
lemma FieldSet.Read.readsBack {sels : List Selection} (h : FieldSet.Read sels) :
    sels ≠ [] ∧ FieldSet.ReadsBack sels := by
  obtain ⟨s, height, hs⟩ := h
  obtain ⟨hne, hr, -⟩ := FieldSet.parse_ok_tokens hs
  have hl := FieldSet.lexical_of_parse_ok hs
  exact ⟨hne, FieldSet.print_ne_empty hne hr hl, FieldSet.parse_print hne hr hl⟩

/-- Printing what a field set reads as and reading the printed text again gives the same
selections, up to where their directives stood and unless the stack runs out, exactly when the
printer keeps the indentation of every block string among them; otherwise each block string
that it does not keep loses its leading blanks and tabs. The printed text is never empty, and
printing what it reads as gives the printed text of the re-read selections. The keys of the
types of a composition's metadata and what its members require and provide are field sets that
were read, so all of this holds of each of them. -/
theorem FieldSet.print_parse_round_trip {s : String} {height : Nat} {sels : List Selection}
    (h : FieldSet.parse s height = .ok sels) :
    sels ≠ [] ∧ FieldSet.ReadsBack sels ∧
    (∀ height' sels', FieldSet.parse (FieldSet.print sels) height' = .ok sels' →
      (Selection.listUnsited sels' = Selection.listUnsited sels ↔
        ∀ v, Token.blockString v ∈ Selection.listTokens sels → keepsIndentation v = true) ∧
      FieldSet.print sels' = FieldSet.print (Selection.listMapBlocks rereadBlock sels)) ∧
    ∀ services height' c, compose services height' = .ok c →
      (∀ T x, c.metadata.typeMetadata T = some x → ∀ k ∈ x.keys, FieldSet.ReadsBack k) ∧
      ∀ T name x, c.metadata.fieldMetadata T name = some x →
        (∀ k ∈ x.requires, FieldSet.ReadsBack k) ∧ ∀ k ∈ x.provides, FieldSet.ReadsBack k := by
  obtain ⟨hne, hback⟩ := FieldSet.Read.readsBack ⟨s, height, h⟩
  refine ⟨hne, hback, fun height' sels' h' => ?_, fun services height' c hc => ?_⟩
  · have hsels' : Selection.listUnsited sels' =
        Selection.listUnsited (Selection.listMapBlocks rereadBlock sels) := by
      rcases hback.2 height' with he | ⟨sels'', he, hu⟩
      · rw [h'] at he
        cases he
      · rw [h'] at he
        cases he
        exact hu
    refine ⟨?_, ?_⟩
    · rw [hsels', Selection.listUnsited_listMapBlocks_eq_iff]
      simp only [rereadBlock_eq_self_iff]
    · rw [← FieldSet.print_listUnsited sels', hsels', FieldSet.print_listUnsited]
  · -- the recorded field sets are ones that were read
    obtain ⟨htypes, hfields⟩ := composed_fieldSets_read hc
    refine ⟨fun T x hx k hk => (htypes T x hx k hk).readsBack.2, fun T name x hx => ?_⟩
    obtain ⟨hreq, hprov⟩ := hfields T name x hx
    exact ⟨fun k hk => (hreq k hk).readsBack.2, fun k hk => (hprov k hk).readsBack.2⟩

/-- The key `id organization { id }` reads as selections that read back from their printed
text. -/
theorem organization_key_round_trip :
    ∃ sels, FieldSet.parse "id organization \x7b id \x7d" 0 = .ok sels ∧ sels ≠ [] ∧
      FieldSet.ReadsBack sels := by
  have hsome : (FieldSet.parse "id organization \x7b id \x7d" 0).toOption.isSome = true := by
    decide +kernel
  obtain ⟨sels, hsels⟩ := Option.isSome_iff_exists.1 hsome
  have h := Schema.eq_ok_of_toOption hsels
  exact ⟨sels, h, (FieldSet.print_parse_round_trip h).1, (FieldSet.print_parse_round_trip h).2.1⟩

/-- A block string value that starts with a blank and holds a line separator but no line feed
reads back without its blank: `f(a: """ a<U+2028> b""")` prints as its value on a line of its
own, which reads as `a<U+2028> b`, so printing what a field set reads as is not idempotent. -/
theorem fieldSet_reprint_drops_indentation :
    (FieldSet.parse "f(a: \"\"\" a\u2028 b\"\"\")" 0).toOption.map FieldSet.print =
        some "f(a: \"\"\"\n a\u2028 b\n\"\"\")" ∧
      (FieldSet.parse "f(a: \"\"\"\n a\u2028 b\n\"\"\")" 0).toOption.map FieldSet.print =
        some "f(a: \"\"\"\na\u2028 b\n\"\"\")" := by
  constructor <;> decide +kernel

end Federation
