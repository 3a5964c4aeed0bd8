import Mathlib
import Federation.Proofs.QuotedString

/-!
# Block strings read back

A value written as a block string (`printBlockString`), inside text indented by any number of
blanks, scans back to what the reader makes of it (`printBlockString_scansTo`), for every value of
the shape the scanner gives block strings (`BlockShape`): no value, or lines without line breaks
whose first and last hold more than blanks, one of which starts with no indentation when there are
several.

The printed body is the value with its triple quotes escaped, between an optional line break on
either side (`blockBreaks`). Escaping works line by line (`escapeTripleQuotes_intercalate`), and
the reader of a block's lines takes each escaped line back (`readBlockLines_line`), the
indentation of the enclosing text included (`readBlockLines_lines`). Removing the common
indentation and the blank lines at either end (`dedentLines`) then gives the value's lines back
(`dedentLines_shifted`, `dedentLines_single`), with one exception. The printer decides where to
break by counting lines at every line boundary (`textLines`: vertical tabs, form feeds, the
information separators, next line and the line and paragraph separators count too), while the
reader splits lines only at line feeds and carriage returns. A value of one line that starts with
a blank and holds, say, a line separator is printed on a line of its own, and the reader takes its
leading blanks for indentation (`dedentLines_single_shifted`): `rereadBlock` is the value without
them exactly where `keepsIndentation` fails.
-/

namespace Federation.Syntax

open Lexer

/-! ### Escaping triple quotes -/

lemma escapeTripleQuotes_cons {c : Char} {l : List Char} (h : c = '"' → ∀ r, l ≠ '"' :: '"' :: r) :
    escapeTripleQuotes (c :: l) = c :: escapeTripleQuotes l := by
  rw [escapeTripleQuotes]
  exact fun r hc hl => h hc r hl

/-- No triple quote spans a line feed, so the escaping of lines joined by a line feed is the
escaping of each. -/
lemma escapeTripleQuotes_append_newline (a b : List Char) :
    escapeTripleQuotes (a ++ '\n' :: b) = escapeTripleQuotes a ++ '\n' :: escapeTripleQuotes b := by
  fun_induction escapeTripleQuotes a with
  | case1 rest ih => simp only [List.cons_append, escapeTripleQuotes, ih]
  | case2 c rest hne ih =>
    rw [List.cons_append, escapeTripleQuotes_cons, ih, List.cons_append]
    intro hc r hr
    rcases rest with _ | ⟨x, _ | ⟨y, z⟩⟩
    · simp at hr
    · simp at hr
    · simp only [List.cons_append, List.cons.injEq] at hr
      exact hne z hc (by rw [hr.1, hr.2.1])
  | case3 => simp [escapeTripleQuotes_cons]

lemma escapeTripleQuotes_intercalate (L : List (List Char)) :
    escapeTripleQuotes (['\n'].intercalate L) = ['\n'].intercalate (L.map escapeTripleQuotes) := by
  induction L with
  | nil => rfl
  | cons l L ih =>
    cases L with
    | nil => simp
    | cons l' L =>
      simp only [List.intercalate_cons_cons, List.map_cons] at ih ⊢
      rw [List.append_assoc, List.singleton_append, escapeTripleQuotes_append_newline, ih,
        List.append_assoc, List.singleton_append]

/-- Escaping adds only backslashes. -/
lemma mem_escapeTripleQuotes {c : Char} {l : List Char} (h : c ∈ escapeTripleQuotes l) :
    c ∈ l ∨ c = '\\' := by
  fun_induction escapeTripleQuotes l with
  | case1 rest ih =>
    simp only [List.mem_cons] at h ⊢
    rcases h with h | h | h | h | h
    · exact .inr h
    all_goals first | exact .inl (.inl h) | skip
    rcases ih h with h | h
    · exact .inl (.inr (.inr (.inr h)))
    · exact .inr h
  | case2 c' rest _ ih =>
    simp only [List.mem_cons] at h ⊢
    rcases h with h | h
    · exact .inl (.inl h)
    · exact (ih h).imp .inr id
  | case3 => simp at h

/-- An escaped text starts with a quote only where the text itself does. -/
lemma head?_escapeTripleQuotes_append {l tail : List Char}
    (h : (escapeTripleQuotes l ++ tail).head? = some '"') :
    l.head? = some '"' ∨ l = [] ∧ tail.head? = some '"' := by
  fun_induction escapeTripleQuotes l with
  | case1 rest _ => simp at h
  | case2 c rest _ _ => simp_all
  | case3 => simp_all

/-- Where an escaped text and what follows it start with two quotes, the text starts with two
quotes, or it is at most one quote and what follows starts with a quote. -/
lemma escapeTripleQuotes_append_eq_quotes {l tail r : List Char}
    (h : escapeTripleQuotes l ++ tail = '"' :: '"' :: r) :
    (∃ l', l = '"' :: '"' :: l') ∨ l.length ≤ 1 ∧ (∀ c ∈ l, c = '"') ∧ tail.head? = some '"' := by
  rcases l with _ | ⟨c, l⟩
  · rw [show escapeTripleQuotes [] = [] from rfl, List.nil_append] at h
    right
    simp [h]
  · by_cases htriple : c = '"' ∧ ∃ l', l = '"' :: '"' :: l'
    · obtain ⟨rfl, l', rfl⟩ := htriple
      simp [escapeTripleQuotes] at h
    rw [escapeTripleQuotes_cons (fun hc r' hr' => htriple ⟨hc, r', hr'⟩), List.cons_append,
      List.cons.injEq] at h
    obtain ⟨rfl, h⟩ := h
    rcases head?_escapeTripleQuotes_append (l := l) (by rw [h]; rfl) with hl | ⟨rfl, htail⟩
    · left
      rcases l with _ | ⟨d, l⟩
      · simp at hl
      · simp only [List.head?_cons, Option.some.injEq] at hl
        exact ⟨l, by rw [hl]⟩
    · right
      simp [htail]

/-- An escaped text never holds a triple quote of its own: where it and what follows start with
three quotes, the text is at most two quotes and what follows starts with a quote. -/
lemma escapeTripleQuotes_append_eq_triple {l tail r : List Char}
    (h : escapeTripleQuotes l ++ tail = '"' :: '"' :: '"' :: r) :
    l.length ≤ 2 ∧ (∀ c ∈ l, c = '"') ∧ tail.head? = some '"' := by
  rcases escapeTripleQuotes_append_eq_quotes h with ⟨l', rfl⟩ | ⟨hlen, hall, htail⟩
  · rcases l' with _ | ⟨d, l'⟩
    · simp only [escapeTripleQuotes_cons, escapeTripleQuotes, ne_eq, reduceCtorEq,
        not_false_eq_true, implies_true, List.cons_append, List.nil_append, List.cons.injEq,
        true_and] at h
      simp [h]
    by_cases hd : d = '"'
    · subst hd
      simp [escapeTripleQuotes] at h
    rw [escapeTripleQuotes_cons (by simp [hd]), escapeTripleQuotes_cons (by simp [hd]),
      escapeTripleQuotes_cons (by simp [hd])] at h
    simp [hd] at h
  · exact ⟨by omega, hall, htail⟩

/-- What may follow a line of a block as it is printed: a line break, or the closing quotes when
the line ends in neither a quote nor a backslash. -/
def LineEnd (l tail : List Char) : Prop :=
  tail.head? = some '\n' ∨
    (∃ r, tail = '"' :: '"' :: '"' :: r) ∧ l.getLast? ≠ some '"' ∧ l.getLast? ≠ some '\\'

lemma LineEnd.of_cons {c : Char} {l tail : List Char} (h : LineEnd (c :: l) tail) : LineEnd l tail := by
  rcases h with h | ⟨hr, hq, hb⟩
  · exact .inl h
  · refine .inr ⟨hr, ?_, ?_⟩ <;> rcases l with _ | ⟨d, l⟩ <;> simp_all [List.getLast?_cons_cons]

/-- A line that ends in a quote or a backslash is followed by a line break. -/
lemma LineEnd.head_ne_quote {l tail : List Char} (h : LineEnd l tail)
    (hl : l.getLast? = some '"' ∨ l.getLast? = some '\\') : tail.head? ≠ some '"' := by
  rcases h with h | ⟨⟨r, rfl⟩, hq, hb⟩
  · simp [h]
  · rcases hl with hl | hl <;> contradiction

/-! ### Reading the lines of a block -/

section Reading

variable {rest : List Char} {pos k : Nat} {lines ls : List (List Char)} {line : List Char}

lemma readBlockLines_close (rest : List Char) (pos : Nat) (lines : List (List Char))
    (line : List Char) :
    readBlockLines ('"' :: '"' :: '"' :: rest) pos lines line =
      .ok ((line.reverse :: lines).reverse, 3) := rfl

lemma readBlockLines_escape
    (h : readBlockLines rest (pos + 4) lines ('"' :: '"' :: '"' :: line) = .ok (ls, k)) :
    readBlockLines ('\\' :: '"' :: '"' :: '"' :: rest) pos lines line = .ok (ls, k + 4) := by
  simp [readBlockLines, h, bind, Except.bind, pure, Except.pure]

lemma readBlockLines_newline
    (h : readBlockLines rest (pos + 1) (line.reverse :: lines) [] = .ok (ls, k)) :
    readBlockLines ('\n' :: rest) pos lines line = .ok (ls, k + 1) := by
  simp [readBlockLines, h, bind, Except.bind, pure, Except.pure]

/-- A character that breaks no line, closes no block and starts no escaped triple quote is added
to the line. -/
lemma readBlockLines_char {c : Char} (hn : c ≠ '\n') (hr : c ≠ '\r')
    (hq : c = '"' → ∀ r, rest ≠ '"' :: '"' :: r) (hb : c = '\\' → ∀ r, rest ≠ '"' :: '"' :: '"' :: r)
    (h : readBlockLines rest (pos + 1) lines (c :: line) = .ok (ls, k)) :
    readBlockLines (c :: rest) pos lines line = .ok (ls, k + 1) := by
  rw [readBlockLines]
  · simp [h, bind, Except.bind, pure, Except.pure]
  · exact fun r hc hl => hq hc r hl
  · exact fun r hc hl => hb hc r hl
  · exact fun _ hc _ => hr hc
  · exact hr
  · exact hn

lemma readBlockLines_spaces (n : Nat) (line : List Char)
    (h : readBlockLines rest (pos + n) lines (List.replicate n ' ' ++ line) = .ok (ls, k)) :
    readBlockLines (List.replicate n ' ' ++ rest) pos lines line = .ok (ls, k + n) := by
  induction n generalizing pos line with
  | zero => simpa using h
  | succ n ih =>
    have h' : readBlockLines rest (pos + 1 + n) lines (List.replicate n ' ' ++ ' ' :: line) =
        .ok (ls, k) := by
      rwa [Nat.add_assoc, Nat.add_comm 1 n, ← List.singleton_append, ← List.append_assoc,
        ← List.replicate_succ']
    rw [List.replicate_succ, List.cons_append, ← Nat.add_assoc]
    exact readBlockLines_char (by decide) (by decide) (by simp) (by simp) (ih (' ' :: line) h')

/-- The reader takes an escaped line back as the line, up to a line break or the closing quotes
that may follow it. -/
lemma readBlockLines_line {l tail : List Char} (hn : '\n' ∉ l) (hr : '\r' ∉ l) (ht : LineEnd l tail)
    (h : readBlockLines tail (pos + (escapeTripleQuotes l).length) lines (l.reverse ++ line) =
      .ok (ls, k)) :
    readBlockLines (escapeTripleQuotes l ++ tail) pos lines line =
      .ok (ls, k + (escapeTripleQuotes l).length) := by
  fun_induction escapeTripleQuotes l generalizing pos line with
  | case1 rest ih =>
    -- an escaped triple quote is read as the triple quote it stands for
    simp only [List.length_cons, List.reverse_cons, List.append_assoc, List.cons_append] at h ⊢
    rw [show k + ((escapeTripleQuotes rest).length + 1 + 1 + 1 + 1) =
      k + (escapeTripleQuotes rest).length + 4 by omega]
    refine readBlockLines_escape (@ih (pos + 4) ('"' :: '"' :: '"' :: line)
      (fun hm => hn (by simp [hm])) (fun hm => hr (by simp [hm])) ht.of_cons.of_cons.of_cons ?_)
    rwa [show pos + 4 + (escapeTripleQuotes rest).length =
      pos + ((escapeTripleQuotes rest).length + 1 + 1 + 1 + 1) by omega]
  | case2 c rest hne ih =>
    have hread := @ih (pos + 1) (c :: line) (fun hm => hn (by simp [hm]))
      (fun hm => hr (by simp [hm])) ht.of_cons (by
        rw [show pos + 1 + (escapeTripleQuotes rest).length =
          pos + (c :: escapeTripleQuotes rest).length by simp; omega]
        simpa using h)
    rw [List.cons_append, List.length_cons, ← Nat.add_assoc]
    refine readBlockLines_char (by rintro rfl; simp at hn) (by rintro rfl; simp at hr) ?_ ?_ hread
    · -- a quote opens no triple quote: the text has no two more quotes here, and a line that
      -- ends in a quote is followed by a line break
      intro hc r hq
      rcases escapeTripleQuotes_append_eq_quotes hq with ⟨l', rfl⟩ | ⟨hlen, hall, htail⟩
      · exact hne l' hc rfl
      · refine ht.head_ne_quote (.inl ?_) htail
        subst hc
        rcases rest with _ | ⟨d, _ | ⟨e, rest⟩⟩ <;> simp_all
    · -- nor does a backslash start an escaped one
      intro hc r hq
      obtain ⟨hlen, hall, htail⟩ := escapeTripleQuotes_append_eq_triple hq
      refine ht.head_ne_quote ?_ htail
      subst hc
      rcases rest with _ | ⟨d, _ | ⟨e, _ | ⟨f, rest⟩⟩⟩ <;> simp_all
  | case3 => simpa using h

/-- The reader takes lines, escaped and joined by a line break and `n` blanks, back up to the
closing quotes: the first line is added to the line being read, and every later line starts with
the blanks. -/
lemma readBlockLines_lines (n : Nat) {l : List Char} {L : List (List Char)}
    (hl : ∀ m ∈ l :: L, '\n' ∉ m ∧ '\r' ∉ m)
    (hlast : ∀ m ∈ (l :: L).getLast?, m.getLast? ≠ some '"' ∧ m.getLast? ≠ some '\\') :
    readBlockLines (('\n' :: List.replicate n ' ').intercalate ((l :: L).map escapeTripleQuotes) ++
        '"' :: '"' :: '"' :: rest) pos lines line =
      .ok (lines.reverse ++ (line.reverse ++ l) :: L.map (List.replicate n ' ' ++ ·),
        (('\n' :: List.replicate n ' ').intercalate ((l :: L).map escapeTripleQuotes)).length + 3) := by
  induction L generalizing l pos lines line with
  | nil =>
    -- the last line, before the closing quotes
    have hend : LineEnd l ('"' :: '"' :: '"' :: rest) := .inr ⟨⟨rest, rfl⟩, hlast l (by simp)⟩
    have h := readBlockLines_line (hl l (by simp)).1 (hl l (by simp)).2 hend
      (readBlockLines_close rest (pos + (escapeTripleQuotes l).length) lines (l.reverse ++ line))
    simp only [List.map_cons, List.map_nil, List.intercalate_singleton] at h ⊢
    rw [h, Nat.add_comm]
    simp
  | cons l' L ih =>
    -- a line, the line break and the blanks after it, then the lines that follow
    have hrest := @ih (pos + (escapeTripleQuotes l).length + 1 + n)
      ((l.reverse ++ line).reverse :: lines) (List.replicate n ' ') l'
      (fun m hm => hl m (List.mem_cons_of_mem l hm)) (by simpa using hlast)
    have hsp := readBlockLines_spaces n [] (by rwa [List.append_nil])
    have hbreak := readBlockLines_newline hsp
    have hend : LineEnd l ('\n' :: (List.replicate n ' ' ++
        (('\n' :: List.replicate n ' ').intercalate ((l' :: L).map escapeTripleQuotes) ++
          '"' :: '"' :: '"' :: rest))) := .inl rfl
    have h := readBlockLines_line (hl l (by simp)).1 (hl l (by simp)).2 hend hbreak
    simp only [List.map_cons, List.intercalate_cons_cons, List.append_assoc, List.cons_append]
      at h hrest ⊢
    rw [h]
    simp only [List.length_append, List.length_cons, List.length_replicate, List.reverse_cons,
      List.reverse_append, List.reverse_reverse, List.reverse_replicate, List.append_assoc,
      List.cons_append, List.nil_append, Except.ok.injEq, Prod.mk.injEq]
    exact ⟨trivial, by omega⟩

end Reading

/-! ### Removing the indentation -/

@[simp] lemma isBlankLine_replicate_append (n : Nat) (l : List Char) :
    isBlankLine (List.replicate n ' ' ++ l) = isBlankLine l := by
  simp [isBlankLine]

@[simp] lemma indentOf_replicate_append (n : Nat) (l : List Char) :
    indentOf (List.replicate n ' ' ++ l) = n + indentOf l := by
  simp [indentOf, List.takeWhile_append_of_pos]

lemma dropWhile_isBlankLine_of_head {L : List (List Char)}
    (h : ∀ l ∈ L.head?, isBlankLine l = false) : L.dropWhile isBlankLine = L := by
  cases L with
  | nil => rfl
  | cons l L => simp [h l (by simp)]

/-- Lines after the first, each `n` blanks further in, one of them with more than blanks and no
indentation of its own: their common indentation is `n`. -/
lemma commonIndent_shifted (n : Nat) (l : List Char) (L : List (List Char))
    (hzero : ∃ m ∈ L, isBlankLine m = false ∧ indentOf m = 0) :
    commonIndent (l :: L.map (List.replicate n ' ' ++ ·)) = some n := by
  obtain ⟨m, hm, hblank, hindent⟩ := hzero
  rw [commonIndent, List.min?_eq_some_iff]
  simp only [List.drop_succ_cons, List.drop_zero, List.filter_map, List.map_map, List.mem_map,
    List.mem_filter, Function.comp_apply, isBlankLine_replicate_append, indentOf_replicate_append]
  refine ⟨⟨m, ⟨hm, by simp [hblank]⟩, by simp [hindent]⟩, ?_⟩
  rintro b ⟨m', -, rfl⟩
  omega

/-- Lines read after a line break that opens a block, each `n` blanks further in than the value's
own lines, and the blanks before the closing quotes: removing the indentation and the blank lines
at either end gives the value's lines back. -/
lemma dedentLines_shifted (n : Nat) {L : List (List Char)}
    (hhead : ∀ l ∈ L.head?, isBlankLine l = false) (hlast : ∀ l ∈ L.getLast?, isBlankLine l = false)
    (hzero : ∃ m ∈ L, isBlankLine m = false ∧ indentOf m = 0) :
    dedentLines ([] :: (L ++ [[]]).map (List.replicate n ' ' ++ ·)) = L := by
  obtain ⟨m, hm, hzero⟩ := hzero
  have hc := commonIndent_shifted n [] (L ++ [[]]) ⟨m, by simp [hm], hzero⟩
  have hcut : ((L ++ [[]]).map (List.replicate n ' ' ++ ·)).map (fun l : List Char => l.drop n) =
      L ++ [[]] := by
    simp [List.map_map, Function.comp_def]
  obtain ⟨l₀, L', rfl⟩ : ∃ l₀ L', L = l₀ :: L' := List.exists_cons_of_ne_nil (List.ne_nil_of_mem hm)
  simp only [dedentLines, hc, Option.getD_some, List.take_succ_cons, List.take_zero,
    List.drop_succ_cons, List.drop_zero, hcut]
  -- the empty line after the opening quotes goes first, then the one before the closing quotes
  rw [List.singleton_append, List.dropWhile_cons_of_pos (by rfl),
    dropWhile_isBlankLine_of_head (L := l₀ :: L' ++ [[]]) (by simpa using hhead), List.reverse_append,
    List.reverse_singleton, List.singleton_append, List.dropWhile_cons_of_pos (by rfl),
    dropWhile_isBlankLine_of_head (by rwa [List.head?_reverse]), List.reverse_reverse]

/-- A single line, followed by blank lines only, is the whole value when it holds more than blanks:
no later line sets an indentation to remove. -/
lemma dedentLines_single {l : List Char} {tail : List (List Char)} (hl : isBlankLine l = false)
    (htail : ∀ m ∈ tail, isBlankLine m = true) : dedentLines (l :: tail) = [l] := by
  have hc : commonIndent (l :: tail) = none := by
    simpa [commonIndent] using htail
  simp only [dedentLines, hc, Option.getD_none, List.take_succ_cons, List.take_zero,
    List.drop_succ_cons, List.drop_zero, List.drop_length]
  rw [List.singleton_append, List.dropWhile_cons_of_neg (by simp [hl]), List.reverse_cons,
    List.dropWhile_append_of_pos (by simp [isBlankLine])]
  simp [hl]

/-! ### Where the printer breaks lines -/

/-- One step of splitting at a character that does not start a carriage return and line feed. -/
lemma textLines_go_cons {c : Char} {cs : List Char} (acc : List Char)
    (h : ∀ r, c = '\r' → cs = '\n' :: r → False) :
    textLines.go (c :: cs) acc =
      if isLineBoundary c then acc.reverse :: textLines.go cs [] else textLines.go cs (c :: acc) := by
  -- split the match itself: the equation lemmas of the definition are slow to generate
  rw [textLines.go.eq_def]
  split
  next _ _ heq => cases heq
  next _ _ _ heq _ => cases heq
  next _ _ _ rest heq =>
    obtain ⟨rfl, rfl⟩ := List.cons.inj heq
    exact (h rest rfl rfl).elim
  next _ _ _ c' rest _ heq =>
    obtain ⟨rfl, rfl⟩ := List.cons.inj heq
    rfl

/-- Splitting with a line begun never gives no line. -/
lemma textLines_go_ne_nil {acc : List Char} (hacc : acc ≠ []) (cs : List Char) :
    textLines.go cs acc ≠ [] := by
  induction cs generalizing acc with
  | nil =>
    obtain ⟨c, acc, rfl⟩ := List.exists_cons_of_ne_nil hacc
    exact List.cons_ne_nil _ _
  | cons c cs ih =>
    by_cases hr : c = '\r' ∧ ∃ r, cs = '\n' :: r
    · obtain ⟨rfl, r, rfl⟩ := hr
      exact List.cons_ne_nil _ _
    · rw [textLines_go_cons _ (fun r hc hcs => hr ⟨hc, r, hcs⟩)]
      split
      · exact List.cons_ne_nil _ _
      · exact ih (List.cons_ne_nil _ _)

lemma textLines_go_cons_ne_nil (c : Char) (cs : List Char) : textLines.go (c :: cs) [] ≠ [] := by
  by_cases hr : c = '\r' ∧ ∃ r, cs = '\n' :: r
  · obtain ⟨rfl, r, rfl⟩ := hr
    exact List.cons_ne_nil _ _
  · rw [textLines_go_cons _ (fun r hc hcs => hr ⟨hc, r, hcs⟩)]
    split
    · exact List.cons_ne_nil _ _
    · exact textLines_go_ne_nil (List.cons_ne_nil _ _) cs

/-- A line feed with text after it, and no carriage return before it, ends a line of its own. -/
lemma length_textLines_go_append_newline {a b : List Char} (ha : '\r' ∉ a) (hb : b ≠ [])
    (acc : List Char) : 2 ≤ (textLines.go (a ++ '\n' :: b) acc).length := by
  induction a generalizing acc with
  | nil =>
    obtain ⟨c, b, rfl⟩ := List.exists_cons_of_ne_nil hb
    rw [List.nil_append, textLines_go_cons _ (fun _ h => absurd h (by decide))]
    simp only [show isLineBoundary '\n' = true from rfl, if_true, List.length_cons]
    have : 0 < (textLines.go (c :: b) []).length :=
      List.length_pos_iff.2 (textLines_go_cons_ne_nil c b)
    omega
  | cons c a ih =>
    have hc : c ≠ '\r' := fun h => ha (by simp [h])
    rw [List.cons_append, textLines_go_cons _ (fun _ h => absurd h hc)]
    split
    · have := ih (fun h => ha (List.mem_cons_of_mem _ h)) []
      simp only [List.length_cons]
      omega
    · exact ih (fun h => ha (List.mem_cons_of_mem _ h)) _

lemma escapeTripleQuotes_ne_nil {l : List Char} (h : l ≠ []) : escapeTripleQuotes l ≠ [] := by
  fun_induction escapeTripleQuotes l <;> simp_all

/-- A printed block string breaks its line before the closing quotes whenever it breaks it after
the opening ones. -/
lemma trailing_of_leading {v : String} (h : (blockBreaks v).leading = true) :
    (blockBreaks v).trailing = true := by
  revert h
  dsimp only [blockBreaks]
  -- what decides the two breaks, as independent truth values
  generalize (blockLines (escapeTripleQuotes v.toList)).length = k
  generalize (List.take 4 (escapeTripleQuotes v.toList).reverse == ['"', '"', '"', '\\']) = q
  generalize (decide (k > 1) && _) = f
  generalize (v.toList.getLast? == some '"') = e₁
  generalize (v.toList.getLast? == some '\\') = e₂
  generalize (k == 1) = s
  generalize decide (v.length > 70) = w
  generalize startsIndented v.toList = i
  revert f q e₁ e₂ s w i
  decide

/-- A block string printed with no break before its closing quotes ends in neither a quote nor
a backslash. -/
lemma getLast_of_trailing_eq_false {v : String} (h : (blockBreaks v).trailing = false) :
    v.toList.getLast? ≠ some '"' ∧ v.toList.getLast? ≠ some '\\' := by
  revert h
  dsimp only [blockBreaks]
  generalize (blockLines (escapeTripleQuotes v.toList)).length = k
  generalize (List.take 4 (escapeTripleQuotes v.toList).reverse == ['"', '"', '"', '\\']) = q
  generalize (decide (k > 1) && _) = f
  generalize v.toList.getLast? = e
  generalize (k == 1) = s
  generalize decide (v.length > 70) = w
  rcases e with _ | c
  · simp
  · by_cases h1 : c = '"' <;> by_cases h2 : c = '\\' <;> cases q <;> simp_all

/-- A value of several lines is printed with its first line on a line of its own. -/
lemma leading_of_lines {v : String} {l l' : List Char} {L : List (List Char)}
    (hv : v.toList = ['\n'].intercalate (l :: l' :: L)) (hr : '\r' ∉ l)
    (hlast : ∀ m ∈ (l' :: L).getLast?, m ≠ []) : (blockBreaks v).leading = true := by
  -- the text after the first line feed is not empty
  have hne : ['\n'].intercalate (l' :: L) ≠ [] := by
    cases L with
    | nil => simpa using hlast
    | cons m L => simp [List.intercalate_cons_cons]
  have hsplit : escapeTripleQuotes v.toList =
      escapeTripleQuotes l ++ '\n' :: escapeTripleQuotes (['\n'].intercalate (l' :: L)) := by
    rw [hv, List.intercalate_cons_cons, List.append_assoc, List.singleton_append,
      escapeTripleQuotes_append_newline]
  -- so the printer's split of the text at line boundaries has two lines at least
  have hlines : 2 ≤ (blockLines (escapeTripleQuotes v.toList)).length := by
    have h2 := length_textLines_go_append_newline
      (fun hm => (mem_escapeTripleQuotes hm).elim hr (by decide))
      (escapeTripleQuotes_ne_nil hne) []
    rw [← hsplit] at h2
    unfold blockLines textLines
    split
    · rename_i heq
      rw [heq] at h2
      simp at h2
    · exact h2
  dsimp only [blockBreaks]
  generalize (blockLines (escapeTripleQuotes v.toList)).length = k at hlines
  have hk : (k == 1) = false := by simp; omega
  simp [hk]

/-! ### What the reader makes of a printed block string -/

/-- The text of a block string's value as the scanner gives it: empty, or lines joined by line
feeds, none of which breaks a line, whose first and last lines hold more than blanks, and one of
which starts with no indentation when there are several. -/
def BlockShape (v : List Char) : Prop :=
  v = [] ∨ ∃ L : List (List Char), v = ['\n'].intercalate L ∧ (∀ l ∈ L, '\n' ∉ l ∧ '\r' ∉ l) ∧
    (∀ l ∈ L.head?, isBlankLine l = false) ∧ (∀ l ∈ L.getLast?, isBlankLine l = false) ∧
    (2 ≤ L.length → ∃ m ∈ L, isBlankLine m = false ∧ indentOf m = 0)

/-- Whether printing a block string keeps the indentation of its value. It does unless it starts
the value on a line of its own although the value is one line that starts with a blank: the
printer counts lines at every line boundary, the reader only at line feeds and carriage returns,
so such a value holds a boundary of another kind, and the reader takes its blanks as indentation
to remove. -/
def keepsIndentation (v : String) : Bool :=
  !(blockBreaks v).leading || v.toList.contains '\n' || !startsIndented v.toList

/-- The value the reader makes of a printed block string: the value itself, or, where printing
does not keep its indentation, the value without its leading blanks. -/
def rereadBlock (v : String) : String :=
  if keepsIndentation v then v else String.ofList (v.toList.drop (indentOf v.toList))

/-- A line less its indentation is what follows the blanks and tabs it starts with. -/
lemma drop_indentOf (l : List Char) :
    l.drop (indentOf l) = l.dropWhile fun c => c == ' ' || c == '\t' := by
  have hl := List.takeWhile_append_dropWhile (p := fun c => c == ' ' || c == '\t') (l := l)
  calc l.drop (indentOf l)
      = ((l.takeWhile fun c => c == ' ' || c == '\t') ++
          l.dropWhile fun c => c == ' ' || c == '\t').drop (indentOf l) := by rw [hl]
    _ = l.dropWhile fun c => c == ' ' || c == '\t' := List.drop_append_length

lemma isBlankLine_drop_indentOf (l : List Char) :
    isBlankLine (l.drop (indentOf l)) = isBlankLine l := by
  have hl := List.takeWhile_append_dropWhile (p := fun c => c == ' ' || c == '\t') (l := l)
  rw [drop_indentOf]
  conv_rhs => rw [← hl]
  rw [isBlankLine, isBlankLine, List.all_append, List.all_takeWhile, Bool.true_and]

@[simp] lemma isBlankLine_replicate (n : Nat) : isBlankLine (List.replicate n ' ') = true := by
  simp [isBlankLine]

/-- A single line, read after a line break that opens a block and `n` blanks further in than the
value's own line, followed by the blanks before the closing quotes: removing the indentation
leaves the line without its own. -/
lemma dedentLines_single_shifted (n : Nat) {l : List Char} (hl : isBlankLine l = false) :
    dedentLines [[], List.replicate n ' ' ++ l, List.replicate n ' '] = [l.drop (indentOf l)] := by
  have hc : commonIndent [[], List.replicate n ' ' ++ l, List.replicate n ' '] =
      some (n + indentOf l) := by
    simp [commonIndent, hl]
  have hcut : (List.replicate n ' ' ++ l).drop (n + indentOf l) = l.drop (indentOf l) := by
    simp [List.drop_append]
  have hblank : isBlankLine (l.drop (indentOf l)) = false := by rwa [isBlankLine_drop_indentOf]
  simp only [dedentLines, hc, Option.getD_some, List.take_succ_cons, List.take_zero,
    List.drop_succ_cons, List.drop_zero, List.map_cons, List.map_nil, hcut,
    List.drop_eq_nil_of_le (by simp : (List.replicate n ' ').length ≤ n + indentOf l)]
  -- the empty lines before and after the line go
  rw [List.singleton_append, List.dropWhile_cons_of_pos (by rfl),
    List.dropWhile_cons_of_neg (by simp [hblank]), List.reverse_cons, List.reverse_singleton,
    List.singleton_append, List.dropWhile_cons_of_pos (by rfl),
    List.dropWhile_cons_of_neg (by simp [hblank])]
  rfl

/-! ### Scanning a printed block string -/

/-- Lines without line feeds, indented by `n` blanks once joined, are the lines joined by a line
feed and the blanks. -/
lemma intercalate_flatMap_indentBy (n : Nat) {L : List (List Char)} (hL : ∀ l ∈ L, '\n' ∉ l) :
    (['\n'].intercalate L).flatMap (indentBy n) = ('\n' :: List.replicate n ' ').intercalate L := by
  induction L with
  | nil => rfl
  | cons l L ih =>
    have hl := indentBy_flatMap_of_forall (fun c hc h => hL l (by simp) (h ▸ hc)) n
    cases L with
    | nil => simpa using hl
    | cons l' L =>
      rw [List.intercalate_cons_cons, List.intercalate_cons_cons, List.flatMap_append,
        List.flatMap_append, hl, ih (fun m hm => hL m (List.mem_cons_of_mem _ hm))]
      simp [indentBy]

lemma intercalate_append_singleton (sep : List Char) {L : List (List Char)} (hL : L ≠ [])
    (l : List Char) : sep.intercalate (L ++ [l]) = sep.intercalate L ++ sep ++ l := by
  induction L with
  | nil => exact absurd rfl hL
  | cons a L ih =>
    cases L with
    | nil => simp
    | cons b L =>
      rw [List.cons_append, List.intercalate_cons_of_ne_nil (by simp), ih (List.cons_ne_nil _ _),
        List.intercalate_cons_cons]
      simp

/-- A printed block string indented by `n` blanks: the opening quotes, the optional line breaks
around the escaped value, each followed by the indentation, and the closing quotes. -/
lemma printBlockString_indented (n : Nat) (v : String) :
    (printBlockString v).toList.flatMap (indentBy n) =
      '"' :: '"' :: '"' :: ((if (blockBreaks v).leading then '\n' :: List.replicate n ' ' else []) ++
        (escapeTripleQuotes v.toList).flatMap (indentBy n) ++
        ((if (blockBreaks v).trailing then '\n' :: List.replicate n ' ' else []) ++
          ['"', '"', '"'])) := by
  simp only [printBlockString, lineBreak, String.toList_append, String.toList_ofList,
    List.flatMap_append]
  split <;> split <;> simp [indentBy]

/-- The scanner reads a block string at triple quotes. -/
lemma scanFrom_blockString {more : List Char} {pos skipped fuel k : Nat}
    {lines : List (List Char)} (hread : readBlockLines more (pos + 3) [] [] = .ok (lines, k)) :
    scanFrom (fuel + 1) ('"' :: '"' :: '"' :: more) pos skipped =
      .cons ⟨.blockString (blockValue lines), pos, max skipped 4⟩
        (scanFrom fuel (more.drop k) (pos + 3 + k) 0) := by
  simp +decide only [scanFrom, Punctuator.ofChar?, if_true, if_false]
  rw [hread]

/-- Text in triple quotes whose body the reader takes, with the closing quotes, as some lines
scans to the block string those lines give, whatever follows it. -/
lemma blockText_scansTo {body : List Char} {lines : List (List Char)}
    (h : ∀ rest pos, readBlockLines (body ++ '"' :: '"' :: '"' :: rest) pos [] [] =
      .ok (lines, body.length + 3)) :
    ScansTo ('"' :: '"' :: '"' :: (body ++ ['"', '"', '"'])) [.blockString (blockValue lines)]
      fun _ => True := by
  intro rest _ fuel pos skipped hlen
  obtain ⟨fuel, rfl⟩ : ∃ f, fuel = f + 1 := ⟨fuel - 1, by simp at hlen; omega⟩
  refine ⟨fuel, pos + 3 + (body.length + 3), 0, by simp at hlen; omega, ?_⟩
  have hdrop : (body ++ '"' :: '"' :: '"' :: rest).drop (body.length + 3) = rest := by
    simp [List.drop_append]
  simp only [List.cons_append, List.append_assoc, List.nil_append]
  rw [scanFrom_blockString (h rest (pos + 3)), hdrop]
  simp

/-- Escaped lines joined by a line break and `n` blanks, between triple quotes, scan to the block
string of the lines the reader takes them as: the first as it is, each later one behind the
blanks. -/
lemma lines_scansTo (n : Nat) {l : List Char} {L : List (List Char)}
    (hl : ∀ m ∈ l :: L, '\n' ∉ m ∧ '\r' ∉ m)
    (hlast : ∀ m ∈ (l :: L).getLast?, m.getLast? ≠ some '"' ∧ m.getLast? ≠ some '\\') :
    ScansTo ('"' :: '"' :: '"' :: (('\n' :: List.replicate n ' ').intercalate
        ((l :: L).map escapeTripleQuotes) ++ ['"', '"', '"']))
      [.blockString (blockValue (l :: L.map (List.replicate n ' ' ++ ·)))] fun _ => True := by
  refine blockText_scansTo fun rest pos => ?_
  rw [readBlockLines_lines n hl hlast]
  simp

@[simp] lemma escapeTripleQuotes_nil : escapeTripleQuotes [] = [] := rfl

lemma blockValue_eq_intercalate (lines : List (List Char)) :
    blockValue lines = String.ofList (['\n'].intercalate (dedentLines lines)) := rfl

lemma indentOf_eq_zero {l : List Char} (h : startsIndented l = false) : indentOf l = 0 := by
  cases l with
  | nil => rfl
  | cons c l =>
    simp only [startsIndented, Bool.or_eq_false_iff] at h
    simp [indentOf, h.1, h.2]

lemma ne_nil_of_isBlankLine {l : List Char} (h : isBlankLine l = false) : l ≠ [] := by
  rintro rfl
  cases h

/-- The empty value is printed as six quotes and read back. -/
lemma printBlockString_empty_scansTo (n : Nat) :
    ScansTo ((printBlockString "").toList.flatMap (indentBy n)) [.blockString (rereadBlock "")]
      fun _ => True := by
  have h := lines_scansTo n (l := []) (L := []) (by simp) (by simp)
  have hlead : (blockBreaks "").leading = false := by decide
  have htrail : (blockBreaks "").trailing = false := by decide
  have hread : rereadBlock "" = blockValue [[]] := by decide
  rw [printBlockString_indented, hlead, htrail, hread]
  simpa using h

/-- A value of one line, printed inside text indented by `n` blanks, scans back to what the reader
makes of it. -/
lemma printBlockString_line_scansTo (n : Nat) {l : List Char} (hl : '\n' ∉ l ∧ '\r' ∉ l)
    (hblank : isBlankLine l = false) :
    ScansTo ((printBlockString (String.ofList l)).toList.flatMap (indentBy n))
      [.blockString (rereadBlock (String.ofList l))] fun _ => True := by
  have hnl : (escapeTripleQuotes (String.ofList l).toList).flatMap (indentBy n) =
      escapeTripleQuotes l := by
    rw [String.toList_ofList]
    exact indentBy_flatMap_of_forall
      (fun c hc h => (mem_escapeTripleQuotes hc).elim (fun hc => hl.1 (h ▸ hc)) (by grind)) n
  rw [printBlockString_indented, hnl]
  by_cases hlead : (blockBreaks (String.ofList l)).leading = true
  · -- a break after the opening quotes: the line is read behind a line of its own, and loses
    -- its own indentation with that of the enclosing text
    have hread : rereadBlock (String.ofList l) =
        blockValue [[], List.replicate n ' ' ++ l, List.replicate n ' ' ++ []] := by
      rw [List.append_nil, blockValue_eq_intercalate, dedentLines_single_shifted n hblank,
        List.intercalate_singleton]
      cases hi : startsIndented l
      · simp [rereadBlock, keepsIndentation, hlead, hi, indentOf_eq_zero hi]
      · simp [rereadBlock, keepsIndentation, hlead, hl.1, hi]
    rw [if_pos hlead, if_pos (trailing_of_leading hlead), hread]
    have h := lines_scansTo n (l := []) (L := [l, []]) (by simp [hl]) (by simp)
    simpa [List.intercalate_cons_cons] using h
  · have hread : rereadBlock (String.ofList l) = String.ofList l := by
      simp [rereadBlock, keepsIndentation, hlead]
    rw [if_neg hlead, hread]
    by_cases htrail : (blockBreaks (String.ofList l)).trailing = true
    · -- a break before the closing quotes only: the line, then the indentation
      have h := lines_scansTo n (l := l) (L := [[]]) (by simp [hl]) (by simp)
      rw [blockValue_eq_intercalate, dedentLines_single hblank (by simp),
        List.intercalate_singleton] at h
      rw [if_pos htrail]
      simpa [List.intercalate_cons_cons] using h
    · -- no break at all: the line ends in neither a quote nor a backslash
      have hend := getLast_of_trailing_eq_false (Bool.eq_false_iff.2 htrail)
      rw [String.toList_ofList] at hend
      have h := lines_scansTo n (l := l) (L := []) (by simp [hl]) (by simpa using hend)
      rw [blockValue_eq_intercalate, dedentLines_single hblank (by simp),
        List.intercalate_singleton] at h
      rw [if_neg htrail]
      simpa using h

/-- A value of several lines, the first and last not blank and one unindented, printed inside text
indented by `n` blanks, scans back to itself: the printer breaks the line on both sides, and the
common indentation the reader removes is the enclosing text's. -/
lemma printBlockString_lines_scansTo (n : Nat) {v : String} {l l' : List Char}
    {L : List (List Char)} (hv : v.toList = ['\n'].intercalate (l :: l' :: L))
    (hL : ∀ m ∈ l :: l' :: L, '\n' ∉ m ∧ '\r' ∉ m)
    (hhead : ∀ m ∈ (l :: l' :: L).head?, isBlankLine m = false)
    (hlast : ∀ m ∈ (l :: l' :: L).getLast?, isBlankLine m = false)
    (hzero : ∃ m ∈ l :: l' :: L, isBlankLine m = false ∧ indentOf m = 0) :
    ScansTo ((printBlockString v).toList.flatMap (indentBy n)) [.blockString v] fun _ => True := by
  have hlead : (blockBreaks v).leading = true :=
    leading_of_lines hv (hL l (by simp)).2 fun m hm =>
      ne_nil_of_isBlankLine (hlast m (by simpa [List.getLast?_cons_cons] using hm))
  have hnl : (escapeTripleQuotes v.toList).flatMap (indentBy n) =
      ('\n' :: List.replicate n ' ').intercalate ((l :: l' :: L).map escapeTripleQuotes) := by
    rw [hv, escapeTripleQuotes_intercalate, intercalate_flatMap_indentBy]
    intro m hm hnm
    obtain ⟨m', hm', rfl⟩ := List.mem_map.1 hm
    exact (mem_escapeTripleQuotes hnm).elim (hL m' hm').1 (by decide)
  have hl' : ∀ m ∈ [] :: (l :: l' :: L ++ [[]]), '\n' ∉ m ∧ '\r' ∉ m := by
    intro m hm
    rcases List.mem_cons.1 hm with rfl | hm
    · simp
    rcases List.mem_append.1 hm with hm | hm
    · exact hL m hm
    · rw [List.mem_singleton.1 hm]
      simp
  rw [printBlockString_indented, if_pos hlead, if_pos (trailing_of_leading hlead), hnl]
  have hend : ([] :: (l :: l' :: L ++ [[]])).getLast? = some [] := by
    rw [← List.cons_append, List.getLast?_concat]
  have h := lines_scansTo n (l := []) (L := l :: l' :: L ++ [[]]) hl' (by rw [hend]; simp)
  rw [blockValue_eq_intercalate, dedentLines_shifted n hhead hlast hzero, ← hv,
    String.ofList_toList] at h
  -- the lines read are a blank line, the value's lines and the blanks before the quotes
  have hbody : ('\n' :: List.replicate n ' ').intercalate
      (([] :: (l :: l' :: L ++ [[]])).map escapeTripleQuotes) =
      '\n' :: List.replicate n ' ' ++ (('\n' :: List.replicate n ' ').intercalate
        ((l :: l' :: L).map escapeTripleQuotes) ++ '\n' :: List.replicate n ' ') := by
    rw [List.map_cons, List.map_append, List.map_singleton, escapeTripleQuotes_nil,
      List.intercalate_cons_of_ne_nil (by simp), intercalate_append_singleton _ (by simp)]
    simp
  rw [hbody] at h
  simpa using h

/-- A block string value of the scanner's shape, printed inside text indented by `n` blanks, scans
back to what the reader makes of it, whatever follows it. -/
lemma printBlockString_scansTo (n : Nat) {v : String} (hv : BlockShape v.toList) :
    ScansTo ((printBlockString v).toList.flatMap (indentBy n)) [.blockString (rereadBlock v)]
      fun _ => True := by
  rcases hv with hv | ⟨L, hv, hL, hhead, hlast, hzero⟩
  · rw [String.toList_eq_nil_iff.1 hv]
    exact printBlockString_empty_scansTo n
  rcases L with _ | ⟨l, _ | ⟨l', L⟩⟩
  · -- no line at all is the empty value
    rw [String.toList_eq_nil_iff.1 hv]
    exact printBlockString_empty_scansTo n
  · simp only [List.intercalate_singleton] at hv
    obtain rfl : v = String.ofList l := by rw [← hv, String.ofList_toList]
    exact printBlockString_line_scansTo n (hL l (by simp)) (hlast l (by simp))
  · -- several lines hold a line feed, so the reader keeps them as they are
    have hread : rereadBlock v = v := by
      have hc : '\n' ∈ v.toList := by simp [hv, List.intercalate_cons_cons]
      simp [rereadBlock, keepsIndentation, hc]
    rw [hread]
    exact printBlockString_lines_scansTo n hv hL hhead hlast (hzero (by simp))

/-! ### The values the scanner gives block strings -/

/-- No raw line of a block string breaks a line. -/
lemma readBlockLines_clean {cs : List Char} {pos k : Nat} {lines ls : List (List Char)}
    {line : List Char} (h : readBlockLines cs pos lines line = .ok (ls, k))
    (hlines : ∀ m ∈ lines, '\n' ∉ m ∧ '\r' ∉ m) (hline : '\n' ∉ line ∧ '\r' ∉ line) :
    ∀ m ∈ ls, '\n' ∉ m ∧ '\r' ∉ m := by
  induction cs, pos, lines, line using readBlockLines.induct generalizing ls k with
  | case1 => simp [readBlockLines] at h
  | case2 rest pos lines line =>
    rw [readBlockLines_close] at h
    cases h
    intro m hm
    simp only [List.reverse_cons, List.mem_append, List.mem_reverse, List.mem_singleton] at hm
    rcases hm with hm | rfl
    · exact hlines m hm
    · simpa using hline
  | case3 rest pos lines line ih =>
    simp only [readBlockLines] at h
    obtain ⟨⟨ls', n⟩, hr, h⟩ := bind_eq_ok_iff.1 h
    cases h
    exact ih hr hlines (by simpa using hline)
  | case4 rest pos lines line ih =>
    simp only [readBlockLines] at h
    obtain ⟨⟨ls', n⟩, hr, h⟩ := bind_eq_ok_iff.1 h
    cases h
    refine ih hr ?_ (by simp)
    simpa [List.mem_cons] using ⟨hline, hlines⟩
  | case5 rest pos lines line _ ih | case6 rest pos lines line ih =>
    simp only [readBlockLines] at h
    obtain ⟨⟨ls', n⟩, hr, h⟩ := bind_eq_ok_iff.1 h
    cases h
    refine ih hr ?_ (by simp)
    simpa [List.mem_cons] using ⟨hline, hlines⟩
  | case7 c rest pos lines line h1 h2 h3 h4 h5 ih =>
    rw [readBlockLines] at h <;> try assumption
    obtain ⟨⟨ls', n⟩, hr, h⟩ := bind_eq_ok_iff.1 h
    cases h
    refine ih hr hlines ?_
    simp only [List.mem_cons, not_or]
    exact ⟨⟨fun h => h5 h.symm, hline.1⟩, fun h => h4 h.symm, hline.2⟩

@[simp] lemma isBlankLine_nil : isBlankLine [] = true := rfl

/-- The lines of a block before blank lines are dropped from its ends: the first raw line, and
each later one less the common indentation. -/
def indentCut (lines : List (List Char)) : List (List Char) :=
  lines.take 1 ++ (lines.drop 1).map fun l => l.drop ((commonIndent lines).getD l.length)

lemma dedentLines_eq (lines : List (List Char)) :
    dedentLines lines =
      (((indentCut lines).dropWhile isBlankLine).reverse.dropWhile isBlankLine).reverse := rfl

/-- Dropping from the front what satisfies a test keeps everything that fails it. -/
lemma mem_dropWhile_of_mem {α : Type} {p : α → Bool} {l : List α} {m : α} (hm : m ∈ l)
    (hp : p m = false) : m ∈ l.dropWhile p := by
  induction l with
  | nil => cases hm
  | cons a l ih =>
    rw [List.dropWhile_cons]
    split
    · rcases List.mem_cons.1 hm with rfl | hm
      · simp_all
      · exact ih hm
    · exact hm

lemma getLast?_of_dropWhile {α : Type} {p : α → Bool} {l : List α} {m : α}
    (h : (l.dropWhile p).getLast? = some m) : l.getLast? = some m := by
  rw [← List.takeWhile_append_dropWhile (p := p) (l := l), List.getLast?_append, h]
  rfl

/-- The lines of a block's value come from its cut lines, and keep each that holds more than
blanks. -/
lemma mem_dedentLines_iff {lines : List (List Char)} {m : List Char} (hm : isBlankLine m = false) :
    m ∈ dedentLines lines ↔ m ∈ indentCut lines := by
  rw [dedentLines_eq, List.mem_reverse]
  constructor
  · intro h
    have h := (List.dropWhile_sublist _).subset h
    rw [List.mem_reverse] at h
    exact (List.dropWhile_sublist _).subset h
  · intro h
    exact mem_dropWhile_of_mem (List.mem_reverse.2 (mem_dropWhile_of_mem h hm)) hm

lemma mem_dedentLines {lines : List (List Char)} {m : List Char} (h : m ∈ dedentLines lines) :
    m ∈ indentCut lines := by
  rw [dedentLines_eq, List.mem_reverse] at h
  have h := (List.dropWhile_sublist _).subset h
  rw [List.mem_reverse] at h
  exact (List.dropWhile_sublist _).subset h

/-- The first line of a block's value holds more than blanks. -/
lemma head?_dedentLines {lines : List (List Char)} :
    ∀ m ∈ (dedentLines lines).head?, isBlankLine m = false := by
  intro m hm
  rw [dedentLines_eq, List.head?_reverse] at hm
  have h := getLast?_of_dropWhile hm
  rw [List.getLast?_reverse] at h
  simpa [h] using List.head?_dropWhile_not isBlankLine (indentCut lines)

/-- The last line of a block's value holds more than blanks. -/
lemma getLast?_dedentLines {lines : List (List Char)} :
    ∀ m ∈ (dedentLines lines).getLast?, isBlankLine m = false := by
  intro m hm
  rw [dedentLines_eq, List.getLast?_reverse] at hm
  have := List.head?_dropWhile_not isBlankLine ((indentCut lines).dropWhile isBlankLine).reverse
  rw [Option.mem_def] at hm
  simpa [hm] using this

lemma indentOf_drop_indentOf (l : List Char) : indentOf (l.drop (indentOf l)) = 0 := by
  rw [drop_indentOf]
  have := List.head?_dropWhile_not (fun c => c == ' ' || c == '\t') l
  cases h : l.dropWhile (fun c => c == ' ' || c == '\t') with
  | nil => rfl
  | cons c r =>
    rw [h] at this
    simp only [List.head?_cons] at this
    simp [indentOf, this]

/-- A block with no later line that holds more than blanks has at most one line of value. -/
lemma length_dedentLines_le_one {lines : List (List Char)} (hc : commonIndent lines = none) :
    (dedentLines lines).length ≤ 1 := by
  have hblank : ∀ l ∈ lines.drop 1, isBlankLine l = true := by
    simpa [commonIndent] using hc
  have hcut : indentCut lines = lines.take 1 ++ (lines.drop 1).map fun _ => [] := by
    simp [indentCut, hc]
  rw [dedentLines_eq, hcut]
  rcases lines with _ | ⟨x, rest⟩
  · simp
  · simp only [List.take_succ_cons, List.take_zero, List.drop_succ_cons, List.drop_zero,
      List.singleton_append]
    by_cases hx : isBlankLine x = true
    · rw [List.dropWhile_cons_of_pos hx, List.dropWhile_eq_nil_iff.2 (by simp)]
      simp
    · rw [List.dropWhile_cons_of_neg hx, List.reverse_cons,
        List.dropWhile_append_of_pos (by simp), List.dropWhile_cons_of_neg hx]
      simp

/-- The values the scanner gives block strings have the shape the printer reads back. -/
lemma blockValue_shape {lines : List (List Char)} (hl : ∀ m ∈ lines, '\n' ∉ m ∧ '\r' ∉ m) :
    BlockShape (blockValue lines).toList := by
  rw [blockValue_eq_intercalate, String.toList_ofList]
  refine .inr ⟨dedentLines lines, rfl, fun m hm => ?_, head?_dedentLines, getLast?_dedentLines,
    fun hlen => ?_⟩
  · -- a line of the value is a raw line, or a raw line less some indentation
    have hm := mem_dedentLines hm
    simp only [indentCut, List.mem_append, List.mem_map] at hm
    rcases hm with hm | ⟨l, hl', rfl⟩
    · exact hl m (List.mem_of_mem_take hm)
    · have := hl l (List.mem_of_mem_drop hl')
      exact ⟨fun h => this.1 (List.mem_of_mem_drop h), fun h => this.2 (List.mem_of_mem_drop h)⟩
  · -- the later line of least indentation starts at the margin once that indentation goes
    cases hc : commonIndent lines with
    | none => exact absurd (length_dedentLines_le_one hc) (by omega)
    | some c =>
      obtain ⟨l, ⟨hl', hblank⟩, rfl⟩ : ∃ l, (l ∈ lines.drop 1 ∧ isBlankLine l = false) ∧
          indentOf l = c := by
        simpa [commonIndent] using List.min?_mem hc
      have hcut : l.drop (indentOf l) ∈ indentCut lines := by
        simp only [indentCut, List.mem_append, List.mem_map]
        exact .inr ⟨l, hl', by rw [hc]; rfl⟩
      have hblank' : isBlankLine (l.drop (indentOf l)) = false := by
        rwa [isBlankLine_drop_indentOf]
      exact ⟨_, (mem_dedentLines_iff hblank').2 hcut, hblank', indentOf_drop_indentOf l⟩

end Federation.Syntax
