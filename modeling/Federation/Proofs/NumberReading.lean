import Mathlib
import Federation.Proofs.Scanning

/-!
# Reading numbers

The scanner reads exactly the number literals of GraphQL (`readNumber_eq_ok_iff`): an integer
part (an optional minus sign, then a zero alone or digits that do not start with a zero), an
optional fractional part (a dot and digits) and an optional exponent (`e` or `E`, an optional
sign and digits), a fraction or an exponent making the literal a float; and a literal must not
run into a digit, a dot or a name (`NumberEnd`). Each part is read by a function of its own, and
each has a lemma that says what it reads, in both directions.

So the text of a number token scans back to that token wherever a printer writes it
(`number_scansTo`).
-/

namespace Federation.Syntax.Lexer

/-! ### The grammar of number literals -/

/-- One or more digits. -/
def isDigits (ds : List Char) : Bool := !ds.isEmpty && ds.all isDigit

/-- What may follow a run of digits: no further digit. -/
def DigitEnd (rest : List Char) : Prop := ∀ c ∈ rest.head?, isDigit c = false

/-- An integer part without its sign: a zero alone, or digits that do not start with a zero. -/
def IsUnsignedPart (ds : List Char) : Prop := ds = ['0'] ∨ isDigits ds = true ∧ ds.head? ≠ some '0'

/-- The integer part of a number: an optional minus sign, then the part without it. -/
def IsIntegerPart (cs : List Char) : Prop :=
  IsUnsignedPart cs ∨ ∃ ds, cs = '-' :: ds ∧ IsUnsignedPart ds

/-- The fractional part of a number: a dot and digits. -/
def IsFractionPart (cs : List Char) : Prop := ∃ ds, cs = '.' :: ds ∧ isDigits ds = true

/-- The exponent of a number: a letter `e` of either case, an optional sign and digits. -/
def IsExponentPart (cs : List Char) : Prop :=
  ∃ e sign ds, cs = e :: (sign ++ ds) ∧ (e = 'e' ∨ e = 'E') ∧
    (sign = [] ∨ sign = ['+'] ∨ sign = ['-']) ∧ isDigits ds = true

/-- A number literal and the token it stands for: an integer part, then an optional fractional
part and an optional exponent; a literal with either is a float, any other an integer. -/
def NumberLiteral (cs : List Char) (t : Token) : Prop :=
  ∃ i f e, cs = i ++ f ++ e ∧ IsIntegerPart i ∧ (f = [] ∨ IsFractionPart f) ∧
    (e = [] ∨ IsExponentPart e) ∧
    t = if f = [] ∧ e = [] then .int (String.ofList cs) else .float (String.ofList cs)

/-- What may follow a number literal: no digit, no dot and nothing that starts a name. -/
def NumberEnd (rest : List Char) : Prop :=
  ∀ c ∈ rest.head?, isDigit c = false ∧ c ≠ '.' ∧ isNameStart c = false

/-! ### Reading the parts -/

section Parts

variable {cs : List Char} {pos k : Nat} {b : Bool}

lemma bind_eq_ok_iff {ε α β : Type} {x : Except ε α} {f : α → Except ε β} {y : β} :
    x >>= f = .ok y ↔ ∃ a, x = .ok a ∧ f a = .ok y := by
  cases x with
  | error e => simp [bind, Except.bind]
  | ok a => simp [bind, Except.bind]

@[simp] lemma isDigits_iff {ds : List Char} :
    isDigits ds = true ↔ ds ≠ [] ∧ ∀ c ∈ ds, isDigit c = true := by
  simp [isDigits]

/-- The digits at the head of a text are followed by no digit. -/
lemma digitEnd_dropWhile (cs : List Char) : DigitEnd (cs.dropWhile isDigit) := by
  induction cs with
  | nil => simp [DigitEnd]
  | cons c cs ih =>
    by_cases hc : isDigit c = true
    · rwa [List.dropWhile_cons_of_pos hc]
    · simpa [List.dropWhile_cons_of_neg hc, DigitEnd] using hc

lemma readDigits_eq_ok_iff : readDigits cs pos = .ok k ↔
    ∃ ds rest, cs = ds ++ rest ∧ k = ds.length ∧ isDigits ds = true ∧ DigitEnd rest := by
  constructor
  · intro h
    cases cs with
    | nil => cases h
    | cons c cs =>
      simp only [readDigits] at h
      split at h
      · cases h
        refine ⟨(c :: cs).takeWhile isDigit, (c :: cs).dropWhile isDigit, by simp, rfl, ?_,
          digitEnd_dropWhile _⟩
        exact isDigits_iff.2 ⟨by simp_all, fun d hd => List.mem_takeWhile_imp hd⟩
      · cases h
  · rintro ⟨ds, rest, rfl, rfl, hds, hend⟩
    obtain ⟨d, ds, rfl⟩ := List.exists_cons_of_ne_nil (isDigits_iff.1 hds).1
    have hd := (isDigits_iff.1 hds).2
    simp only [readDigits, List.cons_append, hd d (by simp), if_true]
    rw [← List.cons_append, takeWhile_append_of_head hd hend]
    rfl

/-- Reading the integer part without its sign from a character other than zero reads digits. -/
lemma readUnsignedPart_of_ne {c : Char} (hc : c ≠ '0') :
    readUnsignedPart (c :: cs) pos = readDigits (c :: cs) pos := by
  unfold readUnsignedPart
  split <;> simp_all

lemma readUnsignedPart_eq_ok_iff : readUnsignedPart cs pos = .ok k ↔
    ∃ ds rest, cs = ds ++ rest ∧ k = ds.length ∧ IsUnsignedPart ds ∧ DigitEnd rest := by
  constructor
  · intro h
    unfold readUnsignedPart at h
    split at h
    · rename_i c rest
      split at h
      · cases h
      · rename_i hc
        cases h
        exact ⟨['0'], c :: rest, rfl, rfl, .inl rfl, by simpa [DigitEnd] using hc⟩
    · cases h
      exact ⟨['0'], [], rfl, rfl, .inl rfl, by simp [DigitEnd]⟩
    · rename_i hzero hone
      obtain ⟨ds, rest, rfl, rfl, hds, hend⟩ := readDigits_eq_ok_iff.1 h
      refine ⟨ds, rest, rfl, rfl, .inr ⟨hds, ?_⟩, hend⟩
      -- a run of digits that starts with zero is read by the other two cases
      intro hhead
      obtain ⟨ds', rfl⟩ : ∃ ds', ds = '0' :: ds' := by
        cases ds with
        | nil => simp at hhead
        | cons d ds => simp at hhead; exact ⟨ds, by rw [hhead]⟩
      cases hrest : ds' ++ rest with
      | nil => exact hone (by simp [hrest])
      | cons c r => exact hzero c r (by simp [hrest])
  · rintro ⟨ds, rest, rfl, rfl, hds | ⟨hds, hhead⟩, hend⟩
    · subst hds
      cases rest with
      | nil => rfl
      | cons c rest =>
        have hc : isDigit c = false := hend c (by simp)
        simp [readUnsignedPart, hc]
        rfl
    · obtain ⟨d, ds, rfl⟩ := List.exists_cons_of_ne_nil (isDigits_iff.1 hds).1
      rw [List.cons_append, readUnsignedPart_of_ne (by simpa using hhead), ← List.cons_append]
      exact readDigits_eq_ok_iff.2 ⟨_, rest, rfl, rfl, hds, hend⟩

/-- An integer part without its sign starts with a digit. -/
lemma IsUnsignedPart.head {ds : List Char} (h : IsUnsignedPart ds) :
    ∃ d ds', ds = d :: ds' ∧ isDigit d = true := by
  rcases h with rfl | ⟨hds, -⟩
  · exact ⟨'0', [], rfl, rfl⟩
  · obtain ⟨d, ds', rfl⟩ := List.exists_cons_of_ne_nil (isDigits_iff.1 hds).1
    exact ⟨d, ds', rfl, (isDigits_iff.1 hds).2 d (by simp)⟩

lemma readIntegerPart_eq_ok_iff : readIntegerPart cs pos = .ok k ↔
    ∃ i rest, cs = i ++ rest ∧ k = i.length ∧ IsIntegerPart i ∧ DigitEnd rest := by
  constructor
  · intro h
    unfold readIntegerPart at h
    split at h
    · rename_i rest
      obtain ⟨k', h', hk⟩ := bind_eq_ok_iff.1 h
      cases hk
      obtain ⟨ds, rest', rfl, rfl, hds, hend⟩ := readUnsignedPart_eq_ok_iff.1 h'
      exact ⟨'-' :: ds, rest', rfl, by simp [Nat.add_comm], .inr ⟨ds, rfl, hds⟩, hend⟩
    · obtain ⟨ds, rest, rfl, rfl, hds, hend⟩ := readUnsignedPart_eq_ok_iff.1 h
      exact ⟨ds, rest, rfl, rfl, .inl hds, hend⟩
  · rintro ⟨i, rest, rfl, rfl, hi | ⟨ds, rfl, hds⟩, hend⟩
    · obtain ⟨d, ds', rfl, hd⟩ := hi.head
      have hne : d ≠ '-' := by rintro rfl; simp [isDigit] at hd
      have : readIntegerPart (d :: ds' ++ rest) pos = readUnsignedPart (d :: ds' ++ rest) pos := by
        unfold readIntegerPart
        split <;> simp_all
      rw [this]
      exact readUnsignedPart_eq_ok_iff.2 ⟨_, rest, rfl, rfl, hi, hend⟩
    · have h : readUnsignedPart (ds ++ rest) (pos + 1) = .ok ds.length :=
        readUnsignedPart_eq_ok_iff.2 ⟨ds, rest, rfl, rfl, hds, hend⟩
      simp only [readIntegerPart, List.cons_append, bind_eq_ok_iff]
      exact ⟨_, h, by simp [pure, Except.pure, Nat.add_comm]⟩

lemma readFractionPart_eq_ok_iff : readFractionPart cs pos = .ok (k, b) ↔
    (cs.head? ≠ some '.' ∧ k = 0 ∧ b = false) ∨
      ∃ f rest, cs = f ++ rest ∧ k = f.length ∧ IsFractionPart f ∧ DigitEnd rest ∧ b = true := by
  constructor
  · intro h
    unfold readFractionPart at h
    split at h
    · rename_i rest
      obtain ⟨k', h', hk⟩ := bind_eq_ok_iff.1 h
      cases hk
      obtain ⟨ds, rest', rfl, rfl, hds, hend⟩ := readDigits_eq_ok_iff.1 h'
      exact .inr ⟨'.' :: ds, rest', rfl, by simp [Nat.add_comm], ⟨ds, rfl, hds⟩, hend, rfl⟩
    · rename_i hdot
      cases h
      refine .inl ⟨?_, rfl, rfl⟩
      intro hhead
      obtain ⟨rest, rfl⟩ : ∃ rest, cs = '.' :: rest := by
        cases cs with
        | nil => simp at hhead
        | cons c cs => simp at hhead; exact ⟨cs, by rw [hhead]⟩
      exact hdot rest rfl
  · rintro (⟨hhead, rfl, rfl⟩ | ⟨f, rest, rfl, rfl, ⟨ds, rfl, hds⟩, hend, rfl⟩)
    · unfold readFractionPart
      split
      · simp at hhead
      · rfl
    · have h : readDigits (ds ++ rest) (pos + 1) = .ok ds.length :=
        readDigits_eq_ok_iff.2 ⟨ds, rest, rfl, rfl, hds, hend⟩
      simp only [readFractionPart, List.cons_append, bind_eq_ok_iff]
      exact ⟨_, h, by simp [pure, Except.pure, Nat.add_comm]⟩

/-- What follows an exponent's letter splits into its sign, if there is one, and the rest. -/
lemma exists_exponentSign (rest : List Char) : ∃ sign r, rest = sign ++ r ∧
    (sign = [] ∨ sign = ['+'] ∨ sign = ['-']) ∧
    (sign = [] → ∀ c ∈ r.head?, c ≠ '+' ∧ c ≠ '-') := by
  cases rest with
  | nil => exact ⟨[], [], rfl, .inl rfl, fun _ => by simp⟩
  | cons c r =>
    by_cases hc : c = '+' ∨ c = '-'
    · rcases hc with rfl | rfl
      · exact ⟨['+'], r, rfl, .inr (.inl rfl), by simp⟩
      · exact ⟨['-'], r, rfl, .inr (.inr rfl), by simp⟩
    · exact ⟨[], c :: r, rfl, .inl rfl, fun _ => by simpa [not_or] using hc⟩

/-- After its letter, an exponent takes its sign, if there is one, and then reads its digits. -/
lemma readExponentPart_signed {e : Char} (he : e = 'e' ∨ e = 'E') {sign r : List Char}
    (hsign : sign = [] ∨ sign = ['+'] ∨ sign = ['-'])
    (hr : sign = [] → ∀ c ∈ r.head?, c ≠ '+' ∧ c ≠ '-') :
    readExponentPart (e :: (sign ++ r)) pos =
      (do let d ← readDigits r (pos + 1 + sign.length); pure (1 + sign.length + d, true)) := by
  have he' : (e == 'e' || e == 'E') = true := by rcases he with rfl | rfl <;> rfl
  rcases hsign with rfl | rfl | rfl
  · cases r with
    | nil => simp [readExponentPart, he']
    | cons c r =>
      have hc : (c == '+' || c == '-') = false := by simpa using hr rfl c rfl
      simp [readExponentPart, he', hc]
  · simp [readExponentPart, he']
  · simp [readExponentPart, he']

lemma readExponentPart_eq_ok_iff : readExponentPart cs pos = .ok (k, b) ↔
    ((∀ c ∈ cs.head?, c ≠ 'e' ∧ c ≠ 'E') ∧ k = 0 ∧ b = false) ∨
      ∃ e rest, cs = e ++ rest ∧ k = e.length ∧ IsExponentPart e ∧ DigitEnd rest ∧ b = true := by
  constructor
  · intro h
    cases cs with
    | nil =>
      cases h
      exact .inl ⟨by simp, rfl, rfl⟩
    | cons e rest =>
      by_cases he : e = 'e' ∨ e = 'E'
      · obtain ⟨sign, r, rfl, hsign, hr⟩ := exists_exponentSign rest
        rw [readExponentPart_signed he hsign hr] at h
        obtain ⟨d, hd, hk⟩ := bind_eq_ok_iff.1 h
        cases hk
        obtain ⟨ds, rest, rfl, rfl, hds, hend⟩ := readDigits_eq_ok_iff.1 hd
        refine .inr ⟨e :: (sign ++ ds), rest, by simp, ?_, ⟨e, sign, ds, rfl, he, hsign, hds⟩,
          hend, rfl⟩
        simp
        omega
      · have he' : (e == 'e' || e == 'E') = false := by simpa [not_or] using he
        simp only [readExponentPart, he'] at h
        cases h
        exact .inl ⟨by simpa [not_or] using he, rfl, rfl⟩
  · rintro (⟨hhead, rfl, rfl⟩ | ⟨ex, rest, rfl, rfl, ⟨e, sign, ds, rfl, he, hsign, hds⟩, hend, rfl⟩)
    · unfold readExponentPart
      split
      · rename_i e rest
        have he : (e == 'e' || e == 'E') = false := by simpa using hhead
        simp [he]
        rfl
      · rfl
    · -- the digits start with a digit, which is no sign
      obtain ⟨d, ds', rfl⟩ := List.exists_cons_of_ne_nil (isDigits_iff.1 hds).1
      have hd : isDigit d = true := (isDigits_iff.1 hds).2 d (by simp)
      have hr : sign = [] → ∀ c ∈ (d :: ds' ++ rest).head?, c ≠ '+' ∧ c ≠ '-' := by
        intro _ c hc
        obtain rfl : d = c := by simpa using hc
        constructor <;> rintro rfl <;> simp [isDigit] at hd
      rw [List.cons_append, List.append_assoc, readExponentPart_signed he hsign hr,
        readDigits_eq_ok_iff.2 ⟨_, rest, rfl, rfl, hds, hend⟩]
      show Except.ok _ = _
      simp only [Except.ok.injEq, Prod.mk.injEq, and_true, List.length_cons, List.length_append]
      omega

end Parts

/-! ### Reading a whole number -/

/-- A fractional part starts with a dot, an exponent with a letter `e`. -/
lemma IsFractionPart.head {f : List Char} (h : IsFractionPart f) (rest : List Char) :
    (f ++ rest).head? = some '.' := by
  obtain ⟨ds, rfl, -⟩ := h
  rfl

lemma IsExponentPart.head {e : List Char} (h : IsExponentPart e) (rest : List Char) :
    ∃ c, (e ++ rest).head? = some c ∧ (c = 'e' ∨ c = 'E') := by
  obtain ⟨c, sign, ds, rfl, hc, -⟩ := h
  exact ⟨c, rfl, hc⟩

/-- The three parts of a number are what the scanner takes, and the rest what it leaves. -/
lemma drop_parts (i f e r : List Char) :
    (i ++ (f ++ (e ++ r))).drop (i.length + f.length + e.length) = r := by
  rw [← List.append_assoc, ← List.append_assoc, ← List.length_append, ← List.length_append,
    List.drop_left]

lemma take_parts (i f e r : List Char) :
    (i ++ (f ++ (e ++ r))).take (i.length + f.length + e.length) = i ++ f ++ e := by
  rw [← List.append_assoc, ← List.append_assoc, ← List.length_append, ← List.length_append,
    List.take_left]

/-- An integer part, an optional fractional part and an optional exponent make a literal. -/
lemma numberLiteral_parts {i f e : List Char} (hi : IsIntegerPart i) (hf : f = [] ∨ IsFractionPart f)
    (he : e = [] ∨ IsExponentPart e) :
    NumberLiteral (i ++ f ++ e) (if (!f.isEmpty || !e.isEmpty) = true then
      .float (String.ofList (i ++ f ++ e)) else .int (String.ofList (i ++ f ++ e))) :=
  ⟨i, f, e, rfl, hi, hf, he, by cases f <;> cases e <;> simp⟩

/-- What the scanner reads as a number is a literal, and what follows it cannot continue it. -/
lemma literal_of_readNumber {cs : List Char} {start n : Nat} {t : Token}
    (h : readNumber cs start = .ok (t, n)) :
    ∃ lit rest, cs = lit ++ rest ∧ n = lit.length ∧ NumberLiteral lit t ∧ NumberEnd rest := by
  obtain ⟨n₁, h₁, hk₁⟩ := bind_eq_ok_iff.1 h
  obtain ⟨i, r₁, rfl, rfl, hi, hd₁⟩ := readIntegerPart_eq_ok_iff.1 h₁
  obtain ⟨⟨k₂, fraction⟩, h₂, hk₂⟩ := bind_eq_ok_iff.1 hk₁
  rw [List.drop_left] at h₂
  -- the fractional part, possibly empty, and the digits that cannot follow it
  obtain ⟨f, r₂, rfl, rfl, hf, hfrac, hd₂⟩ : ∃ f r₂, r₁ = f ++ r₂ ∧ k₂ = f.length ∧
      (f = [] ∨ IsFractionPart f) ∧ fraction = !f.isEmpty ∧ DigitEnd r₂ := by
    rcases readFractionPart_eq_ok_iff.1 h₂ with ⟨-, rfl, rfl⟩ | ⟨f, r₂, rfl, rfl, hf, hd, rfl⟩
    · exact ⟨[], r₁, rfl, rfl, .inl rfl, rfl, hd₁⟩
    · obtain ⟨ds, rfl, hds⟩ := hf
      exact ⟨_, r₂, rfl, rfl, .inr ⟨ds, rfl, hds⟩, rfl, hd⟩
  dsimp only at hk₂
  obtain ⟨⟨k₃, exponent⟩, h₃, hk₃⟩ := bind_eq_ok_iff.1 hk₂
  have e₂ : (i ++ (f ++ r₂)).drop (i.length + f.length) = r₂ := by simp
  rw [e₂] at h₃
  -- the exponent, possibly empty, and the digits that cannot follow it
  obtain ⟨e, r₃, rfl, rfl, he, hexp, hd₃⟩ : ∃ e r₃, r₂ = e ++ r₃ ∧ k₃ = e.length ∧
      (e = [] ∨ IsExponentPart e) ∧ exponent = !e.isEmpty ∧ DigitEnd r₃ := by
    rcases readExponentPart_eq_ok_iff.1 h₃ with ⟨-, rfl, rfl⟩ | ⟨e, r₃, rfl, rfl, he, hd, rfl⟩
    · exact ⟨[], r₂, rfl, rfl, .inl rfl, rfl, hd₂⟩
    · obtain ⟨c, sign, ds, rfl, hc⟩ := he
      exact ⟨_, r₃, rfl, rfl, .inr ⟨c, sign, ds, rfl, hc⟩, rfl, hd⟩
  dsimp only at hk₃
  rw [drop_parts, take_parts] at hk₃
  subst hfrac hexp
  -- the end of the number is checked last: a dot or a name there is an error
  obtain ⟨hend, hval⟩ : NumberEnd r₃ ∧
      (if (!f.isEmpty || !e.isEmpty) = true then Token.float (String.ofList (i ++ f ++ e))
        else Token.int (String.ofList (i ++ f ++ e)), i.length + f.length + e.length) = (t, n) := by
    split at hk₃
    · rename_i c tail
      split at hk₃
      · cases hk₃
      · rename_i hc
        refine ⟨fun d hd => ?_, Except.ok.inj hk₃⟩
        obtain rfl : c = d := by simpa using hd
        simp only [Bool.or_eq_true, beq_iff_eq, not_or, Bool.not_eq_true] at hc
        exact ⟨hd₃ c (by simp), hc.1, hc.2⟩
    · exact ⟨by simp [NumberEnd], Except.ok.inj hk₃⟩
  obtain ⟨rfl, rfl⟩ := Prod.mk.inj hval
  exact ⟨i ++ f ++ e, r₃, by simp, by simp [Nat.add_assoc], numberLiteral_parts hi hf he, hend⟩

/-- No digit follows an optional exponent that a number's end follows. -/
lemma digitEnd_exponent {e rest : List Char} (he : e = [] ∨ IsExponentPart e)
    (hend : NumberEnd rest) : DigitEnd (e ++ rest) := by
  rcases he with rfl | he
  · exact fun c hc => (hend c (by simpa using hc)).1
  · obtain ⟨c, hc, hce⟩ := he.head rest
    intro d hd
    rw [hc] at hd
    cases hd
    rcases hce with rfl | rfl <;> rfl

/-- An optional exponent, followed by a number's end, is read as such. -/
lemma readExponentPart_of_literal {e rest : List Char} (he : e = [] ∨ IsExponentPart e)
    (hend : NumberEnd rest) (pos : Nat) :
    readExponentPart (e ++ rest) pos = .ok (e.length, !e.isEmpty) := by
  rcases he with rfl | he
  · refine readExponentPart_eq_ok_iff.2 (.inl ⟨fun c hc => ?_, rfl, rfl⟩)
    have := (hend c (by simpa using hc)).2.2
    constructor <;> rintro rfl <;> simp [isNameStart] at this
  · obtain ⟨c, sign, ds, rfl, hc⟩ := he
    exact readExponentPart_eq_ok_iff.2
      (.inr ⟨_, _, rfl, rfl, ⟨c, sign, ds, rfl, hc⟩, fun d hd => (hend d hd).1, rfl⟩)

/-- An optional fractional part, followed by an optional exponent and a number's end, is read as
such. -/
lemma readFractionPart_of_literal {f e rest : List Char} (hf : f = [] ∨ IsFractionPart f)
    (he : e = [] ∨ IsExponentPart e) (hend : NumberEnd rest) (pos : Nat) :
    readFractionPart (f ++ (e ++ rest)) pos = .ok (f.length, !f.isEmpty) := by
  rcases hf with rfl | hf
  · refine readFractionPart_eq_ok_iff.2 (.inl ⟨?_, rfl, rfl⟩)
    rcases he with rfl | he
    · intro h
      exact (hend '.' (by simpa using h)).2.1 rfl
    · obtain ⟨c, hc, hce⟩ := he.head rest
      rw [List.nil_append, hc]
      rcases hce with rfl | rfl <;> simp
  · obtain ⟨ds, rfl, hds⟩ := hf
    exact readFractionPart_eq_ok_iff.2
      (.inr ⟨_, _, rfl, rfl, ⟨ds, rfl, hds⟩, digitEnd_exponent he hend, rfl⟩)

/-- A number literal followed by a number's end is read as its token. -/
lemma readNumber_of_literal {lit rest : List Char} {t : Token} (hlit : NumberLiteral lit t)
    (hend : NumberEnd rest) (start : Nat) : readNumber (lit ++ rest) start = .ok (t, lit.length) := by
  obtain ⟨i, f, e, rfl, hi, hf, he, rfl⟩ := hlit
  -- no digit follows the integer part
  have hd₁ : DigitEnd (f ++ (e ++ rest)) := by
    rcases hf with rfl | hf
    · simpa using digitEnd_exponent he hend
    · intro d hd
      rw [hf.head] at hd
      cases hd
      rfl
  have h₁ : readIntegerPart (i ++ (f ++ (e ++ rest))) start = .ok i.length :=
    readIntegerPart_eq_ok_iff.2 ⟨i, f ++ (e ++ rest), rfl, rfl, hi, hd₁⟩
  simp only [List.append_assoc]
  rw [readNumber, bind_eq_ok_iff]
  refine ⟨_, h₁, ?_⟩
  rw [List.drop_left, bind_eq_ok_iff]
  refine ⟨_, readFractionPart_of_literal hf he hend _, ?_⟩
  dsimp only
  rw [show (i ++ (f ++ (e ++ rest))).drop (i.length + f.length) = e ++ rest by simp, bind_eq_ok_iff]
  refine ⟨_, readExponentPart_of_literal he hend _, ?_⟩
  dsimp only
  rw [drop_parts, take_parts]
  -- nothing that could continue the number follows it
  have hval : (if (!f.isEmpty || !e.isEmpty) = true then Token.float (String.ofList (i ++ f ++ e))
      else Token.int (String.ofList (i ++ f ++ e)), i.length + f.length + e.length) =
      (if f = [] ∧ e = [] then Token.int (String.ofList (i ++ (f ++ e)))
        else Token.float (String.ofList (i ++ (f ++ e))), (i ++ (f ++ e)).length) := by
    cases f <;> cases e <;> simp
    omega
  cases rest with
  | nil => exact congrArg Except.ok hval
  | cons c tail =>
    have hc : (c == '.' || isNameStart c) = false := by
      obtain ⟨-, hdot, hname⟩ := hend c (by simp)
      simpa [hdot] using hname
    simp only [hc]
    exact congrArg Except.ok hval

/-- The scanner reads a number literal, up to the first character that cannot continue it, and
only such a literal. -/
theorem readNumber_eq_ok_iff {cs : List Char} {start n : Nat} {t : Token} :
    readNumber cs start = .ok (t, n) ↔
      ∃ lit rest, cs = lit ++ rest ∧ n = lit.length ∧ NumberLiteral lit t ∧ NumberEnd rest := by
  refine ⟨literal_of_readNumber, ?_⟩
  rintro ⟨lit, rest, rfl, rfl, hlit, hend⟩
  exact readNumber_of_literal hlit hend start


/-! ### Scanning numbers -/

/-- A number literal stands for a number token, never for the end of input. -/
lemma NumberLiteral.ne_eof {lit : List Char} {t : Token} (h : NumberLiteral lit t) : t ≠ .eof := by
  obtain ⟨i, f, e, -, -, -, -, rfl⟩ := h
  split <;> simp

/-- A number literal starts with a digit or a minus sign. -/
lemma NumberLiteral.head {lit : List Char} {t : Token} (h : NumberLiteral lit t) :
    ∃ c lit', lit = c :: lit' ∧ (isDigit c = true ∨ c = '-') := by
  obtain ⟨i, f, e, rfl, hi | ⟨ds, rfl, -⟩, -⟩ := h
  · obtain ⟨d, ds, rfl, hd⟩ := hi.head
    exact ⟨d, ds ++ f ++ e, rfl, .inl hd⟩
  · exact ⟨'-', ds ++ f ++ e, rfl, .inr rfl⟩

/-- The scanner reads a number at a digit or a minus sign. -/
lemma scanFrom_number {c : Char} {rest : List Char} {pos skipped fuel n : Nat} {t : Token}
    (hc : isDigit c = true ∨ c = '-') (hread : readNumber (c :: rest) pos = .ok (t, n)) :
    scanFrom (fuel + 1) (c :: rest) pos skipped =
      .cons ⟨t, pos, max skipped 4⟩ (scanFrom fuel ((c :: rest).drop n) (pos + n) 0) := by
  obtain ⟨hb, hh, hp⟩ := not_skipped_of_starts (.inr hc)
  have hname : isNameStart c = false := by
    rcases hc with hc | rfl
    · exact isNameStart_eq_false_of_isDigit hc
    · rfl
  have hnum : (isDigit c || c == '-') = true := by
    rcases hc with hc | rfl
    · simp [hc]
    · rfl
  simp only [scanFrom, hb, hh, hp, hname, hnum, hread]
  rfl

/-- A number literal scans back to its token wherever what follows cannot continue it. -/
lemma number_scansTo {lit : List Char} {t : Token} (h : NumberLiteral lit t) :
    ScansTo lit [t] NumberEnd := by
  intro rest hr fuel pos skipped hlen
  obtain ⟨fuel, rfl⟩ : ∃ f, fuel = f + 1 := ⟨fuel - 1, by simp at hlen; omega⟩
  obtain ⟨c, lit', rfl, hc⟩ := h.head
  have hread : readNumber (c :: lit' ++ rest) pos = .ok (t, (c :: lit').length) :=
    readNumber_of_literal h hr pos
  refine ⟨fuel, pos + (c :: lit').length, 0, by simp at hlen; omega, ?_⟩
  rw [List.cons_append] at hread ⊢
  rw [scanFrom_number hc hread, ← List.cons_append, List.drop_left]
  simp [h.ne_eof]

end Federation.Syntax.Lexer
