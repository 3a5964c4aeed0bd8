import Mathlib.Tactic.Lemma
import Federation.FieldSet

/-!
# Selections as tokens

The grammar of selections, read off the tokens that stand for them. A value, a directive or a
selection stands for exactly one sequence of tokens (`Value.tokens`, `Directive.tokens`,
`Selection.tokens`): commas and blanks are not tokens, and a selection set, an argument list or
a field's selections are written only when they hold something. The reader gives back from these
tokens the selections they stand for, with directives that also remember where they stood in
their source; `Selection.unsited` forgets that.

Not every selection is read back from its tokens: an enum value named `true`, `false` or `null`
reads as a literal, a fragment spread of the name `on` as an inline fragment, and an empty
selection set is no selection set at all. `Selection.Readable` excludes exactly these.
-/

namespace Federation.Syntax

/-- The tokens of a stream up to its end, the end of input included; a stream that ends in an
error holds no token at its end. -/
def TokenStream.tokens : TokenStream → List Token
  | .cons l r => if l.token = .eof then [.eof] else l.token :: r.tokens
  | .eof _ _ => [.eof]
  | .error _ _ => []

/-! ### Token forms -/

mutual

/-- The tokens of a value: a variable as a dollar and a name, a literal as its token, a list and
an object in brackets and braces. -/
def Value.tokens : Value → List Token
  | .variable n => [.punct .dollar, .name n]
  | .int t => [.int t]
  | .float t => [.float t]
  | .string s block => [if block then .blockString s else .string s]
  | .boolean b => [.name (if b then "true" else "false")]
  | .null => [.name "null"]
  | .enum n => [.name n]
  | .list items => .punct .bracketL :: Value.itemTokens items ++ [.punct .bracketR]
  | .object fields => .punct .braceL :: Value.fieldTokens fields ++ [.punct .braceR]

/-- The tokens of the items of a list value. -/
def Value.itemTokens : List Value → List Token
  | [] => []
  | v :: vs => v.tokens ++ Value.itemTokens vs

/-- The tokens of named values: each name, a colon and the value. -/
def Value.fieldTokens : List (String × Value) → List Token
  | [] => []
  | (n, v) :: fs => .name n :: .punct .colon :: v.tokens ++ Value.fieldTokens fs

end

/-- The tokens of arguments: none when there are none, and otherwise the named values in
parentheses. -/
def argumentTokens (arguments : List (String × Value)) : List Token :=
  if arguments = [] then [] else .punct .parenL :: Value.fieldTokens arguments ++ [.punct .parenR]

/-- The tokens of a directive: an at sign, its name and its arguments. -/
def Directive.tokens (d : Directive) : List Token :=
  .punct .atSign :: .name d.name :: argumentTokens d.arguments

/-- The tokens of directives, one after another. -/
def directiveTokens (ds : List Directive) : List Token := ds.flatMap Directive.tokens

/-- The tokens of a field's alias: the alias and a colon. -/
def aliasTokens : Option String → List Token
  | some a => [.name a, .punct .colon]
  | none => []

/-- The tokens of an inline fragment's type condition: `on` and the type. -/
def conditionTokens : Option String → List Token
  | some t => [.name "on", .name t]
  | none => []

mutual

/-- The tokens of a selection: a field with its alias, arguments, directives and selection set;
a fragment spread; an inline fragment with its type condition, directives and selection set. -/
def Selection.tokens : Selection → List Token
  | .field a n arguments ds none =>
    aliasTokens a ++ .name n :: argumentTokens arguments ++ directiveTokens ds
  | .field a n arguments ds (some sels) =>
    aliasTokens a ++ .name n :: argumentTokens arguments ++ directiveTokens ds ++
      .punct .braceL :: Selection.listTokens sels ++ [.punct .braceR]
  | .fragmentSpread n ds => .punct .spread :: .name n :: directiveTokens ds
  | .inlineFragment tc ds sels =>
    .punct .spread :: conditionTokens tc ++ directiveTokens ds ++
      .punct .braceL :: Selection.listTokens sels ++ [.punct .braceR]

/-- The tokens of selections, one after another. -/
def Selection.listTokens : List Selection → List Token
  | [] => []
  | s :: ss => s.tokens ++ Selection.listTokens ss

end

/-! ### What the reader gives back -/

mutual

/-- A value the reader gives back from its tokens: no enum value is named as a literal. -/
def Value.Readable : Value → Prop
  | .enum n => n ≠ "true" ∧ n ≠ "false" ∧ n ≠ "null"
  | .list items => Value.ItemsReadable items
  | .object fields => Value.FieldsReadable fields
  | _ => True

def Value.ItemsReadable : List Value → Prop
  | [] => True
  | v :: vs => v.Readable ∧ Value.ItemsReadable vs

def Value.FieldsReadable : List (String × Value) → Prop
  | [] => True
  | (_, v) :: fs => v.Readable ∧ Value.FieldsReadable fs

end

/-- Directives the reader gives back: their arguments' values are. -/
def Directive.Readable (d : Directive) : Prop := Value.FieldsReadable d.arguments

mutual

/-- A selection the reader gives back from its tokens: its values and directives are, a fragment
spread is not named `on`, and a selection set holds a selection. -/
def Selection.Readable : Selection → Prop
  | .field _ _ arguments ds none => Value.FieldsReadable arguments ∧ ∀ d ∈ ds, d.Readable
  | .field _ _ arguments ds (some sels) =>
    Value.FieldsReadable arguments ∧ (∀ d ∈ ds, d.Readable) ∧ sels ≠ [] ∧
      Selection.ListReadable sels
  | .fragmentSpread n ds => n ≠ "on" ∧ ∀ d ∈ ds, d.Readable
  | .inlineFragment _ ds sels => (∀ d ∈ ds, d.Readable) ∧ sels ≠ [] ∧ Selection.ListReadable sels

def Selection.ListReadable : List Selection → Prop
  | [] => True
  | s :: ss => s.Readable ∧ Selection.ListReadable ss

end

/-! ### Forgetting where directives stood -/

/-- A directive without the record of where it stood. -/
def Directive.unsited (d : Directive) : Directive := { d with site := none }

mutual

/-- A selection whose directives forget where they stood. -/
def Selection.unsited : Selection → Selection
  | .field a n arguments ds none => .field a n arguments (ds.map Directive.unsited) none
  | .field a n arguments ds (some sels) =>
    .field a n arguments (ds.map Directive.unsited) (some (Selection.listUnsited sels))
  | .fragmentSpread n ds => .fragmentSpread n (ds.map Directive.unsited)
  | .inlineFragment tc ds sels =>
    .inlineFragment tc (ds.map Directive.unsited) (Selection.listUnsited sels)

def Selection.listUnsited : List Selection → List Selection
  | [] => []
  | s :: ss => s.unsited :: Selection.listUnsited ss

end

/-! ### Small lemmas -/

@[simp] lemma Value.itemTokens_nil : Value.itemTokens [] = [] := by simp [Value.itemTokens]

@[simp] lemma Value.itemTokens_cons (v : Value) (vs : List Value) :
    Value.itemTokens (v :: vs) = v.tokens ++ Value.itemTokens vs := by simp [Value.itemTokens]

@[simp] lemma Value.fieldTokens_nil : Value.fieldTokens [] = [] := by simp [Value.fieldTokens]

@[simp] lemma Value.fieldTokens_cons (n : String) (v : Value) (fs : List (String × Value)) :
    Value.fieldTokens ((n, v) :: fs) = .name n :: .punct .colon :: v.tokens ++ Value.fieldTokens fs := by
  simp [Value.fieldTokens]

@[simp] lemma Selection.listTokens_nil : Selection.listTokens [] = [] := by simp [Selection.listTokens]

@[simp] lemma Selection.listTokens_cons (s : Selection) (ss : List Selection) :
    Selection.listTokens (s :: ss) = s.tokens ++ Selection.listTokens ss := by
  simp [Selection.listTokens]

@[simp] lemma directiveTokens_nil : directiveTokens [] = [] := rfl

@[simp] lemma directiveTokens_cons (d : Directive) (ds : List Directive) :
    directiveTokens (d :: ds) = d.tokens ++ directiveTokens ds := by
  simp [directiveTokens]

@[simp] lemma Selection.listUnsited_nil : Selection.listUnsited [] = [] := by
  simp [Selection.listUnsited]

@[simp] lemma Selection.listUnsited_cons (s : Selection) (ss : List Selection) :
    Selection.listUnsited (s :: ss) = s.unsited :: Selection.listUnsited ss := by
  simp [Selection.listUnsited]

lemma Value.itemTokens_eq (vs : List Value) : Value.itemTokens vs = vs.flatMap Value.tokens := by
  induction vs with
  | nil => simp
  | cons v vs ih => simp [ih]

lemma Value.fieldTokens_eq (fs : List (String × Value)) :
    Value.fieldTokens fs = fs.flatMap fun f => .name f.1 :: .punct .colon :: f.2.tokens := by
  induction fs with
  | nil => simp
  | cons f fs ih =>
    obtain ⟨n, v⟩ := f
    simp [ih]

lemma Selection.listTokens_eq (ss : List Selection) :
    Selection.listTokens ss = ss.flatMap Selection.tokens := by
  induction ss with
  | nil => simp
  | cons s ss ih => simp [ih]

lemma Value.itemsReadable_iff (vs : List Value) :
    Value.ItemsReadable vs ↔ ∀ v ∈ vs, v.Readable := by
  induction vs with
  | nil => simp [Value.ItemsReadable]
  | cons v vs ih => simp [Value.ItemsReadable, ih]

lemma Value.fieldsReadable_iff (fs : List (String × Value)) :
    Value.FieldsReadable fs ↔ ∀ f ∈ fs, f.2.Readable := by
  induction fs with
  | nil => simp [Value.FieldsReadable]
  | cons f fs ih => simp [Value.FieldsReadable, ih]

lemma Selection.listReadable_iff (ss : List Selection) :
    Selection.ListReadable ss ↔ ∀ s ∈ ss, s.Readable := by
  induction ss with
  | nil => simp [Selection.ListReadable]
  | cons s ss ih => simp [Selection.ListReadable, ih]

/-- The tokens of a field's selection set, if it has one. -/
def fieldSetTokens : Option (List Selection) → List Token
  | none => []
  | some sels => .punct .braceL :: Selection.listTokens sels ++ [.punct .braceR]

lemma Selection.tokens_field (a : Option String) (n : String) (arguments : List (String × Value))
    (ds : List Directive) (sels : Option (List Selection)) :
    (Selection.field a n arguments ds sels).tokens =
      aliasTokens a ++ .name n :: argumentTokens arguments ++ directiveTokens ds ++
        fieldSetTokens sels := by
  cases sels <;> simp [Selection.tokens, fieldSetTokens]

lemma Selection.readable_field {a : Option String} {n : String}
    {arguments : List (String × Value)} {ds : List Directive} {sels : Option (List Selection)} :
    (Selection.field a n arguments ds sels).Readable ↔
      Value.FieldsReadable arguments ∧ (∀ d ∈ ds, d.Readable) ∧
        ∀ ss, sels = some ss → ss ≠ [] ∧ Selection.ListReadable ss := by
  cases sels <;> simp [Selection.Readable]

lemma length_fieldTokens_le (arguments : List (String × Value)) :
    (Value.fieldTokens arguments).length ≤ (argumentTokens arguments).length := by
  unfold argumentTokens
  split
  · rename_i h
    simp [h]
  · simp only [List.length_cons, List.length_append]
    omega

lemma Selection.listUnsited_eq (ss : List Selection) :
    Selection.listUnsited ss = ss.map Selection.unsited := by
  induction ss with
  | nil => simp
  | cons s ss ih => simp [ih]

@[simp] lemma head?_argumentTokens_append (arguments : List (String × Value)) (l : List Token) :
    (argumentTokens arguments ++ l).head? =
      if arguments = [] then l.head? else some (.punct .parenL) := by
  unfold argumentTokens
  split <;> simp

@[simp] lemma head?_directiveTokens_append (ds : List Directive) (l : List Token) :
    (directiveTokens ds ++ l).head? = if ds = [] then l.head? else some (.punct .atSign) := by
  cases ds <;> simp [Directive.tokens]

@[simp] lemma head?_fieldSetTokens_append (sels : Option (List Selection)) (l : List Token) :
    (fieldSetTokens sels ++ l).head? = if sels = none then l.head? else some (.punct .braceL) := by
  cases sels <;> simp [fieldSetTokens]

/-- Punctuators compare by their constructors. -/
instance : LawfulBEq Punctuator where
  eq_of_beq {a b} := by cases a <;> cases b <;> decide
  rfl {a} := by cases a <;> decide

/-- Kinds of tokens compare by their constructors and punctuators. -/
instance : LawfulBEq TokenKind where
  eq_of_beq {a b} h := by
    cases a <;> cases b <;> first | rfl | cases h | exact congrArg TokenKind.punct (eq_of_beq h)
  rfl {a} := by
    cases a with
    | punct p => exact beq_self_eq_true p
    | _ => rfl

/-- The token a reader takes for a punctuator is that punctuator. -/
lemma Token.eq_of_kind_punct {t : Token} {p : Punctuator} (h : t.kind = .punct p) : t = .punct p := by
  cases t <;> simp_all [Token.kind]

lemma Token.eq_of_kind_name {t : Token} (h : t.kind = .name) : ∃ n, t = .name n := by
  cases t <;> simp_all [Token.kind]

@[simp] lemma Directive.tokens_unsited (d : Directive) : d.unsited.tokens = d.tokens := rfl

@[simp] lemma Directive.readable_unsited (d : Directive) : d.unsited.Readable ↔ d.Readable :=
  Iff.rfl

end Federation.Syntax
