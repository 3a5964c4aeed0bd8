import Federation.Syntax.Parser
import Federation.Syntax.Printer

/-!
# Field sets

A field set is the text of the `fields` argument of a federation directive (`@key`, `@requires`,
`@provides`): selections written as they would stand inside an anonymous query. It is read by
wrapping it as `query { … }` and taking the selections of the first definition, so the whole
wrapped text must be a valid document. It is written back as its selections separated by one
blank.
-/

namespace Federation

open Syntax

/-- The document a field set is read from. -/
def FieldSet.source (text : String) : String := "query \x7b " ++ text ++ " \x7d"

/-- Reads the selections of a field set, at a height of the call stack (`parse_selections`). -/
def FieldSet.parse (text : String) (height : Nat) : Except ReadError (List Selection) := do
  let document ← Parser.parse (FieldSet.source text) (height + 1)
  match document.definitions with
  | .operation _ _ _ _ selections :: _ => pure selections
  | _ => pure []

/-- Why a field set was rejected, as reported: by the text of its syntax error, excerpted from
its wrapped source, or by a fault. -/
inductive FieldSetError where
  | invalid (message : String)
  | fault (f : Fault)
  deriving Repr

/-- Reads a field set at a height of the call stack, reporting a syntax error by its text;
writing that text can itself meet a fault. -/
def FieldSet.read (text : String) (height : Nat) : Except FieldSetError (List Selection) :=
  match FieldSet.parse text height with
  | .ok selections => .ok selections
  | .error (.fault f) => .error (.fault f)
  | .error (.malformed e) =>
    match e.render (FieldSet.source text).toList with
    | .ok message => .error (.invalid message)
    | .error f => .error (.fault f)

/-- Writes selections as a field set: each selection, separated by one blank
(`print_selections`). -/
def FieldSet.print (selections : List Selection) : String :=
  " ".intercalate (selections.map Selection.print)

end Federation
