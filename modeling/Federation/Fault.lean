/-!
# Faults

A fault stops a run outright, before the input can be judged on its meaning: reading a text
past its end (an escape sequence that the end of a GraphQL source cuts off), taking a line that
a list of lines does not have (an excerpt whose line breaks disagree with the located line), or
nesting deeper than a reader follows. A fault is reported by its kind and a fixed message, never
as an error of the input.

Nesting is measured on a call stack of at most `stackLimit` frames: every step of the program
runs at some height of that stack, and a step that would run above the limit is the fault
`tooDeep`. The operations of the program run at `operationHeight`, above the frames of the
program itself, of its loop over requests and of the dispatch to the operation.
-/

namespace Federation

/-- What stopped a run outright. -/
inductive Fault where
  /-- A text was read past its end. -/
  | textIndex
  /-- A list was read past its end. -/
  | listIndex
  /-- Nesting went deeper than can be followed. -/
  | tooDeep
  deriving Repr, BEq, DecidableEq, Inhabited

/-- The height the call stack may reach: a step that would run higher is the fault `tooDeep`. -/
def stackLimit : Nat := 1000

/-- The height at which an operation of the program runs. -/
def operationHeight : Nat := 4

/-- The kind of a fault, as it is reported. -/
def Fault.kind : Fault → String
  | .textIndex | .listIndex => "IndexError"
  | .tooDeep => "RecursionError"

/-- The message of a fault. -/
def Fault.message : Fault → String
  | .textIndex => "string index out of range"
  | .listIndex => "list index out of range"
  | .tooDeep => "maximum recursion depth exceeded"

end Federation
