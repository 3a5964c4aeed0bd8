import Federation.Syntax.Ast
import Federation.Syntax.StringLiteral

/-!
# Printer

Writes values, type references, directives and selections back as GraphQL text, in the
canonical layout: items of a list or object separated by a comma and a blank, a selection set
as a block with one selection per line indented by two blanks, and a field whose arguments make
its line longer than 80 characters with one argument per line.

Empty parts are left out of a line together with their separators.
-/

namespace Federation.Syntax

/-- Joins the non-empty texts of a list with a separator. -/
def joinNonEmpty (sep : String) (items : List String) : String :=
  sep.intercalate (items.filter (!·.isEmpty))

/-- Puts text between a start and an end, unless it is empty. -/
def wrapNonEmpty (start s finish : String) : String :=
  if s.isEmpty then "" else start ++ s ++ finish

/-- A character of a text indented by two blanks: a line feed starts the indentation of the next
line. -/
def indentChar (c : Char) : List Char := if c == '\n' then ['\n', ' ', ' '] else [c]

/-- Indents every line of a text by two blanks. -/
def indentLines (s : String) : String :=
  wrapNonEmpty "  " (String.ofList (s.toList.flatMap indentChar)) ""

/-- Items as a block in braces, one per line. -/
def block (items : List String) : String :=
  wrapNonEmpty "\x7b\n" (indentLines (joinNonEmpty "\n" items)) "\n\x7d"

mutual

/-- The text of a value. -/
def Value.print : Value → String
  | .variable n => "$" ++ n
  | .int t => t
  | .float t => t
  | .string s block => if block then printBlockString s else printString s
  | .boolean b => if b then "true" else "false"
  | .null => "null"
  | .enum n => n
  | .list items => "[" ++ joinNonEmpty ", " (Value.printList items) ++ "]"
  | .object fields => "\x7b" ++ joinNonEmpty ", " (Value.printFields fields) ++ "\x7d"

/-- The texts of the items of a list value. -/
def Value.printList : List Value → List String
  | [] => []
  | v :: vs => v.print :: Value.printList vs

/-- The texts of the fields of an object value. -/
def Value.printFields : List (String × Value) → List String
  | [] => []
  | (n, v) :: fs => (n ++ ": " ++ v.print) :: Value.printFields fs

end

/-- The texts of arguments, each a name, a colon and a value. -/
def printArguments (arguments : List (String × Value)) : List String :=
  arguments.map fun (n, v) => n ++ ": " ++ v.print

/-- The text of a directive. -/
def Directive.print (d : Directive) : String :=
  "@" ++ d.name ++ wrapNonEmpty "(" (joinNonEmpty ", " (printArguments d.arguments)) ")"

/-- The text of a list of directives, separated by blanks. -/
def printDirectives (ds : List Directive) : String :=
  joinNonEmpty " " (ds.map Directive.print)

/-- The text of a type reference. -/
def TypeRef.print : TypeRef → String
  | .named n => n
  | .list t => "[" ++ t.print ++ "]"
  | .nonNull t => t.print ++ "!"

/-- The longest line a field with its arguments takes before they go one per line. -/
def maxLineLength : Nat := 80

mutual

/-- The text of a selection. -/
def Selection.print : Selection → String
  | .field fieldAlias n arguments directives selections =>
    let head := (match fieldAlias with | some a => a ++ ": " | none => "") ++ n
    let args := printArguments arguments
    let line := head ++ wrapNonEmpty "(" (joinNonEmpty ", " args) ")"
    let line := if line.length > maxLineLength then
        head ++ wrapNonEmpty "(\n" (indentLines (joinNonEmpty "\n" args)) "\n)"
      else line
    let set := match selections with
      | some sels => block (Selection.printList sels)
      | none => ""
    joinNonEmpty " " [line, printDirectives directives, set]
  | .fragmentSpread n directives =>
    "..." ++ n ++ wrapNonEmpty " " (printDirectives directives) ""
  | .inlineFragment typeCondition directives selections =>
    joinNonEmpty " "
      ["...", wrapNonEmpty "on " (typeCondition.getD "") "", printDirectives directives,
        block (Selection.printList selections)]

/-- The texts of a list of selections. -/
def Selection.printList : List Selection → List String
  | [] => []
  | s :: ss => s.print :: Selection.printList ss

end

end Federation.Syntax
