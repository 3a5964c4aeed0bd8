/-!
# Help text

Help is laid out for lines of 78 characters:

* text is filled: split into words and the blank runs between them, as many pieces on a line as
  fit, blanks dropped at the ends of lines, and a word longer than a whole line cut to fit;
* a definition list puts its terms in a first column as wide as the widest term (at most 30)
  plus two, and fills each definition in the rest of the line; a longer term gets its own line;
* the short help of a command is the first sentence of its help, or as many words as fit with
  `...` after them.
-/

namespace Federation.Cli

/-- The width help text is laid out for. -/
def helpWidth : Nat := 78

/-- Whether a character is blank for filling. -/
def isFillBlank (c : Char) : Bool :=
  c == ' ' || c == '\t' || c == '\n' || c == '\r' || c == '\x0b' || c == '\x0c'

/-- A text cut into words and the blank runs between them. -/
def fillPieces (text : String) : List String :=
  (go text.toList []).reverse.map String.ofList
where
  go : List Char → List (List Char) → List (List Char)
    | [], acc => acc
    | c :: rest, acc =>
      match acc with
      | piece :: others =>
        if piece.head?.map isFillBlank == some (isFillBlank c) then go rest ((piece ++ [c]) :: others)
        else go rest ([c] :: acc)
      | [] => go rest [[c]]

/-- Whether a piece is a blank run. -/
def isBlankPiece (piece : String) : Bool := piece.toList.all isFillBlank

/-- Takes pieces onto a line while they fit in the room left, giving the line's pieces and the
pieces left. -/
def takeFitting : List String → Nat → List String × List String
  | [], _ => ([], [])
  | p :: rest, room =>
    if p.length ≤ room then
      let (line, left) := takeFitting rest (room - p.length)
      (p :: line, left)
    else ([], p :: rest)

/-- Fills pieces into lines, the first after one indent, the others after another. -/
def fillLines (width : Nat) (initial subsequent : String) : Nat → List String → Bool → List String
  | 0, _, _ => []
  | _, [], _ => []
  | fuel + 1, pieces, first =>
    let indent := if first then initial else subsequent
    let room := width - indent.length
    let pieces := match pieces with
      | p :: rest => if !first && isBlankPiece p then rest else pieces
      | [] => []
    let (line, left) := takeFitting pieces room
    let (line, left) := match left with
      | p :: rest =>
        if p.length > room then
          let used := (line.map String.length).foldl (· + ·) 0
          let space := max (room - used) 1
          (line ++ [String.ofList (p.toList.take space)], String.ofList (p.toList.drop space) :: rest)
        else (line, left)
      | [] => (line, left)
    let line := match line.getLast? with
      | some p => if isBlankPiece p then line.dropLast else line
      | none => line
    let rest := fillLines width initial subsequent fuel left false
    if line.isEmpty then rest else (indent ++ String.join line) :: rest

/-- A text filled to a width, with indents for its first and later lines. -/
def fill (width : Nat) (initial subsequent : String) (text : String) : String :=
  let pieces := fillPieces text
  "\n".intercalate (fillLines width initial subsequent (2 * pieces.length + 2) pieces true)

/-- A definition list at an indentation: terms in a first column, definitions filled beside
them. -/
def definitionList (indent : Nat) (rows : List (String × String)) : String :=
  let widest := rows.foldl (fun w (term, _) => max w term.length) 0
  let firstCol := min widest 30 + 2
  let pad (n : Nat) : String := String.ofList (List.replicate n ' ')
  let textWidth := max (helpWidth - firstCol - 2) 10
  String.join (rows.map fun (term, definition) =>
    let head := pad indent ++ term
    if definition.isEmpty then head ++ "\n"
    else
      let head := if term.length ≤ firstCol - 2 then head ++ pad (firstCol - term.length)
        else head ++ "\n" ++ pad (firstCol + indent)
      let lines := (fill textWidth "" "" definition).splitOn "\n"
      match lines with
      | first :: others =>
        head ++ first ++ "\n" ++ String.join (others.map fun l => pad (firstCol + indent) ++ l ++ "\n")
      | [] => head ++ "\n")

/-- The short help of a command: the first sentence of its first paragraph if it fits in a
limit, else as many words as fit with `...` after them. -/
def shortHelp (help : String) (limit : Nat) : String :=
  let paragraph := (help.splitOn "\n\n").headD ""
  let words := (paragraph.split isFillBlank).toList.map (·.copy) |>.filter (!·.isEmpty)
  let rec scan : List String → Nat → Nat → Option (Nat × Nat)
    | [], _, _ => none
    | w :: rest, i, total =>
      let total := total + w.length + (if i > 0 then 1 else 0)
      if total > limit then some (i, total)
      else if w.endsWith "." then some (i + 1, 0)
      else if total == limit && !rest.isEmpty then some (i, total)
      else scan rest (i + 1) total
  match scan words 0 0 with
  | none => " ".intercalate words
  | some (i, 0) => " ".intercalate (words.take i)
  | some (i, total) =>
    let rec shrink : Nat → Nat → Nat → Nat
      | 0, i, _ => i
      | fuel + 1, i, total =>
        if i == 0 then 0
        else
          let total := total - ((words.getD i "").length + 1)
          if total ≤ limit then i else shrink fuel (i - 1) total
    let i := shrink (i + 1) i (total + 3)
    " ".intercalate (words.take i) ++ "..."

end Federation.Cli
