import Hdlc.Text.Columns

/-!
# Boxed tables

A table of one row under its headers, drawn with box characters. A cell may have several lines; a
column is as wide as its widest line, and every line is padded to that width and set off by one
space on either side.
-/

namespace Hdlc.Text

/-- A column: its header and the lines of its cell. -/
structure Column where
  header : String
  lines : List String
  deriving DecidableEq, Repr

namespace Column

/-- The column whose cell holds a text, one line for each part between line breaks. -/
def ofText (header text : String) : Column :=
  ⟨header, text.splitOn "\n"⟩

/-- The width of the widest line. -/
def width (column : Column) : Nat :=
  (column.header :: column.lines).foldl (fun widest line => max widest (Text.width line)) 0

/-- A line of the column, padded and set off. -/
def pad (column : Column) (line : String) : String :=
  " " ++ line ++ String.ofList (List.replicate (column.width - Text.width line) ' ') ++ " "

end Column

/-- A horizontal rule made of its left end, its stroke, its crossing and its right end. -/
def rule (left stroke crossing right : String) (columns : List Column) : String :=
  left ++ String.intercalate crossing (columns.map fun column =>
    String.join (List.replicate (column.width + 2) stroke)) ++ right

/-- A line of the table with one text for each column. -/
def tableLine (columns : List Column) (texts : List String) : String :=
  "│" ++ String.intercalate "┆" (List.zipWith Column.pad columns texts) ++ "│"

/-- The lines of a table. -/
def tableLines (columns : List Column) : List String :=
  let height := (columns.map (·.lines.length)).foldl max 0
  [rule "┌" "─" "┬" "┐" columns,
    tableLine columns (columns.map (·.header)),
    rule "╞" "═" "╪" "╡" columns] ++
  (List.range height).map (fun row =>
    tableLine columns (columns.map fun column => column.lines.getD row "")) ++
  [rule "└" "─" "┴" "┘" columns]

/-- A table, each of its lines ended by a line break. -/
def table (columns : List Column) : String :=
  String.join ((tableLines columns).map (· ++ "\n"))

end Hdlc.Text
