/-!
# Layouts

A value with parts is shown on one line, or with each part on a line of its own, four blanks further
in than what encloses it and followed by a comma. The two layouts differ in nothing else.
-/

namespace Attest

/-- On one line, or spread over lines at a depth. -/
inductive Layout where
  | compact
  | spread (depth : Nat)
deriving DecidableEq, Repr

namespace Layout

/-- The layout of the parts. -/
def inner : Layout → Layout
  | compact => compact
  | spread depth => spread (depth + 1)

/-- A line break and the blanks at a depth. -/
def newLine (depth : Nat) : List Char :=
  '\n' :: List.replicate (4 * depth) ' '

/-- Parts on one line, separated by commas. -/
def joined : List (List Char) → List Char
  | [] => []
  | [item] => item
  | item :: items => item ++ ',' :: ' ' :: joined items

/-- Parts on lines of their own. -/
def stacked (depth : Nat) : List (List Char) → List Char
  | [] => []
  | item :: items => newLine depth ++ item ++ ',' :: stacked depth items

/-- Parts between brackets. -/
def enclose (layout : Layout) (opening closing : List Char) (items : List (List Char)) :
    List Char :=
  match layout, items with
  | _, [] => opening ++ closing
  | compact, items => opening ++ joined items ++ closing
  | spread depth, items => opening ++ stacked (depth + 1) items ++ newLine depth ++ closing

/-- A list of parts. -/
def list (layout : Layout) (items : List (List Char)) : List Char :=
  layout.enclose ['['] [']'] items

/-- Parts without order. -/
def set (layout : Layout) (items : List (List Char)) : List Char :=
  layout.enclose ['{'] ['}'] items

/-- A named row of parts. -/
def tuple (layout : Layout) (name : List Char) (items : List (List Char)) : List Char :=
  layout.enclose (name ++ ['(']) [')'] items

/-- A row of parts without a name. On one line, a comma behind a single part tells the row from the
part in brackets. -/
def row : Layout → List (List Char) → List Char
  | compact, [item] => '(' :: item ++ [',', ')']
  | layout, items => layout.tuple [] items

/-- A truth value. -/
def truth (b : Bool) : List Char :=
  (if b then "true" else "false").toList

/-- A part that may be absent. -/
def option (layout : Layout) : Option (List Char) → List Char
  | some item => layout.tuple "Some".toList [item]
  | none => "None".toList

/-- A key or label with what belongs to it. -/
def entry (key value : List Char) : List Char :=
  key ++ ':' :: ' ' :: value

/-- A record with labelled parts; an open record ends in two dots for the parts left out. -/
def record (layout : Layout) (name : List Char) (isOpen : Bool)
    (fields : List (List Char × List Char)) : List Char :=
  let items := fields.map fun (label, value) => entry label value
  match layout with
  | compact =>
    name ++ [' ', '{', ' '] ++
      joined (if isOpen then items ++ [['.', '.']] else items) ++ [' ', '}']
  | spread depth =>
    name ++ [' ', '{'] ++ stacked (depth + 1) items ++
      (if isOpen then newLine (depth + 1) ++ ['.', '.'] else []) ++ newLine depth ++ ['}']

end Layout

end Attest
