import ServerConsole.Screen.Lines
import ServerConsole.Text.Blank
import ServerConsole.Text.Width

/-!
# Drawing

The screen as rows of cells. From top to bottom: header, telemetry, the bordered console pane, the
bordered input line, footer. Whatever does not fit is cut at the right edge.

* `cells`  the cells of one line of text, cut to a width and filled up with blanks;
* `box`    a pane with border and title;
* `draw`   the rows, without blanks at their ends, and the cursor's position.
-/

namespace ServerConsole.Screen

open Text

/-! ## cells -/

/-- the text of one cell; a wide character's second cell is blank -/
abbrev Cell := List Char

def blank : Cell := [' ']

/-- clusters in order while they fit; one without width or wider than the whole line is left out,
the first other one that does not fit ends the line -/
def fit (width : Nat) : Nat → List (List Char) → List Cell
  | _, [] => []
  | room, cluster :: more =>
    let taken := clusterWidth cluster
    if taken = 0 || width < taken then fit width room more
    else if room < taken then []
    else cluster :: List.replicate (taken - 1) blank ++ fit width (room - taken) more

def fill (width : Nat) (cs : List Cell) : List Cell := cs ++ List.replicate (width - cs.length) blank

/-- the clusters of a piece of a line; line ends take no cell -/
def spanClusters (s : Span) : List (List Char) := (clusters s.text.toList).filter (· != ['\n'])

def cells (width : Nat) (line : List Span) : List Cell :=
  fill width (fit width width (line.flatMap spanClusters))

/-! ## panes -/

/-- a border line between two corners, with a title from the second column on -/
def border (width : Nat) (left right : Char) (title : String) : List Cell :=
  match width with
  | 0 => []
  | 1 => [[left]]
  | inner + 2 =>
    let text := fit inner inner (clusters title.toList)
    [left] :: (text ++ List.replicate (inner - text.length) ['─']) ++ [[right]]

def walled (width : Nat) (line : List Span) : List Cell :=
  match width with
  | 0 => []
  | 1 => [['│']]
  | inner + 2 => ['│'] :: cells inner line ++ [['│']]

/-- a pane of `width` columns and `height` rows -/
def box (width height : Nat) (title : String) (lines : List (List Span)) : List (List Cell) :=
  let inner := (lines ++ List.replicate (height - 2 - lines.length) []).take (height - 2)
  border width '┌' '┐' title :: inner.map (walled width) ++ [border width '└' '┘' ""]

/-! ## the screen -/

/-- the first line of the input text; a carriage return in front of the line's end is part of it -/
def firstLine (cs : List Char) : List Char :=
  match cut '\n' cs with
  | (line, none) => line
  | (line, some _) => if line.getLast? = some '\r' then line.dropLast else line

def consoleLines (a : App) (height : Nat) : List (List Span) :=
  let (start, stop) := a.visible height
  ((a.session.log.toList.drop start).take (stop - start)).map logLine

def row (line : List Cell) : String := String.ofList (dropTail isBlank line.flatten)

structure Picture where
  rows : List String
  cursor : Nat × Nat

/-- a screen of at least nine rows; `seconds` is the age of the last sample -/
def draw (a : App) (width height : Nat) (seconds : String) : Picture where
  rows :=
    ([cells width (header a.session), cells width (statsLine a.session seconds)]
      ++ box width (height - 6) (consoleTitle a.scroll) (consoleLines a (height - 8))
      ++ box width 3 (inputTitle a.session.link.state)
        [[{ text := String.ofList (firstLine a.editor.chars) }]]
      ++ [cells width [footer a.message]]).map row
  cursor := (cursorColumn ⟨0, height - 4, width, 3⟩ a.editor.cursor, height - 3)

end ServerConsole.Screen
