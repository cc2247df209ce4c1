import LayerGraph.Console.Layout
import LayerGraph.Journal.Basic

/-! Screens: where texts and records are shown.

A screen that records keeps a transcript; any other one shows its lines on the standard output.
-/

set_option autoImplicit false

namespace LayerGraph

open Text

structure Screen where
  /-- A screen of no positive width shows nothing. -/
  width : Int
  records : Bool
  transcript : List String := []
  deriving DecidableEq, Repr

namespace Screen

/-- The width of a screen for which none is given. -/
def standardWidth : Int := 100

/-- A screen on the standard output. -/
def standard : Screen := ⟨standardWidth, false, []⟩

/-- A screen that records. -/
def recording (width : Option Int) : Screen := ⟨width.getD standardWidth, true, []⟩

/-- A marked text with its highlights. They count only behind a joiner, where pieces may take more cells
than the line. -/
def highlighted (patterns : List Pattern) (marked : Markup.Marked) : Markup.Marked :=
  if marked.text.contains joiner then
    { marked with
      spans := marked.spans ++ (Highlight.places patterns marked.text).map fun (start, stop) =>
        ⟨start, stop, "none"⟩ }
  else marked

/-- Lines as far as they can be shown, and what stops them. -/
structure Shown where
  lines : List String
  defect : Option Layout.Defect := none
  deriving DecidableEq, Repr

/-- The text of a line without blanks at its end. -/
def lineText (pieces : Layout.Pieces) : String := String.ofList (Layout.trimEnd pieces.flatten)

/-- Show lines in a width; a line that cannot be cut to it stops the lines behind it. -/
def showLines (width : Nat) : List Layout.Pieces → Shown
  | [] => ⟨[], none⟩
  | line :: lines =>
    match Layout.crop width line with
    | .error defect => ⟨[], some defect⟩
    | .ok line =>
      let shown := showLines width lines
      { shown with lines := lineText line :: shown.lines }

/-- Show what is laid out; where nothing can be laid out, nothing is shown. -/
def showLaidOut (width : Nat) : Except Layout.Defect (List Layout.Pieces) → Shown
  | .ok lines => showLines width lines
  | .error defect => ⟨[], some defect⟩

/-- Show a text. -/
def showText (screen : Screen) (marked : Markup.Marked) : Shown :=
  if screen.width < 1 then ⟨[], none⟩
  else
    let width := screen.width.toNat
    showLaidOut width (Layout.lines width false (highlighted Highlight.patterns marked))

/-- The cells that the level of a record takes with the blank behind it, where there is room. -/
def levelWidth : Nat := 9

/-- A level in limited width: cut, and the cut is marked. -/
def narrowLevel (width : Nat) (level : String) : String :=
  if level.length ≤ width then level
  else if width = 0 then ""
  else String.ofList (level.toList.take (width - 1)) ++ "…"

/-- A level in a column beside the first line of a message, the other lines under that one. -/
def besideLevel (column : Nat) (level : String) (message : List Layout.Pieces) : List Layout.Pieces :=
  let level := (narrowLevel (column - 1) level).toList
  let front := level ++ List.replicate (column - level.length) ' '
  match message with
  | [] => [[front]]
  | first :: rest => (front :: first) :: rest.map fun line => List.replicate column ' ' :: line

/-- The lines of a message in a column, each filled. They are fitted once as lines of the message, once as
lines of the column, and once as lines of equal height. -/
def messageLines (width : Nat) (marked : Markup.Marked) : Except Layout.Defect (List Layout.Pieces) := do
  let patterns := Highlight.patterns ++ [Highlight.keywords]
  let mut lines ← Layout.lines width true (highlighted patterns marked)
  for _ in List.range 3 do
    lines ← lines.mapM (Layout.fill width)
  return lines

/-- Show a record with its message. A narrow screen leaves one cell to the message, which the level does
not share. -/
def showRecord (severity : Severity) (marked : Markup.Marked) (screen : Screen) : Shown :=
  if screen.width < 1 then ⟨[], none⟩
  else
    let width := screen.width.toNat
    let column := max 1 (min levelWidth (width - 1))
    showLaidOut width do
      let message ← if column < width then messageLines (width - column) marked else pure []
      return besideLevel column severity.name message

/-- Lines that a screen is said to have. -/
def height : Int := 25

/-- What can be asked of a screen by name. -/
def property? (screen : Screen) (name : String) : Option Json :=
  match name with
  | "width" | "_width" => some (.int screen.width)
  | "height" => some (.int height)
  | "size" => some (.arr [.int screen.width, .int height])
  | "record" => some (.bool screen.records)
  | "tab_size" => some (.int Layout.tabWidth)
  | "encoding" => some (.str "utf-8")
  | "_buffer_index" => some (.int 0)
  | "_buffer" | "_record_buffer" | "_render_hooks" | "_live_stack" => some (.arr [])
  | name =>
    if ["safe_box", "_markup", "_emoji", "_highlight"].contains name then some (.bool true)
    else if ["is_terminal", "is_dumb_terminal", "is_interactive", "is_jupyter", "is_alt_screen",
      "legacy_windows", "soft_wrap", "no_color", "quiet", "stderr", "_is_alt_screen"].contains name
    then some (.bool false)
    else if ["color_system", "style", "_height", "_color_system", "_emoji_variant",
      "_force_terminal", "_file"].contains name then some .null
    else none

end Screen

end LayerGraph
