import VersionOrder.Command.Report
import VersionOrder.Shell.Control
import VersionOrder.Shell.Markup
import VersionOrder.Text.Lines

/-!
# The console

Tables are drawn as aligned columns of what their cells show. Lines are printed without control
sequences.

## Main definitions

- `Table.shown`: a table with what its cells show in their place
- `Shell.console`: the console
- `Shell.echo`: a line as it is printed
- `Report.printed`, `Report.noteLines`: the text of the lines that are printed, and what is printed
  beside it, line by line
-/

namespace VersionOrder

/-- What a marked-up text shows. -/
def showMarkup (s : String) : Except ForeignFault String :=
  match Markup.render s.toList with
  | .ok shown => .ok (String.ofList shown)
  | .error fault => .error fault.raised

namespace Table

/-- The table with what its title and its cells show in their place. -/
def shown (table : Table) : Except ForeignFault Table := do
  let title? ← table.title?.mapM showMarkup
  let rows ← table.rows.mapM fun row => row.mapM showMarkup
  return { table with title?, rows }

/-- The widths of the columns: each is as wide as its widest cell. -/
def widths (table : Table) : List Nat :=
  (table.columns :: table.rows).foldl
    (fun known row => List.zipWith max known (row.map String.length))
    (table.columns.map fun _ => 0)

/-- Cells side by side, each filled up with spaces to the width of its column. -/
def alignRow (widths : List Nat) (row : List String) : String :=
  "  ".intercalate
    (List.zipWith (fun width cell => cell.pushn ' ' (width - cell.length)) widths row)

/-- The lines of a table: its title, if there is one, the header and the rows. -/
def lines (table : Table) : List String :=
  table.title?.toList ++ (table.columns :: table.rows).map (alignRow table.widths)

end Table

namespace Shell

/-- The console, which draws all columns of a table however wide they are. -/
def console : Console where
  escape := Markup.escape
  draw table := table.shown.map Table.lines

/-- A line as it is printed. -/
def echo (line : String) : String :=
  String.ofList (Text.withoutControls line.toList)

end Shell

namespace Report

/-- Some lines as one text. -/
def joinLines (lines : List String) : Text :=
  Text.dropReturns (lines.flatMap fun line => line.toList ++ ['\n'])

/-- The text of the lines that are printed beside tables. -/
def printed (report : Report) : Text :=
  joinLines (report.output.filterMap fun output =>
    match output with
    | .line text => some (Shell.echo text)
    | .table _ _ => none)

/-- What is printed on the side, line by line. -/
def noteLines (report : Report) : List String :=
  (Text.lines (joinLines (report.log ++ report.complaint.map Shell.echo))).map String.ofList

end Report

end VersionOrder
