import VersionOrder.Settings.Basic

/-!
# Reports

What a command leaves behind: the lines and tables that it prints, the records that it logs, what it
complains about, and an exit code. Tables are drawn by a console from outside of the library, which
may fail to draw one.

## Main definitions

- `Table`, `Output`: what is printed
- `Console`: how tables are drawn
- `LogRecord`: a record of the log
- `Report`: the whole
- `Report.ofFault`: the report of a failure
-/

namespace VersionOrder

/-- A table with a header. Its title and its cells may be marked up. -/
structure Table where
  /-- What stands above the table, if anything. -/
  title? : Option String := none
  /-- The header. -/
  columns : List String
  /-- The rows, each with one cell for each column. -/
  rows : List (List String)
  deriving DecidableEq, Repr

/-- How tables are drawn. -/
structure Console where
  /-- A text marked up so that it is drawn as it is. -/
  escape : Text → Text
  /-- The lines of a table. -/
  draw : Table → Except ForeignFault (List String)

/-- The lines of a table, as a console draws them. -/
def Console.drawn (console : Console) (table : Table) : Except Fault (List String) :=
  (console.draw table).mapError fun fault => .refusal (.undrawable fault)

/-- Something that is printed. -/
inductive Output where
  | line (text : String)
  /-- A table, which has been drawn in these lines. -/
  | table (table : Table) (lines : List String)
  deriving DecidableEq, Repr

namespace Output

/-- A line of text. -/
def ofText (text : Text) : Output :=
  .line (String.ofList text)

/-- The table, if a table is printed. -/
def table? : Output → Option Table
  | .line _ => none
  | .table handed _ => some handed

end Output

/-- A record of the log. -/
structure LogRecord where
  /-- How grave it is. -/
  level : LogLevel
  /-- The part of the program that it comes from. -/
  source : String
  /-- What it says. -/
  message : String
  deriving DecidableEq, Repr

namespace LogRecord

/-- A record in writing. -/
def render (record : LogRecord) : String :=
  s!"{record.level.code} {record.source}: {record.message}"

/-- Whether a record is grave enough to be shown. -/
def isShown (threshold : LogLevel) (record : LogRecord) : Bool :=
  threshold.severity ≤ record.level.severity

/-- The record of a scheme that has been registered. -/
def ofRegistration (scheme : Scheme) : LogRecord where
  level := .debug
  source := "verspan.versioning.registry"
  message := s!"Registered version scheme: {scheme.code} ({scheme.origin.code})"

/-- The record of a remark. -/
def ofRemark (remark : Remark) : LogRecord where
  level := .debug
  source := "verspan.versioning.comparators"
  message := remark.message

/-- The record of a fault outside all categories. -/
def unexpected : LogRecord where
  level := .error
  source := "verspan.cli"
  message := "Unexpected error"

end LogRecord

namespace Category

/-- The exit code of a failure in a category. -/
def exitCode : Category → Nat
  | .interval => 20
  | .format => 21
  | .scheme => 22
  | .configuration => 31

/-- What may help against a failure in a category. -/
def hint : Category → String
  | .interval =>
    "The lower bound must not exceed the upper bound; a single-version range must be closed."
  | .format => "Use a scheme whose build format matches its build delimiter."
  | .scheme => "Run 'verspan schemes' to list the available schemes."
  | .configuration => "Check the configuration file format and values."

end Category

/-- The exit code of a failure. -/
def Fault.exitCode (fault : Fault) : Nat :=
  match fault.category? with
  | some category => category.exitCode
  | none => 1

/-- What is said about a failure: the fault, and a hint for its category. -/
def Fault.complaint (fault : Fault) : List String :=
  let error := s!"Error: {fault.message}"
  match fault.category? with
  | some category => [error, s!"Hint: {category.hint}"]
  | none => [error]

/-- What a command leaves behind. -/
structure Report where
  /-- What is printed. -/
  output : List Output := []
  /-- The log records that are shown, in writing. -/
  log : List String := []
  /-- The lines of complaint behind them. -/
  complaint : List String := []
  /-- The exit code. -/
  exitCode : Nat := 0
  deriving DecidableEq, Repr

namespace Report

/-- The records that are shown, in writing. -/
def shown (threshold : LogLevel) (log : List LogRecord) : List String :=
  (log.filter (LogRecord.isShown threshold)).map LogRecord.render

/-- The report of a failure behind some log records. A fault outside all categories is logged, too;
as long as the log has no threshold yet, its bare message is shown. -/
def ofFault (threshold? : Option LogLevel) (log : List LogRecord) (fault : Fault) : Report :=
  let log := if fault.category?.isNone then log ++ [LogRecord.unexpected] else log
  let shownLog := match threshold? with
    | some threshold => shown threshold log
    | none => log.map LogRecord.message
  { log := shownLog, complaint := fault.complaint, exitCode := fault.exitCode }

/-- The tables that are printed. -/
def tables (report : Report) : List Table :=
  report.output.filterMap Output.table?

end Report

end VersionOrder
