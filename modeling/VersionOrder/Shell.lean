import VersionOrder.Command.Run
import VersionOrder.Shell.Arguments
import VersionOrder.Shell.Console
import VersionOrder.Shell.Toml
import VersionOrder.Shell.Yaml

/-!
# The host of the command line

What the library is handed when it runs as a program: readers of documents, a parser of command
lines, and a console. They follow the ones that the program is used with as far as it has been
observed; nothing is proved of them.
-/

namespace VersionOrder

namespace Shell

/-- The readers of documents, with as much room for nesting as there is where settings are loaded. -/
def readers : Readers where
  yaml := Yaml.read
  toml := Toml.read
  jsonRoom := 985
  shownRoom := 985

/-- What the running of commands relies on. -/
def host : Host where
  readers
  parser
  console

end Shell

end VersionOrder
