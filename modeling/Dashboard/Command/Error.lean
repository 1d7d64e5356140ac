/-
  Dashboard.Command.Error
  ───────────────────────
  Why a command ends without a report.

  The exit code tells the kinds apart: 2 for a wrong use of the command, 3 for
  a document that is not valid, 4 for a configuration, 1 for everything else.
-/
import Dashboard.Config
import Dashboard.Files
import Dashboard.Host

namespace Dashboard.Command

/-- Why a command failed. -/
inductive CommandError where
  | io (reason : Files.FileFailure)
  /-- A file that is no JSON. -/
  | json
  | config (e : ConfigError)
  | validation (e : ValidationError)
  | migration (e : MigrationError)
  | session (e : SessionError)
  | fetch (e : FetchError)
  | host (e : HostError)
  | invalidArgument (message : String)
  | missingPath (path : String)
  deriving Repr

namespace CommandError

/-- The wording of a failure. -/
def message : CommandError → String
  | .io reason => s!"I/O error: {reason}"
  | .json => "JSON error: the text is not JSON"
  | .config e => s!"configuration error: {e.message}"
  | .validation e => e.message
  | .migration e => e.message
  | .session e => e.message
  | .fetch e => s!"upstream error: {e.message}"
  | .host e => e.message
  | .invalidArgument message => s!"invalid argument: {message}"
  | .missingPath path => s!"required path does not exist: {path}"

/-- The exit code of the program. -/
def exitCode : CommandError → Nat
  | .invalidArgument _ | .missingPath _ => 2
  | .validation _ | .migration _ | .session (.importFailed _) => 3
  | .config _ => 4
  | _ => 1

end CommandError

/-- The exit code of a program whose arguments make no sense. -/
def usageExitCode : Nat := 2

end Dashboard.Command
