import Debuggee.Config
import Debuggee.Log.Filter

/-!
The logger: set up once for the whole process, it writes the events that pass its filter to
standard error, to a file, to both or to neither.
-/

namespace Debuggee.Log

structure Line where
  json : Bool
  level : String
  target : String
  message : String
  deriving DecidableEq, Repr

structure Logger where
  filter : Filter
  json : Bool
  stderr : Bool
  file : Bool

structure Output where
  stderr : List Line := []
  file : List Line := []
  deriving DecidableEq, Repr

structure State where
  logger : Option Logger := none
  output : Output := {}

namespace State

def log (state : State) (event : Event) : State :=
  match state.logger with
  | none => state
  | some logger =>
    if logger.filter.enabled event then
      let line : Line := ⟨logger.json, event.level.label, event.target, event.message⟩
      let output := state.output
      { state with
        output :=
          { stderr := if logger.stderr then output.stderr ++ [line] else output.stderr
            file := if logger.file then output.file ++ [line] else output.file } }
    else state

def fileFailed : Event where
  level := .warn
  target := "ansibug.config"
  message := "failed to open log file; file logging disabled"
  fields := ["message", "path"]

/--
Sets up the logger unless there is one; `opened` says whether the log file can be opened, if one
is configured. Returns whether this call set it up.
-/
def install (state : State) (config : LoggingConfig) (environment : Option String)
    (opened : Bool) : Bool × State :=
  match state.logger with
  | some _ => (false, state)
  | none =>
    let state : State :=
      { state with
        logger := some
          { filter := Filter.ofSettings config.level environment
            json := config.json
            stderr := config.stderr
            file := config.file.isSome && opened } }
    (true, if config.file.isSome && !opened then state.log fileFailed else state)

def initialised : Event where
  level := .debug
  target := "ansibug.debuggee"
  message := "logging initialised"
  fields := ["message", "version"]

def init (state : State) (config : LoggingConfig) (environment : Option String)
    (opened : Bool) : State :=
  match state.install config environment opened with
  | (true, state) => state.log initialised
  | (false, state) => state

end State

end Debuggee.Log
