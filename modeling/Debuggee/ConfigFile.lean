import Debuggee.Config
import Debuggee.Layout.Read
import Debuggee.Toml.Document

/-!
The configuration file. The debuggee runs inside a program that must not fail for its sake, so a
file that cannot be used counts as none when it is named by the environment.
-/

namespace Debuggee

inductive ConfigError where
  | noFile
  | notUnicode
  | notDocument
  | invalid (error : LayoutError)
  deriving DecidableEq, Repr

namespace ConfigError

def isUnreadable : ConfigError → Bool
  | .noFile | .notUnicode => true
  | .notDocument | .invalid _ => false

def message (path : String) : ConfigError → String
  | .noFile => "failed to read config file " ++ path ++ ": No such file or directory (os error 2)"
  | .notUnicode =>
    "failed to read config file " ++ path ++ ": stream did not contain valid UTF-8"
  | .notDocument => "syntax"
  | .invalid error => error.describe Binary64.plain

end ConfigError

namespace Config

def ofDocument (text : String) : Except ConfigError Config :=
  match Toml.readDocument text with
  | none => .error .notDocument
  | some entries =>
    (Config.layout.read .document (.object (Toml.draftEntries entries) .closed)).mapError .invalid

def ofFile : Option Bytes → Except ConfigError Config
  | none => .error .noFile
  | some content =>
    match Bytes.text? content with
    | none => .error .notUnicode
    | some text => ofDocument text

/-- The configuration for an environment that names a file with this content, or no file. -/
def ofEnvironment : Option (Option Bytes) → Config
  | none => {}
  | some file =>
    match ofFile file with
    | .ok config => config
    | .error _ => {}

end Config

end Debuggee
