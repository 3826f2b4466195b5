import Debuggee.Text.Blank
import Debuggee.Text.Digits

/-! Log levels, and the level setting of the configuration. -/

namespace Debuggee.Log

/-- From the least verbose to the most verbose. -/
inductive Level where
  | off
  | error
  | warn
  | info
  | debug
  | trace
  deriving DecidableEq, Repr

namespace Level

def rank : Level → Nat
  | .off => 0
  | .error => 1
  | .warn => 2
  | .info => 3
  | .debug => 4
  | .trace => 5

def all : List Level := [.off, .error, .warn, .info, .debug, .trace]

instance : LE Level := ⟨fun left right => left.rank ≤ right.rank⟩

instance (left right : Level) : Decidable (left ≤ right) :=
  inferInstanceAs (Decidable (left.rank ≤ right.rank))

instance : Max Level := ⟨fun left right => if left ≤ right then right else left⟩

def name : Level → String
  | .off => "off"
  | .error => "error"
  | .warn => "warn"
  | .info => "info"
  | .debug => "debug"
  | .trace => "trace"

def label (level : Level) : String :=
  level.name.toUpper

end Level

def natural? (symbols : List Char) : Option Nat := do
  let number ← Text.number? (if symbols.head? = some '+' then symbols.tail else symbols)
  if number < UInt64.size then some number else none

def Level.ofWord? (word : List Char) : Option Level :=
  match natural? word with
  | some number => Level.all[number]?
  | none => Level.all.find? fun level => level.name.toList = word.map Char.toLower

/--
A level setting without white space around it. Level names lose their case, "warning" is a name
for warn, and an empty setting means info.
-/
def normalizeLevel (setting : String) : String :=
  let trimmed := Text.trim setting
  let lowered := String.ofList (trimmed.toList.map Char.toLower)
  if trimmed.isEmpty then "info"
  else if lowered = "warning" then "warn"
  else if ["trace", "debug", "info", "warn", "error"].contains lowered then lowered
  else trimmed

end Debuggee.Log
