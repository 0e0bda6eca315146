import Hdlc.Text.Record

/-!
# Log entries

A log entry has a level, a fixed message and a record of named values. Levels are ordered by how
much they let through: a reader who asks for one level also sees every more urgent one.
-/

namespace Hdlc.Log

/-- How urgent an entry is, most urgent first. -/
inductive Level
  | error
  | warn
  | info
  | debug
  | trace
  deriving DecidableEq, Repr

/-- The place of a level in the order from most to least urgent. -/
def Level.rank : Level → Nat
  | error => 0
  | warn => 1
  | info => 2
  | debug => 3
  | trace => 4

/-- Whether a reader who asks for the level `chosen` sees entries of this level. -/
def Level.isShownAt (level chosen : Level) : Bool :=
  level.rank ≤ chosen.rank

def Level.label : Level → String
  | error => "ERROR"
  | warn => "WARN"
  | info => "INFO"
  | debug => "DEBUG"
  | trace => "TRACE"

structure Entry where
  level : Level
  message : String
  fields : Text.Record
  deriving DecidableEq, Repr

end Hdlc.Log
