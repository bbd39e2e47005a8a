import LiteralScrub.Text.Basic

/-!
# The log of a computation

A computation in `Logged` writes records in order. Records written before a failure stay.
-/
namespace LiteralScrub

inductive Severity where
  | debug
  | info
  | warning
  | error
  | critical
  deriving DecidableEq, Repr, Inhabited

def Severity.name : Severity → String
  | debug => "DEBUG"
  | info => "INFO"
  | warning => "WARNING"
  | error => "ERROR"
  | critical => "CRITICAL"

structure LogRecord where
  severity : Severity
  logger : String
  message : Text
  deriving DecidableEq, Repr, Inhabited

abbrev Logged := StateM (Array LogRecord)

namespace Logged

def write (severity : Severity) (logger : String) (message : Text) : Logged Unit :=
  modify (·.push ⟨severity, logger, message⟩)

/-- The result and the records. -/
def collect {α : Type} (x : Logged α) : α × List LogRecord :=
  let (a, records) := x.run #[]
  (a, records.toList)

end Logged

end LiteralScrub
