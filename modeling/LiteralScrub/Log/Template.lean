import LiteralScrub.Log.Level

/-!
# Templates of log lines

A template says which parts of an entry make a line. It has a source, in which the parts are named,
and writes the line of an entry.
-/
namespace LiteralScrub

/-- An entry that is offered to the handlers. -/
structure LogEntry where
  severity : Severity
  logger : Text
  message : Text
  /-- When it was written. -/
  time : Text
  /-- The file and line of the program that wrote it. -/
  origin : Text
  deriving DecidableEq, Repr, Inhabited

inductive LogPart where
  | time
  | logger
  | severity
  | origin
  | message
  | fixed (text : String)
  deriving DecidableEq, Repr, Inhabited

namespace LogPart

/-- The part as a template's source names it. -/
def source : LogPart → String
  | time => "%(asctime)s"
  | logger => "%(name)s"
  | severity => "%(levelname)s"
  | origin => "%(filename)s:%(lineno)d"
  | message => "%(message)s"
  | fixed text => text

/-- The part of an entry. -/
def ofEntry (entry : LogEntry) : LogPart → Text
  | time => entry.time
  | logger => entry.logger
  | severity => Text.ofString entry.severity.name
  | origin => entry.origin
  | message => entry.message
  | fixed text => Text.ofString text

end LogPart

abbrev LogTemplate := List LogPart

namespace LogTemplate

def source (template : LogTemplate) : String := String.join (template.map LogPart.source)

/-- The line of an entry, with its end. -/
def line (template : LogTemplate) (entry : LogEntry) : Text :=
  template.flatMap (LogPart.ofEntry entry) ++ [0x0A]

/-- Lines on the console. -/
def brief : LogTemplate := [.severity, .fixed ": ", .message]

/-- Lines in files. -/
def full : LogTemplate := [
  .time, .fixed " - ", .logger, .fixed " - ", .severity, .fixed " - ", .origin, .fixed " - ",
  .message]

/-- Lines that no handler has asked for. -/
def bare : LogTemplate := [.message]

end LogTemplate

end LiteralScrub
