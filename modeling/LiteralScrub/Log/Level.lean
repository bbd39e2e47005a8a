import LiteralScrub.Log
import LiteralScrub.Text.Case
import LiteralScrub.Text.Quoted

/-!
# Levels

The severities are ordered. A level is given by the name of a severity in any case of letters.
-/
namespace LiteralScrub

namespace Severity

def all : List Severity := [.debug, .info, .warning, .error, .critical]

def rank : Severity → Nat
  | debug => 10
  | info => 20
  | warning => 30
  | error => 40
  | critical => 50

instance : LE Severity := ⟨fun a b => a.rank ≤ b.rank⟩

instance (a b : Severity) : Decidable (a ≤ b) := inferInstanceAs (Decidable (a.rank ≤ b.rank))

/-- The severity with exactly the given name. -/
def ofName? (name : Text) : Option Severity := all.find? fun s => Text.ofString s.name = name

/-- The severity that a level stands for. -/
def ofLevel? (level : Text) : Option Severity := ofName? level.upper

/-- What is said of a level that is none. -/
def unknownLevelMessage (level : Text) : Text :=
  let names := all.map fun s => (Text.ofString s.name).quoted
  Text.ofString "Invalid log level: " ++ level ++ Text.ofString ". Must be one of [" ++
    Text.join (Text.ofString ", ") names ++ Text.ofString "]"

end Severity

end LiteralScrub
