import LiteralScrub.Regex.Escape

/-!
# Sets of characters in a pattern

A set is written in brackets as code points, ranges and classes; a bracket that closes it is a
member if it comes first.
-/
namespace LiteralScrub.Regex

def refuseAt {α : Type} (fault : Fault) (position : Nat) : ReadM α :=
  throw (.malformed fault (some position))

/-- The items without those that occurred before. -/
def distinct (items : List SetItem) : List SetItem :=
  (items.foldl (fun seen item => if item ∈ seen then seen else item :: seen) []).reverse

def readSetItem : Token → ReadM SetItem
  | .escaped c => readSetEscape c
  | .plain c => return .point c

/-- A range of two single code points, the second not below the first. -/
def makeRange (first last : Token) (lo hi : SetItem) : ReadM SetItem := do
  let fault := .badRange first.text last.text
  let back := first.size + 1 + last.size
  match lo, hi with
  | .point a, .point b => if b < a then refuse fault back else return .range a b
  | _, _ => refuse fault back

/-- Reads the members of a set that opened at `start`; `items` are those read so far, last first. -/
def readSetItems (start : Nat) : Nat → List SetItem → ReadM (List SetItem)
  | 0, _ => refuseAt .unterminatedSet start
  | fuel + 1, items => do
    let some first ← take | refuseAt .unterminatedSet start
    if first = .plain 0x5D && !items.isEmpty then return items.reverse
    let lo ← readSetItem first
    if ← accept 0x2D then
      let some last ← take | refuseAt .unterminatedSet start
      if last = .plain 0x5D then
        return (.point 0x2D :: lo :: items).reverse
      let hi ← readSetItem last
      readSetItems start fuel ((← makeRange first last lo hi) :: items)
    else
      readSetItems start fuel (lo :: items)

/-- Reads a set after its opening bracket. -/
def readSet : ReadM Node := do
  let start := (← tell) - 1
  let negated ← accept 0x5E
  let items := distinct (← readSetItems start ((← read).size + 1) [])
  match items with
  | [.point c] => return if negated then .notPoint c else .point c
  | _ => return .set negated items

end LiteralScrub.Regex
