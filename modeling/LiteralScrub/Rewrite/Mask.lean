import LiteralScrub.Text.Basic

/-!
# Masks

A mask is repeated and cut to the length that it covers. The empty mask covers nothing: what it
would stand for is deleted.
-/
namespace LiteralScrub.Mask

/-- The mask repeated `times` times. -/
def repeated (mask : Text) (times : Nat) : Text := (List.replicate times mask).flatten

/-- How often something of a size has to stand to reach a length: the quotient rounded up. By a
size of zero there is none. -/
def rounds? (length : Int) (size : Nat) : Option Int :=
  if size = 0 then none else some (-((-length).fdiv size))

/-- The mask over a length of any sign, unless it takes a division by zero. Rounds below zero repeat
nothing. -/
def fill? (mask : Text) (length : Int) : Option Text :=
  if mask.isEmpty then some []
  else (rounds? length mask.length).map fun times => (repeated mask times.toNat).upTo length

theorem rounds?_isSome_iff {length : Int} {size : Nat} :
    (rounds? length size).isSome ↔ size ≠ 0 := by
  simp [rounds?]

/-- The only division is by the length of a mask that is not empty. -/
theorem fill?_isSome (mask : Text) (length : Int) : (fill? mask length).isSome := by
  cases mask with
  | nil => rfl
  | cons c mask => simp [fill?, rounds?_isSome_iff]

def fill (mask : Text) (length : Int) : Text :=
  (fill? mask length).get (fill?_isSome mask length)

/-- The mask from one offset up to another, which may be of any sign and order. -/
def between (mask : Text) (start stop : Int) : Text := fill mask (stop - start)

end LiteralScrub.Mask
