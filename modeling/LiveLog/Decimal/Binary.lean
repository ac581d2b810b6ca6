/-!
# Binary floating point, exactly

A double is read here as what it stands for: a sign, a whole number and a power of two. Everything in
this library that prints or rounds a double works on that reading in whole numbers, so no step of it
is itself rounded.
-/

namespace LiveLog.Decimal

/-- What the bits of a double say. A finite double is `m · 2 ^ e`, up to its sign. -/
inductive Reading where
  | nan
  | infinite (negative : Bool)
  | finite (negative : Bool) (m : Nat) (e : Int)
deriving DecidableEq, Repr

/-- The reading of a bit pattern: one sign bit, eleven exponent bits, fifty-two fraction bits. -/
def Reading.ofBits (bits : UInt64) : Reading :=
  let n : Nat := bits.toNat
  let negative := n / 0x8000000000000000 == 1
  let exponent : Nat := n / 0x10000000000000 % 0x800
  let fraction := n % 0x10000000000000
  if exponent == 2047 then
    if fraction == 0 then .infinite negative else .nan
  else if exponent == 0 then .finite negative fraction (-1074)
  else .finite negative (fraction + 0x10000000000000) ((exponent : Int) - 1075)

/-- The reading of a double. -/
def Reading.of (x : Float) : Reading := Reading.ofBits x.toBits

/-- `n / d` rounded to the nearest whole number; a half goes to the even neighbour. -/
def roundHalfEven (n d : Nat) : Nat :=
  let q := n / d
  let r := n % d
  if 2 * r < d then q else if d < 2 * r then q + 1 else q + q % 2

end LiveLog.Decimal
