import LiveLog.Decimal.Binary

/-!
# The shortest decimal of a double

The fewest digits that read back as the same double, and of those the nearest to it. All decimals
between the two midpoints to the neighbouring doubles read back; the midpoints themselves do when the
double's own whole number is even.

For one digit, two digits and so on the two points of that decimal grid next to the double are tested,
in whole numbers. Seventeen digits always suffice. Where a grid has a point between the midpoints, one
of these two is such a point, so the first grid with a hit has the fewest digits.
-/

namespace LiveLog.Decimal

/-- Decimal digits, most significant first without leading zeros, and the power of ten of the last. -/
structure Digits where
  digits : Nat
  exponent : Int
deriving DecidableEq, Repr

/-- The number of decimal digits of a whole number; zero has one. -/
def digitCount (n : Nat) : Nat := (toString n).length

/-- How many times `v / d`, below one, can be multiplied by ten before it reaches one. -/
def leadingZeros (v d : Nat) : Nat → Nat
  | 0 => 0
  | fuel + 1 => if d ≤ v then 0 else leadingZeros (v * 10) d fuel + 1

/-- The power of ten of the first digit of `v / d`. -/
def magnitude (v d : Nat) : Int :=
  if d ≤ v then (digitCount (v / d) : Int) - 1 else -(leadingZeros v d 400 : Int)

/-- The interval of decimals that read back, over one denominator. -/
structure Interval where
  low : Nat
  value : Nat
  high : Nat
  denominator : Nat
  closed : Bool

/-- The interval of the double `m · 2 ^ e`. Below a power of two the spacing of doubles halves. -/
def Interval.of (m : Nat) (e : Int) : Interval :=
  let low := if m == 0x10000000000000 && e > -1074 then 4 * m - 1 else 4 * m - 2
  let (scale, denominator) :=
    if 2 ≤ e then (Nat.pow 2 (e - 2).toNat, 1) else (1, Nat.pow 2 (2 - e).toNat)
  { low := low * scale, value := 4 * m * scale, high := (4 * m + 2) * scale,
    denominator, closed := m % 2 == 0 }

/-- The points of the grid `10 ^ k` next to the value that lie in the interval, nearest first. -/
def Interval.hit? (i : Interval) (k : Int) : Option Nat :=
  let up := if 0 ≤ k then i.denominator * Nat.pow 10 k.toNat else i.denominator
  let down := if 0 ≤ k then 1 else Nat.pow 10 (-k).toNat
  let value := i.value * down
  let below := value / up
  let inside (p : Nat) : Bool :=
    if i.closed then i.low * down ≤ p * up && p * up ≤ i.high * down
    else i.low * down < p * up && p * up < i.high * down
  match inside below, inside (below + 1) with
  | true, true =>
    let r := value % up
    some (if 2 * r < up || (2 * r == up && below % 2 == 0) then below else below + 1)
  | true, false => some below
  | false, true => some (below + 1)
  | false, false => none

/-- The first hit among the grids with `count`, `count + 1`, … digits. -/
def Interval.search (i : Interval) (top : Int) : Nat → Nat → Digits
  | _, 0 => { digits := 0, exponent := 0 }
  | count, fuel + 1 =>
    let k := top - count + 1
    match i.hit? k with
    | some p => { digits := p, exponent := k }
    | none => i.search top (count + 1) fuel

/-- Moves the zeros at the end of the digits into the exponent. -/
def Digits.strip : Nat → Digits → Digits
  | 0, d => d
  | fuel + 1, d =>
    if d.digits != 0 && d.digits % 10 == 0 then
      Digits.strip fuel { digits := d.digits / 10, exponent := d.exponent + 1 }
    else d

/-- **The shortest decimal of `m · 2 ^ e`.** -/
def shortest (m : Nat) (e : Int) : Digits :=
  if m == 0 then { digits := 0, exponent := 0 }
  else
    let i := Interval.of m e
    (i.search (magnitude i.value i.denominator) 1 18).strip 20

/-! ## Written forms -/

/-- The digits with a point `count` places from the right, zeros filled in. -/
def positional (d : Digits) : String :=
  if 0 ≤ d.exponent then toString d.digits ++ String.ofList (List.replicate d.exponent.toNat '0')
  else
    let places := (-d.exponent).toNat
    let text := (toString d.digits).toList
    let text := List.replicate (places + 1 - text.length) '0' ++ text
    String.ofList (text.take (text.length - places) ++ '.' :: text.drop (text.length - places))

/-- **The plain text of a double**: shortest digits, never an exponent, and no fraction for a whole
    number. -/
def plain (x : Float) : String :=
  match Reading.of x with
  | .nan => "NaN"
  | .infinite negative => if negative then "-inf" else "inf"
  | .finite negative m e => (if negative then "-" else "") ++ positional (shortest m e)

/-- The plain text with a point in it: a whole number gets `.0`. -/
def pointed (x : Float) : String :=
  let s := plain x
  match Reading.of x with
  | .finite .. => if s.toList.contains '.' then s else s ++ ".0"
  | _ => s

/-- **The text of a finite double in a document**: positional from `1e-5` to below `1e16`, else with
    an exponent after one leading digit. -/
def documentText (negative : Bool) (m : Nat) (e : Int) : String :=
  let d := shortest m e
  let sign := if negative then "-" else ""
  let count := digitCount d.digits
  let point : Int := count + d.exponent
  if m == 0 then sign ++ "0.0"
  else if 0 ≤ d.exponent && point ≤ 16 then sign ++ positional d ++ ".0"
  else if -5 < point && point ≤ 16 then sign ++ positional d
  else
    let text := (toString d.digits).toList
    let mantissa := match text with
      | [c] => [c]
      | c :: cs => c :: '.' :: cs
      | [] => []
    sign ++ String.ofList mantissa ++ "e" ++ toString (point - 1)

example : shortest 1 (-1074) = ⟨5, -324⟩ := by decide +kernel
example : shortest 5404319552844595 (-54) = ⟨3, -1⟩ := by decide +kernel
example : shortest 0x10000000000000 0 = ⟨4503599627370496, 0⟩ := by decide +kernel
example : positional ⟨15, -1⟩ = "1.5" ∧ positional ⟨1, 21⟩ = "1000000000000000000000" := by
  decide +kernel

end LiveLog.Decimal
