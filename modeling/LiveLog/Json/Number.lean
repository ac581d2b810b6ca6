import LiveLog.Json.Source
import LiveLog.Json.Value

/-!
# The value of a number literal

A literal without point and exponent whose digits fit a word is that whole number. Every other literal
is a double, found as one product or quotient: the leading digits that fit an unsigned word, times or
over one power of ten. The result of that single step can differ from the nearest double in its last
bit, and it is what two readers of one document have to agree on, so the step is written out here.

`-0` is a double, because no whole number is negative zero. A literal beyond the largest double has no
value.
-/

namespace LiveLog

/-- The largest unsigned word. -/
def maxWord : Nat := 0xFFFFFFFFFFFFFFFF

namespace NumberText

/-- The value of a decimal digit. -/
def digit (c : Char) : Nat := c.toNat - '0'.toNat

/-- Appends digits to a significand as long as it stays a word; answers the digits left over. -/
def gather (significand : Nat) : List Char → Nat × List Char
  | [] => (significand, [])
  | c :: rest =>
    let next := significand * 10 + digit c
    if maxWord < next then (significand, c :: rest) else gather next rest

/-- The whole number that a list of digits writes. -/
def number (ds : List Char) : Nat := ds.foldl (fun n c => n * 10 + digit c) 0

/-- A power of ten as a double. -/
def power (k : Nat) : Float := Float.ofScientific 1 false k

/-- `x · 10 ^ e` in one multiplication or division; none when it leaves the doubles. An exponent below
    the smallest power of ten is reached by dividing first. -/
def scale (x : Float) (e : Int) : Nat → Option Float
  | 0 => some 0
  | fuel + 1 =>
    if e.natAbs ≤ 308 then
      if 0 ≤ e then
        let y := x * power e.toNat
        if y.isInf then none else some y
      else some (x / power e.natAbs)
    else if x == 0 then some x
    else if 0 ≤ e then none
    else scale (x / power 308) (e + 308) fuel

/-- The double of a significand and an exponent. -/
def real (minus : Bool) (significand : Nat) (e : Int) : Option Number := do
  let x ← scale (UInt64.ofNat significand).toFloat e 8
  some (.real (if minus then -x else x).toBits)

/-- The largest exponent that is computed with; a larger one overflows or underflows outright. -/
def maxExponent : Nat := 0x7FFFFFFF

/-- **The value of a number literal**, when it has one. -/
def value? (t : NumberText) : Option Number :=
  let (significand, dropped) := gather 0 t.whole
  match t.fraction, t.exponent, dropped with
  | none, none, [] =>
    if !t.minus then some (.natural significand)
    else if significand == 0 || 0x8000000000000000 < significand then real true significand 0
    else some (.negative significand)
  | fraction, exponent, dropped =>
    let before : Int := dropped.length
    let digits := fraction.getD []
    let (significand, rest) := gather significand digits
    let start : Int := before - (digits.length - rest.length : Nat)
    match exponent with
    | none => real t.minus significand start
    | some (down, es) =>
      let e := number es
      if maxExponent < e then
        if significand != 0 && !down then none else real t.minus 0 0
      else real t.minus significand (if down then start - e else start + e)

end NumberText
end LiveLog
