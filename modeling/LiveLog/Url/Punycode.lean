/-!
# Labels in ASCII

The form in which a label beyond ASCII is written with ASCII letters: its ASCII letters first, then, in
order of code point and place, each other letter as the number of steps that lead to it from the one
before. The numbers have digits to base 36 of variable weight, least significant first, and the
threshold between a digit that ends a number and one that goes on adapts to the numbers seen.
-/

namespace LiveLog.Url.Punycode

/-- The letter of a digit. -/
def digitChar (d : Nat) : Char :=
  if d < 26 then Char.ofNat ('a'.toNat + d) else Char.ofNat ('0'.toNat + (d - 26))

/-- The digit of a letter, small or capital. -/
def digit? (c : Char) : Option Nat :=
  if 'a' ≤ c && c ≤ 'z' then some (c.toNat - 'a'.toNat)
  else if 'A' ≤ c && c ≤ 'Z' then some (c.toNat - 'A'.toNat)
  else if '0' ≤ c && c ≤ '9' then some (c.toNat - '0'.toNat + 26)
  else none

/-- The threshold of the digit at position `k`, a multiple of 36. -/
def threshold (k bias : Nat) : Nat := min 26 (max 1 (k - bias))

/-- Scales a difference down, counting the divisions by 36 for each. -/
def scale (delta k : Nat) : Nat :=
  if h : 455 < delta then
    have : delta / 35 < delta := Nat.div_lt_self (by omega) (by omega)
    scale (delta / 35) (k + 36)
  else k + 36 * delta / (delta + 38)

/-- The bias after a difference. `count` is the number of letters so far. -/
def adapt (delta count : Nat) (first : Bool) : Nat :=
  let d := if first then delta / 700 else delta / 2
  scale (d + d / count) 0

/-! ## Writing -/

/-- The digits of a number. -/
def digits (bias k n : Nat) : List Char :=
  let t := threshold k bias
  if h : n < t then [digitChar n]
  else
    have : (n - t) / (36 - t) < n := by
      have h1 : 1 ≤ t := by simp only [t, threshold]; omega
      calc (n - t) / (36 - t) ≤ n - t := Nat.div_le_self _ _
        _ < n := by omega
    digitChar (t + (n - t) % (36 - t)) :: digits bias (k + 36) ((n - t) / (36 - t))
termination_by n

/-- Where the writer stands: what is written, the steps since the last letter, and the letters done. -/
structure Writer where
  written : List Char
  delta : Nat
  bias : Nat
  count : Nat

/-- Passes a letter of the label on the round for code point `n`. -/
def Writer.pass (basics n : Nat) (w : Writer) (c : Char) : Writer :=
  if c.toNat < n then { w with delta := w.delta + 1 }
  else if c.toNat == n then
    { written := w.written ++ digits w.bias 36 w.delta, delta := 0,
      bias := adapt w.delta (w.count + 1) (w.count == basics), count := w.count + 1 }
  else w

/-- One round for each code point of the label, in order. `n` is the first code point not done. -/
def Writer.rounds (label : List Char) (basics : Nat) : List Nat → Nat → Writer → Writer
  | [], _, w => w
  | m :: ms, n, w =>
    let w := { w with delta := w.delta + (m - n) * (w.count + 1) }
    let w := label.foldl (Writer.pass basics m) w
    Writer.rounds label basics ms (m + 1) { w with delta := w.delta + 1 }

/-- Inserts a number into an ascending list, once. -/
def insertOnce (n : Nat) : List Nat → List Nat
  | [] => [n]
  | m :: ms => if n < m then n :: m :: ms else if n = m then m :: ms else m :: insertOnce n ms

/-- **The ASCII form of a label**, without the mark that it is one. -/
def encode (label : List Char) : List Char :=
  let basics := label.filter (·.toNat < 0x80)
  let others := (label.filter (0x80 ≤ ·.toNat)).foldl (fun ns c => insertOnce c.toNat ns) []
  let w := Writer.rounds label basics.length others 0x80
    { written := [], delta := 0, bias := 72, count := basics.length }
  basics ++ (if basics.isEmpty then [] else ['-']) ++ w.written

/-! ## Reading -/

/-- Reads a number: its value added to `i`, and the rest. -/
def readNumber (bias : Nat) : List Char → Nat → Nat → Nat → Option (Nat × List Char)
  | [], _, _, _ => none
  | c :: cs, k, weight, i => do
    let d ← digit? c
    let i := i + d * weight
    let t := threshold k bias
    if d < t then some (i, cs) else readNumber bias cs (k + 36) (weight * (36 - t)) i

/-- Reads the letters beyond ASCII into a label. `n` and `i` say where the last one went. The fuel is
    the number of characters left, because every number has at least one. -/
def readLetters : Nat → List Char → List Char → Nat → Nat → Nat → Option (List Char)
  | _, [], label, _, _, _ => some label
  | 0, _ :: _, _, _, _, _ => none
  | fuel + 1, c :: cs, label, n, i, bias => do
    let (j, rest) ← readNumber bias (c :: cs) 36 1 i
    let count := label.length + 1
    let n := n + j / count
    let place := j % count
    if 0x10FFFF < n || (0xD800 ≤ n && n ≤ 0xDFFF) then none
    else
      readLetters fuel rest (label.take place ++ Char.ofNat n :: label.drop place) n (place + 1)
        (adapt (j - i) count (i == 0))

/-- Cuts a text at its last hyphen. -/
def cutLastHyphen (cs : List Char) : List Char × List Char :=
  match cs.reverse.span (· != '-') with
  | (after, _ :: before) => (before.reverse, after.reverse)
  | (_, []) => ([], cs)

/-- **The label of an ASCII form**, if it is one. -/
def decode? (text : List Char) : Option (List Char) :=
  if text.any (0x80 ≤ ·.toNat) then none
  else
    let (basics, numbers) := cutLastHyphen text
    readLetters numbers.length numbers basics 0x80 0 72

end LiveLog.Url.Punycode
