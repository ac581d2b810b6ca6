import LiveLog.Url.Percent

/-!
# Addresses of four numbers

A host whose last label is a number is an address of four bytes. The notation is a generous one: one to
four numbers, each decimal, octal (after `0`) or hexadecimal (after `0x`), where the last fills all the
bytes that are left, and one dot may stand at the end.
-/

namespace LiveLog.Url.Ipv4

/-- The parts of a text between dots. -/
def labels : List Char → List (List Char)
  | [] => [[]]
  | '.' :: rest => [] :: labels rest
  | c :: rest =>
    match labels rest with
    | first :: others => (c :: first) :: others
    | [] => [[c]]

/-- The value of digits to a base, if all of them are. -/
def valueOf? (base : Nat) (cs : List Char) : Option Nat :=
  cs.foldl (fun acc c => do
    let n ← acc
    let d ← hexValue? c
    if d < base then some (n * base + d) else none) (some 0)

/-- The value of a number in one of the three notations. No digits after `0x` are zero. -/
def number? : List Char → Option Nat
  | [] => none
  | '0' :: 'x' :: cs => valueOf? 16 cs
  | '0' :: 'X' :: cs => valueOf? 16 cs
  | '0' :: c :: cs => valueOf? 8 (c :: cs)
  | cs => valueOf? 10 cs

/-- The labels without an empty one at the end. -/
def significant (ls : List (List Char)) : List (List Char) :=
  match ls.reverse with
  | [] :: rest => rest.reverse
  | _ => ls

/-- Whether a host has to be such an address: its last label is a number, or has only digits. -/
def endsInNumber (host : List Char) : Bool :=
  match (significant (labels host)).reverse with
  | last :: _ => (!last.isEmpty && last.all Char.isDigit) || (number? last).isSome
  | [] => false

/-- **The address**, as a number below `2 ^ 32`. -/
def parse? (host : List Char) : Option Nat := do
  let ls := significant (labels host)
  if 4 < ls.length then none
  else
    let numbers ← ls.mapM number?
    match numbers.reverse with
    | [] => none
    | last :: front =>
      if front.any (255 < ·) || Nat.pow 256 (5 - numbers.length) ≤ last then none
      else some ((front.reverse.zipIdx.map fun (n, i) => n * Nat.pow 256 (3 - i)).foldr (· + ·) last)

/-- The text of an address: four decimal numbers. -/
def text (n : Nat) : String :=
  ".".intercalate ([n / 0x1000000, n / 0x10000 % 256, n / 256 % 256, n % 256].map toString)

end LiveLog.Url.Ipv4
