/-!
# Percent encoding

A byte that must not stand in a part of an address is written as a percent sign and two hexadecimal
capitals. Which bytes those are differs from part to part; bytes beyond ASCII are always among them.
-/

namespace LiveLog.Url

/-- A hexadecimal digit in capitals. -/
def hexCapital (n : Nat) : Char :=
  if n < 10 then Char.ofNat ('0'.toNat + n) else Char.ofNat ('A'.toNat + (n - 10))

/-- The escape of a byte. -/
def escapeByte (b : UInt8) : List Char := ['%', hexCapital (b.toNat / 16), hexCapital (b.toNat % 16)]

/-- Controls and all bytes beyond ASCII. -/
def isControlByte (b : UInt8) : Bool := b < 0x20 || 0x7E < b

/-- Whether a byte is one of these ASCII characters. -/
def isOneOf (chars : List Char) (b : UInt8) : Bool := chars.any fun c => c.toNat == b.toNat

/-- The bytes that are escaped in a fragment. -/
def inFragment (b : UInt8) : Bool := isControlByte b || isOneOf [' ', '"', '<', '>', '\x60'] b

/-- The bytes that are escaped in a user name or a password. -/
def inUserinfo (b : UInt8) : Bool :=
  inFragment b ||
    isOneOf ['#', '?', '\x7b', '\x7d', '/', ':', ';', '=', '@', '[', '\\', ']', '^', '|'] b

/-- Escapes the bytes of a text that a test picks out. -/
def percentEncode (escaped : UInt8 → Bool) (cs : List Char) : List Char :=
  (String.ofList cs).toUTF8.toList.flatMap fun b =>
    if escaped b then escapeByte b else [Char.ofNat b.toNat]

/-- The value of a hexadecimal digit. -/
def hexValue? (c : Char) : Option Nat :=
  if '0' ≤ c && c ≤ '9' then some (c.toNat - '0'.toNat)
  else if 'a' ≤ c && c ≤ 'f' then some (c.toNat - 'a'.toNat + 10)
  else if 'A' ≤ c && c ≤ 'F' then some (c.toNat - 'A'.toNat + 10)
  else none

/-- The value of a byte as a hexadecimal digit. -/
def hexByte? (b : UInt8) : Option Nat := hexValue? (Char.ofNat b.toNat)

/-- **Undoes escapes.** A percent sign that starts no escape stands for itself. -/
def percentDecode : List UInt8 → List UInt8
  | [] => []
  | 0x25 :: x :: y :: rest =>
    match hexByte? x, hexByte? y with
    | some h, some l => UInt8.ofNat (h * 16 + l) :: percentDecode rest
    | _, _ => 0x25 :: percentDecode (x :: y :: rest)
  | b :: rest => b :: percentDecode rest

end LiveLog.Url
