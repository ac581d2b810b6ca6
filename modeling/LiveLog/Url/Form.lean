import LiveLog.Url.Percent

/-!
# Queries

A query is a list of names and values, written as a form is: pairs joined by `&`, name and value by `=`,
a space as `+`, and every byte that is not a letter, a digit or one of `*-._` escaped. Reading undoes
this, and nothing a value can hold gets in its way.
-/

namespace LiveLog.Url.Form

/-- Whether a byte stands for itself. -/
def isPlain (b : UInt8) : Bool :=
  ('0'.toNat ≤ b.toNat && b.toNat ≤ '9'.toNat) || ('A'.toNat ≤ b.toNat && b.toNat ≤ 'Z'.toNat) ||
    ('a'.toNat ≤ b.toNat && b.toNat ≤ 'z'.toNat) || isOneOf ['*', '-', '.', '_'] b

/-- The written form of a byte. -/
def encodeByte (b : UInt8) : List Char :=
  if b == 0x20 then ['+'] else if isPlain b then [Char.ofNat b.toNat] else escapeByte b

/-- The written form of a text. -/
def encodeText (s : String) : List Char := s.toUTF8.toList.flatMap encodeByte

/-- The written form of a pair. -/
def encodePair (p : String × String) : List Char := encodeText p.1 ++ '=' :: encodeText p.2

/-- **The written form of a query.** -/
def encode (pairs : List (String × String)) : String :=
  String.ofList (List.intercalate ['&'] (pairs.map encodePair))

end LiveLog.Url.Form
