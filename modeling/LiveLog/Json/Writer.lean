import LiveLog.Json.Value

/-!
# Writing document text

The compact text of a value: no blanks, members in the order they are held, control characters escaped
and all other characters as they are.
-/

namespace LiveLog.Json

/-- A hexadecimal digit in small letters. -/
def hexChar (n : Nat) : Char :=
  if n < 10 then Char.ofNat ('0'.toNat + n) else Char.ofNat ('a'.toNat + (n - 10))

/-- The characters that stand for a character inside quotes. -/
def escape (c : Char) : List Char :=
  match c with
  | '"' => ['\\', '"']
  | '\\' => ['\\', '\\']
  | '\x08' => ['\\', 'b']
  | '\x0c' => ['\\', 'f']
  | '\n' => ['\\', 'n']
  | '\r' => ['\\', 'r']
  | '\t' => ['\\', 't']
  | c =>
    if c.toNat < 0x20 then
      ['\\', 'u', '0', '0', hexChar (c.toNat / 16), hexChar (c.toNat % 16)]
    else [c]

/-- A quoted string. -/
def quoted (s : String) : List Char := '"' :: s.toList.flatMap escape ++ ['"']

/-- The literal of a number. -/
def numberChars : Number → List Char
  | .natural n => (toString n).toList
  | .negative n => '-' :: (toString n).toList
  | .real bits =>
    match Decimal.Reading.ofBits bits with
    | .finite negative m e => (Decimal.documentText negative m e).toList
    | _ => ['n', 'u', 'l', 'l']

mutual
/-- The characters of a value. -/
def chars : Json → List Char
  | .null => ['n', 'u', 'l', 'l']
  | .bool true => ['t', 'r', 'u', 'e']
  | .bool false => ['f', 'a', 'l', 's', 'e']
  | .number n => numberChars n
  | .string s => quoted s
  | .array xs => '[' :: itemChars xs
  | .object ms => '\x7b' :: memberChars ms

/-- The characters of an array after its opening bracket. -/
def itemChars : List Json → List Char
  | [] => [']']
  | x :: xs => chars x ++ laterItemChars xs

/-- The characters of the elements after the first. -/
def laterItemChars : List Json → List Char
  | [] => [']']
  | x :: xs => ',' :: chars x ++ laterItemChars xs

/-- The characters of an object after its opening brace. -/
def memberChars : List (String × Json) → List Char
  | [] => ['\x7d']
  | (k, x) :: ms => quoted k ++ ':' :: chars x ++ laterMemberChars ms

/-- The characters of the members after the first. -/
def laterMemberChars : List (String × Json) → List Char
  | [] => ['\x7d']
  | (k, x) :: ms => ',' :: quoted k ++ ':' :: chars x ++ laterMemberChars ms
end

/-- **The compact text of a value.** -/
def render (x : Json) : String := String.ofList (chars x)

end LiveLog.Json
