/-!
# Document text

The grammar of document text, kept apart from the meaning of numbers and escapes. Reading a text gives
a `Source`: the tree of the text with every number still in its digits and every `\u` escape still a
code unit. What a source means is decided later and only for the parts that somebody asks for, which
is why a number too large for any double or half of a surrogate pair is no fault of the grammar.

The grammar is the strict one: the whole text is one value, blanks are space, tab, line feed and
carriage return, there are no comments and no trailing commas, a number has no leading zero and no
plus sign, and a control character cannot stand in a string.

Readers take the rest of the text and a fuel that falls with every value read; the length of the text
is always enough.
-/

namespace LiveLog

/-- A piece of a string literal: a character, or the code unit of a `\u` escape. -/
inductive Piece where
  | char (c : Char)
  | unit (u : Nat)
deriving DecidableEq, Repr

/-- A number literal, part by part. Digits are kept as characters. -/
structure NumberText where
  minus : Bool
  whole : List Char
  fraction : Option (List Char)
  exponent : Option (Bool × List Char)
deriving DecidableEq, Repr

/-- **The tree of a document text.** -/
inductive Source where
  | null
  | bool (b : Bool)
  | number (n : NumberText)
  | string (pieces : List Piece)
  | array (items : List Source)
  | object (members : List (List Piece × Source))
deriving Repr, Inhabited

namespace Source

/-! ## 1. Tokens -/

/-- The blanks of document text. -/
def isBlank (c : Char) : Bool := c == ' ' || c == '\t' || c == '\n' || c == '\r'

/-- The text without its leading blanks. -/
def skip (s : List Char) : List Char := s.dropWhile isBlank

/-- The value of a hexadecimal digit in either case. -/
def hexDigit? (c : Char) : Option Nat :=
  if '0' ≤ c && c ≤ '9' then some (c.toNat - '0'.toNat)
  else if 'a' ≤ c && c ≤ 'f' then some (c.toNat - 'a'.toNat + 10)
  else if 'A' ≤ c && c ≤ 'F' then some (c.toNat - 'A'.toNat + 10)
  else none

/-- The character of a one-letter escape. -/
def shortEscape? : Char → Option Char
  | '"' => some '"'
  | '\\' => some '\\'
  | '/' => some '/'
  | 'b' => some '\x08'
  | 'f' => some '\x0c'
  | 'n' => some '\n'
  | 'r' => some '\r'
  | 't' => some '\t'
  | _ => none

/-- The pieces of a string after its opening quote, and the text after its closing quote. -/
def stringBody : List Char → Option (List Piece × List Char)
  | [] => none
  | '"' :: rest => some ([], rest)
  | '\\' :: 'u' :: a :: b :: c :: d :: rest => do
    let u := (← hexDigit? a) * 4096 + (← hexDigit? b) * 256 + (← hexDigit? c) * 16 + (← hexDigit? d)
    let (pieces, rest) ← stringBody rest
    some (.unit u :: pieces, rest)
  | '\\' :: e :: rest => do
    let c ← shortEscape? e
    let (pieces, rest) ← stringBody rest
    some (.char c :: pieces, rest)
  | c :: rest =>
    if c.toNat < 0x20 || c == '\\' then none
    else do
      let (pieces, rest) ← stringBody rest
      some (.char c :: pieces, rest)

/-- The digits at the front and the text after them. -/
def digits (s : List Char) : List Char × List Char :=
  (s.takeWhile Char.isDigit, s.dropWhile Char.isDigit)

/-- The digits of a whole part: a single zero, or digits without a leading zero. -/
def wholePart (s : List Char) : Option (List Char × List Char) :=
  match digits s with
  | ([], _) => none
  | ('0' :: _ :: _, _) => none
  | (ds, rest) => some (ds, rest)

/-- The digits after a point, if a point stands here. -/
def fractionPart : List Char → Option (Option (List Char) × List Char)
  | '.' :: rest =>
    match digits rest with
    | ([], _) => none
    | (ds, rest) => some (some ds, rest)
  | rest => some (none, rest)

/-- The sign and the digits of an exponent; at least one digit has to follow. -/
def exponentDigits (minus : Bool) (s : List Char) : Option (Option (Bool × List Char) × List Char) :=
  match digits s with
  | ([], _) => none
  | (ds, rest) => some (some (minus, ds), rest)

/-- The exponent, if one stands here. -/
def exponentPart : List Char → Option (Option (Bool × List Char) × List Char)
  | e :: rest =>
    if e == 'e' || e == 'E' then
      match rest with
      | '+' :: rest => exponentDigits false rest
      | '-' :: rest => exponentDigits true rest
      | rest => exponentDigits false rest
    else some (none, e :: rest)
  | [] => some (none, [])

/-- A number literal without its sign. -/
def unsigned (minus : Bool) (s : List Char) : Option (NumberText × List Char) := do
  let (whole, s) ← wholePart s
  let (fraction, s) ← fractionPart s
  let (exponent, s) ← exponentPart s
  some ({ minus, whole, fraction, exponent }, s)

/-- A number literal. -/
def numberText : List Char → Option (NumberText × List Char)
  | '-' :: rest => unsigned true rest
  | s => unsigned false s

/-! ## 2. Values -/

mutual
/-- One value, which starts at the front of the text. -/
def value : Nat → List Char → Option (Source × List Char)
  | 0, _ => none
  | fuel + 1, s =>
    match s with
    | 'n' :: 'u' :: 'l' :: 'l' :: rest => some (.null, rest)
    | 't' :: 'r' :: 'u' :: 'e' :: rest => some (.bool true, rest)
    | 'f' :: 'a' :: 'l' :: 's' :: 'e' :: rest => some (.bool false, rest)
    | '"' :: rest => do
      let (pieces, rest) ← stringBody rest
      some (.string pieces, rest)
    | '[' :: rest =>
      match skip rest with
      | ']' :: rest => some (.array [], rest)
      | rest => do
        let (xs, rest) ← items fuel rest
        some (.array xs, rest)
    | '{' :: rest =>
      match skip rest with
      | '}' :: rest => some (.object [], rest)
      | rest => do
        let (ms, rest) ← members fuel rest
        some (.object ms, rest)
    | s => do
      let (n, rest) ← numberText s
      some (.number n, rest)

/-- The elements of an array that has at least one, and the text after its bracket. -/
def items : Nat → List Char → Option (List Source × List Char)
  | 0, _ => none
  | fuel + 1, s => do
    let (x, rest) ← value fuel s
    match skip rest with
    | ']' :: rest => some ([x], rest)
    | ',' :: rest => do
      let (xs, rest) ← items fuel (skip rest)
      some (x :: xs, rest)
    | _ => none

/-- The members of an object that has at least one, and the text after its brace. -/
def members : Nat → List Char → Option (List (List Piece × Source) × List Char)
  | 0, _ => none
  | fuel + 1, s =>
    match s with
    | '"' :: rest => do
      let (key, rest) ← stringBody rest
      match skip rest with
      | ':' :: rest => do
        let (x, rest) ← value fuel (skip rest)
        match skip rest with
        | '}' :: rest => some ([(key, x)], rest)
        | ',' :: rest => do
          let (ms, rest) ← members fuel (skip rest)
          some ((key, x) :: ms, rest)
        | _ => none
      | _ => none
    | _ => none
end

/-- **The tree of a text**, when the whole text is one value. -/
def parse (text : String) : Option Source :=
  let s := skip text.toList
  match value (s.length + 1) s with
  | some (x, rest) => if (skip rest).isEmpty then some x else none
  | none => none

end Source
end LiveLog
