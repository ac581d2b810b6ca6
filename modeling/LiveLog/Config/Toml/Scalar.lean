import LiveLog.Config.Toml.Value

/-!
# Words of a settings file

Strings in their four notations, numbers, dates and times, and names. Each reader takes the characters
of a file and gives what it read and the rest, or nothing when what stands there is none of its kind.
-/

namespace LiveLog.Toml.Word

/-- A reader of characters. -/
abbrev Reader (α : Type) := List Char → Option (α × List Char)

/-! ## 1. Blanks and line ends -/

/-- Drops spaces and tabs. -/
def skipBlanks (s : List Char) : List Char := s.dropWhile fun c => c == ' ' || c == '\t'

/-- What follows a line end. -/
def lineEnd? : List Char → Option (List Char)
  | '\n' :: s => some s
  | '\r' :: '\n' :: s => some s
  | _ => none

/-- Whether a character may stand in comments and on the lines of strings. -/
def isPlain (c : Char) : Bool := c == '\t' || (0x20 ≤ c.toNat && c.toNat != 0x7F)

/-- Drops a comment, if one stands here. -/
def skipComment : List Char → List Char
  | '#' :: s => s.dropWhile isPlain
  | s => s

/-- What follows the end of a line that may have blanks and a comment before it. -/
def restOfLine? (s : List Char) : Option (List Char) :=
  match skipComment (skipBlanks s) with
  | [] => some []
  | s => lineEnd? s

/-- Drops blanks, line ends and comments that end with their lines. -/
def skipLines : Nat → List Char → Option (List Char)
  | 0, s => some s
  | fuel + 1, s =>
    let s := skipBlanks s
    match s with
    | '#' :: _ => do skipLines fuel (← lineEnd? (skipComment s))
    | _ =>
      match lineEnd? s with
      | some s => skipLines fuel s
      | none => some s

/-! ## 2. Strings -/

/-- The value of so many hexadecimal digits. -/
def hex : Nat → Nat → Reader Nat
  | 0, n, s => some (n, s)
  | _ + 1, _, [] => none
  | count + 1, n, c :: s =>
    if '0' ≤ c && c ≤ '9' then hex count (n * 16 + (c.toNat - '0'.toNat)) s
    else if 'a' ≤ c && c ≤ 'f' then hex count (n * 16 + (c.toNat - 'a'.toNat + 10)) s
    else if 'A' ≤ c && c ≤ 'F' then hex count (n * 16 + (c.toNat - 'A'.toNat + 10)) s
    else none

/-- A character by its code point. -/
def codePoint (digits : Nat) : Reader Char := fun s => do
  let (n, s) ← hex digits 0 s
  if n < 0xD800 || (0xDFFF < n && n < 0x110000) then some (Char.ofNat n, s) else none

/-- The character of an escape, after its backslash. -/
def escape : Reader Char
  | 'b' :: s => some ('\x08', s)
  | 't' :: s => some ('\t', s)
  | 'n' :: s => some ('\n', s)
  | 'f' :: s => some ('\x0c', s)
  | 'r' :: s => some ('\r', s)
  | '"' :: s => some ('"', s)
  | '\\' :: s => some ('\\', s)
  | 'u' :: s => codePoint 4 s
  | 'U' :: s => codePoint 8 s
  | _ => none

/-- The characters of a string on one line, up to its quote. -/
def line (literal : Bool) (quote : Char) : Nat → Reader (List Char)
  | _, [] => none
  | 0, _ => none
  | fuel + 1, c :: s =>
    if c == quote then some ([], s)
    else if c == '\\' && !literal then do
      let (d, s) ← escape s
      let (ds, s) ← line literal quote fuel s
      some (d :: ds, s)
    else if isPlain c then do
      let (ds, s) ← line literal quote fuel s
      some (c :: ds, s)
    else none

/-- What follows a backslash at the end of a line: the lines and blanks up to the next character. -/
def continuation? (s : List Char) : Option (List Char) :=
  (lineEnd? (skipBlanks s)).map fun s =>
    s.dropWhile fun c => c == ' ' || c == '\t' || c == '\n' || c == '\r'

/-- The characters of a string on several lines, up to its three quotes. Two more quotes may stand right
    before those. -/
def lines (literal : Bool) (quote : Char) : Nat → Reader (List Char)
  | _, [] => none
  | 0, _ => none
  | fuel + 1, c :: s =>
    if c == quote then
      let run := min 5 ((c :: s).takeWhile (· == quote)).length
      if 3 ≤ run then some (List.replicate (run - 3) quote, (c :: s).drop run)
      else do
        let (ds, s) ← lines literal quote fuel s
        some (quote :: ds, s)
    else if c == '\\' && !literal then
      match continuation? s with
      | some s => lines literal quote fuel s
      | none => do
        let (d, s) ← escape s
        let (ds, s) ← lines literal quote fuel s
        some (d :: ds, s)
    else if isPlain c then do
      let (ds, s) ← lines literal quote fuel s
      some (c :: ds, s)
    else do
      let s ← lineEnd? (c :: s)
      let (ds, s) ← lines literal quote fuel s
      some ('\n' :: ds, s)

/-- A string on one line, from its quote on. -/
def lineString : Reader String
  | '"' :: s => (line false '"' s.length s).map fun (cs, s) => (String.ofList cs, s)
  | '\'' :: s => (line true '\'' s.length s).map fun (cs, s) => (String.ofList cs, s)
  | _ => none

/-- A string on several lines; a line end right after its quotes does not belong to it. -/
def linesString (literal : Bool) (quote : Char) (s : List Char) : Option (String × List Char) :=
  let s := (lineEnd? s).getD s
  (lines literal quote s.length s).map fun (cs, s) => (String.ofList cs, s)

/-- **A string.** -/
def string : Reader String
  | '"' :: '"' :: '"' :: s => linesString false '"' s
  | '\'' :: '\'' :: '\'' :: s => linesString true '\'' s
  | s => lineString s

/-! ## 3. Numbers -/

/-- Digits, between which single underscores may stand. -/
def digits (isDigit : Char → Bool) : Reader (List Char)
  | [] => none
  | c :: s => if isDigit c then some (more c s) else none
where
  /-- The digits from one on. -/
  more (c : Char) : List Char → List Char × List Char
    | '_' :: d :: s =>
      if isDigit d then
        let (ds, rest) := more d s
        (c :: ds, rest)
      else ([c], '_' :: d :: s)
    | d :: s =>
      if isDigit d then
        let (ds, rest) := more d s
        (c :: ds, rest)
      else ([c], d :: s)
    | [] => ([c], [])

/-- A sign, if one stands here; whether it is a minus. -/
def sign : List Char → Bool × List Char
  | '+' :: s => (false, s)
  | '-' :: s => (true, s)
  | s => (false, s)

/-- The value of digits to a base. -/
def valueOf (base : Nat) (cs : List Char) : Nat :=
  cs.foldl (fun n c =>
    n * base + (if c.isDigit then c.toNat - '0'.toNat else c.toLower.toNat - 'a'.toNat + 10)) 0

/-- Whole digits without zeros in front. -/
def wholeDigits : Reader (List Char)
  | '0' :: s => some (['0'], s)
  | s => digits Char.isDigit s

/-- A whole number if it fits a signed word. -/
def word? (n : Int) : Option Toml :=
  if -0x8000000000000000 ≤ n && n < 0x8000000000000000 then some (.integer n) else none

/-- A whole number in another base, after its mark. -/
def based (base : Nat) (isDigit : Char → Bool) (s : List Char) : Option (Toml × List Char) := do
  let (ds, s) ← digits isDigit s
  some (← word? (valueOf base ds), s)

/-- The digits after a point. -/
def fraction : Reader (Option (List Char))
  | '.' :: s => (digits Char.isDigit s).map fun (ds, s) => (some ds, s)
  | s => some (none, s)

/-- The exponent of a number. -/
def exponent : Reader (Option Int)
  | c :: s =>
    if c == 'e' || c == 'E' then do
      let (minus, s) := sign s
      let (ds, s) ← digits Char.isDigit s
      let n : Int := valueOf 10 ds
      some (some (if minus then -n else n), s)
    else some (none, c :: s)
  | [] => some (none, [])

/-- The double of a decimal. No double is infinite from above. -/
def double? (minus : Bool) (ds : List Char) (exponent : Int) : Option Toml :=
  let m := valueOf 10 ds
  let x :=
    if m == 0 || exponent + ds.length < -400 then 0.0
    else if 400 < exponent then 1.0 / 0.0
    else Float.ofScientific m (exponent < 0) exponent.natAbs
  if x.isInf && !minus then none else some (.float (if minus then -x else x))

/-- A decimal number: a whole one, unless it has a fraction or an exponent. -/
def decimal (s : List Char) : Option (Toml × List Char) := do
  let (minus, s) := sign s
  let (whole, s) ← wholeDigits s
  let (frac, s) ← fraction s
  let (exp, s) ← exponent s
  match frac, exp with
  | none, none =>
    let n : Int := valueOf 10 whole
    some (← word? (if minus then -n else n), s)
  | frac, exp =>
    let after := frac.getD []
    some (← double? minus (whole ++ after) (exp.getD 0 - after.length), s)

/-- The numbers that have names. -/
def named (s : List Char) : Option (Toml × List Char) :=
  let (minus, s) := sign s
  match s with
  | 'i' :: 'n' :: 'f' :: s => some (.float (if minus then -(1.0 / 0.0) else 1.0 / 0.0), s)
  | 'n' :: 'a' :: 'n' :: s => some (.float (0.0 / 0.0), s)
  | _ => none

/-- **A number.** -/
def number : Reader Toml
  | '0' :: 'x' :: s => based 16 (fun c => c.isDigit || ('a' ≤ c.toLower && c.toLower ≤ 'f')) s
  | '0' :: 'o' :: s => based 8 (fun c => '0' ≤ c && c ≤ '7') s
  | '0' :: 'b' :: s => based 2 (fun c => c == '0' || c == '1') s
  | s => (named s).or (decimal s)

/-! ## 4. Dates and times -/

/-- So many digits. -/
def fixed (count : Nat) : Reader Nat := fun s =>
  let ds := s.take count
  if ds.length == count && ds.all Char.isDigit then some (valueOf 10 ds, s.drop count) else none

/-- A number of two digits in a range, after a mark. -/
def field (mark : Char) (low high : Nat) : Reader Nat
  | c :: s =>
    if c == mark then do
      let (n, s) ← fixed 2 s
      if low ≤ n && n ≤ high then some (n, s) else none
    else none
  | [] => none

/-- What follows a date. -/
def date? (s : List Char) : Option (List Char) := do
  let (year, s) ← fixed 4 s
  let (month, s) ← field '-' 1 12 s
  let leap := year % 4 == 0 && (year % 100 != 0 || year % 400 == 0)
  let last := match month with
    | 2 => if leap then 29 else 28
    | 4 | 6 | 9 | 11 => 30
    | _ => 31
  let (_, s) ← field '-' 1 last s
  some s

/-- What follows a time of day. -/
def time? (s : List Char) : Option (List Char) := do
  let (hour, s) ← fixed 2 s
  if 23 < hour then none
  else
    let (_, s) ← field ':' 0 59 s
    let (_, s) ← field ':' 0 60 s
    match s with
    | '.' :: c :: s => if c.isDigit then some (s.dropWhile Char.isDigit) else none
    | '.' :: [] => none
    | s => some s

/-- What follows a distance from the meridian. -/
def offset? : List Char → Option (List Char)
  | c :: s =>
    if c == 'Z' || c == 'z' then some s
    else if c == '+' || c == '-' then do
      let (hour, s) ← fixed 2 s
      let (_, s) ← field ':' 0 59 s
      if hour ≤ 23 then some s else none
    else none
  | [] => none

/-- **A date, a time of day, or both.** -/
def moment (s : List Char) : Option (Toml × List Char) :=
  match date? s with
  | some rest =>
    match rest with
    | c :: more =>
      if c == 'T' || c == 't' || c == ' ' then
        match time? more with
        | some more => some (.moment, (offset? more).getD more)
        | none => some (.moment, rest)
      else some (.moment, rest)
    | [] => some (.moment, rest)
  | none => (time? s).map fun rest => (.moment, rest)

/-! ## 5. Names -/

/-- Whether a character may stand in a name without quotes. -/
def isBare (c : Char) : Bool := c.isAlphanum || c == '_' || c == '-'

/-- A name. -/
def name : Reader String
  | '"' :: s => lineString ('"' :: s)
  | '\'' :: s => lineString ('\'' :: s)
  | s =>
    match s.span isBare with
    | ([], _) => none
    | (cs, rest) => some (String.ofList cs, rest)

/-- The nesting of tables, arrays and dotted names that a file may have. -/
def maxNesting : Nat := 79

/-- A dotted name with the blanks around it: all of its parts. -/
def path : Nat → Reader (List String)
  | 0, _ => none
  | depth + 1, s => do
    let (first, s) ← name (skipBlanks s)
    match skipBlanks s with
    | '.' :: s =>
      let (more, s) ← path depth s
      some (first :: more, s)
    | s => some ([first], s)

/-- The parts of a dotted name before the last, and the last. -/
def splitLast : List String → Option (List String × String)
  | [] => none
  | [last] => some ([], last)
  | k :: ks => (splitLast ks).map fun (front, last) => (k :: front, last)

end LiveLog.Toml.Word
