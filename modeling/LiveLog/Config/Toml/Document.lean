import LiveLog.Config.Toml.Scalar

/-!
# Settings files

The lines of a file: named values, headers of tables, comments. A named value belongs to the table of the
last header before it. A file is refused as a whole when any line of it is no such line, or defines what
is already defined.
-/

namespace LiveLog.Toml

open Word

/-! ## 1. Values -/

mutual
/-- A value. The depth bounds how far arrays and tables nest, the fuel how much is read. -/
def value : Nat → Nat → Reader Toml
  | 0, _, _ => none
  | fuel + 1, depth, s =>
    match s with
    | '"' :: _ => (Word.string s).map fun (x, s) => (.string x, s)
    | '\'' :: _ => (Word.string s).map fun (x, s) => (.string x, s)
    | '[' :: rest =>
      match depth with
      | 0 => none
      | depth + 1 => do
        let s ← skipLines rest.length rest
        match s with
        | ']' :: s => some (.array [], s)
        | s =>
          let (xs, s) ← items fuel depth s
          some (.array xs, s)
    | '\x7b' :: rest =>
      match depth with
      | 0 => none
      | depth + 1 =>
        match skipBlanks rest with
        | '\x7d' :: s => some (.table .braces [], s)
        | s => do
          let (ms, s) ← pairs fuel depth [] s
          some (.table .braces ms, s)
    | 't' :: 'r' :: 'u' :: 'e' :: s => some (.boolean true, s)
    | 'f' :: 'a' :: 'l' :: 's' :: 'e' :: s => some (.boolean false, s)
    | s => (Word.moment s).or (number s)

/-- The items of an array, up to its bracket. A comma may stand after the last. -/
def items : Nat → Nat → Reader (List Toml)
  | 0, _, _ => none
  | fuel + 1, depth, s => do
    let (x, s) ← value fuel depth s
    let s ← skipLines s.length s
    match s with
    | ']' :: s => some ([x], s)
    | ',' :: s =>
      let s ← skipLines s.length s
      match s with
      | ']' :: s => some ([x], s)
      | s =>
        let (xs, s) ← items fuel depth s
        some (x :: xs, s)
    | _ => none

/-- The named values of a table in braces, added to those read before. -/
def pairs : Nat → Nat → Members → Reader Members
  | 0, _, _, _ => none
  | fuel + 1, depth, ms, s => do
    let (keys, s) ← path maxNesting s
    let (front, key) ← splitLast keys
    match s with
    | '=' :: s =>
      let (x, s) ← value fuel depth (skipBlanks s)
      let ms ← assign front key x .braces ms
      match skipBlanks s with
      | '\x7d' :: s => some (ms, s)
      | ',' :: s => pairs fuel depth ms s
      | _ => none
    | _ => none
end

/-! ## 2. Lines -/

/-- Where the reader of a file stands: everything read, and the table that the lines belong to. -/
structure Draft where
  members : Members := []
  current : List String := []

/-- A header of a table. -/
def Draft.header (d : Draft) (s : List Char) : Option (Draft × List Char) := do
  let (keys, s) ← path maxNesting s
  let (front, key) ← splitLast keys
  match s with
  | ']' :: s => some ({ members := ← openTable front key d.members, current := keys }, s)
  | _ => none

/-- A header of another table in a list of tables. -/
def Draft.listedHeader (d : Draft) (s : List Char) : Option (Draft × List Char) := do
  let (keys, s) ← path maxNesting s
  let (front, key) ← splitLast keys
  match s with
  | ']' :: ']' :: s => some ({ members := ← openListed front key d.members, current := keys }, s)
  | _ => none

/-- A named value. -/
def Draft.pair (d : Draft) (s : List Char) : Option (Draft × List Char) := do
  let (keys, s) ← path maxNesting s
  let (front, key) ← splitLast keys
  match s with
  | '=' :: s =>
    let (x, s) ← value (2 * s.length + 2) maxNesting (skipBlanks s)
    let members ← alter false (fun origin sub => assign front key x origin sub) d.current .header
      d.members
    some ({ d with members }, s)
  | _ => none

/-- Reads the lines of a file. Every line takes at least one character. -/
def Draft.lines : Nat → Draft → List Char → Option Draft
  | 0, d, _ => some d
  | fuel + 1, d, s =>
    match skipBlanks s with
    | [] => some d
    | '[' :: '[' :: s => do
      let (d, s) ← d.listedHeader s
      Draft.lines fuel d (← restOfLine? s)
    | '[' :: s => do
      let (d, s) ← d.header s
      Draft.lines fuel d (← restOfLine? s)
    | c :: s =>
      if c == '#' || c == '\n' || c == '\r' then do
        Draft.lines fuel d (← restOfLine? (c :: s))
      else do
        let (d, s) ← d.pair (c :: s)
        Draft.lines fuel d (← restOfLine? s)

/-- **The members of a file**, if it is one. A mark of the byte order may stand in front. -/
def parse (text : String) : Option Members :=
  let s := match text.toList with
    | '\ufeff' :: s => s
    | s => s
  (Draft.lines (s.length + 1) {} s).map (·.members)

end LiveLog.Toml
