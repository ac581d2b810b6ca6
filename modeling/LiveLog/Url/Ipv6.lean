import LiveLog.Url.Ipv4

/-!
# Addresses of eight numbers

Eight groups of up to four hexadecimal digits with colons between them. A run of zero groups may be left
out once, as `::`, and the last two groups may be written as four decimal numbers.
-/

namespace LiveLog.Url.Ipv6

/-- The parts of a text between colons. -/
def groups : List Char → List (List Char)
  | [] => [[]]
  | ':' :: rest => [] :: groups rest
  | c :: rest =>
    match groups rest with
    | first :: others => (c :: first) :: others
    | [] => [[c]]

/-- The text before the first `::` and the text after it. -/
def splitGap : List Char → List Char × Option (List Char)
  | ':' :: ':' :: rest => ([], some rest)
  | c :: rest =>
    let (before, after) := splitGap rest
    (c :: before, after)
  | [] => ([], none)

/-- The value of a group. -/
def group? (cs : List Char) : Option Nat :=
  if cs.isEmpty || 4 < cs.length then none else Ipv4.valueOf? 16 cs

/-- The value of one of four decimal numbers. A number of several digits does not start with zero. -/
def byte? (cs : List Char) : Option Nat :=
  match cs with
  | [] => none
  | '0' :: _ :: _ => none
  | cs => (Ipv4.valueOf? 10 cs).filter (· ≤ 255)

/-- The two groups that four decimal numbers stand for. -/
def dotted? (cs : List Char) : Option (List Nat) := do
  match ← (Ipv4.labels cs).mapM byte? with
  | [a, b, c, d] => some [a * 256 + b, c * 256 + d]
  | _ => none

/-- The values of a list of groups; only the last may be dotted, and only where `dots` allows it. -/
def values? (dots : Bool) : List (List Char) → Option (List Nat)
  | [] => some []
  | [last] => if dots && last.contains '.' then dotted? last else (group? last).map ([·])
  | g :: gs => do
    let v ← group? g
    let vs ← values? dots gs
    some (v :: vs)

/-- The values of a text of groups, which may be empty beside a gap. -/
def side? (dots : Bool) (cs : List Char) : Option (List Nat) :=
  if cs.isEmpty then some [] else values? dots (groups cs)

/-- **The eight groups of an address.** A gap stands for at least one group. -/
def parse? (cs : List Char) : Option (List Nat) :=
  match splitGap cs with
  | (all, none) => do
    let vs ← values? true (groups all)
    if vs.length == 8 then some vs else none
  | (before, some after) => do
    let front ← side? false before
    let back ← side? true after
    if 7 < front.length + back.length then none
    else some (front ++ List.replicate (8 - (front.length + back.length)) 0 ++ back)

/-- The digits of a group in small letters, without zeros in front. -/
def groupText (n : Nat) : String := String.ofList (Nat.toDigits 16 n)

/-- The length of the run of zeros that a list starts with. -/
def zeros (vs : List Nat) : Nat := (vs.takeWhile (· == 0)).length

/-- The start and the length of the first longest run of zeros. -/
def longestRun (vs : List Nat) : Nat × Nat :=
  (List.range vs.length).foldl (fun best i =>
    let n := zeros (vs.drop i)
    if best.2 < n then (i, n) else best) (0, 0)

/-- **The text of an address.** The first longest run of at least two zero groups is left out. -/
def text (vs : List Nat) : String :=
  let (start, length) := longestRun vs
  let join (ws : List Nat) : String := ":".intercalate (ws.map groupText)
  if 2 ≤ length then join (vs.take start) ++ "::" ++ join (vs.drop (start + length)) else join vs

end LiveLog.Url.Ipv6
