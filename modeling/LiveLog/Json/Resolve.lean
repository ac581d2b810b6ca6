import LiveLog.Json.Number

/-!
# From text to value

The meaning of a document text. Numbers get their value, escapes become characters, and objects get
their members in order with the last of equal keys kept.

Three things that the grammar admits have no meaning: half of a surrogate pair, a number beyond the
largest double, and more than `maxDepth` containers inside one another.
-/

namespace LiveLog

/-- How many containers may lie inside one another. -/
def maxDepth : Nat := 127

namespace Source

/-- **The characters of a string literal.** A high surrogate takes the low one right after it; either
    alone has no character. -/
def textOf : List Piece → Option (List Char)
  | [] => some []
  | .char c :: rest => (textOf rest).map (c :: ·)
  | .unit u :: rest =>
    if 0xDC00 ≤ u && u ≤ 0xDFFF then none
    else if 0xD800 ≤ u && u ≤ 0xDBFF then
      match rest with
      | .unit v :: rest =>
        if 0xDC00 ≤ v && v ≤ 0xDFFF then
          (textOf rest).map (Char.ofNat (0x10000 + (u - 0xD800) * 0x400 + (v - 0xDC00)) :: ·)
        else none
      | _ => none
    else (textOf rest).map (Char.ofNat u :: ·)

/-- The text of a string literal. -/
def text? (pieces : List Piece) : Option String := (textOf pieces).map String.ofList

mutual
/-- **The value of a source**, with at most `depth` containers inside one another. -/
def resolve : Nat → Source → Option Json
  | _, .null => some .null
  | _, .bool b => some (.bool b)
  | _, .number n => n.value?.map .number
  | _, .string pieces => (text? pieces).map .string
  | 0, .array _ => none
  | 0, .object _ => none
  | depth + 1, .array xs => (resolveItems depth xs).map .array
  | depth + 1, .object ms => (resolveMembers depth ms).map Json.ofMembers

/-- The values of the elements of an array. -/
def resolveItems : Nat → List Source → Option (List Json)
  | _, [] => some []
  | depth, x :: xs => do
    let v ← resolve depth x
    let vs ← resolveItems depth xs
    some (v :: vs)

/-- The members of an object, in the order of the text. -/
def resolveMembers : Nat → List (List Piece × Source) → Option (List (String × Json))
  | _, [] => some []
  | depth, (key, x) :: ms => do
    let k ← text? key
    let v ← resolve depth x
    let vs ← resolveMembers depth ms
    some ((k, v) :: vs)
end

end Source

/-- **The value of a document text.** -/
def Json.parse (text : String) : Option Json := do
  let source ← Source.parse text
  source.resolve maxDepth

end LiveLog
