import LiveLog.Json.Resolve
import LiveLog.Text.Debug

/-!
# Reading typed data

How a value of a document becomes data of a fixed shape, and every way in which it can fail to.

A structure is read from an object, whose unknown members are ignored, or from an array that lists the
members in their declared order. An optional member may be absent or null. Faults are causes, and
`DecodeError.message` is the only place that words them.

A document that is read **straight from its text** differs in two points, both about members. A member
the structure does not know is skipped unread, so nothing inside it can be at fault; and a known member
must not be given twice. `Shape.select` says that: it drops what a shape does not know from the source
of a text and gives the rest its meaning.
-/

namespace LiveLog

/-! ## 1. Faults -/

/-- What a value turned out to be. -/
inductive Found where
  | null
  | bool (b : Bool)
  | number (n : Number)
  | string (s : String)
  | array
  | object
deriving DecidableEq, Repr

/-- What was asked for. -/
inductive Expected where
  | text
  | boolean
  | sequence
  | word64
  | word32
  | double
  | structure (name : String)
  | variant
  | unit
  | singleKey
deriving DecidableEq, Repr

/-- **Why a value is not of a type.** -/
inductive DecodeError where
  | invalidType (found : Found) (expected : Expected)
  | invalidValue (found : Found) (expected : Expected)
  | missingField (name : String)
  | unknownVariant (name : String) (known : List String)
  /-- An array ended before its required element number `length`. -/
  | tooShort (length : Nat) (name : String) (count : Nat)
  /-- An array has more elements than the structure has members. -/
  | tooLong (length : Nat)
deriving DecidableEq, Repr

/-- What a value is, for a fault about it. -/
def Found.of : Json → Found
  | .null => .null
  | .bool b => .bool b
  | .number n => .number n
  | .string s => .string s
  | .array _ => .array
  | .object _ => .object

/-- The wording of what was found. -/
def Found.message : Found → String
  | .null => "null"
  | .bool b => "boolean `" ++ toString b ++ "`"
  | .number (.natural n) => "integer `" ++ toString n ++ "`"
  | .number (.negative n) => "integer `-" ++ toString n ++ "`"
  | .number (.real bits) => "floating point `" ++ Decimal.pointed (Float.ofBits bits) ++ "`"
  | .string s => "string " ++ Text.quotedDebug s
  | .array => "sequence"
  | .object => "map"

/-- The wording of what was asked for. -/
def Expected.message : Expected → String
  | .text => "a string"
  | .boolean => "a boolean"
  | .sequence => "a sequence"
  | .word64 => "u64"
  | .word32 => "u32"
  | .double => "f64"
  | .structure name => "struct " ++ name
  | .variant => "string or map"
  | .unit => "unit"
  | .singleKey => "map with a single key"

/-- The known names of a choice, as a message lists them. -/
def oneOf : List String → String
  | [a, b] => "`" ++ a ++ "` or `" ++ b ++ "`"
  | names => "one of " ++ ", ".intercalate (names.map fun n => "`" ++ n ++ "`")

/-- **The wording of a fault.** -/
def DecodeError.message : DecodeError → String
  | .invalidType found expected => "invalid type: " ++ found.message ++ ", expected " ++ expected.message
  | .invalidValue found expected =>
    "invalid value: " ++ found.message ++ ", expected " ++ expected.message
  | .missingField name => "missing field `" ++ name ++ "`"
  | .unknownVariant name known => "unknown variant `" ++ name ++ "`, expected " ++ oneOf known
  | .tooShort length name count =>
    "invalid length " ++ toString length ++ ", expected struct " ++ name ++ " with " ++ toString count ++
      " elements"
  | .tooLong length => "invalid length " ++ toString length ++ ", expected fewer elements in array"

/-- The outcome of reading data. -/
abbrev Decoded (α : Type) := Except DecodeError α

namespace Json

/-! ## 2. Simple data -/

/-- The fault that a value is of the wrong type. -/
def wrongType {α : Type} (x : Json) (expected : Expected) : Decoded α :=
  .error (.invalidType (.of x) expected)

/-- A string. -/
def asText : Json → Decoded String
  | .string s => .ok s
  | x => x.wrongType .text

/-- A truth value. -/
def asBool : Json → Decoded Bool
  | .bool b => .ok b
  | x => x.wrongType .boolean

/-- A whole number from zero to `limit`. A whole number outside is of the right type, but has no value
    here; a double is of the wrong type even when it is whole. -/
def asNatural (limit : Nat) (expected : Expected) : Json → Decoded Nat
  | .number (.natural n) =>
    if n ≤ limit then .ok n else .error (.invalidValue (.number (.natural n)) expected)
  | .number (.negative n) => .error (.invalidValue (.number (.negative n)) expected)
  | x => x.wrongType expected

/-- An unsigned word of 64 bits. -/
def asWord64 : Json → Decoded Nat := asNatural maxWord .word64

/-- An unsigned word of 32 bits. -/
def asWord32 : Json → Decoded Nat := asNatural 0xFFFFFFFF .word32

/-- A double; a whole number is rounded to one. -/
def asDouble : Json → Decoded Float
  | .number (.natural n) => .ok (UInt64.ofNat n).toFloat
  | .number (.negative n) => .ok (-(UInt64.ofNat n).toFloat)
  | .number (.real bits) => .ok (Float.ofBits bits)
  | x => x.wrongType .double

/-- Data that may be null. -/
def asOptional {α : Type} (read : Json → Decoded α) : Json → Decoded (Option α)
  | .null => .ok none
  | x => (read x).map some

/-- A list of data. -/
def asList {α : Type} (read : Json → Decoded α) : Json → Decoded (List α)
  | .array xs => xs.mapM read
  | x => x.wrongType .sequence

/-- **A choice among names**: the name as a string, or an object with the name as its only key and
    null as its value. -/
def asChoice {α : Type} (choices : List (String × α)) : Json → Decoded α
  | .string s => choose s
  | .object [(key, inner)] => do
    let a ← choose key
    match inner with
    | .null => pure a
    | x => x.wrongType .unit
  | .object _ => .error (.invalidValue .object .singleKey)
  | x => x.wrongType .variant
where
  /-- The choice of a name. -/
  choose (s : String) : Decoded α :=
    match choices.lookup s with
    | some a => .ok a
    | none => .error (.unknownVariant s (choices.map (·.1)))

/-! ## 3. Members -/

/-- The member of a key, read if it is there. -/
def member? {α : Type} (members : List (String × Json)) (key : String) (read : Json → Decoded α) :
    Decoded (Option α) :=
  match members.lookup key with
  | none => .ok none
  | some x => (read x).map some

/-- A member that has to be there. -/
def required {α : Type} (key : String) : Option α → Decoded α
  | some a => .ok a
  | none => .error (.missingField key)

/-- The element at a place, read if it is there. -/
def element? {α : Type} (items : List Json) (i : Nat) (read : Json → Decoded α) :
    Decoded (Option α) :=
  match items[i]? with
  | none => .ok none
  | some x => (read x).map some

/-- The element at a place, which has to be there in the array form of a structure. -/
def requiredElement {α : Type} (name : String) (count i : Nat) : Option α → Decoded α
  | some a => .ok a
  | none => .error (.tooShort i name count)

/-- The array form of a structure has at most as many elements as the structure has members. -/
def noMoreThan (items : List Json) (count : Nat) : Decoded Unit :=
  if count < items.length then .error (.tooLong items.length) else .ok ()

end Json

/-! ## 4. Straight from text -/

/-- Which parts of a source are looked at. -/
inductive Shape where
  /-- Everything. -/
  | whole
  /-- A choice: an object must have exactly one member. -/
  | choice
  /-- A list of one shape. -/
  | list (item : Shape)
  /-- A structure with these members, in declared order. -/
  | record (members : List (String × Shape))

namespace Shape

/-- Whether a list of names repeats one. -/
def repeats : List String → Bool
  | [] => false
  | n :: ns => ns.contains n || repeats ns

mutual
/-- **The value of a source as far as a shape looks at it.** Members that a structure does not know
    are dropped before anything in them is given a meaning. A depth counts as in `Source.resolve`. -/
def select : Nat → Shape → Source → Option Json
  | depth, .choice, .object [m] => Source.resolve depth (.object [m])
  | _, .choice, .object _ => none
  | 0, .list _, .array _ => none
  | depth + 1, .list item, .array xs => (selectItems depth item xs).map .array
  | 0, .record _, .array _ => none
  | depth + 1, .record fields, .array xs => (selectElements depth fields xs).map .array
  | 0, .record _, .object _ => none
  | depth + 1, .record fields, .object ms => do
    let members ← selectMembers depth fields ms
    if repeats (members.map (·.1)) then none else some (Json.ofMembers members)
  | depth, _, source => source.resolve depth

/-- The elements of a list. -/
def selectItems : Nat → Shape → List Source → Option (List Json)
  | _, _, [] => some []
  | depth, item, x :: xs => do
    let v ← select depth item x
    let vs ← selectItems depth item xs
    some (v :: vs)

/-- The elements of a structure in its array form; those beyond its members are read whole. -/
def selectElements : Nat → List (String × Shape) → List Source → Option (List Json)
  | _, _, [] => some []
  | depth, [], x :: xs => do
    let v ← x.resolve depth
    let vs ← selectElements depth [] xs
    some (v :: vs)
  | depth, field :: fields, x :: xs => do
    let v ← select depth field.2 x
    let vs ← selectElements depth fields xs
    some (v :: vs)

/-- The known members of an object, in the order of the text. The key of a skipped member still has
    to be a text. -/
def selectMembers : Nat → List (String × Shape) → List (List Piece × Source) →
    Option (List (String × Json))
  | _, _, [] => some []
  | depth, fields, (key, x) :: ms => do
    let k ← Source.text? key
    match fields.lookup k with
    | none => selectMembers depth fields ms
    | some shape =>
      let v ← select depth shape x
      let vs ← selectMembers depth fields ms
      some ((k, v) :: vs)
end

/-- **Data read straight from a text**, if the text is a document and holds such data. -/
def read {α : Type} (shape : Shape) (ofJson : Json → Decoded α) (text : String) : Option α := do
  let source ← Source.parse text
  let value ← shape.select maxDepth source
  (ofJson value).toOption

end Shape
end LiveLog
