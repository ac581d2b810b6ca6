import LiveLog.Text.Blank
import LiveLog.Text.Lower
import LiveLog.Json.Decode

/-!
# Categories

What a log message is about, judged by its words. The categories stand in an order of priority, and a
message is in the first category that has a keyword somewhere in it, so `login process crashed` is
about authentication although it names a process.
-/

namespace LiveLog

/-- What a message is about. -/
inductive Category where
  | auth
  | database
  | network
  | system
  | other
deriving DecidableEq, Repr

namespace Category

/-- The categories in order of priority. -/
def all : List Category := [.auth, .database, .network, .system, .other]

/-- The name of a category. -/
def name : Category → String
  | .auth => "auth"
  | .database => "database"
  | .network => "network"
  | .system => "system"
  | .other => "other"

/-- The keywords of a category. `other` has none: it is what is left. -/
def keywords : Category → List String
  | .auth => ["login", "auth", "password"]
  | .database => ["database", "sql", "table", "transaction"]
  | .network => ["network", "connection", "socket", "request", "response"]
  | .system => ["system", "server", "process"]
  | .other => []

/-- Whether one text occurs in another. -/
def occursIn (word : List Char) : List Char → Bool
  | [] => word.isEmpty
  | c :: cs => word.isPrefixOf (c :: cs) || occursIn word cs

/-- Whether a text in small letters has a keyword of a category in it. -/
def mentioned (small : List Char) (c : Category) : Bool :=
  c.keywords.any fun k => occursIn k.toList small

/-- **The category of a message**: the first that it mentions, in any letter case. -/
def ofMessage (message : String) : Category :=
  let small := (Text.lower message).toList
  (all.find? (mentioned small)).getD .other

/-- The category that a filter names. Any other text, `all` and nothing among them, names none. -/
def ofFilter (text : String) : Option Category :=
  let s := Text.lower (Text.trim text)
  all.find? fun c => c.name == s

/-- The next choice of the category filter; no category stands before the first and after the last. -/
def next : Option Category → Option Category
  | none => some .auth
  | some .auth => some .database
  | some .database => some .network
  | some .network => some .system
  | some .system => some .other
  | some .other => none

/-- The written categories. -/
def choices : List (String × Category) := all.map fun c => (c.name, c)

/-- A category from a document. -/
def ofJson : Json → Decoded Category := Json.asChoice choices

end Category
end LiveLog
