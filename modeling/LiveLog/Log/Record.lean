import LiveLog.Log.Severity
import LiveLog.Log.Category
import LiveLog.Time.Stamp

/-!
# Log records

A record as the server sends it: time stamp, level and message, all kept as text. The category is found once,
when a record is made, and kept beside them. It is not something that a server can say: a record has the category
of its own message, and carries the proof that it has.
-/

namespace LiveLog

/-- **A log record.** -/
structure Record where
  timestamp : String
  level : String
  message : String
  /-- What the message is about. -/
  category : Category := Category.ofMessage message
  category_eq : category = Category.ofMessage message := by rfl
deriving DecidableEq, Repr

namespace Record

/-- Records with the same texts are the same. -/
theorem eq_of_texts {r s : Record} (htimestamp : r.timestamp = s.timestamp) (hlevel : r.level = s.level)
    (hmessage : r.message = s.message) : r = s := by
  obtain ⟨timestamp, level, message, category, rfl⟩ := r
  obtain ⟨timestamp', level', message', category', rfl⟩ := s
  obtain rfl := htimestamp
  obtain rfl := hlevel
  obtain rfl := hmessage
  rfl

/-- The bucket that the record counts in. -/
def severity (r : Record) : Option Severity := Severity.ofLevel r.level

/-- The instant of the time stamp, when it can be read. -/
def instant (r : Record) (zone : Zone := .utc) : Option Instant := Stamp.parse zone r.timestamp

/-- What is written of a record, in declared order. The category is written for readers that want it. -/
def members (r : Record) : List (String × Json) :=
  [("timestamp", .string r.timestamp), ("level", .string r.level), ("message", .string r.message),
    ("category", .string r.category.name)]

/-- The document form of a record. -/
def toJson (r : Record) : Json := Json.ofMembers r.members

/-- The name that messages about a malformed record use. -/
def shapeName : String := "RawLogRecord"

/-- **A record from a document.** The time stamp may be absent; whatever category the document names is
    ignored. -/
def ofJson : Json → Decoded Record
  | .object ms => do
    let level ← Json.member? ms "level" Json.asText
    let message ← Json.member? ms "message" Json.asText
    let timestamp ← Json.member? ms "timestamp" Json.asText
    let level ← Json.required "level" level
    let message ← Json.required "message" message
    pure { timestamp := timestamp.getD "", level, message }
  | .array xs => do
    let timestamp ← Json.element? xs 0 Json.asText
    let level ← Json.requiredElement shapeName 3 1 (← Json.element? xs 1 Json.asText)
    let message ← Json.requiredElement shapeName 3 2 (← Json.element? xs 2 Json.asText)
    Json.noMoreThan xs 3
    pure { timestamp := timestamp.getD "", level, message }
  | x => x.wrongType (.structure shapeName)

/-- The members of a record, for reading one straight from text. -/
def shape : Shape := .record [("timestamp", .whole), ("level", .whole), ("message", .whole)]

/-- A list of records from a document. -/
def listOfJson : Json → Decoded (List Record) := Json.asList ofJson

end Record
end LiveLog
