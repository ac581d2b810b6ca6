import LiveLog.Net.Service
import LiveLog.Proofs.Json.Fields
import LiveLog.Proofs.Json.Straight
import Mathlib

/-!
# Two ways to the same data

Records and snapshots reach a caller on two ways that read differently. On the stream a frame is read as a
value first, and the data of the response are read from that value. Over the web the body is read straight
from its text, and what a structure does not know is skipped there before it has any meaning. The structures
that travel are read by key and look at nothing else (`Record.readsOnly`, `Stats.readsOnly`), and that is all
it takes: as long as no key stands twice, what is skipped would not have been looked at.

Keys that stand twice are the one point on which the two ways part. The value keeps the last of them and the
text is refused.
-/

namespace LiveLog

/-! ## 1. Structures that are read by key -/

theorem Json.member?_congr {α : Type} {ms ms' : List (String × Json)} {key : String}
    (h : ms.lookup key = ms'.lookup key) (read : Json → Decoded α) :
    member? ms key read = member? ms' key read := by
  rw [member?, h, member?]

theorem Record.readsOnly :
    Shape.ReadsOnly [("timestamp", .whole), ("level", .whole), ("message", .whole)] ofJson := by
  intro ms ms' h
  rw [ofJson, ofJson, Json.member?_congr (h "level" rfl), Json.member?_congr (h "message" rfl),
    Json.member?_congr (h "timestamp" rfl)]

theorem Record.agrees : Shape.Agrees shape ofJson := Shape.agrees_record (by simp) readsOnly

theorem Record.agrees_list : Shape.Agrees (.list shape) listOfJson := Shape.agrees_list agrees

theorem Stats.readsOnly :
    Shape.ReadsOnly [("totalLogs", .whole), ("warningCount", .whole), ("errorCount", .whole),
      ("infoCount", .whole), ("debugCount", .whole), ("clientCount", .whole)] ofJson := by
  intro ms ms' h
  rw [ofJson, ofJson, Json.member?_congr (h "clientCount" rfl), Json.member?_congr (h "debugCount" rfl),
    Json.member?_congr (h "errorCount" rfl), Json.member?_congr (h "infoCount" rfl),
    Json.member?_congr (h "totalLogs" rfl), Json.member?_congr (h "warningCount" rfl)]

theorem Stats.agrees : Shape.Agrees shape ofJson := Shape.agrees_record (by simp) readsOnly

/-! ## 2. Bodies and responses -/

theorem Decoded.toOption_eq_some_iff {α : Type} {x : Decoded α} {a : α} :
    x.toOption = some a ↔ x = .ok a := by
  cases x <;> simp [Except.toOption]

theorem Decoded.mapError_eq_ok_iff {α : Type} {x : Decoded α} {f : DecodeError → ClientError} {a : α} :
    x.mapError f = .ok a ↔ x = .ok a := by
  cases x <;> simp [Except.mapError]

theorem Decoded.map_mapError {α β : Type} (x : Decoded α) (f : DecodeError → ClientError)
    (g : α → β) : (x.mapError f).map g = (x.map g).mapError f := by
  cases x <;> rfl

namespace Operation

/-- Why a body was not read is not said. -/
def unread (_ : DecodeError) : ClientError := .parse "error decoding response body"

section
variable {text : String} {source : Source} {v : Json} {body : List UInt8}

theorem readBody_eq {α : Type} {shape : Shape} {ofJson : Json → Decoded α} (h : shape.Agrees ofJson)
    (hsource : Source.parse text = some source) (hdistinct : source.Distinct)
    (hvalue : Json.parse text = some v) (hbody : String.fromUTF8? (ByteArray.mk body.toArray) = some text) :
    readBody shape ofJson body = (ofJson v).mapError unread := by
  rw [readBody, hbody, Option.bind_some, Shape.read_eq_of_agrees h hsource hdistinct hvalue]
  cases ofJson v <;> rfl

/-- **A good reply is read as its value would be**, up to what is said of a fault. -/
theorem readReply_eq (op : Operation) (hop : op.kind ≠ .downloadLogs) {reply : WebReply}
    (hstatus : WebStatus.isSuccess reply.status = true) (hsource : Source.parse text = some source)
    (hdistinct : source.Distinct) (hvalue : Json.parse text = some v)
    (hbody : String.fromUTF8? (ByteArray.mk reply.body.toArray) = some text) :
    op.readReply reply = (op.decode v).mapError unread := by
  have hlogs := readBody_eq Record.agrees_list hsource hdistinct hvalue hbody
  have hstats := readBody_eq Stats.agrees hsource hdistinct hvalue hbody
  unfold readReply
  rw [if_pos hstatus]
  cases op with
  | fetchLogs limit offset => exact (congrArg _ hlogs).trans (Decoded.map_mapError _ _ _)
  | fetchLogsByLevel level => exact (congrArg _ hlogs).trans (Decoded.map_mapError _ _ _)
  | fetchStats => exact (congrArg _ hstats).trans (Decoded.map_mapError _ _ _)
  | clearLogs => rfl
  | downloadLogs format => exact absurd rfl hop

end

/-- **Both transports give the same data.** For a text that is a document and has no key twice in any
    object: read straight from the text, it is a list of records exactly if its value is that list, and it
    is a snapshot exactly if its value is that snapshot. So an operation gives the same answer, or fails,
    whether the text is the body of a good reply or the data of a response; only the bytes of a download are
    not read at all. -/
theorem transports_decode_alike {text : String} {source : Source} (hsource : Source.parse text = some source)
    (hdistinct : source.Distinct) {v : Json} (hvalue : Json.parse text = some v) :
    (∀ records, Shape.read (.list Record.shape) Record.listOfJson text = some records ↔
      Record.listOfJson v = .ok records) ∧
    (∀ snapshot, Shape.read Stats.shape Stats.ofJson text = some snapshot ↔
      Stats.ofJson v = .ok snapshot) ∧
    (∀ (op : Operation) (reply : WebReply), op.kind ≠ .downloadLogs →
      WebStatus.isSuccess reply.status = true →
      String.fromUTF8? (ByteArray.mk reply.body.toArray) = some text →
      ∀ answer, op.readReply reply = .ok answer ↔ op.settled? (.ok v) = some (.ok answer)) := by
  refine ⟨?_, ?_, ?_⟩
  · intro records
    rw [Shape.read_eq_of_agrees Record.agrees_list hsource hdistinct hvalue, Decoded.toOption_eq_some_iff]
  · intro snapshot
    rw [Shape.read_eq_of_agrees Stats.agrees hsource hdistinct hvalue, Decoded.toOption_eq_some_iff]
  · intro op reply hop hstatus hbody answer
    rw [readReply_eq op hop hstatus hsource hdistinct hvalue hbody, settled?, Option.some.injEq,
      Decoded.mapError_eq_ok_iff, Decoded.mapError_eq_ok_iff]

/-- Two records, one with a member that no record has and one as an array. -/
def twoRecords : String :=
  "[\x7b\"level\":\"INFO\",\"host\":\x7b\"level\":null\x7d,\"message\":\"m\"\x7d,[\"t\",\"WARN\",\"w\"]]"

/-- The tree of that text. -/
def twoRecordsSource : Source :=
  .array [.object [(pieces "level", .string (pieces "INFO")),
      (pieces "host", .object [(pieces "level", .null)]), (pieces "message", .string (pieces "m"))],
    .array [.string (pieces "t"), .string (pieces "WARN"), .string (pieces "w")]]
where
  pieces (s : String) : List Piece := s.toList.map .char

theorem distinct_twoRecordsSource : twoRecordsSource.Distinct := by
  refine .array ?_
  simp only [List.forall_mem_cons]
  refine ⟨.object (by decide) ?_, .array ?_, by simp⟩
  · simp only [List.forall_mem_cons]
    refine ⟨.string _, .object (by decide) ?_, .string _, by simp⟩
    simp only [List.forall_mem_cons]
    exact ⟨.null, by simp⟩
  · simp only [List.forall_mem_cons]
    exact ⟨.string _, .string _, .string _, by simp⟩

/-- Both records are read straight from the text, and as a snapshot it is refused. -/
theorem two_records_straight :
    Shape.read (.list Record.shape) Record.listOfJson twoRecords =
      some [{ timestamp := "", level := "INFO", message := "m" },
        { timestamp := "t", level := "WARN", message := "w" }] ∧
    ∀ snapshot, Shape.read Stats.shape Stats.ofJson twoRecords ≠ some snapshot := by
  have hsource : Source.parse twoRecords = some twoRecordsSource := by cbv
  have hvalue : Json.parse twoRecords = some (.array [.object [("host", .object [("level", .null)]),
      ("level", .string "INFO"), ("message", .string "m")],
    .array [.string "t", .string "WARN", .string "w"]]) := by cbv
  obtain ⟨hrecords, hsnapshot, -⟩ := transports_decode_alike hsource distinct_twoRecordsSource hvalue
  constructor
  · exact (hrecords _).mpr rfl
  · intro snapshot hread
    have hrefused : (.error (.invalidType .object .word64) : Decoded Stats) = .ok snapshot :=
      (hsnapshot snapshot).mp hread
    exact absurd hrefused (by simp)

end Operation
end LiveLog
