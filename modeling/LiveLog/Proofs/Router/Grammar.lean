import LiveLog.Proofs.Json.Meaning
import LiveLog.Proofs.Router.Landing
import Mathlib

/-!
# The grammar of frames

Which texts are frames is a question about members: what the type is, and what each member has to be that a
frame of that type looks at. The rules differ more than they seem to. A count may be null, a time stamp may
not; an error that is null is no error, and a success that is null is a fault. So the rules are written down
as they stand (`LogForm`, `StatsForm`, `ResponseForm`), and about the tree of the text and not about values,
because only there a whole number is a literal and a key can be repeated.

A member of the text and the member of the value that it gives are recognised alike (`Source.Means`), so a
frame is read exactly when its members are what its form asks for.
-/

namespace LiveLog

/-! ## 1. Structures -/

theorem Record.ofJson_object_eq_ok_iff {ms : List (String × Json)} {r : Record} :
    ofJson (.object ms) = .ok r ↔
      Json.Holds Json.asText (ms.lookup "level") (some r.level) ∧
      Json.Holds Json.asText (ms.lookup "message") (some r.message) ∧
      ∃ t, Json.Holds Json.asText (ms.lookup "timestamp") t ∧ r.timestamp = t.getD "" := by
  simp only [ofJson, Decoded.bind_eq_ok_iff, Json.member?_eq_ok_iff, Json.required_eq_ok_iff]
  constructor
  · rintro ⟨_, hlevel, _, hmessage, t, htime, l, rfl, m, rfl, hr⟩
    obtain rfl := Except.ok.inj hr
    exact ⟨hlevel, hmessage, t, htime, rfl⟩
  · rintro ⟨hlevel, hmessage, t, htime, hr⟩
    refine ⟨_, hlevel, _, hmessage, t, htime, _, rfl, _, rfl, ?_⟩
    exact congrArg Except.ok (eq_of_texts hr.symm rfl rfl)

theorem Stats.ofJson_object_eq_ok_iff {ms : List (String × Json)} {s : Stats} :
    ofJson (.object ms) = .ok s ↔
      ∀ m ∈ s.members, Json.HoldsOptional Json.asWord64 (ms.lookup m.1) m.2 := by
  simp only [ofJson, Stats.count, Decoded.bind_eq_ok_iff, Json.member?_eq_ok_iff, Stats.members,
    List.forall_mem_cons, ← Json.holds_asOptional_iff]
  constructor
  · rintro ⟨clients, hclients, debug, hdebug, error, herror, info, hinfo, total, htotal, warning,
      hwarning, hs⟩
    obtain rfl := Except.ok.inj hs
    exact ⟨⟨total, htotal, rfl⟩, ⟨warning, hwarning, rfl⟩, ⟨error, herror, rfl⟩,
      ⟨info, hinfo, rfl⟩, ⟨debug, hdebug, rfl⟩, ⟨clients, hclients, rfl⟩, by simp⟩
  · rintro ⟨⟨total, htotal, ht⟩, ⟨warning, hwarning, hw⟩, ⟨error, herror, he⟩,
      ⟨info, hinfo, hi⟩, ⟨debug, hdebug, hd⟩, ⟨clients, hclients, hc⟩, -⟩
    refine ⟨clients, hclients, debug, hdebug, error, herror, info, hinfo, total, htotal, warning,
      hwarning, ?_⟩
    rw [hc, hd, he, hi, ht, hw]
    rfl

/-- The counts of a snapshot can be found one by one. -/
theorem Stats.exists_members_iff (P : String → Option Nat → Prop) :
    (∃ s : Stats, ∀ m ∈ s.members, P m.1 m.2) ↔
      ∀ key ∈ ["totalLogs", "warningCount", "errorCount", "infoCount", "debugCount", "clientCount"],
        ∃ n, P key n := by
  simp only [members, List.forall_mem_cons]
  constructor
  · rintro ⟨s, htotal, hwarning, herror, hinfo, hdebug, hclients, -⟩
    exact ⟨⟨_, htotal⟩, ⟨_, hwarning⟩, ⟨_, herror⟩, ⟨_, hinfo⟩, ⟨_, hdebug⟩, ⟨_, hclients⟩, by simp⟩
  · rintro ⟨⟨total, htotal⟩, ⟨warning, hwarning⟩, ⟨error, herror⟩, ⟨info, hinfo⟩, ⟨debug, hdebug⟩,
      ⟨clients, hclients⟩, -⟩
    exact ⟨⟨total, warning, error, info, debug, clients⟩, htotal, hwarning, herror, hinfo, hdebug,
      hclients, by simp⟩

theorem Response.ofJson_object_eq_ok_iff {ms : List (String × Json)} {r : Response} :
    ofJson (.object ms) = .ok r ↔
      Json.Holds Json.asWord64 (ms.lookup "requestId") (some r.id) ∧
      Json.Holds Json.asBool (ms.lookup "success") (some r.success) ∧
      Json.HoldsOptional .ok (ms.lookup "data") r.data ∧
      Json.HoldsOptional Json.asText (ms.lookup "error") r.error := by
  simp only [ofJson, Decoded.bind_eq_ok_iff, Json.member?_eq_ok_iff, Json.required_eq_ok_iff,
    ← Json.holds_asOptional_iff]
  constructor
  · rintro ⟨data, hdata, error, herror, _, hid, _, hsuccess, id, rfl, success, rfl, hr⟩
    obtain rfl := Except.ok.inj hr
    exact ⟨hid, hsuccess, ⟨data, hdata, rfl⟩, ⟨error, herror, rfl⟩⟩
  · rintro ⟨hid, hsuccess, ⟨data, hdata, hjoin⟩, ⟨error, herror, hjoin'⟩⟩
    refine ⟨data, hdata, error, herror, _, hid, _, hsuccess, _, rfl, _, rfl, ?_⟩
    rw [hjoin, hjoin']
    rfl

/-! ## 2. Forms -/

namespace Frame

open Source (IsText IsBool IsWord Means)

/-- **What the members of a pushed record have to be.** -/
structure LogForm (field : String → Option Source) : Prop where
  level : IsText (field "level")
  message : IsText (field "message")
  timestamp : field "timestamp" = none ∨ IsText (field "timestamp")

/-- **What the members of a pushed snapshot have to be.** -/
def StatsForm (field : String → Option Source) : Prop :=
  ∀ key ∈ ["totalLogs", "warningCount", "errorCount", "infoCount", "debugCount", "clientCount"],
    field key = none ∨ field key = some .null ∨ IsWord (field key)

/-- **What the members of a response have to be.** -/
structure ResponseForm (field : String → Option Source) : Prop where
  requestId : IsWord (field "requestId")
  success : IsBool (field "success")
  error : field "error" = none ∨ field "error" = some .null ∨ IsText (field "error")

variable {field : String → Option Source} {ms : List (String × Json)}

theorem logForm_iff (h : ∀ key ≠ "type", Means (field key) (ms.lookup key)) :
    LogForm field ↔ ∃ r, Record.ofJson (.object ms) = .ok r := by
  simp only [Record.ofJson_object_eq_ok_iff]
  constructor
  · rintro ⟨hlevel, hmessage, htime⟩
    obtain ⟨l, hl⟩ := (h "level" (by decide)).text_iff.mp hlevel
    obtain ⟨m, hm⟩ := (h "message" (by decide)).text_iff.mp hmessage
    rcases htime with hnone | htext
    · have habsent := (h "timestamp" (by decide)).absent_iff.mp hnone
      exact ⟨{ timestamp := "", level := l, message := m }, hl, hm, none, habsent, rfl⟩
    · obtain ⟨t, ht⟩ := (h "timestamp" (by decide)).text_iff.mp htext
      exact ⟨{ timestamp := t, level := l, message := m }, hl, hm, some t, ht, rfl⟩
  · rintro ⟨r, hl, hm, t, ht, -⟩
    refine ⟨(h "level" (by decide)).text_iff.mpr ⟨_, hl⟩,
      (h "message" (by decide)).text_iff.mpr ⟨_, hm⟩, ?_⟩
    cases t with
    | none => exact .inl ((h "timestamp" (by decide)).absent_iff.mpr ht)
    | some t => exact .inr ((h "timestamp" (by decide)).text_iff.mpr ⟨t, ht⟩)

theorem statsForm_iff (h : ∀ key ≠ "type", Means (field key) (ms.lookup key)) :
    StatsForm field ↔ ∃ s, Stats.ofJson (.object ms) = .ok s := by
  have hcount : ∀ key ≠ "type", (field key = none ∨ field key = some .null ∨ IsWord (field key)) ↔
      ∃ n, Json.HoldsOptional Json.asWord64 (ms.lookup key) n := by
    intro key hkey
    have hmeans := h key hkey
    rw [Json.exists_holdsOptional_iff, hmeans.absent_iff, hmeans.null_iff, hmeans.word_iff]
  simp only [Stats.ofJson_object_eq_ok_iff]
  refine Iff.trans ?_ (Stats.exists_members_iff fun key => Json.HoldsOptional Json.asWord64 (ms.lookup key)).symm
  refine forall₂_congr fun key hkey => hcount key ?_
  rintro rfl
  exact absurd hkey (by decide)

theorem responseForm_iff (h : ∀ key ≠ "type", Means (field key) (ms.lookup key)) :
    ResponseForm field ↔ ∃ r, Response.ofJson (.object ms) = .ok r := by
  have herror := h "error" (by decide)
  have hid := (h "requestId" (by decide)).word_iff
  have hsuccess := (h "success" (by decide)).bool_iff
  have hoptional : (field "error" = none ∨ field "error" = some .null ∨ IsText (field "error")) ↔
      ∃ e, Json.HoldsOptional Json.asText (ms.lookup "error") e := by
    rw [Json.exists_holdsOptional_iff, herror.absent_iff, herror.null_iff, herror.text_iff]
  -- Whatever the data are, there is a reading of them.
  have hdata : ∃ d, Json.HoldsOptional .ok (ms.lookup "data") d := by
    rw [Json.exists_holdsOptional_iff]
    cases ms.lookup "data" with
    | none => exact .inl rfl
    | some x => exact .inr (.inr ⟨x, x, rfl, rfl⟩)
  simp only [Response.ofJson_object_eq_ok_iff]
  constructor
  · rintro ⟨hid', hsuccess', herror'⟩
    obtain ⟨n, hn⟩ := hid.mp hid'
    obtain ⟨b, hb⟩ := hsuccess.mp hsuccess'
    obtain ⟨e, he⟩ := hoptional.mp herror'
    obtain ⟨d, hd⟩ := hdata
    exact ⟨⟨n, b, d, e⟩, hn, hb, hd, he⟩
  · rintro ⟨r, hn, hb, -, he⟩
    exact ⟨hid.mpr ⟨_, hn⟩, hsuccess.mpr ⟨_, hb⟩, hoptional.mpr ⟨_, he⟩⟩

/-! ## 3. Texts that are objects -/

theorem parse_object {text : String} {sources : List (List Piece × Source)} {document : Json}
    (hsource : Source.parse text = some (.object sources)) (hparse : Json.parse text = some document) :
    ∃ ms, document = .object ms ∧ ∀ key, Means (Source.member? sources key) (ms.lookup key) := by
  rw [Json.parse, hsource, Option.bind_eq_bind, Option.bind_some, maxDepth, Source.resolve,
    Option.map_eq_some_iff] at hparse
  obtain ⟨members, hmembers, rfl⟩ := hparse
  refine ⟨Json.arranged members, Json.ofMembers_eq members, ?_⟩
  intro key
  rw [Json.lookup_arranged]
  exact Source.means_resolveMembers hmembers key

/-- Whether a member is a string of this text. -/
def Names (m : Option Source) (t : String) : Prop :=
  ∃ pieces, m = some (.string pieces) ∧ Source.text? pieces = some t

theorem names_iff {m : Option Source} {j : Option Json} (h : Means m j) (t : String) :
    Names m t ↔ j = some (.string t) := by
  cases h with
  | absent => simp [Names]
  | given hx =>
    cases hx with
    | string htext => simp [Names, htext]
    | _ => simp [Names]

/-- **An object is read by its type**, and its type is no member of the payload. -/
theorem read?_object {text type : String} (hparse : Json.parse text = some (.object ms))
    (htype : ms.lookup "type" = some (.string type)) :
    read? text = (ofPayload type (.object (ms.filter fun m => m.1 != "type"))).toOption := by
  rw [read?, hparse, Option.bind_some, ofJson, Json.member?, htype]
  rfl

theorem read?_object_untyped {text : String} (hparse : Json.parse text = some (.object ms))
    (htype : ∀ t, ms.lookup "type" ≠ some (.string t)) : read? text = none := by
  rw [read?, hparse, Option.bind_some, ofJson, Json.member?]
  cases hlookup : ms.lookup "type" with
  | none => rfl
  | some x =>
    cases x with
    | string t => exact absurd hlookup (htype t)
    | _ => rfl

/-- A frame of one kind is read exactly if its payload is. -/
theorem toOption_map {α : Type} (x : Decoded α) (f : α → Frame) :
    ((∃ a, (x.map f).toOption = some (f a)) ↔ ∃ a, x = .ok a) ∧
    ((x.map f).toOption = none ↔ ¬ ∃ a, x = .ok a) := by
  cases x with
  | error e => simp [Except.map, Except.toOption]
  | ok a =>
    refine ⟨⟨fun _ => ⟨a, rfl⟩, fun _ => ⟨a, rfl⟩⟩, ?_⟩
    simp [Except.map, Except.toOption]

theorem ofPayload_other {type : String} (hother : type ∉ ["log_update", "stats_update", "response"])
    (payload : List (String × Json)) : ofPayload type (.object payload) = .ok .other := by
  simp only [List.mem_cons, List.not_mem_nil, or_false, not_or] at hother
  obtain ⟨hlog, hstats, hresponse⟩ := hother
  rw [ofPayload]
  · exact hlog
  · exact hstats
  · exact hresponse
  · intro x xs heq
    exact absurd heq (by simp)

variable {σ : Type} [Sink σ]

/-- An object of another type is ignored under the name of its type. -/
theorem route_object_other {text type : String} (hparse : Json.parse text = some (.object ms))
    (htype : ms.lookup "type" = some (.string type))
    (hother : type ∉ ["log_update", "stats_update", "response"]) (c : Correlator) (s : σ) :
    route text c s = (.ignored (some type), c, s) := by
  have hframe : ofJson (.object ms) = .ok .other := by
    rw [ofJson, Json.member?, htype]
    exact ofPayload_other hother _
  have hname : typeOf (.object ms) = some type := by
    rw [typeOf, Json.get?, htype]
    rfl
  rw [route, hparse]
  dsimp only
  rw [hframe, hname]
  rfl

/-- **Routing accepts exactly the grammar of frames.** Of a text that is an object, in which the last member
    of a key counts and other members do not matter:

    * without a string as its type it is malformed;
    * a record is taken in exactly if it has the form of a record, and is malformed otherwise;
    * a snapshot is taken in exactly if it has the form of a snapshot, and is malformed otherwise;
    * a response comes to a request or to nobody exactly if it has the form of a response, and is malformed
      otherwise;
    * and whatever names another type is ignored under that name.

    A text that is no document, or whose value is neither an object nor an array, is malformed too. And
    whatever is malformed leaves the table of requests and the sink as they were. -/
theorem route_accepts_the_grammar (text : String) (c : Correlator) (s : σ) :
    let answer := (route text c s).1
    (∀ sources document, Source.parse text = some (.object sources) → Json.parse text = some document →
      let field := Source.member? sources
      (¬ IsText (field "type") → answer = .malformed) ∧
      (Names (field "type") "log_update" →
        (answer = .log ↔ LogForm field) ∧ (answer = .malformed ↔ ¬ LogForm field)) ∧
      (Names (field "type") "stats_update" →
        (answer = .stats ↔ StatsForm field) ∧ (answer = .malformed ↔ ¬ StatsForm field)) ∧
      (Names (field "type") "response" →
        ((∃ id, answer = .resolved id ∨ answer = .unmatched id) ↔ ResponseForm field) ∧
        (answer = .malformed ↔ ¬ ResponseForm field)) ∧
      (∀ t, Names (field "type") t → t ∉ ["log_update", "stats_update", "response"] →
        answer = .ignored (some t))) ∧
    (Json.parse text = none → answer = .malformed) ∧
    (∀ document, Json.parse text = some document → (∀ ms, document ≠ .object ms) →
      (∀ xs, document ≠ .array xs) → answer = .malformed) ∧
    (answer = .malformed → route text c s = (.malformed, c, s)) := by
  intro answer
  have hlands : Lands text c s answer (route text c s).2.1 (route text c s).2.2 := lands_route text c s
  refine ⟨?_, ?_, ?_, ?_⟩
  · intro sources document hsource hparse field
    obtain ⟨ms, rfl, hmeans⟩ := parse_object hsource hparse
    have htype := hmeans "type"
    have hpayload : ∀ key ≠ "type",
        Means (field key) ((ms.filter fun m => m.1 != "type").lookup key) := by
      intro key hkey
      rw [Json.lookup_filter_of_pos (p := (· != "type")) (bne_iff_ne.mpr hkey)]
      exact hmeans key
    refine ⟨?_, ?_, ?_, ?_, ?_⟩
    · intro huntyped
      rw [hlands.malformed_iff]
      refine read?_object_untyped hparse ?_
      intro t ht
      obtain ⟨pieces, hpieces, -⟩ := (names_iff htype t).mpr ht
      exact huntyped ⟨pieces, hpieces⟩
    · intro hname
      have hread := read?_object hparse ((names_iff htype _).mp hname)
      rw [hlands.log_iff, hlands.malformed_iff, hread, logForm_iff hpayload]
      exact toOption_map (Record.ofJson _) .log
    · intro hname
      have hread := read?_object hparse ((names_iff htype _).mp hname)
      rw [hlands.stats_iff, hlands.malformed_iff, hread, statsForm_iff hpayload]
      exact toOption_map (Stats.ofJson _) .stats
    · intro hname
      have hread := read?_object hparse ((names_iff htype _).mp hname)
      rw [hlands.response_iff, hlands.malformed_iff, hread, responseForm_iff hpayload]
      exact toOption_map (Response.ofJson _) .response
    · intro t hname hother
      exact congrArg Prod.fst (route_object_other hparse ((names_iff htype t).mp hname) hother c s)
  · intro hparse
    rw [hlands.malformed_iff, read?, hparse, Option.bind_none]
  · intro document hparse hobject harray
    rw [hlands.malformed_iff, read?, hparse, Option.bind_some]
    cases document with
    | object ms => exact absurd rfl (hobject ms)
    | array xs => exact absurd rfl (harray xs)
    | _ => rfl
  · intro hanswer
    obtain ⟨hc, hs⟩ := hlands.unchanged_of_malformed hanswer
    exact Prod.ext hanswer (Prod.ext hc hs)

/-- A record with a time stamp that is null. -/
def nullStamp : String :=
  "\x7b\"type\":\"log_update\",\"level\":\"INFO\",\"message\":\"m\",\"timestamp\":null\x7d"

/-- A snapshot with a count that is null, and with one that is given twice and is below zero at first. -/
def nullCount : String :=
  "\x7b\"type\":\"stats_update\",\"totalLogs\":null,\"infoCount\":-1,\"infoCount\":7\x7d"

/-- A string without escapes. -/
def plainKey (s : String) : List Piece := s.toList.map .char

/-- A literal of digits alone but for its sign. -/
def digitsAlone (s : String) (minus : Bool) : Source :=
  .number { minus, whole := s.toList, fraction := none, exponent := none }

/-- A count may be null and a time stamp may not, and of two counts the last one is looked at. -/
theorem null_counts_and_stamps :
    (route nullStamp {} (LogView.new 5)).1 = .malformed ∧
    (route nullCount {} (LogView.new 5)).1 = .stats := by
  constructor
  · have hsource : Source.parse nullStamp = some (.object [
        (plainKey "type", .string (plainKey "log_update")),
        (plainKey "level", .string (plainKey "INFO")), (plainKey "message", .string (plainKey "m")),
        (plainKey "timestamp", .null)]) := by cbv
    have hparse : Json.parse nullStamp = some (.object [("level", .string "INFO"), ("message", .string "m"),
        ("timestamp", .null), ("type", .string "log_update")]) := by cbv
    have hrecord := ((route_accepts_the_grammar nullStamp {} (LogView.new 5)).1 _ _ hsource hparse).2.1
      ⟨plainKey "log_update", by cbv, by cbv⟩
    refine hrecord.2.mpr fun hform => ?_
    rcases hform.timestamp with hnone | ⟨pieces, htext⟩
    · exact absurd hnone (by cbv; simp)
    · exact absurd htext (by cbv; simp)
  · have hsource : Source.parse nullCount = some (.object [
        (plainKey "type", .string (plainKey "stats_update")), (plainKey "totalLogs", .null),
        (plainKey "infoCount", digitsAlone "1" true), (plainKey "infoCount", digitsAlone "7" false)]) := by cbv
    have hparse : Json.parse nullCount = some (.object [("infoCount", Json.natural 7), ("totalLogs", .null),
        ("type", .string "stats_update")]) := by cbv
    have hstats := ((route_accepts_the_grammar nullCount {} (LogView.new 5)).1 _ _ hsource hparse).2.2.1
      ⟨plainKey "stats_update", by cbv, by cbv⟩
    refine hstats.1.mpr ?_
    intro key hkey
    simp only [List.mem_cons, List.not_mem_nil, or_false] at hkey
    rcases hkey with rfl | rfl | rfl | rfl | rfl | rfl
    · exact .inr (.inl (by cbv))
    · exact .inl (by cbv)
    · exact .inl (by cbv)
    · exact .inr (.inr ⟨⟨false, ['7'], none, none⟩, by cbv, rfl, rfl, rfl, by decide⟩)
    · exact .inl (by cbv)
    · exact .inl (by cbv)

end Frame
end LiveLog
