import LiveLog.Proofs.Json.Texts
import LiveLog.Proofs.Router.Grammar
import LiveLog.Proofs.Service.Transports
import Mathlib

/-!
# Records and snapshots that are written and read back

A record is written with a member more than it is read from, its category, and a snapshot with members less,
those of the counts that are absent. So neither reading is the writing turned round, and it has to be shown
that the differences cancel. The category that is written is passed over and found again from the message; a
count that is not written is read as absent and not as zero.

A push frame is the same members with a type beside them, read by another reader, which takes the type away and
hands on the rest. Since readers ask for members by their keys, one fact serves both: what the members hold
under each key they are asked for (`Record.ofJson_of_lookup`, `Stats.ofJson_of_lookup`).

A record keeps the category that was found when it was made, and it carries the proof that this is the category
of its message. What is to be shown is that a document cannot say otherwise: two documents that differ only in
the category that they name are read alike (`Frame.ofJson_congr`).
-/

namespace LiveLog

open Json (Writes ReadsBack)

/-! ## 1. Records -/

namespace Record

theorem scalar_members (r : Record) : ∀ m ∈ r.members, m.2.Scalar := by
  simp only [members, List.forall_mem_cons]
  exact ⟨.string _, .string _, .string _, .string _, by simp⟩

theorem distinct_members (r : Record) : Json.Distinct r.members := by
  simp [Json.Distinct, members]

theorem ofJson_of_lookup {r : Record} {ms : List (String × Json)}
    (h : ∀ k ∈ ["timestamp", "level", "message"], ms.lookup k = r.members.lookup k) :
    ofJson (.object ms) = .ok r := by
  simp only [List.forall_mem_cons] at h
  obtain ⟨htime, hlevel, hmessage, -⟩ := h
  rw [ofJson_object_eq_ok_iff, htime, hlevel, hmessage]
  exact ⟨⟨_, rfl, rfl⟩, ⟨_, rfl, rfl⟩, some r.timestamp, ⟨_, rfl, rfl⟩, rfl⟩

/-- **A record is read back.** -/
theorem readsBack (r : Record) : ReadsBack shape ofJson r.members r := by
  apply Json.readsBack agrees r.scalar_members r.distinct_members
  apply ofJson_of_lookup
  intro k _
  exact r.distinct_members.lookup_arranged k

theorem get?_category_toJson (r : Record) :
    r.toJson.get? "category" = some (.string (Category.ofMessage r.message).name) := by
  rw [← r.category_eq]
  exact r.distinct_members.lookup_arranged "category"

end Record

/-! ## 2. Snapshots -/

namespace Stats

/-- **A snapshot of counts that fit a word**, as all are that a server keeps. -/
def Fits (s : Stats) : Prop := ∀ m ∈ s.members, ∀ n ∈ m.2, n ≤ maxWord

theorem mem_present {s : Stats} {k : String} {v : Json} :
    (k, v) ∈ s.present ↔ ∃ n, (k, some n) ∈ s.members ∧ v = Json.natural n := by
  unfold present
  rw [List.mem_filterMap]
  constructor
  · rintro ⟨⟨l, o⟩, hm, h⟩
    obtain ⟨n, rfl, heq⟩ := Option.map_eq_some_iff.mp h
    obtain ⟨rfl, rfl⟩ := Prod.mk.inj heq
    exact ⟨n, hm, rfl⟩
  · rintro ⟨n, hm, rfl⟩
    exact ⟨(k, some n), hm, rfl⟩

theorem scalar_present {s : Stats} (h : s.Fits) : ∀ m ∈ s.present, m.2.Scalar := by
  rintro ⟨k, v⟩ hm
  obtain ⟨n, hn, rfl⟩ := mem_present.mp hm
  exact .natural (h _ hn n rfl)

theorem nodup_keys (s : Stats) : (s.members.map Prod.fst).Nodup := by
  simp [members]

theorem keys_present (s : Stats) : (s.present.map Prod.fst).Sublist (s.members.map Prod.fst) := by
  unfold present
  induction s.members with
  | nil => simp
  | cons m rest ih =>
    obtain ⟨k, _ | n⟩ := m
    · simpa using ih.cons k
    · simpa using ih

theorem distinct_present (s : Stats) : Json.Distinct s.present := s.nodup_keys.sublist s.keys_present

/-- A count is written if it is there, and otherwise its key is not. -/
theorem lookup_present {s : Stats} {m : String × Option Nat} (hm : m ∈ s.members) :
    s.present.lookup m.1 = m.2.map Json.natural := by
  apply Option.ext
  intro v
  rw [s.distinct_present.lookup_eq_some_iff, mem_present, Option.map_eq_some_iff]
  constructor
  · rintro ⟨n, hn, rfl⟩
    have hsame : (m.1, some n) = m := List.inj_on_of_nodup_map s.nodup_keys hn hm rfl
    exact ⟨n, (congrArg Prod.snd hsame).symm, rfl⟩
  · rintro ⟨n, hn, rfl⟩
    exact ⟨n, hn ▸ hm, rfl⟩

theorem ofJson_of_lookup {s : Stats} (hfits : s.Fits) {ms : List (String × Json)}
    (h : ∀ m ∈ s.members, ms.lookup m.1 = s.present.lookup m.1) : ofJson (.object ms) = .ok s := by
  rw [ofJson_object_eq_ok_iff]
  rintro ⟨k, o⟩ hm
  have hlookup : ms.lookup k = o.map Json.natural := (h _ hm).trans (lookup_present hm)
  cases o with
  | none => exact .inl hlookup
  | some n =>
    refine ⟨Json.natural n, hlookup, ?_, Json.asWord64_eq_ok_iff.mpr ⟨rfl, hfits _ hm n rfl⟩⟩
    simp [Json.natural]

/-- **A snapshot is read back**, with the counts that are absent. -/
theorem readsBack {s : Stats} (hfits : s.Fits) : ReadsBack shape ofJson s.present s := by
  apply Json.readsBack agrees (scalar_present hfits) s.distinct_present
  apply ofJson_of_lookup hfits
  intro m _
  exact s.distinct_present.lookup_arranged m.1

end Stats

/-! ## 3. Push frames -/

namespace Frame

/-- The members of a payload with a type beside them. -/
def typed (type : String) (members : List (String × Json)) : List (String × Json) :=
  ("type", .string type) :: members

theorem distinct_typed {members : List (String × Json)} (h : Json.Distinct members)
    (htype : "type" ∉ members.map Prod.fst) (type : String) : Json.Distinct (typed type members) :=
  List.nodup_cons.mpr ⟨htype, h⟩

/-- **Beside its type a payload holds what it held before.** -/
theorem ofJson_typed {type : String} {members : List (String × Json)}
    (hdistinct : Json.Distinct (typed type members)) :
    ∃ payload : List (String × Json), (∀ k ≠ "type", payload.lookup k = members.lookup k) ∧
      ofJson (Json.ofMembers (typed type members)) = ofPayload type (.object payload) := by
  refine ⟨(Json.arranged (typed type members)).filter fun m => m.1 != "type", ?_, ?_⟩
  · intro k hk
    rw [Json.lookup_filter_of_pos (p := (· != "type")) (bne_iff_ne.mpr hk), hdistinct.lookup_arranged, typed,
      Json.lookup_cons_ite, if_neg hk]
  · have htype : (Json.arranged (typed type members)).lookup "type" = some (.string type) := by
      rw [hdistinct.lookup_arranged]
      rfl
    rw [Json.ofMembers_eq, ofJson, Json.member?, htype]
    rfl

variable {σ : Type} [Sink σ]

theorem route_of_ofJson {text : String} {document : Json} {frame : Frame}
    (hparse : Json.parse text = some document) (hframe : ofJson document = .ok frame) (c : Correlator) (s : σ) :
    route text c s = dispatch (typeOf document) c s frame := by
  unfold route
  rw [hparse]
  dsimp only
  rw [hframe]

theorem route_log (r : Record) {text : String} (htext : Writes (typed "log_update" r.members) text)
    (c : Correlator) (s : σ) : route text c s = (.log, c, Sink.takeLog s r) := by
  have hdistinct : Json.Distinct (typed "log_update" r.members) :=
    distinct_typed r.distinct_members (by simp [Record.members]) _
  have hscalar : ∀ m ∈ typed "log_update" r.members, m.2.Scalar :=
    List.forall_mem_cons.mpr ⟨.string _, r.scalar_members⟩
  obtain ⟨payload, hpayload, hread⟩ := ofJson_typed hdistinct
  have hrecord : Record.ofJson (.object payload) = .ok r := by
    apply Record.ofJson_of_lookup
    simp only [List.forall_mem_cons]
    exact ⟨hpayload _ (by decide), hpayload _ (by decide), hpayload _ (by decide), by simp⟩
  have hframe : ofJson (Json.ofMembers (typed "log_update" r.members)) = .ok (.log r) := by
    rw [hread, ofPayload, hrecord]
    rfl
  exact route_of_ofJson (Json.parse_writes hscalar hdistinct htext) hframe c s

theorem route_stats {x : Stats} (hfits : x.Fits) {text : String}
    (htext : Writes (typed "stats_update" x.present) text) (c : Correlator) (s : σ) :
    route text c s = (.stats, c, Sink.takeStats s x) := by
  have hkeys : "type" ∉ x.members.map Prod.fst := by simp [Stats.members]
  have hdistinct : Json.Distinct (typed "stats_update" x.present) :=
    distinct_typed x.distinct_present (fun htype => hkeys (x.keys_present.mem htype)) _
  have hscalar : ∀ m ∈ typed "stats_update" x.present, m.2.Scalar :=
    List.forall_mem_cons.mpr ⟨.string _, Stats.scalar_present hfits⟩
  obtain ⟨payload, hpayload, hread⟩ := ofJson_typed hdistinct
  have hsnapshot : Stats.ofJson (.object payload) = .ok x := by
    apply Stats.ofJson_of_lookup hfits
    intro m hm
    apply hpayload
    rintro heq
    exact hkeys (heq ▸ List.mem_map_of_mem hm)
  have hframe : ofJson (Json.ofMembers (typed "stats_update" x.present)) = .ok (.stats x) := by
    rw [hread, ofPayload, hsnapshot]
    rfl
  exact route_of_ofJson (Json.parse_writes hscalar hdistinct htext) hframe c s

end Frame

/-! ## 4. The category in a document -/

/-- **Documents that differ at most in the category that they name.** -/
inductive Json.SameButCategory : Json → Json → Prop
  | refl (x : Json) : SameButCategory x x
  | object {ms ms' : List (String × Json)} (h : ∀ k ≠ "category", ms.lookup k = ms'.lookup k) :
      SameButCategory (.object ms) (.object ms')

theorem Record.ofJson_congr {x x' : Json} (h : x.SameButCategory x') : ofJson x = ofJson x' := by
  cases h with
  | refl => rfl
  | object h =>
    apply readsOnly
    intro k hk
    apply h
    rintro rfl
    exact absurd hk (by decide)

theorem Record.listOfJson_congr {xs xs' : List Json} (h : List.Forall₂ Json.SameButCategory xs xs') :
    listOfJson (.array xs) = listOfJson (.array xs') := by
  show xs.mapM ofJson = xs'.mapM ofJson
  induction h with
  | nil => rfl
  | cons hx _ ih => rw [List.mapM_cons, List.mapM_cons, ofJson_congr hx, ih]

theorem Response.ofJson_congr {ms ms' : List (String × Json)}
    (h : ∀ k ≠ "category", ms.lookup k = ms'.lookup k) :
    ofJson (.object ms) = ofJson (.object ms') := by
  rw [ofJson, ofJson, Json.member?_congr (h "data" (by decide)), Json.member?_congr (h "error" (by decide)),
    Json.member?_congr (h "requestId" (by decide)), Json.member?_congr (h "success" (by decide))]

theorem Frame.ofPayload_congr {ms ms' : List (String × Json)}
    (h : ∀ k ≠ "category", ms.lookup k = ms'.lookup k) (type : String) : ofPayload type (.object ms) = ofPayload type (.object ms') := by
  unfold ofPayload
  split
  · rw [Record.ofJson_congr (.object h)]
  · have hread := Stats.readsOnly ms ms' fun k hk => h k (by rintro rfl; exact absurd hk (by decide))
    rw [hread]
  · rw [Response.ofJson_congr h]
  · rfl

/-- **What a document says of a category is passed over**, whatever the type of the frame. -/
theorem Frame.ofJson_congr {x x' : Json} (h : x.SameButCategory x') : ofJson x = ofJson x' := by
  cases h with
  | refl => rfl
  | @object ms ms' h =>
    have hpayload : ∀ k ≠ "category", (ms.filter fun m => m.1 != "type").lookup k
        = (ms'.filter fun m => m.1 != "type").lookup k := by
      intro k hk
      by_cases htype : k = "type"
      · -- Neither payload has a type left.
        have hnone : ∀ l : List (String × Json), (l.filter fun m => m.1 != "type").lookup k = none := by
          intro l
          rw [List.lookup_eq_none_iff]
          intro m hm
          rw [htype, bne_comm]
          exact (List.mem_filter.mp hm).2
        rw [hnone, hnone]
      · rw [Json.lookup_filter_of_pos (p := (· != "type")) (bne_iff_ne.mpr htype),
          Json.lookup_filter_of_pos (p := (· != "type")) (bne_iff_ne.mpr htype)]
        exact h k hk
    unfold ofJson
    simp only [Json.member?_congr (h "type" (by decide)), fun type => ofPayload_congr hpayload type]

/-- **What is written of pushed data is read back as the data.** For every record, and for every snapshot
    whose counts fit a word, present or absent:

    * its members are read back from the object that they make and from each text of them, by way of its
      value and straight;
    * the same members with the type of a push frame beside them are a text that hands exactly that record or
      snapshot to the sink, and leaves the table of requests alone.

    And no document has a say in the category of a record. A record has the category of its own message,
    and that is the one it is written with; documents that differ only in the category that they name are
    read alike, as a record, as a list of records and as a frame. -/
theorem written_data_is_read_back :
    (∀ r : Record, ReadsBack Record.shape Record.ofJson r.members r) ∧
    (∀ x : Stats, x.Fits → ReadsBack Stats.shape Stats.ofJson x.present x) ∧
    (∀ (r : Record) (text : String), Writes (Frame.typed "log_update" r.members) text →
      ∀ (σ : Type) [Sink σ] (c : Correlator) (s : σ),
        Frame.route text c s = (.log, c, Sink.takeLog s r)) ∧
    (∀ (x : Stats) (text : String), x.Fits → Writes (Frame.typed "stats_update" x.present) text →
      ∀ (σ : Type) [Sink σ] (c : Correlator) (s : σ),
        Frame.route text c s = (.stats, c, Sink.takeStats s x)) ∧
    (∀ r : Record, r.category = Category.ofMessage r.message ∧
      r.toJson.get? "category" = some (.string (Category.ofMessage r.message).name)) ∧
    (∀ x x' : Json, x.SameButCategory x' →
      Record.ofJson x = Record.ofJson x' ∧ Frame.ofJson x = Frame.ofJson x') ∧
    (∀ xs xs' : List Json, List.Forall₂ Json.SameButCategory xs xs' →
      Record.listOfJson (.array xs) = Record.listOfJson (.array xs')) := by
  refine ⟨Record.readsBack, fun _ => Stats.readsBack, ?_, ?_, ?_, ?_, ?_⟩
  · intro r text htext σ _ c s
    exact Frame.route_log r htext c s
  · intro x text hfits htext σ _ c s
    exact Frame.route_stats hfits htext c s
  · intro r
    exact ⟨r.category_eq, r.get?_category_toJson⟩
  · intro x x' h
    exact ⟨Record.ofJson_congr h, Frame.ofJson_congr h⟩
  · intro xs xs' h
    exact Record.listOfJson_congr h

theorem written_data_is_read_back_widest :
    ∃ x : Stats, x = { total := some 18446744073709551615, clients := some 0 } ∧ x.Fits ∧
      Frame.route "\x7b\"type\":\"stats_update\",\"totalLogs\":18446744073709551615,\"clientCount\":0\x7d"
          { nextId := 3 } (LogView.new 10) =
        (.stats, { nextId := 3 }, (LogView.new 10).ingestStats x) := by
  have hfits : Stats.Fits { total := some 18446744073709551615, clients := some 0 } := by
    simp [Stats.Fits, Stats.members, maxWord]
  refine ⟨_, rfl, hfits, ?_⟩
  obtain ⟨-, -, -, hroute, -⟩ := written_data_is_read_back
  refine hroute _ _ hfits ⟨_, List.Perm.refl _, .inl ?_⟩ LogView { nextId := 3 } (LogView.new 10)
  decide +kernel

end LiveLog
