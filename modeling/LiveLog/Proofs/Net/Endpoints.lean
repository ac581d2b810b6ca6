import LiveLog.Net.Endpoints
import LiveLog.Proofs.Url.Form
import LiveLog.Proofs.Url.Parts

/-!
# What the addresses of a server say

Every address that is derived from a server address is put together by `Endpoints.url`, from a server
that was read and a path and a query of ours. `read?_url` says once and for all what somebody reads who
takes it apart (`Url.Parts`); all that follows is about which path and which query were put in.

The server address had a path, a query and a fragment of its own. Its path is replaced and its query is
dropped, but its fragment goes into every derived address: they are free of one exactly if the server
address has no number sign (`fragment_eq_none_iff`).
-/

namespace LiveLog
namespace Url.Scheme

/-- The scheme for pages and the one for streams that go with a scheme. -/
def pair : Scheme → Scheme × Scheme
  | .http | .ws => (.http, .ws)
  | .https | .wss => (.https, .wss)

theorem defaultPort_pair (scheme : Scheme) :
    scheme.pair.1.defaultPort = scheme.defaultPort ∧ scheme.pair.2.defaultPort = scheme.defaultPort := by
  cases scheme <;> exact ⟨rfl, rfl⟩

end Url.Scheme

namespace Endpoints

open Url

/-- The parts of an address of a server. -/
def parts (e : Endpoints) (scheme : Scheme) (path : String) (query : Option String) : Parts where
  scheme := scheme
  user := e.server.user
  host := e.server.host.text
  port := e.server.port
  path := path
  query := query
  fragment := e.fragment

theorem effectivePort_parts (e : Endpoints) (scheme : Scheme) (path : String) (query : Option String) :
    (e.parts scheme path query).effectivePort = e.server.port.getD scheme.defaultPort := rfl

/-- The query of an address. There is none if nothing is asked for. -/
def query (pairs : List (String × String)) : Option String :=
  if pairs.isEmpty then none else some (Form.encode pairs)

variable {address : String} {e : Endpoints}

/-! ## 1. Derived addresses -/

theorem toList_url (e : Endpoints) (scheme : Scheme) (path : String) (pairs : List (String × String)) :
    (e.url scheme path pairs).toList = scheme.name.toList ++ ':' :: '/' :: '/' ::
      (e.server.authority ++ (path.toList ++ Parts.ending (query pairs) e.fragment)) := by
  have huser : (if e.server.userinfo.isEmpty then "" else e.server.userinfo ++ "@").toList =
      e.server.userText := by
    unfold Server.userText
    split <;> simp
  have hport : ((e.server.port.map fun p => ":" ++ toString p).getD "").toList = e.server.portText := by
    unfold Server.portText
    cases e.server.port <;> simp
  have hquery : (if pairs.isEmpty then "" else "?" ++ Form.encode pairs).toList =
      ((query pairs).map fun q => '?' :: q.toList).getD [] := by
    unfold query
    split <;> simp
  have hfragment : ((e.fragment.map fun f => "#" ++ f).getD "").toList =
      (e.fragment.map fun f => '#' :: f.toList).getD [] := by
    cases e.fragment <;> simp
  simp only [url, String.toList_append, huser, hport, hquery, hfragment, Parts.ending, Server.authority]
  simp

/-- **What an address of a server says.** -/
theorem read?_url (hserver : e.server.IsWritten) (scheme : Scheme) {path : String}
    (hslash : path.toList.head? = some '/') (hpath : ∀ c ∈ path.toList, Parts.inPath c = true)
    (pairs : List (String × String)) :
    Parts.read? (e.url scheme path pairs) = some (e.parts scheme path (query pairs)) := by
  have hquery : ∀ q ∈ query pairs, '#' ∉ q.toList := by
    intro q hq
    unfold query at hq
    split at hq
    · exact absurd hq (by simp)
    · obtain rfl : Form.encode pairs = q := by simpa using hq
      exact Form.not_mem_encode pairs
  rw [← String.ofList_toList (s := e.url scheme path pairs), toList_url,
    Parts.read?_written hserver hslash hpath hquery, String.ofList_toList]
  rfl

/-- **Which server the endpoints are of.** -/
theorem exists_parse_of_ofServer (h : ofServer address = .ok e) :
    ∃ scheme, Url.parse address = .ok (.server scheme e.server e.fragment) ∧
      (e.pageScheme, e.streamScheme) = scheme.pair := by
  unfold ofServer at h
  cases hparse : Url.parse address with
  | error fault => exact absurd h (by simp [hparse])
  | ok found =>
    rw [hparse] at h
    cases found with
    | other name => exact absurd h (by simp [ofAddress, Except.mapError])
    | server scheme s fragment =>
      obtain rfl : _ = e := by simpa [ofAddress, Except.mapError] using h
      refine ⟨scheme, rfl, ?_⟩
      cases scheme <;> rfl

theorem isWritten_of_ofServer (h : ofServer address = .ok e) : e.server.IsWritten := by
  obtain ⟨scheme, hparse, -⟩ := exists_parse_of_ofServer h
  exact (parse_eq_server hparse).1

theorem fragment_eq_none_iff (h : ofServer address = .ok e) :
    e.fragment = none ↔ '#' ∉ address.toList := by
  obtain ⟨scheme, hparse, -⟩ := exists_parse_of_ofServer h
  rw [(parse_eq_server hparse).2, Parser.fragment_eq_none_iff, Parser.mem_significant_iff]

/-! ## 2. Queries of the log -/

/-- What is asked for with a query of the log. -/
def asked (limit offset : Option Nat) (level : Option String) : List (String × String) :=
  (limit.map fun n => ("limit", toString n)).toList ++
    (offset.map fun n => ("offset", toString n)).toList ++ (level.map fun l => ("level", l)).toList

theorem read?_logs (hserver : e.server.IsWritten) (limit offset : Option Nat) (level : Option String) :
    Parts.read? (e.logs limit offset level) =
      some (e.parts e.pageScheme "/api/logs" (query (asked limit offset level))) :=
  read?_url hserver _ (by simp [logsPath]) (by simp [logsPath, Parts.inPath]) _

theorem decode?_query (pairs : List (String × String)) :
    Form.decode? ((query pairs).getD "") = some pairs := by
  unfold query
  split
  · rename_i hempty
    rw [List.isEmpty_iff.mp hempty]
    exact Form.decode?_encode []
  · exact Form.decode?_encode pairs

theorem query_injective {pairs pairs' : List (String × String)} (h : query pairs = query pairs') :
    pairs = pairs' := by
  have hread := decode?_query pairs
  rw [h, decode?_query] at hread
  exact (Option.some.inj hread).symm

theorem query_eq_none_iff {pairs : List (String × String)} : query pairs = none ↔ pairs = [] := by
  unfold query
  split
  · rename_i hempty
    simpa using hempty
  · rename_i hsome
    simpa using hsome

theorem asked_eq_nil_iff {limit offset : Option Nat} {level : Option String} :
    asked limit offset level = [] ↔ limit = none ∧ offset = none ∧ level = none := by
  cases limit <;> cases offset <;> cases level <;> simp [asked]

/-- The value of a name in a query. -/
def valueOf (name : String) (pairs : List (String × String)) : Option String :=
  (pairs.find? (·.1 == name)).map (·.2)

section asked

variable (limit offset : Option Nat) (level : Option String)

theorem valueOf_limit : valueOf "limit" (asked limit offset level) = limit.map toString := by
  cases limit <;> cases offset <;> cases level <;> rfl

theorem valueOf_offset : valueOf "offset" (asked limit offset level) = offset.map toString := by
  cases limit <;> cases offset <;> cases level <;> rfl

theorem valueOf_level : valueOf "level" (asked limit offset level) = level := by
  cases limit <;> cases offset <;> cases level <;> rfl

end asked

theorem toString_injective {n n' : Nat} (h : toString n = toString n') : n = n' := by
  have hread := Ipv4.valueOf?_toString n
  rw [h, Ipv4.valueOf?_toString] at hread
  exact (Option.some.inj hread).symm

/-- Nothing of what is asked for gets lost in a query. -/
theorem asked_injective {limit offset limit' offset' : Option Nat} {level level' : Option String}
    (h : asked limit offset level = asked limit' offset' level') :
    limit = limit' ∧ offset = offset' ∧ level = level' := by
  have hnumber : Function.Injective (Option.map (toString (α := Nat))) :=
    Option.map_injective fun _ _ => toString_injective
  refine ⟨hnumber ?_, hnumber ?_, ?_⟩
  · rw [← valueOf_limit limit offset level, h, valueOf_limit]
  · rw [← valueOf_offset limit offset level, h, valueOf_offset]
  · rw [← valueOf_level limit offset level, h, valueOf_level]

/-! ## 3. All addresses of a server -/

/-- **What the addresses of a server say.** All of them name its user, host and port, pages and streams with
    the schemes that go together, each its own path and no query but its own; and all of them have the
    fragment of the server address, so that they have none exactly if it holds no number sign. Where
    the scheme is another one there are no addresses. -/
theorem addresses_of_server (address : String) :
    (∀ e, ofServer address = .ok e →
      (∃ scheme, Url.parse address = .ok (.server scheme e.server e.fragment) ∧
        (e.pageScheme, e.streamScheme) = scheme.pair ∧
        (e.parts e.pageScheme "/" none).effectivePort = e.server.port.getD scheme.defaultPort ∧
        (e.parts e.streamScheme "/ws" none).effectivePort = e.server.port.getD scheme.defaultPort) ∧
      Parts.read? e.page = some (e.parts e.pageScheme "/" none) ∧
      Parts.read? e.stream = some (e.parts e.streamScheme "/ws" none) ∧
      Parts.read? e.stats = some (e.parts e.pageScheme "/api/stats" none) ∧
      (∀ limit offset level,
        Parts.read? (e.logs limit offset level) =
          some (e.parts e.pageScheme "/api/logs" (query (asked limit offset level))) ∧
        Form.decode? ((query (asked limit offset level)).getD "") = some (asked limit offset level)) ∧
      (∀ format, ∃ query,
        Parts.read? (e.download format) = some (e.parts e.pageScheme "/api/download-log" (some query)) ∧
        Form.decode? query = some [("type", format.name)]) ∧
      (e.fragment = none ↔ '#' ∉ address.toList)) ∧
    (∀ name rest, Parser.scheme? (Parser.significant address.toList) = some (name, rest) →
      (∀ scheme : Scheme, scheme.name ≠ name) →
      ∃ reason, ofServer address = .error (.invalidUrl address reason)) := by
  constructor
  · intro e h
    have hserver := isWritten_of_ofServer h
    refine ⟨?_, ?_, ?_, ?_, ?_, ?_, fragment_eq_none_iff h⟩
    · obtain ⟨scheme, hparse, hpair⟩ := exists_parse_of_ofServer h
      have hpage : e.pageScheme = scheme.pair.1 := congrArg Prod.fst hpair
      have hstream : e.streamScheme = scheme.pair.2 := congrArg Prod.snd hpair
      refine ⟨scheme, hparse, hpair, ?_, ?_⟩
      · rw [effectivePort_parts, hpage, scheme.defaultPort_pair.1]
      · rw [effectivePort_parts, hstream, scheme.defaultPort_pair.2]
    · exact read?_url hserver _ (by simp) (by simp [Parts.inPath]) []
    · exact read?_url hserver _ (by simp) (by simp [Parts.inPath]) []
    · exact read?_url hserver _ (by simp [statsPath]) (by simp [statsPath, Parts.inPath]) []
    · intro limit offset level
      exact ⟨read?_logs hserver limit offset level, decode?_query _⟩
    · intro format
      exact ⟨_, read?_url hserver _ (by simp [downloadPath]) (by simp [downloadPath, Parts.inPath])
        [("type", format.name)], Form.decode?_encode _⟩
  · intro name rest hname hother
    have hfind : Scheme.all.find? (·.name == name) = none := by
      rw [List.find?_eq_none]
      intro scheme _
      simpa using hother scheme
    rw [ofServer, Url.parse, hname]
    simp only [hfind]
    cases Parser.checkOther name rest with
    | error fault => exact ⟨_, rfl⟩
    | ok u => exact ⟨_, rfl⟩

theorem addresses_of_secure_server :
    ofServer "wss://u:p@h:8443/old?x=1" =
      .ok { secure := true, server := { userinfo := "u:p", host := .name "h", port := some 8443 },
            fragment := none } ∧
    Parts.read? "wss://u:p@h:8443/ws" =
      some { scheme := .wss, user := some "u:p", host := "h", port := some 8443, path := "/ws",
             query := none, fragment := none } := by
  have haccepted : ofServer "wss://u:p@h:8443/old?x=1" =
      .ok { secure := true, server := { userinfo := "u:p", host := .name "h", port := some 8443 },
            fragment := none } := by
    decide +kernel
  obtain ⟨-, -, hstream, -⟩ := (addresses_of_server _).1 _ haccepted
  exact ⟨haccepted, hstream⟩

/-- The fragment of a server address is in the addresses that are derived from it. -/
theorem fragment_kept :
    ∃ e, ofServer "http://h/old?x=1#frag" = .ok e ∧
      (Parts.read? e.page).bind Parts.fragment = some "frag" ∧
      (Parts.read? e.stream).bind Parts.fragment = some "frag" := by
  exact ⟨{ secure := false, server := { host := .name "h" }, fragment := some "frag" }, by decide +kernel⟩

/-- **Queries of the log are read back.** A server that reads the query of such an address as a form finds
    what is asked for, in order and as it was given, and nothing else; there is a query exactly if
    something is asked for, and different things asked for make different addresses. -/
theorem logs_query_read_back {address : String} {e : Endpoints} (h : ofServer address = .ok e)
    (limit offset : Option Nat) (level : Option String) :
    (∃ parts, Parts.read? (e.logs limit offset level) = some parts ∧ parts.path = "/api/logs" ∧
      (parts.query = none ↔ limit = none ∧ offset = none ∧ level = none) ∧
      Form.decode? (parts.query.getD "") = some
        ((limit.map fun n => ("limit", toString n)).toList ++
          (offset.map fun n => ("offset", toString n)).toList ++
          (level.map fun l => ("level", l)).toList)) ∧
    ∀ limit' offset' level', e.logs limit offset level = e.logs limit' offset' level' →
      limit = limit' ∧ offset = offset' ∧ level = level' := by
  have hserver := isWritten_of_ofServer h
  have hread := read?_logs hserver limit offset level
  constructor
  · refine ⟨_, hread, rfl, ?_, decode?_query _⟩
    exact query_eq_none_iff.trans asked_eq_nil_iff
  · intro limit' offset' level' hsame
    rw [hsame, read?_logs hserver] at hread
    have hquery : query (asked limit' offset' level') = query (asked limit offset level) :=
      congrArg Parts.query (Option.some.inj hread)
    exact asked_injective (query_injective hquery).symm

theorem logs_query_read_back_delimiters :
    ∃ e, ofServer "http://h" = .ok e ∧ ∃ parts,
      Parts.read? (e.logs none (some 0) (some "a&b=c +%#é")) = some parts ∧
      Form.decode? (parts.query.getD "") = some [("offset", "0"), ("level", "a&b=c +%#é")] := by
  have haccepted : ofServer "http://h" =
      .ok { secure := false, server := { host := .name "h" }, fragment := none } := by
    decide +kernel
  obtain ⟨⟨parts, hread, -, -, hquery⟩, -⟩ :=
    logs_query_read_back haccepted none (some 0) (some "a&b=c +%#é")
  exact ⟨_, haccepted, parts, hread, hquery⟩

end Endpoints
end LiveLog
