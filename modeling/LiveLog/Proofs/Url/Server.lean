import LiveLog.Proofs.Url.Host
import LiveLog.Proofs.Url.Percent
import Mathlib.Data.List.TakeDrop
import Mathlib.Data.List.TakeWhile

/-!
# What is read from an address

A server that was read can be written into an address again without further escapes (`Server.IsWritten`):
user and password are escaped when they are read, hosts hold no sign that means something elsewhere, and
a port is a number below `2 ^ 16`. The fragment is what follows the first number sign of the whole
address: neither the scheme nor the slashes nor the part about the server can hold one
(`parse_eq_server`).
-/

namespace LiveLog.Url

/-- A server as it stands in an address. -/
structure Server.IsWritten (s : Server) : Prop where
  user : ∀ c ∈ s.userinfo.toList, Parser.endsAuthority true c = false
  host : IsHostText s.host.text.toList
  port : ∀ p ∈ s.port, p ≤ 65535

namespace Parser

/-! ## 1. User, port and server -/

theorem endsAuthority_of_inUserinfo {b : UInt8} (h : inUserinfo b = false) :
    endsAuthority true (Char.ofNat b.toNat) = false := by
  cases hend : endsAuthority true (Char.ofNat b.toNat) with
  | false => rfl
  | true =>
    have hsign : Char.ofNat b.toNat ∈ ['#', '?', '\x7b', '\x7d', '/', ':', ';', '=', '@', '[', '\\', ']',
        '^', '|'] := by
      simp only [endsAuthority, Bool.or_eq_true, Bool.and_eq_true, beq_iff_eq, true_and] at hend
      rcases hend with ((hc | hc) | hc) | hc <;> simp [hc]
    rw [inUserinfo, isOneOf_iff.mpr hsign, Bool.or_true] at h
    exact absurd h (by simp)

theorem endsAuthority_of_mem_userinfo {cs : List Char} {c : Char} (h : c ∈ (userinfo cs).toList) :
    endsAuthority true c = false := by
  have hdigits : ∀ n < 16, endsAuthority true (hexCapital n) = false := by decide
  have hescaped {text : List Char} (h : c ∈ percentEncode inUserinfo text) :
      endsAuthority true c = false := by
    rcases mem_percentEncode h with rfl | ⟨n, hn, rfl⟩ | ⟨b, hb, rfl⟩
    · rfl
    · exact hdigits n hn
    · exact endsAuthority_of_inUserinfo hb
  unfold userinfo at h
  dsimp only at h
  rw [String.toList_ofList] at h
  rcases List.mem_append.mp h with hname | hpassword
  · exact hescaped hname
  · split at hpassword
    · exact absurd hpassword (by simp)
    · rcases List.mem_cons.mp hpassword with rfl | hpassword
      · rfl
      · exact hescaped hpassword

theorem le_of_port_eq {cs : List Char} {p : Nat} (h : port cs = .ok (some p)) : p ≤ 65535 := by
  unfold port at h
  split at h
  · exact absurd h (by simp)
  · split at h
    · exact absurd h (by simp)
    · split at h
      · split at h
        · rename_i n _ hn
          obtain rfl : n = p := by simpa using h
          exact hn
        · exact absurd h (by simp)
      · exact absurd h (by simp)

theorem isWritten_of_server {defaultPort : Nat} {authority : List Char} {s : Server}
    (h : server defaultPort authority = .ok s) : s.IsWritten := by
  unfold server at h
  generalize splitUser authority = parts at h
  obtain ⟨user, hostPort⟩ := parts
  dsimp only at h
  split at h
  · exact absurd h (by simp)
  · cases hhost : Host.parse (splitHost false hostPort).1 with
    | error fault => exact absurd h (by simp [hhost, bind, Except.bind])
    | ok host =>
      cases hport : port (splitHost false hostPort).2 with
      | error fault => exact absurd h (by simp [hhost, hport, bind, Except.bind])
      | ok number =>
        obtain rfl : _ = s := by simpa [hhost, hport, bind, Except.bind, pure, Except.pure] using h
        refine ⟨?_, Host.isHostText_of_parse hhost, ?_⟩
        · cases user with
          | none => simp
          | some cs => exact fun c hc => endsAuthority_of_mem_userinfo hc
        · intro p hp
          obtain ⟨hnumber, -⟩ := Option.filter_eq_some_iff.mp hp
          exact le_of_port_eq (hnumber ▸ hport)

/-! ## 2. The fragment -/

theorem fragment_eq_none_iff {cs : List Char} : fragment cs = none ↔ '#' ∉ cs := by
  have hnil : cs.dropWhile (· != '#') = [] ↔ '#' ∉ cs := by
    rw [List.dropWhile_eq_nil_iff]
    constructor
    · intro h hmem
      exact absurd (h '#' hmem) (by simp)
    · intro h c hc
      exact bne_iff_ne.mpr (ne_of_mem_of_not_mem hc h)
  rw [← hnil, fragment]
  cases cs.dropWhile (· != '#') <;> simp

/-- What stands before the first number sign does not matter. -/
theorem fragment_append {before : List Char} (h : '#' ∉ before) (rest : List Char) :
    fragment (before ++ rest) = fragment rest := by
  have hbefore : ∀ c ∈ before, (c != '#') = true := by
    intro c hc
    exact bne_iff_ne.mpr (ne_of_mem_of_not_mem hc h)
  rw [fragment, fragment, List.dropWhile_append_of_pos hbefore]

theorem mem_dropWhile_iff {p : Char → Bool} {cs : List Char} {c : Char} (hc : p c = false) :
    c ∈ cs.dropWhile p ↔ c ∈ cs := by
  constructor
  · intro h
    exact (List.dropWhile_sublist p).subset h
  · intro h
    rw [← List.takeWhile_append_dropWhile (p := p) (l := cs)] at h
    rcases List.mem_append.mp h with htaken | hleft
    · exact absurd (List.mem_takeWhile_imp htaken) (by simp [hc])
    · exact hleft

/-- Blanks, line ends and tabs are all that does not count. -/
theorem mem_significant_iff {cs : List Char} : '#' ∈ significant cs ↔ '#' ∈ cs := by
  have hedge : decide (('#' : Char).toNat ≤ 0x20) = false := rfl
  rw [significant, List.mem_filter, List.mem_reverse, mem_dropWhile_iff hedge, List.mem_reverse,
    mem_dropWhile_iff hedge]
  simp

/-- The text before what follows the scheme is the scheme and its colon. -/
theorem exists_of_scheme?_eq {cs rest : List Char} {name : String} (h : scheme? cs = some (name, rest)) :
    ∃ before, cs = before ++ rest ∧ '#' ∉ before := by
  unfold scheme? at h
  split at h
  · rename_i c tail
    split at h
    · split at h
      · rename_i name' rest' hspan
        obtain ⟨-, rfl⟩ : _ ∧ rest' = rest := by simpa using h
        rw [List.span_eq_takeWhile_dropWhile] at hspan
        obtain ⟨hname, hrest⟩ := Prod.mk.inj hspan
        refine ⟨name' ++ [':'], ?_, ?_⟩
        · rw [← List.takeWhile_append_dropWhile (p := isSchemeChar) (l := c :: tail), hname, hrest]
          simp
        · intro hmem
          rcases List.mem_append.mp hmem with hmem | hmem
          · rw [← hname] at hmem
            exact absurd (List.mem_takeWhile_imp hmem) (by decide)
          · exact absurd hmem (by simp)
      · exact absurd h (by simp)
    · exact absurd h (by simp)
  · exact absurd h (by simp)

theorem exists_of_serverAndRest_eq {defaultPort : Nat} {cs rest : List Char} {s : Server}
    (h : serverAndRest defaultPort cs = .ok (s, rest)) :
    s.IsWritten ∧ ∃ before, cs = before ++ rest ∧ '#' ∉ before := by
  unfold serverAndRest at h
  dsimp only at h
  generalize hfrom : cs.dropWhile isSlash = fromHost at h
  cases hserver : server defaultPort (fromHost.takeWhile fun c => !endsAuthority true c) with
  | error fault => exact absurd h (by simp [hserver, bind, Except.bind])
  | ok s' =>
    obtain ⟨rfl, rfl⟩ : s' = s ∧ _ = rest := by
      simpa [hserver, bind, Except.bind, pure, Except.pure] using h
    refine ⟨isWritten_of_server hserver,
      cs.takeWhile isSlash ++ fromHost.takeWhile fun c => !endsAuthority true c, ?_, ?_⟩
    · rw [List.append_assoc, List.prefix_iff_eq_append.mp (List.takeWhile_prefix _), ← hfrom,
        List.takeWhile_append_dropWhile]
    · intro hmem
      rcases List.mem_append.mp hmem with hmem | hmem
      · exact absurd (List.mem_takeWhile_imp hmem) (by decide)
      · exact absurd (List.mem_takeWhile_imp hmem) (by decide)

end Parser

/-- **What an address with a server says.** -/
theorem parse_eq_server {text : String} {scheme : Scheme} {s : Server} {fragment : Option String}
    (h : parse text = .ok (.server scheme s fragment)) :
    s.IsWritten ∧ fragment = Parser.fragment (Parser.significant text.toList) := by
  unfold parse at h
  split at h
  · exact absurd h (by simp)
  · rename_i name afterScheme hname
    split at h
    · rename_i scheme' hscheme
      cases hrest : Parser.serverAndRest scheme'.defaultPort afterScheme with
      | error fault => exact absurd h (by simp [hrest, bind, Except.bind])
      | ok found =>
        obtain ⟨s', rest⟩ := found
        obtain ⟨rfl, rfl, rfl⟩ : scheme' = scheme ∧ s' = s ∧ Parser.fragment rest = fragment := by
          simpa [hrest, bind, Except.bind, pure, Except.pure] using h
        obtain ⟨hwritten, slashes, hcut, hslashes⟩ := Parser.exists_of_serverAndRest_eq hrest
        obtain ⟨before, hall, hbefore⟩ := Parser.exists_of_scheme?_eq hname
        rw [hall, hcut, Parser.fragment_append hbefore, Parser.fragment_append hslashes]
        exact ⟨hwritten, rfl⟩
    · cases hother : Parser.checkOther name afterScheme with
      | error fault => exact absurd h (by simp [hother, bind, Except.bind])
      | ok u => exact absurd h (by simp [hother, bind, Except.bind, pure, Except.pure])

end LiveLog.Url
