import LiveLog.Proofs.Url.Server

/-!
# The parts of an address

What an address says is what somebody reads who takes it apart at its signs (`Parts.read?`): the scheme
up to the first colon, after two slashes the part about the server up to the next slash, question mark or
number sign, in it the user up to the last `@` and the host up to a colon outside brackets, then the path,
the query and the fragment. That reader knows nothing of how the address came about, and nothing is
escaped or left out on its way, so an address that was put together carelessly (a host with a slash in it,
a query with a number sign) would be read as something else.

`read?_written` says when it was put together with care, and for a server that was read it is: every part
that was put in is read again.
-/

namespace LiveLog.Url

/-- **The parts of an address**, each as it is written. -/
structure Parts where
  scheme : Scheme
  user : Option String
  host : String
  port : Option Nat
  path : String
  query : Option String
  fragment : Option String
deriving DecidableEq, Repr

namespace Parts

/-- The port that is asked: the one of the scheme, unless another is named. -/
def effectivePort (p : Parts) : Nat := p.port.getD p.scheme.defaultPort

/-- Whether a character belongs to the part about the server, once that part has begun. -/
def inServer (c : Char) : Bool := !Parser.endsAuthority true c

/-- Whether a character belongs to the path, once the path has begun. -/
def inPath (c : Char) : Bool := c != '?' && c != '#'

/-- The query of what follows a path. -/
def query? : List Char → Option String
  | '?' :: rest => some (String.ofList (rest.takeWhile (· != '#')))
  | _ => none

/-- The fragment of what follows a path. -/
def fragment? (cs : List Char) : Option String :=
  match cs.dropWhile (· != '#') with
  | _ :: rest => some (String.ofList rest)
  | [] => none

/-- **Takes an address apart**, if it is one of a server. -/
def read? (address : String) : Option Parts := do
  let (name, afterScheme) ← Parser.scheme? address.toList
  let scheme ← Scheme.all.find? (·.name == name)
  match afterScheme with
  | '/' :: '/' :: rest =>
    let afterServer := rest.dropWhile inServer
    let afterPath := afterServer.dropWhile inPath
    let (user, hostPort) := Parser.splitUser (rest.takeWhile inServer)
    let (host, portText) := Parser.splitHost false hostPort
    let port ← (Parser.port portText).toOption
    some {
      scheme, port
      user := user.map String.ofList
      host := String.ofList host
      path := String.ofList (afterServer.takeWhile inPath)
      query := query? afterPath
      fragment := fragment? afterPath }
  | _ => none

end Parts

/-! ## 1. Numbers of ports -/

namespace Ipv4

theorem valueOf?_append (base : Nat) (cs : List Char) (c : Char) :
    valueOf? base (cs ++ [c]) = (valueOf? base cs).bind fun n =>
      (hexValue? c).bind fun d => if d < base then some (n * base + d) else none := by
  rw [valueOf?, List.foldl_append]
  rfl

theorem valueOf?_toString (n : Nat) : valueOf? 10 (toString n).toList = some n := by
  have hdigit : ∀ d < 10, hexValue? (Nat.digitChar d) = some d := by decide
  rw [Nat.toString_eq_ofList_toDigits, String.toList_ofList]
  induction n using Nat.strongRecOn with
  | ind n ih =>
    rw [Nat.toDigits_eq_if (by decide)]
    split
    case isTrue hn => simp [valueOf?, hdigit n hn, hn]
    case isFalse hn =>
      have hlt : n % 10 < 10 := Nat.mod_lt n (by decide)
      rw [valueOf?_append, ih (n / 10) (by omega), Option.bind_some, hdigit _ hlt, Option.bind_some,
        if_pos hlt, Nat.div_add_mod']

end Ipv4

namespace Parser

theorem port_written {p : Nat} (hp : p ≤ 65535) : port (':' :: (toString p).toList) = .ok (some p) := by
  have hne : (toString p).toList.isEmpty = false := by
    rw [Nat.toString_eq_ofList_toDigits, String.toList_ofList, List.isEmpty_eq_false_iff]
    exact Nat.toDigits_ne_nil
  simp only [port, hne, Ipv4.valueOf?_toString, if_pos hp]
  rfl

/-! ## 2. The part about the server -/

theorem splitUser_of_user (user : List Char) {after : List Char} (h : '@' ∉ after) :
    splitUser (user ++ '@' :: after) = (some user, after) := by
  have hspan : (user ++ '@' :: after).reverse.span (· != '@') = (after.reverse, '@' :: user.reverse) := by
    have hafter : ∀ c ∈ after.reverse, (c != '@') = true := by
      intro c hc
      exact bne_iff_ne.mpr (ne_of_mem_of_not_mem (List.mem_reverse.mp hc) h)
    rw [List.span_eq_takeWhile_dropWhile, List.reverse_append, List.reverse_cons, List.append_assoc,
      List.takeWhile_append_of_pos hafter, List.dropWhile_append_of_pos hafter]
    simp
  rw [splitUser, hspan]
  simp

theorem splitUser_of_not_mem {cs : List Char} (h : '@' ∉ cs) : splitUser cs = (none, cs) := by
  have hspan : cs.reverse.span (· != '@') = (cs.reverse, []) := by
    have hcs : ∀ c ∈ cs.reverse, (c != '@') = true := by
      intro c hc
      exact bne_iff_ne.mpr (ne_of_mem_of_not_mem (List.mem_reverse.mp hc) h)
    rw [List.span_eq_takeWhile_dropWhile, List.takeWhile_eq_self_iff.mpr hcs,
      List.dropWhile_eq_nil_iff.mpr hcs]
  rw [splitUser, hspan]

end Parser

namespace Server

/-- What is written of a port. -/
def portText (s : Server) : List Char := (s.port.map fun p => ':' :: (toString p).toList).getD []

/-- What is written of a user. -/
def userText (s : Server) : List Char :=
  if s.userinfo.isEmpty then [] else s.userinfo.toList ++ ['@']

/-- The part of an address about the server. -/
def authority (s : Server) : List Char := s.userText ++ (s.host.text.toList ++ s.portText)

/-- The user as a part of an address. -/
def user (s : Server) : Option String := if s.userinfo.isEmpty then none else some s.userinfo

variable {s : Server}

theorem mem_portText {c : Char} (h : c ∈ s.portText) : c = ':' ∨ ∃ d < 10, c = Nat.digitChar d := by
  unfold portText at h
  cases hport : s.port with
  | none => exact absurd h (by simp [hport])
  | some p =>
    rw [hport, Option.map_some, Option.getD_some] at h
    rcases List.mem_cons.mp h with hc | hc
    · exact .inl hc
    · rw [Nat.toString_eq_ofList_toDigits, String.toList_ofList] at hc
      exact .inr (digit_of_mem_toDigits (by decide) hc)

theorem plain_of_mem_portText {c : Char} (h : c ∈ s.portText) :
    Parser.endsAuthority true c = false ∧ c ≠ '@' := by
  have hdigits : ∀ d < 10, Parser.endsAuthority true (Nat.digitChar d) = false ∧
      Nat.digitChar d ≠ '@' := by decide
  rcases mem_portText h with rfl | ⟨d, hd, rfl⟩
  · decide
  · exact hdigits d hd

theorem IsWritten.port_portText (hs : s.IsWritten) : Parser.port s.portText = .ok s.port := by
  unfold portText
  cases hport : s.port with
  | none => rfl
  | some p => exact Parser.port_written (hs.port p hport)

/-- The part about the server goes on to its end. -/
theorem IsWritten.inside (hs : s.IsWritten) {c : Char} (hc : c ∈ s.authority) :
    Parser.endsAuthority true c = false := by
  rcases List.mem_append.mp hc with huser | hhostPort
  · unfold userText at huser
    split at huser
    · exact absurd huser (by simp)
    · rcases List.mem_append.mp huser with huser | hat
      · exact hs.user c huser
      · rw [List.mem_singleton.mp hat]
        rfl
  · rcases List.mem_append.mp hhostPort with hhost | hport
    · exact hs.host.inside c hhost
    · exact (plain_of_mem_portText hport).1

/-- Host and port are found behind the user. -/
theorem IsWritten.splitUser_authority (hs : s.IsWritten) :
    (Parser.splitUser s.authority).1.map String.ofList = s.user ∧
      (Parser.splitUser s.authority).2 = s.host.text.toList ++ s.portText := by
  have hat : '@' ∉ s.host.text.toList ++ s.portText := by
    intro hmem
    rcases List.mem_append.mp hmem with hhost | hport
    · exact hs.host.no_user hhost
    · exact (plain_of_mem_portText hport).2 rfl
  unfold authority userText Server.user
  split
  · rw [List.nil_append, Parser.splitUser_of_not_mem hat]
    exact ⟨rfl, rfl⟩
  · rw [List.append_assoc, List.singleton_append, Parser.splitUser_of_user _ hat]
    exact ⟨by simp, rfl⟩

theorem IsWritten.splitHost_hostPort (hs : s.IsWritten) :
    Parser.splitHost false (s.host.text.toList ++ s.portText) = (s.host.text.toList, s.portText) := by
  refine hs.host.splitHost_append s.portText ?_
  intro c hc
  unfold portText at hc
  cases hport : s.port with
  | none => exact absurd hc (by simp [hport])
  | some p => simpa [hport] using hc.symm

end Server

/-! ## 3. A whole address -/

namespace Parser

/-- A scheme is found in front of what follows it. -/
theorem scheme?_name (scheme : Scheme) (rest : List Char) :
    scheme? (scheme.name.toList ++ ':' :: rest) = some (scheme.name, rest) := by
  cases scheme <;> simp [Scheme.name, scheme?, isSchemeChar, List.span, List.span.loop]

theorem find?_name (scheme : Scheme) : (Scheme.all.find? (·.name == scheme.name)) = some scheme := by
  cases scheme <;> rfl

end Parser

namespace Parts

/-- A text is cut where the first character stands that ends it. -/
theorem cut_append {p : Char → Bool} {text rest : List Char} (htext : ∀ c ∈ text, p c = true)
    (hrest : ∀ c ∈ rest.head?, p c = false) :
    (text ++ rest).takeWhile p = text ∧ (text ++ rest).dropWhile p = rest := by
  rw [List.takeWhile_append_of_pos htext, List.dropWhile_append_of_pos htext]
  cases rest with
  | nil => simp
  | cons c rest => simp [hrest c rfl]

/-- What is written after a path. -/
def ending (query fragment : Option String) : List Char :=
  (query.map fun q => '?' :: q.toList).getD [] ++ (fragment.map fun f => '#' :: f.toList).getD []

section ending

variable {query : Option String} (fragment : Option String)

theorem inPath_of_head?_ending {c : Char} (h : c ∈ (ending query fragment).head?) :
    inPath c = false := by
  cases query with
  | some q =>
    obtain rfl : '?' = c := by simpa [ending] using h
    rfl
  | none =>
    cases fragment with
    | some f =>
      obtain rfl : '#' = c := by simpa [ending] using h
      rfl
    | none => exact absurd h (by simp [ending])

/-- A query ends at the number sign that starts the fragment. -/
theorem cut_query {q : String} (hquery : '#' ∉ q.toList) :
    (q.toList ++ ending none fragment).takeWhile (· != '#') = q.toList ∧
      (q.toList ++ ending none fragment).dropWhile (· != '#') = ending none fragment := by
  refine cut_append (fun c hc => bne_iff_ne.mpr (ne_of_mem_of_not_mem hc hquery)) ?_
  intro c hc
  cases fragment with
  | none => exact absurd hc (by simp [ending])
  | some f =>
    obtain rfl : '#' = c := by simpa [ending] using hc
    rfl

theorem ending_some (q : String) (fragment : Option String) :
    ending (some q) fragment = '?' :: (q.toList ++ ending none fragment) := by
  simp [ending]

theorem query?_ending (hquery : ∀ q ∈ query, '#' ∉ q.toList) :
    query? (ending query fragment) = query := by
  cases query with
  | some q =>
    rw [ending_some, query?, (cut_query fragment (hquery q rfl)).1, String.ofList_toList]
  | none => cases fragment <;> simp [ending, query?]

theorem fragment?_ending (hquery : ∀ q ∈ query, '#' ∉ q.toList) :
    fragment? (ending query fragment) = fragment := by
  have hnone : fragment? (ending none fragment) = fragment := by
    cases fragment <;> simp [ending, fragment?]
  cases query with
  | none => exact hnone
  | some q =>
    rw [ending_some, fragment?, List.dropWhile_cons_of_pos (by rfl),
      (cut_query fragment (hquery q rfl)).2]
    cases fragment <;> simp [ending]

end ending

/-- **An address that is put together from parts is taken apart into them.** -/
theorem read?_written {scheme : Scheme} {s : Server} (hs : s.IsWritten) {path : List Char}
    (hslash : path.head? = some '/') (hpath : ∀ c ∈ path, inPath c = true)
    {query : Option String} (hquery : ∀ q ∈ query, '#' ∉ q.toList) (fragment : Option String) :
    read? (String.ofList (scheme.name.toList ++ ':' :: '/' :: '/' ::
      (s.authority ++ (path ++ ending query fragment)))) =
    some {
      scheme, query, fragment
      user := s.user
      host := s.host.text
      port := s.port
      path := String.ofList path } := by
  have hserver : (s.authority ++ (path ++ ending query fragment)).takeWhile inServer = s.authority ∧
      (s.authority ++ (path ++ ending query fragment)).dropWhile inServer =
        path ++ ending query fragment := by
    refine cut_append (fun c hc => by simp [inServer, hs.inside hc]) ?_
    intro c hc
    obtain rfl : '/' = c := by simpa [hslash] using hc
    rfl
  have hends : (path ++ ending query fragment).takeWhile inPath = path ∧
      (path ++ ending query fragment).dropWhile inPath = ending query fragment :=
    cut_append hpath fun c hc => inPath_of_head?_ending fragment hc
  obtain ⟨huser, hhostPort⟩ := hs.splitUser_authority
  simp only [read?, String.toList_ofList, Parser.scheme?_name, Parser.find?_name, Option.bind_some,
    bind, hserver.1, hserver.2, hends.1, hends.2, huser, hhostPort, hs.splitHost_hostPort, hs.port_portText,
    query?_ending fragment hquery, fragment?_ending fragment hquery, Except.toOption,
    String.ofList_toList]

end Parts
end LiveLog.Url
