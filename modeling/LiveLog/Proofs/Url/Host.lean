import LiveLog.Proofs.Url.Percent
import LiveLog.Url.Parser

/-!
# What the text of a host holds

An address is taken apart at a few signs: a slash, a question mark or a number sign ends the part about
the server, the last `@` of that part ends the user, and a colon outside brackets starts the port. The
text of a host is written between them as it is, so none of them may stand in it.

A name is checked before it is put into ASCII, not after. What has to be shown is that the ASCII form
brings no sign back in: it is made of characters of the name, of the mark and hyphens, and of digits to
base 36 (`Domain.isForbidden_of_mem_toAscii?`). Numbers are written with digits and dots, or with
hexadecimal digits and colons in brackets, and that is the one text with a colon.
-/

namespace LiveLog.Url

/-! ## 1. Digits and labels -/

theorem digit_of_mem_toDigits {base n : Nat} {c : Char} (hbase : 1 < base)
    (h : c ∈ Nat.toDigits base n) : ∃ d < base, c = Nat.digitChar d := by
  induction n using Nat.strongRecOn with
  | ind n ih =>
    rw [Nat.toDigits_eq_if hbase] at h
    split at h
    case isTrue hn => exact ⟨n, hn, by simpa using h⟩
    case isFalse hn =>
      rcases List.mem_append.mp h with hfront | hlast
      · exact ih (n / base) (Nat.div_lt_self (by omega) hbase) hfront
      · exact ⟨n % base, Nat.mod_lt n (by omega), by simpa using hlast⟩

namespace Ipv4

theorem mem_of_mem_labels {cs l : List Char} {c : Char} (hl : l ∈ labels cs) (hc : c ∈ l) : c ∈ cs := by
  induction cs using labels.induct generalizing l with
  | case1 =>
    rw [labels, List.mem_singleton] at hl
    exact hl ▸ hc
  | case2 rest ih =>
    rw [labels] at hl
    rcases List.mem_cons.mp hl with rfl | hl
    · exact absurd hc (by simp)
    · exact List.mem_cons_of_mem '.' (ih hl hc)
  | case3 d rest hdot first others hrest ih =>
    rw [labels, hrest] at hl
    · rcases List.mem_cons.mp hl with rfl | hl
      · rcases List.mem_cons.mp hc with rfl | hc
        · exact List.mem_cons_self
        · exact List.mem_cons_of_mem d (ih (hrest ▸ List.mem_cons_self) hc)
      · exact List.mem_cons_of_mem d (ih (hrest ▸ List.mem_cons_of_mem first hl) hc)
    · exact hdot
  | case4 d rest hdot hrest ih =>
    rw [labels, hrest, List.mem_singleton] at hl
    · rw [hl, List.mem_singleton] at hc
      exact hc ▸ List.mem_cons_self
    · exact hdot

end Ipv4

namespace Punycode

theorem digit_of_mem_digits {bias k n : Nat} {c : Char} (h : c ∈ digits bias k n) :
    ∃ d < 36, c = digitChar d := by
  have ht (k : Nat) : 1 ≤ threshold k bias ∧ threshold k bias ≤ 26 := by
    rw [threshold]
    omega
  fun_induction digits bias k n with
  | case1 k n t hn =>
    have := ht k
    exact ⟨n, by omega, by simpa using h⟩
  | case2 k n t hn _ ih =>
    have hlt : (n - t) % (36 - t) < 36 - t := Nat.mod_lt _ (by have := ht k; omega)
    rcases List.mem_cons.mp h with rfl | h
    · exact ⟨t + (n - t) % (36 - t), by omega, rfl⟩
    · exact ih h

/-- All that a writer writes are digits. -/
def Writer.Numeric (w : Writer) : Prop := ∀ c ∈ w.written, ∃ d < 36, c = digitChar d

theorem Writer.Numeric.pass {w : Writer} (hw : w.Numeric) (basics n : Nat) (c : Char) :
    (w.pass basics n c).Numeric := by
  unfold Writer.pass
  split
  · exact hw
  · split
    · intro d hd
      rcases List.mem_append.mp hd with hd | hd
      · exact hw d hd
      · exact digit_of_mem_digits hd
    · exact hw

theorem Writer.Numeric.foldl {w : Writer} (hw : w.Numeric) (basics n : Nat) (label : List Char) :
    (label.foldl (Writer.pass basics n) w).Numeric := by
  induction label generalizing w with
  | nil => exact hw
  | cons c rest ih => exact ih (hw.pass basics n c)

theorem Writer.Numeric.rounds {label : List Char} {basics : Nat} {ns : List Nat} {n : Nat} {w : Writer}
    (hw : w.Numeric) : (Writer.rounds label basics ns n w).Numeric := by
  induction ns generalizing n w with
  | nil => exact hw
  | cons m rest ih =>
    have hround : (label.foldl (Writer.pass basics m)
        { w with delta := w.delta + (m - n) * (w.count + 1) }).Numeric := by
      apply Writer.Numeric.foldl
      exact hw
    exact ih hround

/-- The ASCII form of a label has no other characters than the label, the hyphen and digits. -/
theorem mem_encode {label : List Char} {c : Char} (h : c ∈ encode label) :
    c ∈ label ∨ c = '-' ∨ ∃ d < 36, c = digitChar d := by
  rcases List.mem_append.mp h with hfront | hwritten
  · rcases List.mem_append.mp hfront with hbasic | hhyphen
    · exact .inl (List.mem_filter.mp hbasic).1
    · split at hhyphen
      · exact absurd hhyphen (by simp)
      · exact .inr (.inl (List.mem_singleton.mp hhyphen))
  · refine .inr (.inr (Writer.Numeric.rounds ?_ c hwritten))
    intro d hd
    exact absurd hd (by simp)

end Punycode

/-! ## 2. Names -/

namespace Domain

theorem isForbidden_digitChar : ∀ d < 36, isForbidden (Punycode.digitChar d) = false := by decide

theorem isForbidden_of_mem_asciiLabel {label : List Char} (hlabel : ∀ c ∈ label, isForbidden c = false)
    {c : Char} (h : c ∈ asciiLabel label) : isForbidden c = false := by
  unfold asciiLabel at h
  split at h
  · exact hlabel c h
  · rcases List.mem_append.mp h with hmark | hform
    · have hall : ∀ c ∈ mark, isForbidden c = false := by simp [mark, isForbidden]
      exact hall c hmark
    · rcases Punycode.mem_encode hform with hc | rfl | ⟨d, hd, rfl⟩
      · exact hlabel c hc
      · rfl
      · exact isForbidden_digitChar d hd

/-- **No forbidden character stands in the ASCII form of a name.** -/
theorem isForbidden_of_mem_toAscii? {name ascii : List Char} (h : toAscii? name = some ascii) {c : Char}
    (hc : c ∈ ascii) : isForbidden c = false := by
  unfold toAscii? at h
  generalize Text.composed (name.flatMap letters) = settled at h
  dsimp only at h
  split at h
  · exact absurd h (by simp)
  · rename_i hallowed
    obtain ⟨shown, -, h⟩ := Option.bind_eq_some_iff.mp h
    split at h
    · exact absurd h (by simp)
    · obtain rfl := Option.some.inj h
      have hsettled : ∀ c ∈ settled, isForbidden c = false := by
        simpa using hallowed
      rcases mem_of_mem_intercalate hc with hdot | ⟨l, hl, hcl⟩
      · rw [List.mem_singleton.mp hdot]
        rfl
      · obtain ⟨label, hlabel, rfl⟩ := List.mem_map.mp hl
        exact isForbidden_of_mem_asciiLabel
          (fun d hd => hsettled d (Ipv4.mem_of_mem_labels hlabel hd)) hcl

end Domain

/-! ## 3. Texts of hosts -/

namespace Ipv4

theorem mem_text {n : Nat} {c : Char} (h : c ∈ (text n).toList) :
    c = '.' ∨ ∃ d < 10, c = Nat.digitChar d := by
  rw [text, String.toList_intercalate] at h
  rcases mem_of_mem_intercalate h with hdot | ⟨l, hl, hc⟩
  · exact .inl (List.mem_singleton.mp hdot)
  · obtain ⟨number, hnumber, rfl⟩ := List.mem_map.mp hl
    obtain ⟨k, -, rfl⟩ := List.mem_map.mp hnumber
    rw [Nat.toString_eq_ofList_toDigits, String.toList_ofList] at hc
    exact .inr (digit_of_mem_toDigits (by decide) hc)

theorem text_ne_nil (n : Nat) : (text n).toList ≠ [] := by
  rw [text, String.toList_intercalate]
  simp

end Ipv4

namespace Ipv6

theorem mem_text {vs : List Nat} {c : Char} (h : c ∈ (text vs).toList) :
    c = ':' ∨ ∃ d < 16, c = Nat.digitChar d := by
  have hjoin (ws : List Nat) (hc : c ∈ (":".intercalate (ws.map groupText)).toList) :
      c = ':' ∨ ∃ d < 16, c = Nat.digitChar d := by
    rw [String.toList_intercalate] at hc
    rcases mem_of_mem_intercalate hc with hcolon | ⟨l, hl, hc⟩
    · exact .inl (List.mem_singleton.mp hcolon)
    · obtain ⟨group, hgroup, rfl⟩ := List.mem_map.mp hl
      obtain ⟨v, -, rfl⟩ := List.mem_map.mp hgroup
      rw [groupText, String.toList_ofList] at hc
      exact .inr (digit_of_mem_toDigits (by decide) hc)
  unfold text at h
  dsimp only at h
  split at h
  · rw [String.toList_append, String.toList_append] at h
    rcases List.mem_append.mp h with hfront | hback
    · rcases List.mem_append.mp hfront with hfront | hgap
      · exact hjoin _ hfront
      · exact .inl (by simpa using hgap)
    · exact hjoin _ hback
  · exact hjoin vs h

end Ipv6

/-- **A text that an address can hold as its host**: it is there, nothing in it ends the part about the
    server or the user, and it is split off in front of a port. -/
structure IsHostText (text : List Char) : Prop where
  ne_nil : text ≠ []
  inside : ∀ c ∈ text, Parser.endsAuthority true c = false
  no_user : '@' ∉ text
  splitHost_append : ∀ rest : List Char, (∀ c ∈ rest.head?, c = ':') →
    Parser.splitHost false (text ++ rest) = (text, rest)

namespace Parser

theorem splitHost_of_plain {text rest : List Char} (htext : ∀ c ∈ text, c ≠ ':' ∧ c ≠ '[')
    (hrest : ∀ c ∈ rest.head?, c = ':') : splitHost false (text ++ rest) = (text, rest) := by
  induction text with
  | nil =>
    cases rest with
    | nil => rfl
    | cons c more =>
      obtain rfl := hrest c rfl
      rfl
  | cons c text ih =>
    obtain ⟨hcolon, hbracket⟩ := htext c List.mem_cons_self
    have hmore := ih fun d hd => htext d (List.mem_cons_of_mem c hd)
    have houtside : (c == '[' || (false && c != ']')) = false := by simp [hbracket]
    rw [List.cons_append, splitHost, if_neg (by simp [hcolon]), houtside, hmore]

theorem splitHost_of_inside {text rest : List Char} (htext : ']' ∉ text)
    (hrest : ∀ c ∈ rest.head?, c = ':') :
    splitHost true (text ++ ']' :: rest) = (text ++ [']'], rest) := by
  induction text with
  | nil =>
    have hafter : splitHost false ([] ++ rest) = ([], rest) := splitHost_of_plain (by simp) hrest
    rw [List.nil_append] at hafter ⊢
    simp [splitHost, hafter]
  | cons c text ih =>
    have hc : c ≠ ']' := fun hc => htext (hc ▸ List.mem_cons_self)
    have hmore := ih fun hmem => htext (List.mem_cons_of_mem c hmem)
    have hinside : (c == '[' || (true && c != ']')) = true := by simp [hc]
    rw [List.cons_append, splitHost, if_neg (by simp), hinside, hmore, List.cons_append]

end Parser

theorem endsAuthority_of_allowed {c : Char} (h : Domain.isForbidden c = false) :
    Parser.endsAuthority true c = false := by
  cases hend : Parser.endsAuthority true c with
  | false => rfl
  | true =>
    simp only [Parser.endsAuthority, Bool.or_eq_true, Bool.and_eq_true, beq_iff_eq, true_and] at hend
    rcases hend with ((rfl | rfl) | rfl) | rfl <;> exact absurd h (by decide)

/-- Outside brackets a host may hold every character that is not forbidden in names. -/
theorem isHostText_of_allowed {text : List Char} (hne : text ≠ [])
    (h : ∀ c ∈ text, Domain.isForbidden c = false) : IsHostText text where
  ne_nil := hne
  inside c hc := endsAuthority_of_allowed (h c hc)
  no_user hat := absurd (h '@' hat) (by decide)
  splitHost_append rest hrest := by
    refine Parser.splitHost_of_plain ?_ hrest
    intro c hc
    constructor <;> rintro rfl <;> exact absurd (h _ hc) (by decide)

namespace Host

theorem isHostText_ipv4 (n : Nat) : IsHostText (ipv4 n).text.toList := by
  refine isHostText_of_allowed (Ipv4.text_ne_nil n) ?_
  intro c hc
  rcases Ipv4.mem_text hc with rfl | ⟨d, hd, rfl⟩
  · rfl
  · have hdigits : ∀ d < 10, Domain.isForbidden (Nat.digitChar d) = false := by decide
    exact hdigits d hd

theorem allowed_of_mem_ipv6 {vs : List Nat} {c : Char} (h : c ∈ (Ipv6.text vs).toList) :
    c = ':' ∨ Domain.isForbidden c = false := by
  have hdigits : ∀ d < 16, Domain.isForbidden (Nat.digitChar d) = false := by decide
  rcases Ipv6.mem_text h with rfl | ⟨d, hd, rfl⟩
  · exact .inl rfl
  · exact .inr (hdigits d hd)

theorem toList_text_ipv6 (vs : List Nat) :
    (ipv6 vs).text.toList = '[' :: ((Ipv6.text vs).toList ++ [']']) := by
  simp [text]

/-- Brackets and colons end neither the part about the server nor the user. -/
theorem inside_ipv6 {vs : List Nat} {c : Char} (h : c ∈ (ipv6 vs).text.toList) :
    Parser.endsAuthority true c = false ∧ c ≠ '@' := by
  have hallowed : Domain.isForbidden c = false → Parser.endsAuthority true c = false ∧ c ≠ '@' := by
    intro hc
    refine ⟨endsAuthority_of_allowed hc, ?_⟩
    rintro rfl
    exact absurd hc (by decide)
  rw [toList_text_ipv6] at h
  rcases List.mem_cons.mp h with rfl | h
  · decide
  · rcases List.mem_append.mp h with hinner | hclosing
    · rcases allowed_of_mem_ipv6 hinner with rfl | hc
      · decide
      · exact hallowed hc
    · rw [List.mem_singleton.mp hclosing]
      decide

/-- In brackets there are colons, but the port only starts after them. -/
theorem isHostText_ipv6 (vs : List Nat) : IsHostText (ipv6 vs).text.toList where
  ne_nil := by simp [toList_text_ipv6]
  inside _ hc := (inside_ipv6 hc).1
  no_user hat := (inside_ipv6 hat).2 rfl
  splitHost_append rest hrest := by
    have hclosed : ']' ∉ (Ipv6.text vs).toList := by
      intro hmem
      rcases allowed_of_mem_ipv6 hmem with hc | hc <;> exact absurd hc (by decide)
    have hinside := Parser.splitHost_of_inside hclosed hrest
    have hopen : ('[' == '[' || (false && '[' != ']')) = true := rfl
    rw [toList_text_ipv6, List.cons_append, List.append_assoc, List.singleton_append, Parser.splitHost,
      if_neg (by decide), hopen, hinside]

theorem bracketed_ne_name (rest : List Char) (ascii : String) :
    bracketed rest ≠ .ok (.name ascii) := by
  unfold bracketed
  split
  · split <;> simp
  · simp

/-- A name is what a name was put into ASCII as. -/
theorem exists_of_parse_eq_name {cs : List Char} {ascii : String} (h : parse cs = .ok (.name ascii)) :
    ∃ letters, (∃ name, Domain.toAscii? name = some letters) ∧ letters ≠ [] ∧
      ascii = String.ofList letters := by
  unfold parse at h
  split at h
  · exact absurd h (bracketed_ne_name _ ascii)
  · split at h
    · exact absurd h (by simp)
    · exact absurd h (by simp)
    · rename_i letters hne hletters
      obtain ⟨name, -, hname⟩ := Option.bind_eq_some_iff.mp hletters
      split at h
      · split at h <;> exact absurd h (by simp)
      · exact ⟨letters, ⟨name, hname⟩, hne, by simpa using h.symm⟩

/-- **Every host that is read has such a text.** -/
theorem isHostText_of_parse {cs : List Char} {host : Host} (h : parse cs = .ok host) :
    IsHostText host.text.toList := by
  cases host with
  | ipv4 n => exact isHostText_ipv4 n
  | ipv6 vs => exact isHostText_ipv6 vs
  | name ascii =>
    obtain ⟨letters, ⟨name, hname⟩, hne, rfl⟩ := exists_of_parse_eq_name h
    rw [text, String.toList_ofList]
    exact isHostText_of_allowed hne fun c hc => Domain.isForbidden_of_mem_toAscii? hname hc

end Host
end LiveLog.Url
