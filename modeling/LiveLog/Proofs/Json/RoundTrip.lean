import LiveLog.Json.Resolve
import LiveLog.Json.Writer
import LiveLog.Proofs.Json.Number
import LiveLog.Proofs.Json.Object

/-!
# What is written is read back

The compact text of a value is read as that value. The difficulty is not in any one kind of value but in what
stands after it: a reader takes as much as it can, so a number must not be followed by a digit and a string
ends at a quote that is not escaped. So what is proved of a value is said in front of any rest with which
something may go on (`Ends`), and it says of all of its characters and of none of the rest that they are
taken (`ReadBack`). A container asks that of its elements and passes it on, and `readBack_of_plain` is the
induction.

Which values can be expected back is `Json.Plain`. The fuel of the readers is paid by characters: every call
takes one at least.
-/

namespace LiveLog

/-! ## 1. Strings -/

namespace Source

theorem hexDigit?_hexChar : ∀ n < 16, hexDigit? (Json.hexChar n) = some n := by decide

theorem textOf_unit {u : Nat} (hu : u < 0xD800) (pieces : List Piece) :
    textOf (.unit u :: pieces) = (textOf pieces).map (Char.ofNat u :: ·) := by
  have hlow : ¬ (decide (0xDC00 ≤ u) && decide (u ≤ 0xDFFF)) = true := by
    simp
    omega
  have hhigh : ¬ (decide (0xD800 ≤ u) && decide (u ≤ 0xDBFF)) = true := by
    simp
    omega
  rw [textOf.eq_def]
  dsimp only
  rw [if_neg hlow, if_neg hhigh]

/-- **One character of a string**: what is written for it is read as one piece, which stands for it. -/
theorem stringBody_escape (c : Char) :
    ∃ p, (∀ tail, stringBody (Json.escape c ++ tail)
        = (stringBody tail).bind fun r => some (p :: r.1, r.2)) ∧
      ∀ pieces, textOf (p :: pieces) = (textOf pieces).map (c :: ·) := by
  unfold Json.escape
  split
  case h_8 _ hquote hslash _ _ _ _ _ =>
    by_cases hcontrol : c.toNat < 0x20
    · rw [if_pos hcontrol]
      refine ⟨.unit c.toNat, ?_, ?_⟩
      · have hhigh := hexDigit?_hexChar (c.toNat / 16) (by omega)
        have hlow := hexDigit?_hexChar (c.toNat % 16) (by omega)
        have hzero : hexDigit? '0' = some 0 := by decide
        intro tail
        have hsum : 0 * 4096 + 0 * 256 + c.toNat / 16 * 16 + c.toNat % 16 = c.toNat := by omega
        show stringBody ('\\' :: 'u' :: '0' :: '0' :: _ :: _ :: tail) = _
        rw [stringBody, hhigh, hlow, hzero]
        show ((stringBody tail).bind fun r => some (Piece.unit _ :: r.1, r.2)) = _
        rw [hsum]
      · intro pieces
        have hc : Char.ofNat c.toNat = c := Char.ofNat_toNat c
        rw [textOf_unit (by omega), hc]
    · rw [if_neg hcontrol]
      refine ⟨.char c, ?_, fun pieces => rfl⟩
      intro tail
      show stringBody (c :: tail) = _
      have hplain : ¬ (decide (c.toNat < 0x20) || c == '\\') = true := by simp [hcontrol]; exact hslash
      rw [stringBody, if_neg hplain]
      · rfl
      · exact hquote
      · intro _ _ _ _ _ hc _
        exact hslash hc
      · intro _ _ hc _
        exact hslash hc
  all_goals exact ⟨.char _, fun tail => rfl, fun pieces => rfl⟩

/-- **The characters of a string are read back**, up to the closing quote. -/
theorem stringBody_flatMap_escape (s : List Char) :
    ∃ pieces, textOf pieces = some s ∧
      ∀ rest, stringBody (s.flatMap Json.escape ++ '"' :: rest) = some (pieces, rest) := by
  induction s with
  | nil => exact ⟨[], rfl, fun rest => rfl⟩
  | cons c s ih =>
    obtain ⟨pieces, htext, hread⟩ := ih
    obtain ⟨p, hescape, hpiece⟩ := stringBody_escape c
    refine ⟨p :: pieces, ?_, ?_⟩
    · rw [hpiece, htext]
      rfl
    · intro rest
      rw [List.flatMap_cons, List.append_assoc, hescape, hread]
      rfl

theorem stringBody_quoted (s : String) :
    ∃ pieces, text? pieces = some s ∧
      ∀ rest, ∃ body, Json.quoted s ++ rest = '"' :: body ∧ stringBody body = some (pieces, rest) := by
  obtain ⟨pieces, htext, hread⟩ := stringBody_flatMap_escape s.toList
  refine ⟨pieces, ?_, ?_⟩
  · rw [text?, htext, Option.map_some, String.ofList_toList]
  · intro rest
    exact ⟨_, by simp [Json.quoted], hread rest⟩

/-! ## 2. Numbers -/

/-- **What may stand after a value**: nothing, or what goes on with the container around it. -/
def Ends (rest : List Char) : Prop := ∀ c ∈ rest.head?, c = ',' ∨ c = ']' ∨ c = '\x7d'

theorem digits_append {ds rest : List Char} (hdigits : ∀ c ∈ ds, c.isDigit = true) (hrest : Ends rest) :
    digits (ds ++ rest) = (ds, rest) := by
  rw [digits, List.takeWhile_append_of_pos hdigits, List.dropWhile_append_of_pos hdigits]
  cases rest with
  | nil => simp
  | cons c cs =>
    have hc : c.isDigit = false := by
      rcases hrest c rfl with rfl | rfl | rfl <;> decide
    rw [List.takeWhile_cons_of_neg (by simp [hc]), List.dropWhile_cons_of_neg (by simp [hc]),
      List.append_nil]

theorem wholePart_append {ds rest : List Char} (hdigits : ∀ c ∈ ds, c.isDigit = true) (hne : ds ≠ [])
    (hzero : ∀ c cs, ds ≠ '0' :: c :: cs) (hrest : Ends rest) :
    wholePart (ds ++ rest) = some (ds, rest) := by
  rw [wholePart, digits_append hdigits hrest]
  split
  case h_1 heq => exact absurd (Prod.mk.inj heq).1 hne
  case h_2 heq => exact absurd (Prod.mk.inj heq).1 (hzero _ _)
  case h_3 heq =>
    obtain ⟨rfl, rfl⟩ := Prod.mk.inj heq
    rfl

theorem fractionPart_of_ends {rest : List Char} (hrest : Ends rest) :
    fractionPart rest = some (none, rest) := by
  cases rest with
  | nil => rfl
  | cons c cs =>
    rw [fractionPart]
    rintro tail ⟨⟩
    rcases hrest _ rfl with h | h | h <;> exact absurd h (by decide)

theorem exponentPart_of_ends {rest : List Char} (hrest : Ends rest) :
    exponentPart rest = some (none, rest) := by
  cases rest with
  | nil => rfl
  | cons c cs =>
    have hc : ¬ (c == 'e' || c == 'E') = true := by
      rcases hrest c rfl with rfl | rfl | rfl <;> decide
    exact if_neg hc

/-- Nothing that goes on with a number may stand after a value. -/
theorem unsigned_append (minus : Bool) {ds rest : List Char} (hdigits : ∀ c ∈ ds, c.isDigit = true)
    (hne : ds ≠ []) (hzero : ∀ c cs, ds ≠ '0' :: c :: cs) (hrest : Ends rest) :
    unsigned minus (ds ++ rest)
      = some ({ minus, whole := ds, fraction := none, exponent := none }, rest) := by
  simp only [unsigned, wholePart_append hdigits hne hzero hrest, fractionPart_of_ends hrest,
    exponentPart_of_ends hrest, Option.bind_eq_bind, Option.bind_some]

theorem head?_toDigits {n : Nat} (hn : n ≠ 0) : (Nat.toDigits 10 n).head? ≠ some '0' := by
  induction n using Nat.strongRecOn with
  | ind n ih =>
    rw [Nat.toDigits_eq_if (by decide)]
    by_cases hlt : n < 10
    · have hdigit : ∀ k < 10, k ≠ 0 → k.digitChar ≠ '0' := by decide
      rw [if_pos hlt]
      simpa using hdigit n hlt hn
    · have hnonempty : (Nat.toDigits 10 (n / 10)).head?.isSome = true := by
        simp [Nat.toDigits_ne_nil]
      rw [if_neg hlt, List.head?_append, Option.or_of_isSome hnonempty]
      exact ih (n / 10) (by omega) (by omega)

/-- No number is written with a leading zero. -/
theorem toString_ne_zero_cons (n : Nat) (c : Char) (cs : List Char) :
    (toString n).toList ≠ '0' :: c :: cs := by
  rw [Nat.toString_eq_ofList_toDigits, String.toList_ofList]
  by_cases hn : n = 0
  · subst hn
    simp [Nat.toDigits_of_lt_base]
  · intro heq
    have hhead := head?_toDigits hn
    rw [heq] at hhead
    exact hhead rfl

/-- **The digits that are written for a number are read back.** -/
theorem unsigned_toString (minus : Bool) (n : Nat) {rest : List Char} (hrest : Ends rest) :
    unsigned minus ((toString n).toList ++ rest) =
      some ({ minus, whole := (toString n).toList, fraction := none, exponent := none }, rest) := by
  refine unsigned_append minus ?_ ?_ (toString_ne_zero_cons n) hrest
  · intro c hc
    rw [Nat.toString_eq_ofList_toDigits, String.toList_ofList] at hc
    exact Nat.isDigit_of_mem_toDigits (by decide) (by decide) hc
  · rw [Nat.toString_eq_ofList_toDigits, String.toList_ofList]
    exact Nat.toDigits_ne_nil

theorem isDigit_of_mem_toString {n : Nat} {c : Char} (hc : c ∈ (toString n).toList) : c.isDigit = true := by
  rw [Nat.toString_eq_ofList_toDigits, String.toList_ofList] at hc
  exact Nat.isDigit_of_mem_toDigits (by decide) (by decide) hc

theorem toString_eq_cons (n : Nat) : ∃ c cs, (toString n).toList = c :: cs ∧ c.isDigit = true := by
  have hne : (toString n).toList ≠ [] := by
    rw [Nat.toString_eq_ofList_toDigits, String.toList_ofList]
    exact Nat.toDigits_ne_nil
  obtain ⟨c, cs, heq⟩ := List.exists_cons_of_ne_nil hne
  exact ⟨c, cs, heq, isDigit_of_mem_toString (heq ▸ List.mem_cons_self)⟩

/-! ## 3. Values -/

theorem skip_cons_of_not_blank {c : Char} (hc : isBlank c = false) (cs : List Char) :
    skip (c :: cs) = c :: cs :=
  List.dropWhile_cons_of_neg (by simp [hc])

/-- What starts like a number is read as one. -/
theorem value_number {c : Char} (hc : c.isDigit = true ∨ c = '-') (fuel : Nat) (cs : List Char) :
    value (fuel + 1) (c :: cs) = (numberText (c :: cs)).bind fun r => some (.number r.1, r.2) := by
  rw [value]
  · rfl
  all_goals
    rintro rest ⟨⟩
    exact absurd hc (by decide)

/-- **What reading has to achieve for a value**: its characters start like a value, and wherever a value may
    end after them they are read, all of them and nothing more, as a source that means the value. -/
structure ReadBack (depth : Nat) (x : Json) : Prop where
  starts : ∃ c cs, Json.chars x = c :: cs ∧ isBlank c = false ∧ c ≠ ']'
  reads : ∀ fuel rest, (Json.chars x).length ≤ fuel → Ends rest →
    ∃ source, value fuel (Json.chars x ++ rest) = some (source, rest) ∧ source.resolve depth = some x

variable {depth : Nat}

theorem ReadBack.skip {x : Json} (h : ReadBack depth x) (rest : List Char) :
    skip (Json.chars x ++ rest) = Json.chars x ++ rest := by
  obtain ⟨c, cs, heq, hblank, -⟩ := h.starts
  rw [heq]
  exact skip_cons_of_not_blank hblank (cs ++ rest)

theorem items_itemChars {x : Json} {xs : List Json} (h : ∀ y ∈ x :: xs, ReadBack depth y) (fuel : Nat)
    (rest : List Char) (hfuel : (Json.itemChars (x :: xs)).length ≤ fuel) :
    ∃ sources, items fuel (Json.itemChars (x :: xs) ++ rest) = some (sources, rest) ∧
      resolveItems depth sources = some (x :: xs) := by
  induction xs generalizing x fuel with
  | nil =>
    have hx := h x List.mem_cons_self
    simp only [Json.itemChars, Json.laterItemChars, List.length_append, List.length_singleton] at hfuel ⊢
    obtain ⟨fuel, rfl⟩ : ∃ k, fuel = k + 1 := ⟨fuel - 1, by omega⟩
    obtain ⟨source, hvalue, hresolve⟩ := hx.reads fuel (']' :: rest) (by omega) (by simp [Ends])
    refine ⟨[source], ?_, by simp [resolveItems, hresolve]⟩
    rw [items, List.append_assoc, List.singleton_append, hvalue]
    simp [skip_cons_of_not_blank (show isBlank ']' = false by decide)]
  | cons y ys ih =>
    have hx := h x List.mem_cons_self
    have hlater : Json.laterItemChars (y :: ys) = ',' :: Json.itemChars (y :: ys) := rfl
    have hchars : Json.itemChars (x :: y :: ys) = Json.chars x ++ ',' :: Json.itemChars (y :: ys) := by
      rw [Json.itemChars, hlater]
    rw [hchars, List.length_append, List.length_cons] at hfuel
    rw [hchars]
    obtain ⟨fuel, rfl⟩ : ∃ k, fuel = k + 1 := ⟨fuel - 1, by omega⟩
    obtain ⟨source, hvalue, hresolve⟩ :=
      hx.reads fuel (',' :: Json.itemChars (y :: ys) ++ rest) (by omega) (by simp [Ends])
    obtain ⟨sources, hitems, hsources⟩ := ih (fun z hz => h z (List.mem_cons_of_mem _ hz)) fuel (by omega)
    have hskip : skip (Json.itemChars (y :: ys) ++ rest) = Json.itemChars (y :: ys) ++ rest := by
      rw [Json.itemChars, List.append_assoc]
      exact (h y (by simp)).skip _
    refine ⟨source :: sources, ?_, by simp [resolveItems, hresolve, hsources]⟩
    rw [items, List.append_assoc, hvalue]
    simp [skip_cons_of_not_blank (show isBlank ',' = false by decide), hskip, hitems]

/-- How reading goes on after a member of an object. -/
def afterMember (fuel : Nat) (m : List Piece × Source) :
    List Char → Option (List (List Piece × Source) × List Char)
  | '\x7d' :: rest => some ([m], rest)
  | ',' :: rest => (members fuel (skip rest)).bind fun r => some (m :: r.1, r.2)
  | _ => none

/-- **One member**: its key, its colon and its value are read, and what comes next decides how it goes on. -/
theorem members_member (k : String) {x : Json} (hx : ReadBack depth x) {fuel : Nat}
    (hfuel : (Json.chars x).length ≤ fuel) (later : List Char) (hlater : Ends later) :
    ∃ pieces source, text? pieces = some k ∧ source.resolve depth = some x ∧
      members (fuel + 1) (Json.quoted k ++ ':' :: Json.chars x ++ later)
        = afterMember fuel (pieces, source) later := by
  obtain ⟨pieces, htext, hquoted⟩ := stringBody_quoted k
  obtain ⟨body, hquoted, hbody⟩ := hquoted (':' :: Json.chars x ++ later)
  obtain ⟨source, hvalue, hresolve⟩ := hx.reads fuel later hfuel hlater
  have hcolon : skip (':' :: Json.chars x ++ later) = ':' :: (Json.chars x ++ later) :=
    skip_cons_of_not_blank (by decide) _
  have hskip : skip later = later := by
    cases later with
    | nil => rfl
    | cons c cs =>
      refine skip_cons_of_not_blank ?_ cs
      rcases hlater c rfl with rfl | rfl | rfl <;> decide
  refine ⟨pieces, source, htext, hresolve, ?_⟩
  rw [List.append_assoc, hquoted, members, hbody]
  simp only [hcolon, hx.skip, hvalue, hskip, Option.bind_eq_bind, Option.bind_some]
  rfl

theorem members_memberChars {m : String × Json} {ms : List (String × Json)}
    (h : ∀ a ∈ m :: ms, ReadBack depth a.2) (fuel : Nat) (rest : List Char)
    (hfuel : (Json.memberChars (m :: ms)).length ≤ fuel) :
    ∃ sources, members fuel (Json.memberChars (m :: ms) ++ rest) = some (sources, rest) ∧
      resolveMembers depth sources = some (m :: ms) := by
  induction ms generalizing m fuel with
  | nil =>
    obtain ⟨k, x⟩ := m
    have hchars : Json.memberChars [(k, x)] = Json.quoted k ++ ':' :: Json.chars x ++ ['\x7d'] := rfl
    rw [hchars, List.length_append, List.length_append, List.length_cons, List.length_singleton] at hfuel
    obtain ⟨fuel, rfl⟩ : ∃ k, fuel = k + 1 := ⟨fuel - 1, by omega⟩
    have hx : ReadBack depth x := h (k, x) List.mem_cons_self
    obtain ⟨pieces, source, htext, hresolve, hread⟩ :=
      members_member k hx (show (Json.chars x).length ≤ fuel by omega) ('\x7d' :: rest) (by simp [Ends])
    refine ⟨[(pieces, source)], ?_, by simp [resolveMembers, htext, hresolve]⟩
    rw [hchars, List.append_assoc]
    exact hread
  | cons n ms ih =>
    obtain ⟨k, x⟩ := m
    have hchars : Json.memberChars ((k, x) :: n :: ms) =
        Json.quoted k ++ ':' :: Json.chars x ++ ',' :: Json.memberChars (n :: ms) := rfl
    rw [hchars, List.length_append, List.length_append, List.length_cons, List.length_cons] at hfuel
    obtain ⟨fuel, rfl⟩ : ∃ k, fuel = k + 1 := ⟨fuel - 1, by omega⟩
    have hx : ReadBack depth x := h (k, x) List.mem_cons_self
    obtain ⟨pieces, source, htext, hresolve, hread⟩ :=
      members_member k hx (show (Json.chars x).length ≤ fuel by omega)
        (',' :: Json.memberChars (n :: ms) ++ rest) (by simp [Ends])
    obtain ⟨sources, hmembers, hsources⟩ :=
      ih (fun a ha => h a (List.mem_cons_of_mem _ ha)) fuel (by omega)
    have hskip : skip (Json.memberChars (n :: ms) ++ rest) = Json.memberChars (n :: ms) ++ rest :=
      skip_cons_of_not_blank (by decide) _
    refine ⟨(pieces, source) :: sources, ?_, by simp [resolveMembers, htext, hresolve, hsources]⟩
    rw [hchars, List.append_assoc]
    refine hread.trans ?_
    rw [List.cons_append, afterMember, hskip, hmembers, Option.bind_some]

theorem value_members {ms : List (String × Json)} (h : ∀ a ∈ ms, ReadBack depth a.2) (fuel : Nat)
    (rest : List Char) (hfuel : ('\x7b' :: Json.memberChars ms).length ≤ fuel) :
    ∃ sources, value fuel ('\x7b' :: Json.memberChars ms ++ rest) = some (.object sources, rest) ∧
      resolveMembers depth sources = some ms := by
  rw [List.length_cons] at hfuel
  obtain ⟨fuel, rfl⟩ : ∃ k, fuel = k + 1 := ⟨fuel - 1, by omega⟩
  rw [List.cons_append, value]
  cases ms with
  | nil => exact ⟨[], rfl, rfl⟩
  | cons m ms =>
    obtain ⟨sources, hmembers, hsources⟩ := members_memberChars h fuel rest (by omega)
    obtain ⟨later, hquote⟩ : ∃ later, Json.memberChars (m :: ms) ++ rest = '"' :: later := ⟨_, rfl⟩
    have hskip : skip ('"' :: later) = '"' :: later := skip_cons_of_not_blank (by decide) later
    refine ⟨sources, ?_, hsources⟩
    rw [hquote] at hmembers ⊢
    rw [hskip]
    show ((members fuel ('"' :: later)).bind fun r => some (Source.object r.1, r.2)) = _
    rw [hmembers, Option.bind_some]

/-- **An object is read back from its members**, in any order and with keys that repeat. -/
theorem value_memberChars {ms : List (String × Json)} (h : ∀ a ∈ ms, ReadBack depth a.2) (fuel : Nat)
    (rest : List Char) (hfuel : ('\x7b' :: Json.memberChars ms).length ≤ fuel) :
    ∃ source, value fuel ('\x7b' :: Json.memberChars ms ++ rest) = some (source, rest) ∧
      source.resolve (depth + 1) = some (Json.ofMembers ms) := by
  obtain ⟨sources, hvalue, hsources⟩ := value_members h fuel rest hfuel
  exact ⟨.object sources, hvalue, by simp [resolve, hsources]⟩

theorem value_itemChars {xs : List Json} (h : ∀ x ∈ xs, ReadBack depth x) (fuel : Nat) (rest : List Char)
    (hfuel : ('[' :: Json.itemChars xs).length ≤ fuel) :
    ∃ source, value fuel ('[' :: Json.itemChars xs ++ rest) = some (source, rest) ∧
      source.resolve (depth + 1) = some (.array xs) := by
  rw [List.length_cons] at hfuel
  obtain ⟨fuel, rfl⟩ : ∃ k, fuel = k + 1 := ⟨fuel - 1, by omega⟩
  rw [List.cons_append, value]
  cases xs with
  | nil => exact ⟨.array [], rfl, rfl⟩
  | cons x xs =>
    obtain ⟨sources, hitems, hsources⟩ := items_itemChars h fuel rest (by omega)
    obtain ⟨c, cs, hx, hblank, hbracket⟩ := (h x List.mem_cons_self).starts
    have hchars : Json.itemChars (x :: xs) ++ rest = c :: (cs ++ Json.laterItemChars xs ++ rest) := by
      rw [Json.itemChars, hx]
      rfl
    refine ⟨.array sources, ?_, by simp [resolve, hsources]⟩
    rw [hchars] at hitems ⊢
    rw [skip_cons_of_not_blank hblank]
    split
    case h_1 heq => exact absurd (List.cons.inj heq).1 hbracket
    case h_2 =>
      rw [hitems]
      rfl

/-! ## 4. What can be written exactly -/

end Source

namespace Json

/-- **The values that text holds exactly**, with at most `depth` containers inside one another: every number
    is a whole number of 64 bits, with or without sign, and every object has its members in order. A double
    is left out, because its text is the shortest one and reading it rounds once more. -/
inductive Plain : Nat → Json → Prop
  | null {depth : Nat} : Plain depth .null
  | bool {depth : Nat} (b : Bool) : Plain depth (.bool b)
  | natural {depth n : Nat} (hn : n ≤ maxWord) : Plain depth (.number (.natural n))
  | negative {depth n : Nat} (hpos : 0 < n) (hn : n ≤ 0x8000000000000000) :
    Plain depth (.number (.negative n))
  | string {depth : Nat} (s : String) : Plain depth (.string s)
  | array {depth : Nat} {xs : List Json} (h : ∀ x ∈ xs, Plain depth x) : Plain (depth + 1) (.array xs)
  | object {depth : Nat} {ms : List (String × Json)} (hsorted : ms.Pairwise fun a b => a.1 < b.1)
    (h : ∀ m ∈ ms, Plain depth m.2) : Plain (depth + 1) (.object ms)

theorem Plain.mono {depth depth' : Nat} {x : Json} (h : Plain depth x) (hle : depth ≤ depth') :
    Plain depth' x := by
  induction h generalizing depth' with
  | null => exact .null
  | bool b => exact .bool b
  | natural hn => exact .natural hn
  | negative hpos hn => exact .negative hpos hn
  | string s => exact .string s
  | array h ih =>
    obtain ⟨d, rfl⟩ : ∃ d, depth' = d + 1 := ⟨depth' - 1, by omega⟩
    exact .array fun x hx => ih x hx (Nat.le_of_succ_le_succ hle)
  | object hsorted h ih =>
    obtain ⟨d, rfl⟩ : ∃ d, depth' = d + 1 := ⟨depth' - 1, by omega⟩
    exact .object hsorted fun m hm => ih m hm (Nat.le_of_succ_le_succ hle)

end Json

namespace Source

theorem value_natural {n : Nat} (hn : n ≤ maxWord) :
    NumberText.value? { minus := false, whole := (toString n).toList, fraction := none, exponent := none } =
      some (.natural n) := by
  rw [NumberText.value?_eq_natural_iff]
  exact ⟨rfl, rfl, rfl, NumberText.number_toString n, hn⟩

theorem value_negative {n : Nat} (hpos : 0 < n) (hn : n ≤ 0x8000000000000000) :
    NumberText.value? { minus := true, whole := (toString n).toList, fraction := none, exponent := none } =
      some (.negative n) := by
  have hle : n ≤ maxWord := Nat.le_trans hn (by decide)
  rw [NumberText.value?_of_digits rfl rfl (by rwa [NumberText.number_toString]),
    NumberText.number_toString]
  have hbounds : ¬ (n == 0 || decide (0x8000000000000000 < n)) = true := by
    simp
    omega
  rw [if_neg (by simp), if_neg hbounds]

theorem readBack_of_leaf {x : Json} (source : Source) {c : Char} {cs : List Char}
    (hchars : Json.chars x = c :: cs) (hstarts : isBlank c = false ∧ c ≠ ']')
    (hread : ∀ fuel rest, Ends rest → value (fuel + 1) (c :: cs ++ rest) = some (source, rest))
    (hresolve : source.resolve depth = some x) : ReadBack depth x where
  starts := ⟨c, cs, hchars, hstarts⟩
  reads := by
    intro fuel rest hfuel hrest
    rw [hchars, List.length_cons] at hfuel
    obtain ⟨fuel, rfl⟩ : ∃ k, fuel = k + 1 := ⟨fuel - 1, by omega⟩
    exact ⟨source, hchars ▸ hread fuel rest hrest, hresolve⟩

theorem resolve_number {literal : NumberText} {n : Number} (h : literal.value? = some n) :
    resolve depth (.number literal) = some (.number n) := by
  rw [resolve, h, Option.map_some]

theorem readBack_natural {n : Nat} (hn : n ≤ maxWord) : ReadBack depth (.number (.natural n)) := by
  obtain ⟨c, cs, hchars, hdigit⟩ := toString_eq_cons n
  have hstarts : isBlank c = false ∧ c ≠ ']' := by
    constructor
    · refine Bool.eq_false_iff.mpr fun hblank => ?_
      simp only [isBlank, Bool.or_eq_true, beq_iff_eq] at hblank
      rcases hblank with ((rfl | rfl) | rfl) | rfl <;> exact absurd hdigit (by decide)
    · rintro rfl
      exact absurd hdigit (by decide)
  refine readBack_of_leaf _ hchars hstarts ?_ (resolve_number (value_natural hn))
  intro fuel rest hrest
  have hminus : ∀ tail, c :: (cs ++ rest) ≠ '-' :: tail := by
    rintro tail ⟨⟩
    exact absurd hdigit (by decide)
  have hunsigned := unsigned_toString false n hrest
  rw [hchars, List.cons_append] at hunsigned
  rw [List.cons_append, value_number (.inl hdigit), numberText.eq_2 _ hminus, hunsigned, hchars]
  rfl

theorem readBack_negative {n : Nat} (hpos : 0 < n) (hn : n ≤ 0x8000000000000000) :
    ReadBack depth (.number (.negative n)) := by
  refine readBack_of_leaf _ (c := '-') rfl (by decide) ?_ (resolve_number (value_negative hpos hn))
  intro fuel rest hrest
  rw [List.cons_append, value_number (.inr rfl), numberText, unsigned_toString true n hrest]
  rfl

theorem readBack_string (s : String) : ReadBack depth (.string s) := by
  obtain ⟨pieces, htext, hquoted⟩ := stringBody_quoted s
  refine readBack_of_leaf (.string pieces) (c := '"') rfl (by decide) ?_ ?_
  · intro fuel rest hrest
    obtain ⟨body, hbody, hread⟩ := hquoted rest
    refine (congrArg (value (fuel + 1)) hbody).trans ?_
    rw [value, hread]
    rfl
  · rw [resolve, htext, Option.map_some]

/-- **Every plain value is read back**, one case for each kind of value. -/
theorem readBack_of_plain {depth : Nat} {x : Json} (h : Json.Plain depth x) : ReadBack depth x := by
  induction h with
  | null => exact readBack_of_leaf .null rfl (by decide) (fun _ _ _ => rfl) rfl
  | bool b => cases b <;> exact readBack_of_leaf (.bool _) rfl (by decide) (fun _ _ _ => rfl) rfl
  | natural hn => exact readBack_natural hn
  | negative hpos hn => exact readBack_negative hpos hn
  | string s => exact readBack_string s
  | array h ih =>
    refine ⟨⟨'[', _, rfl, by decide, by decide⟩, ?_⟩
    intro fuel rest hfuel _
    exact value_itemChars ih fuel rest hfuel
  | object hsorted h ih =>
    refine ⟨⟨'\x7b', _, rfl, by decide, by decide⟩, ?_⟩
    intro fuel rest hfuel _
    obtain ⟨source, hvalue, hresolve⟩ := value_memberChars ih fuel rest hfuel
    rw [Json.ofMembers_eq, Json.arranged_of_pairwise hsorted] at hresolve
    exact ⟨source, hvalue, hresolve⟩

/-! ## 5. Whole texts -/

theorem parse_ofList {s : List Char} {source : Source} (hstart : skip s = s)
    (hread : value (s.length + 1) s = some (source, [])) : parse (String.ofList s) = some source := by
  rw [parse, String.toList_ofList, hstart, hread]
  rfl

end Source

namespace Json

/-- **The text of an object with plain values is read as the object of its members**, as long as the values
    leave room for one more container around them. -/
theorem parse_memberChars {depth : Nat} (hdepth : depth < maxDepth) {ms : List (String × Json)}
    (h : ∀ m ∈ ms, Plain depth m.2) :
    parse (String.ofList ('\x7b' :: memberChars ms)) = some (ofMembers ms) := by
  have hread : ∀ m ∈ ms, Source.ReadBack (maxDepth - 1) m.2 := fun m hm =>
    Source.readBack_of_plain ((h m hm).mono (Nat.le_sub_one_of_lt hdepth))
  obtain ⟨source, hvalue, hresolve⟩ :=
    Source.value_memberChars hread (('\x7b' :: memberChars ms).length + 1) [] (Nat.le_succ _)
  rw [List.append_nil] at hvalue
  rw [parse, Source.parse_ofList (Source.skip_cons_of_not_blank (by decide) _) hvalue]
  exact hresolve

/-- **A plain value is read back from its compact text.** -/
theorem parse_render {x : Json} (h : Plain maxDepth x) : parse (render x) = some x := by
  have hread := Source.readBack_of_plain h
  obtain ⟨source, hvalue, hresolve⟩ :=
    hread.reads ((chars x).length + 1) [] (Nat.le_succ _) (by simp [Source.Ends])
  have hskip := hread.skip []
  rw [List.append_nil] at hvalue hskip
  rw [parse, render, Source.parse_ofList hskip hvalue]
  exact hresolve

end Json
end LiveLog
