import LiveLog.Proofs.Json.Fields
import LiveLog.Proofs.Json.Number
import LiveLog.Proofs.Json.Object

/-!
# What the parts of a text mean

A text is read in two steps, first into its tree and then into a value, and much that can be asked about a
text can only be asked about the tree: whether a number is written as a literal of digits alone, whether a key
stands there twice. This file says how the two fit together. A source gives a value of its own kind
(`Gives`), and of the members of a key the last one is what the key has in the value (`Means`), so a member
can be recognised on either side.
-/

namespace LiveLog
namespace Source

/-! ## 1. Parts of a container -/

theorem resolveItems_cons {depth : Nat} {x : Source} {rest : List Source} {values : List Json}
    (h : resolveItems depth (x :: rest) = some values) :
    ∃ v vs, x.resolve depth = some v ∧ resolveItems depth rest = some vs ∧ values = v :: vs := by
  simp only [resolveItems, Option.bind_eq_bind, Option.bind_eq_some_iff] at h
  obtain ⟨v, hv, vs, hvs, hvalues⟩ := h
  exact ⟨v, vs, hv, hvs, (Option.some.inj hvalues).symm⟩

theorem resolveMembers_cons {depth : Nat} {pieces : List Piece} {x : Source}
    {rest : List (List Piece × Source)} {members : List (String × Json)}
    (h : resolveMembers depth ((pieces, x) :: rest) = some members) :
    ∃ k v vs, text? pieces = some k ∧ x.resolve depth = some v ∧ resolveMembers depth rest = some vs ∧
      members = (k, v) :: vs := by
  simp only [resolveMembers, Option.bind_eq_bind, Option.bind_eq_some_iff] at h
  obtain ⟨k, hk, v, hv, vs, hvs, hmembers⟩ := h
  exact ⟨k, v, vs, hk, hv, hvs, (Option.some.inj hmembers).symm⟩

theorem keys_of_resolveMembers {depth : Nat} {sources : List (List Piece × Source)}
    {members : List (String × Json)} (h : resolveMembers depth sources = some members) :
    sources.map (fun m => text? m.1) = members.map fun m => some m.1 := by
  induction sources generalizing members with
  | nil =>
    obtain rfl : [] = members := Option.some.inj h
    rfl
  | cons m rest ih =>
    obtain ⟨k, v, vs, hk, -, hvs, rfl⟩ := resolveMembers_cons h
    rw [List.map_cons, List.map_cons, ih hvs, hk]

/-! ## 2. Kinds of values -/

/-- The kind of value that each kind of source gives. -/
inductive Gives : Source → Json → Prop
  | null : Gives .null .null
  | bool (b : Bool) : Gives (.bool b) (.bool b)
  | number {t : NumberText} {n : Number} (h : t.value? = some n) : Gives (.number t) (.number n)
  | string {pieces : List Piece} {s : String} (h : text? pieces = some s) : Gives (.string pieces) (.string s)
  | array (xs : List Source) (vs : List Json) : Gives (.array xs) (.array vs)
  | object (ms : List (List Piece × Source)) (vs : List (String × Json)) : Gives (.object ms) (.object vs)

theorem gives_of_resolve {depth : Nat} {x : Source} {v : Json} (h : x.resolve depth = some v) : Gives x v := by
  cases x with
  | null =>
    obtain rfl : Json.null = v := by simpa [resolve] using h
    exact .null
  | bool b =>
    obtain rfl : Json.bool b = v := by simpa [resolve] using h
    exact .bool b
  | number t =>
    rw [resolve, Option.map_eq_some_iff] at h
    obtain ⟨n, hn, rfl⟩ := h
    exact .number hn
  | string pieces =>
    rw [resolve, Option.map_eq_some_iff] at h
    obtain ⟨s, hs, rfl⟩ := h
    exact .string hs
  | array xs =>
    cases depth with
    | zero => exact absurd h (by simp [resolve])
    | succ depth =>
      rw [resolve, Option.map_eq_some_iff] at h
      obtain ⟨vs, -, rfl⟩ := h
      exact .array xs vs
  | object ms =>
    cases depth with
    | zero => exact absurd h (by simp [resolve])
    | succ depth =>
      rw [resolve, Option.map_eq_some_iff] at h
      obtain ⟨vs, -, rfl⟩ := h
      exact .object ms _

/-! ## 3. Members -/

/-- **The last member of a key**, as it stands in the text. -/
def member? : List (List Piece × Source) → String → Option Source
  | [], _ => none
  | (pieces, x) :: rest, key => (member? rest key).or (if text? pieces = some key then some x else none)

/-- What a member of the text is in the value of the text. -/
inductive Means : Option Source → Option Json → Prop
  | absent : Means none none
  | given {x : Source} {v : Json} (h : Gives x v) : Means (some x) (some v)

/-- **The last member of a key is the one that has a meaning.** -/
theorem means_resolveMembers {depth : Nat} {sources : List (List Piece × Source)}
    {members : List (String × Json)} (h : resolveMembers depth sources = some members) (key : String) :
    Means (member? sources key) (members.reverse.lookup key) := by
  induction sources generalizing members with
  | nil =>
    obtain rfl : [] = members := Option.some.inj h
    exact .absent
  | cons m rest ih =>
    obtain ⟨pieces, x⟩ := m
    obtain ⟨k, v, vs, hk, hv, hvs, rfl⟩ := resolveMembers_cons h
    have hrest := ih hvs
    rw [member?, hk, List.reverse_cons, List.lookup_append]
    generalize member? rest key = later at hrest
    generalize vs.reverse.lookup key = later' at hrest
    cases hrest with
    | given hx => exact .given hx
    | absent =>
      rw [Option.none_or, Option.none_or, Json.lookup_cons_ite]
      by_cases hkey : k = key
      · rw [if_pos (congrArg some hkey), if_pos hkey.symm]
        exact .given (gives_of_resolve hv)
      · rw [if_neg (fun heq => hkey (Option.some.inj heq)), if_neg fun heq => hkey heq.symm]
        exact .absent

/-- A string, as a member of the text. -/
def IsText (m : Option Source) : Prop := ∃ pieces, m = some (.string pieces)

/-- A truth value. -/
def IsBool (m : Option Source) : Prop := ∃ b, m = some (.bool b)

/-- **A whole number from zero to `2 ^ 64 - 1`**, written in digits alone. A minus sign makes a literal
    something else also where nothing but zero follows it: `-0` is a double. -/
def IsWord (m : Option Source) : Prop :=
  ∃ t : NumberText, m = some (.number t) ∧ t.minus = false ∧ t.fraction = none ∧ t.exponent = none ∧
    NumberText.number t.whole ≤ maxWord

namespace Means

variable {m : Option Source} {j : Option Json}

theorem absent_iff (h : Means m j) : m = none ↔ j = none := by
  cases h with
  | absent => simp
  | given hx => simp

theorem null_iff (h : Means m j) : m = some .null ↔ j = some .null := by
  cases h with
  | absent => simp
  | given hx => cases hx <;> simp

theorem bool_iff (h : Means m j) : IsBool m ↔ ∃ b, Json.Holds Json.asBool j (some b) := by
  cases h with
  | absent => simp [IsBool, Json.Holds]
  | given hx => cases hx <;> simp [IsBool, Json.Holds, Json.asBool_eq_ok_iff]

theorem text_iff (h : Means m j) : IsText m ↔ ∃ s, Json.Holds Json.asText j (some s) := by
  cases h with
  | absent => simp [IsText, Json.Holds]
  | given hx => cases hx <;> simp [IsText, Json.Holds, Json.asText_eq_ok_iff]

theorem word_iff (h : Means m j) : IsWord m ↔ ∃ n, Json.Holds Json.asWord64 j (some n) := by
  cases h with
  | absent => simp [IsWord, Json.Holds]
  | given hx =>
    cases hx with
    | @number t n hvalue =>
      constructor
      · rintro ⟨t', ht, hminus, hfraction, hexponent, hle⟩
        obtain rfl : t = t' := by simpa using ht
        have hnatural := (NumberText.value?_eq_natural_iff t _).mpr ⟨hminus, hfraction, hexponent, rfl, hle⟩
        obtain rfl := Option.some.inj (hvalue.symm.trans hnatural)
        exact ⟨_, _, rfl, Json.asWord64_eq_ok_iff.mpr ⟨rfl, hle⟩⟩
      · rintro ⟨k, x, hx, hread⟩
        obtain ⟨rfl, -⟩ := Json.asWord64_eq_ok_iff.mp hread
        obtain rfl : n = .natural k := by simpa [Json.natural] using hx
        obtain ⟨hminus, hfraction, hexponent, hwhole, hle⟩ :=
          (NumberText.value?_eq_natural_iff t k).mp hvalue
        exact ⟨t, rfl, hminus, hfraction, hexponent, hwhole ▸ hle⟩
    | _ => simp [IsWord, Json.Holds, Json.asWord64_eq_ok_iff, Json.natural]

end Means
end Source

end LiveLog
