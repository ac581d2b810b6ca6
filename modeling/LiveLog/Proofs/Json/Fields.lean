import LiveLog.Json.Decode

/-!
# What a member has to hold

A structure is read from an object member by member, and the first fault ends it. Two questions are asked
about that: when nothing is at fault, and what is read then. Both are answered by the members alone, one
by one, since a structure is read if each of its members is (`bind_eq_ok_iff`). A member is either absent
or has a value, and `Holds` says what it has to be for a certain reading; `HoldsOptional` says it of a member
that may be null.
-/

namespace LiveLog

/-! ## 1. Steps of reading -/

theorem Decoded.bind_eq_ok_iff {α β : Type} {x : Decoded α} {f : α → Decoded β} {b : β} :
    (x >>= f) = .ok b ↔ ∃ a, x = .ok a ∧ f a = .ok b := by
  cases x with
  | error e =>
    constructor
    · intro h
      exact absurd h (by simp [bind, Except.bind])
    · rintro ⟨a, ha, -⟩
      exact absurd ha (by simp)
  | ok a =>
    constructor
    · intro h
      exact ⟨a, rfl, h⟩
    · rintro ⟨a', ha, h⟩
      obtain rfl : a = a' := Except.ok.inj ha
      exact h

theorem Decoded.map_eq_ok_iff {α β : Type} {x : Decoded α} {f : α → β} {b : β} :
    x.map f = .ok b ↔ ∃ a, x = .ok a ∧ f a = b := by
  cases x <;> simp [Except.map]

namespace Json

theorem asText_eq_ok_iff {x : Json} {s : String} : x.asText = .ok s ↔ x = .string s := by
  cases x <;> simp [asText, wrongType]

theorem asBool_eq_ok_iff {x : Json} {b : Bool} : x.asBool = .ok b ↔ x = .bool b := by
  cases x <;> simp [asBool, wrongType]

theorem asWord64_eq_ok_iff {x : Json} {n : Nat} : x.asWord64 = .ok n ↔ x = natural n ∧ n ≤ maxWord := by
  unfold asWord64 asNatural natural
  split
  case h_1 k =>
    split
    case isTrue hle =>
      constructor
      · intro h
        obtain rfl : k = n := Except.ok.inj h
        exact ⟨rfl, hle⟩
      · rintro ⟨h, -⟩
        simpa using h
    case isFalse hle =>
      constructor
      · intro h
        exact absurd h (by simp)
      · rintro ⟨h, hn⟩
        obtain rfl : k = n := by simpa using h
        exact absurd hn hle
  case h_2 => simp
  case h_3 hnatural _ =>
    constructor
    · intro h
      exact absurd h (by simp [wrongType])
    · rintro ⟨h, -⟩
      exact absurd h (hnatural n)

theorem required_eq_ok_iff {α : Type} {key : String} {o : Option α} {a : α} :
    required key o = .ok a ↔ o = some a := by
  cases o <;> simp [required]

/-! ## 2. Members -/

variable {α : Type} (read : Json → Decoded α)

/-- **What a member has to be** for something to be read from it, or nothing where it is absent. -/
def Holds (member : Option Json) : Option α → Prop
  | none => member = none
  | some a => ∃ x, member = some x ∧ read x = .ok a

/-- What a member that may be null has to be. -/
def HoldsOptional (member : Option Json) : Option α → Prop
  | none => member = none ∨ member = some .null
  | some a => ∃ x, member = some x ∧ x ≠ .null ∧ read x = .ok a

variable {read}

theorem member?_eq_ok_iff {ms : List (String × Json)} {key : String} {o : Option α} :
    member? ms key read = .ok o ↔ Holds read (ms.lookup key) o := by
  unfold member?
  cases hlookup : ms.lookup key with
  | none => cases o <;> simp [Holds]
  | some x =>
    show (read x).map some = .ok o ↔ _
    rw [Decoded.map_eq_ok_iff]
    cases o <;> simp [Holds]

theorem asOptional_eq_none_iff {x : Json} : asOptional read x = .ok none ↔ x = .null := by
  constructor
  · intro h
    cases x with
    | null => rfl
    | _ =>
      obtain ⟨_, -, hsome⟩ := Decoded.map_eq_ok_iff.mp h
      exact absurd hsome (by simp)
  · rintro rfl
    rfl

theorem asOptional_eq_some_iff {x : Json} {a : α} :
    asOptional read x = .ok (some a) ↔ x ≠ .null ∧ read x = .ok a := by
  cases x with
  | null => simp [asOptional]
  | _ => simp [asOptional, Decoded.map_eq_ok_iff]

/-- A member that may be null is read in two steps: it may be absent, and what is there may be null. -/
theorem holds_asOptional_iff {member : Option Json} {a : Option α} :
    (∃ o, Holds (asOptional read) member o ∧ o.join = a) ↔ HoldsOptional read member a := by
  constructor
  · rintro ⟨_ | o, hholds, rfl⟩
    · exact .inl hholds
    · obtain ⟨x, hx, hread⟩ := hholds
      cases o with
      | none => exact .inr (asOptional_eq_none_iff.mp hread ▸ hx)
      | some a => exact ⟨x, hx, asOptional_eq_some_iff.mp hread⟩
  · intro h
    cases a with
    | none =>
      rcases h with habsent | hnull
      · exact ⟨none, habsent, rfl⟩
      · exact ⟨some none, ⟨.null, hnull, rfl⟩, rfl⟩
    | some a =>
      obtain ⟨x, hx, hread⟩ := h
      exact ⟨some (some a), ⟨x, hx, asOptional_eq_some_iff.mpr hread⟩, rfl⟩

theorem exists_holdsOptional_iff {member : Option Json} :
    (∃ a, HoldsOptional read member a) ↔
      member = none ∨ member = some .null ∨ ∃ a, Holds read member (some a) := by
  constructor
  · rintro ⟨_ | a, hholds⟩
    · rcases hholds with habsent | hnull
      · exact .inl habsent
      · exact .inr (.inl hnull)
    · obtain ⟨x, hx, -, hread⟩ := hholds
      exact .inr (.inr ⟨a, x, hx, hread⟩)
  · rintro (habsent | hnull | ⟨a, x, hx, hread⟩)
    · exact ⟨none, .inl habsent⟩
    · exact ⟨none, .inr hnull⟩
    · by_cases hnull : x = .null
      · exact ⟨none, .inr (hnull ▸ hx)⟩
      · exact ⟨some a, x, hx, hnull, hread⟩

end Json

end LiveLog
