import LiveLog.Proofs.Text.Columns
import LiveLog.Time.Stamp

/-!
# The time of day in eight columns

A time of day is written with as many digits as its numbers need, and at least two. That it never needs more is
not a matter of the writing: an instant could hold any number of nanoseconds, and the seconds carry what is
more than one second of them. **An instant that was read holds less than two seconds of nanoseconds**
(`Stamp.nanos_lt`), one for the fraction and one for a leap second, so its time of day has eight characters in
eight columns (`Instant.clock_fits`).
-/

namespace LiveLog

/-! ## 1. What is read -/

namespace Stamp

theorem foldl_digits_lt {ds : List Char} (h : ∀ c ∈ ds, c.isDigit = true) (n : Nat) :
    ds.foldl (fun n c => n * 10 + (c.toNat - '0'.toNat)) n < (n + 1) * 10 ^ ds.length := by
  induction ds generalizing n with
  | nil => simp
  | cons c ds ih =>
    have hdigit : c.toNat - '0'.toNat ≤ 9 := by
      have hc := Char.isDigit_iff_toNat.mp (h c List.mem_cons_self)
      simp only [Char.reduceToNat] at hc ⊢
      omega
    have hrest := ih (fun d hd => h d (List.mem_cons_of_mem c hd)) (n * 10 + (c.toNat - '0'.toNat))
    refine Nat.lt_of_lt_of_le hrest ?_
    rw [List.length_cons, Nat.pow_succ, Nat.mul_comm (10 ^ ds.length), ← Nat.mul_assoc]
    exact Nat.mul_le_mul_right _ (by omega)

/-- Digits write a number with no more digits. -/
theorem value_lt {ds : List Char} (h : ∀ c ∈ ds, c.isDigit = true) : value ds < 10 ^ ds.length := by
  have hlt := foldl_digits_lt h 0
  rwa [Nat.zero_add, Nat.one_mul] at hlt

/-- Digits of a fraction, filled up to nine. -/
theorem value_mul_lt {ds : List Char} (h : ∀ c ∈ ds, c.isDigit = true) (hlength : ds.length ≤ 9) :
    value ds * 10 ^ (9 - ds.length) < 10 ^ 9 :=
  calc value ds * 10 ^ (9 - ds.length)
      < 10 ^ ds.length * 10 ^ (9 - ds.length) :=
        Nat.mul_lt_mul_of_pos_right (value_lt h) (Nat.pow_pos (by decide))
    _ = 10 ^ 9 := by rw [← Nat.pow_add, Nat.add_sub_cancel' hlength]

theorem fraction_lt {s rest : List Char} {n : Nat} (h : fraction s = some (n, rest)) : n < 10 ^ 9 := by
  unfold fraction at h
  split at h
  case h_1 digits =>
    have hdigits : ∀ c ∈ (digits.takeWhile Char.isDigit).take 9, c.isDigit = true := fun c hc =>
      List.all_eq_true.mp List.all_takeWhile c (List.mem_of_mem_take hc)
    have hlength : ((digits.takeWhile Char.isDigit).take 9).length ≤ 9 := List.length_take_le _ _
    dsimp only at h
    split at h
    case isTrue => exact absurd h (by simp)
    case isFalse =>
      obtain ⟨hn, -⟩ := Prod.mk.inj (Option.some.inj h)
      rw [← hn]
      exact value_mul_lt hdigits hlength
  case h_2 =>
    obtain ⟨hn, -⟩ := Prod.mk.inj (Option.some.inj h)
    rw [← hn]
    exact Nat.pow_pos (by decide)

theorem nanos_instant_lt (date : Date) (hour minute second : Nat) {nanos : Nat} (offset : Int)
    (h : nanos < 10 ^ 9) : (instant date hour minute second nanos offset).nanos < 2 * 10 ^ 9 := by
  unfold instant Instant.ofClock
  split
  · dsimp only
    omega
  · dsimp only
    omega

theorem nanos_full_lt {s : List Char} {t : Instant} (h : full s = some t) : t.nanos < 2 * 10 ^ 9 := by
  unfold full at h
  -- Eleven readers stand before that of the fraction.
  iterate 11 obtain ⟨⟨_, _⟩, -, h⟩ := Option.bind_eq_some_iff.mp h
  obtain ⟨⟨nanos, _⟩, hfraction, h⟩ := Option.bind_eq_some_iff.mp h
  obtain ⟨⟨offset, _⟩, -, h⟩ := Option.bind_eq_some_iff.mp h
  obtain ⟨date, -, h⟩ := Option.bind_eq_some_iff.mp h
  rw [← Option.some.inj (Option.ite_none_right_eq_some.mp h).2]
  exact nanos_instant_lt date _ _ _ offset (fraction_lt hfraction)

theorem nanos_plain_lt {zone : Zone} {s : List Char} {t : Instant} (h : plain zone s = some t) :
    t.nanos < 2 * 10 ^ 9 := by
  unfold plain at h
  iterate 10 obtain ⟨⟨_, _⟩, -, h⟩ := Option.bind_eq_some_iff.mp h
  obtain ⟨date, -, h⟩ := Option.bind_eq_some_iff.mp h
  rw [Zone.nanos_of_instant? (Option.ite_none_right_eq_some.mp h).2]
  exact nanos_instant_lt date _ _ _ 0 (by decide)

/-- **An instant that was read holds less than two seconds of nanoseconds.** -/
theorem nanos_lt {zone : Zone} {text : String} {t : Instant} (h : parse zone text = some t) :
    t.nanos < 2 * 10 ^ 9 := by
  unfold parse at h
  dsimp only at h
  cases hfull : full (Text.trimChars text.toList) with
  | some u =>
    rw [hfull] at h
    rw [← Option.some.inj h]
    exact nanos_full_lt hfull
  | none =>
    rw [hfull] at h
    exact nanos_plain_lt h

end Stamp

/-! ## 2. What is written -/

theorem Date.padded_two {n : Nat} (h : n < 100) :
    (padded 2 n).length = 2 ∧ ∀ c ∈ (padded 2 n).toList, Text.isOneCell c = true := by
  have hall : (List.range 100).all
      (fun n => (padded 2 n).length == 2 && (padded 2 n).toList.all Text.isOneCell) = true := by
    decide +kernel
  have hn := List.all_eq_true.mp hall n (List.mem_range.mpr h)
  rwa [Bool.and_eq_true, beq_iff_eq, List.all_eq_true] at hn

/-- **The time of day of an instant without spare seconds takes eight columns**, a character in each. -/
theorem Instant.clock_fits {t : Instant} (h : t.nanos < 2 * 10 ^ 9) :
    t.clock.length = 8 ∧ ∀ c ∈ t.clock.toList, Text.isOneCell c = true := by
  have hday : (t.seconds % 86400).toNat < 86400 := by omega
  unfold clock
  dsimp only
  generalize (t.seconds % 86400).toNat = s at hday
  obtain ⟨hhour, hhours⟩ := Date.padded_two (n := s / 3600) (by omega)
  obtain ⟨hminute, hminutes⟩ := Date.padded_two (n := s / 60 % 60) (by omega)
  obtain ⟨hsecond, hseconds⟩ := Date.padded_two (n := s % 60 + t.nanos / 1000000000) (by omega)
  have hcolon : ∀ c ∈ ":".toList, Text.isOneCell c = true := List.all_eq_true.mp (by decide)
  constructor
  · rw [String.length_append, String.length_append, String.length_append, String.length_append, hhour, hminute,
      hsecond]
    rfl
  · intro c hc
    simp only [String.toList_append, List.mem_append] at hc
    rcases hc with (((hc | hc) | hc) | hc) | hc
    · exact hhours c hc
    · exact hcolon c hc
    · exact hminutes c hc
    · exact hcolon c hc
    · exact hseconds c hc

end LiveLog
