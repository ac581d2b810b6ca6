import LiveLog.Json.Number

/-!
# Whole numbers in text

A number literal is a whole number from zero on in one case only: it is digits alone, without sign, point or
exponent, and what the digits write fits a word (`value?_eq_natural_iff`). Reading takes the digits one by
one and stops at the one that leaves the word, so what has to be shown is that it stops for no other
reason. In the other direction, the digits that are written for a number write that number.
-/

namespace LiveLog
namespace NumberText

theorem number_toString (n : Nat) : number (toString n).toList = n := by
  have hdigits := @Nat.ofDigitChars_ten_toDigits n
  rw [Nat.ofDigitChars_eq_foldl] at hdigits
  rw [Nat.toString_eq_ofList_toDigits, String.toList_ofList, number]
  simp only [Nat.mul_comm _ 10]
  exact hdigits

/-! ## 1. Digits that fit a word -/

/-- What a number becomes by further digits. -/
def appended (n : Nat) (ds : List Char) : Nat := ds.foldl (fun n c => n * 10 + digit c) n

theorem le_appended (n : Nat) (ds : List Char) : n ≤ appended n ds := by
  induction ds generalizing n with
  | nil => exact Nat.le_refl n
  | cons c rest ih =>
    have hrest : n * 10 + digit c ≤ appended n (c :: rest) := ih (n * 10 + digit c)
    omega

theorem gather_of_le {n : Nat} {ds : List Char} (h : appended n ds ≤ maxWord) :
    gather n ds = (appended n ds, []) := by
  induction ds generalizing n with
  | nil => rfl
  | cons c rest ih =>
    have hrest : n * 10 + digit c ≤ appended n (c :: rest) := le_appended (n * 10 + digit c) rest
    rw [gather, if_neg (by omega)]
    exact ih h

theorem gather_of_lt {n : Nat} {ds : List Char} (hn : n ≤ maxWord) (h : maxWord < appended n ds) :
    (gather n ds).2 ≠ [] := by
  induction ds generalizing n with
  | nil => exact absurd h (Nat.not_lt.mpr hn)
  | cons c rest ih =>
    rw [gather]
    by_cases hnext : maxWord < n * 10 + digit c
    · rw [if_pos hnext]
      exact List.cons_ne_nil c rest
    · rw [if_neg hnext]
      exact ih (Nat.le_of_not_lt hnext) h

/-! ## 2. The value of a literal -/

theorem real_ne_natural (minus : Bool) (significand : Nat) (e : Int) (n : Nat) :
    real minus significand e ≠ some (.natural n) := by
  rw [real]
  cases scale (UInt64.ofNat significand).toFloat e 8 <;> simp

/-- Digits alone, with or without a sign. -/
theorem value?_of_digits {t : NumberText} (hfraction : t.fraction = none) (hexponent : t.exponent = none)
    (hle : number t.whole ≤ maxWord) :
    t.value? =
      if !t.minus then some (.natural (number t.whole))
      else if number t.whole == 0 || 0x8000000000000000 < number t.whole then
        real true (number t.whole) 0
      else some (.negative (number t.whole)) := by
  have hgather : gather 0 t.whole = (number t.whole, []) := gather_of_le hle
  rw [value?, hgather, hfraction, hexponent]

/-- Anything else that has a value is a double. -/
theorem value?_ne_natural {t : NumberText}
    (h : ¬ (t.fraction = none ∧ t.exponent = none ∧ number t.whole ≤ maxWord)) (n : Nat) :
    t.value? ≠ some (.natural n) := by
  rw [value?]
  dsimp only
  split
  case h_1 hfraction hexponent hdropped =>
    have hlt : maxWord < number t.whole := Nat.lt_of_not_le fun hle => h ⟨hfraction, hexponent, hle⟩
    exact absurd hdropped (gather_of_lt (Nat.zero_le _) hlt)
  case h_2 =>
    split
    · exact real_ne_natural _ _ _ n
    · split
      · split
        · simp
        · exact real_ne_natural _ _ _ n
      · exact real_ne_natural _ _ _ n

/-- **Which literals are whole numbers from zero on.** -/
theorem value?_eq_natural_iff (t : NumberText) (n : Nat) :
    t.value? = some (.natural n) ↔
      t.minus = false ∧ t.fraction = none ∧ t.exponent = none ∧ number t.whole = n ∧ n ≤ maxWord := by
  by_cases h : t.fraction = none ∧ t.exponent = none ∧ number t.whole ≤ maxWord
  · obtain ⟨hfraction, hexponent, hle⟩ := h
    rw [value?_of_digits hfraction hexponent hle]
    cases hminus : t.minus with
    | false =>
      simp only [Bool.not_false, if_true, Option.some.injEq, Number.natural.injEq, hfraction, hexponent,
        true_and]
      constructor
      · intro hn
        exact ⟨hn, hn ▸ hle⟩
      · intro hn
        exact hn.1
    | true =>
      simp only [Bool.not_true, Bool.false_eq_true, Bool.true_eq_false, if_false, false_and, iff_false]
      split
      · exact real_ne_natural _ _ _ n
      · simp
  · constructor
    · intro hvalue
      exact absurd hvalue (value?_ne_natural h n)
    · rintro ⟨-, hfraction, hexponent, rfl, hle⟩
      exact absurd ⟨hfraction, hexponent, hle⟩ h

end NumberText
end LiveLog
