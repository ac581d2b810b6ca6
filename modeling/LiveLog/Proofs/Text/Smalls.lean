import LiveLog.Text.Lower
import Mathlib.Data.List.Infix

/-!
# Words in small letters

A text is not put in small letters character by character. What becomes of a sigma depends on the letters
around it, so `lower (a ++ b)` need not be `lower a ++ lower b`, and a text can look different from the way it
looks inside a longer one. For a word without a sigma that makes no difference: it occurs in the text in small
letters exactly if it occurs in the small forms of the characters put side by side (`infix_lower_iff`), and
these are the same in every place.

The two sigmas are told apart by nothing else, so the proof looks at both texts with the one written for the
other (`plainSigma`). There they are equal, and a word without a sigma occurs there if and only if it did
before.
-/

namespace LiveLog.Text

/-- The sigma of the end of a word is written like the one inside. -/
def plainSigma (c : Char) : Char := if c = 'ς' then 'σ' else c

/-- A word without a sigma. -/
def HasNoSigma (word : List Char) : Prop := ∀ c ∈ word, c ≠ 'σ' ∧ c ≠ 'ς'

theorem plainSigma_smallSigma (before after : List Char) : plainSigma (smallSigma before after) = 'σ' := by
  unfold smallSigma
  split <;> decide

theorem small_sigma : small 'Σ' = ['σ'] := by decide +kernel

theorem map_plainSigma_lowerFrom (before cs : List Char) :
    (lowerFrom before cs).map plainSigma = (cs.flatMap small).map plainSigma := by
  induction cs generalizing before with
  | nil => rfl
  | cons c rest ih =>
    unfold lowerFrom
    rw [List.flatMap_cons, List.map_append, List.map_append, ih]
    by_cases hc : c = 'Σ'
    · subst hc
      rw [small_sigma]
      simp [plainSigma_smallSigma]
      decide
    · simp [hc]

theorem eq_of_plainSigma_eq {c d : Char} (hd : d ≠ 'σ') (h : plainSigma c = d) : c = d := by
  unfold plainSigma at h
  split at h
  · exact absurd h.symm hd
  · exact h

theorem map_plainSigma_eq_iff {word : List Char} (hword : HasNoSigma word) (l : List Char) :
    l.map plainSigma = word ↔ l = word := by
  induction word generalizing l with
  | nil => simp
  | cons d rest ih =>
    have hrest : HasNoSigma rest := fun c hc => hword c (List.mem_cons_of_mem d hc)
    obtain ⟨hinside, hend⟩ := hword d List.mem_cons_self
    cases l with
    | nil => simp
    | cons c cs =>
      rw [List.map_cons, List.cons.injEq, List.cons.injEq, ih hrest]
      constructor
      · rintro ⟨hc, hcs⟩
        exact ⟨eq_of_plainSigma_eq hinside hc, hcs⟩
      · rintro ⟨rfl, hcs⟩
        exact ⟨if_neg hend, hcs⟩

theorem infix_map_plainSigma_iff {word : List Char} (hword : HasNoSigma word) (l : List Char) :
    word <:+: l.map plainSigma ↔ word <:+: l := by
  rw [List.infix_map_iff]
  constructor
  · rintro ⟨part, hpart, heq⟩
    rwa [← (map_plainSigma_eq_iff hword part).mp heq.symm]
  · intro hinfix
    exact ⟨word, hinfix, ((map_plainSigma_eq_iff hword word).mpr rfl).symm⟩

/-- **A word without a sigma occurs in a text in small letters** exactly if it occurs in the small forms of
    the characters. -/
theorem infix_lower_iff {word : List Char} (hword : HasNoSigma word) (s : String) :
    word <:+: (lower s).toList ↔ word <:+: s.toList.flatMap small := by
  unfold lower
  rw [String.toList_ofList, ← infix_map_plainSigma_iff hword, map_plainSigma_lowerFrom,
    infix_map_plainSigma_iff hword]

example : lower "ΣΟΦΟΣ" ++ lower "Α" = "σοφοςα" ∧ lower ("ΣΟΦΟΣ" ++ "Α") = "σοφοσα" := by decide +kernel

end LiveLog.Text
