import LiveLog.Text.Blank
import LiveLog.Text.Case
import Mathlib

/-!
# Capitals

Levels are compared in capitals, and two things have to hold of capitals for that to mean something:
**what is in capitals already stays as it is** (`upper_upper`), and **blanks neither come nor go**
(`trim_upper`). Neither can be seen from how a text is put in capitals. Both are properties of the tables,
of some 1500 letters and what becomes of them, and a row that is mistyped can break either.

Everything about the tables that is used here is read off three comparisons of sets of numbers, the
letters that a table moves, the letters that it moves them to, and the blanks. Looking up each letter in
each row would do too, but takes minutes. A set of numbers is written as one number instead, with a
bit for each (`mask`), and two sets are compared in one operation.
-/

namespace LiveLog.Text

/-! ## 1. Sets of numbers -/

/-- A set of numbers as the bits of one number. -/
def mask (ns : List Nat) : Nat := ns.foldr (fun n m => 1 <<< n ||| m) 0

theorem testBit_mask (ns : List Nat) (k : Nat) : (mask ns).testBit k = decide (k ∈ ns) := by
  induction ns with
  | nil => simp [mask]
  | cons n rest ih =>
    have hcons : mask (n :: rest) = 1 <<< n ||| mask rest := rfl
    rw [hcons, Nat.testBit_or, ih, Nat.shiftLeft_eq, Nat.one_mul, Nat.testBit_two_pow]
    by_cases hn : n = k
    · simp [hn]
    · simp [hn, Ne.symm hn]

theorem not_mem_of_mask {as bs : List Nat} (h : mask as &&& mask bs = 0) {n : Nat} (ha : n ∈ as) :
    n ∉ bs := by
  intro hb
  have hbit : (mask as &&& mask bs).testBit n = true := by
    rw [Nat.testBit_and, testBit_mask, testBit_mask, decide_eq_true ha, decide_eq_true hb]
    rfl
  rw [h, Nat.zero_testBit] at hbit
  exact absurd hbit Bool.false_ne_true

/-! ## 2. The tables -/

/-- The letters that a row moves. -/
def Run.letters : Run → List Nat
  | (first, last, step, _) => (List.range ((last - first) / step + 1)).map fun k => first + step * k

/-- The letters that a row moves them to. -/
def Run.images : Run → List Nat
  | (first, last, step, image) => (List.range ((last - first) / step + 1)).map fun k => image + step * k

theorem Run.mem_of_moved? {r : Run} {n m : Nat} (h : r.moved? n = some m) :
    n ∈ r.letters ∧ m ∈ r.images := by
  obtain ⟨first, last, step, image⟩ := r
  rw [Run.moved?] at h
  split at h
  case isFalse => exact absurd h (by simp)
  case isTrue hin =>
    simp only [Bool.and_eq_true, decide_eq_true_eq, beq_iff_eq] at hin
    obtain ⟨⟨hfirst, hlast⟩, hstep⟩ := hin
    obtain rfl := Option.some.inj h
    have hplace : (n - first) / step ∈ List.range ((last - first) / step + 1) :=
      List.mem_range.mpr (Nat.lt_succ_of_le (Nat.div_le_div_right (Nat.sub_le_sub_right hlast first)))
    have hback : step * ((n - first) / step) = n - first := Nat.mul_div_cancel' (Nat.dvd_of_mod_eq_zero hstep)
    refine ⟨List.mem_map.mpr ⟨_, hplace, ?_⟩, List.mem_map.mpr ⟨_, hplace, ?_⟩⟩
    · rw [hback, Nat.add_sub_cancel' hfirst]
    · rw [hback]

/-- The letters beyond ASCII whose capital form is another one. -/
def movedLetters : List Nat := capitalRuns.flatMap Run.letters ++ capitalSequences.map (·.1)

/-- What their capital forms are. -/
def capitalForms : List (List Nat) :=
  (capitalRuns.flatMap Run.images).map (fun n => [n]) ++ capitalSequences.map (·.2)

/-- The small letters of ASCII. -/
def asciiSmalls : List Nat := List.range' 0x61 26

/-- The white space. -/
def blanks : List Nat :=
  List.range' 0x9 5 ++ [0x20, 0x85, 0xA0, 0x1680] ++ List.range' 0x2000 11 ++
    [0x2028, 0x2029, 0x202F, 0x205F, 0x3000]

/-- **A capital form holds nothing that has another capital form, and no blank.** -/
theorem capitalForms_settled :
    mask capitalForms.flatten &&& mask (movedLetters ++ asciiSmalls ++ blanks) = 0 := by
  decide +kernel

theorem movedLetters_not_blank : mask movedLetters &&& mask blanks = 0 := by
  decide +kernel

/-- Every capital form has a letter that the word `ALL` has not. -/
theorem capitalForms_not_all : ∀ ns ∈ capitalForms, ∃ n ∈ ns, n ≠ 0x41 ∧ n ≠ 0x4C := by
  have hall : capitalForms.all (fun ns => ns.any fun n => !(n == 0x41 || n == 0x4C)) = true := by
    decide +kernel
  intro ns hns
  simpa using List.all_eq_true.mp hall ns hns

/-! ## 3. The capital form of a character -/

theorem isBlank_iff {c : Char} : isBlank c = true ↔ c.toNat ∈ blanks := by
  simp only [isBlank, blanks, Bool.or_eq_true, Bool.and_eq_true, decide_eq_true_eq, beq_iff_eq,
    List.mem_append, List.mem_range'_1, List.mem_cons, List.not_mem_nil, or_false]
  omega

theorem isLower_iff {c : Char} : c.isLower = true ↔ c.toNat ∈ asciiSmalls := by
  have hrange : c.isLower = true ↔ 0x61 ≤ c.toNat ∧ c.toNat ≤ 0x7A := by
    rw [Char.isLower, Bool.and_eq_true, decide_eq_true_eq, decide_eq_true_eq, ge_iff_le,
      UInt32.le_iff_toNat_le, UInt32.le_iff_toNat_le]
    rfl
  rw [hrange, asciiSmalls, List.mem_range'_1]
  omega

theorem toUpper_eq_self {c : Char} (h : c.toNat ∉ asciiSmalls) : c.toUpper = c :=
  Char.toUpper_eq_of_not_isLower fun hlower => h (isLower_iff.mp hlower)

theorem toNat_toUpper_lt {c : Char} (h : c.toNat < 0x80) : c.toUpper.toNat < 0x80 := by
  by_cases hlower : c.isLower = true
  · rw [Char.toUpper_eq_of_isLower hlower, Char.toNat_ofNat]
    split <;> omega
  · rw [Char.toUpper_eq_of_not_isLower hlower]
    exact h

theorem isUpper_iff {c : Char} : c.isUpper = true ↔ 0x41 ≤ c.toNat ∧ c.toNat ≤ 0x5A := by
  rw [Char.isUpper, decide_eq_true_eq, ge_iff_le, UInt32.le_iff_toNat_le, UInt32.le_iff_toNat_le]
  rfl

theorem toLower_eq_self {c : Char} (h : 0x80 ≤ c.toNat) : c.toLower = c := by
  refine Char.toLower_eq_of_not_isUpper fun hupper => ?_
  obtain ⟨-, hlast⟩ := isUpper_iff.mp hupper
  omega

theorem toNat_toLower_lt {c : Char} (h : c.toNat < 0x80) : c.toLower.toNat < 0x80 := by
  by_cases hupper : c.isUpper = true
  · obtain ⟨-, hlast⟩ := isUpper_iff.mp hupper
    rw [Char.toLower_eq_of_isUpper hupper, Char.toNat_ofNat]
    split <;> omega
  · rw [Char.toLower_eq_of_not_isUpper hupper]
    exact h

theorem capital_of_ascii {c : Char} (h : c.toNat < 0x80) : capital c = [c.toUpper] := if_pos h

/-- **The three cases of a capital form**: an ASCII letter, a character that no table moves, and one that a
    table moves to a form that it has. -/
theorem capital_cases (c : Char) :
    (c.toNat < 0x80 ∧ capital c = [c.toUpper]) ∨ (0x80 ≤ c.toNat ∧ capital c = [c]) ∨
    (0x80 ≤ c.toNat ∧ c.toNat ∈ movedLetters ∧ ∃ ns ∈ capitalForms, capital c = ns.map Char.ofNat) := by
  rcases Nat.lt_or_ge c.toNat 0x80 with hascii | hbeyond
  · exact Or.inl ⟨hascii, capital_of_ascii hascii⟩
  · right
    rw [capital, if_neg (Nat.not_lt.mpr hbeyond)]
    cases hlookup : capitalSequences.lookup c.toNat with
    | some ns =>
      obtain ⟨before, after, htable, -⟩ := List.lookup_eq_some_iff.mp hlookup
      have hrow : (c.toNat, ns) ∈ capitalSequences := by
        rw [htable]
        exact List.mem_append_right before List.mem_cons_self
      refine Or.inr ⟨hbeyond, List.mem_append_right _ ?_, ns, List.mem_append_right _ ?_, rfl⟩
      · exact List.mem_map_of_mem (f := fun x => x.1) hrow
      · exact List.mem_map_of_mem (f := fun x => x.2) hrow
    | none =>
      dsimp only
      rw [Run.image]
      cases hmoved : capitalRuns.findSome? (Run.moved? · c.toNat) with
      | none => exact Or.inl ⟨hbeyond, rfl⟩
      | some m =>
        obtain ⟨r, hr, hm⟩ := List.exists_of_findSome?_eq_some hmoved
        obtain ⟨hletter, himage⟩ := Run.mem_of_moved? hm
        refine Or.inr ⟨hbeyond, List.mem_append_left _ ?_, [m], List.mem_append_left _ ?_, rfl⟩
        · exact List.mem_flatMap.mpr ⟨r, hr, hletter⟩
        · exact List.mem_map_of_mem (List.mem_flatMap.mpr ⟨r, hr, himage⟩)

theorem capital_of_not_moved {c : Char} (hmoved : c.toNat ∉ movedLetters) (hsmall : c.toNat ∉ asciiSmalls) :
    capital c = [c] := by
  rcases capital_cases c with ⟨-, hcapital⟩ | ⟨-, hcapital⟩ | ⟨-, hmoves, -⟩
  · rw [hcapital, toUpper_eq_self hsmall]
  · exact hcapital
  · exact absurd hmoves hmoved

theorem capital_toLower (c : Char) : capital c.toLower = capital c := by
  rcases Nat.lt_or_ge c.toNat 0x80 with hascii | hbeyond
  · rw [capital_of_ascii hascii, capital_of_ascii (toNat_toLower_lt hascii),
      Char.toUpper_toLower_eq_toUpper]
  · rw [toLower_eq_self hbeyond]

theorem settled_of_mem_form {ns : List Nat} (hns : ns ∈ capitalForms) {n : Nat} (hn : n ∈ ns) :
    (Char.ofNat n).toNat ∉ movedLetters ++ asciiSmalls ++ blanks := by
  rw [Char.toNat_ofNat]
  -- A number that is no character stands for the character 0.
  split
  · exact not_mem_of_mask capitalForms_settled (List.mem_flatten.mpr ⟨ns, hns, hn⟩)
  · decide +kernel

theorem capital_ne_nil (c : Char) : capital c ≠ [] := by
  rcases capital_cases c with ⟨-, hcapital⟩ | ⟨-, hcapital⟩ | ⟨-, -, ns, hns, hcapital⟩
  · simp [hcapital]
  · simp [hcapital]
  · obtain ⟨n, hn, -⟩ := capitalForms_not_all ns hns
    rw [hcapital]
    exact List.ne_nil_of_mem (List.mem_map_of_mem hn)

theorem exists_mem_capital_not_all {c : Char} (hbeyond : 0x80 ≤ c.toNat) :
    ∃ d ∈ capital c, d ≠ 'A' ∧ d ≠ 'L' := by
  have hother : ∀ {d : Char}, d.toNat ≠ 0x41 → d.toNat ≠ 0x4C → d ≠ 'A' ∧ d ≠ 'L' := by
    intro d ha hl
    exact ⟨fun hd => ha (by rw [hd]; rfl), fun hd => hl (by rw [hd]; rfl)⟩
  rcases capital_cases c with ⟨hascii, -⟩ | ⟨-, hcapital⟩ | ⟨-, -, ns, hns, hcapital⟩
  · omega
  · exact ⟨c, by simp [hcapital], hother (by omega) (by omega)⟩
  · obtain ⟨n, hn, ha, hl⟩ := capitalForms_not_all ns hns
    refine ⟨Char.ofNat n, ?_, hother ?_ ?_⟩
    · rw [hcapital]
      exact List.mem_map_of_mem hn
    · rw [Char.toNat_ofNat]
      split <;> omega
    · rw [Char.toNat_ofNat]
      split <;> omega

/-- **A capital is its own capital form.** -/
theorem capital_of_mem_capital {c d : Char} (hd : d ∈ capital c) : capital d = [d] := by
  rcases capital_cases c with ⟨hascii, hcapital⟩ | ⟨-, hcapital⟩ | ⟨-, -, ns, hns, hcapital⟩
  · rw [hcapital, List.mem_singleton] at hd
    rw [hd, capital_of_ascii (toNat_toUpper_lt hascii), Char.toUpper_toUpper_eq_toUpper]
  · rw [hcapital, List.mem_singleton] at hd
    rw [hd, hcapital]
  · rw [hcapital] at hd
    obtain ⟨n, hn, rfl⟩ := List.mem_map.mp hd
    have hsettled := settled_of_mem_form hns hn
    rw [List.mem_append, List.mem_append, not_or, not_or] at hsettled
    exact capital_of_not_moved hsettled.1.1 hsettled.1.2

theorem capital_of_isBlank {c : Char} (h : isBlank c = true) : capital c = [c] := by
  have hblank : c.toNat ∈ blanks := isBlank_iff.mp h
  refine capital_of_not_moved (fun hmoved => not_mem_of_mask movedLetters_not_blank hmoved hblank) ?_
  have hapart : ∀ n ∈ blanks, n ∉ asciiSmalls := by decide +kernel
  exact hapart c.toNat hblank

/-- A blank in a capital form is the blank that it is the form of. -/
theorem isBlank_of_mem_capital {c d : Char} (hd : d ∈ capital c) (h : isBlank d = true) :
    isBlank c = true := by
  rcases capital_cases c with ⟨hascii, hcapital⟩ | ⟨-, hcapital⟩ | ⟨-, -, ns, hns, hcapital⟩
  · rw [hcapital, List.mem_singleton] at hd
    by_cases hlower : c.isLower = true
    · have hapart : ∀ n ∈ asciiSmalls, (Char.ofNat (n - 32)).toNat ∉ blanks := by decide +kernel
      rw [hd, Char.toUpper_eq_of_isLower hlower] at h
      exact absurd (isBlank_iff.mp h) (hapart c.toNat (isLower_iff.mp hlower))
    · rwa [hd, Char.toUpper_eq_of_not_isLower hlower] at h
  · rw [hcapital, List.mem_singleton] at hd
    rwa [hd] at h
  · rw [hcapital] at hd
    obtain ⟨n, hn, rfl⟩ := List.mem_map.mp hd
    have hsettled := settled_of_mem_form hns hn
    exact absurd (List.mem_append_right _ (isBlank_iff.mp h)) hsettled

/-! ## 4. Texts -/

/-- **Capitals are in capitals already.** -/
theorem upper_upper (s : String) : upper (upper s) = upper s := by
  have hfixed : ∀ cs : List Char, (∀ d ∈ cs, capital d = [d]) → cs.flatMap capital = cs := by
    intro cs hcs
    rw [List.flatMap_congr hcs, List.flatMap_singleton']
  rw [upper, upper, String.toList_ofList, hfixed]
  intro d hd
  obtain ⟨c, -, hc⟩ := List.mem_flatMap.mp hd
  exact capital_of_mem_capital hc

/-- What is done to the characters of a text one by one and leaves the blanks where they are. -/
structure KeepsBlanks (f : Char → List Char) : Prop where
  blank : ∀ c, isBlank c = true → f c = [c]
  other : ∀ c, isBlank c = false → f c ≠ [] ∧ ∀ d ∈ f c, isBlank d = false

theorem keepsBlanks_capital : KeepsBlanks capital where
  blank := fun _ hc => capital_of_isBlank hc
  other := by
    intro c hc
    refine ⟨capital_ne_nil c, fun d hd => Bool.eq_false_iff.mpr fun hblank => ?_⟩
    rw [isBlank_of_mem_capital hd hblank] at hc
    exact absurd hc (by decide)

namespace KeepsBlanks

variable {f : Char → List Char}

theorem reverse (h : KeepsBlanks f) : KeepsBlanks (List.reverse ∘ f) where
  blank := fun c hc => by rw [Function.comp_apply, h.blank c hc]; rfl
  other := by
    intro c hc
    obtain ⟨hne, hall⟩ := h.other c hc
    exact ⟨fun hnil => hne (List.reverse_eq_nil_iff.mp hnil), fun d hd => hall d (List.mem_reverse.mp hd)⟩

theorem dropWhile_flatMap (h : KeepsBlanks f) (cs : List Char) :
    (cs.flatMap f).dropWhile isBlank = (cs.dropWhile isBlank).flatMap f := by
  induction cs with
  | nil => rfl
  | cons c rest ih =>
    cases hc : isBlank c with
    | true =>
      rw [List.flatMap_cons, h.blank c hc, List.singleton_append, List.dropWhile_cons_of_pos hc,
        List.dropWhile_cons_of_pos hc, ih]
    | false =>
      obtain ⟨hne, hall⟩ := h.other c hc
      obtain ⟨d, ds, hd⟩ := List.exists_cons_of_ne_nil hne
      have hfirst : ¬ isBlank d = true := by
        rw [hall d (by rw [hd]; exact List.mem_cons_self)]
        exact Bool.false_ne_true
      rw [List.dropWhile_cons_of_neg (by simp [hc]), List.flatMap_cons, hd, List.cons_append,
        List.dropWhile_cons_of_neg hfirst]

theorem trimChars_flatMap (h : KeepsBlanks f) (cs : List Char) :
    trimChars (cs.flatMap f) = (trimChars cs).flatMap f := by
  rw [trimChars, trimChars, h.dropWhile_flatMap, List.reverse_flatMap, h.reverse.dropWhile_flatMap,
    List.reverse_flatMap]
  simp [Function.comp_def]

end KeepsBlanks

/-- **Blanks around a text can go before or after it is put in capitals.** -/
theorem trim_upper (s : String) : trim (upper s) = upper (trim s) := by
  rw [trim, upper, String.toList_ofList, keepsBlanks_capital.trimChars_flatMap, trim, upper,
    String.toList_ofList]

theorem trimChars_trimChars (cs : List Char) : trimChars (trimChars cs) = trimChars cs := by
  have htrim : ∀ l : List Char, trimChars l = (l.dropWhile isBlank).rdropWhile isBlank := fun _ => rfl
  rw [htrim cs]
  have hfront : (cs.dropWhile isBlank).dropWhile isBlank = cs.dropWhile isBlank :=
    List.dropWhile_idempotent _ _
  revert hfront
  generalize cs.dropWhile isBlank = l
  intro hfront
  -- What is left at the front is the front that the blanks were dropped from.
  have hagain : (l.rdropWhile isBlank).dropWhile isBlank = l.rdropWhile isBlank := by
    rw [List.dropWhile_eq_self_iff] at hfront ⊢
    intro hlength
    have hbegins : l.rdropWhile isBlank <+: l := List.rdropWhile_prefix isBlank l
    rw [hbegins.getElem hlength]
    exact hfront (Nat.lt_of_lt_of_le hlength hbegins.length_le)
  rw [htrim, hagain, List.rdropWhile_idempotent]

theorem trim_trim (s : String) : trim (trim s) = trim s := by
  rw [trim, trim, String.toList_ofList, trimChars_trimChars]

end LiveLog.Text
