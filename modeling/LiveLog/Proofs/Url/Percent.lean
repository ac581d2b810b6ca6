import LiveLog.Url.Percent

/-!
# What parts of addresses are made of

An escape is a percent sign and two hexadecimal digits, so it brings none of the signs that a part of an
address ends at, and reading takes it back to the byte it was written for (`percentDecode_escapeByte`).
A byte that is left as it is becomes the character of its number. Where texts are put together with a sign
between them, nothing else comes in.
-/

namespace LiveLog.Url

theorem mem_of_mem_intercalate {sep : List Char} {ls : List (List Char)} {c : Char}
    (h : c ∈ List.intercalate sep ls) : c ∈ sep ∨ ∃ l ∈ ls, c ∈ l := by
  induction ls with
  | nil => exact absurd h (by simp)
  | cons l rest ih =>
    cases rest with
    | nil => exact .inr ⟨l, by simp, by simpa using h⟩
    | cons m more =>
      rw [List.intercalate_cons_cons, List.mem_append, List.mem_append] at h
      rcases h with (hl | hsep) | hrest
      · exact .inr ⟨l, by simp, hl⟩
      · exact .inl hsep
      · rcases ih hrest with hsep | ⟨l', hl', hc⟩
        · exact .inl hsep
        · exact .inr ⟨l', List.mem_cons_of_mem l hl', hc⟩

/-! ## 1. Escapes -/

theorem toNat_charOfByte (b : UInt8) : (Char.ofNat b.toNat).toNat = b.toNat := by
  have hvalid : b.toNat.isValidChar := .inl (by have := b.toNat_lt; omega)
  rw [Char.ofNat, dif_pos hvalid]
  rfl

/-- A byte is one of some characters exactly if its character is. -/
theorem isOneOf_iff {chars : List Char} {b : UInt8} :
    isOneOf chars b = true ↔ Char.ofNat b.toNat ∈ chars := by
  rw [isOneOf, List.any_eq_true]
  constructor
  · rintro ⟨c, hc, hb⟩
    rw [beq_iff_eq] at hb
    rw [← hb, Char.ofNat_toNat]
    exact hc
  · intro hb
    exact ⟨_, hb, by rw [beq_iff_eq, toNat_charOfByte]⟩

theorem mem_escapeByte {b : UInt8} {c : Char} (h : c ∈ escapeByte b) :
    c = '%' ∨ ∃ n < 16, c = hexCapital n := by
  have hb := b.toNat_lt
  simp only [escapeByte, List.mem_cons, List.not_mem_nil, or_false] at h
  rcases h with rfl | rfl | rfl
  · exact .inl rfl
  · exact .inr ⟨_, by omega, rfl⟩
  · exact .inr ⟨_, by omega, rfl⟩

/-- What an escaped text consists of. -/
theorem mem_percentEncode {escaped : UInt8 → Bool} {cs : List Char} {c : Char}
    (h : c ∈ percentEncode escaped cs) :
    c = '%' ∨ (∃ n < 16, c = hexCapital n) ∨ ∃ b, escaped b = false ∧ c = Char.ofNat b.toNat := by
  obtain ⟨b, -, hb⟩ := List.mem_flatMap.mp h
  split at hb
  · exact (mem_escapeByte hb).imp_right .inl
  · rename_i hplain
    exact .inr (.inr ⟨b, by simpa using hplain, List.mem_singleton.mp hb⟩)

/-! ## 2. Reading escapes -/

theorem hexValue?_hexCapital : ∀ n < 16, hexValue? (hexCapital n) = some n := by decide

theorem toNat_hexCapital_lt : ∀ n < 16, (hexCapital n).toNat < 0x80 := by decide

theorem percentDecode_cons_of_ne {b : UInt8} (hb : b ≠ 0x25) (rest : List UInt8) :
    percentDecode (b :: rest) = b :: percentDecode rest := by
  rw [percentDecode]
  intro x y rest' heq _
  exact absurd heq hb

/-- **An escape is read as the byte that it was written for.** -/
theorem percentDecode_escapeByte (b : UInt8) (rest : List UInt8) :
    percentDecode ((escapeByte b).map (fun c => UInt8.ofNat c.toNat) ++ rest) = b :: percentDecode rest := by
  have hb := b.toNat_lt
  have hread (n : Nat) (hn : n < 16) : hexByte? (UInt8.ofNat (hexCapital n).toNat) = some n := by
    have hlt := toNat_hexCapital_lt n hn
    rw [hexByte?, UInt8.toNat_ofNat', Nat.mod_eq_of_lt (by omega), Char.ofNat_toNat,
      hexValue?_hexCapital n hn]
  have hvalue : b.toNat / 16 * 16 + b.toNat % 16 = b.toNat := Nat.div_add_mod' b.toNat 16
  rw [escapeByte, List.map_cons, List.map_cons, List.map_singleton,
    show UInt8.ofNat ('%' : Char).toNat = 0x25 from rfl, List.cons_append, List.cons_append,
    List.cons_append, List.nil_append, percentDecode, hread _ (by omega), hread _ (by omega)]
  simp only [hvalue, UInt8.ofNat_toNat]

end LiveLog.Url
