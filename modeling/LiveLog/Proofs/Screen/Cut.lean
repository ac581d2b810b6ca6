import LiveLog.Proofs.Screen.Table
import LiveLog.Proofs.View.Search

/-!
# The longest start that fits

A text is cut at its first character that does not fit. This says nothing yet about starts that go beyond it:
after a wide character that does not fit there may be marks of no column, and a search for the longest start has
to look at all of them. It is **because no character takes less than no column** that the first one that does
not fit settles all longer starts (`Text.cells_le_of_isPrefix`), and it is because the cut asks for more than
fits, not for as much as fits, that marks and controls behind the last column are kept.

So the cut is told by one equivalence: of the starts of a text, those that fit are the starts of what is kept.
-/

namespace LiveLog
namespace Row

/-! ## 1. Starts of a text -/

/-- What a cut leaves out, if anything, begins with a character that did not fit any more. -/
theorem fitting_eq_or_next_exceeds (width used : Nat) (cs : List Char) :
    fitting width used cs = cs ∨
      ∃ c rest, cs = fitting width used cs ++ c :: rest ∧
        width < used + Text.cells (fitting width used cs ++ [c]) := by
  induction cs generalizing used with
  | nil => exact Or.inl rfl
  | cons c cs ih =>
    rw [fitting]
    split
    case isTrue hexceeds =>
      refine Or.inr ⟨c, cs, rfl, ?_⟩
      rw [List.nil_append, Text.cells_cons, Text.cells_nil, Nat.add_zero]
      exact hexceeds
    case isFalse =>
      rcases ih (used + Text.charColumns c) with hall | ⟨d, rest, hrest, hexceeds⟩
      · exact Or.inl (congrArg (c :: ·) hall)
      · refine Or.inr ⟨d, rest, congrArg (c :: ·) hrest, ?_⟩
        rw [List.cons_append, Text.cells_cons, ← Nat.add_assoc]
        exact hexceeds

/-- **Of the starts of some characters, those that fit are the starts of what is kept.** -/
theorem fits_iff_prefix_fitting {width used : Nat} (hused : used ≤ width) {start cs : List Char}
    (h : start <+: cs) : used + Text.cells start ≤ width ↔ start <+: fitting width used cs := by
  constructor
  · intro hfits
    rcases fitting_eq_or_next_exceeds width used cs with hall | ⟨c, rest, hrest, hexceeds⟩
    · rwa [hall]
    · -- A start is within what is kept, or it takes in the character that did not fit.
      have hnext : fitting width used cs ++ [c] <+: cs := ⟨rest, by rw [List.append_assoc]; exact hrest.symm⟩
      rcases List.prefix_or_prefix_of_prefix h hnext with hshort | hlong
      · rcases List.prefix_concat_iff.mp hshort with rfl | hkept
        · omega
        · exact hkept
      · have hle := Text.cells_le_of_isPrefix hlong
        omega
  · intro hkept
    have hle := Text.cells_le_of_isPrefix hkept
    have hroom := cells_fitting_le cs hused
    omega

/-! ## 2. Cut texts -/

theorem fits_iff_prefix_truncate {text : String} (width : Nat) {start : List Char} (h : start <+: text.toList) :
    Text.cells start ≤ width ↔ start <+: (truncate text width).toList := by
  have hiff := fits_iff_prefix_fitting (Nat.zero_le width) h
  rwa [Nat.zero_add, ← toList_truncate] at hiff

theorem truncate_eq_or_next_exceeds (text : String) (width : Nat) :
    truncate text width = text ∨
      ∃ c rest, text.toList = (truncate text width).toList ++ c :: rest ∧
        width < Text.cells ((truncate text width).toList ++ [c]) := by
  have hcases := fitting_eq_or_next_exceeds width 0 text.toList
  simp only [Nat.zero_add, ← toList_truncate] at hcases
  exact hcases.imp String.toList_inj.mp id

/-- Characters of no column behind what is kept are kept too. -/
theorem eq_nil_of_cells_eq_zero {text : String} {width : Nat} {more : List Char}
    (h : (truncate text width).toList ++ more <+: text.toList) (hnone : Text.cells more = 0) : more = [] := by
  have hfits : Text.cells ((truncate text width).toList ++ more) ≤ width := by
    rw [Text.cells_append, hnone, Nat.add_zero]
    exact cells_truncate_le text width
  have hkept := (fits_iff_prefix_truncate width h).mp hfits
  have hlength := hkept.length_le
  rw [List.length_append] at hlength
  exact List.eq_nil_of_length_eq_zero (by omega)

theorem charColumns_of_isControl {c : Char} (h : Text.isControl c = true) : Text.charColumns c = 0 := if_pos h

theorem cells_eq_zero_of_controls {cs : List Char}
    (h : ∀ c ∈ cs, Text.isControl c = true ∨ Text.charColumns c = 0) : Text.cells cs = 0 := by
  induction cs with
  | nil => rfl
  | cons c cs ih =>
    have hown : Text.charColumns c = 0 := (h c List.mem_cons_self).elim charColumns_of_isControl id
    rw [Text.cells_cons, hown, ih fun d hd => h d (List.mem_cons_of_mem c hd)]

/-- **A cut text is the longest start of the text that fits**, for every text and every number of columns.

    It is a start of the text, it ends at a character boundary of it, and it fits. It is the whole text, or the
    next character would not fit any more. Of all starts of the text those that fit are the starts of it, so every
    longer one is too wide; and characters of no column that follow it in the text, controls among them, belong to
    it. -/
theorem truncate_is_longest_fit (text : String) (width : Nat) :
    let kept := truncate text width
    kept.toList <+: text.toList ∧
    String.Pos.Raw.IsValid text ⟨kept.utf8ByteSize⟩ ∧
    Text.cells kept.toList ≤ width ∧
    (kept = text ∨ ∃ c rest, text.toList = kept.toList ++ c :: rest ∧
      width < Text.cells (kept.toList ++ [c])) ∧
    (∀ start, start <+: text.toList → (Text.cells start ≤ width ↔ start <+: kept.toList)) ∧
    (∀ more, kept.toList ++ more <+: text.toList →
      (∀ c ∈ more, Text.isControl c = true ∨ Text.charColumns c = 0) → more = []) := by
  intro kept
  refine ⟨truncate_isPrefix text width, ?_, cells_truncate_le text width, truncate_eq_or_next_exceeds text width,
    fun start => fits_iff_prefix_truncate width, ?_⟩
  · obtain ⟨rest, hrest⟩ := truncate_isPrefix text width
    have hsize := Search.utf8ByteSize_ofList kept.toList
    rw [String.ofList_toList] at hsize
    rw [hsize]
    exact Search.isValid_bytes hrest.symm
  · intro more hmore hnone
    exact eq_nil_of_cells_eq_zero hmore (cells_eq_zero_of_controls hnone)

/-- The mark and the control behind the wide character take no column, and the next wide one takes two. -/
example : truncate "日\u0301\t本" 3 = "日\u0301\t" := by decide +kernel

end Row
end LiveLog
