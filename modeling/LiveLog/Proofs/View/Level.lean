import LiveLog.Proofs.Text.Capitals
import LiveLog.View.Filter

/-!
# Levels

A level is free text, and three places of a view decide when two of them are the same. A filter puts the
level that it keeps in capitals, the whole of Unicode (`levelOf`); it compares the level of a record with
that one up to the case of ASCII letters only (`sameAscii`); and the counters put both in capitals
(`Severity.ofLevel`). Two normal forms are behind the three, and they are not the same.

They never contradict each other: **a filter shows no record of another bucket than its own**
(`severity_of_passes`), whatever letters the levels are made of. What differs in the case of ASCII letters
has one form in capitals (`upper_eq_of_sameAscii`), so the finer comparison refines the coarser.

The finer one refines it too far. The level that a filter keeps has lost the small letters of every
script, and the comparison can take back those of ASCII only, so **a level with a small letter beyond ASCII
passes no filter on itself** (`own_level_passes_iff`, `own_level_hidden`). That is what `sameAscii_upper_iff`
says of one text.
-/

namespace LiveLog
namespace Filter

/-! ## 1. Two ways to forget the case of letters -/

theorem sameAscii_iff {a b : String} :
    sameAscii a b = true ↔ a.toList.map Char.toLower = b.toList.map Char.toLower := beq_iff_eq

/-- What differs in the case of ASCII letters only is the same in capitals. -/
theorem upper_eq_of_sameAscii {a b : String} (h : sameAscii a b = true) : Text.upper a = Text.upper b := by
  have hlower : ∀ cs : List Char, (cs.map Char.toLower).flatMap Text.capital = cs.flatMap Text.capital := by
    intro cs
    rw [List.flatMap_map]
    exact List.flatMap_congr fun c _ => Text.capital_toLower c
  rw [Text.upper, Text.upper, ← hlower a.toList, ← hlower b.toList, sameAscii_iff.mp h]

theorem length_le_flatMap_capital (cs : List Char) : cs.length ≤ (cs.flatMap Text.capital).length := by
  induction cs with
  | nil => exact Nat.le_refl _
  | cons c rest ih =>
    have hpos : 0 < (Text.capital c).length := List.length_pos_of_ne_nil (Text.capital_ne_nil c)
    rw [List.flatMap_cons, List.length_append, List.length_cons]
    omega

theorem toLower_eq_toLower_iff {c d : Char} (h : Text.capital c = [d]) :
    c.toLower = d.toLower ↔ c.toNat < 0x80 ∨ Text.capital c = [c] := by
  rcases Nat.lt_or_ge c.toNat 0x80 with hascii | hbeyond
  · rw [Text.capital_of_ascii hascii] at h
    obtain rfl := (List.cons.inj h).1
    exact ⟨fun _ => Or.inl hascii, fun _ => (Char.toLower_toUpper_eq_toLower c).symm⟩
  · rw [Text.toLower_eq_self hbeyond]
    constructor
    · intro hlower
      have hd : 0x80 ≤ d.toNat := by
        by_contra hascii
        have hlt := Text.toNat_toLower_lt (Nat.lt_of_not_le hascii)
        rw [← hlower] at hlt
        omega
      rw [Text.toLower_eq_self hd] at hlower
      exact Or.inr (by rw [h, hlower])
    · rintro (hascii | hself)
      · omega
      · have hcd : c = d := (List.cons.inj (hself.symm.trans h)).1
        rw [← hcd, Text.toLower_eq_self hbeyond]

theorem map_toLower_eq_iff (cs : List Char) :
    cs.map Char.toLower = (cs.flatMap Text.capital).map Char.toLower ↔
      ∀ c ∈ cs, c.toNat < 0x80 ∨ Text.capital c = [c] := by
  induction cs with
  | nil => simp
  | cons c rest ih =>
    obtain ⟨d, ds, hcapital⟩ := List.exists_cons_of_ne_nil (Text.capital_ne_nil c)
    have hforms : ((c :: rest).flatMap Text.capital).map Char.toLower
        = d.toLower :: (ds.map Char.toLower ++ (rest.flatMap Text.capital).map Char.toLower) := by
      rw [List.flatMap_cons, hcapital, List.map_append, List.map_cons, List.cons_append]
    rw [hforms, List.map_cons, List.cons.injEq, List.forall_mem_cons]
    cases ds with
    | nil => rw [List.map_nil, List.nil_append, ih, toLower_eq_toLower_iff hcapital]
    | cons e es =>
      -- A form of several letters makes the text longer, and nothing makes it shorter again.
      refine ⟨fun h => ?_, fun h => ?_⟩
      · have hlength := congrArg List.length h.2
        have hle := length_le_flatMap_capital rest
        simp only [List.length_append, List.length_map, List.length_cons] at hlength
        omega
      · rcases h.1 with hascii | hself
        · rw [Text.capital_of_ascii hascii] at hcapital
          exact absurd hcapital (by simp)
        · rw [hself] at hcapital
          exact absurd hcapital (by simp)

/-- **A text is its own capitals up to the case of ASCII letters exactly if it has no other letter that
    becomes a capital.** -/
theorem sameAscii_upper_iff (s : String) :
    sameAscii s (Text.upper s) = true ↔ ∀ c ∈ s.toList, c.toNat < 0x80 ∨ Text.capital c = [c] := by
  rw [sameAscii_iff, Text.upper, String.toList_ofList, map_toLower_eq_iff]

/-- No text but the word itself becomes `ALL` in capitals. -/
theorem sameAscii_all_of_upper {s : String} (h : Text.upper s = "ALL") : sameAscii s "all" = true := by
  have hforms : s.toList.flatMap Text.capital = ['A', 'L', 'L'] := by
    have hlist := congrArg String.toList h
    rwa [Text.upper, String.toList_ofList] at hlist
  have hascii : ∀ c ∈ s.toList, c.toNat < 0x80 := by
    intro c hc
    by_contra hbeyond
    obtain ⟨d, hd, ha, hl⟩ := Text.exists_mem_capital_not_all (Nat.le_of_not_lt hbeyond)
    have hmem : d ∈ s.toList.flatMap Text.capital := List.mem_flatMap.mpr ⟨c, hc, hd⟩
    rw [hforms] at hmem
    simp [ha, hl] at hmem
  have hsame : sameAscii s (Text.upper s) = true :=
    (sameAscii_upper_iff s).mpr fun c hc => Or.inl (hascii c hc)
  rw [h, sameAscii_iff] at hsame
  rw [sameAscii_iff, hsame]
  decide

/-! ## 2. Filters and buckets -/

theorem level_withLevel (f : Filter) (level : String) : (f.withLevel (some level)).level = levelOf level := by
  rw [withLevel, Option.bind_some]

theorem levelOf_eq_some_iff {level kept : String} : levelOf level = some kept ↔
    Text.trim level ≠ "" ∧ sameAscii (Text.trim level) "all" = false ∧ kept = Text.upper (Text.trim level) := by
  unfold levelOf
  dsimp only
  split
  case isTrue h =>
    simp only [Bool.or_eq_true, String.isEmpty_iff] at h
    refine ⟨fun hnone => absurd hnone (by simp), ?_⟩
    rintro ⟨hsome, hall, -⟩
    rcases h with hempty | hword
    · exact absurd hempty hsome
    · rw [hall] at hword
      exact absurd hword Bool.false_ne_true
  case isFalse h =>
    simp only [Bool.or_eq_true, String.isEmpty_iff, not_or, Bool.not_eq_true] at h
    constructor
    · intro hkept
      exact ⟨h.1, h.2, (Option.some.inj hkept).symm⟩
    · rintro ⟨-, -, rfl⟩
      rfl

/-- **A level filter shows one bucket.** Whatever else a filter asks for, a record that its level lets
    through counts where the level itself counts, or neither counts anywhere. So no level filter ever
    shows records of two buckets, or of a bucket and of none. -/
theorem severity_of_passes (f : Filter) (level : String) (r : Record)
    (hactive : (f.withLevel (some level)).level ≠ none)
    (hpasses : (f.withLevel (some level)).passes r = true) : r.severity = Severity.ofLevel level := by
  obtain ⟨kept, hkept⟩ := Option.ne_none_iff_exists'.mp hactive
  rw [level_withLevel] at hkept
  obtain ⟨-, -, rfl⟩ := levelOf_eq_some_iff.mp hkept
  have hsame : sameAscii r.level (Text.upper (Text.trim level)) = true := by
    rw [passes, levelPasses, level_withLevel, hkept, Bool.and_eq_true, Bool.and_eq_true] at hpasses
    exact hpasses.1.1
  have hcapitals : Text.upper (Text.trim r.level) = Text.upper (Text.trim level) := by
    calc Text.upper (Text.trim r.level)
        = Text.trim (Text.upper r.level) := (Text.trim_upper r.level).symm
      _ = Text.trim (Text.upper (Text.upper (Text.trim level))) := by rw [upper_eq_of_sameAscii hsame]
      _ = Text.upper (Text.trim level) := by rw [Text.upper_upper, Text.trim_upper, Text.trim_trim]
  rw [Record.severity, Severity.ofLevel, hcapitals, Severity.ofLevel]

/-- The dotless `ı` is an `I` in capitals, so this filter is on `INFO`. -/
theorem severity_of_passes_dotless :
    let r : Record := { timestamp := "", level := "Info", message := "started" }
    (withLevel {} (some " ınfo ")).level = some "INFO" ∧ (withLevel {} (some " ınfo ")).passes r = true ∧
    r.severity = Severity.ofLevel " ınfo " ∧ r.severity = some .info := by
  intro r
  have hlevel : (withLevel {} (some " ınfo ")).level = some "INFO" := by decide +kernel
  have hpasses : (withLevel {} (some " ınfo ")).passes r = true := by decide +kernel
  have hactive : (withLevel {} (some " ınfo ")).level ≠ none := by simp [hlevel]
  exact ⟨hlevel, hpasses, severity_of_passes {} " ınfo " r hactive hpasses, by decide +kernel⟩

/-! ## 3. A filter on the level of a record -/

/-- **A record passes the filter on its own level exactly if that has no small letter beyond ASCII.**

    The record's level has no blanks around it, is not empty and is not the word for all levels; the filter
    is on that level or on any other that is the same in capitals. It keeps the level in capitals, and the
    record's level is compared with that up to ASCII letters: it passes if each of its other characters
    is its own capital form. -/
theorem own_level_passes_iff (r : Record) (level : String) (htrim : Text.trim r.level = r.level)
    (hsome : r.level ≠ "") (hall : sameAscii r.level "all" = false)
    (hcase : Text.upper level = Text.upper r.level) :
    ((ofSearch "").withLevel (some level)).passes r = true ↔
      ∀ c ∈ r.level.toList, c.toNat < 0x80 ∨ Text.capital c = [c] := by
  have hcapitals : Text.upper (Text.trim level) = Text.upper r.level := by
    rw [← Text.trim_upper, hcase, Text.trim_upper, htrim]
  have hkept : levelOf level = some (Text.upper r.level) := by
    refine levelOf_eq_some_iff.mpr ⟨?_, ?_, hcapitals.symm⟩
    · intro hempty
      have hform : Text.upper r.level = "" := by rw [← hcapitals, hempty]; rfl
      have hchars : r.level.toList.flatMap Text.capital = [] := by
        have hlist := congrArg String.toList hform
        rwa [Text.upper, String.toList_ofList] at hlist
      have hle := length_le_flatMap_capital r.level.toList
      rw [hchars, List.length_nil, Nat.le_zero, List.length_eq_zero_iff] at hle
      exact hsome (String.toList_eq_nil_iff.mp hle)
    · -- If the chosen level were the word for all levels, so would the record's be.
      refine Bool.eq_false_iff.mpr fun hword => ?_
      have hform : Text.upper r.level = "ALL" := by
        rw [← hcapitals, upper_eq_of_sameAscii hword]
        decide
      rw [sameAscii_all_of_upper hform] at hall
      exact absurd hall (by decide)
  have hpasses : ((ofSearch "").withLevel (some level)).passes r = sameAscii r.level (Text.upper r.level) := by
    rw [passes, levelPasses, level_withLevel, hkept]
    simp [categoryPasses, searchPasses, withLevel, ofSearch]
  rw [hpasses, sameAscii_upper_iff]

/-- A level in ASCII passes, also when the filter is on another spelling of it. -/
theorem own_level_passes_ascii :
    let r : Record := { timestamp := "", level := "Info", message := "started" }
    Text.trim r.level = r.level ∧ r.level ≠ "" ∧ sameAscii r.level "all" = false ∧
    Text.upper "ınfo" = Text.upper r.level ∧ ((ofSearch "").withLevel (some "ınfo")).passes r = true := by
  intro r
  have htrim : Text.trim r.level = r.level := by decide +kernel
  have hsome : r.level ≠ "" := by decide
  have hall : sameAscii r.level "all" = false := by decide +kernel
  have hchosen : Text.upper "ınfo" = "INFO" := by decide +kernel
  have hrecord : Text.upper r.level = "INFO" := by decide +kernel
  have hcase : Text.upper "ınfo" = Text.upper r.level := hchosen.trans hrecord.symm
  have hchars : r.level.toList = ['I', 'n', 'f', 'o'] := by decide +kernel
  have hascii : ∀ c ∈ r.level.toList, c.toNat < 0x80 := by simp [hchars]
  exact ⟨htrim, hsome, hall, hcase,
    (own_level_passes_iff r "ınfo" htrim hsome hall hcase).mpr fun c hc => Or.inl (hascii c hc)⟩

/-- **A level that its own filter hides**: the filter keeps `DÉBOGAGE`, and `é` is not an ASCII letter. -/
theorem own_level_hidden :
    let r : Record := { timestamp := "", level := "débogage", message := "started" }
    Text.trim r.level = r.level ∧ r.level ≠ "" ∧ sameAscii r.level "all" = false ∧
    ((ofSearch "").withLevel (some r.level)).passes r = false := by
  decide +kernel

end Filter
end LiveLog
