import LiveLog.View.Filter
import Mathlib.Data.List.Basic
import Mathlib.Data.List.Infix
import Mathlib.Data.List.Pairwise

/-!
# What a search finds

A search is carried out twice. `occurs` decides which records are shown, and `spans` says what is marked in
the rows that show them; the two share a comparison and nothing else. This file says what both are looking
for without walking a text: an occurrence is some **consecutive characters that fold, one by one, as the
searched ones do** (`OccursAt`). Folding is the only thing that a search knows about characters, so no
character of a search means anything but itself.

What is marked is a list, and a list of occurrences can be right in many ways. `Scan` has the properties
that leave a single one: the occurrences stand in order without sharing a byte, and every occurrence
starts within one of them. `Scan.unique` is what makes `scan_spansFrom` say everything about the walk.

Positions count bytes, and an occurrence need not have as many bytes as what is searched for: the long `ſ`
has two and the `s` that finds it has one. So no end is ever computed from the query here. A place in a
text determines what stands before it (`append_of_bytes_le`), and the number of characters does the rest.
-/

namespace LiveLog
namespace Search

/-! ## 1. Places in a text -/

theorem bytes_append (a b : List Char) : bytes (a ++ b) = bytes a + bytes b := by
  induction a with
  | nil => exact (Nat.zero_add _).symm
  | cons c cs ih => rw [List.cons_append, bytes, bytes, ih, Nat.add_assoc]

theorem bytes_pos {cs : List Char} (h : cs ≠ []) : 0 < bytes cs := by
  obtain ⟨c, rest, rfl⟩ := List.exists_cons_of_ne_nil h
  exact Nat.add_pos_left c.utf8Size_pos _

/-- Of two cuts through one text the one at the smaller position comes first. -/
theorem append_of_bytes_le {a b c d : List Char} (h : a ++ b = c ++ d) (hle : bytes a ≤ bytes c) :
    ∃ between, c = a ++ between ∧ b = between ++ d := by
  rcases List.append_eq_append_iff.mp h with ⟨between, hc, hb⟩ | ⟨beyond, ha, hd⟩
  · exact ⟨between, hc, hb⟩
  · have hnone : beyond = [] := by
      by_contra hne
      have hpos : 0 < bytes beyond := bytes_pos hne
      rw [ha, bytes_append] at hle
      omega
    rw [hnone, List.append_nil] at ha
    rw [hnone, List.nil_append] at hd
    exact ⟨[], by rw [ha, List.append_nil], by rw [hd, List.nil_append]⟩

theorem append_of_bytes_eq {a b c d : List Char} (h : a ++ b = c ++ d) (heq : bytes a = bytes c) :
    a = c ∧ b = d := by
  obtain ⟨between, hc, hb⟩ := append_of_bytes_le h heq.le
  have hnone : between = [] := by
    by_contra hne
    have hpos : 0 < bytes between := bytes_pos hne
    rw [hc, bytes_append] at heq
    omega
  rw [hnone, List.append_nil] at hc
  rw [hnone, List.nil_append] at hb
  exact ⟨hc.symm, hb⟩

theorem utf8ByteSize_ofList (cs : List Char) : (String.ofList cs).utf8ByteSize = bytes cs := by
  induction cs with
  | nil => rfl
  | cons c rest ih =>
    rw [String.ofList_cons, String.utf8ByteSize_append, String.utf8ByteSize_singleton, ih, bytes]

/-- The byte position behind some characters is a character boundary of every text that they begin. -/
theorem isValid_bytes {text : String} {before after : List Char} (h : text.toList = before ++ after) :
    String.Pos.Raw.IsValid text ⟨bytes before⟩ := by
  rw [String.Pos.Raw.isValid_iff_exists_append]
  refine ⟨String.ofList before, String.ofList after, ?_, ?_⟩
  · rw [← String.ofList_append, ← h, String.ofList_toList]
  · rw [← utf8ByteSize_ofList before]
    rfl

/-! ## 2. Occurrences -/

/-- **An occurrence**, by the byte positions of its start and its end: consecutive characters of the text
    that fold, one by one, as the searched ones do. -/
def OccursAt (query text : List Char) (span : Nat × Nat) : Prop :=
  ∃ before run after, text = before ++ run ++ after ∧ run.map Text.fold = query.map Text.fold ∧
    span = (bytes before, bytes before + bytes run)

theorem length_eq_of_map_fold {run query : List Char} (h : run.map Text.fold = query.map Text.fold) :
    run.length = query.length := by
  rw [← List.length_map (f := Text.fold), h, List.length_map]

theorem startsHere_iff {query text : List Char} : startsHere query text = true ↔
    ∃ run, run <+: text ∧ run.map Text.fold = query.map Text.fold := by
  fun_induction startsHere query text with
  | case1 text => exact ⟨fun _ => ⟨[], List.nil_prefix, rfl⟩, fun _ => rfl⟩
  | case2 q qs =>
    refine ⟨fun h => absurd h Bool.false_ne_true, ?_⟩
    rintro ⟨run, hrun, hfold⟩
    rw [List.prefix_nil.mp hrun] at hfold
    exact absurd hfold (by simp)
  | case3 q qs c cs ih =>
    rw [Bool.and_eq_true, ih]
    constructor
    · rintro ⟨hc, run, hrun, hfold⟩
      refine ⟨c :: run, List.cons_prefix_cons.mpr ⟨rfl, hrun⟩, ?_⟩
      have hsame : Text.fold q = Text.fold c := eq_of_beq hc
      rw [List.map_cons, List.map_cons, hfold, hsame]
    · rintro ⟨run, hrun, hfold⟩
      cases run with
      | nil => exact absurd hfold (by simp)
      | cons d rest =>
        obtain ⟨rfl, hrest⟩ := List.cons_prefix_cons.mp hrun
        obtain ⟨hsame, hfold⟩ := List.cons.inj hfold
        exact ⟨beq_iff_eq.mpr hsame.symm, rest, hrest, hfold⟩

/-- **A text is found exactly if some run of its characters folds as the query does.** -/
theorem occurs_iff {query text : List Char} : occurs query text = true ↔
    ∃ run, run <:+: text ∧ run.map Text.fold = query.map Text.fold := by
  induction text with
  | nil =>
    rw [occurs, List.isEmpty_iff]
    constructor
    · rintro rfl
      exact ⟨[], List.nil_infix, rfl⟩
    · rintro ⟨run, hrun, hfold⟩
      rw [List.infix_nil.mp hrun] at hfold
      exact List.map_eq_nil_iff.mp hfold.symm
  | cons c cs ih =>
    rw [occurs, Bool.or_eq_true, startsHere_iff, ih]
    constructor
    · rintro (⟨run, hrun, hfold⟩ | ⟨run, hrun, hfold⟩)
      · exact ⟨run, hrun.isInfix, hfold⟩
      · exact ⟨run, List.infix_cons hrun, hfold⟩
    · rintro ⟨run, hrun, hfold⟩
      rcases List.infix_cons_iff.mp hrun with hbegins | hbeyond
      · exact Or.inl ⟨run, hbegins, hfold⟩
      · exact Or.inr ⟨run, hbeyond, hfold⟩

theorem exists_occursAt_iff {query text : List Char} :
    (∃ span, OccursAt query text span) ↔ occurs query text = true := by
  rw [occurs_iff]
  constructor
  · rintro ⟨_, before, run, after, htext, hfold, -⟩
    exact ⟨run, ⟨before, after, htext.symm⟩, hfold⟩
  · rintro ⟨run, ⟨before, after, htext⟩, hfold⟩
    exact ⟨_, before, run, after, htext.symm, hfold, rfl⟩

namespace OccursAt

variable {query text : List Char} {s t : Nat × Nat}

theorem start_lt_end (h : OccursAt query text s) (hq : query ≠ []) : s.1 < s.2 := by
  obtain ⟨before, run, after, -, hfold, rfl⟩ := h
  have hrun : run ≠ [] := by
    rintro rfl
    exact hq (List.map_eq_nil_iff.mp hfold.symm)
  exact Nat.lt_add_of_pos_right (bytes_pos hrun)

theorem eq_of_start (hs : OccursAt query text s) (ht : OccursAt query text t) (h : s.1 = t.1) : s = t := by
  obtain ⟨before, run, after, htext, hfold, rfl⟩ := hs
  obtain ⟨before', run', after', htext', hfold', rfl⟩ := ht
  dsimp only at h
  rw [htext, List.append_assoc, List.append_assoc] at htext'
  obtain ⟨-, hrest⟩ := append_of_bytes_eq htext' h
  have hlength : run.length = run'.length :=
    (length_eq_of_map_fold hfold).trans (length_eq_of_map_fold hfold').symm
  have hrun : run = run' := List.append_inj_left hrest hlength
  rw [hrun, h]

/-- What occurs at a place or behind it occurs at that place or behind the next character. -/
theorem here_or_beyond {before rest : List Char} (h : OccursAt query (before ++ rest) s)
    (hstart : bytes before ≤ s.1) :
    startsHere query rest = true ∨ ∃ c cs, rest = c :: cs ∧ bytes (before ++ [c]) ≤ s.1 := by
  obtain ⟨before', run, after, htext, hfold, rfl⟩ := h
  rw [List.append_assoc] at htext
  obtain ⟨between, hbefore, hrest⟩ := append_of_bytes_le htext hstart
  cases between with
  | nil => exact Or.inl (startsHere_iff.mpr ⟨run, ⟨after, hrest.symm⟩, hfold⟩)
  | cons c skipped =>
    refine Or.inr ⟨c, skipped ++ (run ++ after), hrest, ?_⟩
    have hsplit : before' = (before ++ [c]) ++ skipped := by rw [hbefore, List.append_assoc]; rfl
    dsimp only
    rw [hsplit, bytes_append (before ++ [c])]
    exact Nat.le_add_right _ _

theorem isValid {text : String} (h : OccursAt query text.toList s) :
    String.Pos.Raw.IsValid text ⟨s.1⟩ ∧ String.Pos.Raw.IsValid text ⟨s.2⟩ := by
  obtain ⟨before, run, after, htext, -, rfl⟩ := h
  have hstart : text.toList = before ++ (run ++ after) := by rw [htext, List.append_assoc]
  refine ⟨isValid_bytes hstart, ?_⟩
  rw [← bytes_append]
  exact isValid_bytes htext

end OccursAt

/-! ## 3. Scans -/

/-- **The leftmost occurrences from a position on that do not overlap.** They stand in order, and what
    starts at the position or behind it starts within one of them: not before the first, not after the
    last, and not in the gap between two. -/
structure Scan (query text : List Char) (start : Nat) (found : List (Nat × Nat)) : Prop where
  occurs : ∀ s ∈ found, OccursAt query text s
  ahead : ∀ s ∈ found, start ≤ s.1
  ordered : found.Pairwise fun a b => a.2 ≤ b.1
  leftmost : ∀ s, OccursAt query text s → start ≤ s.1 → ∃ a ∈ found, a.1 ≤ s.1 ∧ s.1 < a.2

namespace Scan

variable {query text : List Char} {start : Nat} {a b : Nat × Nat} {found other : List (Nat × Nat)}

theorem tail (h : Scan query text start (a :: found)) (hq : query ≠ []) : Scan query text a.2 found where
  occurs := fun s hs => h.occurs s (List.mem_cons_of_mem a hs)
  ahead := (List.pairwise_cons.mp h.ordered).1
  ordered := (List.pairwise_cons.mp h.ordered).2
  leftmost := by
    intro s hs hstart
    have hahead : start ≤ a.1 := h.ahead a List.mem_cons_self
    have hlt : a.1 < a.2 := (h.occurs a List.mem_cons_self).start_lt_end hq
    obtain ⟨c, hc, hle, hin⟩ := h.leftmost s hs (by omega)
    rcases List.mem_cons.mp hc with rfl | hc
    · omega
    · exact ⟨c, hc, hle, hin⟩

/-- Nothing that starts at the position or behind it starts before the first occurrence of a scan. -/
theorem head_le (h : Scan query text start (a :: found)) (hq : query ≠ []) (hb : OccursAt query text b)
    (hstart : start ≤ b.1) : a.1 ≤ b.1 := by
  obtain ⟨c, hc, hle, -⟩ := h.leftmost b hb hstart
  rcases List.mem_cons.mp hc with rfl | hc
  · exact hle
  · have hlt : a.1 < a.2 := (h.occurs a List.mem_cons_self).start_lt_end hq
    have hordered : a.2 ≤ c.1 := (List.pairwise_cons.mp h.ordered).1 c hc
    omega

theorem nil_of_nil (h : Scan query text start []) (h' : Scan query text start found) : found = [] := by
  refine List.eq_nil_iff_forall_not_mem.mpr fun s hs => ?_
  obtain ⟨_, hnone, -⟩ := h.leftmost s (h'.occurs s hs) (h'.ahead s hs)
  exact absurd hnone List.not_mem_nil

/-- **A text has one scan.** -/
theorem unique (hq : query ≠ []) (h : Scan query text start found) (h' : Scan query text start other) :
    found = other := by
  induction found generalizing start other with
  | nil => exact (h.nil_of_nil h').symm
  | cons a rest ih =>
    cases other with
    | nil => exact absurd (h'.nil_of_nil h) (List.cons_ne_nil a rest)
    | cons b others =>
      have ha : OccursAt query text a := h.occurs a List.mem_cons_self
      have hb : OccursAt query text b := h'.occurs b List.mem_cons_self
      -- Neither of the two starts behind the other, and an occurrence is known by its start.
      have hab : a.1 ≤ b.1 := h.head_le hq hb (h'.ahead b List.mem_cons_self)
      have hba : b.1 ≤ a.1 := h'.head_le hq ha (h.ahead a List.mem_cons_self)
      obtain rfl := ha.eq_of_start hb (Nat.le_antisymm hab hba)
      rw [ih (h.tail hq) (h'.tail hq)]

end Scan

/-! ## 4. The walk -/

/-- Characters that belong to an occurrence are passed over. -/
theorem spansFrom_inside (query : List Char) (position inside : Nat) (text : List Char) :
    spansFrom query position inside text
      = spansFrom query (position + bytes (text.take inside)) 0 (text.drop inside) := by
  induction text generalizing position inside with
  | nil => rw [List.drop_nil, spansFrom, spansFrom]
  | cons c cs ih =>
    cases inside with
    | zero => rfl
    | succ inside =>
      rw [spansFrom, ih, List.take_succ_cons, List.drop_succ_cons, bytes, Nat.add_assoc]

/-- Where the query occurs, the walk goes on behind the occurrence. -/
theorem spansFrom_found {query run : List Char} (hq : query ≠ [])
    (hfold : run.map Text.fold = query.map Text.fold) (position : Nat) (after : List Char) :
    spansFrom query position 0 (run ++ after)
      = (position, position + bytes run) :: spansFrom query (position + bytes run) 0 after := by
  have hstarts : startsHere query (run ++ after) = true :=
    startsHere_iff.mpr ⟨run, List.prefix_append run after, hfold⟩
  have hlength : run.length = query.length := length_eq_of_map_fold hfold
  cases run with
  | nil => exact absurd (List.map_eq_nil_iff.mp hfold.symm) hq
  | cons c rest =>
    have hrest : query.length - 1 = rest.length := by
      rw [← hlength, List.length_cons, Nat.add_sub_cancel]
    rw [List.cons_append] at hstarts ⊢
    rw [spansFrom, if_pos hstarts, ← List.cons_append, ← hlength, List.take_left, hlength, hrest,
      spansFrom_inside, List.take_left, List.drop_left, bytes, Nat.add_assoc]

theorem spansFrom_missed {query : List Char} {c : Char} {cs : List Char}
    (h : ¬ startsHere query (c :: cs) = true) (position : Nat) :
    spansFrom query position 0 (c :: cs) = spansFrom query (position + c.utf8Size) 0 cs := by
  rw [spansFrom, if_neg h]

/-- **The walk yields the scan.** What was passed is `before`, and the walk stands behind it. -/
theorem scan_spansFrom {query : List Char} (hq : query ≠ []) (before rest : List Char) :
    Scan query (before ++ rest) (bytes before) (spansFrom query (bytes before) 0 rest) := by
  -- The induction is on what is left, because an occurrence takes several characters at once.
  induction hn : rest.length using Nat.strong_induction_on generalizing before rest with
  | _ n ih =>
  subst hn
  by_cases hstarts : startsHere query rest = true
  · obtain ⟨run, ⟨after, rfl⟩, hfold⟩ := startsHere_iff.mp hstarts
    have hrun : run ≠ [] := by
      rintro rfl
      exact hq (List.map_eq_nil_iff.mp hfold.symm)
    have hshorter : after.length < (run ++ after).length := by
      rw [List.length_append]
      exact Nat.lt_add_of_pos_left (List.length_pos_of_ne_nil hrun)
    have htail := ih after.length hshorter (before ++ run) after rfl
    rw [List.append_assoc, bytes_append] at htail
    rw [spansFrom_found hq hfold]
    refine ⟨?_, ?_, List.pairwise_cons.mpr ⟨htail.ahead, htail.ordered⟩, ?_⟩
    · intro s hs
      rcases List.mem_cons.mp hs with rfl | hs
      · exact ⟨before, run, after, (List.append_assoc ..).symm, hfold, rfl⟩
      · exact htail.occurs s hs
    · intro s hs
      rcases List.mem_cons.mp hs with rfl | hs
      · exact Nat.le_refl _
      · exact Nat.le_trans (Nat.le_add_right _ _) (htail.ahead s hs)
    · -- What starts here starts within this occurrence or, if behind it, within one of the rest.
      intro s hs hstart
      by_cases hinside : s.1 < bytes before + bytes run
      · exact ⟨_, List.mem_cons_self, hstart, hinside⟩
      · obtain ⟨a, ha, hcovers⟩ := htail.leftmost s hs (Nat.le_of_not_lt hinside)
        exact ⟨a, List.mem_cons_of_mem _ ha, hcovers⟩
  · -- Nothing occurs at this place, so what occurs from here on occurs behind the next character.
    cases rest with
    | nil =>
      refine ⟨by simp [spansFrom], by simp [spansFrom], by simp [spansFrom], ?_⟩
      intro s hs hstart
      rcases hs.here_or_beyond hstart with hhere | ⟨_, _, hnone, -⟩
      · exact absurd hhere hstarts
      · exact absurd hnone (by simp)
    | cons c cs =>
      have hnext := ih cs.length (Nat.lt_succ_self _) (before ++ [c]) cs rfl
      rw [List.append_assoc, List.singleton_append, bytes_append] at hnext
      rw [spansFrom_missed hstarts]
      refine ⟨hnext.occurs, ?_, hnext.ordered, ?_⟩
      · intro s hs
        exact Nat.le_trans (Nat.le_add_right _ _) (hnext.ahead s hs)
      · intro s hs hstart
        rcases hs.here_or_beyond hstart with hhere | ⟨_, _, hrest, hbeyond⟩
        · exact absurd hhere hstarts
        · obtain ⟨rfl, -⟩ := List.cons.inj hrest
          rw [bytes_append] at hbeyond
          exact hnext.leftmost s hs hbeyond

/-- **What is marked in a text is its scan**, and nothing else is. -/
theorem spans_eq_iff {query text : String} (hq : query ≠ "") {found : List (Nat × Nat)} :
    spans query text = found ↔ Scan query.toList text.toList 0 found := by
  have hchars : query.toList ≠ [] := fun h => hq (String.toList_eq_nil_iff.mp h)
  have hscan : Scan query.toList text.toList 0 (spans query text) := by
    have hempty : query.isEmpty = false := by simpa using hq
    rw [spans, hempty]
    exact scan_spansFrom hchars [] text.toList
  constructor
  · rintro rfl
    exact hscan
  · exact hscan.unique hchars

end Search

/-! ## 5. Filters -/

namespace Filter

theorem levelPasses_iff {f : Filter} {r : Record} :
    f.levelPasses r = true ↔ ∀ l, f.level = some l → sameAscii r.level l = true := by
  unfold levelPasses
  cases f.level <;> simp

theorem categoryPasses_iff {f : Filter} {r : Record} :
    f.categoryPasses r = true ↔ ∀ c, f.category = some c → r.category = c := by
  unfold categoryPasses
  cases f.category <;> simp

theorem searchPasses_iff {f : Filter} {r : Record} : f.searchPasses r = true ↔
    f.search = "" ∨ ∃ run, run <:+: r.message.toList ∧ run.map Text.fold = f.search.toList.map Text.fold := by
  rw [searchPasses, Bool.or_eq_true, Search.occurs_iff, String.isEmpty_iff]

/-- **A search shows and marks what it is said to.**

    A record passes if its level and its category are the chosen ones, as far as there are any, and some
    run of consecutive characters of its message is the searched text up to simple folding, character by
    character, unless nothing is searched for. What is marked in a text are the leftmost such runs that do
    not overlap, and no other list of spans is a scan of the text; every span holds something and begins
    and ends between two characters. So a filter that only searches shows exactly the messages in which it
    marks something. -/
theorem search_by_occurrences (query : String) (level : Option String) (category : Option Category) :
    let f := ((ofSearch query).withLevel level).withCategory category
    (∀ r : Record, f.passes r = true ↔
      (∀ l, level.bind levelOf = some l → sameAscii r.level l = true) ∧
      (∀ c, category = some c → r.category = c) ∧
      (query = "" ∨
        ∃ run, run <:+: r.message.toList ∧ run.map Text.fold = query.toList.map Text.fold)) ∧
    (query ≠ "" → ∀ text found,
      f.spans text = found ↔ Search.Scan query.toList text.toList 0 found) ∧
    (query ≠ "" → ∀ text, ∀ s ∈ f.spans text,
      s.1 < s.2 ∧ String.Pos.Raw.IsValid text ⟨s.1⟩ ∧ String.Pos.Raw.IsValid text ⟨s.2⟩) ∧
    (query ≠ "" → ∀ r : Record, (ofSearch query).passes r = true ↔ (ofSearch query).spans r.message ≠ []) := by
  intro f
  have hchars (hq : query ≠ "") : query.toList ≠ [] := fun h => hq (String.toList_eq_nil_iff.mp h)
  refine ⟨?_, ?_, ?_, ?_⟩
  · intro r
    rw [passes, Bool.and_eq_true, Bool.and_eq_true, levelPasses_iff, categoryPasses_iff, searchPasses_iff,
      and_assoc]
    rfl
  · intro hq text found
    exact Search.spans_eq_iff hq
  · intro hq text s hs
    have hscan : Search.Scan query.toList text.toList 0 (f.spans text) := (Search.spans_eq_iff hq).mp rfl
    have hoccurs := hscan.occurs s hs
    exact ⟨hoccurs.start_lt_end (hchars hq), hoccurs.isValid⟩
  · intro hq r
    have hscan : Search.Scan query.toList r.message.toList 0 ((ofSearch query).spans r.message) :=
      (Search.spans_eq_iff hq).mp rfl
    have hpasses : (ofSearch query).passes r = Search.occurs query.toList r.message.toList := by
      have hempty : query.isEmpty = false := by simpa using hq
      simp [passes, levelPasses, categoryPasses, searchPasses, ofSearch, hempty]
    rw [hpasses, ← Search.exists_occursAt_iff]
    constructor
    · rintro ⟨s, hs⟩ hnone
      obtain ⟨a, ha, -⟩ := hscan.leftmost s hs (Nat.zero_le _)
      rw [hnone] at ha
      exact absurd ha List.not_mem_nil
    · intro hsome
      obtain ⟨s, hs⟩ := List.exists_mem_of_ne_nil _ hsome
      exact ⟨s, hscan.occurs s hs⟩

/-- The long `ſ` is an `s` of two bytes, and the third one starts no other pair. -/
theorem search_by_occurrences_long_s :
    "ss" ≠ "" ∧ (((ofSearch "ss").withLevel none).withCategory none).spans "Sſs.ss" = [(0, 3), (5, 7)] ∧
    Search.Scan "ss".toList "Sſs.ss".toList 0 [(0, 3), (5, 7)] := by
  have hspans : (((ofSearch "ss").withLevel none).withCategory none).spans "Sſs.ss" = [(0, 3), (5, 7)] := by
    decide
  have hsearched : "ss" ≠ "" := by decide
  exact ⟨hsearched, hspans, ((search_by_occurrences "ss" none none).2.1 hsearched _ _).mp hspans⟩

end Filter
end LiveLog
