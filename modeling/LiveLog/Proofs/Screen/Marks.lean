import LiveLog.Proofs.Screen.Table
import LiveLog.Proofs.View.Search

/-!
# Marked texts

A text with its matches marked is cut at byte positions that a search has computed, and a wrong position would
lose text, show it twice, or fall into the middle of a character. That no text is lost is known for all positions
whatever (`chars_highlight`), since the pieces are what is in front of a position and what is behind it. The rest
is true of a scan only, and of a scan one thing has to be known: **the matches lie in the text**, one behind the
other, each of some characters and all of whole characters (`Search.InPlace`). Which text was searched for does
not matter any more.

Marking itself never fails, because taking some bytes of a text that has fewer takes them all. So for the cuts
there is a second way to mark a text, which slices it at its byte positions and has no result where a slice is
none (`Row.sliced?`), and the two agree.
-/

namespace LiveLog

/-! ## 1. Slices -/

namespace Text

/-- **A slice of a text** between two byte positions. There is none where one of them is no character boundary of
    the text or lies beyond its end, or where they are not in order. -/
def slice? (text : String) (start stop : Nat) : Option String := do
  let first ← text.pos? ⟨start⟩
  let last ← text.pos? ⟨stop⟩
  if start ≤ stop then some (text.extract first last) else none

theorem pos?_of_isValid {text : String} {p : String.Pos.Raw} (h : p.IsValid text) :
    text.pos? p = some (text.pos p h) := by
  have hslice : String.Pos.Raw.isValidForSlice text.toSlice p = true := by
    rw [String.Pos.Raw.isValidForSlice_eq_true_iff]
    simpa using h
  simp [String.pos?, String.Slice.pos?, hslice, String.pos]

theorem extract_between (a b c : ByteArray) : (a ++ (b ++ c)).extract a.size (a.size + b.size) = b := by
  have hbehind : (a ++ (b ++ c)).extract (a.size + 0) (a.size + b.size) = (b ++ c).extract 0 b.size :=
    ByteArray.extract_append_size_add
  rw [Nat.add_zero] at hbehind
  rw [hbehind, ByteArray.extract_append_eq_left rfl]

/-- What stands between two cuts through a text is the slice between their positions. -/
theorem slice?_between {text : String} {before piece after : List Char}
    (h : text.toList = before ++ (piece ++ after)) :
    slice? text (Search.bytes before) (Search.bytes before + Search.bytes piece) = some (String.ofList piece) := by
  have hfirst : String.Pos.Raw.IsValid text ⟨Search.bytes before⟩ := Search.isValid_bytes h
  have hlast : String.Pos.Raw.IsValid text ⟨Search.bytes before + Search.bytes piece⟩ := by
    rw [← Search.bytes_append]
    exact Search.isValid_bytes (h.trans (List.append_assoc before piece after).symm)
  have hbytes : text.toByteArray = (String.ofList before).toByteArray ++
      ((String.ofList piece).toByteArray ++ (String.ofList after).toByteArray) := by
    rw [← String.toByteArray_append, ← String.toByteArray_append, ← String.ofList_append, ← String.ofList_append,
      ← h, String.ofList_toList]
  have hsize (cs : List Char) : Search.bytes cs = (String.ofList cs).toByteArray.size := by
    rw [String.size_toByteArray, Search.utf8ByteSize_ofList]
  have hcut : text.extract (text.pos _ hfirst) (text.pos _ hlast) = String.ofList piece := by
    rw [← String.toByteArray_inj, String.toByteArray_extract, hbytes, String.offset_pos, String.offset_pos,
      hsize before, hsize piece]
    exact extract_between _ _ _
  unfold slice?
  rw [pos?_of_isValid hfirst, pos?_of_isValid hlast]
  simp [hcut]

end Text

/-! ## 2. Matches in place -/

namespace Search

/-- **Spans that lie in some characters** from a position on: one behind the other, each of some characters and
    all of whole characters. -/
inductive InPlace : (position : Nat) → List Char → List (Nat × Nat) → Prop where
  | nil (position : Nat) (cs : List Char) : InPlace position cs []
  | cons {position : Nat} {between found after : List Char} {spans : List (Nat × Nat)} (nonempty : found ≠ [])
      (behind : InPlace (position + bytes between + bytes found) after spans) :
      InPlace position (between ++ (found ++ after))
        ((position + bytes between, position + bytes between + bytes found) :: spans)

theorem Scan.inPlace {query before rest : List Char} {found : List (Nat × Nat)} (hq : query ≠ [])
    (h : Scan query (before ++ rest) (bytes before) found) : InPlace (bytes before) rest found := by
  induction found generalizing before rest with
  | nil => exact .nil _ _
  | cons a spans ih =>
    obtain ⟨before', run, after, htext, hfold, rfl⟩ := h.occurs a List.mem_cons_self
    have hahead : bytes before ≤ bytes before' := h.ahead _ List.mem_cons_self
    have hrun : run ≠ [] := by
      rintro rfl
      exact hq (List.map_eq_nil_iff.mp hfold.symm)
    have hsplit : before ++ rest = before' ++ (run ++ after) := by rw [htext, List.append_assoc]
    obtain ⟨between, rfl, rfl⟩ := append_of_bytes_le hsplit hahead
    have htail := h.tail hq
    rw [← List.append_assoc, ← List.append_assoc, ← bytes_append] at htail
    have hbehind := ih htail
    rw [bytes_append, bytes_append] at hbehind
    rw [bytes_append]
    exact .cons hrun hbehind

theorem Scan.inPlace_whole {query text : List Char} {found : List (Nat × Nat)} (hq : query ≠ [])
    (h : Scan query text 0 found) : InPlace 0 text found := by
  have hstart : Scan query ([] ++ text) (bytes []) found := h
  exact hstart.inPlace hq

end Search

/-- What a filter marks in a text lies in it, also if it marks nothing. -/
theorem Filter.spans_inPlace (f : Filter) (text : String) : Search.InPlace 0 text.toList (f.spans text) := by
  by_cases hsearch : f.search = ""
  · have hnone : f.spans text = [] := by simp [spans, Search.spans, hsearch]
    rw [hnone]
    exact .nil _ _
  · have hchars : f.search.toList ≠ [] := fun h => hsearch (String.toList_eq_nil_iff.mp h)
    have hscan : Search.Scan f.search.toList text.toList 0 (f.spans text) := (Search.spans_eq_iff hsearch).mp rfl
    exact hscan.inPlace_whole hchars

/-- **The spans of a line in a style**, by their byte positions in the text of the line. -/
def Line.placesOf (style : Style) : (position : Nat) → Line → List (Nat × Nat)
  | _, [] => []
  | position, s :: l =>
    let stop := position + s.text.utf8ByteSize
    if s.style = style then (position, stop) :: placesOf style stop l else placesOf style stop l

namespace Row

/-! ## 3. Marking, match by match -/

theorem takeBytes_bytes (cs ds : List Char) : takeBytes (Search.bytes cs) (cs ++ ds) = cs := by
  induction cs with
  | nil => cases ds <;> rfl
  | cons c cs ih =>
    have hpos : Search.bytes (c :: cs) ≠ 0 := Nat.ne_of_gt (Search.bytes_pos (List.cons_ne_nil c cs))
    rw [List.cons_append, takeBytes, if_neg hpos, Search.bytes, Nat.add_sub_cancel_left, ih]

theorem dropBytes_bytes (cs ds : List Char) : dropBytes (Search.bytes cs) (cs ++ ds) = ds := by
  have hwhole := takeBytes_append_dropBytes (Search.bytes cs) (cs ++ ds)
  rw [takeBytes_bytes] at hwhole
  exact List.append_cancel_left hwhole

variable {base : Style}

/-- **One match**: what is in front of it in the base style, the match, and what is marked behind it. -/
theorem highlightFrom_cons (base : Style) (position : Nat) (between found after : List Char)
    (spans : List (Nat × Nat)) :
    highlightFrom base position (between ++ (found ++ after))
      ((position + Search.bytes between, position + Search.bytes between + Search.bytes found) :: spans) =
    spanOf between base ++ ⟨String.ofList found, Theme.searchMatch⟩ ::
      highlightFrom base (position + Search.bytes between + Search.bytes found) after spans := by
  rw [highlightFrom]
  simp only [Nat.add_sub_cancel_left, takeBytes_bytes, dropBytes_bytes]

theorem spanOf_of_ne_nil {cs : List Char} (h : cs ≠ []) (style : Style) :
    spanOf cs style = [⟨String.ofList cs, style⟩] := by
  rw [spanOf, if_neg (by simpa using h)]

theorem spanOf_nil (style : Style) : spanOf [] style = [] := rfl

/-- Characters as a span are none, or one span of some characters. -/
theorem mem_spanOf {cs : List Char} {style : Style} {s : Span} (h : s ∈ spanOf cs style) :
    s.text ≠ "" ∧ s.style = style := by
  by_cases hnone : cs = []
  · rw [hnone, spanOf_nil] at h
    exact absurd h List.not_mem_nil
  · rw [spanOf_of_ne_nil hnone] at h
    obtain rfl := List.mem_singleton.mp h
    exact ⟨mt String.ofList_eq_empty_iff.mp hnone, rfl⟩

/-- **Every piece of a marked text has some text**, and is a match or in the base style. -/
theorem mem_highlightFrom {position : Nat} {cs : List Char} {spans : List (Nat × Nat)}
    (h : Search.InPlace position cs spans) {s : Span} (hs : s ∈ highlightFrom base position cs spans) :
    s.text ≠ "" ∧ (s.style = Theme.searchMatch ∨ s.style = base) := by
  induction h with
  | nil position cs =>
    obtain ⟨htext, hstyle⟩ := mem_spanOf hs
    exact ⟨htext, Or.inr hstyle⟩
  | cons nonempty behind ih =>
    rw [highlightFrom_cons] at hs
    rcases List.mem_append.mp hs with hbetween | hs
    · obtain ⟨htext, hstyle⟩ := mem_spanOf hbetween
      exact ⟨htext, Or.inr hstyle⟩
    · rcases List.mem_cons.mp hs with rfl | hbehind
      · exact ⟨mt String.ofList_eq_empty_iff.mp nonempty, Or.inl rfl⟩
      · exact ih hbehind

/-! ## 4. Where the matches are -/

theorem placesOf_spanOf (h : base ≠ Theme.searchMatch) (position : Nat) (cs : List Char) (l : Line) :
    Line.placesOf Theme.searchMatch position (spanOf cs base ++ l) =
      Line.placesOf Theme.searchMatch (position + Search.bytes cs) l := by
  by_cases hnone : cs = []
  · rw [hnone]
    rfl
  · rw [spanOf_of_ne_nil hnone, List.singleton_append, Line.placesOf, if_neg h, Search.utf8ByteSize_ofList]

/-- **The matches of a marked text are where they were found.** -/
theorem placesOf_highlightFrom (h : base ≠ Theme.searchMatch) {position : Nat} {cs : List Char}
    {spans : List (Nat × Nat)} (hspans : Search.InPlace position cs spans) :
    Line.placesOf Theme.searchMatch position (highlightFrom base position cs spans) = spans := by
  induction hspans with
  | nil position cs =>
    rw [highlightFrom, ← List.append_nil (spanOf cs base), placesOf_spanOf h]
    rfl
  | cons nonempty behind ih =>
    rw [highlightFrom_cons, placesOf_spanOf h, Line.placesOf, if_pos rfl, Search.utf8ByteSize_ofList, ih]

/-! ## 5. No two pieces that could be one -/

/-- Whether one of two neighbours is no piece in the base style. -/
def Apart (base : Style) (a b : Span) : Prop := ¬ (a.style = base ∧ b.style = base)

theorem isChain_cons_of_ne {s : Span} {l : Line} (h : s.style ≠ base) (hl : l.IsChain (Apart base)) :
    (s :: l).IsChain (Apart base) := by
  cases l with
  | nil => exact List.isChain_singleton s
  | cons t l => exact List.isChain_cons_cons.mpr ⟨fun hboth => h hboth.1, hl⟩

theorem isChain_highlightFrom (h : base ≠ Theme.searchMatch) {position : Nat} {cs : List Char}
    {spans : List (Nat × Nat)} (hspans : Search.InPlace position cs spans) :
    (highlightFrom base position cs spans).IsChain (Apart base) := by
  induction hspans with
  | nil position cs =>
    rw [highlightFrom, spanOf]
    split
    case isTrue => exact List.isChain_nil
    case isFalse => exact List.isChain_singleton _
  | @cons position between found after spans nonempty behind ih =>
    have hmatch : List.IsChain (Apart base) (⟨String.ofList found, Theme.searchMatch⟩ :: _) :=
      isChain_cons_of_ne h.symm ih
    rw [highlightFrom_cons, spanOf]
    split
    case isTrue => exact hmatch
    case isFalse => exact List.isChain_cons_cons.mpr ⟨fun hboth => h hboth.2.symm, hmatch⟩

/-! ## 6. Slicing -/

/-- The slice of a text between two positions as a span, if they are apart. -/
def slicedSpan? (text : String) (style : Style) (start stop : Nat) : Option Line :=
  if start < stop then (Text.slice? text start stop).map fun piece => [⟨piece, style⟩] else some []

/-- **Marking by slices**: the text from a position on, cut at the byte positions of the matches. There is no
    result where one of the slices is none. -/
def sliced? (text : String) (base : Style) : (position : Nat) → List (Nat × Nat) → Option Line
  | position, [] => slicedSpan? text base position text.utf8ByteSize
  | position, (start, stop) :: spans => do
    let between ← slicedSpan? text base position start
    let found ← Text.slice? text start stop
    let behind ← sliced? text base stop spans
    some (between ++ ⟨found, Theme.searchMatch⟩ :: behind)

theorem slicedSpan?_between {text : String} {before piece after : List Char}
    (h : text.toList = before ++ (piece ++ after)) (style : Style) :
    slicedSpan? text style (Search.bytes before) (Search.bytes before + Search.bytes piece) =
      some (spanOf piece style) := by
  unfold slicedSpan?
  by_cases hnone : piece = []
  · rw [hnone, if_neg (by simp [Search.bytes])]
    rfl
  · have hpos : 0 < Search.bytes piece := Search.bytes_pos hnone
    rw [if_pos (Nat.lt_add_of_pos_right hpos), Text.slice?_between h, spanOf_of_ne_nil hnone]
    rfl

/-- **No slice is out of range or inside of a character**, and slicing yields the marked text. What was passed is
    `before`. -/
theorem sliced?_eq_some (base : Style) {text : String} {position : Nat} {cs : List Char}
    {spans : List (Nat × Nat)} (hspans : Search.InPlace position cs spans) {before : List Char}
    (htext : text.toList = before ++ cs) (hposition : position = Search.bytes before) :
    sliced? text base position spans = some (highlightFrom base position cs spans) := by
  induction hspans generalizing before with
  | nil position cs =>
    have hsize : text.utf8ByteSize = Search.bytes before + Search.bytes cs := by
      rw [← Search.bytes_append, ← htext, ← Search.utf8ByteSize_ofList, String.ofList_toList]
    rw [sliced?, hsize, hposition]
    have hend : text.toList = before ++ (cs ++ []) := by rw [htext, List.append_nil]
    exact slicedSpan?_between hend base
  | @cons position between found after spans nonempty behind ih =>
    have hfound : text.toList = (before ++ between) ++ (found ++ after) := by rw [htext, List.append_assoc]
    have hbehind : text.toList = (before ++ between ++ found) ++ after :=
      hfound.trans (List.append_assoc (before ++ between) found after).symm
    have hbetween := slicedSpan?_between htext base
    have hslice := Text.slice?_between hfound
    rw [Search.bytes_append] at hslice
    have hrest := ih hbehind (by rw [Search.bytes_append, Search.bytes_append, hposition])
    rw [highlightFrom_cons, sliced?, hrest, hposition, hbetween, hslice]
    rfl

/-! ## 7. Every text -/

theorem join_texts (l : Line) : (String.join (l.map (·.text))).toList = l.chars := by
  induction l with
  | nil => rfl
  | cons s l ih => rw [List.map_cons, String.join_cons, String.toList_append, ih, Line.chars_cons]

/-- **Marking the matches of a text is cutting it**, for every text, every filter and every base style that is not
    that of the matches.

    Every piece has some text, and the pieces side by side are the text. The pieces in the style of a match are,
    by their places in the text, the matches of the filter in order; all others are in the base style, and no two
    of these are neighbours. Cutting the text by slices at the positions of the matches yields these pieces too, so
    no slice is out of range or begins or ends inside of a character. -/
theorem highlight_partitions (text : String) (filter : Filter) {base : Style} (h : base ≠ Theme.searchMatch) :
    let pieces := highlight text filter base
    (∀ s ∈ pieces, s.text ≠ "") ∧
    String.join (pieces.map (·.text)) = text ∧
    Line.placesOf Theme.searchMatch 0 pieces = filter.spans text ∧
    (∀ s ∈ pieces, s.style = Theme.searchMatch ∨ s.style = base) ∧
    pieces.IsChain (fun a b => ¬ (a.style = base ∧ b.style = base)) ∧
    sliced? text base 0 (filter.spans text) = some pieces := by
  intro pieces
  have hspans : Search.InPlace 0 text.toList (filter.spans text) := filter.spans_inPlace text
  refine ⟨fun s hs => (mem_highlightFrom hspans hs).1, ?_, placesOf_highlightFrom h hspans,
    fun s hs => (mem_highlightFrom hspans hs).2, isChain_highlightFrom h hspans, ?_⟩
  · rw [← String.toList_inj, join_texts]
    exact chars_highlight text filter base
  · have hstart : text.toList = [] ++ text.toList := rfl
    exact sliced?_eq_some base hspans hstart rfl

/-- Matches at the start, back to back and at the end, with characters of two bytes in some and of three between. -/
theorem highlight_partitions_back_to_back :
    Theme.text ≠ Theme.searchMatch ∧
    (Filter.ofSearch "ks").spans "KſKſ, 日本 ks" = [(0, 3), (3, 6), (15, 17)] ∧
    String.join ((highlight "KſKſ, 日本 ks" (Filter.ofSearch "ks") Theme.text).map (·.text)) =
      "KſKſ, 日本 ks" ∧
    Line.placesOf Theme.searchMatch 0 (highlight "KſKſ, 日本 ks" (Filter.ofSearch "ks") Theme.text) =
      [(0, 3), (3, 6), (15, 17)] := by
  have hstyle : Theme.text ≠ Theme.searchMatch := by decide
  have hspans : (Filter.ofSearch "ks").spans "KſKſ, 日本 ks" = [(0, 3), (3, 6), (15, 17)] := by decide
  obtain ⟨-, hwhole, hplaces, -⟩ := highlight_partitions "KſKſ, 日本 ks" (Filter.ofSearch "ks") hstyle
  exact ⟨hstyle, hspans, hwhole, hplaces.trans hspans⟩

end Row
end LiveLog
