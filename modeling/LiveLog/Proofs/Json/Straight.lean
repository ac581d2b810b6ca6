import LiveLog.Proofs.Json.Meaning

/-!
# Reading straight from text

A structure that is read straight from a text is read from a selection of it: members that it does not know
are dropped before they have a meaning, and the rest are put together as an object of their own. Reading from
the value of the text is something else, since there every member is given its meaning first. The two
agree under two conditions. The reader looks at members by their keys and at no others than the selection
keeps (`ReadsOnly`), and no key stands twice, for a selection refuses that and a value does not
(`Source.Distinct`).

Agreement is stated of a shape and a reader (`Agrees`), once and for all texts and depths, and it is put
together as shapes are: first for structures whose members are read whole, then for lists of anything that
agrees.
-/

namespace LiveLog

/-! ## 1. Texts without repeated keys -/

/-- **No object in a source has a key twice.** Keys are compared as the texts they stand for. -/
inductive Source.Distinct : Source → Prop
  | null : Distinct .null
  | bool (b : Bool) : Distinct (.bool b)
  | number (t : NumberText) : Distinct (.number t)
  | string (pieces : List Piece) : Distinct (.string pieces)
  | array {xs : List Source} (h : ∀ x ∈ xs, Distinct x) : Distinct (.array xs)
  | object {ms : List (List Piece × Source)} (hkeys : (ms.map fun m => text? m.1).Nodup)
    (h : ∀ m ∈ ms, Distinct m.2) : Distinct (.object ms)

namespace Shape

theorem repeats_eq_false_of_nodup {names : List String} (h : names.Nodup) : repeats names = false := by
  induction names with
  | nil => rfl
  | cons n rest ih =>
    obtain ⟨hn, hrest⟩ := List.nodup_cons.mp h
    rw [repeats, ih hrest, List.contains_eq_mem, decide_eq_false hn]
    rfl

theorem nodup_keys {depth : Nat} {sources : List (List Piece × Source)} {members : List (String × Json)}
    (hkeys : (sources.map fun m => Source.text? m.1).Nodup)
    (h : Source.resolveMembers depth sources = some members) : (members.map (·.1)).Nodup := by
  rw [Source.keys_of_resolveMembers h] at hkeys
  have hmap : members.map (fun m => some m.1) = (members.map (·.1)).map some := by simp
  rw [hmap] at hkeys
  refine List.Pairwise.of_map some ?_ hkeys
  intro a b hne heq
  exact hne (congrArg some heq)

/-! ## 2. Shapes against values -/

/-- **A shape and a reader agree** if reading what the shape selects is reading the whole value. -/
def Agrees {α : Type} (shape : Shape) (read : Json → Decoded α) : Prop :=
  ∀ depth x v, Source.Distinct x → x.resolve depth = some v →
    ∃ w, shape.select depth x = some w ∧ read w = read v

/-- A structure that is read member by member, without a look at members it does not know. -/
def ReadsOnly {α : Type} (fields : List (String × Shape)) (read : Json → Decoded α) : Prop :=
  ∀ ms ms' : List (String × Json),
    (∀ k, (fields.lookup k).isSome = true → ms.lookup k = ms'.lookup k) →
      read (.object ms) = read (.object ms')

variable {fields : List (String × Shape)}

theorem select_whole (depth : Nat) (x : Source) : select depth .whole x = x.resolve depth := by
  cases x <;> cases depth <;> rfl

theorem lookup_flat (hflat : ∀ f ∈ fields, f.2 = .whole) {k : String} {shape : Shape}
    (h : fields.lookup k = some shape) : shape = .whole := by
  obtain ⟨before, after, hfields, -⟩ := List.lookup_eq_some_iff.mp h
  exact hflat (k, shape) (by rw [hfields]; simp)

theorem selectMembers_of_flat (hflat : ∀ f ∈ fields, f.2 = .whole) {depth : Nat}
    {sources : List (List Piece × Source)} {members : List (String × Json)}
    (h : Source.resolveMembers depth sources = some members) :
    selectMembers depth fields sources = some (members.filter fun m => (fields.lookup m.1).isSome) := by
  induction sources generalizing members with
  | nil =>
    obtain rfl : [] = members := Option.some.inj h
    rfl
  | cons m rest ih =>
    obtain ⟨pieces, x⟩ := m
    obtain ⟨k, v, vs, hk, hv, hvs, rfl⟩ := Source.resolveMembers_cons h
    rw [selectMembers, hk]
    cases hlookup : fields.lookup k with
    | none =>
      rw [List.filter_cons_of_neg (by simp [hlookup]), ← ih hvs]
      simp [hlookup]
    | some shape =>
      obtain rfl := lookup_flat hflat hlookup
      rw [List.filter_cons_of_pos (by simp [hlookup])]
      simp [hlookup, select_whole, hv, ih hvs]

theorem selectElements_of_flat (hflat : ∀ f ∈ fields, f.2 = .whole) {depth : Nat} {xs : List Source}
    {vs : List Json} (h : Source.resolveItems depth xs = some vs) :
    selectElements depth fields xs = some vs := by
  induction xs generalizing fields vs with
  | nil =>
    obtain rfl : [] = vs := Option.some.inj h
    cases fields <;> rfl
  | cons x rest ih =>
    obtain ⟨v, vs, hv, hvs, rfl⟩ := Source.resolveItems_cons h
    cases fields with
    | nil => simp [selectElements, hv, ih hflat hvs]
    | cons f fs =>
      have hf : f.2 = .whole := hflat f List.mem_cons_self
      have hrest := ih (fun g hg => hflat g (List.mem_cons_of_mem _ hg)) hvs
      simp [selectElements, hf, select_whole, hv, hrest]

theorem agrees_record {α : Type} {read : Json → Decoded α} (hflat : ∀ f ∈ fields, f.2 = .whole)
    (hread : ReadsOnly fields read) : Agrees (.record fields) read := by
  intro depth x v hdistinct hv
  cases hdistinct with
  | null | bool | number | string => exact ⟨v, by rw [← hv]; cases depth <;> rfl, rfl⟩
  | array h =>
    cases depth with
    | zero => exact absurd hv (by simp [Source.resolve])
    | succ depth =>
      rw [Source.resolve, Option.map_eq_some_iff] at hv
      obtain ⟨vs, hvs, rfl⟩ := hv
      exact ⟨.array vs, by rw [select, selectElements_of_flat hflat hvs, Option.map_some], rfl⟩
  | object hkeys h =>
    cases depth with
    | zero => exact absurd hv (by simp [Source.resolve])
    | succ depth =>
      rw [Source.resolve, Option.map_eq_some_iff] at hv
      obtain ⟨members, hmembers, rfl⟩ := hv
      -- What is dropped is dropped for its key, and nothing is given twice that was not given twice before.
      have hnodup : ((members.filter fun m => (fields.lookup m.1).isSome).map (·.1)).Nodup :=
        (nodup_keys hkeys hmembers).sublist (List.filter_sublist.map _)
      refine ⟨Json.ofMembers (members.filter fun m => (fields.lookup m.1).isSome), ?_, ?_⟩
      · rw [select, selectMembers_of_flat hflat hmembers]
        simp [repeats_eq_false_of_nodup hnodup]
      · refine hread _ _ ?_
        intro k hk
        show (Json.arranged _).lookup k = (Json.arranged _).lookup k
        rw [Json.lookup_arranged, Json.lookup_arranged, ← List.filter_reverse]
        exact Json.lookup_filter_of_pos (p := fun k => (fields.lookup k).isSome) hk _

theorem selectItems_of_agrees {α : Type} {item : Shape} {read : Json → Decoded α} (h : Agrees item read)
    {depth : Nat} {xs : List Source} (hdistinct : ∀ x ∈ xs, Source.Distinct x) {vs : List Json}
    (hvs : Source.resolveItems depth xs = some vs) :
    ∃ ws, selectItems depth item xs = some ws ∧ ws.mapM read = vs.mapM read := by
  induction xs generalizing vs with
  | nil =>
    obtain rfl : [] = vs := Option.some.inj hvs
    exact ⟨[], rfl, rfl⟩
  | cons x rest ih =>
    obtain ⟨v, vs, hv, hrest, rfl⟩ := Source.resolveItems_cons hvs
    obtain ⟨w, hw, hread⟩ := h depth x v (hdistinct x List.mem_cons_self) hv
    obtain ⟨ws, hws, hreads⟩ := ih (fun y hy => hdistinct y (List.mem_cons_of_mem _ hy)) hrest
    refine ⟨w :: ws, ?_, ?_⟩
    · rw [selectItems, hw, hws]
      rfl
    · rw [List.mapM_cons, List.mapM_cons, hread, hreads]

theorem agrees_list {α : Type} {item : Shape} {read : Json → Decoded α} (h : Agrees item read) :
    Agrees (.list item) (Json.asList read) := by
  intro depth x v hdistinct hv
  cases hdistinct with
  | null | bool | number | string | object => exact ⟨v, by rw [← hv]; cases depth <;> rfl, rfl⟩
  | array hitems =>
    cases depth with
    | zero => exact absurd hv (by simp [Source.resolve])
    | succ depth =>
      rw [Source.resolve, Option.map_eq_some_iff] at hv
      obtain ⟨vs, hvs, rfl⟩ := hv
      obtain ⟨ws, hws, hreads⟩ := selectItems_of_agrees h hitems hvs
      exact ⟨.array ws, by rw [select, hws, Option.map_some], hreads⟩

/-- **Reading straight from a text is reading its value**, where shape and reader agree and no key stands
    twice. -/
theorem read_eq_of_agrees {α : Type} {shape : Shape} {ofJson : Json → Decoded α} (h : Agrees shape ofJson)
    {text : String} {source : Source} (hsource : Source.parse text = some source)
    (hdistinct : source.Distinct) {v : Json} (hvalue : Json.parse text = some v) : shape.read ofJson text = (ofJson v).toOption := by
  rw [Json.parse, hsource, Option.bind_eq_bind, Option.bind_some] at hvalue
  obtain ⟨w, hselect, hread⟩ := h maxDepth source v hdistinct hvalue
  rw [read, hsource, Option.bind_eq_bind, Option.bind_some, hselect, Option.bind_eq_bind, Option.bind_some,
    hread]

end Shape
end LiveLog
