import LiveLog.Proofs.Json.RoundTrip
import LiveLog.Proofs.Json.Straight

/-!
# Texts of members

Data are written as a list of members, and there is more than one text for that: the members can come in any
order, as they are declared or sorted by their keys as the object holds them. `Json.Writes` are all these
texts. If no key is given twice they have one value, the object of the members, and to read data straight
from one of them is to read the data from that value (`readsBack`). Nothing is asked of the reader but that
it agrees with its shape.

The members of the data here are strings and words (`Json.Scalar`). Nothing lies inside those, so the only
keys that could be given twice are the keys of the members themselves.
-/

namespace LiveLog
namespace Json

/-- The compact text of members as they come. -/
def textOf (ms : List (String × Json)) : String := String.ofList ('\x7b' :: memberChars ms)

/-- **A text that members are written as.** -/
def Writes (members : List (String × Json)) (text : String) : Prop :=
  ∃ ms, ms.Perm members ∧ (text = textOf ms ∨ text = (ofMembers ms).render)

/-- **Data are read back from the members that are written of them**: from the object that these make, and
    from each text of them, by way of its value and straight. -/
def ReadsBack {α : Type} (shape : Shape) (read : Json → Decoded α) (members : List (String × Json))
    (a : α) : Prop :=
  read (ofMembers members) = .ok a ∧
    ∀ text, Writes members text → parse text = some (ofMembers members) ∧ shape.read read text = some a

/-- A string or a word. -/
inductive Scalar : Json → Prop
  | string (s : String) : Scalar (.string s)
  | natural {n : Nat} (hn : n ≤ maxWord) : Scalar (natural n)

theorem Scalar.plain {depth : Nat} {x : Json} (h : Scalar x) : Plain depth x := by
  cases h with
  | string s => exact .string s
  | natural hn => exact .natural hn

end Json

/-! ## 1. The tree of a text -/

namespace Source

theorem distinct_of_scalar {depth : Nat} {x : Source} {v : Json} (hv : v.Scalar)
    (h : x.resolve depth = some v) : x.Distinct := by
  have hgives := gives_of_resolve h
  cases hv with
  | string s =>
    cases hgives
    exact .string _
  | natural hn =>
    unfold Json.natural at hgives
    cases hgives
    exact .number _

theorem exists_mem_of_resolveMembers {depth : Nat} {sources : List (List Piece × Source)}
    {members : List (String × Json)} (h : resolveMembers depth sources = some members) :
    ∀ m ∈ sources, ∃ n ∈ members, m.2.resolve depth = some n.2 := by
  induction sources generalizing members with
  | nil => simp
  | cons m rest ih =>
    obtain ⟨k, v, vs, -, hv, hvs, rfl⟩ := resolveMembers_cons h
    intro n hn
    rcases List.mem_cons.mp hn with rfl | hn
    · exact ⟨(k, v), List.mem_cons_self, hv⟩
    · obtain ⟨p, hp, hresolve⟩ := ih hvs n hn
      exact ⟨p, List.mem_cons_of_mem _ hp, hresolve⟩

end Source

namespace Json

variable {members : List (String × Json)}

theorem exists_source (hscalar : ∀ m ∈ members, m.2.Scalar) (hdistinct : Distinct members) :
    ∃ source, Source.parse (textOf members) = some source ∧ source.Distinct := by
  have hread : ∀ m ∈ members, Source.ReadBack 0 m.2 := fun m hm =>
    Source.readBack_of_plain (hscalar m hm).plain
  obtain ⟨sources, hvalue, hsources⟩ :=
    Source.value_members hread (('\x7b' :: memberChars members).length + 1) [] (Nat.le_succ _)
  rw [List.append_nil] at hvalue
  have hparse : Source.parse (textOf members) = some (.object sources) :=
    Source.parse_ofList (Source.skip_cons_of_not_blank (by decide) _) hvalue
  refine ⟨.object sources, hparse, .object ?_ ?_⟩
  · rw [Source.keys_of_resolveMembers hsources]
    have hmap : members.map (fun m => some m.1) = (members.map Prod.fst).map some := by simp
    rw [hmap]
    refine List.Pairwise.map some ?_ hdistinct
    intro a b hne heq
    exact hne (Option.some.inj heq)
  · intro m hm
    obtain ⟨n, hn, hresolve⟩ := Source.exists_mem_of_resolveMembers hsources m hm
    exact Source.distinct_of_scalar (hscalar n hn) hresolve

/-! ## 2. All texts of the members -/

/-- **Every text of the members is one that they stand in as they come**, in some order. -/
theorem exists_textOf (hdistinct : Distinct members) {text : String} (h : Writes members text) :
    ∃ ms, ms.Perm members ∧ text = textOf ms := by
  obtain ⟨ms, hperm, rfl | rfl⟩ := h
  · exact ⟨ms, hperm, rfl⟩
  · exact ⟨arranged ms, (arranged_perm (hdistinct.perm hperm.symm)).trans hperm, rfl⟩

theorem plain_ofMembers {depth : Nat} (hdistinct : Distinct members) (h : ∀ m ∈ members, Plain depth m.2) :
    Plain (depth + 1) (ofMembers members) := by
  rw [ofMembers_eq]
  refine .object (arranged_sorted members) ?_
  intro m hm
  exact h m ((arranged_perm hdistinct).mem_iff.mp hm)

theorem ofMembers_eq_of_perm {ms : List (String × Json)} (hdistinct : Distinct members)
    (hperm : ms.Perm members) : ofMembers ms = ofMembers members := by
  rw [ofMembers_eq, ofMembers_eq, arranged_eq_of_perm (hdistinct.perm hperm.symm) hperm]

theorem parse_writes (hscalar : ∀ m ∈ members, m.2.Scalar) (hdistinct : Distinct members) {text : String}
    (h : Writes members text) : parse text = some (ofMembers members) := by
  obtain ⟨ms, hperm, htext⟩ := h
  have hplain : ∀ m ∈ ms, Plain 0 m.2 := fun m hm => (hscalar m (hperm.mem_iff.mp hm)).plain
  rw [← ofMembers_eq_of_perm hdistinct hperm]
  rcases htext with rfl | rfl
  · exact parse_memberChars (by decide) hplain
  · have hobject := plain_ofMembers (hdistinct.perm hperm.symm) hplain
    exact parse_render (hobject.mono (by decide))

/-- **What is read from the object of the members is read back from their texts.** -/
theorem readsBack {α : Type} {shape : Shape} {read : Json → Decoded α} (hagrees : shape.Agrees read)
    (hscalar : ∀ m ∈ members, m.2.Scalar) (hdistinct : Distinct members) {a : α}
    (hread : read (ofMembers members) = .ok a) : ReadsBack shape read members a := by
  refine ⟨hread, ?_⟩
  intro text htext
  have hvalue := parse_writes hscalar hdistinct htext
  refine ⟨hvalue, ?_⟩
  obtain ⟨ms, hperm, rfl⟩ := exists_textOf hdistinct htext
  obtain ⟨source, hsource, hsourceDistinct⟩ :=
    exists_source (fun m hm => hscalar m (hperm.mem_iff.mp hm)) (hdistinct.perm hperm.symm)
  rw [Shape.read_eq_of_agrees hagrees hsource hsourceDistinct hvalue, hread]
  rfl

end Json
end LiveLog
