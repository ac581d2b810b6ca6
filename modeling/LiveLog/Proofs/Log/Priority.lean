import LiveLog.Log.Category
import LiveLog.Proofs.Text.Smalls
import Mathlib.Data.List.Infix

/-!
# The priority of categories

A message is in the first category that it mentions. Two things follow from the word *first* once it is clear
what a message mentions. The category is determined by what is mentioned and by nothing else
(`ofMessage_eq_iff`). And text around a message can only add to what is mentioned, so the category of the
longer message is the same or one that comes before it.

The second point needs a keyword that was there to be still there, and that is less obvious than it looks:
the text around a message can change the small letters of the message itself. It cannot change a keyword,
for no keyword has a sigma (`hasNoSigma_of_mem_keywords`).
-/

namespace LiveLog.Category

/-- **What a message mentions**: a keyword of the category occurs in it, in any letter case. -/
def Mentions (message : String) (c : Category) : Prop :=
  ∃ k ∈ c.keywords, k.toList <:+: (Text.lower message).toList

/-- The place of a category in the order of priority. -/
def rank (c : Category) : Nat := all.idxOf c

/-! ## 1. What is mentioned -/

theorem occursIn_iff {word text : List Char} : occursIn word text = true ↔ word <:+: text := by
  induction text with
  | nil => simp [occursIn]
  | cons c rest ih =>
    unfold occursIn
    rw [Bool.or_eq_true, List.isPrefixOf_iff_prefix, ih, List.infix_cons_iff]

theorem mentioned_iff {message : String} {c : Category} :
    mentioned (Text.lower message).toList c = true ↔ Mentions message c := by
  unfold mentioned Mentions
  simp [occursIn_iff]

theorem hasNoSigma_of_mem_keywords {c : Category} {k : String} (hk : k ∈ c.keywords) :
    Text.HasNoSigma k.toList := by
  revert k
  cases c <;> simp [keywords, Text.HasNoSigma]

/-- **What a message mentions is mentioned by every text around it.** -/
theorem Mentions.embed {message : String} {c : Category} (h : Mentions message c) (before after : String) :
    Mentions (before ++ message ++ after) c := by
  obtain ⟨k, hk, hinfix⟩ := h
  have hsigma := hasNoSigma_of_mem_keywords hk
  rw [Text.infix_lower_iff hsigma] at hinfix
  refine ⟨k, hk, (Text.infix_lower_iff hsigma _).mpr ?_⟩
  rw [String.toList_append, String.toList_append, List.flatMap_append, List.flatMap_append]
  exact hinfix.trans (List.infix_append _ _ _)

/-! ## 2. The first of them -/

theorem idxOf_le_of_find? {l : List Category} {p : Category → Bool} {c d : Category}
    (hfind : l.find? p = some c) (hd : p d = true) : l.idxOf c ≤ l.idxOf d := by
  induction l with
  | nil => exact absurd hfind (by simp)
  | cons e rest ih =>
    rw [List.find?_cons] at hfind
    split at hfind
    · obtain rfl := Option.some.inj hfind
      simp
    · next he =>
      have hne : ∀ x, p x = true → (e == x) = false := by
        intro x hx
        apply beq_false_of_ne
        rintro rfl
        exact absurd (hx.symm.trans he) (by simp)
      rw [List.idxOf_cons, List.idxOf_cons, hne c (List.find?_some hfind), hne d hd]
      exact Nat.succ_le_succ (ih hfind)

theorem mem_all (c : Category) : c ∈ all := by cases c <;> decide

theorem rank_le_other (c : Category) : c.rank ≤ rank .other := by cases c <;> decide

theorem rank_injective {c d : Category} (h : c.rank = d.rank) : c = d :=
  (List.idxOf_inj (mem_all c)).mp h

theorem find?_eq_some {message : String} {c : Category} (h : Mentions message c) :
    all.find? (mentioned (Text.lower message).toList) = some (ofMessage message) := by
  have hsome : (all.find? (mentioned (Text.lower message).toList)).isSome = true :=
    List.find?_isSome.mpr ⟨c, mem_all c, mentioned_iff.mpr h⟩
  unfold ofMessage
  obtain ⟨d, hd⟩ := Option.isSome_iff_exists.mp hsome
  simp [hd]

/-- **The category of a message comes before all others that it mentions.** -/
theorem rank_ofMessage_le {message : String} {c : Category} (h : Mentions message c) :
    (ofMessage message).rank ≤ c.rank :=
  idxOf_le_of_find? (find?_eq_some h) (mentioned_iff.mpr h)

theorem mentions_ofMessage {message : String} {c : Category} (h : Mentions message c) :
    Mentions message (ofMessage message) :=
  mentioned_iff.mp (List.find?_some (find?_eq_some h))

theorem ofMessage_of_not_mentions {message : String} (h : ∀ c, ¬ Mentions message c) :
    ofMessage message = .other := by
  have hnone : all.find? (mentioned (Text.lower message).toList) = none := by
    rw [List.find?_eq_none]
    intro c _ hc
    exact h c (mentioned_iff.mp hc)
  unfold ofMessage
  simp [hnone]

/-- **The category is the first that is mentioned**, and what is left if none is. -/
theorem ofMessage_eq_iff {message : String} {c : Category} :
    ofMessage message = c ↔
      (Mentions message c ∧ ∀ d, d.rank < c.rank → ¬ Mentions message d) ∨
        (c = .other ∧ ∀ d, ¬ Mentions message d) := by
  constructor
  · rintro rfl
    by_cases h : ∃ d, Mentions message d
    · obtain ⟨d, hd⟩ := h
      refine .inl ⟨mentions_ofMessage hd, ?_⟩
      intro e hlt he
      exact absurd (rank_ofMessage_le he) (Nat.not_le.mpr hlt)
    · have hnone : ∀ d, ¬ Mentions message d := fun d hd => h ⟨d, hd⟩
      exact .inr ⟨ofMessage_of_not_mentions hnone, hnone⟩
  · rintro (⟨hc, hfirst⟩ | ⟨rfl, hnone⟩)
    · apply rank_injective
      apply Nat.le_antisymm (rank_ofMessage_le hc)
      apply Nat.le_of_not_lt
      intro hlt
      exact hfirst _ hlt (mentions_ofMessage hc)
    · exact ofMessage_of_not_mentions hnone

theorem rank_embed_le (before message after : String) :
    (ofMessage (before ++ message ++ after)).rank ≤ (ofMessage message).rank := by
  by_cases h : ∃ c, Mentions message c
  · obtain ⟨c, hc⟩ := h
    exact rank_ofMessage_le ((mentions_ofMessage hc).embed before after)
  · have hother : ofMessage message = .other := ofMessage_of_not_mentions fun c hc => h ⟨c, hc⟩
    rw [hother]
    exact rank_le_other _

/-- **Text around a message never demotes it**: the category of the whole stands at the same place in the
    order of priority or at an earlier one. And the category of any message is the first in that order with
    a keyword in the message in small letters; it is `other` exactly if no category has one. -/
theorem embedding_never_demotes :
    (∀ before message after : String,
      (ofMessage (before ++ message ++ after)).rank ≤ (ofMessage message).rank) ∧
    (∀ (message : String) (c : Category), ofMessage message = c ↔
      (Mentions message c ∧ ∀ d, d.rank < c.rank → ¬ Mentions message d) ∨
        (c = .other ∧ ∀ d, ¬ Mentions message d)) ∧
    [Category.auth, .database, .network, .system, .other].map rank = [0, 1, 2, 3, 4] :=
  ⟨rank_embed_le, fun _ _ => ofMessage_eq_iff, by decide⟩

end LiveLog.Category
