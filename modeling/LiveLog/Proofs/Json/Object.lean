import LiveLog.Json.Value

/-!
# The members of an object

An object is built from members in any order, with keys that may repeat, and holds them sorted with each
key once. Readers of an object only ever ask for the value of a key, so the one fact that they need is
what a key has as its value: **the value of the last member of that key** (`lookup_arranged`). Where the
members are in order already, nothing changes (`arranged_of_pairwise`). And where no key is given twice, the
order in which the members come is no part of the object (`arranged_eq_of_perm`).
-/

namespace LiveLog
namespace Json

/-- The members of the object that is built from these. -/
def arranged (ms : List (String × Json)) : List (String × Json) :=
  ms.foldl (fun acc m => insert m.1 m.2 acc) []

theorem ofMembers_eq (ms : List (String × Json)) : ofMembers ms = .object (arranged ms) := rfl

/-! ## 1. The value of a key -/

theorem lookup_cons_ite (k : String) (m : String × Json) (ms : List (String × Json)) :
    (m :: ms).lookup k = if k = m.1 then some m.2 else ms.lookup k := by
  rw [List.lookup_cons]
  by_cases hk : k = m.1
  · rw [if_pos hk, hk, beq_self_eq_true]
  · rw [if_neg hk, beq_false_of_ne hk]

theorem lookup_insert (key : String) (value : Json) (ms : List (String × Json)) (k : String) :
    (insert key value ms).lookup k = if k = key then some value else ms.lookup k := by
  induction ms with
  | nil => rw [insert, lookup_cons_ite]
  | cons m rest ih =>
    obtain ⟨l, x⟩ := m
    rw [insert]
    by_cases hkey : key = l
    · subst hkey
      rw [if_pos rfl, lookup_cons_ite, lookup_cons_ite]
      by_cases hk : k = key <;> simp [hk]
    · rw [if_neg hkey]
      by_cases hlt : key < l
      · rw [if_pos hlt, lookup_cons_ite]
      · rw [if_neg hlt, lookup_cons_ite, lookup_cons_ite, ih]
        by_cases hk : k = key
        · subst hk
          simp [hkey]
        · simp [hk]

theorem lookup_foldl_insert (ms acc : List (String × Json)) (k : String) :
    (ms.foldl (fun acc m => insert m.1 m.2 acc) acc).lookup k = (ms.reverse.lookup k).or (acc.lookup k) := by
  induction ms generalizing acc with
  | nil => simp
  | cons m rest ih =>
    rw [List.foldl_cons, ih, lookup_insert, List.reverse_cons, List.lookup_append, lookup_cons_ite,
      Option.or_assoc]
    by_cases hk : k = m.1 <;> simp [hk]

/-- **The last member of a key gives its value.** -/
theorem lookup_arranged (ms : List (String × Json)) (k : String) :
    (arranged ms).lookup k = ms.reverse.lookup k := by
  rw [arranged, lookup_foldl_insert]
  simp

theorem get?_ofMembers (ms : List (String × Json)) (k : String) :
    (ofMembers ms).get? k = ms.reverse.lookup k := lookup_arranged ms k

/-- What is dropped for its key is missed only under such keys. -/
theorem lookup_filter_of_pos {p : String → Bool} {k : String} (hk : p k = true) (ms : List (String × Json)) :
    (ms.filter fun m => p m.1).lookup k = ms.lookup k := by
  induction ms with
  | nil => rfl
  | cons m rest ih =>
    rw [List.filter_cons]
    by_cases hm : k = m.1
    · rw [if_pos (hm ▸ hk), lookup_cons_ite, lookup_cons_ite, if_pos hm, if_pos hm]
    · rw [lookup_cons_ite, if_neg hm]
      split
      · rw [lookup_cons_ite, if_neg hm, ih]
      · exact ih

/-! ## 2. Members in order -/

theorem insert_of_forall_lt {key : String} {value : Json} {ms : List (String × Json)}
    (h : ∀ m ∈ ms, m.1 < key) : insert key value ms = ms ++ [(key, value)] := by
  induction ms with
  | nil => rfl
  | cons m rest ih =>
    have hm : m.1 < key := h m List.mem_cons_self
    have hne : key ≠ m.1 := fun heq => String.lt_irrefl _ (heq ▸ hm)
    rw [insert, if_neg hne, if_neg (String.lt_asymm hm), ih fun m hm => h m (List.mem_cons_of_mem _ hm)]
    rfl

theorem foldl_insert_of_pairwise (ms acc : List (String × Json))
    (h : (acc ++ ms).Pairwise fun a b => a.1 < b.1) :
    ms.foldl (fun acc m => insert m.1 m.2 acc) acc = acc ++ ms := by
  induction ms generalizing acc with
  | nil => simp
  | cons m rest ih =>
    have hacc : ∀ a ∈ acc, a.1 < m.1 := fun a ha =>
      (List.pairwise_append.mp h).2.2 a ha m List.mem_cons_self
    rw [List.append_cons] at h
    rw [List.foldl_cons, insert_of_forall_lt hacc, ih _ h, List.append_cons acc m rest]

/-- **Members that are in order stay as they are.** -/
theorem arranged_of_pairwise {ms : List (String × Json)} (h : ms.Pairwise fun a b => a.1 < b.1) :
    arranged ms = ms := foldl_insert_of_pairwise ms [] h

/-! ## 3. Members in any order -/

/-- No key is given twice. -/
def Distinct (ms : List (String × Json)) : Prop := (ms.map Prod.fst).Nodup

theorem Distinct.perm {ms ms' : List (String × Json)} (h : Distinct ms) (hperm : ms.Perm ms') :
    Distinct ms' :=
  (hperm.map Prod.fst).nodup_iff.mp h

theorem Distinct.lookup_eq_some_iff {ms : List (String × Json)} (h : Distinct ms) {k : String} {v : Json} :
    ms.lookup k = some v ↔ (k, v) ∈ ms := by
  induction ms with
  | nil => simp
  | cons m rest ih =>
    obtain ⟨l, x⟩ := m
    obtain ⟨hl, hrest⟩ := List.nodup_cons.mp h
    rw [lookup_cons_ite, List.mem_cons]
    by_cases hk : k = l
    · subst hk
      have hnot : (k, v) ∉ rest := fun hmem => hl (List.mem_map.mpr ⟨(k, v), hmem, rfl⟩)
      simp [hnot, eq_comm]
    · simp [hk, ih hrest]

theorem Distinct.lookup_perm {ms ms' : List (String × Json)} (h : Distinct ms) (hperm : ms.Perm ms')
    (k : String) : ms.lookup k = ms'.lookup k := by
  apply Option.ext
  intro v
  rw [h.lookup_eq_some_iff, (h.perm hperm).lookup_eq_some_iff, hperm.mem_iff]

theorem Distinct.lookup_arranged {ms : List (String × Json)} (h : Distinct ms) (k : String) :
    (arranged ms).lookup k = ms.lookup k := by
  rw [Json.lookup_arranged]
  exact ((h.perm (List.reverse_perm ms).symm).lookup_perm (List.reverse_perm ms) k)

theorem insert_perm {key : String} {ms : List (String × Json)} (h : ∀ m ∈ ms, m.1 ≠ key) (value : Json) :
    (insert key value ms).Perm ((key, value) :: ms) := by
  induction ms with
  | nil => exact .refl _
  | cons m rest ih =>
    obtain ⟨l, x⟩ := m
    have hl : key ≠ l := (h (l, x) List.mem_cons_self).symm
    have hrest := ih fun m hm => h m (List.mem_cons_of_mem _ hm)
    unfold insert
    rw [if_neg hl]
    split
    · exact .refl _
    · exact (hrest.cons _).trans (.swap _ _ _)

theorem arranged_perm {ms : List (String × Json)} (h : Distinct ms) : (arranged ms).Perm ms := by
  have hfold : ∀ acc : List (String × Json), Distinct (acc ++ ms) →
      (ms.foldl (fun acc m => insert m.1 m.2 acc) acc).Perm (acc ++ ms) := by
    clear h
    induction ms with
    | nil => intro acc _; simp
    | cons m rest ih =>
      intro acc hacc
      have hmiddle : (acc ++ m :: rest).Perm (m :: acc ++ rest) := List.perm_middle
      have hm : ∀ a ∈ acc, a.1 ≠ m.1 := by
        intro a ha heq
        have hkeys : m.1 ∉ (acc ++ rest).map Prod.fst := (List.nodup_cons.mp (hacc.perm hmiddle)).1
        rw [← heq] at hkeys
        exact hkeys (List.mem_map_of_mem (List.mem_append_left rest ha))
      have hinsert : (insert m.1 m.2 acc ++ rest).Perm (m :: acc ++ rest) :=
        (insert_perm hm m.2).append_right rest
      have hnext := ih _ (hacc.perm (hmiddle.trans hinsert.symm))
      exact hnext.trans (hinsert.trans hmiddle.symm)
  exact hfold [] h

theorem mem_of_mem_insert {key : String} {value : Json} {ms : List (String × Json)} {m : String × Json}
    (h : m ∈ insert key value ms) : m = (key, value) ∨ m ∈ ms := by
  induction ms with
  | nil => simpa [insert] using h
  | cons n rest ih =>
    obtain ⟨l, x⟩ := n
    unfold insert at h
    split at h
    · rcases List.mem_cons.mp h with rfl | h
      · exact .inl rfl
      · exact .inr (List.mem_cons_of_mem _ h)
    · split at h
      · exact List.mem_cons.mp h
      · rcases List.mem_cons.mp h with rfl | h
        · exact .inr List.mem_cons_self
        · exact (ih h).imp_right (List.mem_cons_of_mem _)

theorem insert_sorted {ms : List (String × Json)} (h : ms.Pairwise fun a b => a.1 < b.1) (key : String)
    (value : Json) : (insert key value ms).Pairwise fun a b => a.1 < b.1 := by
  induction ms with
  | nil => simp [insert]
  | cons m rest ih =>
    obtain ⟨l, x⟩ := m
    obtain ⟨hl, hrest⟩ := List.pairwise_cons.mp h
    unfold insert
    split
    case isTrue heq =>
      subst heq
      exact List.pairwise_cons.mpr ⟨hl, hrest⟩
    case isFalse hne =>
      split
      case isTrue hlt =>
        refine List.pairwise_cons.mpr ⟨?_, h⟩
        intro m hm
        rcases List.mem_cons.mp hm with rfl | hm
        · exact hlt
        · exact String.lt_trans hlt (hl m hm)
      case isFalse hge =>
        have hlt : l < key := Std.lt_of_le_of_ne (String.not_lt.mp hge) (Ne.symm hne)
        refine List.pairwise_cons.mpr ⟨?_, ih hrest⟩
        intro m hm
        rcases mem_of_mem_insert hm with rfl | hm
        · exact hlt
        · exact hl m hm

theorem arranged_sorted (ms : List (String × Json)) : (arranged ms).Pairwise fun a b => a.1 < b.1 := by
  have hfold : ∀ acc : List (String × Json), acc.Pairwise (fun a b => a.1 < b.1) →
      (ms.foldl (fun acc m => insert m.1 m.2 acc) acc).Pairwise fun a b => a.1 < b.1 := by
    induction ms with
    | nil => exact fun acc hacc => hacc
    | cons m rest ih => exact fun acc hacc => ih _ (insert_sorted hacc m.1 m.2)
  exact hfold [] .nil

/-- **The order of the members is no part of an object**, if no key is given twice. -/
theorem arranged_eq_of_perm {ms ms' : List (String × Json)} (h : Distinct ms) (hperm : ms.Perm ms') :
    arranged ms = arranged ms' := by
  have hboth : (arranged ms).Perm (arranged ms') :=
    (arranged_perm h).trans (hperm.trans (arranged_perm (h.perm hperm)).symm)
  apply List.Perm.eq_of_pairwise _ (arranged_sorted ms) (arranged_sorted ms') hboth
  intro a b _ _ hab hba
  exact absurd hba (String.lt_asymm hab)

end Json
end LiveLog
