import LiveLog.Viewer.Notification
import Mathlib.Data.List.Basic
import Mathlib.Data.List.Induction

/-!
# The queue of messages

A message leaves the queue in one of two ways: its lifetime is over, or the user dismisses it as the oldest
one. The two look at different things. Dismissing takes what stands in front, and expiring goes through
the whole queue and looks at each message's moment only, so it could well take one out of the middle.

It does not, because messages enter in the order of time: the ones whose lifetime is over stand in front of
the others (`expire_items_eq_dropWhile`). So a queue is at every time the end of all that was ever pushed, and one
number says how it stands, which is how many have left (`left`). A message is told from another of the
same words and moment by its place among the pushed ones.
-/

namespace LiveLog

/-- The moment at which the lifetime of a message is over. -/
def Notification.endsAt (n : Notification) (lifetime : Duration) : Duration :=
  ⟨n.shownAt.nanos + lifetime.nanos⟩

theorem Notification.isCurrent_iff {n : Notification} {lifetime now : Duration} (h : n.shownAt ≤ now) :
    n.isCurrent lifetime now = true ↔ ¬ n.endsAt lifetime ≤ now := by
  have hshown : n.shownAt.nanos ≤ now.nanos := h
  show decide (now.nanos - n.shownAt.nanos < lifetime.nanos) = true ↔
    ¬ n.shownAt.nanos + lifetime.nanos ≤ now.nanos
  rw [decide_eq_true_iff]
  omega

namespace Notifications

/-! ## 1. Calls -/

/-- What a queue can be called for. -/
inductive Call where
  | push (kind : NotificationKind) (message : String) (now : Duration)
  | expire (now : Duration)
  | dismiss
deriving DecidableEq, Repr

namespace Call

/-- The moment of a call. Nobody looks at the clock to dismiss a message. -/
def moment? : Call → Option Duration
  | .push _ _ now => some now
  | .expire now => some now
  | .dismiss => none

/-- The message that a call pushes. -/
def pushed? : Call → Option Notification
  | .push kind message now => some { kind, message, shownAt := now }
  | .expire _ => none
  | .dismiss => none

theorem moment?_of_pushed? {c : Call} {n : Notification} (h : c.pushed? = some n) :
    c.moment? = some n.shownAt := by
  cases c with
  | push kind message now =>
    obtain rfl := Option.some.inj h
    rfl
  | expire now => exact absurd h (by simp [pushed?])
  | dismiss => exact absurd h (by simp [pushed?])

end Call

/-- The queue after a call. -/
def call (q : Notifications) : Call → Notifications
  | .push kind message now => q.push kind message now
  | .expire now => (q.expire now).2
  | .dismiss => q.dismiss.2

/-- **The queue after some calls**, from an empty one on. -/
def after (lifetime : Duration) (calls : List Call) : Notifications := calls.foldl call { lifetime }

/-- **All messages that some calls pushed**, first to last. -/
def pushed (calls : List Call) : List Notification := calls.filterMap Call.pushed?

/-- The moments of some calls. -/
def moments (calls : List Call) : List Duration := calls.filterMap Call.moment?

/-- **How many of the pushed messages have left the queue.** -/
def left (lifetime : Duration) (calls : List Call) : Nat :=
  (pushed calls).length - (after lifetime calls).items.length

variable {lifetime : Duration} {calls : List Call}

theorem after_concat (lifetime : Duration) (calls : List Call) (c : Call) :
    after lifetime (calls ++ [c]) = (after lifetime calls).call c := List.foldl_concat ..

theorem pushed_concat (calls : List Call) (c : Call) :
    pushed (calls ++ [c]) = pushed calls ++ c.pushed?.toList := by
  unfold pushed
  rw [List.filterMap_append]
  cases c <;> rfl

theorem moments_concat (calls : List Call) (c : Call) :
    moments (calls ++ [c]) = moments calls ++ c.moment?.toList := by
  unfold moments
  rw [List.filterMap_append]
  cases c <;> rfl

theorem lifetime_call (q : Notifications) (c : Call) : (q.call c).lifetime = q.lifetime := by
  cases c <;> rfl

theorem lifetime_after (lifetime : Duration) (calls : List Call) : (after lifetime calls).lifetime = lifetime := by
  induction calls using List.reverseRecOn with
  | nil => rfl
  | append_singleton calls c ih => rw [after_concat, lifetime_call, ih]

theorem mem_moments_of_mem_pushed {n : Notification} (hn : n ∈ pushed calls) : n.shownAt ∈ moments calls := by
  obtain ⟨c, hc, hpushed⟩ := List.mem_filterMap.mp hn
  exact List.mem_filterMap.mpr ⟨c, hc, Call.moment?_of_pushed? hpushed⟩

/-- Messages are pushed in the order of time if the calls are made in it. -/
theorem pairwise_pushed (h : (moments calls).Pairwise (· ≤ ·)) :
    (pushed calls).Pairwise fun a b => a.shownAt ≤ b.shownAt := by
  induction calls using List.reverseRecOn with
  | nil => exact List.Pairwise.nil
  | append_singleton calls c ih =>
    rw [moments_concat] at h
    obtain ⟨hbefore, -, hlast⟩ := List.pairwise_append.mp h
    rw [pushed_concat]
    refine List.pairwise_append.mpr ⟨ih hbefore, ?_, ?_⟩
    · cases c <;> simp [Call.pushed?]
    · intro a ha b hb
      have hmoment := Call.moment?_of_pushed? (Option.mem_toList.mp hb)
      exact hlast _ (mem_moments_of_mem_pushed ha) _ (Option.mem_toList.mpr hmoment)

/-! ## 2. What is too old stands in front -/

theorem filter_eq_dropWhile {α : Type} {p : α → Bool} {l : List α}
    (h : l.Pairwise fun a b => p a = true → p b = true) : l.filter p = l.dropWhile fun a => !p a := by
  induction l with
  | nil => rfl
  | cons a l ih =>
    obtain ⟨hfirst, hrest⟩ := List.pairwise_cons.mp h
    by_cases hp : p a = true
    · have hall : ∀ b ∈ a :: l, p b = true := by
        intro b hb
        rcases List.mem_cons.mp hb with rfl | hb
        · exact hp
        · exact hfirst b hb hp
      rw [List.filter_eq_self.mpr hall, List.dropWhile_cons_of_neg (by simp [hp])]
    · rw [List.filter_cons_of_neg hp, List.dropWhile_cons_of_pos (by simp [hp]), ih hrest]

/-- What `dropWhile` takes away has the property that it is taken away for. -/
theorem exists_getElem?_of_dropWhile {α : Type} {p : α → Bool} {l : List α} {k : Nat}
    (hk : k < l.length - (l.dropWhile p).length) : ∃ a, l[k]? = some a ∧ p a = true := by
  induction l generalizing k with
  | nil => exact absurd hk (by simp)
  | cons a l ih =>
    have hlength := (List.dropWhile_sublist p (l := l)).length_le
    by_cases hp : p a = true
    · rw [List.dropWhile_cons_of_pos hp, List.length_cons] at hk
      cases k with
      | zero => exact ⟨a, rfl, hp⟩
      | succ k =>
        obtain ⟨b, hb, hpb⟩ := ih (k := k) (by omega)
        exact ⟨b, hb, hpb⟩
    · rw [List.dropWhile_cons_of_neg hp] at hk
      omega

variable {q : Notifications} {now : Duration}

/-- **Expiring takes messages from the front**, if the queue is in the order of time. -/
theorem expire_items_eq_dropWhile (now : Duration) (h : q.items.Pairwise fun a b => a.shownAt ≤ b.shownAt) :
    (q.expire now).2.items = q.items.dropWhile fun n => !n.isCurrent q.lifetime now := by
  refine filter_eq_dropWhile (h.imp ?_)
  intro a b hab hcurrent
  have hlater : a.shownAt.nanos ≤ b.shownAt.nanos := hab
  have hyoung : now.nanos - a.shownAt.nanos < q.lifetime.nanos := of_decide_eq_true hcurrent
  exact decide_eq_true (show now.nanos - b.shownAt.nanos < q.lifetime.nanos by omega)

theorem expire_answer_iff (h : ∀ n ∈ q.items, n.shownAt ≤ now) :
    (q.expire now).1 = true ↔ ∃ n ∈ q.items, n.endsAt q.lifetime ≤ now := by
  show ((q.items.filter _).length != q.items.length) = true ↔ _
  rw [bne_iff_ne, ne_eq, List.length_filter_eq_length_iff]
  constructor
  · intro hsome
    obtain ⟨n, hn⟩ := Classical.not_forall.mp hsome
    obtain ⟨hn, hold⟩ := Classical.not_imp.mp hn
    rw [Notification.isCurrent_iff (h n hn), Decidable.not_not] at hold
    exact ⟨n, hn, hold⟩
  · rintro ⟨n, hn, hold⟩ hall
    exact (Notification.isCurrent_iff (h n hn)).mp (hall n hn) hold

/-! ## 3. The end of what was pushed -/

/-- **The queue is the end of what was pushed.** -/
theorem items_suffix (h : (moments calls).Pairwise (· ≤ ·)) :
    (after lifetime calls).items <:+ pushed calls := by
  induction calls using List.reverseRecOn with
  | nil => exact List.suffix_refl _
  | append_singleton calls c ih =>
    rw [moments_concat] at h
    have hbefore := (List.pairwise_append.mp h).1
    rw [after_concat, pushed_concat]
    cases c with
    | push kind message now =>
      obtain ⟨gone, hgone⟩ := ih hbefore
      exact ⟨gone, by rw [← hgone, List.append_assoc]; rfl⟩
    | expire now =>
      have hsorted := (pairwise_pushed hbefore).sublist (ih hbefore).sublist
      show ((after lifetime calls).expire now).2.items <:+ pushed calls ++ []
      rw [List.append_nil, expire_items_eq_dropWhile now hsorted]
      exact (List.dropWhile_suffix _).trans (ih hbefore)
    | dismiss =>
      show (after lifetime calls).items.tail <:+ pushed calls ++ []
      rw [List.append_nil]
      exact (List.tail_suffix _).trans (ih hbefore)

theorem items_eq_drop_left (h : (moments calls).Pairwise (· ≤ ·)) :
    (after lifetime calls).items = (pushed calls).drop (left lifetime calls) :=
  List.suffix_iff_eq_drop.mp (items_suffix h)

/-! ## 4. How a message leaves -/

theorem length_items_le (h : (moments calls).Pairwise (· ≤ ·)) :
    (after lifetime calls).items.length ≤ (pushed calls).length := (items_suffix h).length_le

theorem left_le_left_concat (lifetime : Duration) (calls : List Call) (c : Call) :
    left lifetime calls ≤ left lifetime (calls ++ [c]) := by
  unfold left
  rw [after_concat, pushed_concat, List.length_append]
  cases c with
  | push kind message now =>
    show _ ≤ _ + 1 - ((after lifetime calls).items ++ [_]).length
    rw [List.length_append, List.length_singleton]
    omega
  | expire now =>
    have hkept : ((after lifetime calls).expire now).2.items.length ≤ (after lifetime calls).items.length :=
      List.length_filter_le _ _
    exact Nat.sub_le_sub_left hkept _
  | dismiss =>
    have hkept : (after lifetime calls).dismiss.2.items.length ≤ (after lifetime calls).items.length :=
      (List.tail_sublist _).length_le
    exact Nat.sub_le_sub_left hkept _

/-- **A message that leaves at a call was the oldest one and dismissed, or its lifetime was over.** -/
theorem leaves_by {c : Call} {i : Nat} (h : (moments (calls ++ [c])).Pairwise (· ≤ ·))
    (hqueued : left lifetime calls ≤ i) (hgone : i < left lifetime (calls ++ [c])) :
    c = .dismiss ∧ i = left lifetime calls ∨
      ∃ n now, (pushed calls)[i]? = some n ∧ c = .expire now ∧ n.endsAt lifetime ≤ now := by
  rw [moments_concat] at h
  obtain ⟨hbefore, -, hlast⟩ := List.pairwise_append.mp h
  have hlength : (after lifetime calls).items.length ≤ (pushed calls).length := length_items_le hbefore
  rw [left, after_concat, pushed_concat, List.length_append] at hgone
  cases c with
  | push kind message now =>
    have hgone : i < (pushed calls).length + 1 - ((after lifetime calls).items ++ [_]).length := hgone
    rw [List.length_append, List.length_singleton] at hgone
    unfold left at hqueued
    omega
  | dismiss =>
    have hgone : i < (pushed calls).length + 0 - (after lifetime calls).items.tail.length := hgone
    rw [List.length_tail] at hgone
    unfold left at hqueued ⊢
    exact Or.inl ⟨rfl, by omega⟩
  | expire now =>
    refine Or.inr ?_
    have hsuffix : (after lifetime calls).items <:+ pushed calls := items_suffix hbefore
    have hsorted := (pairwise_pushed hbefore).sublist hsuffix.sublist
    have hgone : i < (pushed calls).length + 0 - ((after lifetime calls).expire now).2.items.length := hgone
    rw [expire_items_eq_dropWhile now hsorted] at hgone
    have hfront : i - left lifetime calls < (after lifetime calls).items.length -
        ((after lifetime calls).items.dropWhile
          fun n => !n.isCurrent (after lifetime calls).lifetime now).length := by
      unfold left at hqueued ⊢
      omega
    obtain ⟨n, hn, hold⟩ := exists_getElem?_of_dropWhile hfront
    rw [items_eq_drop_left hbefore, List.getElem?_drop, Nat.add_sub_cancel' hqueued] at hn
    have hpast : n.shownAt ≤ now :=
      hlast _ (mem_moments_of_mem_pushed (List.mem_of_getElem? hn)) now (by simp [Call.moment?])
    rw [lifetime_after, Bool.not_eq_true', Bool.eq_false_iff, ne_eq, Notification.isCurrent_iff hpast,
      Decidable.not_not] at hold
    exact ⟨n, now, hn, rfl, hold⟩

/-! ## 5. Every run -/

/-- **The discipline of the queue**, for every lifetime and all calls in the order of time.

    What is queued are the pushed messages, in their order, without the first so many, which have left. At an
    expiry exactly those stay whose lifetime is not over, they are again the last of the queue, and the
    answer says whether one left. Dismissing takes the oldest message, if there is one, and no other. And
    so a message leaves at no other call than when it is dismissed as the oldest one, or at an expiry at or
    after the end of its lifetime, and none of those that left comes back. -/
theorem leaves_oldest_or_over (lifetime : Duration) (calls : List Call)
    (hordered : (moments calls).Pairwise (· ≤ ·)) :
    let q := after lifetime calls
    q.items = (pushed calls).drop (left lifetime calls) ∧
    (∀ now, (∀ earlier ∈ moments calls, earlier ≤ now) →
      (q.expire now).2.items = (q.items.filter fun n => ¬ n.endsAt lifetime ≤ now) ∧
      (q.expire now).2.items <:+ q.items ∧
      ((q.expire now).1 = true ↔ ∃ n ∈ q.items, n.endsAt lifetime ≤ now)) ∧
    q.dismiss.2.items = q.items.drop 1 ∧
    (q.dismiss.1 = true ↔ q.items ≠ []) ∧
    ∀ before c, before ++ [c] <+: calls →
      left lifetime before ≤ left lifetime (before ++ [c]) ∧
      ∀ i, left lifetime before ≤ i → i < left lifetime (before ++ [c]) →
        c = .dismiss ∧ i = left lifetime before ∨
        ∃ n now, (pushed calls)[i]? = some n ∧ c = .expire now ∧ n.endsAt lifetime ≤ now := by
  intro q
  have hsuffix : q.items <:+ pushed calls := items_suffix hordered
  have hlifetime : q.lifetime = lifetime := lifetime_after lifetime calls
  refine ⟨items_eq_drop_left hordered, ?_, ?_, ?_, ?_⟩
  · intro now hnow
    have hpast : ∀ n ∈ q.items, n.shownAt ≤ now := fun n hn =>
      hnow _ (mem_moments_of_mem_pushed (hsuffix.subset hn))
    refine ⟨?_, ?_, ?_⟩
    · show q.items.filter _ = _
      refine List.filter_congr ?_
      intro n hn
      rw [hlifetime, Bool.eq_iff_iff, decide_eq_true_iff]
      exact Notification.isCurrent_iff (hpast n hn)
    · rw [expire_items_eq_dropWhile now ((pairwise_pushed hordered).sublist hsuffix.sublist)]
      exact List.dropWhile_suffix _
    · rw [expire_answer_iff hpast, hlifetime]
  · exact List.drop_one.symm
  · show (!q.items.isEmpty) = true ↔ q.items ≠ []
    simp
  · intro before c hmade
    refine ⟨left_le_left_concat lifetime before c, ?_⟩
    intro i hqueued hgone
    have hearlier : (moments (before ++ [c])).Pairwise (· ≤ ·) :=
      hordered.sublist (hmade.filterMap _).sublist
    rcases leaves_by hearlier hqueued hgone with hdismissed | ⟨n, now, hn, hc, hover⟩
    · exact Or.inl hdismissed
    · refine Or.inr ⟨n, now, ?_, hc, hover⟩
      obtain ⟨later, hlater⟩ : pushed before <+: pushed calls :=
        ((List.prefix_append before [c]).trans hmade).filterMap _
      rw [← hlater, List.getElem?_append_left (List.getElem?_eq_some_iff.mp hn).1, hn]

/-- A message that is dismissed, one that stays to the last nanosecond of its lifetime and then leaves, and one
    that is still there. -/
theorem leaves_at_the_end_of_its_lifetime :
    let calls : List Call := [.push .info "first" ⟨0⟩, .push .info "second" ⟨1000⟩, .dismiss, .expire ⟨3999⟩,
      .push .error "third" ⟨3999⟩, .expire ⟨4000⟩]
    (moments calls).Pairwise (· ≤ ·) ∧
    (after ⟨3000⟩ calls).items = (pushed calls).drop 2 ∧
    ∃ n now, (pushed calls)[1]? = some n ∧ Call.expire ⟨4000⟩ = .expire now ∧ n.endsAt ⟨3000⟩ ≤ now := by
  intro calls
  have hordered : (moments calls).Pairwise (· ≤ ·) := by decide
  obtain ⟨hitems, -, -, -, hleaves⟩ := leaves_oldest_or_over ⟨3000⟩ calls hordered
  have hlast := (hleaves (calls.take 5) (.expire ⟨4000⟩) (by decide)).2 1 (by decide) (by decide)
  exact ⟨hordered, hitems, hlast.resolve_left (by simp)⟩

end Notifications
end LiveLog
