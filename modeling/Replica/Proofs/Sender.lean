/-
# What a sender has still to send

The records of an outbox that the peer has not been told to have taken: those of the batch at
hand and those in the queue (`Outbox.pending`).  Going on moves records from the queue to the
batch and keeps them all, in order.  **Records leave in three ways only**: with a batch that was
taken (`pending_answered_of_tookAll`), with one that is given up (`givesUp`), or because the
sender is ended (`isEndedWith`).
-/

import Replica.Outbox

namespace Replica

/-- The batch that a sender has at hand. -/
def Phase.batch : Phase → List String
  | .collecting batch _ => batch
  | .calling batch => batch
  | .retrying batch _ => batch
  | _ => []

namespace Outbox

/-- What has not been taken yet, in order. -/
def pending (o : Outbox) : List String := o.phase.batch ++ o.queue

theorem pending_of_phase {o : Outbox} {phase : Phase} (hp : o.phase = phase) :
    o.pending = phase.batch ++ o.queue := by
  rw [pending, hp]

/-- Whether the sender gives its batch up when its call ends so. -/
def givesUp (o : Outbox) (result : Except Error Nat) : Bool :=
  match o.phase with
  | .calling batch => !tookAll batch result && o.backoff.next.1.isNone
  | _ => false

/-- What is left to send when the call ends so. -/
def leftBy (o : Outbox) (result : Except Error Nat) : List String :=
  match o.phase with
  | .calling batch => if tookAll batch result then o.queue else o.pending
  | _ => o.pending

/-- Whether the sender has ended, and that with records left. -/
def isEndedWith (o : Outbox) (left : List String) : Bool := o.phase = .stopped && !left.isEmpty

/-! ## 1. Collecting -/

variable {o : Outbox} {now : Moment}

theorem fill_eq (o : Outbox) (batch : List String) :
    (o.fill batch).1 ++ (o.fill batch).2.queue = batch ++ o.queue := by
  simp [fill]

/-- **Collecting keeps every record.** -/
theorem pending_collect (o : Outbox) (now : Moment) (batch : List String) (deadline : Moment) :
    (o.collect now batch deadline).pending = batch ++ o.queue := by
  have hfill := fill_eq o batch
  unfold collect
  generalize o.fill batch = x at hfill ⊢
  obtain ⟨batch', o'⟩ := x
  simp only at hfill ⊢
  split
  · split
    · next hempty =>
      rw [List.isEmpty_iff.1 hempty] at hfill
      exact hfill
    · exact hfill
  · exact hfill

theorem pending_begin (o : Outbox) (now : Moment) : (o.begin now).pending = o.queue :=
  pending_collect o now [] _

theorem pending_proceed (o : Outbox) (now : Moment) : (o.proceed now).pending = o.queue := by
  unfold proceed
  split
  · rfl
  · exact pending_begin o now

/-! ## 2. Going on -/

theorem pending_halt (h : isEndedWith o.halt o.pending = false) : o.halt.pending = o.pending := by
  have hnil : o.pending = [] := by simpa [isEndedWith, halt] using h
  have hqueue : o.queue = [] := (List.append_eq_nil_iff.1 hnil).2
  rw [hnil]
  exact hqueue

theorem resume_eq_halt_or (o : Outbox) (now : Moment) :
    o.resume now = o.halt ∨ (o.resume now).pending = o.pending := by
  unfold resume
  cases hp : o.phase with
  | calling batch => exact Or.inr rfl
  | stopped => exact Or.inr rfl
  | fresh =>
    simp only
    split
    · exact Or.inl rfl
    · rw [pending_begin]
      exact Or.inr (by simp [pending, hp, Phase.batch])
  | collecting batch deadline =>
    simp only
    split
    · exact Or.inl rfl
    · rw [pending_collect]
      exact Or.inr (by simp [pending, hp, Phase.batch])
  | resting wakes =>
    simp only
    split
    · exact Or.inl rfl
    · split
      · rw [pending_begin]
        exact Or.inr (by simp [pending, hp, Phase.batch])
      · exact Or.inr rfl
  | retrying batch wakes =>
    simp only
    split
    · exact Or.inl rfl
    · split
      · exact Or.inr (by simp [pending, hp, Phase.batch])
      · exact Or.inr rfl

/-- **Going on keeps every record**, unless the sender ends. -/
theorem pending_resume (h : isEndedWith (o.resume now) o.pending = false) :
    (o.resume now).pending = o.pending := by
  rcases o.resume_eq_halt_or now with hhalt | hkeep
  · rw [hhalt] at h ⊢
    exact pending_halt h
  · exact hkeep

/-- Going on adds no record. -/
theorem mem_pending_of_mem_resume {s : String} (h : s ∈ (o.resume now).pending) : s ∈ o.pending := by
  rcases o.resume_eq_halt_or now with hhalt | hkeep
  · rw [hhalt] at h
    exact List.mem_append_right _ h
  · rwa [hkeep] at h

/-! ## 3. The end of a call -/

/-- **A batch that was taken leaves**, and nothing else does. -/
theorem pending_answered_of_tookAll {batch : List String} {result : Except Error Nat}
    (hp : o.phase = .calling batch) (ht : tookAll batch result = true) :
    (o.answered now result).pending = o.queue := by
  unfold answered
  simp only [hp, if_pos ht]
  exact pending_proceed _ now

/-- **A batch that was not taken stays**, unless it is given up or the sender ends. -/
theorem pending_answered_of_not_tookAll {batch : List String} {result : Except Error Nat}
    (hp : o.phase = .calling batch) (ht : tookAll batch result = false)
    (hg : o.givesUp result = false)
    (he : isEndedWith (o.answered now result) (o.leftBy result) = false) :
    (o.answered now result).pending = o.pending := by
  have hleft : o.leftBy result = o.pending := by simp [leftBy, hp, ht]
  have hdelay : o.backoff.next.1.isNone = false := by simpa [givesUp, hp, ht] using hg
  rw [hleft] at he
  unfold answered at he ⊢
  simp only [hp, ht, Bool.false_eq_true, if_false] at he ⊢
  rcases hnext : o.backoff.next with ⟨_ | delay, backoff⟩
  · simp [hnext] at hdelay
  · simp only [hnext] at he ⊢
    split at he
    · next hs =>
      rw [if_pos hs]
      exact pending_halt he
    · next hs =>
      rw [if_neg hs]
      simp [pending, hp, Phase.batch]

/-- The end of a call adds no record. -/
theorem mem_pending_of_mem_answered {result : Except Error Nat} {s : String}
    (h : s ∈ (o.answered now result).pending) : s ∈ o.pending := by
  unfold answered at h
  cases hp : o.phase with
  | calling batch =>
    simp only [hp] at h
    split at h
    · rw [pending_proceed] at h
      exact List.mem_append_right _ h
    · split at h
      · split at h
        · exact List.mem_append_right _ h
        · simpa [pending, hp, Phase.batch] using h
      · rw [pending_proceed] at h
        exact List.mem_append_right _ h
  | fresh => simpa only [hp] using h
  | collecting batch deadline => simpa only [hp] using h
  | resting wakes => simpa only [hp] using h
  | retrying batch wakes => simpa only [hp] using h
  | stopped => simpa only [hp] using h

/-! ## 4. Offers -/

theorem offer_eq_ok {o' : Outbox} {record : String} (h : o.offer record = .ok o') :
    o' = { o with queue := o.queue ++ [record] } := by
  unfold offer at h
  split at h
  · cases h
  · split at h
    · exact (Except.ok.inj h).symm
    · cases h

theorem offerAny_of_refused {e : Error} {record : String} (h : o.offer record = .error e) :
    o.offerAny record = o := by
  unfold offerAny
  rw [h]

/-- **An offer that is not refused joins the others at the end.** -/
theorem pending_offerAny {record : String} (h : (o.offer record).toOption.isSome = true) :
    (o.offerAny record).pending = o.pending ++ [record] := by
  cases hoffer : o.offer record with
  | error e => simp [hoffer, Except.toOption] at h
  | ok o' =>
    unfold offerAny
    rw [hoffer, offer_eq_ok hoffer]
    simp [pending]

/-! ## 5. The address -/

@[simp] theorem address_collect (o : Outbox) (now : Moment) (batch : List String)
    (deadline : Moment) : (o.collect now batch deadline).address = o.address := by
  unfold collect fill
  simp only
  split
  · split <;> rfl
  · rfl

@[simp] theorem address_begin (o : Outbox) (now : Moment) : (o.begin now).address = o.address :=
  address_collect ..

@[simp] theorem address_proceed (o : Outbox) (now : Moment) :
    (o.proceed now).address = o.address := by
  unfold proceed
  split
  · rfl
  · exact address_begin o now

@[simp] theorem address_resume (o : Outbox) (now : Moment) : (o.resume now).address = o.address := by
  unfold resume
  cases o.phase with
  | calling batch => rfl
  | stopped => rfl
  | fresh =>
    simp only
    split <;> simp [halt]
  | collecting batch deadline =>
    simp only
    split <;> simp [halt]
  | resting wakes =>
    simp only
    split
    · rfl
    · split <;> simp
  | retrying batch wakes =>
    simp only
    split
    · rfl
    · split <;> rfl

@[simp] theorem address_answered (o : Outbox) (now : Moment) (result : Except Error Nat) :
    (o.answered now result).address = o.address := by
  unfold answered
  cases o.phase with
  | calling batch =>
    simp only
    split
    · exact address_proceed ..
    · split
      · split <;> rfl
      · exact address_proceed ..
  | fresh => rfl
  | collecting batch deadline => rfl
  | resting wakes => rfl
  | retrying batch wakes => rfl
  | stopped => rfl

@[simp] theorem address_stop (o : Outbox) : o.stop.address = o.address := rfl

@[simp] theorem address_offerAny (o : Outbox) (record : String) :
    (o.offerAny record).address = o.address := by
  cases hoffer : o.offer record with
  | error e => rw [offerAny_of_refused hoffer]
  | ok o' =>
    unfold offerAny
    rw [hoffer, offer_eq_ok hoffer]

end Outbox

end Replica
