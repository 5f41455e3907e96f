/-
# A rehearsal is a run

Pushing records is offering one after another (`push_eq_run`), and sleeping is letting time pass
and going on in turn, from event to event (`exists_run_sleep`).  So whatever holds of every run
holds of every rehearsal.
-/

import Replica.Proofs.Timing

namespace Replica

namespace Rehearsal

variable {r : Rehearsal} {stop : Moment}

/-! ## 1. After going on there is nothing to do -/

theorem outbox_startCall (r : Rehearsal) : (startCall r).outbox = r.outbox := by
  unfold startCall
  split <;> rfl

theorem now_startCall (r : Rehearsal) : (startCall r).now = r.now := by
  unfold startCall
  split <;> rfl

/-- **Collecting takes all there is room for.** -/
theorem isUrgent_collect (r : Rehearsal) (o : Outbox) (now : Moment) (batch : List String)
    (deadline : Moment) :
    isUrgent { r with outbox := o.collect now batch deadline } = false := by
  unfold Outbox.collect Outbox.fill
  simp only
  split
  · split <;> rfl
  · next hopen =>
    simp only [Bool.or_eq_true, decide_eq_true_eq, not_or, List.length_append,
      List.length_take] at hopen
    have hfits : o.queue.length ≤ o.settings.maxBatch - batch.length := by omega
    simp only [isUrgent, isFull, Phase.gathered, List.length_append, List.length_take,
      List.drop_eq_nil_of_le hfits, List.isEmpty_nil, Bool.not_true, Bool.or_false,
      decide_eq_false_iff_not]
    exact hopen.1

theorem isUrgent_resume (r : Rehearsal) :
    isUrgent { r with outbox := r.outbox.resume r.now } = false := by
  unfold Outbox.resume
  cases hp : r.outbox.phase with
  | calling batch => simp only [isUrgent, hp]
  | stopped => simp only [isUrgent, hp]
  | fresh =>
    simp only
    split
    · rfl
    · exact isUrgent_collect ..
  | collecting batch deadline =>
    simp only
    split
    · rfl
    · exact isUrgent_collect ..
  | resting wakes =>
    simp only
    split
    · rfl
    · split
      · exact isUrgent_collect ..
      · simp only [isUrgent, hp]
  | retrying batch wakes =>
    simp only
    split
    · rfl
    · split
      · rfl
      · simp only [isUrgent, hp]

theorem isUrgent_settle (r : Rehearsal) : r.settle.isUrgent = false := by
  have hresume := isUrgent_resume r
  unfold isUrgent isFull at hresume ⊢
  rwa [settle, outbox_startCall]

/-- The sender has done all it has to do by the moment. -/
theorem isUrgent_happen (h : r.InTime) (t : Moment) : (r.happen t).isUrgent = false := by
  unfold happen
  simp only
  split
  · next ends result hcall =>
    split
    · exact isUrgent_settle _
    · obtain ⟨batch, hp⟩ := h.calling_of_pending hcall
      simp only [isUrgent, hp]
  · exact isUrgent_settle _

theorem now_happen (r : Rehearsal) (t : Moment) : (r.happen t).now = t := by
  unfold happen
  simp only
  split
  · split
    · rw [settle, now_startCall]
    · rfl
  · rw [settle, now_startCall]

/-! ## 2. From event to event -/

/-- Time gets to a moment that is no later than the next event. -/
theorem beat_pass_to (hidle : r.isUrgent = false) {t : Moment} (hle : r.now ≤ t)
    (hreach : ∀ event, r.nextEvent? = some event → t ≤ event) :
    r.beat (.pass (t - r.now)) = { r with now := t } := by
  have hnow : r.now + (t - r.now) = t := Nat.add_sub_cancel' hle
  rw [beat_pass hidle, reach]
  split
  · next event hevent => rw [hnow, Nat.min_eq_left (hreach event hevent)]
  · rw [hnow]

theorem exists_run_pass (hidle : r.isUrgent = false) (hle : r.now ≤ stop)
    (hreach : ∀ event, r.nextEvent? = some event → stop ≤ event) :
    ∃ bs : List Beat, (∀ b ∈ bs, b.isOffer = false) ∧ { r with now := stop } = r.run bs := by
  refine ⟨[.pass (stop - r.now)], ?_, (beat_pass_to hidle hle hreach).symm⟩
  simp [Beat.isOffer]

/-- **Running up to a moment is a run of beats**, if it gets there. -/
theorem exists_run_runTo (fuel : Nat) (h : r.InTime) (hidle : r.isUrgent = false)
    (hle : r.now ≤ stop)
    (hfar : ∀ event, (runTo stop fuel r).nextEvent? = some event → stop ≤ event) :
    ∃ bs : List Beat, (∀ b ∈ bs, b.isOffer = false) ∧ runTo stop fuel r = r.run bs := by
  induction fuel generalizing r with
  | zero => exact exists_run_pass hidle hle hfar
  | succ fuel ih =>
    unfold runTo at hfar ⊢
    cases hevent : r.nextEvent? with
    | none => exact exists_run_pass hidle hle (by simp [hevent])
    | some t =>
      simp only [hevent] at hfar ⊢
      by_cases hbefore : t < stop
      · rw [if_pos hbefore] at hfar ⊢
        have hpass : r.beat (.pass (t - r.now)) = { r with now := t } :=
          beat_pass_to hidle (h.on_time t hevent) (by simp [hevent])
        have hhappen : r.happen t = r.run [.pass (t - r.now), .act] := by
          have hact : { r with now := t }.beat .act = r.happen t := rfl
          rw [← hact, ← hpass]
          rfl
        have hstop : (r.happen t).now ≤ stop := by
          rw [now_happen]
          exact Nat.le_of_lt hbefore
        have hnext : (r.happen t).InTime := by
          rw [hhappen]
          exact h.run _
        obtain ⟨bs, hquiet, hrun⟩ := ih hnext (isUrgent_happen h t) hstop hfar
        refine ⟨[Beat.pass (t - r.now), Beat.act] ++ bs, ?_, ?_⟩
        · intro b hmem
          rcases List.mem_append.1 hmem with hmem | hmem
          · simp only [List.mem_cons, List.not_mem_nil, or_false] at hmem
            rcases hmem with rfl | rfl <;> rfl
          · exact hquiet b hmem
        · rw [hrun, hhappen, run_append]
      · rw [if_neg hbefore] at hfar ⊢
        exact exists_run_pass hidle hle (by simp [hevent, Nat.not_lt.1 hbefore])

/-! ## 3. Sleeping and pushing -/

/-- **Sleeping is a run of beats.** -/
theorem exists_run_sleep (h : r.InTime) (span : Span)
    (hfar : ∀ event, (r.sleep span).nextEvent? = some event → r.now + span.nanos ≤ event) :
    ∃ bs : List Beat, (∀ b ∈ bs, b.isOffer = false) ∧ r.sleep span = r.run bs := by
  -- what has to be done now is done first, but for a call in flight
  have hsettle : ∃ bs : List Beat, (∀ b ∈ bs, b.isOffer = false) ∧ r.settle = r.run bs := by
    cases hcall : r.pending with
    | none =>
      refine ⟨[.act], by simp [Beat.isOffer], ?_⟩
      exact (happen_of_pending_none hcall).symm
    | some call =>
      obtain ⟨batch, hp⟩ := h.calling_of_pending hcall
      refine ⟨[], nofun, ?_⟩
      rw [settle, (resume_of_calling r.now hp).1]
      exact h.startCall_eq
  obtain ⟨bs, hquiet, hrun⟩ := hsettle
  have hnow : r.settle.now = r.now := now_startCall _
  have hnext : r.settle.InTime := by
    rw [hrun]
    exact h.run bs
  obtain ⟨bs', hquiet', hrun'⟩ := exists_run_runTo enough hnext (isUrgent_settle r)
    (by rw [hnow]; exact Nat.le_add_right ..) hfar
  refine ⟨bs ++ bs', ?_, ?_⟩
  · intro b hmem
    exact (List.mem_append.1 hmem).elim (hquiet b) (hquiet' b)
  · rw [run_append, ← hrun, ← hrun']
    rfl

/-- **Pushing records is offering them one by one.** -/
theorem push_eq_run (h : r.InTime) (records : List String) :
    (r.push records).2 = r.run (records.map .offer) := by
  induction records generalizing r with
  | nil => rfl
  | cons record rest ih =>
    have hnext := h.offer record
    have hrest := ih hnext
    rw [beat_offer h] at hrest hnext
    simp only [push, List.map_cons, Rehearsal.run, List.foldl_cons]
    rw [beat_offer h]
    cases hoffer : r.outbox.offer record with
    | ok o =>
      have hsame : r.outbox.offerAny record = o := by rw [Outbox.offerAny, hoffer]
      rw [hsame] at hrest ⊢
      exact hrest
    | error e =>
      rw [Outbox.offerAny_of_refused hoffer] at hrest ⊢
      exact hrest

end Rehearsal

end Replica
