/-
# Time goes on

A sender never keeps time from passing.  At one moment it makes finitely many calls, since each
takes something from the script or from what is left to send, and between two calls it does
finitely many things (`unrest`); then it waits for something that is to come.  So from every
state there is a run past every moment (`exists_run_past`), if the window lasts and a batch has
room.
-/

import Replica.Proofs.Attempts

namespace Replica

namespace Rehearsal

open Outbox (tookAll)

variable {r : Rehearsal}

/-! ## 1. Calls to come -/

/-- How many calls there may still be: each takes something from the script or from what is
left to send. -/
def toCome (r : Rehearsal) : Nat := r.script.length + r.outbox.pending.length

/-- What a script does not say any more succeeds. -/
theorem takesAll_default (limit : Span) (count : Nat) : Reception.TakesAll {} limit count :=
  ⟨rfl, Nat.zero_le _, count, rfl, Nat.le_refl _⟩

/-- **A call ends by its limit, and one that fails was one of those to come.** -/
theorem dial_pending {batch : List String} (hpending : r.outbox.pending = batch ++ r.outbox.queue) :
    ∃ ends result, (r.dial batch).pending = some (ends, result) ∧
      ends ≤ r.now + r.outbox.settings.callLimit.nanos ∧ (r.dial batch).toCome ≤ r.toCome ∧
      (tookAll batch result = false → (r.dial batch).toCome + 1 = r.toCome) := by
  have htoCome : (r.dial batch).toCome = r.script.length - 1 + r.outbox.pending.length := by
    have hsame : (r.dial batch).outbox.pending = r.outbox.pending := hpending.symm
    rw [toCome, hsame]
    simp only [dial, List.length_drop]
  refine ⟨(endOfCall r.now r.outbox.settings.callLimit ((r.script.headD {}).arrival r.now)
    ((r.script.headD {}).outcome batch.length)).1, _, rfl, (endOfCall_bounds ..).2, ?_, ?_⟩
  · rw [htoCome, toCome]
    exact Nat.add_le_add_right (Nat.sub_le ..) _
  · intro hfailed
    have hscript : r.script ≠ [] := by
      intro hnil
      rw [hnil, List.headD_nil] at hfailed
      have htook := (takesAll_default r.outbox.settings.callLimit batch.length).tookAll_eq r.now
      exact Bool.noConfusion (htook.symm.trans hfailed)
    have hlen : 0 < r.script.length := List.length_pos_iff.2 hscript
    rw [htoCome, toCome]
    omega

/-! ## 2. At one moment -/

/-- How far the sender is from its next wait, between two calls. -/
def rank (r : Rehearsal) : Nat :=
  match r.outbox.phase, r.pending with
  | .collecting _ deadline, _ => if deadline ≤ r.now then 3 else 1
  | .calling batch, some (_, result) => if tookAll batch result then 0 else 3
  | _, _ => 2

/-- What the sender may still do before time has to pass. -/
def unrest (r : Rehearsal) : Nat := 4 * r.toCome + r.rank + r.outbox.queue.length

/-- Time passes, or there is less to do at this moment. -/
def Advances (r r' : Rehearsal) : Prop :=
  r.now < r'.now ∨ r'.now = r.now ∧ r'.unrest < r.unrest

theorem advances_dial {batch : List String} (hpending : r.outbox.pending = batch ++ r.outbox.queue)
    (hrank : 0 < r.rank) : r.Advances (r.dial batch) := by
  obtain ⟨ends, result, hcall, -, htoCome, hfewer⟩ := dial_pending hpending
  have hqueue : (r.dial batch).outbox.queue = r.outbox.queue := rfl
  have hafter : (r.dial batch).rank = if tookAll batch result then 0 else 3 := by
    have hphase : (r.dial batch).outbox.phase = .calling batch := rfl
    simp only [rank, hphase, hcall]
  refine Or.inr ⟨rfl, ?_⟩
  rw [unrest, unrest, hqueue, hafter]
  cases htook : tookAll batch result with
  | true =>
    rw [if_pos rfl]
    omega
  | false =>
    have hone := hfewer htook
    rw [if_neg Bool.false_ne_true]
    omega

/-- **Where the sender waits for something to come, time passes.** -/
theorem advances_pass (hidle : r.isUrgent = false) {t : Moment} (hevent : r.nextEvent? = some t)
    (hlater : r.now < t) : r.Advances (r.beat (.pass (t - r.now))) := by
  rw [beat_pass hidle]
  left
  simp only [reach, hevent, Nat.add_sub_cancel' (Nat.le_of_lt hlater), Nat.min_self]
  exact hlater

theorem exists_advance_collecting (h : r.InTime) (hsize : 1 ≤ r.outbox.settings.maxBatch)
    {batch : List String} {deadline : Moment} (hp : r.outbox.phase = .collecting batch deadline) :
    ∃ b : Beat, b.isOffer = false ∧ r.Advances (r.beat b) := by
  have hpending : r.outbox.pending = batch ++ r.outbox.queue := Outbox.pending_of_phase hp
  have hrank : r.rank = if deadline ≤ r.now then 3 else 1 := by simp only [rank, hp]
  have hpos : 0 < r.rank := by
    rw [hrank]
    split <;> decide
  by_cases hfull : r.outbox.settings.maxBatch ≤ batch.length
  · have hne : batch ≠ [] := List.length_pos_iff.1 (Nat.lt_of_lt_of_le hsize hfull)
    refine ⟨.cut, rfl, ?_⟩
    rw [beat_cut h hp hne (Or.inl hfull)]
    exact advances_dial hpending hpos
  · cases hqueue : r.outbox.queue with
    | cons record rest =>
      refine ⟨.take, rfl, Or.inr ?_⟩
      rw [beat_take hp hqueue (Nat.lt_of_not_le hfull)]
      refine ⟨rfl, ?_⟩
      simp [unrest, toCome, rank, Outbox.pending, hp, hqueue, Phase.batch]
    | nil =>
      by_cases hdue : deadline ≤ r.now
      · by_cases hne : batch = []
        · subst hne
          refine ⟨.cut, rfl, Or.inr ?_⟩
          rw [beat_cut_nil h hp (Or.inr hdue)]
          refine ⟨rfl, ?_⟩
          simp [unrest, toCome, rank, Outbox.pending, hp, hqueue, Phase.batch, hdue]
        · refine ⟨.cut, rfl, ?_⟩
          rw [beat_cut h hp hne (Or.inr hdue)]
          exact advances_dial hpending hpos
      · have hidle : r.isUrgent = false := by
          simp [isUrgent, isFull, hp, hqueue, Phase.gathered, Nat.lt_of_not_le hfull]
        exact ⟨_, rfl, advances_pass hidle
          (h.nextEvent?_of_alarm (by simp only [Outbox.alarm?, hp])) (Nat.lt_of_not_le hdue)⟩

theorem advances_begin (hwindow : 0 < r.outbox.settings.batchWindow.nanos) (h : r.Begins) :
    r.Advances (r.beat .begin) := by
  have hopen : ¬ r.now + r.outbox.settings.batchWindow.nanos ≤ r.now :=
    Nat.not_le.2 (Nat.lt_add_of_pos_right hwindow)
  have hrank : r.rank = 2 := by
    rcases h with hp | ⟨wakes, hp, -⟩ <;> simp only [rank, hp]
  have hpending := h.pending_eq
  rw [beat_begin h]
  refine Or.inr ⟨rfl, ?_⟩
  rw [unrest, unrest, toCome, toCome, hpending, hrank]
  simp only [rank, if_neg hopen, Outbox.pending, Phase.batch, List.nil_append]
  omega

theorem exists_advance_calling (h : r.InTime) {batch : List String}
    (hp : r.outbox.phase = .calling batch) :
    ∃ b : Beat, b.isOffer = false ∧ r.Advances (r.beat b) := by
  obtain ⟨ends, result, hcall⟩ := h.exists_pending hp
  by_cases hends : ends ≤ r.now
  · have hended : r.ended? = some result := by simp only [ended?, hcall, if_pos hends]
    have hpos : 0 < batch.length :=
      List.length_pos_iff.2 (h.inHand_ne_nil batch (by simp [hp, Phase.inHand]))
    have hbefore : r.toCome = r.script.length + (batch.length + r.outbox.queue.length) := by
      simp [toCome, Outbox.pending, hp, Phase.batch]
    -- a delivery that is over leaves fewer records to send
    have hfreed : ∀ backoff, r.outbox.move (.answer r.now result) =
        { r.outbox with backoff, phase := .fresh } → r.Advances (r.beat .answer) := by
      intro backoff hmove
      rw [beat_answer hended, hmove]
      refine Or.inr ⟨rfl, ?_⟩
      rw [unrest, unrest, hbefore, toCome]
      simp only [rank, Outbox.pending, Phase.batch, List.nil_append]
      omega
    refine ⟨.answer, rfl, ?_⟩
    cases htook : tookAll batch result with
    | true => exact hfreed r.outbox.backoff.reset (by simp only [Outbox.move, hp, htook, if_true])
    | false =>
      rcases hdelay : r.outbox.backoff.next with ⟨_ | delay, backoff⟩
      · exact hfreed backoff.reset (by simp [Outbox.move, hp, htook, hdelay])
      · rw [beat_answer hended]
        refine Or.inr ⟨rfl, ?_⟩
        simp [unrest, toCome, rank, Outbox.move, Outbox.pending, hp, hcall, htook, hdelay,
          h.running, Phase.batch]
  · have hidle : r.isUrgent = false := by simp only [isUrgent, hp]
    exact ⟨_, rfl, advances_pass hidle (by simp only [nextEvent?, hcall]) (Nat.lt_of_not_le hends)⟩

/-- **The sender always goes on**: at one moment, or to a later one. -/
theorem exists_advance (h : r.InTime) (hsize : 1 ≤ r.outbox.settings.maxBatch)
    (hwindow : 0 < r.outbox.settings.batchWindow.nanos) :
    ∃ b : Beat, b.isOffer = false ∧ r.Advances (r.beat b) := by
  cases hp : r.outbox.phase with
  | stopped => exact absurd hp h.not_stopped
  | fresh => exact ⟨.begin, rfl, advances_begin hwindow (Or.inl hp)⟩
  | collecting batch deadline => exact exists_advance_collecting h hsize hp
  | calling batch => exact exists_advance_calling h hp
  | resting wakes =>
    by_cases hdue : wakes ≤ r.now
    · exact ⟨.begin, rfl, advances_begin hwindow (Or.inr ⟨wakes, hp, hdue⟩)⟩
    · exact ⟨_, rfl, advances_pass (by simp only [isUrgent, hp])
        (h.nextEvent?_of_alarm (by simp only [Outbox.alarm?, hp])) (Nat.lt_of_not_le hdue)⟩
  | retrying batch wakes =>
    by_cases hdue : wakes ≤ r.now
    · refine ⟨.again, rfl, ?_⟩
      rw [beat_again h hp hdue]
      exact advances_dial (Outbox.pending_of_phase hp) (by simp [rank, hp])
    · exact ⟨_, rfl, advances_pass (by simp only [isUrgent, hp])
        (h.nextEvent?_of_alarm (by simp only [Outbox.alarm?, hp])) (Nat.lt_of_not_le hdue)⟩

/-! ## 3. From moment to moment -/

theorem exists_run_later (h : r.InTime) (hsize : 1 ≤ r.outbox.settings.maxBatch)
    (hwindow : 0 < r.outbox.settings.batchWindow.nanos) :
    ∃ bs : List Beat, (∀ b ∈ bs, b.isOffer = false) ∧ r.now < (r.run bs).now := by
  induction hn : r.unrest using Nat.strongRecOn generalizing r with
  | _ n ih =>
    obtain ⟨b, hb, hlater | ⟨hnow, hless⟩⟩ := exists_advance h hsize hwindow
    · refine ⟨[b], ?_, hlater⟩
      simpa using hb
    · have hs : (r.beat b).outbox.settings = r.outbox.settings := settings_run h [b]
      obtain ⟨bs, hbs, hlater⟩ := ih _ (hn ▸ hless) (h.beat b) (by rw [hs]; exact hsize)
        (by rw [hs]; exact hwindow) rfl
      refine ⟨b :: bs, ?_, ?_⟩
      · simpa [hb] using hbs
      · rw [← hnow]
        exact hlater

/-- **Every moment is passed.** -/
theorem exists_run_past (h : r.InTime) (hsize : 1 ≤ r.outbox.settings.maxBatch)
    (hwindow : 0 < r.outbox.settings.batchWindow.nanos) (t : Moment) :
    ∃ bs : List Beat, (∀ b ∈ bs, b.isOffer = false) ∧ t < (r.run bs).now := by
  induction t with
  | zero =>
    obtain ⟨bs, hbs, hlater⟩ := exists_run_later h hsize hwindow
    exact ⟨bs, hbs, Nat.lt_of_le_of_lt (Nat.zero_le _) hlater⟩
  | succ t ih =>
    obtain ⟨bs, hbs, hpast⟩ := ih
    have hs : (r.run bs).outbox.settings = r.outbox.settings := settings_run h bs
    obtain ⟨bs', hbs', hlater⟩ := exists_run_later (h.run bs) (by rw [hs]; exact hsize)
      (by rw [hs]; exact hwindow)
    refine ⟨bs ++ bs', ?_, ?_⟩
    · intro b hmem
      exact (List.mem_append.1 hmem).elim (hbs b) (hbs' b)
    · rw [run_append]
      exact Nat.lt_of_le_of_lt hpast hlater

end Rehearsal

end Replica
