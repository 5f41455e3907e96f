/-
# How a backlog is sent

Records that wait when a sender begins to collect, and none after them.  As long as no batch is
given up, the batches that are taken are the chunks of the backlog (`chunks`), in order, whatever
fails between them; and there is a moment by which the last of them has been taken (`latest`):
each call and each delay is bounded, and of a script there is less with every call.
-/

import Replica.Proofs.Onward

namespace Replica

/-! ## 1. Chunks -/

/-- Records cut into pieces of one size, but for the last one, which may be shorter. -/
def chunks (size : Nat) (records : List String) : List (List String) :=
  (List.range ((records.length + size - 1) / size)).map fun i => (records.drop (i * size)).take size

/-- Whether a piece is one of that size, or shorter and the last. -/
def IsChunk (size : Nat) (piece rest : List String) : Prop :=
  piece ≠ [] ∧ piece.length ≤ size ∧ (piece.length = size ∨ rest = [])

variable {size : Nat}

theorem chunks_nil (hsize : 1 ≤ size) : chunks size [] = [] := by
  have hnone : (0 + size - 1) / size = 0 := Nat.div_eq_of_lt (by omega)
  rw [chunks, List.length_nil, hnone]
  rfl

theorem chunks_append {piece rest : List String} (h : IsChunk size piece rest) :
    chunks size (piece ++ rest) = piece :: chunks size rest := by
  obtain ⟨hne, hle, hfull | rfl⟩ := h
  · have hpos : 0 < size := hfull ▸ List.length_pos_iff.2 hne
    have hcount : ((piece ++ rest).length + size - 1) / size =
        (rest.length + size - 1) / size + 1 := by
      rw [List.length_append, hfull, ← Nat.add_div_right _ hpos]
      congr 1
      omega
    rw [chunks, hcount, List.range_succ_eq_map]
    simp only [List.map_cons, List.map_map, Nat.zero_mul, List.drop_zero]
    rw [List.take_left' hfull]
    congr 1
    apply List.map_congr_left
    intro i _
    have hdrop : (i + 1) * size = piece.length + i * size := by
      rw [Nat.succ_mul, hfull, Nat.add_comm]
    simp only [Function.comp_apply, Nat.succ_eq_add_one, hdrop, List.drop_length_add_append]
  · have hpos : 0 < piece.length := List.length_pos_iff.2 hne
    have hcount : (piece.length + size - 1) / size = 1 :=
      Nat.div_eq_of_lt_le (by omega) (by omega)
    rw [List.append_nil, chunks_nil (by omega), chunks, hcount]
    simp [List.take_of_length_le hle]

/-- Records are none, or begin with a chunk. -/
theorem exists_chunk (hsize : 1 ≤ size) {records : List String} (hne : records ≠ []) :
    ∃ piece rest, records = piece ++ rest ∧ IsChunk size piece rest := by
  have hpos : 0 < records.length := List.length_pos_iff.2 hne
  refine ⟨records.take size, records.drop size, (List.take_append_drop ..).symm, ?_, ?_, ?_⟩
  · intro hnil
    have hlen := congrArg List.length hnil
    simp only [List.length_take, List.length_nil] at hlen
    omega
  · exact List.length_take_le ..
  · simp only [List.length_take, List.drop_eq_nil_iff]
    omega

/-- **Chunks lose nothing**, and all are of the size but a last one for what is left over. -/
theorem chunks_spec (hsize : 1 ≤ size) (records : List String) :
    (chunks size records).flatten = records ∧
      (chunks size records).map List.length = List.replicate (records.length / size) size ++
        if records.length % size = 0 then [] else [records.length % size] := by
  induction hlen : records.length using Nat.strongRecOn generalizing records with
  | _ n ih =>
    subst hlen
    by_cases hne : records = []
    · subst hne
      simp [chunks_nil hsize]
    · obtain ⟨piece, rest, rfl, hchunk⟩ := exists_chunk hsize hne
      have hpos : 0 < piece.length := List.length_pos_iff.2 hchunk.1
      obtain ⟨hflatten, hsizes⟩ := ih rest.length (by simp; omega) rest rfl
      rw [chunks_append hchunk]
      refine ⟨by rw [List.flatten_cons, hflatten], ?_⟩
      rw [List.map_cons, hsizes, List.length_append]
      obtain ⟨-, hle, hfull | rfl⟩ := hchunk
      · rw [hfull, Nat.add_div_left _ (by omega), Nat.add_mod_left, List.replicate_succ]
        rfl
      · rcases Nat.lt_or_eq_of_le hle with hlt | heq
        · simp [Nat.div_eq_of_lt hlt, Nat.mod_eq_of_lt hlt, Nat.ne_of_gt hpos]
        · simp [heq, Nat.div_self (by omega : 0 < size)]

/-! ## 2. By when all is taken -/

namespace SenderSettings

/-- The longest that a call and the delay after it take. -/
def turn (s : SenderSettings) : Nat := s.callLimit.nanos + s.backoffCap.nanos

/-- The same with the window before it. -/
def toll (s : SenderSettings) : Nat := s.turn + s.batchWindow.nanos

theorem toll_mul (s : SenderSettings) {calls : Nat} (h : 0 < calls) :
    s.batchWindow.nanos + s.turn + (calls - 1) * s.toll = calls * s.toll := by
  obtain ⟨k, rfl⟩ : ∃ k, calls = k + 1 := ⟨calls - 1, by omega⟩
  rw [Nat.add_sub_cancel, Nat.succ_mul, toll]
  omega

end SenderSettings

namespace Rehearsal

/-- By when everything is taken, if it is not given up. -/
def latest (r : Rehearsal) : Moment :=
  let s := r.outbox.settings
  match r.outbox.phase, r.pending with
  | .collecting _ deadline, _ => deadline + s.turn + (r.toCome - 1) * s.toll
  | .calling batch, some (ends, result) =>
    if Outbox.tookAll batch result then ends + (r.toCome - 1) * s.toll
    else ends + s.backoffCap.nanos + r.toCome * s.toll
  | .retrying _ wakes, _ => wakes + r.toCome * s.toll
  | _, _ => r.now + r.toCome * s.toll

variable {r : Rehearsal}

theorem toCome_pos (h : r.outbox.pending ≠ []) : 0 < r.toCome :=
  Nat.add_pos_right _ (List.length_pos_iff.2 h)

theorem latest_collecting {batch : List String} {deadline : Moment}
    (hp : r.outbox.phase = .collecting batch deadline) :
    r.latest = deadline + r.outbox.settings.turn + (r.toCome - 1) * r.outbox.settings.toll := by
  simp only [latest, hp]

theorem latest_calling {batch : List String} {ends : Moment} {result : Except Error Nat}
    (hp : r.outbox.phase = .calling batch) (hcall : r.pending = some (ends, result)) :
    r.latest = if Outbox.tookAll batch result then
        ends + (r.toCome - 1) * r.outbox.settings.toll
      else ends + r.outbox.settings.backoffCap.nanos + r.toCome * r.outbox.settings.toll := by
  simp only [latest, hp, hcall]

theorem latest_retrying {batch : List String} {wakes : Moment}
    (hp : r.outbox.phase = .retrying batch wakes) :
    r.latest = wakes + r.toCome * r.outbox.settings.toll := by
  simp only [latest, hp]

theorem latest_of_begins (h : r.Begins) :
    r.latest = r.now + r.toCome * r.outbox.settings.toll := by
  rcases h with hp | ⟨wakes, hp, -⟩ <;> simp only [latest, hp]

theorem now_le_latest (h : r.InTime) : r.now ≤ r.latest := by
  cases hp : r.outbox.phase with
  | collecting batch deadline =>
    have hle := h.le_deadline hp
    rw [latest_collecting hp, Nat.add_assoc]
    exact Nat.le_add_right_of_le hle
  | calling batch =>
    obtain ⟨ends, result, hcall⟩ := h.exists_pending hp
    have hle := h.le_ends hcall
    rw [latest_calling hp hcall]
    split
    · exact Nat.le_add_right_of_le hle
    · exact Nat.le_add_right_of_le (Nat.le_add_right_of_le hle)
  | retrying batch wakes =>
    have hle := h.le_wakes hp
    rw [latest_retrying hp]
    exact Nat.le_add_right_of_le hle
  | fresh =>
    simp only [latest, hp]
    exact Nat.le_add_right ..
  | resting wakes =>
    simp only [latest, hp]
    exact Nat.le_add_right ..
  | stopped =>
    simp only [latest, hp]
    exact Nat.le_add_right ..

/-- **A call costs a turn at most, and one of those to come.** -/
theorem latest_dial_le {batch : List String}
    (hpending : r.outbox.pending = batch ++ r.outbox.queue) : (r.dial batch).latest ≤
      r.now + r.outbox.settings.turn + (r.toCome - 1) * r.outbox.settings.toll := by
  obtain ⟨ends, result, hcall, hlimit, htoCome, hfewer⟩ := dial_pending hpending
  have hkeep : (r.dial batch).outbox.settings = r.outbox.settings := rfl
  rw [latest_calling rfl hcall, hkeep]
  cases htook : Outbox.tookAll batch result with
  | true =>
    have hturn : ends ≤ r.now + r.outbox.settings.turn :=
      Nat.le_trans hlimit (Nat.add_le_add_left (Nat.le_add_right ..) _)
    rw [if_pos rfl]
    exact Nat.add_le_add hturn (Nat.mul_le_mul_right _ (Nat.sub_le_sub_right htoCome 1))
  | false =>
    have hturn : ends + r.outbox.settings.backoffCap.nanos ≤ r.now + r.outbox.settings.turn := by
      rw [SenderSettings.turn, ← Nat.add_assoc]
      exact Nat.add_le_add_right hlimit _
    rw [if_neg Bool.false_ne_true, ← hfewer htook, Nat.add_sub_cancel]
    exact Nat.add_le_add_right hturn _

end Rehearsal

/-! ## 3. Draining -/

/-- The batch that was taken. -/
def Deed.taken? : Deed → Option (List String)
  | .delivered batch => some batch
  | _ => none

/-- **The next batch will be a chunk of what is left**: what is collected has not been cut
short, and what is being delivered is a chunk. -/
def Rehearsal.ChunkAhead (r : Rehearsal) : Prop :=
  match r.outbox.phase with
  | .collecting batch deadline => batch.length ≤ r.outbox.settings.maxBatch ∧
      (r.outbox.queue = [] ∨ batch.length = r.outbox.settings.maxBatch ∨ r.now < deadline)
  | .calling batch => IsChunk r.outbox.settings.maxBatch batch r.outbox.queue
  | .retrying batch _ => IsChunk r.outbox.settings.maxBatch batch r.outbox.queue
  | .resting wakes => wakes ≤ r.now ∨ r.outbox.queue = []
  | _ => True

/-- Records of which some chunks have been taken, and the others will be by a moment. -/
structure Draining (s : SenderSettings) (records : List String) (latest : Moment)
    (ds : List Deed) (r : Rehearsal) : Prop where
  settings_eq : r.outbox.settings = s
  taken_eq : ds.filterMap Deed.taken? ++ chunks s.maxBatch r.outbox.pending =
    chunks s.maxBatch records
  chunkAhead : r.ChunkAhead
  latest_le : r.outbox.pending ≠ [] → r.latest ≤ latest

namespace Draining

variable {s : SenderSettings} {records : List String} {latest : Moment} {ds : List Deed}
  {r : Rehearsal}

theorem of_begins (h : r.Begins) (hs : r.outbox.settings = s) :
    Draining s r.outbox.queue (r.now + (r.script.length + r.outbox.queue.length) * s.toll) []
      r := by
  have hpending := h.pending_eq
  refine ⟨hs, by rw [hpending]; rfl, ?_, fun _ => ?_⟩
  · rcases h with hp | ⟨wakes, hp, hwakes⟩
    · simp only [Rehearsal.ChunkAhead, hp]
    · simp only [Rehearsal.ChunkAhead, hp]
      exact Or.inl hwakes
  · exact Nat.le_of_eq (by rw [Rehearsal.latest_of_begins h, Rehearsal.toCome, hpending, hs])

/-- While time passes the sender waits for records, for its call or for its delay. -/
theorem pass (h : Draining s records latest ds r) (hr : r.InTime) {t : Moment} (hle : r.now ≤ t)
    (hidle : r.isUrgent = false) (hreach : ∀ event, r.nextEvent? = some event → t ≤ event) :
    Draining s records latest ds { r with now := t } := by
  have hahead := h.chunkAhead
  have hlatest := h.latest_le
  refine ⟨h.settings_eq, h.taken_eq, ?_, ?_⟩
  · cases hp : r.outbox.phase with
    | collecting batch deadline =>
      simp only [Rehearsal.ChunkAhead, hp] at hahead ⊢
      simp only [Rehearsal.isUrgent, hp, Bool.or_eq_false_iff, Bool.not_eq_false'] at hidle
      exact ⟨hahead.1, Or.inl (List.isEmpty_iff.1 hidle.2)⟩
    | resting wakes =>
      simp only [Rehearsal.ChunkAhead, hp] at hahead ⊢
      exact hahead.imp_left fun hwakes => Nat.le_trans hwakes hle
    | calling batch =>
      simp only [Rehearsal.ChunkAhead, hp] at hahead ⊢
      exact hahead
    | retrying batch wakes =>
      simp only [Rehearsal.ChunkAhead, hp] at hahead ⊢
      exact hahead
    | fresh => simp only [Rehearsal.ChunkAhead, hp]
    | stopped => simp only [Rehearsal.ChunkAhead, hp]
  · intro hleft
    have hbefore := hlatest hleft
    cases hp : r.outbox.phase with
    | fresh => simp [Rehearsal.isUrgent, hp] at hidle
    | stopped => exact absurd hp hr.not_stopped
    | resting wakes =>
      have hwakes := hreach wakes (hr.nextEvent?_of_alarm (by simp only [Outbox.alarm?, hp]))
      simp only [Rehearsal.ChunkAhead, hp] at hahead
      rcases hahead with hdue | hempty
      · obtain rfl : t = r.now := Nat.le_antisymm (Nat.le_trans hwakes hdue) hle
        exact hbefore
      · simp [Outbox.pending, hp, Phase.batch, hempty] at hleft
    | collecting batch deadline =>
      rw [Rehearsal.latest_collecting hp] at hbefore
      rw [Rehearsal.latest_collecting (r := { r with now := t }) hp]
      exact hbefore
    | calling batch =>
      obtain ⟨ends, result, hcall⟩ := hr.exists_pending hp
      rw [Rehearsal.latest_calling hp hcall] at hbefore
      rw [Rehearsal.latest_calling (r := { r with now := t }) hp hcall]
      exact hbefore
    | retrying batch wakes =>
      rw [Rehearsal.latest_retrying hp] at hbefore
      rw [Rehearsal.latest_retrying (r := { r with now := t }) hp]
      exact hbefore

/-- A batch that is a chunk goes out, or goes out again. -/
theorem dial (h : Draining s records latest ds r) {batch : List String} {ds' : List Deed}
    (hnone : ds'.filterMap Deed.taken? = []) (hpending : r.outbox.pending = batch ++ r.outbox.queue)
    (hchunk : IsChunk s.maxBatch batch r.outbox.queue)
    (hlatest : r.now + s.turn + (r.toCome - 1) * s.toll ≤ r.latest) :
    Draining s records latest (ds ++ ds') (r.dial batch) := by
  have hsame : (r.dial batch).outbox.pending = r.outbox.pending := hpending.symm
  have hs := h.settings_eq
  refine ⟨hs, ?_, ?_, fun hleft => ?_⟩
  · rw [List.filterMap_append, hnone, List.append_nil, hsame]
    exact h.taken_eq
  · rw [← hs] at hchunk
    exact hchunk
  · rw [hsame] at hleft
    rw [← hs] at hlatest
    exact Nat.le_trans (Rehearsal.latest_dial_le hpending)
      (Nat.le_trans hlatest (h.latest_le hleft))

theorem begun (h : Draining s records latest ds r) (hwindow : 0 < s.batchWindow.nanos)
    (hp : r.Begins) : Draining s records latest ds { r with outbox := { r.outbox with
      phase := .collecting [] (r.now + r.outbox.settings.batchWindow.nanos) } } := by
  obtain rfl := h.settings_eq
  have hpending := hp.pending_eq
  have htaken := h.taken_eq
  rw [hpending] at htaken
  refine ⟨rfl, htaken, ⟨Nat.zero_le _, Or.inr (Or.inr (Nat.lt_add_of_pos_right hwindow))⟩,
    fun hleft => ?_⟩
  have hsame : r.outbox.pending ≠ [] := by rwa [hpending]
  have hbefore := h.latest_le hsame
  rw [Rehearsal.latest_of_begins hp, ← SenderSettings.toll_mul _ (Rehearsal.toCome_pos hsame),
    Rehearsal.toCome, hpending, ← Nat.add_assoc, ← Nat.add_assoc] at hbefore
  exact hbefore

theorem took (h : Draining s records latest ds r) {batch rest : List String} {record : String}
    {deadline : Moment} (hp : r.outbox.phase = .collecting batch deadline)
    (hq : r.outbox.queue = record :: rest) (hroom : batch.length < s.maxBatch) :
    Draining s records latest ds { r with outbox := { r.outbox with
      queue := rest, phase := .collecting (batch ++ [record]) deadline } } := by
  obtain rfl := h.settings_eq
  have hpending : r.outbox.pending = batch ++ [record] ++ rest := by
    simp [Outbox.pending, hp, hq, Phase.batch]
  have hahead := h.chunkAhead
  have htaken := h.taken_eq
  have hlatest := h.latest_le
  rw [Rehearsal.latest_collecting hp, Rehearsal.toCome] at hlatest
  rw [hpending] at htaken hlatest
  simp only [Rehearsal.ChunkAhead, hp, hq, reduceCtorEq, false_or] at hahead
  have hroom' : (batch ++ [record]).length ≤ r.outbox.settings.maxBatch := by
    rw [List.length_append]
    exact hroom
  exact ⟨rfl, htaken, ⟨hroom', Or.inr (Or.inr (hahead.2.resolve_left (Nat.ne_of_lt hroom)))⟩,
    hlatest⟩

/-- The sender rests only when nothing waits. -/
theorem rested (h : Draining s records latest ds r) (hsize : 1 ≤ s.maxBatch) {deadline : Moment}
    (hp : r.outbox.phase = .collecting [] deadline)
    (hcut : s.maxBatch = 0 ∨ deadline ≤ r.now) :
    Draining s records latest ds { r with outbox := { r.outbox with
      phase := .resting (r.now + r.outbox.settings.idlePause.nanos) } } := by
  have hahead := h.chunkAhead
  have htaken := h.taken_eq
  have hpending : r.outbox.pending = r.outbox.queue := Outbox.pending_of_phase hp
  have hempty : r.outbox.queue = [] := by
    simp only [Rehearsal.ChunkAhead, hp, h.settings_eq, List.length_nil] at hahead
    rcases hahead.2 with hempty | hfull | hopen
    · exact hempty
    · omega
    · exact absurd hopen (Nat.not_lt.2 (hcut.resolve_left (by omega)))
  rw [hpending] at htaken
  exact ⟨h.settings_eq, htaken, Or.inr hempty, fun hleft => absurd hempty hleft⟩

theorem failed (h : Draining s records latest ds r) (hr : r.InTime) {batch : List String}
    {ends : Moment} {result : Except Error Nat} (hp : r.outbox.phase = .calling batch)
    (hcall : r.pending = some (ends, result)) (htook : Outbox.tookAll batch result = false)
    (hdelay : ¬ r.outbox.backoff.cap < r.outbox.backoff.due) :
    Draining s records latest ds { r with pending := none, outbox := { r.outbox with
      backoff := { r.outbox.backoff with due := r.outbox.backoff.due.double }
      phase := .retrying batch (r.now + r.outbox.backoff.due.nanos) } } := by
  obtain rfl := h.settings_eq
  have hpending : r.outbox.pending = batch ++ r.outbox.queue := Outbox.pending_of_phase hp
  have hahead := h.chunkAhead
  have htaken := h.taken_eq
  have hlatest := h.latest_le
  rw [Rehearsal.latest_calling hp hcall, if_neg (by simp [htook]), Rehearsal.toCome] at hlatest
  rw [hpending] at htaken hlatest
  simp only [Rehearsal.ChunkAhead, hp] at hahead
  refine ⟨rfl, htaken, hahead, fun hleft => Nat.le_trans ?_ (hlatest hleft)⟩
  have hdue : r.outbox.backoff.due.nanos ≤ r.outbox.settings.backoffCap.nanos := by
    rw [hr.cap_eq] at hdelay
    exact Nat.not_lt.1 hdelay
  exact Nat.add_le_add_right (Nat.add_le_add (hr.le_ends hcall) hdue) _

/-- A chunk was taken. -/
theorem delivered (h : Draining s records latest ds r) (hr : r.InTime) {batch : List String}
    {ends : Moment} {result : Except Error Nat} (hp : r.outbox.phase = .calling batch)
    (hcall : r.pending = some (ends, result)) (htook : Outbox.tookAll batch result = true) :
    Draining s records latest (ds ++ [.delivered batch])
      { r with pending := none, outbox := { r.outbox with
        backoff := r.outbox.backoff.reset, phase := .fresh } } := by
  obtain rfl := h.settings_eq
  have hpending : r.outbox.pending = batch ++ r.outbox.queue := Outbox.pending_of_phase hp
  have hahead := h.chunkAhead
  have htaken := h.taken_eq
  have hlatest := h.latest_le
  rw [Rehearsal.latest_calling hp hcall, if_pos htook, Rehearsal.toCome] at hlatest
  rw [hpending] at htaken hlatest
  simp only [Rehearsal.ChunkAhead, hp] at hahead
  rw [chunks_append hahead] at htaken
  refine ⟨rfl, ?_, trivial, fun hleft => ?_⟩
  · rw [List.filterMap_append, List.append_assoc]
    exact htaken
  · have hbefore := hlatest (List.append_ne_nil_of_left_ne_nil hahead.1 _)
    have hpos : 0 < batch.length := List.length_pos_iff.2 hahead.1
    have hfewer : r.script.length + r.outbox.queue.length ≤
        r.script.length + (batch ++ r.outbox.queue).length - 1 := by
      rw [List.length_append]
      omega
    exact Nat.le_trans (Nat.add_le_add (hr.le_ends hcall) (Nat.mul_le_mul_right _ hfewer)) hbefore

/-- **A drain goes on chunk by chunk**, and its last moment gets no later. -/
theorem ticks {ds' : List Deed} {r' : Rehearsal} (h : Draining s records latest ds r)
    (hr : r.InTime) (hsize : 1 ≤ s.maxBatch) (hwindow : 0 < s.batchWindow.nanos)
    (hkept : ∀ batch, Deed.abandoned batch ∉ ds') (ht : Rehearsal.Ticks r ds' r') :
    Draining s records latest (ds ++ ds') r' := by
  have hs := h.settings_eq
  have hahead := h.chunkAhead
  cases ht with
  | still => rwa [List.append_nil]
  | passed hle hidle hreach =>
    rw [List.append_nil]
    exact h.pass hr hle hidle hreach
  | begun hp =>
    rw [List.append_nil]
    exact h.begun hwindow hp
  | took hp hq hroom =>
    rw [List.append_nil]
    exact h.took hp hq (hs ▸ hroom)
  | rested hp hcut =>
    rw [List.append_nil]
    exact h.rested hsize hp (hs ▸ hcut)
  | @handed batch deadline hp hne hcut =>
    simp only [Rehearsal.ChunkAhead, hp, hs] at hahead
    refine h.dial rfl (Outbox.pending_of_phase hp) ⟨hne, hahead.1, ?_⟩ ?_
    · rcases hcut with hfull | hover
      · exact Or.inl (Nat.le_antisymm hahead.1 (hs ▸ hfull))
      · rcases hahead.2 with hempty | hfull | hlt
        · exact Or.inr hempty
        · exact Or.inl hfull
        · exact absurd hlt (Nat.not_lt.2 hover)
    · rw [Rehearsal.latest_collecting hp, hs]
      exact Nat.add_le_add_right (Nat.add_le_add_right (hr.le_deadline hp) _) _
  | @again batch wakes hp hdue =>
    have hpending : r.outbox.pending = batch ++ r.outbox.queue := Outbox.pending_of_phase hp
    simp only [Rehearsal.ChunkAhead, hp, hs] at hahead
    refine h.dial rfl hpending hahead ?_
    have hleft : r.outbox.pending ≠ [] := by
      rw [hpending]
      exact List.append_ne_nil_of_left_ne_nil hahead.1 _
    rw [Rehearsal.latest_retrying hp, hs, ← SenderSettings.toll_mul _ (Rehearsal.toCome_pos hleft),
      Nat.add_assoc]
    exact Nat.add_le_add (hr.le_wakes hp) (Nat.add_le_add_right (Nat.le_add_left ..) _)
  | failed hp hcall hends htook hdelay =>
    rw [List.append_nil]
    exact h.failed hr hp hcall htook hdelay
  | delivered hp hcall hends htook => exact h.delivered hr hp hcall htook
  | abandoned hp hcall hends htook hdelay => exact absurd List.mem_cons_self (hkept _)

theorem run (h : r.Begins) (hr : r.InTime) (hsize : 1 ≤ r.outbox.settings.maxBatch)
    (hwindow : 0 < r.outbox.settings.batchWindow.nanos) {bs : List Beat}
    (hquiet : ∀ b ∈ bs, b.isOffer = false)
    (hkept : ∀ batch, Deed.abandoned batch ∉ r.ledger bs) :
    Draining r.outbox.settings r.outbox.queue
      (r.now + (r.script.length + r.outbox.queue.length) * r.outbox.settings.toll)
      (r.ledger bs) (r.run bs) := by
  have hrun := Rehearsal.run_induction (P := fun ds r' =>
    (∀ batch, Deed.abandoned batch ∉ ds) → Draining r.outbox.settings r.outbox.queue
      (r.now + (r.script.length + r.outbox.queue.length) * r.outbox.settings.toll) ds r')
    hr bs (fun _ => of_begins h rfl) ?_ ?_
  · exact hrun hkept
  · intro ds ds' r r' hr hdrain ht hkept
    have hbefore := hdrain fun batch hmem => hkept batch (List.mem_append_left _ hmem)
    exact hbefore.ticks hr hsize hwindow
      (fun batch hmem => hkept batch (List.mem_append_right _ hmem)) ht
  · intro ds r record hmem
    cases hquiet _ hmem

/-- **Once its last moment has passed, all has been taken.** -/
theorem pending_eq_nil (h : Draining s records latest ds r) (hr : r.InTime)
    (hlate : latest < r.now) : r.outbox.pending = [] := by
  by_contra hleft
  exact absurd hlate (Nat.not_lt.2 (Nat.le_trans (Rehearsal.now_le_latest hr) (h.latest_le hleft)))

end Draining

/-- **A backlog is taken in chunks.**  What waits when a sender begins to collect goes out as its
chunks, in order and each taken once, if nothing is offered after that and nothing is given up.
Once the moment has passed by which each call to come has had its window, its limit and its
delay, all of it has been taken; and every moment is passed. -/
theorem backlog_in_chunks (address : String) (settings : SenderSettings)
    (script : List Reception) (earlier bs : List Beat) (hsize : 1 ≤ settings.maxBatch)
    (hwindow : 0 < settings.batchWindow.nanos) :
    let start := Rehearsal.new address settings script
    let r := start.run earlier
    let r' := r.run bs
    let records := r.outbox.queue
    let taken := (r.ledger bs).filterMap Deed.taken?
    r.Begins → (∀ b ∈ bs, b.isOffer = false) → (∀ batch, Deed.abandoned batch ∉ r.ledger bs) →
      taken ++ chunks settings.maxBatch r'.outbox.pending = chunks settings.maxBatch records ∧
      (r.now + (r.script.length + records.length) * settings.toll < r'.now →
        r'.outbox.pending = [] ∧ taken = chunks settings.maxBatch records) ∧
      (∀ t, ∃ on : List Beat, (∀ b ∈ on, b.isOffer = false) ∧ t < (r'.run on).now) ∧
      (chunks settings.maxBatch records).flatten = records ∧
      (chunks settings.maxBatch records).map List.length =
        List.replicate (records.length / settings.maxBatch) settings.maxBatch ++
          if records.length % settings.maxBatch = 0 then []
          else [records.length % settings.maxBatch] := by
  intro start r r' records taken hbegins hquiet hkept
  have hr : r.InTime := (Rehearsal.inTime_new address settings script).run earlier
  have hs : r.outbox.settings = settings :=
    Rehearsal.settings_run (Rehearsal.inTime_new address settings script) earlier
  have hs' : r'.outbox.settings = settings := (Rehearsal.settings_run hr bs).trans hs
  have hdrain := Draining.run hbegins hr (by rw [hs]; exact hsize) (by rw [hs]; exact hwindow)
    hquiet hkept
  rw [hs] at hdrain
  obtain ⟨hflatten, hsizes⟩ := chunks_spec hsize records
  refine ⟨hdrain.taken_eq, fun hlate => ?_, fun t => ?_, hflatten, hsizes⟩
  · have hempty : r'.outbox.pending = [] := hdrain.pending_eq_nil (hr.run bs) hlate
    have htaken := hdrain.taken_eq
    rw [hempty, chunks_nil hsize, List.append_nil] at htaken
    exact ⟨hempty, htaken⟩
  · exact Rehearsal.exists_run_past (hr.run bs) (by rw [hs']; exact hsize)
      (by rw [hs']; exact hwindow) t

/-- Two to a batch, and a short delay after a failure. -/
def pairwise : SenderSettings :=
  { maxBatch := 2, idlePause := .ofSeconds 60, backoffCap := .ofSeconds 1 }

/-- The first call fails, the second comes after its delay, the third with what is left over;
then nothing is left for a minute. -/
def threeRecordsBeats : List Beat :=
  [.act, .act, .pass 1000000000, .act, .act, .pass 50000000, .act, .act, .pass 50000000, .act,
    .pass 60000000000]

theorem backlog_in_chunks_threeRecords :
    let script : List Reception := [{ error := some .timeout }]
    let r := (Rehearsal.new "peer" pairwise script).run [.offer "a", .offer "b", .offer "c"]
    let r' := r.run threeRecordsBeats
    r.Begins ∧ r.outbox.queue = ["a", "b", "c"] ∧
      r.ledger threeRecordsBeats = [.handed ["a", "b"], .called ["a", "b"], .called ["a", "b"],
        .delivered ["a", "b"], .handed ["c"], .called ["c"], .delivered ["c"]] ∧
      r.now + (r.script.length + r.outbox.queue.length) * pairwise.toll < r'.now ∧
      r'.outbox.pending = [] ∧
      (r.ledger threeRecordsBeats).filterMap Deed.taken? = chunks 2 ["a", "b", "c"] := by
  intro script r r'
  have hbegins : r.Begins := Or.inl rfl
  have hledger : r.ledger threeRecordsBeats = [.handed ["a", "b"], .called ["a", "b"],
      .called ["a", "b"], .delivered ["a", "b"], .handed ["c"], .called ["c"],
      .delivered ["c"]] := by
    decide +kernel
  have hlate : r.now + (r.script.length + r.outbox.queue.length) * pairwise.toll < r'.now := by
    decide +kernel
  obtain ⟨-, hall, -⟩ := backlog_in_chunks "peer" pairwise script
    [.offer "a", .offer "b", .offer "c"] threeRecordsBeats (by decide) (by decide +kernel) hbegins
    (by decide) (by intro batch; rw [hledger]; simp)
  obtain ⟨hempty, htaken⟩ := hall hlate
  have hqueue : r.outbox.queue = ["a", "b", "c"] := by decide +kernel
  refine ⟨hbegins, hqueue, hledger, hlate, hempty, ?_⟩
  rw [htaken, hqueue]
  rfl

end Replica
