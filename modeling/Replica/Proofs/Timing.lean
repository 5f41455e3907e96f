/-
# A sender against the clock

A sender before a scripted peer, beat by beat: a record is offered, time passes, or the sender
goes on, in one go or a thing at a time.  Time is prompt: it passes no further than to the next
alarm or to the end of the call in flight, and not at all while the sender has a record to take
or a full batch to send (`pass`).  Whether a window that is over or a record that is there comes
first is left open (`cut`, `take`).

What a beat may do is said once (`Ticks`), the sender's going on in one go included
(`ticked_beat`); `run_induction` carries what each of these keeps along every run.  Nothing here
tells the sender to stop.
-/

import Replica.Outbox.Rehearsal
import Replica.Proofs.Dispatch

namespace Replica

/-! ## 1. Beats -/

/-- What happens next before a scripted peer; what cannot happen yet changes nothing. -/
inductive Beat where
  | offer (record : String)
  /-- Time passes. -/
  | pass (nanos : Nat)
  /-- The sender does all it has to do now. -/
  | act
  /-- It begins a batch, at first or after a rest. -/
  | begin
  /-- It takes the next record into the batch. -/
  | take
  /-- It collects no further. -/
  | cut
  /-- It calls again with a batch that was not taken. -/
  | again
  /-- It hears what has come of its call. -/
  | answer
deriving DecidableEq

def Beat.isOffer : Beat → Bool
  | .offer _ => true
  | _ => false

namespace Rehearsal

open Outbox (tookAll)

/-- A new outbox before a script. -/
def new (address : String) (settings : SenderSettings) (script : List Reception) : Rehearsal :=
  { outbox := .new address settings, script }

/-- What has come of the call in flight, if it has ended by now. -/
def ended? (r : Rehearsal) : Option (Except Error Nat) :=
  match r.pending with
  | some (ends, result) => if ends ≤ r.now then some result else none
  | none => none

/-- Whether the sender's alarm, if it has set one, is due. -/
def isDue (r : Rehearsal) : Bool := r.outbox.alarm?.all fun t => t ≤ r.now

/-- Whether the batch that is being collected is full. -/
def isFull (r : Rehearsal) : Bool :=
  r.outbox.settings.maxBatch ≤ r.outbox.phase.gathered.length

/-- Whether the sender has something to do for which it does not wait. -/
def isUrgent (r : Rehearsal) : Bool :=
  match r.outbox.phase with
  | .fresh => true
  | .collecting _ _ => r.isFull || !r.outbox.queue.isEmpty
  | _ => false

/-- Whether the sender begins a batch now. -/
def Begins (r : Rehearsal) : Prop :=
  r.outbox.phase = .fresh ∨ ∃ wakes, r.outbox.phase = .resting wakes ∧ wakes ≤ r.now

/-- How far time gets. -/
def reach (r : Rehearsal) (nanos : Nat) : Moment :=
  match r.nextEvent? with
  | some t => min (r.now + nanos) t
  | none => r.now + nanos

/-- The turns of the outbox that a beat is. -/
def turns (r : Rehearsal) : Beat → List Outbox.Turn
  | .offer record => [.offer record]
  | .pass _ => []
  | .act =>
    match r.pending, r.ended? with
    | none, _ => [.resume r.now]
    | some _, some result => [.answered r.now result, .resume r.now]
    | some _, none => []
  | .begin => if r.isDue then [.move (.begin r.now)] else []
  | .take => [.move .take]
  | .cut => if r.isFull || r.isDue then [.move (.cut r.now)] else []
  | .again => if r.isDue then [.move .again] else []
  | .answer =>
    match r.ended? with
    | some result => [.move (.answer r.now result)]
    | none => []

def beat (r : Rehearsal) : Beat → Rehearsal
  | .pass nanos => if r.isUrgent then r else { r with now := r.reach nanos }
  | .act => r.happen r.now
  | .answer =>
    match r.ended? with
    | some _ => { r with pending := none, outbox := r.outbox.after (r.turns .answer) }
    | none => r
  | b => startCall { r with outbox := r.outbox.after (r.turns b) }

/-- What is seen of a beat. -/
def deeds (r : Rehearsal) (b : Beat) : List Deed := r.outbox.ledger (r.turns b)

def run (r : Rehearsal) (bs : List Beat) : Rehearsal := bs.foldl beat r

/-- What is seen beat by beat. -/
def ledger (r : Rehearsal) : List Beat → List Deed
  | [] => []
  | b :: bs => r.deeds b ++ (r.beat b).ledger bs

/-- The peer is called with a batch, and meets what the script says next. -/
def dial (r : Rehearsal) (batch : List String) : Rehearsal :=
  let reception := r.script.headD {}
  { r with
    outbox := { r.outbox with phase := .calling batch }
    script := r.script.drop 1
    pending := some (endOfCall r.now r.outbox.settings.callLimit (reception.arrival r.now)
      (reception.outcome batch.length))
    calls := ⟨r.now, r.outbox.address, batch⟩ :: r.calls }

variable {r : Rehearsal}

theorem startCall_calling {batch : List String} (h : r.pending = none) :
    startCall { r with outbox := { r.outbox with phase := .calling batch } } = r.dial batch := by
  simp [startCall, Outbox.inFlight?, h, dial]

theorem startCall_of_inFlight_none (h : r.outbox.inFlight? = none) : startCall r = r := by
  simp [startCall, h]

theorem startCall_of_pending {call : Moment × Except Error Nat} (h : r.pending = some call) :
    startCall r = r := by
  unfold startCall
  cases r.outbox.inFlight? <;> simp [h]

/-- **Nothing is late**: time has not got past the next event, the call in flight is that of the
sender, no empty batch is in its hand, and the delays are those of the settings. -/
structure InTime (r : Rehearsal) : Prop where
  running : r.outbox.stopping = false
  not_stopped : r.outbox.phase ≠ .stopped
  isSome_pending : r.pending.isSome = r.outbox.inFlight?.isSome
  inHand_ne_nil : ∀ batch ∈ r.outbox.phase.inHand, batch ≠ []
  on_time : ∀ t, r.nextEvent? = some t → r.now ≤ t
  unit_eq : r.outbox.backoff.unit = r.outbox.settings.backoffUnit
  cap_eq : r.outbox.backoff.cap = r.outbox.settings.backoffCap

theorem inTime_new (address : String) (settings : SenderSettings) (script : List Reception) :
    (new address settings script).InTime where
  running := rfl
  not_stopped := nofun
  isSome_pending := rfl
  inHand_ne_nil := nofun
  on_time := nofun
  unit_eq := rfl
  cap_eq := rfl

theorem InTime.pending_eq_none (h : r.InTime) (hp : r.outbox.inFlight? = none) :
    r.pending = none := by
  have hsame := h.isSome_pending
  rw [hp] at hsame
  exact Option.isNone_iff_eq_none.1 (by simpa using hsame)

theorem InTime.exists_pending (h : r.InTime) {batch : List String}
    (hp : r.outbox.phase = .calling batch) : ∃ ends result, r.pending = some (ends, result) := by
  have hsame := h.isSome_pending
  simp only [Outbox.inFlight?, hp, Option.isSome_some, Option.isSome_iff_exists] at hsame
  obtain ⟨⟨ends, result⟩, hcall⟩ := hsame
  exact ⟨ends, result, hcall⟩

theorem InTime.calling_of_pending (h : r.InTime) {call : Moment × Except Error Nat}
    (hcall : r.pending = some call) : ∃ batch, r.outbox.phase = .calling batch := by
  have hsame := h.isSome_pending
  rw [hcall] at hsame
  cases hp : r.outbox.phase with
  | calling batch => exact ⟨batch, rfl⟩
  | _ => simp [Outbox.inFlight?, hp] at hsame

/-- A sender that has set an alarm waits for it. -/
theorem InTime.nextEvent?_of_alarm (h : r.InTime) {t : Moment} (halarm : r.outbox.alarm? = some t) :
    r.nextEvent? = some t := by
  have hflight : r.outbox.inFlight? = none := by
    cases hp : r.outbox.phase with
    | calling batch => simp [Outbox.alarm?, hp] at halarm
    | _ => simp only [Outbox.inFlight?, hp]
  simp only [nextEvent?, h.pending_eq_none hflight, halarm]

theorem InTime.le_alarm (h : r.InTime) {t : Moment} (halarm : r.outbox.alarm? = some t) :
    r.now ≤ t :=
  h.on_time t (h.nextEvent?_of_alarm halarm)

theorem InTime.le_ends (h : r.InTime) {ends : Moment} {result : Except Error Nat}
    (hcall : r.pending = some (ends, result)) : r.now ≤ ends :=
  h.on_time ends (by simp only [nextEvent?, hcall])

theorem InTime.le_deadline (h : r.InTime) {batch : List String} {deadline : Moment}
    (hp : r.outbox.phase = .collecting batch deadline) : r.now ≤ deadline :=
  h.le_alarm (by simp only [Outbox.alarm?, hp])

theorem InTime.le_wakes (h : r.InTime) {batch : List String} {wakes : Moment}
    (hp : r.outbox.phase = .retrying batch wakes) : r.now ≤ wakes :=
  h.le_alarm (by simp only [Outbox.alarm?, hp])

/-! ## 2. All that a beat may do -/

/-- What a sender against the clock was, what was seen of it, and what it has become, nothing
being offered: one of these. -/
inductive Ticks (r : Rehearsal) : List Deed → Rehearsal → Prop where
  | still : Ticks r [] r
  | passed {t : Moment} (hle : r.now ≤ t) (hidle : r.isUrgent = false)
      (hreach : ∀ event, r.nextEvent? = some event → t ≤ event) : Ticks r [] { r with now := t }
  | begun (hp : r.Begins) :
      Ticks r [] { r with outbox := { r.outbox with
        phase := .collecting [] (r.now + r.outbox.settings.batchWindow.nanos) } }
  | took {batch rest : List String} {record : String} {deadline : Moment}
      (hp : r.outbox.phase = .collecting batch deadline) (hq : r.outbox.queue = record :: rest)
      (hroom : batch.length < r.outbox.settings.maxBatch) :
      Ticks r [] { r with outbox := { r.outbox with
        queue := rest, phase := .collecting (batch ++ [record]) deadline } }
  | rested {deadline : Moment} (hp : r.outbox.phase = .collecting [] deadline)
      (hcut : r.outbox.settings.maxBatch = 0 ∨ deadline ≤ r.now) :
      Ticks r [] { r with outbox := { r.outbox with
        phase := .resting (r.now + r.outbox.settings.idlePause.nanos) } }
  | handed {batch : List String} {deadline : Moment}
      (hp : r.outbox.phase = .collecting batch deadline) (hne : batch ≠ [])
      (hcut : r.outbox.settings.maxBatch ≤ batch.length ∨ deadline ≤ r.now) :
      Ticks r [.handed batch, .called batch] (r.dial batch)
  | again {batch : List String} {wakes : Moment} (hp : r.outbox.phase = .retrying batch wakes)
      (hdue : wakes ≤ r.now) : Ticks r [.called batch] (r.dial batch)
  | failed {batch : List String} {ends : Moment} {result : Except Error Nat}
      (hp : r.outbox.phase = .calling batch) (hcall : r.pending = some (ends, result))
      (hends : ends ≤ r.now) (htook : tookAll batch result = false)
      (hdelay : ¬ r.outbox.backoff.cap < r.outbox.backoff.due) :
      Ticks r [] { r with pending := none, outbox := { r.outbox with
        backoff := { r.outbox.backoff with due := r.outbox.backoff.due.double }
        phase := .retrying batch (r.now + r.outbox.backoff.due.nanos) } }
  | delivered {batch : List String} {ends : Moment} {result : Except Error Nat}
      (hp : r.outbox.phase = .calling batch) (hcall : r.pending = some (ends, result))
      (hends : ends ≤ r.now) (htook : tookAll batch result = true) :
      Ticks r [.delivered batch] { r with pending := none, outbox := { r.outbox with
        backoff := r.outbox.backoff.reset, phase := .fresh } }
  | abandoned {batch : List String} {ends : Moment} {result : Except Error Nat}
      (hp : r.outbox.phase = .calling batch) (hcall : r.pending = some (ends, result))
      (hends : ends ≤ r.now) (htook : tookAll batch result = false)
      (hdelay : r.outbox.backoff.cap < r.outbox.backoff.due) :
      Ticks r [.abandoned batch] { r with pending := none, outbox := { r.outbox with
        backoff := r.outbox.backoff.reset, phase := .fresh } }

/-- A call ends no earlier than it starts, and is cut off at its limit. -/
theorem endOfCall_bounds {α : Type} (start : Moment) (limit : Span) (reception : Reception)
    (result : Except Error α) :
    start ≤ (endOfCall start limit (reception.arrival start) result).1 ∧
      (endOfCall start limit (reception.arrival start) result).1 ≤ start + limit.nanos := by
  unfold endOfCall Reception.arrival
  split
  · next t ht =>
    split at ht
    · cases ht
    · cases ht
      split
      · next hle => exact ⟨Nat.le_add_right .., hle⟩
      · exact ⟨Nat.le_add_right .., Nat.le_refl _⟩
  · exact ⟨Nat.le_add_right .., Nat.le_refl _⟩

theorem InTime.dial {batch : List String} (h : r.InTime) (hne : batch ≠ []) :
    (r.dial batch).InTime where
  running := h.running
  not_stopped := nofun
  isSome_pending := rfl
  inHand_ne_nil := by
    intro other hmem
    rw [List.mem_singleton.1 hmem]
    exact hne
  on_time := by
    intro t ht
    cases ht
    exact (endOfCall_bounds ..).1
  unit_eq := h.unit_eq
  cap_eq := h.cap_eq

/-- The sender waits for an alarm that is not past, and no call is in flight. -/
theorem InTime.wait {t : Moment} (h : r.InTime) (phase : Phase) (backoff : Backoff)
    (queue : List String) (hunit : backoff.unit = r.outbox.backoff.unit)
    (hcap : backoff.cap = r.outbox.backoff.cap) (hhand : phase.inHand ⊆ r.outbox.phase.inHand)
    (hflight : ({ r.outbox with phase, backoff, queue } : Outbox).inFlight? = none)
    (halarm : ({ r.outbox with phase, backoff, queue } : Outbox).alarm? = some t)
    (hle : r.now ≤ t) :
    InTime { r with pending := none, outbox := { r.outbox with phase, backoff, queue } } where
  running := h.running
  not_stopped := by
    rintro rfl
    cases halarm
  isSome_pending := by simp only [hflight, Option.isSome_none]
  inHand_ne_nil := by
    intro batch hmem
    exact h.inHand_ne_nil batch (hhand hmem)
  on_time := by
    intro event hevent
    simp only [nextEvent?, halarm, Option.some.injEq] at hevent
    rwa [← hevent]
  unit_eq := hunit.trans h.unit_eq
  cap_eq := hcap.trans h.cap_eq

theorem Begins.inFlight?_eq (h : r.Begins) : r.outbox.inFlight? = none := by
  rcases h with hp | ⟨wakes, hp, -⟩ <;> simp [Outbox.inFlight?, hp]

theorem Begins.pending_eq (h : r.Begins) : r.outbox.pending = r.outbox.queue := by
  rcases h with hp | ⟨wakes, hp, -⟩ <;> exact Outbox.pending_of_phase hp

/-- A delivery is over, and the sender is free. -/
theorem InTime.freed (h : r.InTime) : InTime { r with pending := none, outbox := { r.outbox with
    backoff := r.outbox.backoff.reset, phase := .fresh } } where
  running := h.running
  not_stopped := Phase.noConfusion
  isSome_pending := rfl
  inHand_ne_nil := by
    intro batch hmem
    exact absurd hmem List.not_mem_nil
  on_time := by
    intro t ht
    exact absurd ht (Option.some_ne_none t).symm
  unit_eq := h.unit_eq
  cap_eq := h.cap_eq

/-- **A beat makes nothing late.** -/
theorem InTime.ticks {r' : Rehearsal} {ds : List Deed} (h : r.InTime) (ht : Ticks r ds r') :
    r'.InTime := by
  have hnil : [] ⊆ r.outbox.phase.inHand := List.nil_subset _
  cases ht with
  | still => exact h
  | passed hle hidle hreach =>
    exact ⟨h.running, h.not_stopped, h.isSome_pending, h.inHand_ne_nil, hreach, h.unit_eq,
      h.cap_eq⟩
  | begun hp =>
    have hwait := h.wait (.collecting [] _) r.outbox.backoff r.outbox.queue rfl rfl hnil rfl rfl
      (Nat.le_add_right r.now r.outbox.settings.batchWindow.nanos)
    rw [← h.pending_eq_none hp.inFlight?_eq] at hwait
    exact hwait
  | @took batch rest record deadline hp hq hroom =>
    have hwait := h.wait (.collecting (batch ++ [record]) deadline) r.outbox.backoff rest rfl rfl
      hnil rfl rfl (h.le_deadline hp)
    rw [← h.pending_eq_none (by simp [Outbox.inFlight?, hp])] at hwait
    exact hwait
  | rested hp hcut =>
    have hwait := h.wait (.resting _) r.outbox.backoff r.outbox.queue rfl rfl hnil rfl rfl
      (Nat.le_add_right r.now r.outbox.settings.idlePause.nanos)
    rw [← h.pending_eq_none (by simp [Outbox.inFlight?, hp])] at hwait
    exact hwait
  | handed hp hne hcut => exact h.dial hne
  | @again batch wakes hp hdue => exact h.dial (h.inHand_ne_nil batch (by simp [hp, Phase.inHand]))
  | @failed batch ends result hp hcall hends htook hdelay =>
    refine h.wait (.retrying batch _) _ r.outbox.queue rfl rfl ?_ rfl rfl (Nat.le_add_right ..)
    rw [hp]
    exact List.Subset.refl _
  | delivered hp hcall hends htook => exact h.freed
  | abandoned hp hcall hends htook hdelay => exact h.freed

/-- An offer changes the queue alone. -/
theorem exists_offerAny (o : Outbox) (record : String) :
    ∃ queue, o.offerAny record = { o with queue } := by
  cases hoffer : o.offer record with
  | ok o' =>
    exact ⟨o.queue ++ [record], by simp [Outbox.offerAny, hoffer, Outbox.offer_eq_ok hoffer]⟩
  | error e => exact ⟨o.queue, Outbox.offerAny_of_refused hoffer⟩

theorem InTime.startCall_eq (h : r.InTime) : startCall r = r := by
  cases hflight : r.outbox.inFlight? with
  | none => exact startCall_of_inFlight_none hflight
  | some batch =>
    have hsome := h.isSome_pending
    rw [hflight, Option.isSome_some, Option.isSome_iff_exists] at hsome
    obtain ⟨call, hcall⟩ := hsome
    exact startCall_of_pending hcall

theorem InTime.withQueue (h : r.InTime) (queue : List String) :
    InTime { r with outbox := { r.outbox with queue } } :=
  ⟨h.running, h.not_stopped, h.isSome_pending, h.inHand_ne_nil, h.on_time, h.unit_eq, h.cap_eq⟩

theorem deeds_offer (r : Rehearsal) (record : String) :
    r.deeds (.offer record) = r.outbox.deeds (.offer record) := List.append_nil _

theorem beat_offer (h : r.InTime) (record : String) :
    r.beat (.offer record) = { r with outbox := r.outbox.offerAny record } := by
  obtain ⟨queue, hqueue⟩ := exists_offerAny r.outbox record
  have hoffered : r.beat (.offer record) =
      startCall { r with outbox := r.outbox.offerAny record } := rfl
  rw [hoffered, hqueue]
  exact (h.withQueue queue).startCall_eq

theorem InTime.offer (h : r.InTime) (record : String) : (r.beat (.offer record)).InTime := by
  obtain ⟨queue, hqueue⟩ := exists_offerAny r.outbox record
  rw [beat_offer h, hqueue]
  exact h.withQueue queue

/-! ## 3. One thing at a time -/

theorem beat_pass (hidle : r.isUrgent = false) (nanos : Nat) :
    r.beat (.pass nanos) = { r with now := r.reach nanos } := by
  simp only [beat, hidle, Bool.false_eq_true, if_false]

theorem ticks_pass (h : r.InTime) (nanos : Nat) :
    Ticks r (r.deeds (.pass nanos)) (r.beat (.pass nanos)) := by
  have hdeeds : r.deeds (.pass nanos) = [] := rfl
  rw [hdeeds]
  cases hidle : r.isUrgent with
  | true =>
    simp only [beat, hidle, if_true]
    exact .still
  | false =>
    rw [beat_pass hidle]
    refine .passed ?_ hidle ?_
    · unfold reach
      split
      · next t ht => exact Nat.le_min.2 ⟨Nat.le_add_right .., h.on_time t ht⟩
      · exact Nat.le_add_right ..
    · intro event hevent
      simp only [reach, hevent]
      exact Nat.min_le_right ..

/-- A turn of the sender that is not made is none. -/
theorem ticks_of_turns_nil {b : Beat} (h : r.InTime) (hturns : r.turns b = [])
    (hbeat : r.beat b = startCall { r with outbox := r.outbox.after (r.turns b) }) :
    Ticks r (r.deeds b) (r.beat b) := by
  rw [hbeat, deeds, hturns]
  have hsame : startCall { r with outbox := r.outbox.after [] } = r := h.startCall_eq
  rw [hsame]
  exact .still

/-- Nor is one that changes nothing. -/
theorem ticks_of_move_still {b : Beat} {m : Move} (h : r.InTime) (hturns : r.turns b = [.move m])
    (hbeat : r.beat b = startCall { r with outbox := r.outbox.after (r.turns b) })
    (hmove : r.outbox.move m = r.outbox) (hdeeds : r.outbox.moveDeeds m = []) :
    Ticks r (r.deeds b) (r.beat b) := by
  have hsame : startCall { r with outbox := r.outbox.after [.move m] } = r := by
    have hafter : r.outbox.after [.move m] = r.outbox := hmove
    rw [hafter]
    exact h.startCall_eq
  have hnone : r.outbox.ledger [.move m] = [] := by
    simp only [Outbox.ledger, Outbox.deeds, hdeeds, List.append_nil]
  rw [hbeat, deeds, hturns, hsame, hnone]
  exact .still

theorem Begins.isDue (h : r.Begins) : r.isDue = true := by
  rcases h with hp | ⟨wakes, hp, hwakes⟩
  · simp [Rehearsal.isDue, Outbox.alarm?, hp]
  · simp [Rehearsal.isDue, Outbox.alarm?, hp, hwakes]

theorem beat_begin (h : r.Begins) : r.beat .begin = { r with outbox := { r.outbox with
    phase := .collecting [] (r.now + r.outbox.settings.batchWindow.nanos) } } := by
  have hturns : r.turns .begin = [.move (.begin r.now)] := by simp [turns, h.isDue]
  have hmove : r.outbox.move (.begin r.now) = { r.outbox with
      phase := .collecting [] (r.now + r.outbox.settings.batchWindow.nanos) } := by
    rcases h with hp | ⟨wakes, hp, -⟩ <;> simp only [Outbox.move, hp]
  simp only [beat, hturns, Outbox.after, List.foldl_cons, List.foldl_nil, Outbox.turn, hmove]
  exact startCall_of_inFlight_none rfl

theorem ticks_begin (h : r.InTime) : Ticks r (r.deeds .begin) (r.beat .begin) := by
  cases hdue : r.isDue with
  | false => exact ticks_of_turns_nil h (by simp [turns, hdue]) rfl
  | true =>
    have hturns : r.turns .begin = [.move (.begin r.now)] := by simp [turns, hdue]
    have hbegun : r.Begins → Ticks r (r.deeds .begin) (r.beat .begin) := by
      intro hp
      have hdeeds : r.deeds .begin = [] := by
        rw [deeds, hturns]
        rfl
      rw [beat_begin hp, hdeeds]
      exact .begun hp
    cases hp : r.outbox.phase with
    | fresh => exact hbegun (Or.inl hp)
    | resting wakes =>
      exact hbegun (Or.inr ⟨wakes, hp, by simpa [Rehearsal.isDue, Outbox.alarm?, hp] using hdue⟩)
    | _ => exact ticks_of_move_still h hturns rfl (by simp [Outbox.move, hp]) rfl

theorem beat_take {batch rest : List String} {record : String} {deadline : Moment}
    (hp : r.outbox.phase = .collecting batch deadline) (hq : r.outbox.queue = record :: rest)
    (hroom : batch.length < r.outbox.settings.maxBatch) :
    r.beat .take = { r with outbox := { r.outbox with
      queue := rest, phase := .collecting (batch ++ [record]) deadline } } := by
  simp only [beat, turns, Outbox.after, List.foldl_cons, List.foldl_nil, Outbox.turn, Outbox.move,
    hp, hq, if_pos hroom]
  exact startCall_of_inFlight_none rfl

theorem ticks_take (h : r.InTime) : Ticks r (r.deeds .take) (r.beat .take) := by
  have hdeeds : r.deeds .take = [] := rfl
  cases hp : r.outbox.phase with
  | collecting batch deadline =>
    cases hq : r.outbox.queue with
    | nil => exact ticks_of_move_still h rfl rfl (by simp [Outbox.move, hp, hq]) rfl
    | cons record rest =>
      by_cases hroom : batch.length < r.outbox.settings.maxBatch
      · rw [beat_take hp hq hroom, hdeeds]
        exact .took hp hq hroom
      · exact ticks_of_move_still h rfl rfl (by simp [Outbox.move, hp, hq, hroom]) rfl
  | _ => exact ticks_of_move_still h rfl rfl (by simp [Outbox.move, hp]) rfl

theorem turns_cut {batch : List String} {deadline : Moment}
    (hp : r.outbox.phase = .collecting batch deadline)
    (hcut : r.outbox.settings.maxBatch ≤ batch.length ∨ deadline ≤ r.now) :
    r.turns .cut = [.move (.cut r.now)] := by
  have hover : (r.isFull || r.isDue) = true := by
    simpa [isFull, isDue, Outbox.alarm?, hp, Phase.gathered] using hcut
  simp only [turns, hover, if_true]

theorem beat_cut_nil {deadline : Moment} (h : r.InTime)
    (hp : r.outbox.phase = .collecting [] deadline)
    (hcut : r.outbox.settings.maxBatch = 0 ∨ deadline ≤ r.now) :
    r.beat .cut = { r with outbox := { r.outbox with
      phase := .resting (r.now + r.outbox.settings.idlePause.nanos) } } := by
  have hturns := turns_cut hp (hcut.imp_left Nat.le_zero.2)
  simp only [beat, hturns, Outbox.after, List.foldl_cons, List.foldl_nil, Outbox.turn, Outbox.move,
    hp]
  rw [if_neg (by simp [h.running])]
  exact startCall_of_inFlight_none rfl

theorem beat_cut {batch : List String} {deadline : Moment} (h : r.InTime)
    (hp : r.outbox.phase = .collecting batch deadline) (hne : batch ≠ [])
    (hcut : r.outbox.settings.maxBatch ≤ batch.length ∨ deadline ≤ r.now) :
    r.beat .cut = r.dial batch := by
  have hnone : r.pending = none := h.pending_eq_none (by simp [Outbox.inFlight?, hp])
  obtain ⟨record, rest, rfl⟩ := List.exists_cons_of_ne_nil hne
  simp only [beat, turns_cut hp hcut, Outbox.after, List.foldl_cons, List.foldl_nil, Outbox.turn,
    Outbox.move, hp]
  exact startCall_calling hnone

theorem ticks_cut (h : r.InTime) : Ticks r (r.deeds .cut) (r.beat .cut) := by
  cases hcut : r.isFull || r.isDue with
  | false => exact ticks_of_turns_nil h (by simp [turns, hcut]) rfl
  | true =>
    have hturns : r.turns .cut = [.move (.cut r.now)] := by simp [turns, hcut]
    cases hp : r.outbox.phase with
    | collecting batch deadline =>
      have hover : r.outbox.settings.maxBatch ≤ batch.length ∨ deadline ≤ r.now := by
        simpa [isFull, isDue, Outbox.alarm?, hp, Phase.gathered] using hcut
      cases batch with
      | nil =>
        have hdeeds : r.deeds .cut = [] := by
          simp [deeds, hturns, Outbox.ledger, Outbox.deeds, Outbox.moveDeeds, hp]
        rw [beat_cut_nil h hp (hover.imp_left Nat.le_zero.1), hdeeds]
        exact .rested hp (hover.imp_left Nat.le_zero.1)
      | cons record rest =>
        have hne : record :: rest ≠ [] := List.cons_ne_nil record rest
        have hdeeds : r.deeds .cut = [.handed (record :: rest), .called (record :: rest)] := by
          simp [deeds, hturns, Outbox.ledger, Outbox.deeds, Outbox.moveDeeds, hp]
        rw [beat_cut h hp hne hover, hdeeds]
        exact .handed hp hne hover
    | _ =>
      exact ticks_of_move_still h hturns rfl (by simp [Outbox.move, hp])
        (by simp [Outbox.moveDeeds, hp])

theorem beat_again {batch : List String} {wakes : Moment} (h : r.InTime)
    (hp : r.outbox.phase = .retrying batch wakes) (hdue : wakes ≤ r.now) :
    r.beat .again = r.dial batch := by
  have hnone : r.pending = none := h.pending_eq_none (by simp [Outbox.inFlight?, hp])
  have hturns : r.turns .again = [.move .again] := by
    simp [turns, isDue, Outbox.alarm?, hp, hdue]
  simp only [beat, hturns, Outbox.after, List.foldl_cons, List.foldl_nil, Outbox.turn, Outbox.move,
    hp]
  exact startCall_calling hnone

theorem ticks_again (h : r.InTime) : Ticks r (r.deeds .again) (r.beat .again) := by
  cases hdue : r.isDue with
  | false => exact ticks_of_turns_nil h (by simp [turns, hdue]) rfl
  | true =>
    have hturns : r.turns .again = [.move .again] := by simp [turns, hdue]
    cases hp : r.outbox.phase with
    | retrying batch wakes =>
      have hwakes : wakes ≤ r.now := by simpa [isDue, Outbox.alarm?, hp] using hdue
      have hdeeds : r.deeds .again = [.called batch] := by
        simp [deeds, hturns, Outbox.ledger, Outbox.deeds, Outbox.moveDeeds, hp]
      rw [beat_again h hp hwakes, hdeeds]
      exact .again hp hwakes
    | _ =>
      exact ticks_of_move_still h hturns rfl (by simp [Outbox.move, hp])
        (by simp [Outbox.moveDeeds, hp])

theorem ended?_eq_some {result : Except Error Nat} (h : r.ended? = some result) :
    ∃ ends, r.pending = some (ends, result) ∧ ends ≤ r.now := by
  unfold ended? at h
  split at h
  · next ends result' hcall =>
    split at h
    · next hends =>
      cases h
      exact ⟨ends, hcall, hends⟩
    · cases h
  · cases h

/-- What the sender makes of the end of its call. -/
theorem ticks_move_answer (h : r.InTime) {result : Except Error Nat}
    (hended : r.ended? = some result) :
    Ticks r (r.outbox.moveDeeds (.answer r.now result))
      { r with pending := none, outbox := r.outbox.move (.answer r.now result) } := by
  obtain ⟨ends, hcall, hends⟩ := ended?_eq_some hended
  obtain ⟨batch, hp⟩ := h.calling_of_pending hcall
  simp only [Outbox.moveDeeds, Outbox.endDeeds, Outbox.move, hp]
  cases htook : tookAll batch result with
  | true =>
    simp only [if_true]
    exact .delivered hp hcall hends htook
  | false =>
    simp only [Bool.false_eq_true, if_false, Backoff.next]
    by_cases hdelay : r.outbox.backoff.cap < r.outbox.backoff.due
    · simp only [if_pos hdelay]
      exact .abandoned hp hcall hends htook hdelay
    · simp only [if_neg hdelay]
      rw [if_neg (by simp [h.running])]
      exact .failed hp hcall hends htook hdelay

theorem beat_answer {result : Except Error Nat} (hended : r.ended? = some result) :
    r.beat .answer =
      { r with pending := none, outbox := r.outbox.move (.answer r.now result) } := by
  simp only [beat, hended, turns]
  rfl

theorem ticks_answer (h : r.InTime) : Ticks r (r.deeds .answer) (r.beat .answer) := by
  cases hended : r.ended? with
  | none =>
    have hbeat : r.beat .answer = r := by simp [beat, hended]
    have hdeeds : r.deeds .answer = [] := by simp [deeds, turns, hended, Outbox.ledger]
    rw [hbeat, hdeeds]
    exact .still
  | some result =>
    have hdeeds : r.deeds .answer = r.outbox.moveDeeds (.answer r.now result) := by
      simp [deeds, turns, hended, Outbox.ledger, Outbox.deeds]
    rw [beat_answer hended, hdeeds]
    exact ticks_move_answer h hended

/-! ## 4. In one go -/

/-- What was, what was seen and what has become by any number of beats without an offer. -/
inductive Ticked : Rehearsal → List Deed → Rehearsal → Prop where
  | refl (r : Rehearsal) : Ticked r [] r
  | step {r r' r'' : Rehearsal} {ds ds' : List Deed} (h : Ticks r ds r')
      (rest : Ticked r' ds' r'') : Ticked r (ds ++ ds') r''

theorem Ticks.ticked {r' : Rehearsal} {ds : List Deed} (h : Ticks r ds r') : Ticked r ds r' := by
  have hstep := Ticked.step h (.refl r')
  rwa [List.append_nil] at hstep

theorem Ticked.trans {r' r'' : Rehearsal} {ds ds' : List Deed} (h : Ticked r ds r')
    (h' : Ticked r' ds' r'') : Ticked r (ds ++ ds') r'' := by
  induction h with
  | refl r => exact h'
  | step ht _ ih =>
    rw [List.append_assoc]
    exact .step ht (ih h')

theorem InTime.ticked {r' : Rehearsal} {ds : List Deed} (h : r.InTime) (ht : Ticked r ds r') :
    r'.InTime := by
  induction ht with
  | refl r => exact h
  | step hstep _ ih => exact ih (h.ticks hstep)

/-- The sender is collecting. -/
def gathering (r : Rehearsal) (batch : List String) (deadline : Moment) : Rehearsal :=
  { r with outbox := r.outbox.gathering batch deadline }

/-- Taking record by record fills the batch. -/
theorem ticked_take (r : Rehearsal) (batch : List String) (deadline : Moment) :
    Ticked (r.gathering batch deadline) []
      { r with outbox :=
        (r.outbox.fill batch).2.gathering (r.outbox.fill batch).1 deadline } := by
  generalize hqueue : r.outbox.queue = queue
  induction queue generalizing r batch with
  | nil =>
    rw [Outbox.fill_nil hqueue]
    exact .refl _
  | cons record rest ih =>
    by_cases hroom : batch.length < r.outbox.settings.maxBatch
    · have htake : Ticks (r.gathering batch deadline) []
          (gathering { r with outbox := { r.outbox with queue := rest } } (batch ++ [record])
            deadline) := .took rfl hqueue hroom
      have hrest := ih { r with outbox := { r.outbox with queue := rest } } (batch ++ [record]) rfl
      simp only [Outbox.fill_cons hqueue hroom] at hrest
      exact .step htake hrest
    · rw [Outbox.fill_full hroom]
      exact .refl _

theorem ticked_collect (r : Rehearsal) (batch : List String) (deadline : Moment)
    (hnone : r.pending = none) :
    Ticked (r.gathering batch deadline) (r.outbox.collect r.now batch deadline).begun
      (startCall { r with outbox := r.outbox.collect r.now batch deadline }) := by
  have htake := ticked_take r batch deadline
  unfold Outbox.collect
  generalize r.outbox.fill batch = filled at htake ⊢
  obtain ⟨batch', o⟩ := filled
  simp only at htake ⊢
  split
  · next hcut =>
    have hover : o.settings.maxBatch ≤ batch'.length ∨ deadline ≤ r.now := by
      simpa using hcut
    refine htake.trans ?_
    cases batch' with
    | nil =>
      rw [startCall_of_inFlight_none rfl]
      exact (Ticks.rested rfl (hover.imp_left Nat.le_zero.1)).ticked
    | cons record rest =>
      have hcalled : startCall { r with outbox := { o with phase := .calling (record :: rest) } } =
          dial { r with outbox := o.gathering (record :: rest) deadline } (record :: rest) :=
        startCall_calling (r := { r with outbox := o.gathering (record :: rest) deadline }) hnone
      simp only [List.isEmpty_cons, Bool.false_eq_true, if_false]
      rw [hcalled]
      exact (Ticks.handed rfl (List.cons_ne_nil record rest) hover).ticked
  · rw [startCall_of_inFlight_none rfl]
    exact htake

theorem ticked_begin (hnone : r.pending = none) (hp : r.Begins) :
    Ticked r (r.outbox.begin r.now).begun
      (startCall { r with outbox := r.outbox.begin r.now }) :=
  .step (.begun hp) (ticked_collect r [] _ hnone)

/-- **Going on in one go is a run of single things.** -/
theorem ticked_settle (h : r.InTime) (hnone : r.pending = none) :
    Ticked r (r.outbox.deeds (.resume r.now)) r.settle := by
  have hrunning : ¬ r.outbox.stopping = true := by simp [h.running]
  simp only [Outbox.deeds, settle]
  cases hp : r.outbox.phase with
  | calling batch =>
    obtain ⟨ends, result, hcall⟩ := h.exists_pending hp
    rw [hnone] at hcall
    cases hcall
  | stopped => exact absurd hp h.not_stopped
  | fresh =>
    simp only [Outbox.resume, hp, if_neg hrunning]
    exact ticked_begin hnone (Or.inl hp)
  | collecting batch deadline =>
    have hsame : r.gathering batch deadline = r := by
      simp only [gathering, Outbox.gathering]
      rw [← hp]
    have hcollect := ticked_collect r batch deadline hnone
    rw [hsame] at hcollect
    simp only [Outbox.resume, hp, if_neg hrunning]
    exact hcollect
  | resting wakes =>
    simp only [Outbox.resume, hp, if_neg hrunning]
    split
    · next hwakes => exact ticked_begin hnone (Or.inr ⟨wakes, hp, hwakes⟩)
    · have hflight : r.outbox.inFlight? = none := by simp [Outbox.inFlight?, hp]
      simp only [Outbox.begun, hflight]
      rw [startCall_of_inFlight_none hflight]
      exact .refl r
  | retrying batch wakes =>
    simp only [Outbox.resume, hp, if_neg hrunning]
    split
    · next hwakes =>
      rw [startCall_calling hnone]
      exact (Ticks.again hp hwakes).ticked
    · have hflight : r.outbox.inFlight? = none := by simp [Outbox.inFlight?, hp]
      simp only [hflight]
      rw [startCall_of_inFlight_none hflight]
      exact .refl r

theorem proceed_of_running {o : Outbox} {now : Moment} (h : o.stopping = false) :
    o.proceed now = o.begin now := by
  unfold Outbox.proceed
  rw [if_neg (by simp [h])]

/-- So is what follows the end of a call. -/
theorem ticked_answered (h : r.InTime) {result : Except Error Nat}
    (hended : r.ended? = some result) :
    Ticked r (r.outbox.deeds (.answered r.now result))
      (startCall { r with pending := none, outbox := r.outbox.answered r.now result }) := by
  obtain ⟨ends, hcall, hends⟩ := ended?_eq_some hended
  obtain ⟨batch, hp⟩ := h.calling_of_pending hcall
  have hanswer := ticks_move_answer h hended
  have hdeeds : r.outbox.moveDeeds (.answer r.now result) = r.outbox.endDeeds batch result := by
    simp only [Outbox.moveDeeds, hp]
  -- a delivery that is over is followed by the next batch
  have hnext : ∀ backoff,
      r.outbox.move (.answer r.now result) = { r.outbox with backoff, phase := .fresh } →
      r.outbox.answered r.now result = ({ r.outbox with backoff } : Outbox).proceed r.now →
      Ticked r (r.outbox.deeds (.answered r.now result))
        (startCall { r with pending := none, outbox := r.outbox.answered r.now result }) := by
    intro backoff hmove hanswered
    have hbegun : r.outbox.answered r.now result =
        ({ r.outbox with backoff, phase := .fresh } : Outbox).begin r.now :=
      hanswered.trans (proceed_of_running h.running)
    rw [hmove, hdeeds] at hanswer
    simp only [Outbox.deeds, hp]
    rw [hbegun]
    exact .step hanswer (ticked_begin (r := { r with
      pending := none, outbox := { r.outbox with backoff, phase := .fresh } }) rfl (Or.inl rfl))
  cases htook : tookAll batch result with
  | true =>
    exact hnext r.outbox.backoff.reset (by simp [Outbox.move, hp, htook])
      (by simp [Outbox.answered, hp, htook])
  | false =>
    rcases hdelay : r.outbox.backoff.next with ⟨_ | delay, backoff⟩
    · exact hnext backoff.reset (by simp [Outbox.move, hp, htook, hdelay])
        (by simp [Outbox.answered, hp, htook, hdelay])
    · have hsame : r.outbox.move (.answer r.now result) = r.outbox.answered r.now result := by
        simp [Outbox.move, Outbox.answered, hp, htook, hdelay]
      have hflight : (r.outbox.answered r.now result).inFlight? = none := by
        simp [Outbox.answered, hp, htook, hdelay, h.running, Outbox.inFlight?]
      rw [hsame, hdeeds] at hanswer
      simp only [Outbox.deeds, hp, Outbox.begun, hflight, List.append_nil]
      rw [startCall_of_inFlight_none hflight]
      exact hanswer.ticked

theorem resume_of_calling {o : Outbox} {batch : List String} (now : Moment)
    (hp : o.phase = .calling batch) : o.resume now = o ∧ o.deeds (.resume now) = [] := by
  simp [Outbox.resume, Outbox.deeds, hp]

theorem happen_of_pending_none (h : r.pending = none) : r.happen r.now = r.settle := by
  cases r
  cases h
  rfl

theorem happen_of_pending {ends : Moment} {result : Except Error Nat}
    (h : r.pending = some (ends, result)) :
    r.happen r.now = if ends ≤ r.now then
      settle { r with pending := none, outbox := r.outbox.answered r.now result } else r := by
  cases r
  cases h
  rfl

theorem ticked_act (h : r.InTime) : Ticked r (r.deeds .act) (r.beat .act) := by
  cases hpending : r.pending with
  | none =>
    have hbeat : r.beat .act = r.settle := happen_of_pending_none hpending
    have hdeeds : r.deeds .act = r.outbox.deeds (.resume r.now) := by
      simp [deeds, turns, hpending, Outbox.ledger]
    rw [hbeat, hdeeds]
    exact ticked_settle h hpending
  | some call =>
    obtain ⟨ends, result⟩ := call
    by_cases hends : ends ≤ r.now
    · have hended : r.ended? = some result := by simp [ended?, hpending, hends]
      have hanswered := ticked_answered h hended
      generalize ho : r.outbox.answered r.now result = o at hanswered
      have hbeat : r.beat .act = settle { r with pending := none, outbox := o } := by
        simp [beat, happen_of_pending hpending, hends, ho]
      have hdeeds : r.deeds .act =
          r.outbox.deeds (.answered r.now result) ++ o.deeds (.resume r.now) := by
        simp [deeds, turns, hpending, hended, Outbox.ledger, Outbox.turn, ho]
      rw [hbeat, hdeeds]
      cases hflight : o.inFlight? with
      | some batch =>
        -- the next call has been made already
        have hp : o.phase = .calling batch := by
          unfold Outbox.inFlight? at hflight
          split at hflight
          · next hp =>
            cases hflight
            exact hp
          · cases hflight
        obtain ⟨hresume, hnone⟩ := resume_of_calling r.now hp
        simp only [settle, hresume, hnone, List.append_nil]
        exact hanswered
      | none =>
        rw [startCall_of_inFlight_none hflight] at hanswered
        exact hanswered.trans (ticked_settle (h.ticked hanswered) rfl)
    · have hbeat : r.beat .act = r := by simp [beat, happen_of_pending hpending, hends]
      have hdeeds : r.deeds .act = [] := by
        simp [deeds, turns, ended?, hpending, hends, Outbox.ledger]
      rw [hbeat, hdeeds]
      exact .refl r

/-- **Whatever a beat is, it is a run of single things**, unless it is an offer. -/
theorem ticked_beat (h : r.InTime) {b : Beat} (hb : b.isOffer = false) :
    Ticked r (r.deeds b) (r.beat b) := by
  cases b with
  | offer record => cases hb
  | pass nanos => exact (ticks_pass h nanos).ticked
  | act => exact ticked_act h
  | begin => exact (ticks_begin h).ticked
  | take => exact (ticks_take h).ticked
  | cut => exact (ticks_cut h).ticked
  | again => exact (ticks_again h).ticked
  | answer => exact (ticks_answer h).ticked

/-! ## 5. Runs -/

theorem InTime.beat (h : r.InTime) (b : Beat) : (r.beat b).InTime := by
  cases hb : b.isOffer with
  | false => exact h.ticked (ticked_beat h hb)
  | true =>
    cases b with
    | offer record => exact h.offer record
    | _ => cases hb

theorem InTime.run (h : r.InTime) (bs : List Beat) : (r.run bs).InTime := by
  induction bs generalizing r with
  | nil => exact h
  | cons b bs ih => exact ih (h.beat b)

/-- **What single things and offers keep is kept by every run.** -/
theorem run_induction {P : List Deed → Rehearsal → Prop} (h : r.InTime) (bs : List Beat)
    (hstart : P [] r)
    (htick : ∀ {ds ds' : List Deed} {r r' : Rehearsal}, r.InTime → P ds r → Ticks r ds' r' →
      P (ds ++ ds') r')
    (hoffer : ∀ {ds : List Deed} {r : Rehearsal} {record : String}, .offer record ∈ bs → r.InTime →
      P ds r → P (ds ++ r.deeds (.offer record)) { r with outbox := r.outbox.offerAny record }) :
    P (r.ledger bs) (r.run bs) := by
  have hticked : ∀ {ds ds' : List Deed} {r r' : Rehearsal}, r.InTime → P ds r →
      Ticked r ds' r' → P (ds ++ ds') r' := by
    intro ds ds' r r' hr hP ht
    induction ht generalizing ds with
    | refl r => rwa [List.append_nil]
    | step hstep _ ih =>
      rw [← List.append_assoc]
      exact ih (hr.ticks hstep) (htick hr hP hstep)
  -- what has been seen before the run stands in front
  have hfrom : ∀ {bs' : List Beat} {ds : List Deed} {r : Rehearsal}, bs' ⊆ bs → r.InTime → P ds r →
      P (ds ++ r.ledger bs') (r.run bs') := by
    intro bs'
    induction bs' with
    | nil =>
      intro ds r _ _ hP
      simpa [ledger, Rehearsal.run] using hP
    | cons b bs' ih =>
      intro ds r hsub hr hP
      have hbeat : P (ds ++ r.deeds b) (r.beat b) := by
        cases hb : b.isOffer with
        | false => exact hticked hr hP (ticked_beat hr hb)
        | true =>
          cases b with
          | offer record =>
            rw [beat_offer hr]
            exact hoffer (hsub List.mem_cons_self) hr hP
          | _ => cases hb
      simp only [ledger]
      rw [← List.append_assoc]
      exact ih (List.subset_of_cons_subset hsub) (hr.beat b) hbeat
  exact hfrom (List.Subset.refl bs) h hstart

theorem Ticks.settings_eq {r' : Rehearsal} {ds : List Deed} (h : Ticks r ds r') :
    r'.outbox.settings = r.outbox.settings := by
  cases h <;> rfl

theorem settings_run (h : r.InTime) (bs : List Beat) :
    (r.run bs).outbox.settings = r.outbox.settings := by
  refine run_induction (P := fun _ r' => r'.outbox.settings = r.outbox.settings) h bs rfl ?_ ?_
  · intro ds ds' r' r'' _ hsame ht
    exact ht.settings_eq.trans hsame
  · intro ds r' record _ _ hsame
    obtain ⟨queue, hqueue⟩ := exists_offerAny r'.outbox record
    rw [hqueue]
    exact hsame

theorem run_append (r : Rehearsal) (bs bs' : List Beat) : r.run (bs ++ bs') = (r.run bs).run bs' :=
  List.foldl_append

end Rehearsal

end Replica
