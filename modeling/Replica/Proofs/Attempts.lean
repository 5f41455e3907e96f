/-
# How a batch is delivered

The calls with one batch, one after another: the first when the batch is complete, each further
one a delay after the end of the one before, which failed.  The delay is the unit of the settings
doubled with each failure; a failure that would be followed by a delay past the cap is the last
one.  **Every call of every run is such a call, at its moment** (`delivered_on_schedule`), and
between two deliveries the delay is back at its unit.
-/

import Replica.Proofs.Delays
import Replica.Proofs.Timing

namespace Replica

/-! ## 1. Attempts -/

/-- Whether a peer that is called with so many records takes them all, and in time. -/
def Reception.TakesAll (x : Reception) (limit : Span) (count : Nat) : Prop :=
  x.hangs = false ∧ x.delay ≤ limit ∧ ∃ accepted, x.outcome count = .ok accepted ∧ count ≤ accepted

/-- The delay after a failure with so many failures before it. -/
def SenderSettings.delay (s : SenderSettings) (failures : Nat) : Span :=
  s.backoffUnit.doubled failures

/-- A call with a batch. -/
structure Attempt where
  began : Moment
  /-- What it met. -/
  met : Reception
deriving DecidableEq

namespace Attempt

/-- When and how an attempt ends. -/
def ending (a : Attempt) (s : SenderSettings) (batch : List String) : Moment × Except Error Nat :=
  endOfCall a.began s.callLimit (a.met.arrival a.began) (a.met.outcome batch.length)

def succeeds (a : Attempt) (s : SenderSettings) (batch : List String) : Bool :=
  Outbox.tookAll batch (a.ending s batch).2

end Attempt

theorem Outbox.tookAll_iff {batch : List String} {result : Except Error Nat} :
    tookAll batch result = true ↔ ∃ accepted, result = .ok accepted ∧ batch.length ≤ accepted := by
  cases result with
  | error e => simp [tookAll, verdict, Except.toOption]
  | ok accepted =>
    by_cases hless : accepted < batch.length
    · simp [tookAll, verdict, Except.toOption, hless]
    · simp [tookAll, verdict, Except.toOption, hless]
      omega

/-- What a call comes to that ends by itself, if it does in time. -/
theorem endOfCall_eq_ok_iff {start : Moment} {limit : Span} {x : Reception} {count accepted : Nat} :
    (endOfCall start limit (x.arrival start) (x.outcome count)).2 = .ok accepted ↔
      x.hangs = false ∧ x.delay ≤ limit ∧ x.outcome count = .ok accepted := by
  cases hhangs : x.hangs with
  | true => simp [endOfCall, Reception.arrival, hhangs]
  | false =>
    by_cases hlate : x.delay ≤ limit
    · have hle : x.delay.nanos ≤ limit.nanos := hlate
      simp [endOfCall, Reception.arrival, hhangs, hlate, hle]
    · have hle : ¬ x.delay.nanos ≤ limit.nanos := hlate
      simp [endOfCall, Reception.arrival, hhangs, hlate, hle]

/-- **A call succeeds if it ends in time and all records were taken, and only then.** -/
theorem tookAll_endOfCall_iff {start : Moment} {limit : Span} {x : Reception}
    {batch : List String} :
    Outbox.tookAll batch (endOfCall start limit (x.arrival start) (x.outcome batch.length)).2 = true
      ↔ x.TakesAll limit batch.length := by
  simp only [Outbox.tookAll_iff, endOfCall_eq_ok_iff, Reception.TakesAll]
  constructor
  · rintro ⟨accepted, ⟨hhangs, hdelay, hok⟩, hle⟩
    exact ⟨hhangs, hdelay, accepted, hok, hle⟩
  · rintro ⟨hhangs, hdelay, accepted, hok, hle⟩
    exact ⟨accepted, ⟨hhangs, hdelay, hok⟩, hle⟩

theorem Reception.TakesAll.tookAll_eq {x : Reception} {limit : Span} {batch : List String}
    (h : x.TakesAll limit batch.length) (start : Moment) :
    Outbox.tookAll batch (endOfCall start limit (x.arrival start) (x.outcome batch.length)).2 =
      true :=
  tookAll_endOfCall_iff.2 h

/-! ## 2. Deliveries -/

/-- A batch and the attempts to deliver it, in order. -/
structure Consignment where
  batch : List String
  attempts : List Attempt
deriving DecidableEq

/-- Whether a deed belongs to the delivery of a batch. -/
def Deed.isSending : Deed → Bool
  | .accepted _ => false
  | .refused _ _ => false
  | _ => true

namespace Consignment

/-- **One attempt follows another only if that failed**, with a delay that does not pass the cap,
and begins as long after its end. -/
def Paced (c : Consignment) (s : SenderSettings) : Prop :=
  ∀ i a a', c.attempts[i]? = some a → c.attempts[i + 1]? = some a' →
    a.succeeds s c.batch = false ∧ s.delay i ≤ s.backoffCap ∧
      a'.began = (a.ending s c.batch).1 + (s.delay i).nanos

/-- The last attempt succeeded, or its failure would be followed by a delay past the cap. -/
def Over (c : Consignment) (s : SenderSettings) : Prop :=
  ∃ before a, c.attempts = before ++ [a] ∧
    (a.succeeds s c.batch = true ∨
      a.succeeds s c.batch = false ∧ s.backoffCap < s.delay before.length)

/-- Where the sender is with its last attempt: in the call, or in the delay after its failure.
The delay that is due next has been doubled with each failure. -/
inductive UnderWay (c : Consignment) (s : SenderSettings) (r : Rehearsal) : Prop where
  | calling {before : List Attempt} {a : Attempt} (ha : c.attempts = before ++ [a])
      (hp : r.outbox.phase = .calling c.batch) (hcall : r.pending = some (a.ending s c.batch))
      (hnow : r.now ≤ (a.ending s c.batch).1) (hdue : r.outbox.backoff.due = s.delay before.length)
  | waiting {before : List Attempt} {a : Attempt} {wakes : Moment}
      (ha : c.attempts = before ++ [a]) (hp : r.outbox.phase = .retrying c.batch wakes)
      (hwakes : wakes = (a.ending s c.batch).1 + (s.delay before.length).nanos)
      (hfailed : a.succeeds s c.batch = false) (hcap : s.delay before.length ≤ s.backoffCap)
      (hnow : r.now ≤ wakes) (hdue : r.outbox.backoff.due = s.delay (before.length + 1))

/-- The calls with the batch. -/
def calls (c : Consignment) (address : String) : List CallMade :=
  c.attempts.map fun a => ⟨a.began, address, c.batch⟩

/-- What is seen of a delivery that is not over. -/
def opening (c : Consignment) : List Deed :=
  .handed c.batch :: c.attempts.map fun _ => .called c.batch

/-- What is seen of its end. -/
def closing (c : Consignment) (s : SenderSettings) : Deed :=
  if c.attempts.getLast?.any fun a => a.succeeds s c.batch then .delivered c.batch
  else .abandoned c.batch

theorem paced_single (batch : List String) (a : Attempt) (s : SenderSettings) :
    Paced ⟨batch, [a]⟩ s := by
  intro i a₁ a₂ _ h₂
  simp at h₂

/-- A further attempt, a delay after the last one, which failed. -/
theorem Paced.concat {batch : List String} {before : List Attempt} {a a' : Attempt}
    {s : SenderSettings} (h : Paced ⟨batch, before ++ [a]⟩ s) (hfailed : a.succeeds s batch = false)
    (hcap : s.delay before.length ≤ s.backoffCap)
    (hbegan : a'.began = (a.ending s batch).1 + (s.delay before.length).nanos) :
    Paced ⟨batch, before ++ [a] ++ [a']⟩ s := by
  intro i a₁ a₂ h₁ h₂
  simp only at h₁ h₂
  have hlen : (before ++ [a]).length = before.length + 1 := List.length_append
  rcases Nat.lt_trichotomy (i + 1) (before.length + 1) with hlt | heq | hgt
  · rw [List.getElem?_append_left (by omega)] at h₁ h₂
    exact h i a₁ a₂ h₁ h₂
  · obtain rfl : i = before.length := Nat.succ.inj heq
    rw [List.getElem?_append_left (by omega), List.getElem?_concat_length] at h₁
    rw [← hlen, List.getElem?_concat_length] at h₂
    cases h₁
    cases h₂
    exact ⟨hfailed, hcap, hbegan⟩
  · rw [List.getElem?_eq_none (by simp; omega)] at h₂
    cases h₂

theorem closing_of_succeeds {batch : List String} {before : List Attempt} {a : Attempt}
    {s : SenderSettings} (h : a.succeeds s batch = true) :
    closing ⟨batch, before ++ [a]⟩ s = .delivered batch := by
  simp [closing, h]

theorem closing_of_fails {batch : List String} {before : List Attempt} {a : Attempt}
    {s : SenderSettings} (h : a.succeeds s batch = false) :
    closing ⟨batch, before ++ [a]⟩ s = .abandoned batch := by
  simp [closing, h]

end Consignment

/-! ## 3. A run, delivery by delivery -/

/-- **The deeds and the calls of a sender are those of deliveries one after another**, all over
but perhaps the last one. -/
structure Delivering (address : String) (s : SenderSettings) (script : List Reception)
    (ds : List Deed) (r : Rehearsal) (ended : List Consignment) (under : Option Consignment) :
    Prop where
  address_eq : r.outbox.address = address
  settings_eq : r.outbox.settings = s
  calls_eq : r.calls.reverse = (ended ++ under.toList).flatMap (·.calls address)
  met_eq : (ended ++ under.toList).flatMap (fun c => c.attempts.map Attempt.met) =
    (List.range r.calls.length).map fun k => script.getD k {}
  script_eq : r.script = script.drop r.calls.length
  deeds_eq : ds.filter Deed.isSending =
    ended.flatMap (fun c => c.opening ++ [c.closing s]) ++ under.toList.flatMap Consignment.opening
  paced : ∀ c ∈ ended ++ under.toList, c.Paced s
  ended_over : ∀ c ∈ ended, c.Over s
  inHand_eq : r.outbox.phase.inHand = under.toList.map Consignment.batch
  due_eq : under = none → r.outbox.backoff.due = s.backoffUnit
  underWay : ∀ c ∈ under, c.UnderWay s r

namespace Delivering

variable {address : String} {s : SenderSettings} {script : List Reception} {ds : List Deed}
  {r : Rehearsal} {ended : List Consignment} {under : Option Consignment}

theorem new (address : String) (s : SenderSettings) (script : List Reception) :
    Delivering address s script [] (.new address s script) [] none where
  address_eq := rfl
  settings_eq := rfl
  calls_eq := rfl
  met_eq := rfl
  script_eq := rfl
  deeds_eq := rfl
  paced := nofun
  ended_over := nofun
  inHand_eq := rfl
  due_eq := fun _ => rfl
  underWay := nofun

/-- No delivery is under way when the sender has no batch in its hand. -/
theorem under_eq_none (h : Delivering address s script ds r ended under)
    (hhand : r.outbox.phase.inHand = []) : under = none := by
  have hmap := h.inHand_eq
  rw [hhand] at hmap
  cases under with
  | none => rfl
  | some c => cases hmap

/-- Between two deliveries the sender goes about with its queue. -/
theorem idle (h : Delivering address s script ds r ended under) {queue : List String}
    {phase : Phase} (hbefore : r.outbox.phase.inHand = []) (hafter : phase.inHand = []) :
    Delivering address s script ds { r with outbox := { r.outbox with queue, phase } } ended
      under := by
  obtain rfl := h.under_eq_none hbefore
  exact ⟨h.address_eq, h.settings_eq, h.calls_eq, h.met_eq, h.script_eq, h.deeds_eq, h.paced,
    h.ended_over, hafter, h.due_eq, nofun⟩

/-- A call begins: the first one with a batch, or one more with the batch at hand. -/
theorem dial (h : Delivering address s script ds r ended under) {batch : List String}
    {earlier : List Attempt} {ds' : List Deed}
    (hunder : under = none ∧ earlier = [] ∧ ds' = [.handed batch, .called batch] ∨
      under = some ⟨batch, earlier⟩ ∧ ds' = [.called batch])
    (hpaced : Consignment.Paced ⟨batch, earlier ++ [⟨r.now, r.script.headD {}⟩]⟩ s)
    (hdue : r.outbox.backoff.due = s.delay earlier.length) :
    Delivering address s script (ds ++ ds') (r.dial batch) ended
      (some ⟨batch, earlier ++ [⟨r.now, r.script.headD {}⟩]⟩) := by
  have hcalls : under.toList.flatMap (·.calls address) =
      Consignment.calls ⟨batch, earlier⟩ address := by
    rcases hunder with ⟨rfl, rfl, -⟩ | ⟨rfl, -⟩
    · rfl
    · simp
  have hmet : under.toList.flatMap (fun c => c.attempts.map Attempt.met) =
      earlier.map Attempt.met := by
    rcases hunder with ⟨rfl, rfl, -⟩ | ⟨rfl, -⟩
    · rfl
    · simp
  have hdeeds : under.toList.flatMap Consignment.opening ++ ds'.filter Deed.isSending =
      Consignment.opening ⟨batch, earlier ++ [⟨r.now, r.script.headD {}⟩]⟩ := by
    rcases hunder with ⟨rfl, rfl, rfl⟩ | ⟨rfl, rfl⟩
    · rfl
    · simp [Consignment.opening, Deed.isSending]
  have hnext : r.script.headD {} = script.getD r.calls.length {} := by
    rw [h.script_eq, List.headD_eq_head?_getD, List.head?_drop, List.getD_eq_getElem?_getD]
  refine ⟨h.address_eq, h.settings_eq, ?_, ?_, ?_, ?_, ?_, h.ended_over, rfl, nofun, ?_⟩
  · have hbefore := h.calls_eq
    rw [List.flatMap_append, hcalls] at hbefore
    simp only [Rehearsal.dial, List.reverse_cons, hbefore, h.address_eq]
    simp [Consignment.calls]
  · have hbefore := h.met_eq
    rw [List.flatMap_append, hmet] at hbefore
    simp only [Rehearsal.dial, List.length_cons, List.range_succ, List.map_append, ← hbefore]
    simp only [List.map_cons, List.map_nil, ← hnext]
    simp
  · simp only [Rehearsal.dial, h.script_eq, List.drop_drop, List.length_cons]
  · rw [List.filter_append, h.deeds_eq, List.append_assoc, hdeeds]
    simp
  · intro c hc
    rcases List.mem_append.1 hc with hc | hc
    · exact h.paced c (List.mem_append_left _ hc)
    · obtain rfl := List.mem_singleton.1 hc
      exact hpaced
  · rintro c ⟨⟩
    refine .calling rfl rfl ?_ (Rehearsal.endOfCall_bounds ..).1 hdue
    simp only [Rehearsal.dial, Attempt.ending, h.settings_eq]

/-- A delivery is over, and the delay is back at its unit. -/
theorem finish {c : Consignment} (h : Delivering address s script ds r ended (some c))
    (hover : c.Over s) (hunit : r.outbox.backoff.unit = s.backoffUnit) :
    Delivering address s script (ds ++ [c.closing s])
      { r with pending := none, outbox := { r.outbox with
        backoff := r.outbox.backoff.reset, phase := .fresh } } (ended ++ [c]) none := by
  have hsending : (c.closing s).isSending = true := by
    unfold Consignment.closing
    split <;> rfl
  have hlist : ended ++ [c] ++ (none : Option Consignment).toList = ended ++ (some c).toList :=
    List.append_nil _
  refine ⟨h.address_eq, h.settings_eq, ?_, ?_, h.script_eq, ?_, ?_, ?_, rfl, fun _ => hunit, nofun⟩
  · rw [hlist]
    exact h.calls_eq
  · rw [hlist]
    exact h.met_eq
  · simp [List.filter_append, h.deeds_eq, hsending]
  · rw [hlist]
    exact h.paced
  · intro c' hc'
    rcases List.mem_append.1 hc' with hc' | hc'
    · exact h.ended_over c' hc'
    · obtain rfl := List.mem_singleton.1 hc'
      exact hover

/-- The delivery of the batch at hand. -/
theorem exists_underWay (h : Delivering address s script ds r ended under) {batch : List String}
    (hi : r.outbox.phase.inHand = [batch]) :
    ∃ attempts, under = some ⟨batch, attempts⟩ ∧
      Consignment.UnderWay ⟨batch, attempts⟩ s r ∧ Consignment.Paced ⟨batch, attempts⟩ s := by
  have hmap := h.inHand_eq
  rw [hi] at hmap
  cases under with
  | none => cases hmap
  | some c =>
    obtain ⟨batch', attempts⟩ := c
    cases hmap
    exact ⟨attempts, rfl, h.underWay _ rfl, h.paced _ (by simp)⟩

/-- The attempt of the call in flight. -/
theorem exists_attempt (h : Delivering address s script ds r ended under) {batch : List String}
    (hp : r.outbox.phase = .calling batch) :
    ∃ before a, under = some ⟨batch, before ++ [a]⟩ ∧ r.pending = some (a.ending s batch) ∧
      r.now ≤ (a.ending s batch).1 ∧ r.outbox.backoff.due = s.delay before.length := by
  have hhand : r.outbox.phase.inHand = [batch] := by rw [hp, Phase.inHand]
  obtain ⟨attempts, hunder, hway, -⟩ := h.exists_underWay hhand
  cases hway with
  | @calling before a ha _ hcall hnow hdue =>
    simp only at ha
    subst ha
    exact ⟨before, a, hunder, hcall, hnow, hdue⟩
  | waiting _ hp' _ _ _ _ _ =>
    rw [hp] at hp'
    cases hp'

/-- The time of the sender goes on. -/
theorem pass (h : Delivering address s script ds r ended under) (hr : r.InTime) {t : Moment}
    (hreach : ∀ event, r.nextEvent? = some event → t ≤ event) :
    Delivering address s script ds { r with now := t } ended under := by
  refine ⟨h.address_eq, h.settings_eq, h.calls_eq, h.met_eq, h.script_eq, h.deeds_eq, h.paced,
    h.ended_over, h.inHand_eq, h.due_eq, ?_⟩
  intro c hc
  cases h.underWay c hc with
  | calling ha hp hcall hnow hdue =>
    exact .calling ha hp hcall (hreach _ (by simp [Rehearsal.nextEvent?, hcall])) hdue
  | waiting ha hp hwakes hfailed hcap hnow hdue =>
    exact .waiting ha hp hwakes hfailed hcap
      (hreach _ (hr.nextEvent?_of_alarm (by simp only [Outbox.alarm?, hp]))) hdue

/-- A call is made again when the delay after the last one is over. -/
theorem again (h : Delivering address s script ds r ended under) {batch : List String}
    {wakes : Moment} (hp : r.outbox.phase = .retrying batch wakes) (hdue : wakes ≤ r.now) :
    ∃ under, Delivering address s script (ds ++ [.called batch]) (r.dial batch) ended under := by
  have hhand : r.outbox.phase.inHand = [batch] := by rw [hp, Phase.inHand]
  obtain ⟨attempts, hunder, hway, hpaced⟩ := h.exists_underWay hhand
  cases hway with
  | calling _ hp' _ _ _ =>
    rw [hp] at hp'
    cases hp'
  | @waiting before a wakes' ha hp' hwakes hfailed hcap hnow hbackoff =>
    rw [hp] at hp'
    cases hp'
    simp only at ha
    subst ha
    have hbegan : r.now = (a.ending s batch).1 + (s.delay before.length).nanos := by
      rw [← hwakes]
      exact Nat.le_antisymm hnow hdue
    refine ⟨_, h.dial (Or.inr ⟨hunder, rfl⟩) (hpaced.concat hfailed hcap hbegan) ?_⟩
    rw [hbackoff, List.length_append]
    rfl

/-- After a failure the sender waits for the delay that is due, which doubles. -/
theorem fail (h : Delivering address s script ds r ended under) {batch : List String}
    {ends : Moment} {result : Except Error Nat} (hp : r.outbox.phase = .calling batch)
    (hcall : r.pending = some (ends, result)) (hends : ends ≤ r.now)
    (htook : Outbox.tookAll batch result = false)
    (hdelay : r.outbox.backoff.due ≤ s.backoffCap) :
    Delivering address s script ds { r with pending := none, outbox := { r.outbox with
      backoff := { r.outbox.backoff with due := r.outbox.backoff.due.double }
      phase := .retrying batch (r.now + r.outbox.backoff.due.nanos) } } ended under := by
  obtain ⟨before, a, hunder, hpending, hnow, hdue⟩ := h.exists_attempt hp
  have hsame : a.ending s batch = (ends, result) := by
    rw [hcall] at hpending
    exact (Option.some.inj hpending).symm
  have hend : (a.ending s batch).1 = r.now := by
    rw [hsame] at hnow ⊢
    exact Nat.le_antisymm hends hnow
  rw [hunder] at h ⊢
  refine ⟨h.address_eq, h.settings_eq, h.calls_eq, h.met_eq, h.script_eq, h.deeds_eq, h.paced,
    h.ended_over, rfl, nofun, ?_⟩
  rintro c ⟨⟩
  refine .waiting rfl rfl ?_ ?_ ?_ (Nat.le_add_right ..) ?_
  · rw [hend, hdue]
  · rw [Attempt.succeeds, hsame]
    exact htook
  · rwa [← hdue]
  · simp only [hdue]
    exact (Span.doubled_succ ..).symm

/-- **Whatever the sender does belongs to a delivery on its schedule.** -/
theorem ticks {ds' : List Deed} {r' : Rehearsal}
    (h : Delivering address s script ds r ended under) (hr : r.InTime)
    (ht : Rehearsal.Ticks r ds' r') :
    ∃ ended under, Delivering address s script (ds ++ ds') r' ended under := by
  have hunit : r.outbox.backoff.unit = s.backoffUnit := by rw [hr.unit_eq, h.settings_eq]
  have hbackoffCap : r.outbox.backoff.cap = s.backoffCap := by rw [hr.cap_eq, h.settings_eq]
  cases ht with
  | still => exact ⟨ended, under, by rwa [List.append_nil]⟩
  | passed hle hidle hreach => exact ⟨ended, under, by rw [List.append_nil]; exact h.pass hr hreach⟩
  | begun hp =>
    have hbefore : r.outbox.phase.inHand = [] := by
      rcases hp with hp | ⟨wakes, hp, -⟩ <;> rw [hp] <;> rfl
    exact ⟨ended, under, by rw [List.append_nil]; exact h.idle hbefore rfl⟩
  | took hp hq hroom =>
    exact ⟨ended, under, by rw [List.append_nil]; exact h.idle (by rw [hp]; rfl) rfl⟩
  | rested hp hcut =>
    exact ⟨ended, under, by rw [List.append_nil]; exact h.idle (by rw [hp]; rfl) rfl⟩
  | handed hp hne hcut =>
    have hnone : under = none := h.under_eq_none (by rw [hp]; rfl)
    refine ⟨ended, _, h.dial (Or.inl ⟨hnone, rfl, rfl⟩) (Consignment.paced_single _ _ s) ?_⟩
    rw [h.due_eq hnone]
    exact (Span.doubled_zero _).symm
  | again hp hdue => exact ⟨ended, h.again hp hdue⟩
  | failed hp hcall hends htook hdelay =>
    rw [hbackoffCap] at hdelay
    rw [List.append_nil]
    exact ⟨ended, under, h.fail hp hcall hends htook (Nat.not_lt.1 hdelay)⟩
  | @delivered batch ends result hp hcall hends htook =>
    obtain ⟨before, a, hunder, hpending, -, -⟩ := h.exists_attempt hp
    rw [hcall] at hpending
    have hsucceeds : a.succeeds s batch = true := by
      rw [Attempt.succeeds, ← Option.some.inj hpending]
      exact htook
    rw [hunder] at h
    have hover : Consignment.Over ⟨batch, before ++ [a]⟩ s := ⟨before, a, rfl, Or.inl hsucceeds⟩
    have hfinish := h.finish hover hunit
    rw [Consignment.closing_of_succeeds hsucceeds] at hfinish
    exact ⟨_, none, hfinish⟩
  | @abandoned batch ends result hp hcall hends htook hdelay =>
    obtain ⟨before, a, hunder, hpending, -, hdue⟩ := h.exists_attempt hp
    rw [hcall] at hpending
    have hfails : a.succeeds s batch = false := by
      rw [Attempt.succeeds, ← Option.some.inj hpending]
      exact htook
    rw [hbackoffCap, hdue] at hdelay
    rw [hunder] at h
    have hover : Consignment.Over ⟨batch, before ++ [a]⟩ s :=
      ⟨before, a, rfl, Or.inr ⟨hfails, hdelay⟩⟩
    have hfinish := h.finish hover hunit
    rw [Consignment.closing_of_fails hfails] at hfinish
    exact ⟨_, none, hfinish⟩

/-- An offer is no part of a delivery. -/
theorem offer (h : Delivering address s script ds r ended under) (record : String) :
    Delivering address s script (ds ++ r.deeds (.offer record))
      { r with outbox := r.outbox.offerAny record } ended under := by
  have hnone : (r.deeds (.offer record)).filter Deed.isSending = [] := by
    rw [Rehearsal.deeds_offer]
    cases hoffer : r.outbox.offer record <;> simp [Outbox.deeds, hoffer, Deed.isSending]
  obtain ⟨queue, hqueue⟩ := Rehearsal.exists_offerAny r.outbox record
  rw [hqueue]
  refine ⟨h.address_eq, h.settings_eq, h.calls_eq, h.met_eq, h.script_eq, ?_, h.paced,
    h.ended_over, h.inHand_eq, h.due_eq, ?_⟩
  · rw [List.filter_append, hnone, List.append_nil, h.deeds_eq]
  · intro c hc
    cases h.underWay c hc with
    | calling ha hp hcall hnow hdue => exact .calling ha hp hcall hnow hdue
    | waiting ha hp hwakes hfailed hcap hnow hdue =>
      exact .waiting ha hp hwakes hfailed hcap hnow hdue

/-- **Every run goes delivery by delivery.** -/
theorem run (address : String) (s : SenderSettings) (script : List Reception) (bs : List Beat) :
    ∃ ended under, Delivering address s script ((Rehearsal.new address s script).ledger bs)
      ((Rehearsal.new address s script).run bs) ended under := by
  refine Rehearsal.run_induction (P := fun ds r =>
    ∃ ended under, Delivering address s script ds r ended under)
    (Rehearsal.inTime_new address s script) bs ⟨[], none, new address s script⟩ ?_ ?_
  · rintro ds ds' r r' hr ⟨ended, under, h⟩ ht
    exact h.ticks hr ht
  · rintro ds r record - hr ⟨ended, under, h⟩
    exact ⟨ended, under, h.offer record⟩

end Delivering

/-- **Every batch is delivered on the schedule of its delays**, whatever became of the batches
before it.  The calls of a run are attempts of deliveries, one delivery after another, and meet
the script in order; those that are over ended with their first success or with the first failure
that no delay may follow. -/
theorem delivered_on_schedule (address : String) (settings : SenderSettings)
    (script : List Reception) (bs : List Beat) :
    let start := Rehearsal.new address settings script
    let r := start.run bs
    ∃ (ended : List Consignment) (under : Option Consignment),
      let all := ended ++ under.toList
      r.calls.reverse = all.flatMap (·.calls address) ∧
      all.flatMap (fun c => c.attempts.map Attempt.met) =
        (List.range r.calls.length).map (fun k => script.getD k {}) ∧
      (start.ledger bs).filter Deed.isSending =
        ended.flatMap (fun c => c.opening ++ [c.closing settings]) ++
          under.toList.flatMap Consignment.opening ∧
      (∀ c ∈ all, c.Paced settings) ∧
      (∀ c ∈ ended, c.Over settings) ∧
      (∀ c ∈ under, c.UnderWay settings r) ∧
      r.outbox.phase.inHand = under.toList.map Consignment.batch ∧
      (under = none → r.outbox.backoff = .new settings.backoffUnit settings.backoffCap) ∧
      ∀ c ∈ all, ∀ a ∈ c.attempts,
        (a.succeeds settings c.batch = true ↔
          a.met.TakesAll settings.callLimit c.batch.length) := by
  intro start r
  obtain ⟨ended, under, h⟩ := Delivering.run address settings script bs
  have hr : r.InTime := (Rehearsal.inTime_new address settings script).run bs
  refine ⟨ended, under, h.calls_eq, h.met_eq, h.deeds_eq, h.paced, h.ended_over, h.underWay,
    h.inHand_eq, ?_, fun c _ a _ => tookAll_endOfCall_iff⟩
  intro hnone
  have hdue := h.due_eq hnone
  have hunit : r.outbox.backoff.unit = settings.backoffUnit := by
    rw [hr.unit_eq, h.settings_eq]
  have hcap : r.outbox.backoff.cap = settings.backoffCap := by
    rw [hr.cap_eq, h.settings_eq]
  generalize r.outbox.backoff = backoff at hdue hunit hcap
  cases backoff
  cases hdue
  cases hunit
  cases hcap
  rfl

end Replica
