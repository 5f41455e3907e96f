/-
# What the pipeline of a node does

One lemma for each part of a node that a processed request may change, what many requests come
to, and what clients add to the queue.  Nothing here depends on whether the log could be written
or an outbox had room.
-/

import Replica.Node
import Replica.Proofs.Effect

namespace Replica

namespace Node

/-- A node without peers that has done nothing. -/
def solitary (id : Fin 1000) : Node where
  settings := { node := UInt32.ofNat id }
  ticker := .new id
  store := .empty
  notices := {}
  intake := { capacity := 1000 }
  log := ⟨["tx.dat"], true⟩
  outboxes := []

/-- **A node that has just been opened** has nothing waiting and an outbox for each peer. -/
theorem openIn_eq_ok {s : Settings} {d d' : Disk} {n : Node}
    (h : openIn s d = (.ok n, d')) : n.settings = s ∧ n.intake.queue = [] ∧
      n.outboxes = s.peers.map fun address => Outbox.new address s.sender := by
  unfold openIn at h
  split at h
  · cases h
  · split at h
    · cases h
    · split at h
      · cases h
      · split at h
        · cases h
        · simp only [Prod.mk.injEq, Except.ok.injEq] at h
          obtain ⟨rfl, -⟩ := h
          exact ⟨rfl, rfl, rfl⟩

/-! ## 1. One request -/

@[simp] theorem store_offer (n : Node) (r : Request) : (n.offer r).store = n.store := by
  unfold offer
  cases r.origin <;> rfl

@[simp] theorem intake_offer (n : Node) (r : Request) : (n.offer r).intake = n.intake := by
  unfold offer
  cases r.origin <;> rfl

@[simp] theorem settings_offer (n : Node) (r : Request) : (n.offer r).settings = n.settings := by
  unfold offer
  cases r.origin <;> rfl

@[simp] theorem log_offer (n : Node) (r : Request) : (n.offer r).log = n.log := by
  unfold offer
  cases r.origin <;> rfl

@[simp] theorem ticker_offer (n : Node) (r : Request) : (n.offer r).ticker = n.ticker := by
  unfold offer
  cases r.origin <;> rfl

@[simp] theorem store_process (n : Node) (d : Disk) (r : Request) :
    (n.process d r).1.store = (n.store.apply r).2 := store_offer _ r

@[simp] theorem intake_process (n : Node) (d : Disk) (r : Request) :
    (n.process d r).1.intake = n.intake := intake_offer _ r

@[simp] theorem settings_process (n : Node) (d : Disk) (r : Request) :
    (n.process d r).1.settings = n.settings := settings_offer _ r

@[simp] theorem log_process (n : Node) (d : Disk) (r : Request) :
    (n.process d r).1.log = n.log := log_offer _ r

@[simp] theorem ticker_process (n : Node) (d : Disk) (r : Request) :
    (n.process d r).1.ticker = n.ticker := ticker_offer _ r

/-- The outboxes behind a request: only what a client asked for is offered to them. -/
def offered (os : List Outbox) (r : Request) : List Outbox :=
  match r.origin with
  | .client => os.map fun o => o.offerAny r.toPeer.record
  | .peer => os

@[simp] theorem outboxes_process (n : Node) (d : Disk) (r : Request) :
    (n.process d r).1.outboxes = offered n.outboxes r := by
  unfold process offer offered
  cases r.origin <;> rfl

/-! ## 2. Many requests -/

/-- **The store changes as if nothing else were there.** -/
theorem store_processAll (n : Node) (d : Disk) (rs : List Request) :
    (n.processAll d rs).1.store = n.store.applyAll rs := by
  induction rs generalizing n d with
  | nil => rfl
  | cons r rs ih =>
    have hstep : n.processAll d (r :: rs) = (n.process d r).1.processAll (n.process d r).2 rs :=
      rfl
    rw [hstep, ih, store_process]
    rfl

/-- What a key of the node holds after requests. -/
theorem get?_processAll (n : Node) (d : Disk) (rs : List Request) (key : String) :
    (n.processAll d rs).1.get? key = heldAfter key rs (n.get? key) := by
  unfold get?
  rw [store_processAll, Store.get?_applyAll]

/-! ## 3. The queue in front of the pipeline -/

theorem submit_eq_ok {n n' : Node} {r : Request} (h : n.submit r = .ok n') :
    n.intake.closed = false ∧ n.intake.hasRoom = true ∧
      n' = { n with intake := n.intake.enqueue r } := by
  unfold submit Intake.submit at h
  split at h
  · cases h
  · next hc =>
    split at h
    · next hr =>
      cases h
      exact ⟨by simpa using hc, hr, rfl⟩
    · cases h

theorem submit_of_hasRoom {n : Node} (r : Request) (hc : n.intake.closed = false)
    (hr : n.intake.hasRoom = true) :
    n.submit r = .ok { n with intake := n.intake.enqueue r } := by
  unfold submit Intake.submit
  rw [if_neg (by simp [hc]), if_pos hr]
  rfl

theorem advance?_of_nil {n : Node} (d : Disk) (h : n.intake.queue = []) :
    n.advance? d = none := by
  simp [advance?, Intake.next?, h]

theorem advance?_of_cons {n : Node} (d : Disk) {r : Request} {rest : List Request}
    (h : n.intake.queue = r :: rest) :
    n.advance? d = some ({ n with intake := { n.intake with queue := rest } }.process d r) := by
  simp [advance?, Intake.next?, h]

/-- What the node will hold once its pipeline has drained. -/
def due (n : Node) : Store := n.store.applyAll n.intake.queue

theorem due_of_nil {n : Node} (h : n.intake.queue = []) : n.due = n.store := by
  unfold due
  rw [h]
  rfl

/-- **Draining processes what is queued, in order.** -/
theorem store_drain (n : Node) (d : Disk) : (n.drain d).1.store = n.due := store_processAll _ d _

/-- What joins the queue takes effect behind all that is in it. -/
theorem due_submit {n n' : Node} {r : Request} (h : n.submit r = .ok n') :
    n'.due = (n.due.apply r).2 := by
  obtain ⟨-, -, rfl⟩ := submit_eq_ok h
  exact List.foldl_append

/-- **All that taking the next request changes.** -/
theorem advance?_eq_some {n n' : Node} {d d' : Disk} (h : n.advance? d = some (n', d')) :
    ∃ r rest, n.intake.queue = r :: rest ∧ n'.intake.queue = rest ∧
      n'.store = (n.store.apply r).2 ∧ n'.outboxes = offered n.outboxes r ∧
      n'.ticker = n.ticker := by
  cases hq : n.intake.queue with
  | nil => simp [advance?_of_nil d hq] at h
  | cons r rest =>
    rw [advance?_of_cons d hq, Option.some.injEq] at h
    obtain rfl := congrArg Prod.fst h
    exact ⟨r, rest, rfl, by simp⟩

/-- **The pipeline takes nothing away from what the node will hold**, and adds nothing. -/
theorem due_advance? {n n' : Node} {d d' : Disk} (h : n.advance? d = some (n', d')) :
    n'.due = n.due := by
  obtain ⟨r, rest, hq, hq', hs, -⟩ := advance?_eq_some h
  rw [due, due, hq, hq', hs]
  rfl

theorem ticker_submit {n n' : Node} {r : Request} (h : n.submit r = .ok n') :
    n'.ticker = n.ticker := by
  obtain ⟨-, -, rfl⟩ := submit_eq_ok h
  rfl

end Node

/-! ## 4. What clients ask for -/

/-- What a client asks for. -/
inductive Call where
  | set (key : String) (value : Bytes)
  | delete (key : String)
deriving DecidableEq, Repr

namespace Call

def key : Call → String
  | .set key _ => key
  | .delete key => key

/-- The request that a call becomes under a version. -/
def request : Call → Version → Request
  | .set key value => fun v => .set v .client key value
  | .delete key => fun v => .delete v .client key

@[simp] theorem key_request (c : Call) (v : Version) : (c.request v).key = c.key := by
  cases c <;> rfl

@[simp] theorem version_request (c : Call) (v : Version) : (c.request v).version = v := by
  cases c <;> rfl

@[simp] theorem origin_request (c : Call) (v : Version) : (c.request v).origin = .client := by
  cases c <;> rfl

end Call

namespace Node

/-- Asks a node when its clock reads `millis`. -/
def ask (n : Node) (millis : Int64) : Call → Except Error Version × Node
  | .set key value => n.set millis key value
  | .delete key => n.delete millis key

theorem ask_eq_stamp (n : Node) (millis : Int64) (c : Call) :
    n.ask millis c = n.stamp millis c.key c.request := by cases c <;> rfl

/-- **A call that is accepted** names a legal key, takes the next stamp and joins the queue. -/
theorem ask_eq_ok {n n' : Node} {millis : Int64} {c : Call} {v : Version}
    (h : n.ask millis c = (.ok v, n')) :
    LegalKey c.key ∧ v = (n.ticker.next millis).1 ∧
      (n.nextVersion millis).2.submit (c.request v) = .ok n' := by
  rw [ask_eq_stamp] at h
  unfold stamp at h
  split at h
  · simp at h
  · next hkey =>
    cases hsub : (n.nextVersion millis).2.submit (c.request (n.nextVersion millis).1) with
    | error e => simp [hsub] at h
    | ok m =>
      simp only [hsub, Prod.mk.injEq, Except.ok.injEq] at h
      obtain ⟨rfl, rfl⟩ := h
      exact ⟨checkKey_eq_ok_iff.1 hkey, rfl, hsub⟩

/-- A call that is refused costs a stamp at most. -/
theorem ask_eq_error {n n' : Node} {millis : Int64} {c : Call} {e : Error}
    (h : n.ask millis c = (.error e, n')) : ∃ ticker, n' = { n with ticker } := by
  rw [ask_eq_stamp] at h
  unfold stamp at h
  split at h
  · simp only [Prod.mk.injEq] at h
    exact ⟨n.ticker, h.2.symm⟩
  · cases hsub : (n.nextVersion millis).2.submit (c.request (n.nextVersion millis).1) with
    | ok m => simp [hsub] at h
    | error e' =>
      simp only [hsub, Prod.mk.injEq] at h
      exact ⟨(n.nextVersion millis).2.ticker, h.2.symm⟩

end Node

end Replica
