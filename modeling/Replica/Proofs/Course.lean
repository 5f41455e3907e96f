/-
# The pipeline among others

While the pipeline goes from one request to the next, others work on what it works on: those who
watch draw tickets and take what they were told, senders empty their outboxes or stop, a log is
closed, a disk runs full.  An `Interlude` is all that others do between two requests.  It may be
anything, but nobody else changes the store, and an outbox stays in its place.

A course is interludes and requests in turn.  **What others do makes no difference to the store**
(`Node.store_course`).
-/

import Replica.Proofs.Pipeline

namespace Replica

/-! ## 1. Those who watch -/

namespace Notices

/-- Who hears of a change, if there is one. -/
def hearers (b : Notices) : Option Change → List (Nat × Change)
  | some c => ((b.waitingFor c.key).filter fun t => !b.given.contains t).map fun t => (t, c)
  | none => []

/-- What has been told is what was told before and what is heard now. -/
theorem told_tellAny (b : Notices) (change : Option Change) :
    (b.tellAny change).told = b.told ++ b.hearers change := by
  cases change with
  | none => exact (List.append_nil b.told).symm
  | some c => rfl

/-- Those who watch and the pipeline in turn, the latter with a change to tell or with none. -/
def attend (b : Notices) (steps : List ((Notices → Notices) × Option Change)) : Notices :=
  steps.foldl (fun b step => (step.1 b).tellAny step.2) b

end Notices

/-! ## 2. Interludes -/

/-- What others do between two requests. -/
structure Interlude where
  watchers : Notices → Notices
  /-- What becomes of each outbox, by its place. -/
  senders : Nat → Outbox → Outbox
  log : Log → Log
  disk : Disk → Disk

/-- The node as the pipeline finds it after an interlude. -/
def Interlude.node (e : Interlude) (n : Node) : Node :=
  { n with
    notices := e.watchers n.notices
    outboxes := n.outboxes.mapIdx e.senders
    log := e.log n.log }

namespace Node

@[simp] theorem notices_offer (n : Node) (r : Request) : (n.offer r).notices = n.notices := by
  unfold offer
  cases r.origin <;> rfl

@[simp] theorem notices_process (n : Node) (d : Disk) (r : Request) :
    (n.process d r).1.notices = n.notices.tellAny (n.store.apply r).1 := notices_offer _ r

theorem disk_process (n : Node) (d : Disk) (r : Request) :
    (n.process d r).2 = ((n.log.append d r).toOption).getD d := rfl

/-! ## 3. Courses -/

/-- The pipeline with an interlude before each request. -/
def course (n : Node) (d : Disk) : List (Interlude × Request) → Node × Disk
  | [] => (n, d)
  | (e, r) :: rest =>
    let after := (e.node n).process (e.disk d) r
    after.1.course after.2 rest

theorem store_course (n : Node) (d : Disk) (steps : List (Interlude × Request)) :
    (n.course d steps).1.store = n.store.applyAll (steps.map Prod.snd) := by
  induction steps generalizing n d with
  | nil => rfl
  | cons step rest ih =>
    obtain ⟨e, r⟩ := step
    have hnext := ih ((e.node n).process (e.disk d) r).1 ((e.node n).process (e.disk d) r).2
    rw [store_process] at hnext
    exact hnext

end Node

end Replica
