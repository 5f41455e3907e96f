/-
# What a node offers to its peers

A node has one outbox for each entry of its list of peers, the same address twice if it stands
there twice.  **Behind each request that a client asked for, every outbox is offered one record,
the line of that request as a peer hands it on; behind any other request nothing is offered**
(`Service.offers_turnsIn`).  Whether an outbox takes a record is its own affair: what becomes of
it is what `Outbox.after` says of its turns, and a node does nothing else with its outboxes
(`Service.outboxes_run`).

All that is pending in an outbox was offered to it (`Service.forall_pending_step`).
-/

import Replica.Proofs.Entrances

namespace Replica

/-- What is offered to the peers behind a request. -/
def Request.forPeers? (r : Request) : Option String :=
  match r.origin with
  | .client => some r.toPeer.record
  | .peer => none

namespace Outbox

/-- The record that a turn offers. -/
def Turn.offered? : Turn → Option String
  | .offer record => some record
  | _ => none

theorem after_append (o : Outbox) (ts ts' : List Turn) :
    o.after (ts ++ ts') = (o.after ts).after ts' := List.foldl_append

variable {o : Outbox} {record : String}

/-- An offer adds its record at most. -/
theorem mem_pending_of_mem_offerAny {offered : String}
    (h : record ∈ (o.offerAny offered).pending) : record ∈ o.pending ∨ record = offered := by
  cases hoffer : o.offer offered with
  | error e =>
    rw [offerAny_of_refused hoffer] at h
    exact Or.inl h
  | ok o' =>
    rw [pending_offerAny (by rw [hoffer]; rfl)] at h
    rcases List.mem_append.1 h with hold | hnew
    · exact Or.inl hold
    · exact Or.inr (List.mem_singleton.1 hnew)

/-- No move adds a record. -/
theorem Went.mem_pending {o' : Outbox} {ds : List Deed} (h : Went o ds o')
    (hrecord : record ∈ o'.pending) : record ∈ o.pending := by
  have hin : ∀ {p : Phase} {batch : List String}, o.phase = p → p.batch = batch →
      record ∈ batch ++ o.queue → record ∈ o.pending := by
    rintro p batch rfl rfl hmem
    exact hmem
  cases h with
  | still => exact hrecord
  | begun hg hi hs => exact List.mem_append_right _ hrecord
  | took hp hq hroom =>
    refine hin hp rfl ?_
    rw [hq, List.append_cons]
    exact hrecord
  | rested hp => exact hin hp rfl hrecord
  | handed hp hne => exact hin hp rfl hrecord
  | again hp => exact hin hp rfl hrecord
  | failed hp => exact hin hp rfl hrecord
  | delivered hp => exact List.mem_append_right _ hrecord
  | abandoned hp => exact List.mem_append_right _ hrecord
  | halted hs => exact List.mem_append_right _ hrecord

/-- A turn adds the record that it offers at most. -/
theorem mem_pending_of_mem_turn {t : Turn} (h : record ∈ (o.turn t).pending) :
    record ∈ o.pending ∨ t.offered? = some record := by
  cases t with
  | offer offered =>
    rcases mem_pending_of_mem_offerAny h with hold | rfl
    · exact Or.inl hold
    · exact Or.inr rfl
  | stop => exact Or.inl h
  | resume now => exact Or.inl (mem_pending_of_mem_resume h)
  | answered now result => exact Or.inl (mem_pending_of_mem_answered h)
  | move m => exact Or.inl ((went_move o m).mem_pending h)

/-- **All that is pending was pending or was offered.** -/
theorem mem_pending_after {ts : List Turn} (h : record ∈ (o.after ts).pending) :
    record ∈ o.pending ∨ ∃ t ∈ ts, t.offered? = some record := by
  induction ts generalizing o with
  | nil => exact Or.inl h
  | cons t ts ih =>
    rcases ih h with hrest | ⟨t', ht', hoffered⟩
    · rcases mem_pending_of_mem_turn hrest with hold | hoffered
      · exact Or.inl hold
      · exact Or.inr ⟨t, List.mem_cons_self, hoffered⟩
    · exact Or.inr ⟨t', List.mem_cons_of_mem t ht', hoffered⟩

end Outbox

/-- Behind a request every outbox is offered what there is for the peers. -/
theorem Node.offered_eq (os : List Outbox) (r : Request) :
    offered os r = os.map fun o => o.after (r.forPeers?.toList.map .offer) := by
  unfold offered Request.forPeers?
  cases r.origin with
  | client => rfl
  | peer => exact (List.map_id _).symm

namespace Service

/-! ## 1. The turns of an outbox -/

/-- What an act does to the outbox at a place. -/
def turnsAt (x : Service) (i : Nat) : Act → List Outbox.Turn
  | .process =>
    match x.node.intake.queue with
    | r :: _ => r.forPeers?.toList.map .offer
    | [] => []
  | .move j m => if j = i then [.move m] else []
  | .stop j => if j = i ∧ x.stage = .stopping then [.stop] else []
  | _ => []

/-- What acts do to the outbox at a place, one after another. -/
def turnsIn (x : Service) (i : Nat) : List Act → List Outbox.Turn
  | [] => []
  | a :: as => x.turnsAt i a ++ (x.step a).turnsIn i as

variable {x : Service} {a : Act} {i : Nat}

theorem outboxes_ask (n : Node) (millis : Int64) (call : Call) :
    (n.ask millis call).2.outboxes = n.outboxes := by
  rcases hask : n.ask millis call with ⟨e | v, n'⟩
  · obtain ⟨ticker, rfl⟩ := Node.ask_eq_error hask
    rfl
  · obtain ⟨-, -, hsub⟩ := Node.ask_eq_ok hask
    obtain ⟨-, -, rfl⟩ := Node.submit_eq_ok hsub
    rfl

theorem outboxes_takeNext (x : Service) (r : Request) (rest : List Request) :
    (x.takeNext r rest).node.outboxes =
      x.node.outboxes.map fun o => o.after (r.forPeers?.toList.map .offer) := by
  have hprocess : (x.takeNext r rest).node.outboxes = Node.offered x.node.outboxes r :=
    Node.outboxes_process _ x.disk r
  rw [hprocess, Node.offered_eq]

theorem outboxes_withOutbox {j : Nat} {o : Outbox} (ho : x.node.outboxes[j]? = some o)
    (t : Outbox.Turn) (i : Nat) :
    (x.withOutbox j (o.turn t)).node.outboxes[i]? =
      (x.node.outboxes[i]?).map fun o => o.after (if j = i then [t] else []) := by
  have hset : (x.withOutbox j (o.turn t)).node.outboxes = x.node.outboxes.set j (o.turn t) := rfl
  rw [hset, List.getElem?_set]
  split
  · next hj =>
    subst hj
    have hlt : j < x.node.outboxes.length := (List.getElem?_eq_some_iff.1 ho).1
    rw [ho, if_pos hlt]
    rfl
  · exact Option.map_id'.symm

/-- **What an act does to an outbox is the turns that it gives it.** -/
theorem outboxes_step (x : Service) (a : Act) (i : Nat) :
    (x.step a).node.outboxes[i]? =
      (x.node.outboxes[i]?).map fun o => o.after (x.turnsAt i a) := by
  have hsame : (x.step a).node.outboxes = x.node.outboxes → x.turnsAt i a = [] →
      (x.step a).node.outboxes[i]? =
        (x.node.outboxes[i]?).map fun o => o.after (x.turnsAt i a) := by
    intro houtboxes hturns
    rw [houtboxes, hturns]
    exact Option.map_id'.symm
  cases a with
  | ask millis call => exact hsame (outboxes_ask x.node millis call) rfl
  | submit r =>
    refine hsame ?_ rfl
    simp only [step]
    split
    · next n hsub =>
      obtain ⟨-, -, rfl⟩ := Node.submit_eq_ok hsub
      rfl
    · rfl
  | process =>
    simp only [step, turnsAt]
    cases hq : x.node.intake.queue with
    | nil =>
      rw [Node.advance?_of_nil x.disk hq]
      exact Option.map_id'.symm
    | cons r rest =>
      rw [Node.advance?_of_cons x.disk hq]
      have hnext := outboxes_takeNext x r rest
      exact (congrArg (·[i]?) hnext).trans List.getElem?_map
  | move j m =>
    simp only [step, turnsAt]
    split
    · next o ho => exact outboxes_withOutbox ho (.move m) i
    · next hnone =>
      split
      · next hj =>
        subst hj
        rw [hnone]
        rfl
      · exact Option.map_id'.symm
  | stop j =>
    simp only [step, turnsAt]
    split
    · next o ho =>
      split
      · next hs =>
        have hturns := outboxes_withOutbox ho .stop i
        simp only [hs, and_true]
        exact hturns
      · next hs =>
        rw [if_neg fun h => hs h.2]
        exact Option.map_id'.symm
    · next hnone =>
      split
      · next h =>
        rw [← h.1, hnone]
        rfl
      · exact Option.map_id'.symm
  | _ =>
    -- nothing else has to do with outboxes
    refine hsame ?_ rfl
    simp only [step]
    repeat' split
    all_goals rfl

/-- **A node does nothing with an outbox but give it its turns.** -/
theorem outboxes_run (x : Service) (as : List Act) (i : Nat) :
    (x.run as).node.outboxes[i]? =
      (x.node.outboxes[i]?).map fun o => o.after (x.turnsIn i as) := by
  induction as generalizing x with
  | nil => exact Option.map_id'.symm
  | cons a as ih =>
    refine (ih (x.step a)).trans ?_
    rw [outboxes_step, Option.map_map]
    exact congrArg (Option.map · _) (funext fun o => (o.after_append ..).symm)

/-! ## 2. What is offered -/

theorem offers_turnsAt (x : Service) (i : Nat) (a : Act) :
    (x.turnsAt i a).filterMap Outbox.Turn.offered? =
      ((x.seen a).filterMap Sight.processed?).filterMap Request.forPeers? := by
  have hnone : x.turnsAt i a = [] → (x.seen a).filterMap Sight.processed? = [] →
      (x.turnsAt i a).filterMap Outbox.Turn.offered? =
        ((x.seen a).filterMap Sight.processed?).filterMap Request.forPeers? := by
    intro hturns hseen
    rw [hturns, hseen]
    rfl
  cases a with
  | process =>
    simp only [turnsAt, seen]
    cases x.node.intake.queue with
    | nil => rfl
    | cons r rest => cases hr : r.forPeers? <;> simp [hr, Outbox.Turn.offered?, Sight.processed?]
  | move j m =>
    simp only [turnsAt, seen]
    split <;> rfl
  | stop j =>
    simp only [turnsAt, seen]
    split <;> rfl
  | _ =>
    refine hnone rfl ?_
    simp only [seen]
    repeat' split
    all_goals rfl

/-- **Each outbox is offered a record for each client's request that is processed**, in the order
of processing, and nothing else. -/
theorem offers_turnsIn (x : Service) (i : Nat) (as : List Act) :
    (x.turnsIn i as).filterMap Outbox.Turn.offered? =
      ((x.sights as).filterMap Sight.processed?).filterMap Request.forPeers? := by
  induction as generalizing x with
  | nil => rfl
  | cons a as ih =>
    unfold turnsIn sights
    rw [List.filterMap_append, List.filterMap_append, List.filterMap_append, offers_turnsAt, ih]

/-! ## 3. What is pending -/

/-- **All that is pending in an outbox was pending in one, or was offered behind a request of the
queue.** -/
theorem forall_pending_step {Q : String → Prop}
    (h : ∀ o ∈ x.node.outboxes, ∀ record ∈ o.pending, Q record)
    (hqueue : ∀ r ∈ x.node.intake.queue, ∀ record, r.forPeers? = some record → Q record) :
    ∀ o ∈ (x.step a).node.outboxes, ∀ record ∈ o.pending, Q record := by
  intro o ho record hrecord
  obtain ⟨i, hi⟩ := List.mem_iff_getElem?.1 ho
  rw [outboxes_step] at hi
  obtain ⟨before, hbefore, rfl⟩ := Option.map_eq_some_iff.1 hi
  rcases Outbox.mem_pending_after hrecord with hold | ⟨t, ht, hoffered⟩
  · exact h before (List.mem_of_getElem? hbefore) record hold
  · have hmem : record ∈ (x.turnsAt i a).filterMap Outbox.Turn.offered? :=
      List.mem_filterMap.2 ⟨t, ht, hoffered⟩
    rw [offers_turnsAt] at hmem
    obtain ⟨r, hr, hpeers⟩ := List.mem_filterMap.1 hmem
    obtain ⟨sight, hsight, heq⟩ := List.mem_filterMap.1 hr
    cases sight with
    | processed q =>
      obtain rfl : q = r := Option.some.inj heq
      exact hqueue q (mem_queue_of_processed hsight) record hpeers
    | _ => cases heq

end Service

end Replica
