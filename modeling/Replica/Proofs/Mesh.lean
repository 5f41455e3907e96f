/-
# Nodes that send to each other

Any number of nodes, each at its address, and what is under way between them.  One act at a
time is done, **in any order and at any moment**: clients ask, pipelines process, senders go on,
calls come to a node or fail, and nodes pull each other's snapshots.

Requests that come from elsewhere pay a visit: they are handed over one after another, each when
the intake has room or keeps a promise, and a visit may end before all are.  A sender hears of a
failure whether or not its visit has ended, and it hears that so many requests were taken only
from a visit that handed over all.
-/

import Mathlib.Logic.Function.Basic
import Replica.Proofs.Codec.Record
import Replica.Proofs.Codec.Snapshot
import Replica.Proofs.Pipeline
import Replica.Proofs.Sender

namespace Replica

/-- A node at its address, with its disk. -/
structure Host where
  address : String
  node : Node
  disk : Disk

/-- The call of a sender with a batch. -/
structure Push (k : Nat) where
  source : Fin k
  outbox : Nat
  batch : List String
deriving DecidableEq, Repr

/-- Requests that are being handed over to a node, those of a call or those of a snapshot. -/
structure Visit (k : Nat) where
  target : Fin k
  left : List Request
  taken : Nat := 0
  /-- Whether the next place in the intake has been promised. -/
  invited : Bool := false
  push : Option (Push k) := none
deriving DecidableEq, Repr

/-- So many nodes, and what is under way between them. -/
structure Mesh (k : Nat) where
  hosts : Fin k → Host
  visits : List (Visit k) := []

/-- What may happen next. -/
inductive Act (k : Nat) where
  /-- A client asks a node whose clock reads `millis`. -/
  | ask (h : Fin k) (millis : Int64) (call : Call)
  /-- The pipeline of a node takes the next request. -/
  | process (h : Fin k)
  /-- A sender goes on. -/
  | resume (h : Fin k) (outbox : Nat) (now : Moment)
  /-- The call of a sender comes to the node at its address. -/
  | arrive (h : Fin k) (outbox : Nat) (target : Fin k)
  /-- A node pulls the snapshot of another. -/
  | pull (h source : Fin k)
  /-- A visit is promised the next place. -/
  | invite (visit : Nat)
  /-- A visit hands its next request over. -/
  | hand (visit : Nat)
  /-- A sender is told how many requests its visit handed over. -/
  | answer (visit : Nat) (now : Moment)
  /-- The call of a sender fails, is cut off, or is said to have been taken in part. -/
  | fail (h : Fin k) (outbox : Nat) (now : Moment) (result : Except Error Nat)
  /-- A visit ends. -/
  | leave (visit : Nat)
  /-- A node takes no more requests. -/
  | close (h : Fin k)
  /-- A sender is told to stop. -/
  | stop (h : Fin k) (outbox : Nat)

/-- The intake behind a request that a visit hands over, if the request gets in. -/
def Visit.enter? {k : Nat} (v : Visit k) (i : Intake) (r : Request) : Option Intake :=
  if v.invited then some (i.keepPromise r) else (i.submit r).toOption

/-- Whether the end of a call makes a sender lose records. -/
def Outbox.losesBy (o : Outbox) (now : Moment) (result : Except Error Nat) : Bool :=
  o.givesUp result || (o.answered now result).isEndedWith (o.leftBy result)

namespace Mesh

variable {k : Nat}

/-! ## 1. What an act does -/

def setHost (m : Mesh k) (h : Fin k) (x : Host) : Mesh k :=
  { m with hosts := Function.update m.hosts h x }

def setNode (m : Mesh k) (h : Fin k) (n : Node) : Mesh k :=
  m.setHost h { m.hosts h with node := n }

def setIntake (m : Mesh k) (h : Fin k) (i : Intake) : Mesh k :=
  m.setNode h { (m.hosts h).node with intake := i }

def outbox? (m : Mesh k) (h : Fin k) (i : Nat) : Option Outbox := (m.hosts h).node.outboxes[i]?

def setOutbox (m : Mesh k) (h : Fin k) (i : Nat) (o : Outbox) : Mesh k :=
  m.setNode h { (m.hosts h).node with outboxes := (m.hosts h).node.outboxes.set i o }

/-- A sender whose call is in flight, and the batch of the call. -/
def calling? (m : Mesh k) (h : Fin k) (i : Nat) : Option (Outbox × List String) :=
  (m.outbox? h i).bind fun o => o.inFlight?.map fun batch => (o, batch)

/-- A visit, its next request, and those behind it. -/
def handing? (m : Mesh k) (v : Nat) : Option (Visit k × Request × List Request) :=
  m.visits[v]?.bind fun visit => match visit.left with
    | r :: rest => some (visit, r, rest)
    | [] => none

/-- A visit that handed over all, the call it is of, and the sender if it still waits for the
end of such a call. -/
def answering? (m : Mesh k) (v : Nat) : Option (Visit k × Push k × Outbox) :=
  m.visits[v]?.bind fun visit => visit.push.bind fun p =>
    (m.calling? p.source p.outbox).bind fun (o, batch) =>
      if visit.left = [] ∧ batch = p.batch ∧ o.address = (m.hosts visit.target).address then
        some (visit, p, o)
      else none

def step (m : Mesh k) : Act k → Mesh k
  | .ask h millis call => m.setNode h ((m.hosts h).node.ask millis call).2
  | .process h =>
    match (m.hosts h).node.advance? (m.hosts h).disk with
    | some (node, disk) => m.setHost h { m.hosts h with node, disk }
    | none => m
  | .resume h i now =>
    match m.outbox? h i with
    | some o => m.setOutbox h i (o.resume now)
    | none => m
  | .arrive h i target =>
    match m.calling? h i with
    | some (o, batch) =>
      if o.address = (m.hosts target).address then
        { m with visits := m.visits ++
          [{ target, left := Node.pushed batch, push := some ⟨h, i, batch⟩ }] }
      else m
    | none => m
  | .pull h source =>
    match Store.ofSnapshot (m.hosts source).node.store.snapshot with
    | .ok s => { m with visits := m.visits ++ [{ target := h, left := Node.pulled s }] }
    | .error _ => m
  | .invite v =>
    match m.visits[v]? with
    | some visit =>
      let intake := (m.hosts visit.target).node.intake
      if visit.invited || intake.closed || !intake.hasRoom then m
      else { m.setIntake visit.target intake.promise with
        visits := m.visits.set v { visit with invited := true } }
    | none => m
  | .hand v =>
    match m.handing? v with
    | some (visit, r, rest) =>
      match visit.enter? (m.hosts visit.target).node.intake r with
      | some intake => { m.setIntake visit.target intake with
          visits := m.visits.set v
            { visit with left := rest, taken := visit.taken + 1, invited := false } }
      | none => m
    | none => m
  | .answer v now =>
    match m.answering? v with
    | some (visit, p, o) =>
      { m.setOutbox p.source p.outbox (o.answered now (.ok visit.taken)) with
        visits := m.visits.eraseIdx v }
    | none => m
  | .fail h i now result =>
    match m.calling? h i with
    | some (o, batch) =>
      if Outbox.tookAll batch result then m else m.setOutbox h i (o.answered now result)
    | none => m
  | .leave v =>
    match m.visits[v]? with
    | some visit =>
      let intake := (m.hosts visit.target).node.intake
      { m.setIntake visit.target (if visit.invited then intake.breakPromise else intake) with
        visits := m.visits.eraseIdx v }
    | none => m
  | .close h => m.setIntake h (m.hosts h).node.intake.close
  | .stop h i =>
    match m.outbox? h i with
    | some o => m.setOutbox h i o.stop
    | none => m

def run (m : Mesh k) (as : List (Act k)) : Mesh k := as.foldl step m

/-! ## 2. What is accepted and what is lost -/

/-- The request that an act makes a node accept from a client. -/
def acceptedBy? (m : Mesh k) : Act k → Option Request
  | .ask h millis call =>
    match ((m.hosts h).node.ask millis call).1 with
    | .ok v => some (call.request v)
    | .error _ => none
  | _ => none

/-- The requests that nodes accept from clients, in order. -/
def accepted (m : Mesh k) : List (Act k) → List Request
  | [] => []
  | a :: as => (m.acceptedBy? a).toList ++ (m.step a).accepted as

/-- Whether a request is offered to an outbox that refuses it. -/
def isRefused (m : Mesh k) (h : Fin k) : Bool :=
  match (m.hosts h).node.intake.queue with
  | [] => false
  | r :: _ => r.origin = .client &&
      (m.hosts h).node.outboxes.any fun o => (o.offer r.toPeer.record).toOption.isNone

/-- **Whether an act loses a record** that was to be sent: an outbox that is full or stopped
refuses it, its batch is given up, or its sender is ended. -/
def loses (m : Mesh k) : Act k → Bool
  | .process h => m.isRefused h
  | .resume h i now => (m.outbox? h i).any fun o => (o.resume now).isEndedWith o.pending
  | .answer v now => (m.answering? v).any fun (visit, _, o) => o.losesBy now (.ok visit.taken)
  | .fail h i now result =>
    (m.calling? h i).any fun (o, batch) => !Outbox.tookAll batch result && o.losesBy now result
  | _ => false

/-- Whether no act loses a record. -/
def lossless (m : Mesh k) : List (Act k) → Bool
  | [] => true
  | a :: as => !m.loses a && (m.step a).lossless as

/-- Nothing is under way: every queue is empty, and no batch and no visit has still to end. -/
structure Quiescent (m : Mesh k) : Prop where
  intake : ∀ h, (m.hosts h).node.intake.queue = []
  outboxes : ∀ h, ∀ o ∈ (m.hosts h).node.outboxes, o.queue = [] ∧ o.phase.batch = []
  visits : m.visits = []

/-- Nodes that have just been opened and hold nothing, each with all others among its peers. -/
structure Fresh (m : Mesh k) : Prop where
  opened : ∀ h, ∃ s d, Node.openIn s d = (.ok (m.hosts h).node, (m.hosts h).disk)
  store : ∀ h, (m.hosts h).node.store = .empty
  visits : m.visits = []
  address_ne : ∀ g h, g ≠ h → (m.hosts g).address ≠ (m.hosts h).address
  mem_peers : ∀ g h, g ≠ h → (m.hosts h).address ∈ (m.hosts g).node.settings.peers

end Mesh

/-! ## 3. What has changed after an act -/

namespace Host

/-- Whether a host has still to send a record to an address. -/
def Owes (x : Host) (address record : String) : Prop :=
  ∃ o ∈ x.node.outboxes, o.address = address ∧ record ∈ o.pending

/-- Whether a host sends to an address. -/
def Serves (x : Host) (address : String) : Prop := ∃ o ∈ x.node.outboxes, o.address = address

/-- A host in which requests have joined the queue, and nothing else that requests depend on has
changed. -/
structure Joined (x' x : Host) (rs : List Request) : Prop where
  address : x'.address = x.address
  store : x'.node.store = x.node.store
  queue : x'.node.intake.queue = x.node.intake.queue ++ rs
  outboxes : x'.node.outboxes = x.node.outboxes

/-- Nothing that requests depend on has changed. -/
abbrev Alike (x' x : Host) : Prop := Joined x' x []

/-- A host that has processed the first request of its queue.  Unless an outbox refused, it owes
what it did, and what a client asked for it owes to every address it sends to. -/
structure Processed (x' x : Host) (r : Request) (lossy : Bool) : Prop where
  address : x'.address = x.address
  queue : x.node.intake.queue = r :: x'.node.intake.queue
  store : x'.node.store = (x.node.store.apply r).2
  serves : ∀ address, x.Serves address → x'.Serves address
  owes : ∀ address record, x'.Owes address record →
    x.Owes address record ∨ (r.origin = .client ∧ record = r.toPeer.record)
  keeps : lossy = false → ∀ address record, x.Owes address record → x'.Owes address record
  offers : lossy = false → r.origin = .client → ∀ address, x.Serves address →
    x'.Owes address r.toPeer.record

/-- A host of which a sender has gone on: it owes no more than it did. -/
structure Sent (x' x : Host) : Prop where
  address : x'.address = x.address
  queue : x'.node.intake.queue = x.node.intake.queue
  store : x'.node.store = x.node.store
  serves : ∀ address, x.Serves address → x'.Serves address
  owes : ∀ address record, x'.Owes address record → x.Owes address record

theorem Alike.refl (x : Host) : x.Alike x := ⟨rfl, rfl, (List.append_nil _).symm, rfl⟩

/-- One outbox in place of another. -/
def withOutbox (x : Host) (i : Nat) (o : Outbox) : Host :=
  { x with node := { x.node with outboxes := x.node.outboxes.set i o } }

section WithOutbox

variable {x : Host} {i : Nat} {o o' : Outbox} {address record : String}

theorem mem_withOutbox (h : x.node.outboxes[i]? = some o) :
    o' ∈ (x.withOutbox i o').node.outboxes := by
  obtain ⟨hi, -⟩ := List.getElem?_eq_some_iff.1 h
  exact List.mem_set hi o'

/-- An outbox stays unless it is the one that is replaced. -/
theorem eq_or_mem_withOutbox (o' : Outbox) (h : x.node.outboxes[i]? = some o) {p : Outbox}
    (hp : p ∈ x.node.outboxes) : p = o ∨ p ∈ (x.withOutbox i o').node.outboxes := by
  obtain ⟨j, hj⟩ := List.mem_iff_getElem?.1 hp
  by_cases hij : i = j
  · subst hij
    exact Or.inl (Option.some.inj (hj.symm.trans h))
  · refine Or.inr (List.mem_iff_getElem?.2 ⟨j, ?_⟩)
    exact (List.getElem?_set_ne hij).trans hj

theorem serves_withOutbox (h : x.node.outboxes[i]? = some o) (ha : o'.address = o.address)
    (hs : x.Serves address) : (x.withOutbox i o').Serves address := by
  obtain ⟨p, hp, hpa⟩ := hs
  rcases eq_or_mem_withOutbox o' h hp with rfl | hp
  · exact ⟨o', mem_withOutbox h, ha.trans hpa⟩
  · exact ⟨p, hp, hpa⟩

/-- What the new outbox holds besides the old one's records, the host does not owe. -/
theorem owes_of_owes_withOutbox (h : x.node.outboxes[i]? = some o) (ha : o'.address = o.address)
    (hsub : ∀ s ∈ o'.pending, s ∈ o.pending) (hs : (x.withOutbox i o').Owes address record) :
    x.Owes address record := by
  obtain ⟨p, hp, hpa, hpr⟩ := hs
  rcases List.mem_or_eq_of_mem_set hp with hp | rfl
  · exact ⟨p, hp, hpa, hpr⟩
  · exact ⟨o, List.mem_of_getElem? h, ha ▸ hpa, hsub _ hpr⟩

/-- What a host owes, it goes on owing unless the old outbox held it and the new one does not. -/
theorem owes_withOutbox (h : x.node.outboxes[i]? = some o) (ha : o'.address = o.address)
    (hs : x.Owes address record) :
    (x.withOutbox i o').Owes address record ∨
      (o.address = address ∧ record ∈ o.pending ∧ record ∉ o'.pending) := by
  obtain ⟨p, hp, hpa, hpr⟩ := hs
  rcases eq_or_mem_withOutbox o' h hp with rfl | hp
  · by_cases hr : record ∈ o'.pending
    · exact Or.inl ⟨o', mem_withOutbox h, ha.trans hpa, hr⟩
    · exact Or.inr ⟨hpa, hpr, hr⟩
  · exact Or.inl ⟨p, hp, hpa, hpr⟩

end WithOutbox

/-! Outboxes that a request was offered to. -/

section Offered

variable {x x' : Host} {r : Request} {address record : String}

theorem serves_offered (ho : x'.node.outboxes = Node.offered x.node.outboxes r)
    (hs : x.Serves address) : x'.Serves address := by
  obtain ⟨o, hm, ha⟩ := hs
  unfold Node.offered at ho
  cases hr : r.origin with
  | peer =>
    simp only [hr] at ho
    exact ⟨o, ho ▸ hm, ha⟩
  | client =>
    simp only [hr] at ho
    exact ⟨o.offerAny r.toPeer.record, ho ▸ List.mem_map_of_mem hm, by simpa using ha⟩

/-- A host owes no more than it did and what was offered. -/
theorem owes_of_owes_offered (ho : x'.node.outboxes = Node.offered x.node.outboxes r)
    (hs : x'.Owes address record) :
    x.Owes address record ∨ (r.origin = .client ∧ record = r.toPeer.record) := by
  obtain ⟨o, hm, ha, hrec⟩ := hs
  unfold Node.offered at ho
  cases hr : r.origin with
  | peer =>
    simp only [hr] at ho
    exact Or.inl ⟨o, ho ▸ hm, ha, hrec⟩
  | client =>
    simp only [hr] at ho
    rw [ho] at hm
    obtain ⟨p, hp, rfl⟩ := List.mem_map.1 hm
    rw [Outbox.address_offerAny] at ha
    cases hoffer : p.offer r.toPeer.record with
    | error e =>
      rw [Outbox.offerAny_of_refused hoffer] at hrec
      exact Or.inl ⟨p, hp, ha, hrec⟩
    | ok p' =>
      rw [Outbox.pending_offerAny (by simp [hoffer, Except.toOption])] at hrec
      rcases List.mem_append.1 hrec with hrec | hrec
      · exact Or.inl ⟨p, hp, ha, hrec⟩
      · exact Or.inr ⟨rfl, List.mem_singleton.1 hrec⟩

/-- An outbox that did not refuse has the record behind its others. -/
theorem exists_offered {o : Outbox} (ho : x'.node.outboxes = Node.offered x.node.outboxes r)
    (hr : r.origin = .client) (hm : o ∈ x.node.outboxes)
    (hroom : (o.offer r.toPeer.record).toOption.isSome = true) :
    ∃ o' ∈ x'.node.outboxes, o'.address = o.address ∧
      o'.pending = o.pending ++ [r.toPeer.record] := by
  unfold Node.offered at ho
  simp only [hr] at ho
  exact ⟨o.offerAny r.toPeer.record, ho ▸ List.mem_map_of_mem hm, Outbox.address_offerAny ..,
    Outbox.pending_offerAny hroom⟩

/-- **A host goes on owing what it owed**, if no outbox refused. -/
theorem owes_offered (ho : x'.node.outboxes = Node.offered x.node.outboxes r)
    (hroom : r.origin = .client → ∀ o ∈ x.node.outboxes,
      (o.offer r.toPeer.record).toOption.isSome = true) (hs : x.Owes address record) :
    x'.Owes address record := by
  obtain ⟨o, hm, ha, hrec⟩ := hs
  cases hr : r.origin with
  | peer =>
    unfold Node.offered at ho
    simp only [hr] at ho
    exact ⟨o, ho ▸ hm, ha, hrec⟩
  | client =>
    obtain ⟨o', hm', ha', hp⟩ := exists_offered ho hr hm (hroom hr o hm)
    exact ⟨o', hm', ha'.trans ha, hp ▸ List.mem_append_left _ hrec⟩

/-- **A host owes what a client asked for to every address it sends to**, if no outbox refused. -/
theorem owes_record_offered (ho : x'.node.outboxes = Node.offered x.node.outboxes r)
    (hroom : r.origin = .client → ∀ o ∈ x.node.outboxes,
      (o.offer r.toPeer.record).toOption.isSome = true)
    (hr : r.origin = .client) (hs : x.Serves address) : x'.Owes address r.toPeer.record := by
  obtain ⟨o, hm, ha⟩ := hs
  obtain ⟨o', hm', ha', hp⟩ := exists_offered ho hr hm (hroom hr o hm)
  exact ⟨o', hm', ha'.trans ha, hp ▸ List.mem_concat_self⟩

end Offered

end Host

namespace Mesh

variable {k : Nat}

/-- Whether a visit has handed over all of a batch with the record at the address. -/
def Delivered (m : Mesh k) (address record : String) : Prop :=
  ∃ v ∈ m.visits, ∃ p, v.left = [] ∧ v.push = some p ∧ record ∈ p.batch ∧
    (m.hosts v.target).address = address

/-- **What an act may have changed**, with the request that was accepted and whether records were
lost. -/
inductive Effect (m m' : Mesh k) : Option Request → Bool → Prop where
  /-- Nothing that requests depend on. -/
  | aside {lossy : Bool} (hosts : ∀ h, (m'.hosts h).Alike (m.hosts h))
      (visits : ∀ v' ∈ m'.visits, ∃ v ∈ m.visits,
        v'.target = v.target ∧ v'.left = v.left ∧ v'.push = v.push) : Effect m m' none lossy
  /-- A request of a client has joined a queue. -/
  | joins {lossy : Bool} {h : Fin k} {r : Request} {x : Host} (recordable : r.Recordable)
      (origin : r.origin = .client) (hosts : m'.hosts = Function.update m.hosts h x)
      (joined : x.Joined (m.hosts h) [r]) (visits : m'.visits = m.visits) :
      Effect m m' (some r) lossy
  /-- A request that a visit handed over has joined a queue. -/
  | hands {lossy : Bool} {v : Visit k} {r : Request} {rest : List Request} {x : Host}
      (mem : v ∈ m.visits) (left : v.left = r :: rest)
      (hosts : m'.hosts = Function.update m.hosts v.target x)
      (joined : x.Joined (m.hosts v.target) [r])
      (visits : ∀ v' ∈ m'.visits, v' ∈ m.visits ∨
        (v'.target = v.target ∧ v'.left = rest ∧ v'.push = v.push)) : Effect m m' none lossy
  /-- A request was processed. -/
  | processes {lossy : Bool} {h : Fin k} {r : Request} {x : Host}
      (hosts : m'.hosts = Function.update m.hosts h x)
      (processed : x.Processed (m.hosts h) r lossy) (visits : m'.visits = m.visits) :
      Effect m m' none lossy
  /-- A sender has gone on, after a visit that handed over all or otherwise. -/
  | sends {lossy : Bool} {h : Fin k} {x : Host} (hosts : m'.hosts = Function.update m.hosts h x)
      (sent : x.Sent (m.hosts h))
      (keeps : lossy = false → ∀ address record, (m.hosts h).Owes address record →
        x.Owes address record ∨ m.Delivered address record)
      (visits : ∀ v ∈ m'.visits, v ∈ m.visits) : Effect m m' none lossy
  /-- A call has come to the node at its address. -/
  | arrives {lossy : Bool} {h target : Fin k} {p : Push k} (hosts : m'.hosts = m.hosts)
      (owes : ∀ s ∈ p.batch, (m.hosts h).Owes (m.hosts target).address s)
      (visits : m'.visits = m.visits ++
        [{ target, left := Node.pushed p.batch, push := some p }]) : Effect m m' none lossy
  /-- A snapshot has been pulled. -/
  | pulls {lossy : Bool} {h source : Fin k} (hosts : m'.hosts = m.hosts)
      (visits : m'.visits = m.visits ++
        [{ target := h, left := Node.pulled (m.hosts source).node.store }]) :
      Effect m m' none lossy

/-! ## 4. Act by act -/

section Acts

attribute [local simp] step loses

variable {m : Mesh k} {lossy : Bool}

theorem calling?_eq_some {h : Fin k} {i : Nat} {o : Outbox} {batch : List String}
    (hc : m.calling? h i = some (o, batch)) :
    (m.hosts h).node.outboxes[i]? = some o ∧ o.phase = .calling batch := by
  obtain ⟨o', ho, hmap⟩ := Option.bind_eq_some_iff.1 hc
  obtain ⟨batch', hb, heq⟩ := Option.map_eq_some_iff.1 hmap
  cases heq
  refine ⟨ho, ?_⟩
  unfold Outbox.inFlight? at hb
  split at hb
  · next hp => rw [hp, Option.some.inj hb]
  · cases hb

/-- One host may change beside what requests depend on, and so may visits. -/
theorem effect_of_alike {m' : Mesh k} {h : Fin k} {x : Host}
    (hosts : m'.hosts = Function.update m.hosts h x) (hx : x.Alike (m.hosts h))
    (visits : ∀ v' ∈ m'.visits, ∃ v ∈ m.visits,
      v'.target = v.target ∧ v'.left = v.left ∧ v'.push = v.push) : Effect m m' none lossy := by
  refine .aside (fun g => ?_) visits
  rw [hosts]
  by_cases hg : g = h
  · subst hg
    rw [Function.update_self]
    exact hx
  · rw [Function.update_of_ne hg]
    exact Host.Alike.refl _

theorem effect_of_eq {m' : Mesh k} (h : m' = m) : Effect m m' none lossy := by
  subst h
  exact .aside (fun _ => Host.Alike.refl _) fun v hv => ⟨v, hv, rfl, rfl, rfl⟩

/-- An intake that holds the same requests. -/
theorem effect_setIntake {h : Fin k} {i : Intake}
    (hq : i.queue = (m.hosts h).node.intake.queue) {m' : Mesh k}
    (hosts : m'.hosts = (m.setIntake h i).hosts)
    (visits : ∀ v' ∈ m'.visits, ∃ v ∈ m.visits,
      v'.target = v.target ∧ v'.left = v.left ∧ v'.push = v.push) : Effect m m' none lossy :=
  effect_of_alike hosts ⟨rfl, rfl, by rw [List.append_nil]; exact hq, rfl⟩ visits

theorem effect_ask (h : Fin k) (millis : Int64) (call : Call) :
    Effect m (m.step (.ask h millis call)) (m.acceptedBy? (.ask h millis call)) lossy := by
  rcases hask : (m.hosts h).node.ask millis call with ⟨e | v, n⟩
  · obtain ⟨ticker, rfl⟩ := Node.ask_eq_error hask
    have hnone : m.acceptedBy? (.ask h millis call) = none := by simp [acceptedBy?, hask]
    rw [hnone]
    refine effect_of_alike (h := h) (by simp only [step, hask]; rfl) ?_ fun v hv =>
      ⟨v, hv, rfl, rfl, rfl⟩
    exact ⟨rfl, rfl, (List.append_nil _).symm, rfl⟩
  · obtain ⟨hkey, -, hsub⟩ := Node.ask_eq_ok hask
    obtain ⟨-, -, hn⟩ := Node.submit_eq_ok hsub
    have hsome : m.acceptedBy? (.ask h millis call) = some (call.request v) := by
      simp [acceptedBy?, hask]
    rw [hsome]
    refine .joins (h := h) (x := { m.hosts h with node := n }) ⟨by simpa using hkey, ?_⟩ (by simp)
      (by simp only [step, hask]; rfl) ⟨rfl, by rw [hn]; rfl, by rw [hn]; rfl, by rw [hn]; rfl⟩ rfl
    cases call <;> simp [Call.request, Request.set, Request.delete]

theorem effect_process (h : Fin k) :
    Effect m (m.step (.process h)) none (m.loses (.process h)) := by
  cases hadv : (m.hosts h).node.advance? (m.hosts h).disk with
  | none =>
    exact effect_of_eq (by simp [hadv])
  | some x =>
    obtain ⟨n, d⟩ := x
    obtain ⟨r, rest, hq, hq', hs, ho, -⟩ := Node.advance?_eq_some hadv
    have hroom : m.loses (.process h) = false → r.origin = .client →
        ∀ o ∈ (m.hosts h).node.outboxes, (o.offer r.toPeer.record).toOption.isSome = true := by
      intro hkeep hr
      simpa [isRefused, hq, hr, Option.isSome_iff_ne_none] using hkeep
    refine .processes (h := h) (r := r) (x := { m.hosts h with node := n, disk := d })
      (by simp only [step, hadv]; rfl) ?_ (by simp only [step, hadv]; rfl)
    exact {
      address := rfl
      queue := by rw [hq, hq']
      store := hs
      serves := fun _ => Host.serves_offered ho
      owes := fun _ _ => Host.owes_of_owes_offered ho
      keeps := fun hkeep _ _ => Host.owes_offered ho (hroom hkeep)
      offers := fun hkeep hr _ => Host.owes_record_offered ho (hroom hkeep) hr }

/-- One outbox in place of another that adds no record, and of which the records that are gone
were handed over by a visit. -/
theorem effect_setOutbox {m' : Mesh k} {h : Fin k} {i : Nat} {o o' : Outbox}
    (ho : (m.hosts h).node.outboxes[i]? = some o) (ha : o'.address = o.address)
    (hsub : ∀ s ∈ o'.pending, s ∈ o.pending)
    (hkeep : lossy = false → ∀ s ∈ o.pending, s ∈ o'.pending ∨
      ∃ v ∈ m.visits, ∃ p, v.left = [] ∧ v.push = some p ∧ s ∈ p.batch ∧
        (m.hosts v.target).address = o.address)
    (hosts : m'.hosts = (m.setOutbox h i o').hosts) (visits : ∀ v ∈ m'.visits, v ∈ m.visits) :
    Effect m m' none lossy := by
  refine .sends (h := h) (x := (m.hosts h).withOutbox i o') hosts
    ⟨rfl, rfl, rfl, fun _ => Host.serves_withOutbox ho ha,
      fun _ _ => Host.owes_of_owes_withOutbox ho ha hsub⟩
    (fun hl address record hr => ?_) visits
  rcases Host.owes_withOutbox ho ha hr with hr | ⟨haddr, hr, hgone⟩
  · exact Or.inl hr
  · obtain ⟨v, hv, p, hleft, hpush, hbatch, htarget⟩ := (hkeep hl record hr).resolve_left hgone
    exact Or.inr ⟨v, hv, p, hleft, hpush, hbatch, htarget.trans haddr⟩

theorem effect_resume (h : Fin k) (i : Nat) (now : Moment) :
    Effect m (m.step (.resume h i now)) none (m.loses (.resume h i now)) := by
  cases ho : m.outbox? h i with
  | none =>
    exact effect_of_eq (by simp [ho])
  | some o =>
    have hstep : m.step (.resume h i now) = m.setOutbox h i (o.resume now) := by simp [ho]
    rw [hstep]
    refine effect_setOutbox ho (Outbox.address_resume o now)
      (fun s => Outbox.mem_pending_of_mem_resume) (fun hl s hs => Or.inl ?_) rfl fun v hv => hv
    rw [Outbox.pending_resume (by simpa [ho] using hl)]
    exact hs

theorem effect_fail (h : Fin k) (i : Nat) (now : Moment) (result : Except Error Nat) :
    Effect m (m.step (.fail h i now result)) none (m.loses (.fail h i now result)) := by
  cases hc : m.calling? h i with
  | none =>
    exact effect_of_eq (by simp [hc])
  | some x =>
    obtain ⟨o, batch⟩ := x
    obtain ⟨ho, hp⟩ := calling?_eq_some hc
    cases ht : Outbox.tookAll batch result with
    | true =>
      exact effect_of_eq (by simp [hc, ht])
    | false =>
      have hstep : m.step (.fail h i now result) = m.setOutbox h i (o.answered now result) := by
        simp [hc, ht]
      rw [hstep]
      refine effect_setOutbox ho (Outbox.address_answered o now result)
        (fun s => Outbox.mem_pending_of_mem_answered) (fun hl s hs => Or.inl ?_) rfl fun v hv => hv
      obtain ⟨hg, he⟩ : o.givesUp result = false ∧
          (o.answered now result).isEndedWith (o.leftBy result) = false := by
        simpa [hc, ht, Outbox.losesBy] using hl
      rw [Outbox.pending_answered_of_not_tookAll hp ht hg he]
      exact hs

/-- What can be said of a visit that answers. -/
theorem answering?_eq_some {v : Nat} {visit : Visit k} {p : Push k} {o : Outbox}
    (ha : m.answering? v = some (visit, p, o)) :
    visit ∈ m.visits ∧ visit.push = some p ∧ visit.left = [] ∧
      m.outbox? p.source p.outbox = some o ∧ o.phase = .calling p.batch ∧
      o.address = (m.hosts visit.target).address := by
  obtain ⟨visit', hv, hrest⟩ := Option.bind_eq_some_iff.1 ha
  obtain ⟨p', hpush, hrest⟩ := Option.bind_eq_some_iff.1 hrest
  obtain ⟨⟨o', batch⟩, hcall, hrest⟩ := Option.bind_eq_some_iff.1 hrest
  simp only [Option.ite_none_right_eq_some, Option.some.injEq, Prod.mk.injEq] at hrest
  obtain ⟨⟨hleft, rfl, haddr⟩, rfl, rfl, rfl⟩ := hrest
  obtain ⟨ho, hphase⟩ := calling?_eq_some hcall
  exact ⟨List.mem_of_getElem? hv, hpush, hleft, ho, hphase, haddr⟩

theorem effect_answer (v : Nat) (now : Moment) :
    Effect m (m.step (.answer v now)) none (m.loses (.answer v now)) := by
  cases ha : m.answering? v with
  | none =>
    exact effect_of_eq (by simp [ha])
  | some x =>
    obtain ⟨visit, p, o⟩ := x
    obtain ⟨hmem, hpush, hleft, ho, hphase, haddr⟩ := answering?_eq_some ha
    have hstep : m.step (.answer v now) =
        { m.setOutbox p.source p.outbox (o.answered now (.ok visit.taken)) with
          visits := m.visits.eraseIdx v } := by simp [ha]
    rw [hstep]
    refine effect_setOutbox ho (Outbox.address_answered o now _)
      (fun s => Outbox.mem_pending_of_mem_answered) (fun hl s hs => ?_) rfl
      fun v' hv' => List.mem_of_mem_eraseIdx hv'
    obtain ⟨hg, he⟩ : o.givesUp (.ok visit.taken) = false ∧
        (o.answered now (.ok visit.taken)).isEndedWith (o.leftBy (.ok visit.taken)) = false := by
      simpa [ha, Outbox.losesBy] using hl
    cases ht : Outbox.tookAll p.batch (.ok visit.taken) with
    | false =>
      rw [Outbox.pending_answered_of_not_tookAll hphase ht hg he]
      exact Or.inl hs
    | true =>
      rw [Outbox.pending_answered_of_tookAll hphase ht]
      rcases List.mem_append.1 hs with hs | hs
      · rw [hphase] at hs
        exact Or.inr ⟨visit, hmem, p, hleft, hpush, hs, haddr.symm⟩
      · exact Or.inl hs

theorem effect_stop (h : Fin k) (i : Nat) : Effect m (m.step (.stop h i)) none lossy := by
  cases ho : m.outbox? h i with
  | none =>
    exact effect_of_eq (by simp [ho])
  | some o =>
    have hstep : m.step (.stop h i) = m.setOutbox h i o.stop := by simp [ho]
    rw [hstep]
    exact effect_setOutbox ho (Outbox.address_stop o) (fun s hs => hs) (fun _ s hs => Or.inl hs) rfl
      fun v hv => hv

theorem effect_arrive (h : Fin k) (i : Nat) (target : Fin k) :
    Effect m (m.step (.arrive h i target)) none lossy := by
  cases hc : m.calling? h i with
  | none =>
    exact effect_of_eq (by simp [hc])
  | some x =>
    obtain ⟨o, batch⟩ := x
    obtain ⟨ho, hp⟩ := calling?_eq_some hc
    by_cases ha : o.address = (m.hosts target).address
    · have hstep : m.step (.arrive h i target) = { m with visits := m.visits ++
          [{ target, left := Node.pushed batch, push := some ⟨h, i, batch⟩ }] } := by
        simp [hc, ha]
      rw [hstep]
      refine .arrives (h := h) (p := ⟨h, i, batch⟩) rfl (fun s hs => ?_) rfl
      refine ⟨o, List.mem_of_getElem? ho, ha, List.mem_append_left _ ?_⟩
      rw [hp]
      exact hs
    · exact effect_of_eq (by simp [hc, ha])

theorem effect_pull (h source : Fin k) : Effect m (m.step (.pull h source)) none lossy := by
  have hstep : m.step (.pull h source) = { m with visits := m.visits ++
      [{ target := h, left := Node.pulled (m.hosts source).node.store }] } := by
    simp [Store.ofSnapshot_snapshot]
  rw [hstep]
  exact .pulls rfl rfl

theorem effect_invite (v : Nat) : Effect m (m.step (.invite v)) none lossy := by
  cases hv : m.visits[v]? with
  | none =>
    exact effect_of_eq (by simp [hv])
  | some visit =>
    simp only [step, hv]
    split
    · exact effect_of_eq rfl
    · refine effect_setIntake (h := visit.target) (i := (m.hosts visit.target).node.intake.promise)
        rfl rfl fun v' hv' => ?_
      rcases List.mem_or_eq_of_mem_set hv' with hv' | rfl
      · exact ⟨v', hv', rfl, rfl, rfl⟩
      · exact ⟨visit, List.mem_of_getElem? hv, rfl, rfl, rfl⟩

theorem effect_leave (v : Nat) : Effect m (m.step (.leave v)) none lossy := by
  cases hv : m.visits[v]? with
  | none =>
    exact effect_of_eq (by simp [hv])
  | some visit =>
    simp only [step, hv]
    refine effect_setIntake (h := visit.target) (i := if visit.invited then
      (m.hosts visit.target).node.intake.breakPromise else (m.hosts visit.target).node.intake)
      ?_ rfl fun v' hv' => ⟨v', List.mem_of_mem_eraseIdx hv', rfl, rfl, rfl⟩
    split <;> rfl

theorem effect_close (h : Fin k) : Effect m (m.step (.close h)) none lossy :=
  effect_setIntake (h := h) (i := (m.hosts h).node.intake.close) rfl rfl fun v hv =>
    ⟨v, hv, rfl, rfl, rfl⟩

theorem queue_of_enter? {v : Visit k} {i i' : Intake} {r : Request} (h : v.enter? i r = some i') :
    i'.queue = i.queue ++ [r] := by
  unfold Visit.enter? at h
  split at h
  · rw [← Option.some.inj h]
    rfl
  · unfold Intake.submit at h
    split at h
    · cases h
    · split at h
      · rw [← Option.some.inj h]
        rfl
      · cases h

theorem effect_hand (v : Nat) : Effect m (m.step (.hand v)) none lossy := by
  cases hh : m.handing? v with
  | none =>
    exact effect_of_eq (by simp [hh])
  | some x =>
    obtain ⟨visit, r, rest⟩ := x
    obtain ⟨visit', hv, hnext⟩ := Option.bind_eq_some_iff.1 hh
    have hvisit : visit' = visit ∧ visit'.left = r :: rest := by
      split at hnext
      · next heq =>
        cases hnext
        exact ⟨rfl, heq⟩
      · cases hnext
    clear hnext
    obtain ⟨rfl, hleft⟩ := hvisit
    have hmem : visit' ∈ m.visits := List.mem_of_getElem? hv
    cases he : visit'.enter? (m.hosts visit'.target).node.intake r with
    | none =>
      exact effect_of_eq (by simp [hh, he])
    | some intake =>
      have hstep : m.step (.hand v) = { m.setIntake visit'.target intake with
          visits := m.visits.set v
            { visit' with left := rest, taken := visit'.taken + 1, invited := false } } := by
        simp [hh, he]
      rw [hstep]
      refine .hands hmem hleft (x := { m.hosts visit'.target with
          node := { (m.hosts visit'.target).node with intake } }) rfl
        ⟨rfl, rfl, queue_of_enter? he, rfl⟩ fun v' hv' => ?_
      rcases List.mem_or_eq_of_mem_set hv' with hv' | rfl
      · exact Or.inl hv'
      · exact Or.inr ⟨rfl, rfl, rfl⟩

/-- **What an act has changed is one of these effects.** -/
theorem effect_step (m : Mesh k) (a : Act k) :
    Effect m (m.step a) (m.acceptedBy? a) (m.loses a) := by
  cases a with
  | ask h millis call => exact effect_ask h millis call
  | process h => exact effect_process h
  | resume h i now => exact effect_resume h i now
  | arrive h i target => exact effect_arrive h i target
  | pull h source => exact effect_pull h source
  | invite v => exact effect_invite v
  | hand v => exact effect_hand v
  | answer v now => exact effect_answer v now
  | fail h i now result => exact effect_fail h i now result
  | leave v => exact effect_leave v
  | close h => exact effect_close h
  | stop h i => exact effect_stop h i

end Acts

end Mesh

end Replica
