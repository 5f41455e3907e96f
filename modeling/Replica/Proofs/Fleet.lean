/-
# Nodes at work among each other

Any number of nodes at work, each with a disk of its own, and what is under way between them.
One thing happens at a time, in any order.  Nothing is assumed about who is whose peer, or about
the way in between: **a batch that a sender once called with may come to any node, at any time,
again and again or never, and so may a snapshot that a node once gave**; a sender may be told
anything of its call.  So whatever the peers are named, and whichever calls fail, are cut off,
come late or come twice, what happens is a run of a fleet.

Strangers may push records, whatever they are.  A node may be gone at any moment and be opened
again on what it left on its disk.

What happens at one node of a fleet is a run of that node (`Fleet.hosts_run`), and if all that
clients and strangers bring is of a kind, so is all that any node keeps (`Fleet.Stocked.run`).
-/

import Mathlib.Logic.Function.Basic
import Replica.Proofs.Stock

namespace Replica

/-- So many nodes at work, and what is under way between them. -/
structure Fleet (k : Nat) where
  hosts : Fin k → Service
  /-- The batches of all calls that were ever made. -/
  calls : List (List String) := []
  /-- All snapshots that were ever given. -/
  replies : List Bytes := []

namespace Fleet

/-- What may happen at a node. -/
inductive Event where
  /-- Something in which no other node has a part. -/
  | inside (a : Service.Act)
  /-- Somebody pushes records. -/
  | push (records : List String)
  /-- A call comes, by its place among all. -/
  | deliver (call : Nat)
  /-- A snapshot that was asked for comes, by its place among all. -/
  | catchUp (reply : Nat)

/-- What may happen next. -/
inductive Act (k : Nat) where
  | occur (h : Fin k) (e : Event)
  /-- A sender calls its peer with the batch that it has in flight. -/
  | call (h : Fin k) (outbox : Nat)
  /-- A node gives its snapshot. -/
  | serve (h : Fin k)
  /-- A node is gone and is opened again. -/
  | reopen (h : Fin k) (s : Settings)

def Act.isReopen {k : Nat} : Act k → Bool
  | .reopen _ _ => true
  | _ => false

/-- Whether records come from a stranger. -/
def Act.isForeign {k : Nat} : Act k → Bool
  | .occur _ (.push _) => true
  | _ => false

variable {k : Nat}

/-! ## 1. What happens -/

/-- What an event is to the node that it happens at.  Requests come in by calls, pushes and
snapshots only. -/
def act? (m : Fleet k) : Event → Option Service.Act
  | .inside (.submit _) => none
  | .inside (.come _) => none
  | .inside a => some a
  | .push records => some (.come (.push records))
  | .deliver call => m.calls[call]?.map fun batch => .come (.push batch)
  | .catchUp reply => m.replies[reply]?.map fun snapshot => .come (.pull snapshot)

/-- The batch that a sender has in flight. -/
def inFlight? (m : Fleet k) (h : Fin k) (i : Nat) : Option (List String) :=
  ((m.hosts h).node.outboxes[i]?).bind Outbox.inFlight?

def setHost (m : Fleet k) (h : Fin k) (x : Service) : Fleet k :=
  { m with hosts := Function.update m.hosts h x }

def step (m : Fleet k) : Act k → Fleet k
  | .occur h e =>
    match m.act? e with
    | some a => m.setHost h ((m.hosts h).step a)
    | none => m
  | .call h i => { m with calls := m.calls ++ (m.inFlight? h i).toList }
  | .serve h => { m with replies := m.replies ++ [(m.hosts h).node.store.snapshot] }
  | .reopen h s => m.setHost h ((m.hosts h).reopened s)

def run (m : Fleet k) (as : List (Act k)) : Fleet k := as.foldl step m

/-- The request of a call of a client that is accepted. -/
def asked (m : Fleet k) : Act k → List Request
  | .occur h e =>
    match m.act? e with
    | some a => (m.hosts h).asked a
    | none => []
  | _ => []

/-- The requests of all calls of clients that any node accepts, in order. -/
def askedIn (m : Fleet k) : List (Act k) → List Request
  | [] => []
  | a :: as => m.asked a ++ (m.step a).askedIn as

/-- What happens to one node. -/
def actAt? (m : Fleet k) (h : Fin k) : Act k → Option Service.Act
  | .occur g e => if g = h then m.act? e else none
  | _ => none

def actsAt (m : Fleet k) (h : Fin k) : List (Act k) → List Service.Act
  | [] => []
  | a :: as => (m.actAt? h a).toList ++ (m.step a).actsAt h as

/-- A fleet of nodes that have just been opened on disks where they found nothing. -/
structure Fresh (m : Fleet k) : Prop where
  opened : ∀ h, ∃ s d n d', d.Bare s ∧ Node.openIn s d = (.ok n, d') ∧
    m.hosts h = { node := n, disk := d' }
  calls : m.calls = []
  replies : m.replies = []

/-- Nodes opened on empty disks. -/
def opening (settings : Fin k → Settings) : Fleet k where
  hosts h := .openedOn (settings h) .empty

theorem fresh_opening {settings : Fin k → Settings}
    (hopen : ∀ h, (Node.openIn (settings h) .empty).1.toOption.isSome = true) :
    (opening settings).Fresh where
  opened h := ⟨settings h, .empty, _, _, Disk.bare_empty _, Service.openIn_openedOn (hopen h), rfl⟩
  calls := rfl
  replies := rfl

variable {m : Fleet k} {a : Act k} {as : List (Act k)} {h : Fin k} {P : Request → Prop}

@[simp] theorem hosts_setHost_self (m : Fleet k) (h : Fin k) (x : Service) :
    (m.setHost h x).hosts h = x := Function.update_self ..

theorem hosts_setHost_of_ne (m : Fleet k) {g h : Fin k} (x : Service) (hne : g ≠ h) :
    (m.setHost h x).hosts g = m.hosts g := Function.update_of_ne hne ..

/-! ## 2. One node of a fleet -/

theorem act?_isDirect {e : Event} {b : Service.Act} (h : m.act? e = some b) :
    b.isDirect = false := by
  cases e with
  | inside a =>
    cases a with
    | submit r => cases h
    | come errand => cases h
    | _ =>
      obtain rfl := Option.some.inj h
      rfl
  | push records =>
    obtain rfl := Option.some.inj h
    rfl
  | deliver call =>
    obtain ⟨batch, -, rfl⟩ := Option.map_eq_some_iff.1 h
    rfl
  | catchUp reply =>
    obtain ⟨snapshot, -, rfl⟩ := Option.map_eq_some_iff.1 h
    rfl

/-- **While a node is not opened again, what becomes of it is what happens to it.** -/
theorem hosts_step (h : Fin k) (hstay : a.isReopen = false) :
    (m.step a).hosts h = (m.hosts h).run (m.actAt? h a).toList := by
  cases a with
  | occur g e =>
    simp only [step, actAt?]
    by_cases hg : g = h
    · subst hg
      rw [if_pos rfl]
      cases m.act? e with
      | none => rfl
      | some b => exact m.hosts_setHost_self g _
    · rw [if_neg hg]
      cases m.act? e with
      | none => rfl
      | some b => exact m.hosts_setHost_of_ne _ (Ne.symm hg)
  | call g i => rfl
  | serve g => rfl
  | reopen g s => cases hstay

theorem hosts_run (m : Fleet k) (h : Fin k) (hstay : ∀ a ∈ as, a.isReopen = false) :
    (m.run as).hosts h = (m.hosts h).run (m.actsAt h as) := by
  induction as generalizing m with
  | nil => rfl
  | cons a as ih =>
    refine (ih (m.step a) fun b hb => hstay b (List.mem_cons_of_mem a hb)).trans ?_
    rw [hosts_step h (hstay a List.mem_cons_self)]
    exact (Service.run_append ..).symm

/-- What a node of a fleet accepts, it accepts from its own client, a push or a pull. -/
theorem isDirect_of_mem_actsAt {b : Service.Act} (hb : b ∈ m.actsAt h as) :
    b.isDirect = false := by
  induction as generalizing m with
  | nil => cases hb
  | cons a as ih =>
    rcases List.mem_append.1 hb with hb | hb
    · have hact : m.actAt? h a = some b := Option.mem_toList.1 hb
      cases a with
      | occur g e =>
        simp only [actAt?] at hact
        split at hact
        · exact act?_isDirect hact
        · cases hact
      | _ => cases hact
    · exact ih hb

/-! ## 3. All that a fleet keeps -/

/-- **All that the nodes of a fleet keep, and all that is under way between them, is of a kind.** -/
structure Stocked (P : Request → Prop) (m : Fleet k) : Prop where
  hosts : ∀ h, ∃ s, (m.hosts h).Stocked P s
  calls : ∀ batch ∈ m.calls, ∀ record ∈ batch, ∃ r, P r ∧ r.toPeer.record = record
  replies : ∀ b ∈ m.replies, ∃ st : Store, b = st.snapshot ∧ ∀ r ∈ Node.pulled st, P r

/-- Whether strangers push requests of a kind only. -/
def Act.Brings (P : Request → Prop) : Act k → Prop
  | .occur _ (.push records) => ∀ r ∈ Node.pushed records, P r
  | _ => True

theorem Fresh.stocked (hm : m.Fresh) : m.Stocked P where
  hosts h := by
    obtain ⟨s, d, n, d', hbare, hopen, hhost⟩ := hm.opened h
    rw [hhost]
    exact ⟨s, Service.stocked_of_bare hopen hbare⟩
  calls := by
    rw [hm.calls]
    exact nofun
  replies := by
    rw [hm.replies]
    exact nofun

/-- What comes out of a batch of lines of the kind is of the kind. -/
theorem forall_pushed {batch : List String} (hkind : Request.Kind P)
    (hbatch : ∀ record ∈ batch, ∃ r, P r ∧ r.toPeer.record = record) :
    ∀ r ∈ Node.pushed batch, P r := by
  intro q hq
  obtain ⟨record, hrecord, p, hread, rfl⟩ := Node.mem_pushed_iff.1 hq
  obtain ⟨r, hr, rfl⟩ := hbatch record hrecord
  rw [Request.ofRecord_record (hkind.recordable r hr).toPeer] at hread
  obtain rfl := Except.ok.inj hread
  exact hkind.toPeer _ (hkind.toPeer r hr)

/-- **Whatever happens at a node brings requests of the kind.** -/
theorem Stocked.brings (hm : m.Stocked P) (hkind : Request.Kind P) {e : Event} {b : Service.Act}
    (he : (Act.occur h e).Brings P) (hact : m.act? e = some b) : b.Brings P := by
  cases e with
  | inside a =>
    cases a with
    | submit r => cases hact
    | come errand => cases hact
    | _ =>
      obtain rfl := Option.some.inj hact
      trivial
  | push records =>
    obtain rfl := Option.some.inj hact
    exact he
  | deliver call =>
    obtain ⟨batch, hbatch, rfl⟩ := Option.map_eq_some_iff.1 hact
    exact forall_pushed hkind (hm.calls batch (List.mem_of_getElem? hbatch))
  | catchUp reply =>
    obtain ⟨b, hb, rfl⟩ := Option.map_eq_some_iff.1 hact
    obtain ⟨st, rfl, hst⟩ := hm.replies b (List.mem_of_getElem? hb)
    intro r hr
    rw [Errand.requests_pull_snapshot] at hr
    exact hst r hr

/-- One node is replaced by another with all of the kind. -/
theorem Stocked.setHost (hm : m.Stocked P) {x : Service} (hx : ∃ s, x.Stocked P s) :
    (m.setHost h x).Stocked P where
  hosts g := by
    by_cases hg : g = h
    · subst hg
      rwa [hosts_setHost_self]
    · rw [hosts_setHost_of_ne m x hg]
      exact hm.hosts g
  calls := hm.calls
  replies := hm.replies

/-- **Nothing of another kind comes in**, if clients and strangers bring none. -/
theorem Stocked.step (hm : m.Stocked P) (hkind : Request.Kind P)
    (hasked : ∀ r ∈ m.asked a, P r) (ha : a.Brings P) : (m.step a).Stocked P := by
  cases a with
  | occur h e =>
    simp only [Fleet.step]
    cases hact : m.act? e with
    | none => exact hm
    | some b =>
      simp only [asked, hact] at hasked
      obtain ⟨s, hs⟩ := hm.hosts h
      exact hm.setHost ⟨s, hs.step hkind hasked (hm.brings hkind ha hact)⟩
  | call h i =>
    refine ⟨hm.hosts, fun batch hbatch => ?_, hm.replies⟩
    rcases List.mem_append.1 hbatch with hold | hnew
    · exact hm.calls batch hold
    · obtain ⟨o, ho, hflight⟩ := Option.bind_eq_some_iff.1 (Option.mem_toList.1 hnew)
      obtain ⟨s, hs⟩ := hm.hosts h
      have hpending := hs.pending o (List.mem_of_getElem? ho)
      unfold Outbox.inFlight? at hflight
      split at hflight
      · next hp =>
        obtain rfl := Option.some.inj hflight
        intro record hrecord
        refine hpending record (List.mem_append_left _ ?_)
        rw [hp]
        exact hrecord
      · cases hflight
  | serve h =>
    refine ⟨hm.hosts, hm.calls, fun b hb => ?_⟩
    rcases List.mem_append.1 hb with hold | hnew
    · exact hm.replies b hold
    · obtain ⟨s, hs⟩ := hm.hosts h
      exact ⟨_, List.mem_singleton.1 hnew, hs.carries.held⟩
  | reopen h s =>
    obtain ⟨s', hs'⟩ := hm.hosts h
    exact hm.setHost (hs'.reopened s)

theorem Stocked.run (hm : m.Stocked P) (hkind : Request.Kind P)
    (hasked : ∀ r ∈ m.askedIn as, P r) (has : ∀ a ∈ as, a.Brings P) :
    (m.run as).Stocked P := by
  induction as generalizing m with
  | nil => exact hm
  | cons a as ih =>
    have hstep := hm.step hkind (fun r hr => hasked r (List.mem_append_left _ hr))
      (has a List.mem_cons_self)
    exact ih hstep (fun r hr => hasked r (List.mem_append_right _ hr))
      fun b hb => has b (List.mem_cons_of_mem a hb)

/-- What happens to one node brings it requests of the kind. -/
theorem Stocked.brings_of_mem_actsAt (hm : m.Stocked P) (hkind : Request.Kind P)
    (hasked : ∀ r ∈ m.askedIn as, P r) (has : ∀ a ∈ as, a.Brings P) {b : Service.Act}
    (hb : b ∈ m.actsAt h as) : b.Brings P := by
  induction as generalizing m with
  | nil => cases hb
  | cons a as ih =>
    have ha := has a List.mem_cons_self
    rcases List.mem_append.1 hb with hb | hb
    · have hact : m.actAt? h a = some b := Option.mem_toList.1 hb
      cases a with
      | occur g e =>
        simp only [actAt?] at hact
        split at hact
        · exact hm.brings hkind ha hact
        · cases hact
      | _ => cases hact
    · have hstep := hm.step hkind (fun r hr => hasked r (List.mem_append_left _ hr)) ha
      exact ih hstep (fun r hr => hasked r (List.mem_append_right _ hr))
        (fun c hc => has c (List.mem_cons_of_mem a hc)) hb

end Fleet

end Replica
