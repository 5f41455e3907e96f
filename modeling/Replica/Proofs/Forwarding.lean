/-
# Nothing is handed on twice

A node offers a record to its peers behind each request of a client, one to each entry of its
list of peers, and nothing behind any other request (`FanOut`).  What comes from elsewhere is
never a client's: a pushed record is taken for a peer's whatever its second field says, and so is
an item of a snapshot.  So in a fleet, however its nodes are named as each other's peers, **a write
is offered by the node whose client asked for it and by no other**, and the log of a node names as
a client's only what its own client asked for (`fan_out_exact`).
-/

import Mathlib.Algebra.Ring.Nat
import Replica.Proofs.Fleet

namespace Replica

/-- The requests of clients among some. -/
def ofClients (rs : List Request) : List Request := rs.filter (·.origin = .client)

theorem filterMap_forPeers? (rs : List Request) :
    rs.filterMap Request.forPeers? = (ofClients rs).map fun r => r.toPeer.record := by
  induction rs with
  | nil => rfl
  | cons r rs ih =>
    unfold ofClients at ih ⊢
    cases hr : r.origin <;> simp [Request.forPeers?, hr, ih]

theorem Request.kind_recordable : Request.Kind Request.Recordable where
  recordable _ h := h
  toPeer _ h := h.toPeer

namespace Service

variable {s : Settings} {d d' : Disk} {n : Node} {as : List Act}

/-- The outboxes of a node at work: each has had its turns since the opening. -/
theorem outboxes_of_openIn (hopen : Node.openIn s d = (.ok n, d')) (as : List Act) (i : Nat) :
    let start : Service := { node := n, disk := d' }
    (start.run as).node.outboxes[i]? = (s.peers[i]?).map fun address =>
      (Outbox.new address s.sender).after (start.turnsIn i as) := by
  intro start
  obtain ⟨-, -, houtboxes⟩ := Node.openIn_eq_ok hopen
  rw [outboxes_run, show start.node.outboxes = _ from houtboxes, List.getElem?_map,
    Option.map_map]
  rfl

/-- **What is offered to a peer** is a line for each request of a client that is processed. -/
theorem offers_tally (x : Service) (i : Nat) (as : List Act) :
    (x.turnsIn i as).filterMap Outbox.Turn.offered? =
      (ofClients (x.tally as).processed).map fun r => r.toPeer.record := by
  unfold tally
  rw [offers_turnsIn, Tally.processed_enterAll, List.nil_append, filterMap_forPeers?]

/-- **The requests of clients are what was asked for**, in order, some of them still waiting. -/
theorem ofClients_tally (hopen : Node.openIn s d = (.ok n, d'))
    (hdirect : ∀ a ∈ as, a.isDirect = false) :
    let start : Service := { node := n, disk := d' }
    ofClients (start.tally as).processed ++ ofClients (start.run as).node.intake.queue =
      start.askedIn as := by
  intro start
  have hall : (start.tally as).accepted =
      (start.tally as).processed ++ (start.run as).node.intake.queue :=
    ((sound_openIn hopen).run as).accepted_eq
  have hasked : ofClients (start.tally as).accepted = start.askedIn as := by
    unfold tally ofClients
    rw [Tally.accepted_enterAll, List.nil_append]
    exact filter_accepted_sights nofun hdirect
  rw [hall] at hasked
  unfold ofClients at hasked ⊢
  rwa [List.filter_append] at hasked

/-- **Opened on nothing, a node has in its log what it processed**, if all that comes in has
lines. -/
theorem read_log_of_bare (hopen : Node.openIn s d = (.ok n, d')) (hbare : d.Bare s)
    (hbrings : ∀ a ∈ as, a.Brings Request.Recordable) :
    let start : Service := { node := n, disk := d' }
    Log.read (start.run as).disk (Path.ofText s.logPath) = .ok (start.tally as).processed := by
  intro start
  have hstart : Carries Request.Recordable start := (stocked_of_bare hopen hbare).carries
  obtain ⟨-, haccepted⟩ := hstart.run Request.kind_recordable.toPeer
    (fun _ => recordable_of_mem_askedIn) hbrings
  rw [Log.read_of_holds (holds_written_of_bare hopen hbare as)]
  refine Log.requests_written fun r hr => haccepted r ?_
  exact mem_accepted_tally.1 (processed_subset_accepted hopen as hr)

end Service

namespace Fleet

variable {k : Nat} {m : Fleet k} {as : List (Act k)} {r : Request}

theorem recordable_of_mem_askedIn (h : r ∈ m.askedIn as) : r.Recordable := by
  induction as generalizing m with
  | nil => cases h
  | cons a as ih =>
    rcases List.mem_append.1 h with h | h
    · unfold asked at h
      split at h
      · split at h
        · exact Service.recordable_of_mem_asked h
        · cases h
      · cases h
    · exact ih h

/-- Whatever strangers push has lines. -/
theorem Act.brings_recordable (a : Act k) : a.Brings Request.Recordable := by
  cases a with
  | occur h e =>
    cases e with
    | push records => exact fun r => Node.recordable_of_mem_pushed
    | _ => trivial
  | _ => trivial

/-- Whatever happens to one node brings it requests that have lines. -/
theorem Fresh.brings_recordable (hm : m.Fresh) {h : Fin k} {b : Service.Act}
    (hb : b ∈ m.actsAt h as) : b.Brings Request.Recordable :=
  hm.stocked.brings_of_mem_actsAt Request.kind_recordable (fun _ => recordable_of_mem_askedIn)
    (fun a _ => a.brings_recordable) hb

end Fleet

/-- **Each write of a client is offered once to each peer, and by its own node alone.**  For any
node, opened anywhere, whatever it accepts: each of its outboxes, one for each entry of its list of
peers, is offered the line of each request of a client that is processed, as a peer hands it on,
in the order of processing, and nothing else.  In any fleet of nodes that were started where they
found nothing, and while none is started again, these requests are, in order, what the node's own
client asked for, some of which still waits, and as the requests of clients its log names just
these. -/
theorem fan_out_exact :
    (∀ {s : Settings} {d d' : Disk} {n : Node}, Node.openIn s d = (.ok n, d') →
      ∀ as : List Service.Act,
        let start : Service := { node := n, disk := d' }
        (∀ i, (start.run as).node.outboxes[i]? = (s.peers[i]?).map fun address =>
          (Outbox.new address s.sender).after (start.turnsIn i as)) ∧
        ∀ i, (start.turnsIn i as).filterMap Outbox.Turn.offered? =
          (ofClients (start.tally as).processed).map fun r => r.toPeer.record) ∧
    ∀ {k : Nat} (m : Fleet k), m.Fresh → ∀ as : List (Fleet.Act k),
      (∀ a ∈ as, a.isReopen = false) → ∀ h,
        let start := m.hosts h
        let acts := m.actsAt h as
        let x := (m.run as).hosts h
        let s := start.node.settings
        let processed := (start.tally acts).processed
        x = start.run acts ∧
        ofClients processed ++ ofClients x.node.intake.queue = start.askedIn acts ∧
        (∀ i, x.node.outboxes[i]? = (s.peers[i]?).map fun address =>
          (Outbox.new address s.sender).after (start.turnsIn i acts)) ∧
        (∀ i, (start.turnsIn i acts).filterMap Outbox.Turn.offered? =
          (ofClients processed).map fun r => r.toPeer.record) ∧
        Log.read x.disk (Path.ofText s.logPath) = .ok processed := by
  constructor
  · intro s d d' n hopen as start
    exact ⟨Service.outboxes_of_openIn hopen as, fun i => start.offers_tally i as⟩
  · intro k m hm as hstay h start acts x s processed
    have hx : x = start.run acts := m.hosts_run h hstay
    have hdirect : ∀ b ∈ acts, b.isDirect = false := fun b => Fleet.isDirect_of_mem_actsAt
    have hbrings : ∀ b ∈ acts, b.Brings Request.Recordable := fun b => hm.brings_recordable
    obtain ⟨s', d, n, d', hbare, hopen, hhost⟩ := hm.opened h
    obtain rfl : s = s' := (congrArg (·.node.settings) hhost).trans (Node.openIn_eq_ok hopen).1
    refine ⟨hx, ?_, fun i => ?_, fun i => start.offers_tally i acts, ?_⟩
    · have hclients := Service.ofClients_tally hopen hdirect
      rw [← hhost] at hclients
      rw [hx]
      exact hclients
    · have houtboxes := Service.outboxes_of_openIn hopen acts i
      rw [← hhost] at houtboxes
      rw [hx]
      exact houtboxes
    · have hread := Service.read_log_of_bare hopen hbare hbrings
      rw [← hhost] at hread
      rw [hx]
      exact hread

namespace Fleet

/-- The nodes of a fleet of two are named `0` and `1`. -/
instance neZero_two : NeZero 2 := ⟨by decide⟩

/-- A node that names itself and, twice, another, which names it in turn. -/
def circleSettings : Fin 2 → Settings
  | 0 => { node := 0, directory := "a", peers := ["b", "a", "b"] }
  | 1 => { node := 1, directory := "b", peers := ["a"] }

def circle : Fleet 2 := .opening circleSettings

/-- A write goes round: one of the calls with it comes to the other node twice, the other to the
node itself.  Then the node pulls, and a stranger pushes what says that it is of a client. -/
def circleActs : List (Act 2) :=
  [.occur 0 (.inside (.ask 1700000000000 (.set "k" [1]))), .occur 0 (.inside .process),
    .occur 0 (.inside (.move 0 (.begin 0))), .occur 0 (.inside (.move 0 .take)),
    .occur 0 (.inside (.move 0 (.cut 0))), .call 0 0,
    .occur 0 (.inside (.move 1 (.begin 0))), .occur 0 (.inside (.move 1 .take)),
    .occur 0 (.inside (.move 1 (.cut 0))), .call 0 1,
    .occur 1 (.deliver 0), .occur 1 (.inside (.hand 0)), .occur 1 (.inside .process),
    .occur 1 (.deliver 0), .occur 1 (.inside (.hand 1)), .occur 1 (.inside .process),
    .occur 0 (.deliver 1), .occur 0 (.inside (.hand 0)), .occur 0 (.inside .process),
    .serve 1, .occur 0 (.catchUp 0), .occur 0 (.inside (.hand 1)), .occur 0 (.inside .process),
    .occur 1 (.push ["5 req set j AQ=="]), .occur 1 (.inside (.hand 2)),
    .occur 1 (.inside .process)]

theorem fresh_circle : circle.Fresh := fresh_opening (by decide +kernel)

end Fleet

/-- What two requests are to the third outbox of a node, and a write that goes round: each of three
outboxes is offered its line, and the log of neither node names another request of a client. -/
theorem fan_out_exact_circle :
    let lone := Service.openedOn (Fleet.circleSettings 0) .empty
    let acts : List Service.Act :=
      [.submit (.delete 3 .client "k"), .process, .submit (.delete 4 .peer "k"), .process]
    let turns (h : Fin 2) (i : Nat) :=
      (Fleet.circle.hosts h).turnsIn i (Fleet.circle.actsAt h Fleet.circleActs)
    (lone.turnsIn 2 acts).filterMap Outbox.Turn.offered? = ["3 sync del k"] ∧
      Fleet.circle.Fresh ∧ (∀ a ∈ Fleet.circleActs, a.isReopen = false) ∧
      (∀ i, (turns 0 i).filterMap Outbox.Turn.offered? = ["1700000000000000001 sync set k AQ=="]) ∧
      (∀ i, (turns 1 i).filterMap Outbox.Turn.offered? = []) ∧
      Log.read ((Fleet.circle.run Fleet.circleActs).hosts 0).disk ["a", "tx.dat"] =
        .ok [.set 1700000000000000001 .client "k" [1], .set 1700000000000000001 .peer "k" [1],
          .set 1700000000000000001 .peer "k" [1]] ∧
      Log.read ((Fleet.circle.run Fleet.circleActs).hosts 1).disk ["b", "tx.dat"] =
        .ok [.set 1700000000000000001 .peer "k" [1], .set 1700000000000000001 .peer "k" [1],
          .set 5 .peer "j" [1]] := by
  intro lone acts turns
  have hopen : Node.openIn (Fleet.circleSettings 0) .empty = (.ok lone.node, lone.disk) :=
    Service.openIn_openedOn (by decide +kernel)
  have hstay : ∀ a ∈ Fleet.circleActs, a.isReopen = false := by decide +kernel
  obtain ⟨hnode, hfleet⟩ := fan_out_exact
  obtain ⟨-, hlone⟩ := hnode hopen acts
  obtain ⟨-, -, -, hoffers, hread⟩ := hfleet _ Fleet.fresh_circle _ hstay 0
  obtain ⟨-, -, -, hoffers', hread'⟩ := hfleet _ Fleet.fresh_circle _ hstay 1
  have hprocessed : ((Fleet.circle.hosts 0).tally
      (Fleet.circle.actsAt 0 Fleet.circleActs)).processed =
        [.set 1700000000000000001 .client "k" [1], .set 1700000000000000001 .peer "k" [1],
          .set 1700000000000000001 .peer "k" [1]] := by
    decide +kernel
  have hprocessed' : ((Fleet.circle.hosts 1).tally
      (Fleet.circle.actsAt 1 Fleet.circleActs)).processed =
        [.set 1700000000000000001 .peer "k" [1], .set 1700000000000000001 .peer "k" [1],
          .set 5 .peer "j" [1]] := by
    decide +kernel
  rw [hprocessed] at hoffers hread
  rw [hprocessed'] at hoffers' hread'
  have hline : Request.record (.set 1700000000000000001 .peer "k" [1]) =
      "1700000000000000001 sync set k AQ==" := by
    decide +kernel
  refine ⟨(hlone 2).trans (by decide +kernel), Fleet.fresh_circle, hstay,
    fun i => (hoffers i).trans ?_, fun i => hoffers' i, ?_, ?_⟩
  · exact congrArg (fun line => [line]) hline
  · exact hread
  · exact hread'

end Replica
