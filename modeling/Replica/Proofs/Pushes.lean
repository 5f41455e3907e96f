/-
# What a push brings

A node takes the requests that the pushed records carry and passes over the rest; its answer is
their number.  Its peer, in turn, takes anything less than the number of its records for a failure
of the whole batch.  **The two agree, whatever the keys and values are**: each record that a node
offers to its peers carries a request again, the one that it was made for (`pushed_forPeers`).

`push_counts_requests` says so of handing over in portions, whoever hands over and whatever goes on
between two portions, of the pushes of a caller and of those in flight: of a batch that was made
from accepted requests nothing is passed over, so a sender that is answered in time never finds a
part of it missing.

Nothing is claimed of records that come from elsewhere but that those which carry no request are
not counted, and nothing of a peer that tells another count than its own (`Reception.accepts`).
-/

import Replica.Proofs.FanOut
import Replica.Proofs.Quiet

namespace Replica

/-! ## 1. Records -/

/-- The requests that records carry, as the records have them. -/
def Request.ofRecords (records : List String) : List Request :=
  records.filterMap fun record => (ofRecord record).toOption

theorem Node.pushed_eq (records : List String) :
    pushed records = (Request.ofRecords records).map fun r => { r with origin := .peer } := by
  unfold pushed Request.ofRecords
  rw [List.map_filterMap]
  rfl

namespace Request

theorem length_ofRecords (records : List String) :
    (ofRecords records).length = records.countP fun record => (ofRecord record).toOption.isSome :=
  List.length_filterMap_eq_countP

/-- A request that some node has accepted from a client. -/
def Asked (r : Request) : Prop :=
  ∃ (n n' : Node) (millis : Int64) (call : Call) (v : Version),
    n.ask millis call = (.ok v, n') ∧ r = call.request v

/-- What was accepted has a line, and was asked for by a client. -/
theorem Asked.recordable {r : Request} (h : r.Asked) : r.Recordable := by
  obtain ⟨n, n', millis, call, v, hask, rfl⟩ := h
  obtain ⟨hkey, -, -⟩ := Node.ask_eq_ok hask
  exact Call.recordable_request hkey v

theorem Asked.forPeers?_eq {r : Request} (h : r.Asked) : r.forPeers? = some r.toPeer.record := by
  obtain ⟨n, n', millis, call, v, hask, rfl⟩ := h
  unfold forPeers?
  rw [Call.origin_request]

/-- **What is offered to the peers for accepted requests carries just these requests.** -/
theorem ofRecords_forPeers {rs : List Request} (h : ∀ r ∈ rs, r.Asked) :
    ofRecords (rs.filterMap forPeers?) = rs.map fun r => { r with origin := .peer } := by
  induction rs with
  | nil => rfl
  | cons r rs ih =>
    rw [List.forall_mem_cons] at h
    have hread : ofRecord r.toPeer.record = .ok r.toPeer :=
      ofRecord_record h.1.recordable.toPeer
    rw [List.filterMap_cons_some h.1.forPeers?_eq, List.map_cons, ← ih h.2]
    unfold ofRecords
    rw [List.filterMap_cons_some (by rw [hread]; rfl)]
    rfl

end Request

/-- Behind requests every outbox has been offered what there was for the peers, in order. -/
theorem Node.outboxes_processAll (n : Node) (d : Disk) (rs : List Request) :
    (n.processAll d rs).1.outboxes =
      n.outboxes.map fun o => o.after ((rs.filterMap Request.forPeers?).map .offer) := by
  induction rs generalizing n d with
  | nil => exact (List.map_id _).symm
  | cons r rs ih =>
    have hstep : n.processAll d (r :: rs) = (n.process d r).1.processAll (n.process d r).2 rs :=
      rfl
    have hcons : (r :: rs).filterMap Request.forPeers? =
        r.forPeers?.toList ++ rs.filterMap Request.forPeers? := by
      rw [List.filterMap_cons]
      cases r.forPeers? <;> rfl
    rw [hstep, ih, outboxes_process, offered_eq, List.map_map, hcons, List.map_append]
    refine List.map_congr_left fun o _ => ?_
    exact (o.after_append _ _).symm

/-! ## 2. Handing over -/

namespace Cluster

variable {who : Activity} {m : Nat} {cs : List Cluster} {records : List String}

/-- How many of the records carry a request. -/
def countRequests (records : List String) : Nat :=
  records.countP fun record => (Request.ofRecord record).toOption.isSome

theorem length_pushed (records : List String) :
    (Node.pushed records).length = countRequests records := by
  rw [Node.pushed_eq, List.length_map, Request.length_ofRecords]
  rfl

/-- **Records at a node that stays open**: all requests in them come in, or some still wait. -/
theorem portions_pushed (hopen : ∀ c ∈ cs, c.IsOpen m) {result : Except Error Nat}
    {put : List Request}
    (h : portions who m (Node.pushed records) 0 cs = (some result, put)) :
    result = .ok (countRequests records) ∧
      put = (Request.ofRecords records).map fun r => { r with origin := .peer } := by
  obtain ⟨hresult, hput⟩ := portions_eq_some hopen h
  rw [Nat.zero_add, length_pushed] at hresult
  exact ⟨hresult, hput.trans (Node.pushed_eq records)⟩

/-- **The records that a node offers for accepted requests** all carry one. -/
theorem countRequests_forPeers {rs : List Request} (h : ∀ r ∈ rs, r.Asked) :
    countRequests (rs.filterMap Request.forPeers?) = (rs.filterMap Request.forPeers?).length ∧
      (rs.filterMap Request.forPeers?).length = rs.length := by
  have hall : ∀ r ∈ rs, r.forPeers? = some r.toPeer.record := fun r hr => (h r hr).forPeers?_eq
  have hlength : (rs.filterMap Request.forPeers?).length = rs.length := by
    rw [List.filterMap_congr hall, List.filterMap_eq_map', List.length_map]
  refine ⟨?_, hlength⟩
  rw [hlength, ← length_pushed, Node.pushed_eq, List.length_map, Request.ofRecords_forPeers h,
    List.length_map]

/-- **A push is answered with the number of its requests, and of the records of a peer none is
missing.**  Whoever hands records over to a node that stays open, in however many portions and
whatever goes on between them: it ends with the number of the records that carry a request, and
just these requests have come in, in order, each as a peer hands it on; and it does end where as
many portions find a place as there are requests and one more.  So does the push of a caller.  And
records that were offered to the peers for accepted requests all carry one, the one that they were
made for, so a push in flight with them, to a peer that tells what it took, ends with the whole
batch taken. -/
theorem push_counts_requests :
    (∀ (records : List String) (who : Activity) (m : Nat) (cs : List Cluster),
      (∀ c ∈ cs, c.IsOpen m) →
        (∀ result put, portions who m (Node.pushed records) 0 cs = (some result, put) →
          result = .ok (countRequests records) ∧
            put = (Request.ofRecords records).map fun r => { r with origin := .peer }) ∧
        ((∀ c ∈ cs, c.Admits who m) → countRequests records < cs.length →
          (portions who m (Node.pushed records) 0 cs).1.isSome)) ∧
    (∀ (records : List String) (m : Nat) (c : Cluster),
      (∀ c' ∈ rounds m (countRequests records + 1) (Node.pushed records) c,
        c'.IsOpen m ∧ c'.Admits .caller m) →
        (c.push m records).1 = .ok (countRequests records)) ∧
    (∀ (records : List String) (m : Nat) (c : Cluster) (x : Member), c.Quiet m x →
      (c.push m records).1 = .ok (countRequests records) ∧
        (c.push m records).2.settle = c.behind m x (Node.pushed records)) ∧
    ∀ (rs : List Request) (batch : List String), (∀ r ∈ rs, r.Asked) →
      batch = rs.filterMap Request.forPeers? →
        (∀ (n : Node) (d : Disk), (n.processAll d rs).1.outboxes =
          n.outboxes.map fun o => o.after (batch.map .offer)) ∧
        countRequests batch = batch.length ∧
        Request.ofRecords batch = rs.map (fun r => { r with origin := .peer }) ∧
        ∀ (f : Flight) (target : Nat) (cs : List Cluster), f.records = batch →
          f.reception.accepts = none → (∀ c ∈ cs, c.IsOpen target) →
            ∀ result, handings f target (Node.pushed f.records) 0 cs = some result →
              Outbox.verdict batch result = .ok batch.length := by
  refine ⟨?_, ?_, ?_, ?_⟩
  · intro records who m cs hopen
    constructor
    · intro result put h
      exact portions_pushed hopen h
    · intro hplace henough
      rw [← length_pushed] at henough
      rw [portions_of_admits hopen hplace henough]
      rfl
  · intro records m c h
    rw [← length_pushed] at h ⊢
    exact deliver_of_admits h
  · intro records m c x hquiet
    have hpeer : ∀ r ∈ Node.pushed records, r.origin = .peer := by
      intro r hr
      obtain ⟨record, -, q, -, rfl⟩ := Node.mem_pushed_iff.1 hr
      rfl
    rw [← length_pushed]
    exact deliver_of_quiet hquiet hpeer
  · rintro rs batch hasked rfl
    obtain ⟨hwhole, -⟩ := countRequests_forPeers hasked
    refine ⟨?_, hwhole, Request.ofRecords_forPeers hasked, ?_⟩
    · intro n d
      exact n.outboxes_processAll d rs
    · intro f target cs hrecords htold hopen result h
      rw [handings_eq] at h
      obtain ⟨taken, htaken, rfl⟩ := Option.map_eq_some_iff.1 h
      obtain ⟨rfl, -⟩ := portions_pushed hopen (Prod.ext htaken rfl)
      rw [hrecords, hwhole]
      simp only [Except.map, Reception.told, htold, Option.getD_none, Outbox.verdict,
        Nat.lt_irrefl, if_false]

/-- A node with one place in its intake. -/
def narrow : Member where
  name := "b"
  node := { Node.solitary (Fin.last 999) with intake := { capacity := 1 } }

def crowded : Cluster where
  millis := 0
  members := [narrow]
  names := .ofEntries [("b", 0)]

/-- What two other nodes have accepted. -/
def elsewhere : List Request :=
  [.set 1700000000000003001 .client "k" [0, 255], .delete 1700000000000004001 .client "k"]

/-- A push of it in flight to that node. -/
def passage : Flight where
  node := 5
  outbox := 0
  number := 0
  address := "b"
  records := elsewhere.filterMap Request.forPeers?
  reception := {}
  limit := 0

/-- Of three records one carries nothing, and for the second request the caller has to wait; so
has the push in flight. -/
theorem push_counts_requests_crowded :
    (crowded.push 0 ["no request", "7 sync set a QQ==", "8 req del a"]).1 = .ok 2 ∧
      (crowded.push 0 ["no request", "7 sync set a QQ==", "8 req del a"]).2.settle =
        crowded.behind 0 narrow [.set 7 .peer "a" [0x41], .delete 8 .peer "a"] ∧
      passage.records =
        ["1700000000000003001 sync set k AP8=", "1700000000000004001 sync del k"] ∧
      handings passage 0 (Node.pushed passage.records) 0
          [crowded, (crowded.hand passage 0 (Node.pushed passage.records) 0).2.settle] =
        some (.ok 2) ∧
      Outbox.verdict passage.records (.ok 2) = .ok passage.records.length := by
  obtain ⟨-, hcaller, halone, hpeers⟩ := push_counts_requests
  have hasked : ∀ r ∈ elsewhere, r.Asked := by
    unfold elsewhere
    rw [List.forall_mem_cons, List.forall_mem_singleton]
    constructor
    · exact ⟨.solitary 3, _, 1700000000000, .set "k" [0, 255], _,
        Prod.ext (by decide +kernel) rfl, rfl⟩
    · exact ⟨.solitary 4, _, 1700000000000, .delete "k", _,
        Prod.ext (by decide +kernel) rfl, rfl⟩
  obtain ⟨-, -, -, hflight⟩ := hpeers elsewhere _ hasked rfl
  have hland : handings passage 0 (Node.pushed passage.records) 0
      [crowded, (crowded.hand passage 0 (Node.pushed passage.records) 0).2.settle] =
        some (.ok 2) := by decide +kernel
  have hquiet : crowded.Quiet 0 narrow := ⟨rfl, rfl, rfl, rfl, rfl, rfl, rfl, rfl⟩
  refine ⟨hcaller _ 0 crowded (by decide +kernel), (halone _ 0 crowded narrow hquiet).2,
    by decide +kernel, hland, ?_⟩
  exact hflight passage 0 _ rfl rfl (by decide +kernel) _ hland

end Cluster

end Replica
