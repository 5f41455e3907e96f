/-
# Which keys get into a node

Calls and pushes bring legal keys only: a call is refused for an illegal one, and the key of a
pushed record is one of its fields.  **A pulled snapshot brings whatever its names are**: nothing
looks at them, neither on the way into the intake nor behind it.

So the keys of a node that was opened on nothing are legal or come from a pulled snapshot
(`legalKey_or_pulled`).  Every line is written all the same, and a line carries the request it was
written for just if its key is legal.  One that is not can hold a line feed and a whole line
behind it, and then the log is read as a history that never was (`read_forged`).
-/

import Replica.Proofs.Filing

namespace Replica

namespace Service

/-- Whether a request is what an item of a pulled snapshot becomes. -/
def Pulled (as : List Act) (r : Request) : Prop :=
  ∃ snapshot, .come (.pull snapshot) ∈ as ∧ r ∈ (Errand.pull snapshot).requests

/-! ## 1. What comes in -/

/-- A request with a legal key, or one of a pulled snapshot; it carries what its line carries, but
for its key. -/
structure Admitted (as : List Act) (r : Request) : Prop where
  legal_or_pulled : LegalKey r.key ∨ Pulled as r
  value_eq_nil : r.action = .delete → r.value = []

variable {as : List Act} {r : Request}

theorem admitted_of_recordable (h : r.Recordable) : Admitted as r :=
  ⟨Or.inl h.legalKey, h.value_eq_nil⟩

theorem Admitted.recordable (h : Admitted as r) (hkey : LegalKey r.key) : r.Recordable :=
  ⟨hkey, h.value_eq_nil⟩

theorem Admitted.toPeer (h : Admitted as r) : Admitted as r.toPeer := by
  refine ⟨?_, h.value_eq_nil⟩
  rcases h.legal_or_pulled with hkey | ⟨snapshot, hsnapshot, hr⟩
  · exact Or.inl hkey
  · -- what is pulled counts as a peer's already
    have horigin : r.origin = .peer := Errand.origin_of_mem_requests rfl hr
    have hsame : r.toPeer = r := by
      unfold Request.toPeer
      rw [← horigin]
    exact Or.inr ⟨snapshot, hsnapshot, hsame ▸ hr⟩

/-- **Nothing else is brought in** by what is neither submitted nor handed over as it is. -/
theorem brings_admitted {a : Act} (ha : a ∈ as) (hdirect : a.isDirect = false) :
    a.Brings (Admitted as) := by
  cases a with
  | submit q => cases hdirect
  | come errand =>
    intro q hq
    cases errand with
    | wait p => cases hdirect
    | push records => exact admitted_of_recordable (Node.recordable_of_mem_pushed hq)
    | pull snapshot =>
      refine ⟨Or.inr ⟨snapshot, ha, hq⟩, fun hdelete => ?_⟩
      unfold Errand.requests at hq
      simp only at hq
      split at hq
      · obtain ⟨key, i, -, rfl⟩ := Node.mem_pulled_iff.1 hq
        cases hdelete
      · cases hq
  | _ => trivial

/-! ## 2. What a pulled snapshot brings -/

/-- The store of one item. -/
def lone (key : String) (i : Item) : Store := ⟨Dict.empty.insert key i⟩

theorem requests_pull_lone (key : String) (i : Item) :
    (Errand.pull (lone key i).snapshot).requests = [.set i.version .peer key i.value] := by
  rw [Errand.requests_pull_snapshot]
  rfl

/-- **Any key comes in with a snapshot**, and a key that held nothing holds what it brought. -/
theorem process_lone {n : Node} (d : Disk) (hclosed : n.intake.closed = false)
    (hroom : n.intake.hasRoom = true) (hqueue : n.intake.queue = []) {key : String}
    (hnone : n.store.get? key = none) (i : Item) :
    let start : Service := { node := n, disk := d }
    let acts : List Act := [.come (.pull (lone key i).snapshot), .hand 0, .process]
    (start.tally acts).processed = [.set i.version .peer key i.value] ∧
      (start.run acts).node.get? key = some i := by
  intro start acts
  let q : Request := .set i.version .peer key i.value
  -- it comes with one request, which finds room and is the only one in the queue
  let come : Service := { start with guests := [{ left := [q] }] }
  let hand : Service :=
    { start with node := { n with intake := n.intake.enqueue q }, guests := [{ left := [] }] }
  have hsubmit : come.node.intake.submit q = .ok (n.intake.enqueue q) := by
    unfold Intake.submit
    rw [if_neg (by simp [come, start, hclosed]), if_pos hroom]
  have hcome : start.step (.come (.pull (lone key i).snapshot)) = come := by
    simp only [step, requests_pull_lone]
    rfl
  have hhand : come.step (.hand 0) = hand := by
    simp only [step, come, List.getElem?_cons_zero]
    rw [hsubmit]
    rfl
  have hseen : come.seen (.hand 0) = [.accepted q] := by
    simp only [seen, come, List.getElem?_cons_zero]
    rw [hsubmit]
  have hnext : hand.node.intake.queue = [q] := by
    simp [hand, Intake.enqueue, hqueue]
  have hprocess : hand.step .process = hand.takeNext q [] := by
    simp only [step, Node.advance?_of_cons _ hnext]
    rfl
  constructor
  · have hsights : start.sights acts = [.accepted q, .processed q] := by
      simp only [acts, sights, hcome, hhand, hseen]
      simp only [seen, hnext]
      rfl
    unfold tally
    rw [hsights]
    rfl
  · have hrun : start.run acts = hand.takeNext q [] := by
      simp only [run, acts, List.foldl_cons, List.foldl_nil, hcome, hhand, hprocess]
    rw [hrun]
    unfold Node.get?
    have hkey : q.key = key := rfl
    have hnothing : hand.node.store.get? key = none := hnone
    rw [store_takeNext, Store.get?_apply, if_pos hkey, hnothing]
    rfl

end Service

/-! ## 3. What becomes of it -/

/-- **The keys of a node are legal or come from a pulled snapshot, and any key may come so.**  Each
line is written, and each is read back as the request that it was written for just if all keys
are legal. -/
theorem legalKey_or_pulled {s : Settings} {d d' : Disk} {n : Node}
    (hopen : Node.openIn s d = (.ok n, d')) (hbare : d.Bare s) {as : List Service.Act}
    (hdirect : ∀ a ∈ as, a.isDirect = false) :
    let start : Service := { node := n, disk := d' }
    let x := start.run as
    let t := start.tally as
    let path := Path.ofText s.logPath
    (∀ r ∈ t.accepted, LegalKey r.key ∨ Service.Pulled as r) ∧
    (∀ key i, x.node.get? key = some i →
      LegalKey key ∨ Service.Pulled as (.set i.version .peer key i.value)) ∧
    x.disk.read path = .ok (Log.written t.processed) ∧
    (∀ r ∈ t.processed, Request.ofRecord r.record = .ok r ↔ LegalKey r.key) ∧
    (Log.read x.disk path = .ok t.processed ↔ ∀ r ∈ t.processed, LegalKey r.key) ∧
    ∀ key i,
      let pull : List Service.Act :=
        [.come (.pull (Service.lone key i).snapshot), .hand 0, .process]
      (start.tally pull).processed = [.set i.version .peer key i.value] ∧
        (start.run pull).node.get? key = some i := by
  intro start x t path
  obtain ⟨-, hintake, -⟩ := Node.exists_of_openIn hopen
  obtain ⟨hempty, -⟩ := Node.openIn_bare hopen hbare
  have hholds : x.disk.Holds path (Log.written t.processed) :=
    Service.holds_written_of_bare hopen hbare as
  -- what a node carries is what came in
  have hstart : Service.Carries (Service.Admitted as) start := by
    refine ⟨?_, nofun, ?_⟩
    · simp [start, hintake]
    · simp [start, hempty, Node.pulled, Store.empty, Dict.empty]
  obtain ⟨hcarries, hsights⟩ := hstart.run (fun _ => Service.Admitted.toPeer)
    (fun r hr => Service.admitted_of_recordable (Service.recordable_of_mem_askedIn hr))
    fun a ha => Service.brings_admitted ha (hdirect a ha)
  have haccepted : ∀ r ∈ t.accepted, Service.Admitted as r := fun r hr =>
    hsights r (Service.mem_accepted_tally.1 hr)
  have hprocessed : ∀ r ∈ t.processed, Service.Admitted as r := fun r hr =>
    haccepted r (Service.processed_subset_accepted hopen as hr)
  refine ⟨fun r hr => (haccepted r hr).legal_or_pulled, fun key i hget => ?_, hholds.read,
    fun r hr => ⟨fun hread => ?_, fun hkey => ?_⟩, ⟨fun hread => ?_, fun hkeys => ?_⟩,
    fun key i => ?_⟩
  · exact (hcarries.held _ (Node.mem_pulled_iff.2 ⟨key, i, hget, rfl⟩)).legal_or_pulled
  · exact (Request.recordable_of_ofRecord hread).legalKey
  · exact Request.ofRecord_record ((hprocessed r hr).recordable hkey)
  · rw [Log.read_of_holds hholds, Log.requests_eq_ok_iff] at hread
    exact fun r hr => (Log.recordable_of_requestsOfLines hread r hr).legalKey
  · rw [Log.read_of_holds hholds]
    exact Log.requests_written fun r hr => (hprocessed r hr).recordable (hkeys r hr)
  · refine Service.process_lone d' ?_ ?_ ?_ ?_ i
    · rw [hintake]
    · rw [hintake]
      exact decide_eq_true (Nat.lt_of_lt_of_le Nat.zero_lt_one (Nat.le_max_right ..))
    · rw [hintake]
    · rw [hempty]
      rfl

/-- A snapshot whose only name holds a blank, a line feed and what a line begins with. -/
def forgedSnapshot : Bytes :=
  Text.utf8 "\x7b\"k\\n2 req set j\":\x7b\"value\":\"\",\"version\":1\x7d\x7d"

def forgedActs : List Service.Act := [.come (.pull forgedSnapshot), .hand 0, .process]

def trusting : Settings := { node := 1, directory := "data", peers := ["b"] }

theorem legalKey_or_pulled_forged :
    let start := Service.openedOn trusting .empty
    let x := start.run forgedActs
    Node.openIn trusting .empty = (.ok start.node, start.disk) ∧ Disk.empty.Bare trusting ∧
      (∀ a ∈ forgedActs, a.isDirect = false) ∧
      (start.tally forgedActs).processed = [.set 1 .peer "k\n2 req set j" []] ∧
      x.disk.read (Path.ofText trusting.logPath) =
        .ok (Text.utf8 "1 sync set k\n2 req set j\n") ∧
      Log.read x.disk (Path.ofText trusting.logPath) ≠ .ok (start.tally forgedActs).processed := by
  intro start x
  have hopen : Node.openIn trusting .empty = (.ok start.node, start.disk) :=
    Service.openIn_openedOn (by decide +kernel)
  have hbare : Disk.empty.Bare trusting := by decide +kernel
  have hdirect : ∀ a ∈ forgedActs, a.isDirect = false := by decide +kernel
  have hprocessed : (start.tally forgedActs).processed = [.set 1 .peer "k\n2 req set j" []] := by
    decide +kernel
  have hlines : Log.written (start.tally forgedActs).processed =
      Text.utf8 "1 sync set k\n2 req set j\n" := by
    rw [hprocessed]
    decide +kernel
  obtain ⟨-, -, hfile, -, hread, -⟩ := legalKey_or_pulled hopen hbare hdirect
  refine ⟨hopen, hbare, hdirect, hprocessed, hfile.trans (congrArg _ hlines), fun h => ?_⟩
  have hmem : Request.set 1 .peer "k\n2 req set j" [] ∈ (start.tally forgedActs).processed := by
    rw [hprocessed]
    exact List.mem_cons_self
  exact absurd (hread.1 h _ hmem) (by decide +kernel)

/-- **A log that is read as a history that never was**: of the two requests that are read nobody
made either. -/
theorem read_forged :
    let start := Service.openedOn trusting .empty
    let x := start.run forgedActs
    Node.openIn trusting .empty = (.ok start.node, start.disk) ∧ Disk.empty.Bare trusting ∧
      (∀ a ∈ forgedActs, a.isDirect = false) ∧
      (start.tally forgedActs).accepted = [.set 1 .peer "k\n2 req set j" []] ∧
      ¬ LegalKey "k\n2 req set j" ∧ x.node.get? "k\n2 req set j" = some ⟨[], 1⟩ ∧
      Log.read x.disk (Path.ofText trusting.logPath) =
        .ok [.set 1 .peer "k" [], .set 2 .client "j" []] := by
  intro start x
  exact ⟨Service.openIn_openedOn (by decide +kernel), by decide +kernel, by decide +kernel,
    by decide +kernel, by decide +kernel, by decide +kernel, by decide +kernel⟩

end Replica
