/-
# Handing over to a quiet node

A cluster is quiet at a node when nothing is ready, the node runs, and nobody waits at its intake.
If the caller then hands a peer's requests over, nobody else comes between: the intake fills up,
the pipeline takes all that is in it and promises the caller the first place, and so on.

**All of it comes to its end, and what is left is the node that has processed the requests one
after another** (`deliver_of_quiet`), whatever the capacity of its intake is: the answer is their
number, and nothing but the node and the disk has changed.

Requests of a client are not meant: these would wake the senders.
-/

import Replica.Proofs.Handover
import Replica.Proofs.Pipeline

namespace Replica

/-! ## 1. One member -/

/-- A member with a node, what waits in its intake, and who waits or is invited. -/
def Member.holding (x : Member) (n : Node) (queue : List Request)
    (waiting invited : List Activity) : Member :=
  { x with
    node := { n with intake := { n.intake with queue, promised := invited.length } }
    waiting
    invited }

/-- With an empty intake and nobody waiting a member only has another node. -/
theorem Member.holding_idle {x : Member} {n : Node} (hqueue : n.intake.queue = [])
    (hpromised : n.intake.promised = 0) (hwaiting : x.waiting = []) (hinvited : x.invited = []) :
    x.holding n [] [] [] = { x with node := n } := by
  have hintake : { n.intake with queue := [], promised := 0 } = n.intake := by
    rw [← hqueue, ← hpromised]
  unfold holding
  rw [List.length_nil, hintake]
  cases x
  cases hwaiting
  cases hinvited
  rfl

/-- Processing does not look at the intake. -/
theorem Node.process_withIntake (n : Node) (d : Disk) (r : Request) (i : Intake) :
    { n with intake := i }.process d r =
      ({ (n.process d r).1 with intake := i }, (n.process d r).2) := by
  unfold process offer
  cases r.origin <;> rfl

theorem Node.intake_processAll (n : Node) (d : Disk) (rs : List Request) :
    (n.processAll d rs).1.intake = n.intake := by
  induction rs generalizing n d with
  | nil => rfl
  | cons r rs ih => exact (ih _ _).trans (n.intake_process d r)

namespace Cluster

/-- A cluster with a member, a disk and what is ready in the place of its own. -/
def turned (c : Cluster) (m : Nat) (member : Member) (d : Disk) (ready : List Activity) :
    Cluster :=
  { c with disk := d, ready, members := c.members.set m member }

section Quiet

variable {c : Cluster} {m : Nat} (x : Member) (n : Node) (d : Disk)

theorem member?_turned (hm : m < c.members.length) (member : Member) (ready : List Activity) :
    (c.turned m member d ready).member? m = some member :=
  List.getElem?_set_self hm

theorem setMember_turned (member member' : Member) (ready : List Activity) :
    (c.turned m member d ready).setMember m member' = c.turned m member' d ready := by
  unfold turned setMember
  simp only [List.set_set]

theorem setNode_turned (member : Member) (node : Node) (ready : List Activity) :
    (c.turned m member d ready).setNode m node = c.turned m { member with node } d ready := by
  have hmodify : (c.members.set m member).modify m (fun y => { y with node }) =
      c.members.set m { member with node } := by
    refine List.ext_getElem? fun j => ?_
    rw [List.getElem?_modify, List.getElem?_set, List.getElem?_set]
    split
    · next h =>
      subst h
      split <;> rfl
    · exact Option.map_id'
  unfold turned setNode
  rw [hmodify]

/-- What is ready while the requests of the caller are in the intake. -/
def readyFor (m : Nat) : List Request → List Activity
  | [] => []
  | _ :: _ => [.pipeline m]

theorem wake_pipeline (member : Member) (queue : List Request) (r : Request) :
    (c.turned m member d (readyFor m queue)).wake (.pipeline m) =
      c.turned m member d (readyFor m (queue ++ [r])) := by
  cases queue with
  | nil => rfl
  | cons q queue =>
    unfold wake turned readyFor
    simp

/-! ## 2. A portion -/

/-- The caller comes in where there is room, and waits otherwise. -/
theorem enter_holding (hm : m < c.members.length) (hopen : n.intake.closed = false)
    (queue : List Request) (r : Request) :
    (c.turned m (x.holding n queue [] []) d (readyFor m queue)).enter .caller m r =
      if queue.length < max n.intake.capacity 1 then
        (.entered, c.turned m (x.holding n (queue ++ [r]) [] []) d (readyFor m (queue ++ [r])))
      else (.waits, c.turned m (x.holding n queue [.caller] []) d (readyFor m queue)) := by
  have hinvited : (x.holding n queue [] []).invited.contains .caller = false := rfl
  have hclosed : (x.holding n queue [] []).node.intake.closed = false := hopen
  have hroom : (x.holding n queue [] []).node.intake.hasRoom =
      decide (queue.length < max n.intake.capacity 1) := rfl
  have hwaits : (x.holding n queue [] []).waiting.contains .caller = false := rfl
  unfold enter
  rw [member?_turned d hm]
  simp only [hinvited, hclosed, hroom, hwaits, decide_eq_true_eq, Bool.false_eq_true, if_false]
  by_cases h : queue.length < max n.intake.capacity 1
  · rw [if_pos h, if_pos h, setMember_turned, wake_pipeline]
    rfl
  · rw [if_neg h, if_neg h, setMember_turned]
    rfl

/-- The caller takes the place that it was promised. -/
theorem enter_invited (hm : m < c.members.length) (r : Request) :
    (c.turned m (x.holding n [] [] [.caller]) d []).enter .caller m r =
      (.entered, c.turned m (x.holding n [r] [] []) d (readyFor m [r])) := by
  have hinvited : (x.holding n [] [] [.caller]).invited.contains .caller = true := rfl
  unfold enter
  rw [member?_turned d hm]
  simp only [hinvited, if_true, setMember_turned]
  exact congrArg (Prod.mk Entry.entered) (wake_pipeline d _ [] r)

/-- **A portion fills the intake up**, and where it is not enough the caller waits. -/
theorem handOver_holding (hm : m < c.members.length) (hopen : n.intake.closed = false)
    (rs queue : List Request) (k : Nat) :
    handOver .caller m rs k (c.turned m (x.holding n queue [] []) d (readyFor m queue)) =
        (.all (k + rs.length),
          c.turned m (x.holding n (queue ++ rs) [] []) d (readyFor m (queue ++ rs))) ∨
      ∃ done r left, rs = done ++ r :: left ∧ queue ++ done ≠ [] ∧
        handOver .caller m rs k (c.turned m (x.holding n queue [] []) d (readyFor m queue)) =
          (.waits (r :: left) (k + done.length),
            c.turned m (x.holding n (queue ++ done) [.caller] []) d
              (readyFor m (queue ++ done))) := by
  induction rs generalizing queue k with
  | nil => exact Or.inl (by rw [List.append_nil]; rfl)
  | cons r rs ih =>
    rw [handOver, enter_holding x n d hm hopen]
    by_cases h : queue.length < max n.intake.capacity 1
    · rw [if_pos h]
      rcases ih (queue ++ [r]) (k + 1) with hall | ⟨done, r', left, rfl, hne, hwaits⟩
      · left
        simp only [hall, List.append_assoc, List.singleton_append, List.length_cons]
        congr 2
        omega
      · right
        refine ⟨r :: done, r', left, rfl, ?_, ?_⟩
        · exact List.append_ne_nil_of_right_ne_nil queue (List.cons_ne_nil r done)
        · simp only [hwaits, List.append_assoc, List.singleton_append, List.length_cons]
          congr 2
          omega
    · right
      rw [if_neg h]
      have hne : queue ≠ [] := by
        rintro rfl
        exact h (Nat.lt_of_lt_of_le Nat.zero_lt_one (Nat.le_max_right _ _))
      refine ⟨[], r, rs, rfl, ?_, ?_⟩
      · rwa [List.append_nil]
      · simp only [List.append_nil, List.length_nil, Nat.add_zero]

/-- A portion into an empty intake, with a promise or without. -/
theorem handOver_idle (hm : m < c.members.length) (hopen : n.intake.closed = false)
    (rs : List Request) (k : Nat) {invited : List Activity}
    (hinvited : invited = [] ∨ (invited = [.caller] ∧ rs ≠ [])) :
    handOver .caller m rs k (c.turned m (x.holding n [] [] invited) d []) =
        (.all (k + rs.length), c.turned m (x.holding n rs [] []) d (readyFor m rs)) ∨
      ∃ done r left, rs = done ++ r :: left ∧ done ≠ [] ∧
        handOver .caller m rs k (c.turned m (x.holding n [] [] invited) d []) =
          (.waits (r :: left) (k + done.length),
            c.turned m (x.holding n done [.caller] []) d (readyFor m done)) := by
  rcases hinvited with rfl | ⟨rfl, hne⟩
  · exact handOver_holding x n d hm hopen rs [] k
  · obtain ⟨r, rs, rfl⟩ := List.exists_cons_of_ne_nil hne
    rw [handOver, enter_invited x n d hm]
    rcases handOver_holding x n d hm hopen rs [r] (k + 1) with hall |
      ⟨done, r', left, rfl, -, hwaits⟩
    · left
      simp only [hall, List.singleton_append, List.length_cons]
      congr 2
      omega
    · right
      refine ⟨r :: done, r', left, rfl, List.cons_ne_nil r done, ?_⟩
      simp only [hwaits, List.singleton_append, List.length_cons]
      congr 2
      omega

/-! ## 3. A turn of the pipeline -/

/-- No sender wakes when the outboxes are as before. -/
theorem awakened_self (m : Nat) (os : List Outbox) : awakened m os os = [] := by
  unfold awakened
  rw [List.filter_eq_nil_iff.2, List.map_nil]
  rintro ⟨⟨b, a⟩, i⟩ hmem
  have hzip : (b, a) ∈ List.zipWith Prod.mk os os := List.fst_mem_of_mem_zipIdx hmem
  rw [List.zipWith_self] at hzip
  obtain ⟨o, -, ho⟩ := List.mem_map.1 hzip
  obtain ⟨rfl, rfl⟩ := Prod.mk.inj ho
  simp only [Nat.lt_irrefl, decide_false, Bool.false_and, Bool.false_eq_true, not_false_eq_true]

theorem processNext_eq {before after : Node} {later : Disk} (hnode : c.node? m = some before)
    (hadvance : before.advance? c.disk = some (after, later)) :
    c.processNext m = (({ c with disk := later }.setNode m after).invite m).wakeAll
      (awakened m before.outboxes after.outboxes) := by
  unfold processNext
  rw [hnode]
  simp only [hadvance]

/-- The place that has become free goes to the caller, if it waits. -/
theorem invite_holding (hm : m < c.members.length) (queue : List Request)
    {waiting : List Activity} (hwaiting : waiting = [] ∨ waiting = [.caller])
    (invited : List Activity) :
    (c.turned m (x.holding n queue waiting invited) d []).invite m =
      c.turned m (x.holding n queue [] (invited ++ waiting)) d [] := by
  unfold invite
  rw [member?_turned d hm]
  rcases hwaiting with rfl | rfl
  · rw [List.append_nil]
    rfl
  · simp only [Member.holding, setMember_turned, List.length_append, List.length_singleton]
    rfl

/-- **The pipeline takes the next request of a peer**, and invites the caller if it waits. -/
theorem processNext_holding (hm : m < c.members.length) {r : Request} (hr : r.origin = .peer)
    (rest : List Request) (waiting invited : List Activity)
    (hwaiting : waiting = [] ∨ waiting = [.caller]) :
    (c.turned m (x.holding n (r :: rest) waiting invited) d []).processNext m =
      c.turned m (x.holding (n.process d r).1 rest [] (invited ++ waiting)) (n.process d r).2
        [] := by
  have hmember := c.member?_turned d hm (x.holding n (r :: rest) waiting invited) []
  have hadvance : (x.holding n (r :: rest) waiting invited).node.advance? d =
      some ((x.holding (n.process d r).1 rest waiting invited).node, (n.process d r).2) := by
    have hprocess := n.process_withIntake d r
      { n.intake with queue := rest, promised := invited.length }
    rw [Node.advance?_of_cons d rfl]
    refine (congrArg some hprocess).trans ?_
    simp only [Member.holding, Node.intake_process]
  have houtboxes : (x.holding (n.process d r).1 rest waiting invited).node.outboxes =
      (x.holding n (r :: rest) waiting invited).node.outboxes := by
    refine (n.outboxes_process d r).trans ?_
    unfold Node.offered
    rw [hr]
    rfl
  have hnext : ({ c.turned m (x.holding n (r :: rest) waiting invited) d [] with
      disk := (n.process d r).2 }.setNode m
        (x.holding (n.process d r).1 rest waiting invited).node) =
      c.turned m (x.holding (n.process d r).1 rest waiting invited) (n.process d r).2 [] :=
    setNode_turned (c := c) (m := m) (n.process d r).2 (x.holding n (r :: rest) waiting invited)
      (x.holding (n.process d r).1 rest waiting invited).node []
  rw [processNext_eq (node?_of_member? hmember) hadvance, houtboxes, awakened_self, hnext]
  exact invite_holding x _ _ hm rest hwaiting invited

/-- The pipeline takes requests of a peer while nobody waits. -/
theorem processMany_holding (hm : m < c.members.length) (queue : List Request)
    (hqueue : ∀ r ∈ queue, r.origin = .peer) (invited : List Activity) :
    processMany m queue.length (c.turned m (x.holding n queue [] invited) d []) =
      c.turned m (x.holding (n.processAll d queue).1 [] [] invited) (n.processAll d queue).2
        [] := by
  induction queue generalizing n d with
  | nil => rfl
  | cons r rest ih =>
    rw [List.forall_mem_cons] at hqueue
    rw [List.length_cons, processMany, processNext_holding x n d hm hqueue.1 rest [] invited
      (Or.inl rfl), List.append_nil]
    exact ih _ _ hqueue.2

/-- **A turn of the pipeline** takes all that is in the intake. -/
theorem pipelineTurn_holding (hm : m < c.members.length) (hrun : x.stage = .running)
    {queue : List Request} (hne : queue ≠ []) (hqueue : ∀ r ∈ queue, r.origin = .peer)
    {waiting : List Activity} (hwaiting : waiting = [] ∨ waiting = [.caller]) :
    (c.turned m (x.holding n queue waiting []) d []).pipelineTurn m =
      c.turned m (x.holding (n.processAll d queue).1 [] [] waiting) (n.processAll d queue).2
        [] := by
  obtain ⟨r, rest, rfl⟩ := List.exists_cons_of_ne_nil hne
  rw [List.forall_mem_cons] at hqueue
  have hstage : (x.holding n (r :: rest) waiting []).stage = .running := hrun
  have hlength : (x.holding n (r :: rest) waiting []).node.intake.queue.length =
      rest.length + 1 := rfl
  unfold pipelineTurn
  rw [member?_turned d hm]
  simp only [hstage, hlength, processMany]
  rw [processNext_holding x n d hm hqueue.1 rest waiting [] hwaiting, List.nil_append]
  exact processMany_holding x _ _ hm rest hqueue.2 waiting

/-! ## 4. Round after round -/

theorem settleWithin_of_nil (h : c.ready = []) (fuel : Nat) : settleWithin fuel c = c := by
  cases fuel with
  | zero => rfl
  | succ fuel => rw [settleWithin, h]

theorem settle_of_nil (h : c.ready = []) : c.settle = c := settleWithin_of_nil h enough

/-- One turn behind which nothing is ready. -/
theorem settle_of_singleton {a : Activity} (h : c.ready = [a])
    (hquiet : ({ c with ready := [] }.turn a).ready = []) :
    c.settle = { c with ready := [] }.turn a := by
  have henough : enough = 9999999 + 1 := rfl
  unfold settle
  rw [henough, settleWithin, h]
  exact settleWithin_of_nil hquiet 9999999

/-- What the caller has put into the intake is processed, and the caller invited if it waits. -/
theorem settle_holding (hm : m < c.members.length) (hrun : x.stage = .running)
    {queue : List Request} (hqueue : ∀ r ∈ queue, r.origin = .peer) {waiting : List Activity}
    (hwaiting : waiting = [] ∨ (waiting = [.caller] ∧ queue ≠ [])) :
    (c.turned m (x.holding n queue waiting []) d (readyFor m queue)).settle =
      c.turned m (x.holding (n.processAll d queue).1 [] [] waiting) (n.processAll d queue).2
        [] := by
  by_cases hne : queue = []
  · subst hne
    rcases hwaiting with rfl | ⟨-, hnot⟩
    · exact settle_of_nil rfl
    · exact absurd rfl hnot
  · have hready : (c.turned m (x.holding n queue waiting []) d (readyFor m queue)).ready =
        [.pipeline m] := by
      obtain ⟨r, rest, rfl⟩ := List.exists_cons_of_ne_nil hne
      rfl
    have hturn := pipelineTurn_holding x n d hm hrun hne hqueue (hwaiting.imp_right And.left)
    have hsettle := settle_of_singleton hready (congrArg Cluster.ready hturn)
    exact hsettle.trans hturn

/-- **Round after round all requests are handed over and processed.** -/
theorem handOverAll_holding (hm : m < c.members.length) (hrun : x.stage = .running)
    (hopen : n.intake.closed = false) {rs : List Request} (hpeer : ∀ r ∈ rs, r.origin = .peer)
    {fuel : Nat} (hfuel : rs.length < fuel) (k : Nat) {invited : List Activity}
    (hinvited : invited = [] ∨ (invited = [.caller] ∧ rs ≠ [])) :
    (handOverAll m fuel rs k (c.turned m (x.holding n [] [] invited) d [])).1 =
        .ok (k + rs.length) ∧
      (handOverAll m fuel rs k (c.turned m (x.holding n [] [] invited) d [])).2.settle =
        c.turned m (x.holding (n.processAll d rs).1 [] [] []) (n.processAll d rs).2 [] := by
  induction fuel generalizing rs n d k invited with
  | zero => exact absurd hfuel (Nat.not_lt_zero _)
  | succ fuel ih =>
    rw [handOverAll]
    rcases handOver_idle x n d hm hopen rs k hinvited with hall |
      ⟨done, r, left, rfl, hne, hwaits⟩
    · rw [hall]
      exact ⟨rfl, settle_holding x n d hm hrun hpeer (Or.inl rfl)⟩
    · rw [List.forall_mem_append] at hpeer
      have hround := settle_holding (c := c) x n d hm hrun hpeer.1 (Or.inr ⟨rfl, hne⟩)
      have hpos : 0 < done.length := List.length_pos_iff.2 hne
      have hfewer : (r :: left).length < fuel := by
        simp only [List.length_append, List.length_cons] at hfuel ⊢
        omega
      have hopen' : (n.processAll d done).1.intake.closed = false := by
        rw [Node.intake_processAll]
        exact hopen
      rw [hwaits]
      simp only [hround]
      obtain ⟨hresult, hend⟩ := ih (n.processAll d done).1 (n.processAll d done).2 hopen' hpeer.2
        hfewer (k + done.length) (Or.inr ⟨rfl, List.cons_ne_nil r left⟩)
      constructor
      · rw [hresult, List.length_append]
        congr 1
        omega
      · rw [hend, Node.processAll_append]

end Quiet

/-- **Nothing goes on at a node, nor is anything ready elsewhere**: it runs, and nobody waits at
its intake, which is open and empty. -/
structure Quiet (c : Cluster) (m : Nat) (x : Member) : Prop where
  ready : c.ready = []
  member : c.member? m = some x
  running : x.stage = .running
  opened : x.node.intake.closed = false
  queue : x.node.intake.queue = []
  promised : x.node.intake.promised = 0
  waiting : x.waiting = []
  invited : x.invited = []

/-- A cluster in which a node has processed requests, and nothing else has happened. -/
def behind (c : Cluster) (m : Nat) (x : Member) (rs : List Request) : Cluster :=
  { c.setMember m { x with node := (x.node.processAll c.disk rs).1 } with
    disk := (x.node.processAll c.disk rs).2 }

theorem node?_behind_self {c : Cluster} {m : Nat} {x : Member} (h : c.member? m = some x)
    (rs : List Request) :
    (c.behind m x rs).node? m = some (x.node.processAll c.disk rs).1 :=
  node?_of_member? (member?_setMember_self h _)

theorem node?_behind_of_ne {c : Cluster} {m j : Nat} (h : m ≠ j) (x : Member)
    (rs : List Request) : (c.behind m x rs).node? j = c.node? j :=
  congrArg (Option.map Member.node) (List.getElem?_set_ne h)

/-- **A peer's requests at a quiet node come in one and all**, and once all wait again the node
has processed them one after another; nothing else has changed. -/
theorem deliver_of_quiet {c : Cluster} {m : Nat} {x : Member} (h : c.Quiet m x)
    {rs : List Request} (hpeer : ∀ r ∈ rs, r.origin = .peer) :
    (c.deliver m rs).1 = .ok rs.length ∧ (c.deliver m rs).2.settle = c.behind m x rs := by
  have hm : m < c.members.length := (List.getElem?_eq_some_iff.1 h.member).1
  have hstart : c.turned m (x.holding x.node [] [] []) c.disk [] = c := by
    have hself : c.members.set m x = c.members := by
      obtain ⟨hlt, hx⟩ := List.getElem?_eq_some_iff.1 h.member
      rw [← hx]
      exact List.set_getElem_self hlt
    rw [Member.holding_idle h.queue h.promised h.waiting h.invited]
    unfold turned
    rw [hself, ← h.ready]
  have hend := handOverAll_holding (c := c) (m := m) x x.node c.disk hm h.running h.opened hpeer
    (Nat.lt_succ_self rs.length) 0 (Or.inl rfl)
  rw [hstart, Nat.zero_add] at hend
  refine ⟨hend.1, hend.2.trans ?_⟩
  have hintake := x.node.intake_processAll c.disk rs
  rw [Member.holding_idle (by rw [hintake, h.queue]) (by rw [hintake, h.promised]) h.waiting
    h.invited]
  unfold turned behind setMember
  rw [← h.ready]

end Cluster
end Replica
