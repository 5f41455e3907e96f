/-
# Nothing that was accepted is lost

Whatever happens to a node at work, and in whichever order: **what was accepted, in the order of
its acceptance, is what was processed and then what is queued** (`nothing_lost`).  A place that
was promised counts as taken, so the queue never outgrows its bound, and nobody can come in once
the pipeline is past its last request: by then no promise is left.

A refused request might as well not have been made (`run_unrefused`), but for the version that a
refused call costs.
-/

import Replica.Proofs.Service

namespace Replica

/-- What sights come to. -/
structure Tally where
  /-- The requests that were accepted, in order. -/
  accepted : List Request := []
  /-- The requests that were processed, in order. -/
  processed : List Request := []

/-- The request that was seen to be accepted. -/
def Sight.accepted? : Sight → Option Request
  | .accepted r => some r
  | _ => none

/-- The request that was seen to be processed. -/
def Sight.processed? : Sight → Option Request
  | .processed r => some r
  | _ => none

namespace Tally

def enter (t : Tally) : Sight → Tally
  | .accepted r => { t with accepted := t.accepted ++ [r] }
  | .processed r => { t with processed := t.processed ++ [r] }
  | .refused _ _ => t

def enterAll (t : Tally) (ss : List Sight) : Tally := ss.foldl enter t

theorem enterAll_append (t : Tally) (ss ss' : List Sight) :
    t.enterAll (ss ++ ss') = (t.enterAll ss).enterAll ss' := List.foldl_append

theorem accepted_enterAll (t : Tally) (ss : List Sight) :
    (t.enterAll ss).accepted = t.accepted ++ ss.filterMap Sight.accepted? := by
  induction ss generalizing t with
  | nil => exact (List.append_nil _).symm
  | cons s ss ih =>
    refine (ih (t.enter s)).trans ?_
    cases s with
    | accepted r => exact List.append_assoc ..
    | refused r e => rfl
    | processed r => rfl

theorem processed_enterAll (t : Tally) (ss : List Sight) :
    (t.enterAll ss).processed = t.processed ++ ss.filterMap Sight.processed? := by
  induction ss generalizing t with
  | nil => exact (List.append_nil _).symm
  | cons s ss ih =>
    refine (ih (t.enter s)).trans ?_
    cases s with
    | accepted r => rfl
    | refused r e => rfl
    | processed r => exact List.append_assoc ..

/-- Refusals are not entered. -/
theorem enterAll_of_refusals (t : Tally) {ss : List Sight}
    (h : ∀ s ∈ ss, s.isRefusal = true) : t.enterAll ss = t := by
  induction ss with
  | nil => rfl
  | cons s ss ih =>
    have hs := h s List.mem_cons_self
    cases s with
    | refused r e => exact ih fun s' hs' => h s' (List.mem_cons_of_mem _ hs')
    | accepted r => cases hs
    | processed r => cases hs

end Tally

/-! ## 1. An intake and its promises -/

namespace Intake

/-- An intake with so many promises out; **a promised place counts as taken**. -/
structure Keeps (i : Intake) (capacity promises : Nat) : Prop where
  capacity_eq : i.capacity = capacity
  promised_eq : i.promised = promises
  room : i.queue.length + i.promised ≤ i.places

variable {i : Intake} {capacity promises : Nat}

theorem lt_of_hasRoom (h : i.hasRoom = true) : i.queue.length + i.promised < i.places :=
  of_decide_eq_true h

theorem Keeps.enqueue (h : i.Keeps capacity promises) (r : Request) (hroom : i.hasRoom = true) :
    (i.enqueue r).Keeps capacity promises := by
  refine ⟨h.capacity_eq, h.promised_eq, ?_⟩
  have hlt := lt_of_hasRoom hroom
  have hlen : (i.queue ++ [r]).length = i.queue.length + 1 := List.length_append
  unfold places at hlt
  simp only [Intake.enqueue, places, hlen]
  omega

theorem Keeps.keepPromise (h : i.Keeps capacity (promises + 1)) (r : Request) :
    (i.keepPromise r).Keeps capacity promises := by
  have hpromised := h.promised_eq
  refine ⟨h.capacity_eq, by simp only [Intake.keepPromise, hpromised, Nat.add_sub_cancel], ?_⟩
  have hle := h.room
  have hlen : (i.queue ++ [r]).length = i.queue.length + 1 := List.length_append
  unfold places at hle
  simp only [Intake.keepPromise, Intake.enqueue, places, hlen]
  omega

theorem Keeps.promise (h : i.Keeps capacity promises) (hroom : i.hasRoom = true) :
    i.promise.Keeps capacity (promises + 1) :=
  ⟨h.capacity_eq, congrArg (· + 1) h.promised_eq, lt_of_hasRoom hroom⟩

theorem Keeps.breakPromise (h : i.Keeps capacity (promises + 1)) :
    i.breakPromise.Keeps capacity promises := by
  refine ⟨h.capacity_eq, ?_, Nat.le_trans (Nat.add_le_add_left (Nat.sub_le ..) _) h.room⟩
  simp only [Intake.breakPromise, h.promised_eq, Nat.add_sub_cancel]

theorem Keeps.next {r : Request} {rest : List Request} (h : i.Keeps capacity promises)
    (hq : i.queue = r :: rest) : ({ i with queue := rest } : Intake).Keeps capacity promises := by
  refine ⟨h.capacity_eq, h.promised_eq, Nat.le_trans ?_ h.room⟩
  rw [hq, List.length_cons]
  exact Nat.add_le_add_right (Nat.le_succ _) _

end Intake

namespace Service

/-- What was accepted and processed from the start. -/
def tally (x : Service) (as : List Act) : Tally := Tally.enterAll {} (x.sights as)

/-! ## 2. The books of a node at work -/

/-- **What holds of a node at work at any time.**  It was opened as `n`. -/
structure Sound (n : Node) (x : Service) (t : Tally) : Prop where
  accepted_eq : t.accepted = t.processed ++ x.node.intake.queue
  store_eq : x.node.store = n.store.applyAll t.processed
  /-- There is a guest for each promise. -/
  keeps : x.node.intake.Keeps n.intake.capacity (invitedAmong x.guests)
  last : x.stage.isOver = true → x.node.intake.closed = true ∧ x.node.intake.queue = [] ∧
    x.node.intake.promised = 0

theorem sound_start {n : Node} {d : Disk} (hq : n.intake.queue = []) (hp : n.intake.promised = 0) :
    Sound n { node := n, disk := d } {} where
  accepted_eq := hq.symm
  store_eq := rfl
  keeps := ⟨rfl, hp, by simp [hq, hp]⟩
  last := nofun

theorem sound_openIn {s : Settings} {d d' : Disk} {n : Node}
    (hopen : Node.openIn s d = (.ok n, d')) : Sound n { node := n, disk := d' } {} := by
  obtain ⟨-, hintake, -⟩ := Node.exists_of_openIn hopen
  exact sound_start (by rw [hintake]) (by rw [hintake])

variable {n : Node} {x x' : Service} {t : Tally}

/-- No promise is left once the pipeline is past its last request. -/
theorem Sound.invitedAmong_eq_zero (h : Sound n x t) (ho : x.stage.isOver = true) :
    invitedAmong x.guests = 0 := by
  rw [← h.keeps.promised_eq]
  exact (h.last ho).2.2

/-- Nobody can come in, by room or by promise, once it is. -/
theorem Sound.isOver_eq_false_of_open (h : Sound n x t) (hc : x.node.intake.closed = false) :
    x.stage.isOver = false := by
  rw [Bool.eq_false_iff]
  intro ho
  simp [(h.last ho).1] at hc

theorem Sound.isOver_eq_false_of_invited (h : Sound n x t) {k : Nat}
    (hk : k + 1 = invitedAmong x.guests) : x.stage.isOver = false := by
  rw [Bool.eq_false_iff]
  intro ho
  simp [h.invitedAmong_eq_zero ho] at hk

/-- Nothing comes in and nothing is taken. -/
theorem Sound.still {m : Node} {guests : List Guest} {stage : Stage} (h : Sound n x t)
    (hn : Still m x.node) (hq : m.intake.queue = x.node.intake.queue)
    (hk : m.intake.Keeps n.intake.capacity (invitedAmong guests))
    (hlast : stage.isOver = true → m.intake.closed = true ∧ m.intake.queue = [] ∧
      m.intake.promised = 0) :
    Sound n { x with node := m, guests, stage } t where
  accepted_eq := hq ▸ h.accepted_eq
  store_eq := hn.store.trans h.store_eq
  keeps := hk
  last := hlast

/-- A request that comes in goes behind all that were accepted. -/
theorem Sound.accept {m : Node} {guests : List Guest} {r : Request} (h : Sound n x t)
    (hn : Still m x.node) (hq : m.intake.queue = x.node.intake.queue ++ [r])
    (hk : m.intake.Keeps n.intake.capacity (invitedAmong guests))
    (ho : x.stage.isOver = false) :
    Sound n { x with node := m, guests } { t with accepted := t.accepted ++ [r] } where
  accepted_eq := by rw [hq, h.accepted_eq, List.append_assoc]
  store_eq := hn.store.trans h.store_eq
  keeps := hk
  last := fun ho' => absurd (ho.symm.trans ho') Bool.false_ne_true

/-- The first of the queue becomes the last that was processed. -/
theorem Sound.process {r : Request} {rest : List Request} (h : Sound n x t)
    (hq : x.node.intake.queue = r :: rest) :
    Sound n (x.takeNext r rest) { t with processed := t.processed ++ [r] } := by
  refine ⟨?_, ?_, ?_, fun ho => ?_⟩
  · have hacc := h.accepted_eq
    rw [hq, List.append_cons] at hacc
    rw [intake_takeNext]
    exact hacc
  · have hone : n.store.applyAll (t.processed ++ [r]) =
        ((n.store.applyAll t.processed).apply r).2 := List.foldl_append
    rw [store_takeNext, h.store_eq]
    exact hone.symm
  · rw [intake_takeNext]
    exact h.keeps.next hq
  · have hnil := (h.last ho).2.1
    rw [hq] at hnil
    cases hnil

/-- **An act keeps the books in order.** -/
theorem Sound.change {ss : List Sight} (h : Sound n x t) (hc : Change x ss x') :
    Sound n x' (t.enterAll ss) := by
  cases hc with
  | quiet hss hn hi hg hs =>
    rw [t.enterAll_of_refusals hss]
    refine h.still hn (by rw [hi]) ?_ fun ho => ?_
    · rw [hi, hg]
      exact h.keeps
    · rw [hi]
      exact h.last (hs ▸ ho)
  | entered hclosed hroom hn hi hg =>
    refine h.accept hn (by rw [hi]; rfl) ?_ (h.isOver_eq_false_of_open hclosed)
    rw [hi, hg]
    exact h.keeps.enqueue _ hroom
  | kept hn hi hg =>
    have hkeeps := h.keeps
    rw [← hg] at hkeeps
    refine h.accept hn (by rw [hi]; rfl) ?_ (h.isOver_eq_false_of_invited hg)
    rw [hi]
    exact hkeeps.keepPromise _
  | promised hclosed hroom hn hi hg =>
    have hrunning := h.isOver_eq_false_of_open hclosed
    refine h.still hn (by rw [hi]; rfl) ?_ fun ho => ?_
    · rw [hi, hg]
      exact h.keeps.promise hroom
    · exact absurd (hrunning.symm.trans ho) Bool.false_ne_true
  | released hss hn hi hg =>
    have hrunning := h.isOver_eq_false_of_invited hg
    have hkeeps := h.keeps
    rw [← hg] at hkeeps
    rw [t.enterAll_of_refusals hss]
    refine h.still hn (by rw [hi]; rfl) ?_ fun ho => ?_
    · rw [hi]
      exact hkeeps.breakPromise
    · exact absurd (hrunning.symm.trans ho) Bool.false_ne_true
  | processed hq => exact h.process hq
  | closed =>
    exact ⟨h.accepted_eq, h.store_eq, ⟨h.keeps.capacity_eq, h.keeps.promised_eq, h.keeps.room⟩,
      fun ho => ⟨rfl, (h.last ho).2⟩⟩
  | sealed hclosed hq hp =>
    exact ⟨h.accepted_eq, h.store_eq, h.keeps, fun _ => ⟨hclosed, hq, hp⟩⟩
  | saved _ _ => exact ⟨h.accepted_eq, h.store_eq, h.keeps, h.last⟩

theorem Sound.run (h : Sound n x t) (as : List Act) :
    Sound n (x.run as) (t.enterAll (x.sights as)) := by
  induction as generalizing x t with
  | nil => exact h
  | cons a as ih =>
    have hrest := ih (h.change (change_step x a))
    rw [← Tally.enterAll_append] at hrest
    exact hrest

/-! ## 3. Refusals -/

/-- Whether an act ends in a refusal. -/
def isRefused (x : Service) (a : Act) : Bool := (x.seen a).any Sight.isRefusal

/-- What is left of an act that does not make its request: a call costs its stamp, and a guest
that is told that the intake is closed goes away. -/
def Act.withoutRequest : Act → List Act
  | .ask millis _ => [.stamp millis]
  | .hand g => [.leave g]
  | .turnAway g => [.leave g]
  | _ => []

/-- The same acts without the requests that are refused. -/
def unrefused (x : Service) : List Act → List Act
  | [] => []
  | a :: as => (if x.isRefused a then a.withoutRequest else [a]) ++ (x.step a).unrefused as

theorem run_stamp_of_ask_refused {millis : Int64} {call : Call}
    (h : x.isRefused (.ask millis call) = true) :
    x.step (.stamp millis) = x.step (.ask millis call) := by
  simp only [isRefused, seen] at h
  rcases hask : x.node.ask millis call with ⟨e | v, n⟩
  · have he : e = .queueFull ∨ e = .closed := by
      simp only [hask] at h
      split at h <;> simp_all [Sight.isRefusal]
    simp only [step, hask, ask_eq_queueFull_or_closed hask he]
  · simp [hask, Sight.isRefusal] at h

/-- **A refused request has no effect.** -/
theorem run_withoutRequest {a : Act} (h : x.isRefused a = true) :
    x.run a.withoutRequest = x.step a ∧ x.sights a.withoutRequest = [] := by
  cases a with
  | ask millis call => exact ⟨run_stamp_of_ask_refused h, rfl⟩
  | submit r =>
    refine ⟨?_, rfl⟩
    simp only [isRefused, seen] at h
    cases hsub : x.node.submit r with
    | ok n => simp [hsub, Sight.isRefusal] at h
    | error e =>
      simp only [step, hsub]
      rfl
  | hand g =>
    refine ⟨?_, rfl⟩
    simp only [isRefused, seen] at h
    split at h
    · simp [Sight.isRefusal] at h
    · next r rest hg =>
      cases hsub : x.node.intake.submit r with
      | ok i => simp [hsub, Sight.isRefusal] at h
      | error e =>
        cases e with
        | closed =>
          simp only [Act.withoutRequest, run, List.foldl_cons, List.foldl_nil, step, hg, hsub]
        | _ => simp [hsub] at h
    · simp at h
  | turnAway g =>
    refine ⟨?_, rfl⟩
    simp only [isRefused, seen] at h
    split at h
    · next r rest inv hg =>
      by_cases hc : x.node.intake.closed = true
      · simp only [Act.withoutRequest, run, List.foldl_cons, List.foldl_nil, step, hg, hc, if_true]
      · simp [hc] at h
    · simp at h
  | process =>
    simp only [isRefused, seen] at h
    split at h
    · simp [Sight.isRefusal] at h
    · simp at h
  | _ => cases h

theorem filter_seen_of_not_isRefused {a : Act} (h : x.isRefused a = false) :
    (x.seen a).filter (!·.isRefusal) = x.seen a := by
  refine List.filter_eq_self.2 fun s hs => ?_
  unfold isRefused at h
  simp [List.any_eq_false.1 h s hs]

/-- Nothing else is seen of what is refused. -/
theorem Change.isRefusal_of_any {ss : List Sight} (hc : Change x ss x')
    (h : ss.any Sight.isRefusal = true) : ∀ s ∈ ss, s.isRefusal = true := by
  cases hc with
  | quiet hss _ _ _ _ => exact hss
  | released hss _ _ _ => exact hss
  | _ => simp [Sight.isRefusal] at h

theorem filter_seen_of_isRefused {a : Act} (h : x.isRefused a = true) :
    (x.seen a).filter (!·.isRefusal) = [] :=
  List.filter_eq_nil_iff.2 fun s hs => by
    simp [(change_step x a).isRefusal_of_any h s hs]

theorem run_unrefused (x : Service) (as : List Act) :
    x.run (x.unrefused as) = x.run as ∧
      x.sights (x.unrefused as) = (x.sights as).filter (!·.isRefusal) := by
  induction as generalizing x with
  | nil => exact ⟨rfl, rfl⟩
  | cons a as ih =>
    obtain ⟨hrun, hsights⟩ := ih (x.step a)
    unfold unrefused
    rw [run_append, sights_append]
    have hall : (x.sights (a :: as)).filter (!·.isRefusal) =
        (x.seen a).filter (!·.isRefusal) ++ ((x.step a).sights as).filter (!·.isRefusal) :=
      List.filter_append ..
    cases hr : x.isRefused a with
    | true =>
      obtain ⟨hstep, hseen⟩ := run_withoutRequest hr
      rw [if_pos rfl, hstep, hseen, hrun, hsights, hall, filter_seen_of_isRefused hr]
      exact ⟨rfl, rfl⟩
    | false =>
      rw [if_neg Bool.false_ne_true, hall, filter_seen_of_not_isRefused hr, ← hsights]
      refine ⟨hrun, ?_⟩
      simp only [sights, List.append_nil]
      rfl

/-! ## 4. After the last request -/

theorem Sound.over_change {ss : List Sight} (h : Sound n x t) (ho : x.stage.isOver = true)
    (hc : Change x ss x') : (∀ s ∈ ss, s.isRefusal = true) ∧ x'.stage.isOver = true := by
  obtain ⟨hclosed, hq, -⟩ := h.last ho
  have hzero := h.invitedAmong_eq_zero ho
  cases hc with
  | quiet hss hn hi hg hs => exact ⟨hss, hs.trans ho⟩
  | entered hopen _ _ _ _ => exact absurd (hclosed.symm.trans hopen) (by decide)
  | kept _ _ hg => omega
  | promised hopen _ _ _ _ => exact absurd (hclosed.symm.trans hopen) (by decide)
  | released _ _ _ hg => omega
  | processed hnext => exact absurd (hq.symm.trans hnext) (by simp)
  | closed => exact ⟨nofun, ho⟩
  | sealed _ _ _ => exact ⟨nofun, rfl⟩
  | saved _ _ => exact ⟨nofun, ho⟩

/-- **Nothing is accepted or processed any more.** -/
theorem Sound.over_run (h : Sound n x t) (ho : x.stage.isOver = true) (as : List Act) :
    (∀ s ∈ x.sights as, s.isRefusal = true) ∧ (x.run as).stage.isOver = true := by
  induction as generalizing x t with
  | nil => exact ⟨nofun, ho⟩
  | cons a as ih =>
    obtain ⟨hseen, ho'⟩ := h.over_change ho (change_step x a)
    obtain ⟨hsights, hrun⟩ := ih (h.change (change_step x a)) ho'
    refine ⟨fun s hs => ?_, hrun⟩
    rcases List.mem_append.1 hs with hs | hs
    · exact hseen s hs
    · exact hsights s hs

/-- Whoever asks is told so. -/
theorem Sound.refuses (h : Sound n x t) (ho : x.stage.isOver = true) :
    (∀ r, x.node.submit r = .error .closed) ∧
    (∀ millis (call : Call), LegalKey call.key → (x.node.ask millis call).1 = .error .closed) ∧
    ∀ g r rest invited, x.guests[g]? = some ⟨r :: rest, invited⟩ →
      x.seen (.hand g) = [.refused r .closed] := by
  obtain ⟨hclosed, -, -⟩ := h.last ho
  have hintake : ∀ r, x.node.intake.submit r = .error .closed := fun r => if_pos hclosed
  have hnode : ∀ r, x.node.submit r = .error .closed := fun r => by
    unfold Node.submit
    rw [hintake]
    rfl
  refine ⟨hnode, fun millis call hkey => ?_, fun g r rest invited hg => ?_⟩
  · rw [Node.ask_eq_stamp]
    unfold Node.stamp
    rw [checkKey_eq_ok_iff.2 hkey]
    have hsub : (x.node.nextVersion millis).2.submit
        (call.request (x.node.nextVersion millis).1) = .error .closed := by
      unfold Node.submit
      rw [show (x.node.nextVersion millis).2.intake = x.node.intake from rfl, hintake]
      rfl
    simp only [hsub]
  · cases invited with
    | true =>
      have hpos : 0 < invitedAmong x.guests :=
        List.countP_pos_iff.2 ⟨_, List.mem_of_getElem? hg, rfl⟩
      rw [h.invitedAmong_eq_zero ho] at hpos
      exact absurd hpos (Nat.lt_irrefl 0)
    | false => simp only [seen, hg, hintake]

end Service

/-! ## 5. From the opening to the end -/

/-- **No accepted request is lost, taken twice or out of its turn, and no refused one counts.**
Once the node has shut down, all that was accepted has been processed, and nothing more comes in
whatever happens. -/
theorem nothing_lost {s : Settings} {d d' : Disk} {n : Node}
    (hopen : Node.openIn s d = (.ok n, d')) (as : List Service.Act) :
    let start : Service := { node := n, disk := d' }
    let x := start.run as
    let t := start.tally as
    t.accepted = t.processed ++ x.node.intake.queue ∧
    x.node.intake.queue.length ≤ max s.intakeCapacity 1 ∧
    x.node.store = n.store.applyAll t.processed ∧
    start.run (start.unrefused as) = x ∧
    start.sights (start.unrefused as) = (start.sights as).filter (!·.isRefusal) ∧
    (x.stage = .ended → x.node.intake.queue = [] ∧ t.processed = t.accepted ∧
      ∀ later : List Service.Act, let y := x.run later
        (∀ sight ∈ x.sights later, sight.isRefusal = true) ∧
        (∀ r, y.node.submit r = .error .closed) ∧
        (∀ millis (call : Call), LegalKey call.key →
          (y.node.ask millis call).1 = .error .closed) ∧
        ∀ g r rest invited, y.guests[g]? = some ⟨r :: rest, invited⟩ →
          y.seen (.hand g) = [.refused r .closed]) := by
  intro start x t
  obtain ⟨-, hintake, -⟩ := Node.exists_of_openIn hopen
  have hstart : Service.Sound n start {} :=
    Service.sound_start (by rw [hintake]) (by rw [hintake])
  have h : Service.Sound n x t := hstart.run as
  obtain ⟨hrun, hsights⟩ := start.run_unrefused as
  refine ⟨h.accepted_eq, ?_, h.store_eq, hrun, hsights, fun hended => ?_⟩
  · have hroom := h.keeps.room
    unfold Intake.places at hroom
    rw [h.keeps.capacity_eq, hintake] at hroom
    exact Nat.le_trans (Nat.le_add_right _ _) hroom
  · have ho : x.stage.isOver = true := by rw [hended]; rfl
    obtain ⟨-, hq, -⟩ := h.last ho
    have hall := h.accepted_eq
    rw [hq, List.append_nil] at hall
    refine ⟨hq, hall.symm, fun later => ?_⟩
    obtain ⟨hlater, ho'⟩ := h.over_run ho later
    exact ⟨hlater, (h.run later).refuses ho'⟩

/-- A node with room for one request and one peer. -/
def narrow : Settings := { directory := "data", peers := ["b"], intakeCapacity := 1 }

/-- A call is refused for want of room while a push waits; the push is promised the next place and
takes it when the intake is closed already, and then another call is refused. -/
def closing : List Service.Act :=
  [.ask 1700000000000 (.set "k" [1]), .ask 1700000000001 (.set "k" [2]),
    .come (.push ["7 req set j Aw==", "8 req"]), .process, .invite 0, .shutdown, .close,
    .ask 1700000000002 (.delete "k"), .hand 0, .process, .closeLog, .stop 0, .move 0 .halt,
    .conclude]

theorem nothing_lost_closing :
    Node.openIn narrow .empty =
        (.ok (Service.openedOn narrow .empty).node, (Service.openedOn narrow .empty).disk) ∧
      ((Service.openedOn narrow .empty).run closing).stage = .ended ∧
      ((Service.openedOn narrow .empty).tally closing).processed =
        [.set 1700000000000000001 .client "k" [1], .set 7 .peer "j" [3]] ∧
      ((Service.openedOn narrow .empty).tally closing).accepted =
        [.set 1700000000000000001 .client "k" [1], .set 7 .peer "j" [3]] ∧
      ∀ r, ((Service.openedOn narrow .empty).run closing).node.submit r = .error .closed := by
  have hopen := Service.openIn_openedOn (s := narrow) (d := .empty) (by decide +kernel)
  have hended : ((Service.openedOn narrow .empty).run closing).stage = .ended := by
    decide +kernel
  have hprocessed : ((Service.openedOn narrow .empty).tally closing).processed =
      [.set 1700000000000000001 .client "k" [1], .set 7 .peer "j" [3]] := by
    decide +kernel
  obtain ⟨-, -, -, -, -, hend⟩ := nothing_lost hopen closing
  obtain ⟨-, hall, hlater⟩ := hend hended
  obtain ⟨-, hclosed, -, -⟩ := hlater []
  exact ⟨hopen, hended, hprocessed, hall ▸ hprocessed, hclosed⟩

end Replica
