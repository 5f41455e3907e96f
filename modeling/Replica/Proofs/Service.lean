/-
# A node at work

A node that has been opened, and everything that may happen to it until it has shut down, one
act at a time and **in any order**: clients ask, guests hand requests over and wait for room,
the pipeline takes one request after another, senders go on, snapshots are saved step by step.

To shut down, the pipeline is told to leave; it may still take requests before it closes the
intake; it takes what is left there, also from guests that hold a promise, closes the log and
stops the senders.

What an act may do to what requests depend on is said once (`Service.Change`).
-/

import Mathlib.Data.List.Count
import Replica.Cluster
import Replica.Proofs.Dispatch
import Replica.Proofs.Pipeline

namespace Replica

/-- Why somebody comes to hand requests over, waiting for room before each. -/
inductive Errand where
  | wait (r : Request)
  | push (records : List String)
  | pull (snapshot : Bytes)

/-- The requests of an errand; a snapshot that does not read has none. -/
def Errand.requests : Errand → List Request
  | .wait r => [r]
  | .push records => Node.pushed records
  | .pull snapshot =>
    match Store.ofSnapshot snapshot with
    | .ok s => Node.pulled s
    | .error _ => []

/-- Somebody who hands requests over. -/
structure Guest where
  left : List Request
  /-- Whether the next place in the intake has been promised. -/
  invited : Bool := false

/-- A node at work. -/
structure Service where
  node : Node
  disk : Disk
  stage : Stage := .running
  /-- All who ever came; those who left have nothing left. -/
  guests : List Guest := []
  /-- What each saving of the snapshot has still to do. -/
  saves : List (List Disk.Step) := []

/-- What may happen next.  Guests, outboxes and savings go by their places. -/
inductive Service.Act where
  /-- A client asks when the clock reads `millis`. -/
  | ask (millis : Int64) (call : Call)
  /-- A version is drawn and nothing asked. -/
  | stamp (millis : Int64)
  | submit (r : Request)
  | come (errand : Errand)
  /-- A guest is promised the next place. -/
  | invite (guest : Nat)
  /-- A guest hands its next request over, if it may. -/
  | hand (guest : Nat)
  /-- A guest is told that the intake is closed, although it may hold a promise. -/
  | turnAway (guest : Nat)
  /-- A guest goes away by itself. -/
  | leave (guest : Nat)
  /-- The pipeline takes the next request. -/
  | process
  | watch (key : String)
  | hear (ticket : Nat)
  | forget (ticket : Nat)
  /-- A sender makes a move. -/
  | move (outbox : Nat) (m : Move)
  /-- The snapshot is taken, to be saved step by step. -/
  | persist
  /-- A saving takes its next step. -/
  | save (saving : Nat)
  /-- The pipeline is told to leave. -/
  | shutdown
  /-- The pipeline closes the intake. -/
  | close
  /-- The pipeline has taken all and closes the log. -/
  | closeLog
  /-- A sender is told to stop. -/
  | stop (outbox : Nat)
  /-- All senders have stopped. -/
  | conclude

/-- What is seen of requests. -/
inductive Sight where
  | accepted (r : Request)
  | refused (r : Request) (error : Error)
  | processed (r : Request)
deriving DecidableEq

def Sight.isRefusal : Sight → Bool
  | .refused _ _ => true
  | _ => false

/-- Whether the pipeline is past its last request. -/
def Stage.isOver : Stage → Bool
  | .stopping => true
  | .ended => true
  | _ => false

/-- **How a node is opened**: its directory is made, its snapshot restored, and its log opened. -/
theorem Node.exists_of_openIn {s : Settings} {d d' : Disk} {n : Node}
    (h : Node.openIn s d = (.ok n, d')) :
    n.settings = s ∧ n.intake = { capacity := s.intakeCapacity } ∧
      ∃ d₁, d.makeDirs (Path.ofText s.directory) = .ok d₁ ∧ Node.restore d₁ s = .ok n.store ∧
        Log.openAt d₁ (Path.ofText s.logPath) = (.ok n.log, d') := by
  unfold Node.openIn at h
  split at h
  · cases h
  · split at h
    · cases h
    · next d₁ hmake =>
      split at h
      · cases h
      · next store hrestore =>
        split at h
        · cases h
        · next log d₂ hlog =>
          simp only [Prod.mk.injEq, Except.ok.injEq] at h
          obtain ⟨rfl, rfl⟩ := h
          exact ⟨rfl, rfl, d₁, hmake, hrestore, hlog⟩

namespace Service

/-! ## 1. What an act does -/

def withNode (x : Service) (n : Node) : Service := { x with node := n }

def withIntake (x : Service) (i : Intake) : Service := x.withNode { x.node with intake := i }

def withOutbox (x : Service) (i : Nat) (o : Outbox) : Service :=
  x.withNode { x.node with outboxes := x.node.outboxes.set i o }

def withNotices (x : Service) (n : Notices) : Service := x.withNode { x.node with notices := n }

/-- A guest goes away; a promise it holds is free again. -/
def dismiss (x : Service) (g : Nat) (guest : Guest) : Service :=
  { x.withIntake (if guest.invited then x.node.intake.breakPromise else x.node.intake) with
    guests := x.guests.set g { left := [] } }

/-- A guest hands a request over, and with it its promise. -/
def receive (x : Service) (g : Nat) (i : Intake) (rest : List Request) : Service :=
  { x.withIntake i with guests := x.guests.set g { left := rest } }

/-- The pipeline processes the first request of the queue. -/
def takeNext (x : Service) (r : Request) (rest : List Request) : Service :=
  let after := { x.node with intake := { x.node.intake with queue := rest } }.process x.disk r
  { x with node := after.1, disk := after.2 }

section

variable (x : Service) (r : Request) (rest : List Request)

@[simp] theorem intake_takeNext :
    (x.takeNext r rest).node.intake = { x.node.intake with queue := rest } :=
  Node.intake_process _ x.disk r

@[simp] theorem store_takeNext :
    (x.takeNext r rest).node.store = (x.node.store.apply r).2 := Node.store_process _ x.disk r

@[simp] theorem settings_takeNext : (x.takeNext r rest).node.settings = x.node.settings :=
  Node.settings_process _ x.disk r

@[simp] theorem log_takeNext : (x.takeNext r rest).node.log = x.node.log :=
  Node.log_process _ x.disk r

end

theorem disk_takeNext {x : Service} {r : Request} {d : Disk} (rest : List Request)
    (h : x.node.log.append x.disk r = .ok d) : (x.takeNext r rest).disk = d := by
  simp only [takeNext, Node.process, h, Except.toOption, Option.getD_some]

def step (x : Service) : Act → Service
  | .ask millis call => x.withNode (x.node.ask millis call).2
  | .stamp millis => x.withNode (x.node.nextVersion millis).2
  | .submit r =>
    match x.node.submit r with
    | .ok n => x.withNode n
    | .error _ => x
  | .come errand => { x with guests := x.guests ++ [{ left := errand.requests }] }
  | .invite g =>
    match x.guests[g]? with
    | some guest =>
      if guest.invited || guest.left.isEmpty || x.node.intake.closed || !x.node.intake.hasRoom then x
      else { x.withIntake x.node.intake.promise with
        guests := x.guests.set g { guest with invited := true } }
    | none => x
  | .hand g =>
    match x.guests[g]? with
    | some ⟨r :: rest, true⟩ => x.receive g (x.node.intake.keepPromise r) rest
    | some ⟨r :: rest, false⟩ =>
      match x.node.intake.submit r with
      | .ok i => x.receive g i rest
      | .error .closed => x.dismiss g ⟨r :: rest, false⟩
      | .error _ => x
    | _ => x
  | .turnAway g =>
    match x.guests[g]? with
    | some guest => if x.node.intake.closed then x.dismiss g guest else x
    | none => x
  | .leave g =>
    match x.guests[g]? with
    | some guest => x.dismiss g guest
    | none => x
  | .process =>
    match x.node.advance? x.disk with
    | some (node, disk) => { x with node, disk }
    | none => x
  | .watch key => x.withNotices (x.node.notices.draw key).2
  | .hear ticket => x.withNotices (x.node.notices.take ticket).2
  | .forget ticket => x.withNotices (x.node.notices.giveUp ticket)
  | .move i m =>
    match x.node.outboxes[i]? with
    | some o => x.withOutbox i (o.move m)
    | none => x
  | .persist => { x with saves := x.saves ++ [x.node.saveSteps] }
  | .save i =>
    match x.saves[i]? with
    | some (s :: rest) =>
      match x.disk.step s with
      | .ok disk => { x with disk, saves := x.saves.set i rest }
      | .error _ => { x with saves := x.saves.set i [] }
    | _ => x
  | .shutdown => if x.stage = .running then { x with stage := .leaving } else x
  | .close => if x.stage = .leaving then x.withIntake x.node.intake.close else x
  | .closeLog =>
    if x.stage = .leaving ∧ x.node.intake.closed = true ∧ x.node.intake.queue = [] ∧
        x.node.intake.promised = 0 then
      { x.withNode { x.node with log := (x.node.log.close x.disk).2 } with stage := .stopping }
    else x
  | .stop i =>
    match x.node.outboxes[i]? with
    | some o => if x.stage = .stopping then x.withOutbox i o.stop else x
    | none => x
  | .conclude =>
    if x.stage = .stopping ∧ ∀ o ∈ x.node.outboxes, o.phase = .stopped then
      { x with stage := .ended }
    else x

/-- What is seen of an act. -/
def seen (x : Service) : Act → List Sight
  | .ask millis call =>
    match (x.node.ask millis call).1 with
    | .ok v => [.accepted (call.request v)]
    | .error .queueFull => [.refused (call.request (x.node.nextVersion millis).1) .queueFull]
    | .error .closed => [.refused (call.request (x.node.nextVersion millis).1) .closed]
    | .error _ => []
  | .submit r =>
    match x.node.submit r with
    | .ok _ => [.accepted r]
    | .error e => [.refused r e]
  | .hand g =>
    match x.guests[g]? with
    | some ⟨r :: _, true⟩ => [.accepted r]
    | some ⟨r :: _, false⟩ =>
      match x.node.intake.submit r with
      | .ok _ => [.accepted r]
      | .error .closed => [.refused r .closed]
      | .error _ => []
    | _ => []
  | .turnAway g =>
    match x.guests[g]? with
    | some ⟨r :: _, _⟩ => if x.node.intake.closed then [.refused r .closed] else []
    | _ => []
  | .process =>
    match x.node.intake.queue with
    | r :: _ => [.processed r]
    | [] => []
  | _ => []

def run (x : Service) (as : List Act) : Service := as.foldl step x

/-- What is seen act by act. -/
def sights (x : Service) : List Act → List Sight
  | [] => []
  | a :: as => x.seen a ++ (x.step a).sights as

theorem run_append (x : Service) (as as' : List Act) :
    x.run (as ++ as') = (x.run as).run as' := List.foldl_append

theorem sights_append (x : Service) (as as' : List Act) :
    x.sights (as ++ as') = x.sights as ++ (x.run as).sights as' := by
  induction as generalizing x with
  | nil => rfl
  | cons a as ih => simp only [List.cons_append, sights, ih, List.append_assoc]; rfl

/-! ## 2. All that an act may do -/

/-- How many guests hold a promise. -/
def invitedAmong (guests : List Guest) : Nat := guests.countP Guest.invited

/-- A node of which nothing has changed that lasts. -/
structure Still (n' n : Node) : Prop where
  store : n'.store = n.store
  settings : n'.settings = n.settings
  log : n'.log = n.log

theorem Still.refl (n : Node) : Still n n := ⟨rfl, rfl, rfl⟩

/-- **What a node was, what was seen of it, and what it has become**: one of these. -/
inductive Change (x : Service) : List Sight → Service → Prop where
  /-- Nothing that requests depend on. -/
  | quiet {ss : List Sight} {n : Node} {guests : List Guest} {stage : Stage}
      (hss : ∀ s ∈ ss, s.isRefusal = true) (hn : Still n x.node)
      (hi : n.intake = x.node.intake) (hg : invitedAmong guests = invitedAmong x.guests)
      (hs : stage.isOver = x.stage.isOver) : Change x ss { x with node := n, guests, stage }
  /-- A request finds room. -/
  | entered {r : Request} {n : Node} {guests : List Guest} (hc : x.node.intake.closed = false)
      (hroom : x.node.intake.hasRoom = true) (hn : Still n x.node)
      (hi : n.intake = x.node.intake.enqueue r)
      (hg : invitedAmong guests = invitedAmong x.guests) :
      Change x [.accepted r] { x with node := n, guests }
  /-- A request takes the place that was promised. -/
  | kept {r : Request} {n : Node} {guests : List Guest} (hn : Still n x.node)
      (hi : n.intake = x.node.intake.keepPromise r)
      (hg : invitedAmong guests + 1 = invitedAmong x.guests) :
      Change x [.accepted r] { x with node := n, guests }
  /-- A place is promised. -/
  | promised {n : Node} {guests : List Guest} (hc : x.node.intake.closed = false)
      (hroom : x.node.intake.hasRoom = true) (hn : Still n x.node)
      (hi : n.intake = x.node.intake.promise)
      (hg : invitedAmong guests = invitedAmong x.guests + 1) :
      Change x [] { x with node := n, guests }
  /-- A promise is given back. -/
  | released {ss : List Sight} {n : Node} {guests : List Guest}
      (hss : ∀ s ∈ ss, s.isRefusal = true) (hn : Still n x.node)
      (hi : n.intake = x.node.intake.breakPromise)
      (hg : invitedAmong guests + 1 = invitedAmong x.guests) :
      Change x ss { x with node := n, guests }
  | processed {r : Request} {rest : List Request} (hq : x.node.intake.queue = r :: rest) :
      Change x [.processed r] (x.takeNext r rest)
  | closed : Change x [] (x.withIntake x.node.intake.close)
  /-- The log is closed behind the last request. -/
  | sealed (hc : x.node.intake.closed = true) (hq : x.node.intake.queue = [])
      (hp : x.node.intake.promised = 0) :
      Change x [] { x.withNode { x.node with log := (x.node.log.close x.disk).2 } with
        stage := .stopping }
  /-- A saving begins, goes on or fails. -/
  | saved {disk : Disk} {saves : List (List Disk.Step)}
      (hd : disk = x.disk ∨ ∃ steps ∈ x.saves, ∃ s ∈ steps, x.disk.step s = .ok disk)
      (hs : ∀ steps ∈ saves, steps = x.node.saveSteps ∨ ∃ old ∈ x.saves, steps ⊆ old) :
      Change x [] { x with disk, saves }

variable {x : Service}

theorem Change.same (x : Service) : Change x [] x := .quiet nofun (.refl _) rfl rfl rfl

theorem change_withNode {n : Node} {ss : List Sight} (hss : ∀ s ∈ ss, s.isRefusal = true)
    (hn : Still n x.node) (hi : n.intake = x.node.intake) : Change x ss (x.withNode n) :=
  .quiet hss hn hi rfl rfl

/-- A guest in place of another changes the count of promises by what the two hold. -/
theorem invitedAmong_set {guests : List Guest} {g : Nat} {guest : Guest} (guest' : Guest)
    (h : guests[g]? = some guest) :
    invitedAmong (guests.set g guest') + (if guest.invited then 1 else 0) =
      invitedAmong guests + (if guest'.invited then 1 else 0) := by
  obtain ⟨hlt, rfl⟩ := List.getElem?_eq_some_iff.1 h
  have hset := List.countP_set (p := Guest.invited) (a := guest') hlt
  have hpos : guests[g].invited = true → 0 < guests.countP Guest.invited := fun hinv =>
    List.countP_pos_iff.2 ⟨_, List.getElem_mem hlt, hinv⟩
  unfold invitedAmong
  rw [hset]
  by_cases hinv : guests[g].invited = true
  · have hp := hpos hinv
    simp only [hinv, if_true]
    omega
  · simp only [hinv, if_false, Bool.false_eq_true]
    omega

/-- **An intake takes a request** only if it is open and has room. -/
theorem submit_eq_ok {i i' : Intake} {r : Request} (h : i.submit r = .ok i') :
    i.closed = false ∧ i.hasRoom = true ∧ i' = i.enqueue r := by
  unfold Intake.submit at h
  split at h
  · cases h
  · next hc =>
    split at h
    · next hroom => exact ⟨by simpa using hc, hroom, (Except.ok.inj h).symm⟩
    · cases h

/-! ### Clients -/

-- Every lemma from here on opens both at one act: their equations are made once, here.
attribute [local simp] step seen

/-- What a refused call costs is a stamp. -/
theorem ask_eq_queueFull_or_closed {n n' : Node} {millis : Int64} {call : Call} {e : Error}
    (h : n.ask millis call = (.error e, n')) (he : e = .queueFull ∨ e = .closed) :
    n' = (n.nextVersion millis).2 := by
  rw [Node.ask_eq_stamp] at h
  unfold Node.stamp at h
  split at h
  · simp only [Prod.mk.injEq, Except.error.injEq] at h
    rcases he with rfl | rfl
    · cases h.1
    · cases h.1
  · cases hsub : (n.nextVersion millis).2.submit (call.request (n.nextVersion millis).1) with
    | ok m => simp [hsub] at h
    | error e' =>
      simp only [hsub, Prod.mk.injEq] at h
      exact h.2.symm

theorem still_of_ask_error {n n' : Node} {millis : Int64} {call : Call} {e : Error}
    (h : n.ask millis call = (.error e, n')) : Still n' n ∧ n'.intake = n.intake := by
  obtain ⟨ticker, rfl⟩ := Node.ask_eq_error h
  exact ⟨⟨rfl, rfl, rfl⟩, rfl⟩

theorem change_ask (x : Service) (millis : Int64) (call : Call) :
    Change x (x.seen (.ask millis call)) (x.step (.ask millis call)) := by
  simp only [seen, step]
  rcases hask : x.node.ask millis call with ⟨e | v, n⟩
  · obtain ⟨hstill, hintake⟩ := still_of_ask_error hask
    refine change_withNode (fun s hs => ?_) hstill hintake
    simp only at hs
    split at hs <;> simp_all [Sight.isRefusal]
  · obtain ⟨-, -, hsub⟩ := Node.ask_eq_ok hask
    obtain ⟨hc, hroom, rfl⟩ := Node.submit_eq_ok hsub
    exact .entered (n := { (x.node.nextVersion millis).2 with
      intake := x.node.intake.enqueue (call.request v) }) hc hroom ⟨rfl, rfl, rfl⟩ rfl rfl

theorem change_submit (x : Service) (r : Request) :
    Change x (x.seen (.submit r)) (x.step (.submit r)) := by
  simp only [seen, step]
  cases hsub : x.node.submit r with
  | error e => exact change_withNode (by simp [Sight.isRefusal]) (.refl _) rfl
  | ok n =>
    obtain ⟨hc, hroom, rfl⟩ := Node.submit_eq_ok hsub
    exact .entered hc hroom ⟨rfl, rfl, rfl⟩ rfl rfl

/-! ### Guests -/

theorem change_come (x : Service) (errand : Errand) : Change x [] (x.step (.come errand)) := by
  refine .quiet nofun (.refl _) rfl ?_ rfl
  simp [invitedAmong, List.countP_append]

theorem change_dismiss {g : Nat} {guest : Guest} {ss : List Sight}
    (hss : ∀ s ∈ ss, s.isRefusal = true) (h : x.guests[g]? = some guest) :
    Change x ss (x.dismiss g guest) := by
  have hcount := invitedAmong_set { left := [] } h
  unfold dismiss
  cases hinv : guest.invited with
  | true =>
    simp only [hinv, if_true, Bool.false_eq_true, if_false] at hcount ⊢
    exact .released hss ⟨rfl, rfl, rfl⟩ rfl hcount
  | false =>
    simp only [hinv, Bool.false_eq_true, if_false] at hcount ⊢
    exact .quiet hss ⟨rfl, rfl, rfl⟩ rfl hcount rfl

theorem change_invite (x : Service) (g : Nat) : Change x [] (x.step (.invite g)) := by
  simp only [step]
  split
  · next guest hg =>
    split
    · exact .same x
    · next hmay =>
      simp only [Bool.or_eq_true, Bool.not_eq_true', not_or, Bool.not_eq_true,
        Bool.not_eq_false] at hmay
      obtain ⟨⟨⟨hinv, -⟩, hc⟩, hroom⟩ := hmay
      have hcount := invitedAmong_set { guest with invited := true } hg
      simp only [hinv, Bool.false_eq_true, if_false, if_true] at hcount
      exact .promised hc hroom ⟨rfl, rfl, rfl⟩ rfl hcount
  · exact .same x

theorem change_hand (x : Service) (g : Nat) : Change x (x.seen (.hand g)) (x.step (.hand g)) := by
  simp only [seen, step]
  split
  · next r rest hg =>
    have hcount := invitedAmong_set { left := rest } hg
    simp only [Bool.false_eq_true, if_false, if_true] at hcount
    exact .kept ⟨rfl, rfl, rfl⟩ rfl hcount
  · next r rest hg =>
    have hcount := invitedAmong_set { left := rest } hg
    simp only [Bool.false_eq_true, if_false] at hcount
    cases hsub : x.node.intake.submit r with
    | ok i =>
      obtain ⟨hc, hroom, rfl⟩ := submit_eq_ok hsub
      exact .entered hc hroom ⟨rfl, rfl, rfl⟩ rfl hcount
    | error e =>
      cases e with
      | closed => exact change_dismiss (by simp [Sight.isRefusal]) hg
      | _ => exact .same x
  · exact .same x

theorem change_turnAway (x : Service) (g : Nat) :
    Change x (x.seen (.turnAway g)) (x.step (.turnAway g)) := by
  simp only [seen, step]
  cases hg : x.guests[g]? with
  | none => exact .same x
  | some guest =>
    by_cases hc : x.node.intake.closed = true
    · simp only [hc, if_true]
      refine change_dismiss (fun s hs => ?_) hg
      split at hs <;> simp_all [Sight.isRefusal]
    · simp only [hc, Bool.false_eq_true, if_false]
      obtain ⟨left, inv⟩ := guest
      cases left <;> exact .same x

theorem change_leave (x : Service) (g : Nat) : Change x [] (x.step (.leave g)) := by
  simp only [step]
  split
  · next guest hg => exact change_dismiss nofun hg
  · exact .same x

/-! ### The pipeline -/

theorem change_process (x : Service) : Change x (x.seen .process) (x.step .process) := by
  simp only [seen, step]
  cases hq : x.node.intake.queue with
  | nil =>
    rw [Node.advance?_of_nil x.disk hq]
    exact .same x
  | cons r rest =>
    rw [Node.advance?_of_cons x.disk hq]
    exact .processed hq

theorem change_closeLog (x : Service) : Change x [] (x.step .closeLog) := by
  simp only [step]
  split
  · next h => exact .sealed h.2.1 h.2.2.1 h.2.2.2
  · exact .same x

theorem change_close (x : Service) : Change x [] (x.step .close) := by
  simp only [step]
  split
  · exact .closed
  · exact .same x

theorem change_shutdown (x : Service) : Change x [] (x.step .shutdown) := by
  simp only [step]
  split
  · next h => exact .quiet nofun (.refl _) rfl rfl (by rw [h]; rfl)
  · exact .same x

theorem change_conclude (x : Service) : Change x [] (x.step .conclude) := by
  simp only [step]
  split
  · next h => exact .quiet nofun (.refl _) rfl rfl (by rw [h.1]; rfl)
  · exact .same x

/-! ### Senders and savings -/

theorem change_withOutbox (x : Service) (i : Nat) (o : Outbox) : Change x [] (x.withOutbox i o) :=
  change_withNode nofun ⟨rfl, rfl, rfl⟩ rfl

theorem change_move (x : Service) (i : Nat) (m : Move) : Change x [] (x.step (.move i m)) := by
  simp only [step]
  split
  · exact change_withOutbox x i _
  · exact .same x

theorem change_stop (x : Service) (i : Nat) : Change x [] (x.step (.stop i)) := by
  simp only [step]
  split
  · split
    · exact change_withOutbox x i _
    · exact .same x
  · exact .same x

theorem change_persist (x : Service) : Change x [] (x.step .persist) := by
  refine .saved (Or.inl rfl) fun steps hsteps => ?_
  rcases List.mem_append.1 hsteps with hold | hnew
  · exact Or.inr ⟨steps, hold, fun _ h => h⟩
  · exact Or.inl (List.mem_singleton.1 hnew)

theorem change_save (x : Service) (i : Nat) : Change x [] (x.step (.save i)) := by
  simp only [step]
  split
  · next s rest hi =>
    have hmem : s :: rest ∈ x.saves := List.mem_of_getElem? hi
    have hset : ∀ later, later ⊆ s :: rest → ∀ steps ∈ x.saves.set i later,
        steps = x.node.saveSteps ∨ ∃ old ∈ x.saves, steps ⊆ old := by
      intro later hlater steps hsteps
      rcases List.mem_or_eq_of_mem_set hsteps with hold | rfl
      · exact Or.inr ⟨steps, hold, fun _ h => h⟩
      · exact Or.inr ⟨_, hmem, hlater⟩
    cases hstep : x.disk.step s with
    | ok disk =>
      exact .saved (Or.inr ⟨_, hmem, s, List.mem_cons_self, hstep⟩)
        (hset rest (List.subset_cons_self s rest))
    | error f => exact .saved (Or.inl rfl) (hset [] (List.nil_subset _))
  · exact .same x

/-- **An act does one of these.** -/
theorem change_step (x : Service) (a : Act) : Change x (x.seen a) (x.step a) := by
  cases a with
  | ask millis call => exact change_ask x millis call
  | stamp millis => exact change_withNode nofun ⟨rfl, rfl, rfl⟩ rfl
  | submit r => exact change_submit x r
  | come errand => exact change_come x errand
  | invite g => exact change_invite x g
  | hand g => exact change_hand x g
  | turnAway g => exact change_turnAway x g
  | leave g => exact change_leave x g
  | process => exact change_process x
  | watch key => exact change_withNode nofun ⟨rfl, rfl, rfl⟩ rfl
  | hear ticket => exact change_withNode nofun ⟨rfl, rfl, rfl⟩ rfl
  | forget ticket => exact change_withNode nofun ⟨rfl, rfl, rfl⟩ rfl
  | move i m => exact change_move x i m
  | persist => exact change_persist x
  | save i => exact change_save x i
  | shutdown => exact change_shutdown x
  | close => exact change_close x
  | closeLog => exact change_closeLog x
  | stop i => exact change_stop x i
  | conclude => exact change_conclude x

/-- A node at the beginning of its work. -/
def openedOn (s : Settings) (d : Disk) : Service where
  node := (Node.openIn s d).1.toOption.getD (.solitary (Fin.last 999))
  disk := (Node.openIn s d).2

theorem openIn_openedOn {s : Settings} {d : Disk}
    (h : (Node.openIn s d).1.toOption.isSome = true) :
    Node.openIn s d = (.ok (openedOn s d).node, (openedOn s d).disk) := by
  unfold openedOn
  rcases hopen : Node.openIn s d with ⟨e | n, d'⟩
  · rw [hopen] at h
    cases h
  · rfl

end Service

end Replica
