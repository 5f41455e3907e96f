/-
# What a sender does with the records it is offered

A record is in one of three places: in the queue, in the batch that is being collected, or in
the batch that is being delivered.  Offers come at any moment, a window may be over at any
moment, a call may end in any way, and a sender that has been told to stop may still go round
before it does.  **No record is lost, sent twice in different batches or sent out of its turn**
(`sender_conserves`): what was accepted, in the order of its acceptance, is what the batches
were made of.

A sender goes on in one go, by `resume` and `answered`, or move by move.  The former is a run of
moves (`runs_resume`, `runs_answered`); between two moves there may be other offers, a window may
end early and a halt come late.
-/

import Mathlib.Data.List.Nodup
import Replica.Proofs.Sender

namespace Replica

/-! ## 1. Moves and deeds -/

/-- A move of a sender; one that cannot be made where the sender is changes nothing. -/
inductive Move where
  /-- It begins a batch, at first or after a rest. -/
  | begin (now : Moment)
  /-- It takes the next record from the queue into the batch. -/
  | take
  /-- It collects no further: the batch is full, or its window is over, or nothing will come. -/
  | cut (now : Moment)
  /-- It calls again with a batch that was not taken. -/
  | again
  /-- Its call ends. -/
  | answer (now : Moment) (result : Except Error Nat)
  /-- It ends, having been told to stop. -/
  | halt

/-- What happens next to an outbox. -/
inductive Outbox.Turn where
  | offer (record : String)
  | stop
  /-- The sender goes on in one go. -/
  | resume (now : Moment)
  /-- Its call ends, and it goes on in one go. -/
  | answered (now : Moment) (result : Except Error Nat)
  | move (m : Move)

/-- What is seen of an outbox. -/
inductive Deed where
  | accepted (record : String)
  | refused (record : String) (error : Error)
  /-- A batch is complete and goes into delivery. -/
  | handed (batch : List String)
  /-- The peer is called with a batch. -/
  | called (batch : List String)
  /-- A batch was taken. -/
  | delivered (batch : List String)
  /-- A batch was given up. -/
  | abandoned (batch : List String)
deriving DecidableEq

def Deed.isRefusal : Deed → Bool
  | .refused _ _ => true
  | _ => false

/-- The batch that is being collected. -/
def Phase.gathered : Phase → List String
  | .collecting batch _ => batch
  | _ => []

/-- The batch that is being delivered. -/
def Phase.inHand : Phase → List (List String)
  | .calling batch => [batch]
  | .retrying batch _ => [batch]
  | _ => []

namespace Outbox

def move (o : Outbox) : Move → Outbox
  | .begin now =>
    match o.phase with
    | .fresh | .resting _ =>
      { o with phase := .collecting [] (now + o.settings.batchWindow.nanos) }
    | _ => o
  | .take =>
    match o.phase, o.queue with
    | .collecting batch deadline, record :: rest =>
      if batch.length < o.settings.maxBatch then
        { o with queue := rest, phase := .collecting (batch ++ [record]) deadline }
      else o
    | _, _ => o
  | .cut now =>
    match o.phase with
    | .collecting [] _ =>
      if o.stopping then o.halt
      else { o with phase := .resting (now + o.settings.idlePause.nanos) }
    | .collecting batch _ => { o with phase := .calling batch }
    | _ => o
  | .again =>
    match o.phase with
    | .retrying batch _ => { o with phase := .calling batch }
    | _ => o
  | .answer now result =>
    match o.phase with
    | .calling batch =>
      if tookAll batch result then { o with backoff := o.backoff.reset, phase := .fresh }
      else match o.backoff.next with
        | (some delay, backoff) =>
          if o.stopping then o.halt
          else { o with backoff, phase := .retrying batch (now + delay.nanos) }
        | (none, backoff) => { o with backoff := backoff.reset, phase := .fresh }
    | _ => o
  | .halt =>
    match o.phase with
    | .calling _ => o
    | _ => if o.stopping then o.halt else o

def turn (o : Outbox) : Turn → Outbox
  | .offer record => o.offerAny record
  | .stop => o.stop
  | .resume now => o.resume now
  | .answered now result => o.answered now result
  | .move m => o.move m

/-- What is seen of the end of a call. -/
def endDeeds (o : Outbox) (batch : List String) (result : Except Error Nat) : List Deed :=
  if tookAll batch result then [.delivered batch]
  else match o.backoff.next.1 with
    | some _ => []
    | none => [.abandoned batch]

/-- What is seen of a sender that went on, if it has come to call with a new batch. -/
def begun (o : Outbox) : List Deed :=
  match o.inFlight? with
  | some batch => [.handed batch, .called batch]
  | none => []

/-- What is seen of a move. -/
def moveDeeds (o : Outbox) : Move → List Deed
  | .cut _ =>
    match o.phase with
    | .collecting (record :: rest) _ => [.handed (record :: rest), .called (record :: rest)]
    | _ => []
  | .again =>
    match o.phase with
    | .retrying batch _ => [.called batch]
    | _ => []
  | .answer _ result =>
    match o.phase with
    | .calling batch => o.endDeeds batch result
    | _ => []
  | _ => []

/-- What is seen of a turn. -/
def deeds (o : Outbox) : Turn → List Deed
  | .offer record =>
    match o.offer record with
    | .ok _ => [.accepted record]
    | .error e => [.refused record e]
  | .stop => []
  | .resume now =>
    match o.phase with
    | .calling _ => []
    | .retrying _ _ => (o.resume now).inFlight?.toList.map .called
    | _ => (o.resume now).begun
  | .answered now result =>
    match o.phase with
    | .calling batch => o.endDeeds batch result ++ (o.answered now result).begun
    | _ => []
  | .move m => o.moveDeeds m

def after (o : Outbox) (ts : List Turn) : Outbox := ts.foldl turn o

/-- What is seen of an outbox turn by turn. -/
def ledger (o : Outbox) : List Turn → List Deed
  | [] => []
  | t :: ts => o.deeds t ++ (o.turn t).ledger ts

end Outbox

/-- What the deeds of an outbox come to. -/
structure Books where
  /-- The records that were accepted, in order. -/
  accepted : List String := []
  /-- The records that were refused. -/
  refused : List String := []
  /-- The batches that went into delivery, in order. -/
  handed : List (List String) := []
  /-- The batches of the calls, in order. -/
  called : List (List String) := []
  /-- The batches that were taken or given up, in order. -/
  ended : List (List String) := []

namespace Books

def enter (b : Books) : Deed → Books
  | .accepted record => { b with accepted := b.accepted ++ [record] }
  | .refused record _ => { b with refused := b.refused ++ [record] }
  | .handed batch => { b with handed := b.handed ++ [batch] }
  | .called batch => { b with called := b.called ++ [batch] }
  | .delivered batch => { b with ended := b.ended ++ [batch] }
  | .abandoned batch => { b with ended := b.ended ++ [batch] }

def enterAll (b : Books) (ds : List Deed) : Books := ds.foldl enter b

theorem enterAll_append (b : Books) (ds ds' : List Deed) :
    b.enterAll (ds ++ ds') = (b.enterAll ds).enterAll ds' := List.foldl_append

end Books

/-- The books of an outbox that was new. -/
def Outbox.books (o : Outbox) (ts : List Outbox.Turn) : Books := Books.enterAll {} (o.ledger ts)

/-! ## 2. All that a move may do -/

namespace Outbox

/-- What an outbox was, what was seen of it, and what it has become: one of these. -/
inductive Went (o : Outbox) : List Deed → Outbox → Prop where
  | still : Went o [] o
  | begun {deadline : Moment} (hg : o.phase.gathered = []) (hi : o.phase.inHand = [])
      (hs : o.phase ≠ .stopped) : Went o [] { o with phase := .collecting [] deadline }
  | took {batch rest : List String} {record : String} {deadline : Moment}
      (hp : o.phase = .collecting batch deadline) (hq : o.queue = record :: rest)
      (hroom : batch.length < o.settings.maxBatch) :
      Went o [] { o with queue := rest, phase := .collecting (batch ++ [record]) deadline }
  | rested {deadline wakes : Moment} (hp : o.phase = .collecting [] deadline) :
      Went o [] { o with phase := .resting wakes }
  | handed {batch : List String} {deadline : Moment} (hp : o.phase = .collecting batch deadline)
      (hne : batch ≠ []) : Went o [.handed batch, .called batch] { o with phase := .calling batch }
  | again {batch : List String} {wakes : Moment} (hp : o.phase = .retrying batch wakes) :
      Went o [.called batch] { o with phase := .calling batch }
  | failed {batch : List String} {backoff : Backoff} {wakes : Moment}
      (hp : o.phase = .calling batch) :
      Went o [] { o with backoff, phase := .retrying batch wakes }
  | delivered {batch : List String} {backoff : Backoff} (hp : o.phase = .calling batch) :
      Went o [.delivered batch] { o with backoff, phase := .fresh }
  | abandoned {batch : List String} {backoff : Backoff} (hp : o.phase = .calling batch) :
      Went o [.abandoned batch] { o with backoff, phase := .fresh }
  | halted (hs : o.stopping = true) : Went o [] o.halt

attribute [local simp] move moveDeeds

theorem went_begin (o : Outbox) (now : Moment) : Went o [] (o.move (.begin now)) := by
  cases hp : o.phase with
  | fresh =>
    simp only [move, hp]
    exact .begun (by rw [hp]; rfl) (by rw [hp]; rfl) (by simp [hp])
  | resting wakes =>
    simp only [move, hp]
    exact .begun (by rw [hp]; rfl) (by rw [hp]; rfl) (by simp [hp])
  | _ =>
    simp only [move, hp]
    exact .still

theorem went_take (o : Outbox) : Went o [] (o.move .take) := by
  cases hp : o.phase with
  | collecting batch deadline =>
    cases hq : o.queue with
    | nil =>
      simp only [move, hp, hq]
      exact .still
    | cons record rest =>
      simp only [move, hp, hq]
      split
      · next hroom => exact .took hp hq hroom
      · exact .still
  | _ =>
    simp only [move, hp]
    exact .still

theorem went_cut (o : Outbox) (now : Moment) :
    Went o (o.moveDeeds (.cut now)) (o.move (.cut now)) := by
  cases hp : o.phase with
  | collecting batch deadline =>
    cases batch with
    | nil =>
      simp only [move, moveDeeds, hp]
      split
      · next hs => exact .halted hs
      · exact .rested hp
    | cons record rest =>
      simp only [move, moveDeeds, hp]
      exact .handed hp (List.cons_ne_nil record rest)
  | _ =>
    simp only [move, moveDeeds, hp]
    exact .still

theorem went_again (o : Outbox) : Went o (o.moveDeeds .again) (o.move .again) := by
  cases hp : o.phase with
  | retrying batch wakes =>
    simp only [move, moveDeeds, hp]
    exact .again hp
  | _ =>
    simp only [move, moveDeeds, hp]
    exact .still

theorem went_answer (o : Outbox) (now : Moment) (result : Except Error Nat) :
    Went o (o.moveDeeds (.answer now result)) (o.move (.answer now result)) := by
  cases hp : o.phase with
  | calling batch =>
    simp only [move, moveDeeds, endDeeds, hp]
    split
    · exact .delivered hp
    · rcases hnext : o.backoff.next with ⟨_ | delay, backoff⟩
      · exact .abandoned hp
      · simp only
        split
        · next hs => exact .halted hs
        · exact .failed hp
  | _ =>
    simp only [move, moveDeeds, hp]
    exact .still

theorem went_halt (o : Outbox) : Went o [] (o.move .halt) := by
  unfold move
  simp only
  split
  · exact .still
  · split
    · next hs => exact .halted hs
    · exact .still

/-- **A move does one of these**, whatever the outbox is at. -/
theorem went_move (o : Outbox) (m : Move) : Went o (o.moveDeeds m) (o.move m) := by
  cases m with
  | begin now => exact went_begin o now
  | take => exact went_take o
  | cut now => exact went_cut o now
  | again => exact went_again o
  | answer now result => exact went_answer o now result
  | halt => exact went_halt o

theorem Went.settings_eq {o o' : Outbox} {ds : List Deed} (h : Went o ds o') :
    o'.settings = o.settings := by
  cases h <;> rfl

theorem Went.isRefusal {o o' : Outbox} {ds : List Deed} (h : Went o ds o') :
    ∀ d ∈ ds, d.isRefusal = false := by
  cases h <;> simp [Deed.isRefusal]

/-! ## 3. Going on in one go -/

/-- What an outbox was, what was seen of it, and what it has become by moves. -/
inductive Runs : Outbox → List Deed → Outbox → Prop where
  | refl (o : Outbox) : Runs o [] o
  | step (o : Outbox) (m : Move) {ds : List Deed} {o' : Outbox} (h : Runs (o.move m) ds o') :
      Runs o (o.moveDeeds m ++ ds) o'

theorem Runs.trans {o o' o'' : Outbox} {ds ds' : List Deed} (h : Runs o ds o')
    (h' : Runs o' ds' o'') : Runs o (ds ++ ds') o'' := by
  induction h with
  | refl o => exact h'
  | step o m _ ih =>
    rw [List.append_assoc]
    exact .step o m (ih h')

/-- One move, by what is seen of it and what it comes to. -/
theorem runs_move {o o' : Outbox} {ds : List Deed} (m : Move) (hmove : o.move m = o')
    (hds : o.moveDeeds m = ds) : Runs o ds o' := by
  have hrun := Runs.step o m (.refl (o.move m))
  rwa [List.append_nil, hmove, hds] at hrun

theorem Runs.settings_eq {o o' : Outbox} {ds : List Deed} (h : Runs o ds o') :
    o'.settings = o.settings := by
  induction h with
  | refl o => rfl
  | step o m _ ih => exact ih.trans (went_move o m).settings_eq

theorem Runs.isRefusal {o o' : Outbox} {ds : List Deed} (h : Runs o ds o') :
    ∀ d ∈ ds, d.isRefusal = false := by
  induction h with
  | refl o =>
    intro d hd
    cases hd
  | step o m _ ih =>
    intro d hd
    rcases List.mem_append.1 hd with hd | hd
    · exact (went_move o m).isRefusal d hd
    · exact ih d hd

/-- An outbox that is collecting. -/
def gathering (o : Outbox) (batch : List String) (deadline : Moment) : Outbox :=
  { o with phase := .collecting batch deadline }

variable {o : Outbox} {now : Moment}

theorem fill_nil {o : Outbox} (hqueue : o.queue = []) (batch : List String) :
    o.fill batch = (batch, o) := by
  simp only [fill, hqueue, List.take_nil, List.drop_nil, List.append_nil]
  rw [← hqueue]

theorem fill_full {o : Outbox} {batch : List String}
    (hfull : ¬ batch.length < o.settings.maxBatch) : o.fill batch = (batch, o) := by
  simp [fill, Nat.sub_eq_zero_of_le (Nat.not_lt.1 hfull)]

/-- A batch is filled the same with its next record taken first. -/
theorem fill_cons {o : Outbox} {record : String} {rest batch : List String}
    (hqueue : o.queue = record :: rest) (hroom : batch.length < o.settings.maxBatch) :
    ({ o with queue := rest } : Outbox).fill (batch ++ [record]) = o.fill batch := by
  have hsub : o.settings.maxBatch - batch.length =
      (o.settings.maxBatch - (batch ++ [record]).length) + 1 := by
    simp only [List.length_append, List.length_singleton]
    omega
  simp only [fill, hqueue, hsub, List.take_succ_cons, List.drop_succ_cons]
  simp

/-- Taking record by record fills the batch. -/
theorem runs_take (o : Outbox) (batch : List String) (deadline : Moment) :
    Runs (o.gathering batch deadline) []
      ((o.fill batch).2.gathering (o.fill batch).1 deadline) := by
  generalize hqueue : o.queue = queue
  induction queue generalizing o batch with
  | nil =>
    rw [fill_nil hqueue]
    exact .refl _
  | cons record rest ih =>
    by_cases hroom : batch.length < o.settings.maxBatch
    · have htake : (o.gathering batch deadline).move .take =
          ({ o with queue := rest } : Outbox).gathering (batch ++ [record]) deadline := by
        simp [gathering, hqueue, hroom]
      have hrest := ih { o with queue := rest } (batch ++ [record]) rfl
      rw [← htake, fill_cons hqueue hroom] at hrest
      exact .step _ .take hrest
    · rw [fill_full hroom]
      exact .refl _

theorem runs_collect (o : Outbox) (now : Moment) (batch : List String) (deadline : Moment)
    (hs : o.stopping = false) :
    Runs (o.gathering batch deadline) (o.collect now batch deadline).begun
      (o.collect now batch deadline) := by
  have htake := runs_take o batch deadline
  have hstop : (o.fill batch).2.stopping = false := hs
  unfold collect
  generalize o.fill batch = filled at htake hstop ⊢
  obtain ⟨batch', o'⟩ := filled
  simp only at htake hstop ⊢
  split
  · refine htake.trans ?_
    cases batch' with
    | nil => exact runs_move (.cut now) (by simp [gathering, hstop]) rfl
    | cons record rest => exact runs_move (.cut now) rfl rfl
  · exact htake

theorem runs_begin (now : Moment) (hs : o.stopping = false)
    (hbegin : o.move (.begin now) = o.gathering [] (now + o.settings.batchWindow.nanos)) :
    Runs o (o.begin now).begun (o.begin now) := by
  have hcollect := runs_collect o now [] (now + o.settings.batchWindow.nanos) hs
  rw [← hbegin] at hcollect
  exact .step o (.begin now) hcollect

theorem runs_halt (hs : o.stopping = true) (hp : ∀ batch, o.phase ≠ .calling batch) :
    Runs o o.halt.begun o.halt := by
  refine runs_move .halt ?_ rfl
  cases hphase : o.phase with
  | calling batch => exact absurd hphase (hp batch)
  | _ => simp [hphase, hs]

/-- **Going on is a run of moves.** -/
theorem runs_resume (o : Outbox) (now : Moment) :
    Runs o (o.deeds (.resume now)) (o.resume now) := by
  simp only [deeds]
  cases hp : o.phase with
  | calling batch =>
    simp only [resume, hp]
    exact .refl o
  | stopped =>
    simp only [resume, hp, begun, inFlight?]
    exact .refl o
  | fresh =>
    simp only [resume, hp]
    split
    · next hs => exact runs_halt hs (by simp [hp])
    · next hs => exact runs_begin now (by simpa using hs) (by simp [gathering, hp])
  | collecting batch deadline =>
    simp only [resume, hp]
    split
    · next hs => exact runs_halt hs (by simp [hp])
    · next hs =>
      have hsame : o.gathering batch deadline = o := by rw [gathering, ← hp]
      have hcollect := runs_collect o now batch deadline (by simpa using hs)
      rwa [hsame] at hcollect
  | resting wakes =>
    simp only [resume, hp]
    split
    · next hs => exact runs_halt hs (by simp [hp])
    · next hs =>
      split
      · exact runs_begin now (by simpa using hs) (by simp [gathering, hp])
      · simp only [begun, inFlight?, hp]
        exact .refl o
  | retrying batch wakes =>
    simp only [resume, hp]
    split
    · next hs => exact runs_halt hs (by simp [hp])
    · split
      · exact runs_move .again (by simp [hp]) (by simp [hp, inFlight?])
      · simp only [inFlight?, hp]
        exact .refl o

theorem runs_proceed (now : Moment) (hp : o.phase = .fresh) :
    Runs o (o.proceed now).begun (o.proceed now) := by
  unfold proceed
  split
  · next hs => exact runs_halt hs (by simp [hp])
  · next hs => exact runs_begin now (by simpa using hs) (by simp [gathering, hp])

/-- What a sender was at does not matter once it goes on to the next batch. -/
theorem proceed_fresh (o : Outbox) (now : Moment) :
    ({ o with phase := .fresh } : Outbox).proceed now = o.proceed now := rfl

/-- **So is what follows the end of a call.** -/
theorem runs_answered (o : Outbox) (now : Moment) (result : Except Error Nat) :
    Runs o (o.deeds (.answered now result)) (o.answered now result) := by
  simp only [deeds]
  cases hp : o.phase with
  | calling batch =>
    have hdeeds : o.moveDeeds (.answer now result) = o.endDeeds batch result := by
      simp only [moveDeeds, hp]
    -- a delivery that is over is followed by the next batch
    have hnext : ∀ backoff, o.move (.answer now result) = { o with backoff, phase := .fresh } →
        o.answered now result = ({ o with backoff } : Outbox).proceed now →
        Runs o (o.endDeeds batch result ++ (o.answered now result).begun)
          (o.answered now result) := by
      intro backoff hmove hanswered
      have hproceed : Runs { o with backoff, phase := .fresh } (o.answered now result).begun
          (o.answered now result) := by
        rw [hanswered, ← proceed_fresh]
        exact runs_proceed now rfl
      rw [← hmove] at hproceed
      rw [← hdeeds]
      exact .step o (.answer now result) hproceed
    by_cases ht : tookAll batch result = true
    · exact hnext o.backoff.reset (by simp [hp, ht]) (by simp [answered, hp, ht])
    · rcases hdelay : o.backoff.next with ⟨_ | delay, backoff⟩
      · exact hnext backoff.reset (by simp [hp, ht, hdelay])
          (by simp [answered, hp, ht, hdelay])
      · have hmove : o.move (.answer now result) = o.answered now result := by
          simp [answered, hp, ht, hdelay]
        have hnone : (o.answered now result).begun = [] := by
          simp only [answered, hp, ht, hdelay, if_false, Bool.false_eq_true]
          cases o.stopping <;> rfl
        simp only [hnone, List.append_nil]
        exact runs_move (.answer now result) hmove hdeeds
  | _ =>
    simp only [answered, hp]
    exact .refl o

theorem settings_turn (o : Outbox) (t : Turn) : (o.turn t).settings = o.settings := by
  cases t with
  | offer record =>
    cases hoffer : o.offer record with
    | ok o' => simp [turn, offerAny, hoffer, offer_eq_ok hoffer]
    | error e => simp [turn, offerAny, hoffer]
  | stop => rfl
  | resume now => exact (runs_resume o now).settings_eq
  | answered now result => exact (runs_answered o now result).settings_eq
  | move m => exact (went_move o m).settings_eq

theorem settings_after (o : Outbox) (ts : List Turn) : (o.after ts).settings = o.settings := by
  induction ts generalizing o with
  | nil => rfl
  | cons t ts ih => exact (ih (o.turn t)).trans (settings_turn o t)

end Outbox

/-! ## 4. Calls in rounds -/

/-- Whether calls are made with these batches in turn, with each at least once. -/
def Rounds (batches calls : List (List String)) : Prop :=
  ∃ counts : List Nat, counts.length = batches.length ∧ (∀ k ∈ counts, 1 ≤ k) ∧
    calls = (batches.zip counts).flatMap fun (batch, k) => List.replicate k batch

theorem rounds_nil : Rounds [] [] := ⟨[], rfl, by simp, rfl⟩

variable {batches calls : List (List String)} {batch : List String}

theorem Rounds.first (h : Rounds batches calls) : Rounds (batches ++ [batch]) (calls ++ [batch]) := by
  obtain ⟨counts, hlen, hpos, hcalls⟩ := h
  refine ⟨counts ++ [1], by simp [hlen], ?_, ?_⟩
  · intro k hk
    rcases List.mem_append.1 hk with hk | hk
    · exact hpos k hk
    · exact Nat.le_of_eq (List.mem_singleton.1 hk).symm
  · rw [List.zip_append hlen.symm, List.flatMap_append, ← hcalls]
    rfl

theorem Rounds.again (h : Rounds (batches ++ [batch]) calls) :
    Rounds (batches ++ [batch]) (calls ++ [batch]) := by
  obtain ⟨counts, hlen, hpos, hcalls⟩ := h
  rcases counts.eq_nil_or_concat with rfl | ⟨before, k, rfl⟩
  · simp at hlen
  have hbefore : batches.length = before.length := by simpa using hlen.symm
  rw [List.concat_eq_append] at hpos hcalls
  refine ⟨before ++ [k + 1], by simp [hbefore], ?_, ?_⟩
  · intro j hj
    rcases List.mem_append.1 hj with hj | hj
    · exact hpos j (List.mem_append_left _ hj)
    · exact (List.mem_singleton.1 hj) ▸ Nat.le_add_left 1 k
  · rw [List.zip_append hbefore, List.flatMap_append] at hcalls ⊢
    rw [hcalls, List.append_assoc]
    simp [List.replicate_succ']

theorem Rounds.mem_of_mem (h : Rounds batches calls) (hb : batch ∈ calls) : batch ∈ batches := by
  obtain ⟨counts, -, -, rfl⟩ := h
  obtain ⟨⟨b, k⟩, hzip, hrep⟩ := List.mem_flatMap.1 hb
  rw [List.eq_of_mem_replicate hrep]
  exact (List.of_mem_zip hzip).1

/-! ## 5. Where the records are -/

namespace Outbox

/-- **The books of an outbox are in order**: what was accepted is what went into delivery, what
is being collected, and the queue.  A halt drops what is being collected. -/
structure Booked (o : Outbox) (b : Books) : Prop where
  accepted_eq : ∃ dropped, b.accepted = b.handed.flatten ++ dropped ++ o.queue ∧
    (o.phase ≠ .stopped → dropped = o.phase.gathered)
  handed_eq : o.phase ≠ .stopped → b.handed = b.ended ++ o.phase.inHand
  stopping_of_stopped : o.phase = .stopped → o.stopping = true
  handed_size : ∀ batch ∈ b.handed, 1 ≤ batch.length ∧ batch.length ≤ o.settings.maxBatch
  gathered_size : o.phase.gathered.length ≤ o.settings.maxBatch
  queue_size : o.queue.length ≤ o.places
  rounds : Rounds b.handed b.called

theorem booked_new (address : String) (settings : SenderSettings) :
    (new address settings).Booked {} where
  accepted_eq := ⟨[], rfl, fun _ => rfl⟩
  handed_eq := fun _ => rfl
  stopping_of_stopped := nofun
  handed_size := nofun
  gathered_size := Nat.zero_le _
  queue_size := Nat.zero_le _
  rounds := rounds_nil

variable {o o' : Outbox} {b : Books}

/-- What is being delivered is the last of what was handed over. -/
theorem Booked.handed_of_inHand (h : o.Booked b) (hi : o.phase.inHand = [batch]) :
    b.handed = b.ended ++ [batch] := by
  have hs : o.phase ≠ .stopped := by
    intro hs
    rw [hs] at hi
    cases hi
  rw [h.handed_eq hs, hi]

/-- Between deliveries all that was handed over is done with. -/
theorem Booked.handed_of_idle (h : o.Booked b) (hs : o.phase ≠ .stopped)
    (hi : o.phase.inHand = []) : b.handed = b.ended ++ [] := by
  rw [h.handed_eq hs, hi]

/-- Nothing is being collected during a delivery. -/
theorem Booked.accepted_of_inHand (h : o.Booked b) (hi : o.phase.inHand = [batch]) :
    b.accepted = b.handed.flatten ++ [] ++ o.queue := by
  obtain ⟨dropped, hacc, hdropped⟩ := h.accepted_eq
  cases hp : o.phase with
  | calling _ => rw [hacc, hdropped (by simp [hp]), hp]; rfl
  | retrying _ _ => rw [hacc, hdropped (by simp [hp]), hp]; rfl
  | _ =>
    rw [hp] at hi
    cases hi

/-- A batch goes from collecting into delivery. -/
theorem Booked.hand {deadline : Moment} (h : o.Booked b)
    (hp : o.phase = .collecting batch deadline) (hne : batch ≠ []) :
    ({ o with phase := .calling batch } : Outbox).Booked
      { b with handed := b.handed ++ [batch], called := b.called ++ [batch] } := by
  have hs : o.phase ≠ .stopped := by simp [hp]
  obtain ⟨dropped, hacc, hdropped⟩ := h.accepted_eq
  refine ⟨⟨[], ?_, fun _ => rfl⟩, fun _ => ?_, nofun, ?_, Nat.zero_le _, h.queue_size,
    h.rounds.first⟩
  · rw [hacc, hdropped hs, hp]
    simp [Phase.gathered]
  · rw [h.handed_eq hs, hp]
    simp [Phase.inHand]
  · intro other hmem
    rcases List.mem_append.1 hmem with hmem | hmem
    · exact h.handed_size other hmem
    · rw [List.mem_singleton.1 hmem]
      have hle := h.gathered_size
      rw [hp] at hle
      exact ⟨List.length_pos_iff.2 hne, hle⟩

/-- A batch is called with once more. -/
theorem Booked.repeat {wakes : Moment} (h : o.Booked b) (hp : o.phase = .retrying batch wakes) :
    ({ o with phase := .calling batch } : Outbox).Booked
      { b with called := b.called ++ [batch] } := by
  have hi : o.phase.inHand = [batch] := by rw [hp]; rfl
  have hrounds := h.rounds
  rw [h.handed_of_inHand hi] at hrounds
  refine ⟨⟨[], h.accepted_of_inHand hi, fun _ => rfl⟩, fun _ => h.handed_of_inHand hi, nofun,
    h.handed_size, Nat.zero_le _, h.queue_size, ?_⟩
  rw [h.handed_of_inHand hi]
  exact hrounds.again

/-- The delivery of a batch is over, whichever way. -/
theorem Booked.end {backoff : Backoff} (h : o.Booked b) (hp : o.phase = .calling batch) :
    ({ o with backoff, phase := .fresh } : Outbox).Booked
      { b with ended := b.ended ++ [batch] } := by
  have hi : o.phase.inHand = [batch] := by rw [hp]; rfl
  refine ⟨⟨[], h.accepted_of_inHand hi, fun _ => rfl⟩, fun _ => ?_, nofun, h.handed_size,
    Nat.zero_le _, h.queue_size, h.rounds⟩
  rw [h.handed_of_inHand hi]
  exact (List.append_nil _).symm

/-- **A move keeps the books in order.** -/
theorem Booked.went {ds : List Deed} (h : o.Booked b) (hw : Went o ds o') :
    o'.Booked (b.enterAll ds) := by
  obtain ⟨dropped, hacc, hdropped⟩ := h.accepted_eq
  cases hw with
  | still => exact h
  | begun hg hi hs =>
    have hnone : dropped = [] := by rw [hdropped hs, hg]
    exact ⟨⟨dropped, hacc, fun _ => hnone⟩, fun _ => h.handed_of_idle hs hi, nofun,
      h.handed_size, Nat.zero_le _, h.queue_size, h.rounds⟩
  | @took batch rest record deadline hp hq hroom =>
    have hs : o.phase ≠ .stopped := by simp [hp]
    have hi : o.phase.inHand = [] := by rw [hp]; rfl
    refine ⟨⟨batch ++ [record], ?_, fun _ => rfl⟩, fun _ => h.handed_of_idle hs hi, nofun,
      h.handed_size, ?_, ?_, h.rounds⟩
    · have htaken : b.accepted = b.handed.flatten ++ batch ++ (record :: rest) := by
        rw [hacc, hdropped hs, hp, hq]
        rfl
      rw [List.append_cons, List.append_assoc _ batch] at htaken
      exact htaken
    · have hlen : (batch ++ [record]).length = batch.length + 1 := List.length_append
      exact hlen ▸ hroom
    · have hle := h.queue_size
      rw [hq, List.length_cons] at hle
      exact Nat.le_of_succ_le hle
  | rested hp =>
    have hs : o.phase ≠ .stopped := by simp [hp]
    have hi : o.phase.inHand = [] := by rw [hp]; rfl
    have hnone : dropped = [] := by rw [hdropped hs, hp]; rfl
    exact ⟨⟨dropped, hacc, fun _ => hnone⟩, fun _ => h.handed_of_idle hs hi, nofun,
      h.handed_size, Nat.zero_le _, h.queue_size, h.rounds⟩
  | handed hp hne => exact h.hand hp hne
  | again hp => exact h.repeat hp
  | @failed batch backoff wakes hp =>
    have hi : o.phase.inHand = [batch] := by rw [hp]; rfl
    exact ⟨⟨[], h.accepted_of_inHand hi, fun _ => rfl⟩, fun _ => h.handed_of_inHand hi, nofun,
      h.handed_size, Nat.zero_le _, h.queue_size, h.rounds⟩
  | delivered hp => exact h.end hp
  | abandoned hp => exact h.end hp
  | halted hs =>
    exact ⟨⟨dropped, hacc, fun hne => absurd rfl hne⟩, fun hne => absurd rfl hne, fun _ => hs,
      h.handed_size, Nat.zero_le _, h.queue_size, h.rounds⟩

theorem Booked.runs {ds : List Deed} (h : o.Booked b) (hr : Runs o ds o') :
    o'.Booked (b.enterAll ds) := by
  induction hr generalizing b with
  | refl o => exact h
  | step o m _ ih =>
    rw [Books.enterAll_append]
    exact ih (h.went (went_move o m))

theorem Booked.accept {record : String} (h : o.Booked b) (hoffer : o.offer record = .ok o') :
    o'.Booked { b with accepted := b.accepted ++ [record] } := by
  have hroom : o.queue.length < o.places := by
    unfold offer at hoffer
    split at hoffer
    · cases hoffer
    · split at hoffer
      · next hroom => exact hroom
      · cases hoffer
  obtain ⟨dropped, hacc, hdropped⟩ := h.accepted_eq
  rw [offer_eq_ok hoffer]
  refine ⟨⟨dropped, ?_, hdropped⟩, h.handed_eq, h.stopping_of_stopped, h.handed_size,
    h.gathered_size, ?_, h.rounds⟩
  · simp only [hacc, List.append_assoc]
  · have hlen : (o.queue ++ [record]).length = o.queue.length + 1 := List.length_append
    exact hlen ▸ hroom

/-- **A turn keeps the books in order.** -/
theorem Booked.turn (h : o.Booked b) (t : Turn) : (o.turn t).Booked (b.enterAll (o.deeds t)) := by
  cases t with
  | offer record =>
    cases hoffer : o.offer record with
    | ok o' =>
      simp only [Outbox.turn, deeds, offerAny, hoffer]
      exact h.accept hoffer
    | error e =>
      simp only [Outbox.turn, deeds, offerAny, hoffer]
      exact ⟨h.accepted_eq, h.handed_eq, h.stopping_of_stopped, h.handed_size, h.gathered_size,
        h.queue_size, h.rounds⟩
  | stop =>
    exact ⟨h.accepted_eq, h.handed_eq, fun _ => rfl, h.handed_size, h.gathered_size,
      h.queue_size, h.rounds⟩
  | resume now => exact h.runs (runs_resume o now)
  | answered now result => exact h.runs (runs_answered o now result)
  | move m => exact h.went (went_move o m)

theorem Booked.after (h : o.Booked b) (ts : List Turn) :
    (o.after ts).Booked (b.enterAll (o.ledger ts)) := by
  induction ts generalizing o b with
  | nil => exact h
  | cons t ts ih =>
    have hrest := ih (h.turn t)
    rw [← Books.enterAll_append] at hrest
    exact hrest

/-! ## 6. Refusals -/

def isRefused (o : Outbox) : Turn → Bool
  | .offer record => !(o.offer record).toOption.isSome
  | _ => false

/-- The turns without the offers that are refused. -/
def unrefused (o : Outbox) : List Turn → List Turn
  | [] => []
  | t :: ts => if o.isRefused t then o.unrefused ts else t :: (o.turn t).unrefused ts

theorem turn_of_isRefused {t : Turn} (h : o.isRefused t = true) :
    o.turn t = o ∧ ∃ record e, o.deeds t = [.refused record e] := by
  cases t with
  | offer record =>
    cases hoffer : o.offer record with
    | ok o' => simp [isRefused, hoffer, Except.toOption] at h
    | error e => exact ⟨offerAny_of_refused hoffer, record, e, by simp [deeds, hoffer]⟩
  | _ => cases h

theorem isRefusal_of_mem_deeds {t : Turn} (h : o.isRefused t = false) :
    ∀ d ∈ o.deeds t, d.isRefusal = false := by
  cases t with
  | offer record =>
    cases hoffer : o.offer record with
    | ok o' => simp [deeds, hoffer, Deed.isRefusal]
    | error e => simp [isRefused, hoffer, Except.toOption] at h
  | stop =>
    intro d hd
    cases hd
  | resume now => exact (runs_resume o now).isRefusal
  | answered now result => exact (runs_answered o now result).isRefusal
  | move m => exact (went_move o m).isRefusal

/-- **A refused offer has no effect**: without it everything goes the same way. -/
theorem after_unrefused (o : Outbox) (ts : List Turn) :
    o.after (o.unrefused ts) = o.after ts ∧
      o.ledger (o.unrefused ts) = (o.ledger ts).filter (!·.isRefusal) := by
  induction ts generalizing o with
  | nil => exact ⟨rfl, rfl⟩
  | cons t ts ih =>
    cases hr : o.isRefused t with
    | true =>
      obtain ⟨hturn, record, e, hdeeds⟩ := turn_of_isRefused hr
      have hledger : o.ledger (t :: ts) = .refused record e :: o.ledger ts := by
        simp only [ledger, hdeeds, hturn]
        rfl
      have hafter : o.after (t :: ts) = o.after ts := congrArg (Outbox.after · ts) hturn
      have hun : o.unrefused (t :: ts) = o.unrefused ts := by simp [unrefused, hr]
      rw [hledger, hafter, hun]
      exact ih o
    | false =>
      obtain ⟨hafter, hledger⟩ := ih (o.turn t)
      have hun : o.unrefused (t :: ts) = t :: (o.turn t).unrefused ts := by simp [unrefused, hr]
      have hkeep : (o.deeds t).filter (!·.isRefusal) = o.deeds t :=
        List.filter_eq_self.2 fun d hd => by simp [isRefusal_of_mem_deeds hr d hd]
      rw [hun]
      refine ⟨hafter, ?_⟩
      simp only [ledger]
      rw [List.filter_append, hkeep, hledger]

end Outbox

/-! ## 7. Conservation -/

theorem Phase.batch_eq (p : Phase) : p.batch = p.inHand.flatten ++ p.gathered := by
  cases p <;> simp [Phase.batch, Phase.inHand, Phase.gathered]

/-- **What a sender does with the records it is offered.**  The books hold what was seen turn by
turn from the start. -/
theorem sender_conserves (address : String) (settings : SenderSettings) (ts : List Outbox.Turn) :
    let start := Outbox.new address settings
    let o := start.after ts
    let b := start.books ts
    (o.stopping = false → b.accepted = b.ended.flatten ++ o.phase.batch ++ o.queue ∧
      b.handed = b.ended ++ o.phase.inHand) ∧
    (∀ batch ∈ b.handed, 1 ≤ batch.length ∧ batch.length ≤ settings.maxBatch) ∧
    Rounds b.handed b.called ∧
    b.handed.flatten <+: b.accepted ∧
    (b.accepted.Nodup → (b.handed ++ [o.queue]).Pairwise List.Disjoint) ∧
    o.queue.length ≤ max settings.queueCapacity 1 ∧
    (∀ record, record ∉ b.accepted → ∀ batch ∈ b.called, record ∉ batch) ∧
    start.after (start.unrefused ts) = o ∧
    start.ledger (start.unrefused ts) = (start.ledger ts).filter (!·.isRefusal) := by
  intro start o b
  have h : o.Booked b := (Outbox.booked_new address settings).after ts
  have hsettings : o.settings = settings := start.settings_after ts
  obtain ⟨dropped, hacc, hdropped⟩ := h.accepted_eq
  have horder : b.handed.flatten <+: b.accepted := by
    rw [hacc, List.append_assoc]
    exact List.prefix_append _ _
  obtain ⟨hafter, hledger⟩ := start.after_unrefused ts
  refine ⟨fun hs => ?_, ?_, h.rounds, horder, ?_, ?_, ?_, hafter, hledger⟩
  · have hrun : o.phase ≠ .stopped := fun hp => by simp [h.stopping_of_stopped hp] at hs
    refine ⟨?_, h.handed_eq hrun⟩
    rw [hacc, hdropped hrun, h.handed_eq hrun, List.flatten_append, o.phase.batch_eq]
    simp only [List.append_assoc]
  · rw [← hsettings]
    exact h.handed_size
  · intro hnodup
    rw [hacc] at hnodup
    have hparts : ((b.handed ++ [o.queue]).flatten).Nodup := by
      rw [List.flatten_append, List.flatten_singleton]
      exact hnodup.sublist ((List.sublist_append_left _ dropped).append_right o.queue)
    exact (List.nodup_flatten.1 hparts).2
  · have hle := h.queue_size
    unfold Outbox.places at hle
    rwa [hsettings] at hle
  · intro record hnot batch hcalled hmem
    have hhanded : batch ∈ b.handed := h.rounds.mem_of_mem hcalled
    exact hnot (horder.subset (List.mem_flatten.2 ⟨batch, hhanded, hmem⟩))

/-- Two records go out, and once more after a failure; a third finds the queue full, and a
fourth goes into the next batch. -/
def retriedTurns : List Outbox.Turn :=
  [.offer "a", .offer "b", .offer "c", .resume 0, .offer "d", .answered 0 (.error .timeout),
    .resume 1000000000, .answered 1000000000 (.ok 2), .offer "e", .move .take]

theorem sender_conserves_retried :
    let settings : SenderSettings := { queueCapacity := 2, maxBatch := 2 }
    let start := Outbox.new "peer" settings
    let b := start.books retriedTurns
    (start.after retriedTurns).stopping = false ∧ b.accepted.Nodup ∧ "c" ∉ b.accepted ∧
      b.called = [["a", "b"], ["a", "b"]] ∧ b.ended = [["a", "b"]] ∧
      b.accepted = b.ended.flatten ++ (start.after retriedTurns).phase.batch ++
        (start.after retriedTurns).queue ∧
      ∀ batch ∈ b.called, "c" ∉ batch := by
  intro settings start b
  obtain ⟨hall, -, -, -, -, -, hrefused, -⟩ := sender_conserves "peer" settings retriedTurns
  have hstop : (start.after retriedTurns).stopping = false := by decide +kernel
  have hc : "c" ∉ b.accepted := by decide +kernel
  exact ⟨hstop, by decide +kernel, hc, by decide +kernel, by decide +kernel, (hall hstop).1,
    hrefused "c" hc⟩

end Replica
