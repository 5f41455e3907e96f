/-
# A sender gets on with its queue

A lap of a sender leads from the beginning of a batch to the next beginning.  **If a batch has
room, a lap that begins with records waiting hands some of them over** (`handed_or_collecting`),
so the queue is empty after as many laps as there were records (`Laps.length_queue`), and before a
peer that takes every batch nothing is given up on the way.  If a batch has no room, each lap is
a rest, and whatever was accepted waits for ever (`Idling`).
-/

import Replica.Proofs.Backlog

namespace Replica

open Outbox (tookAll)

/-! ## 1. A lap hands records over -/

/-- What a lap that has begun with records waiting does before it hands some over. -/
structure Rehearsal.Fills (r : Rehearsal) (deadline : Moment) (batch : List String) : Prop where
  phase_eq : r.outbox.phase = .collecting batch deadline
  room : 1 ≤ r.outbox.settings.maxBatch
  waiting : batch ≠ [] ∨ r.outbox.queue ≠ [] ∧ r.now < deadline

namespace Rehearsal

variable {r : Rehearsal}

/-- Time waits for the first record, so the window is not over before it has been taken. -/
theorem Fills.ticks {deadline : Moment} {batch : List String} (h : r.Fills deadline batch)
    {ds : List Deed} {r' : Rehearsal} (ht : Ticks r ds r') :
    (∃ batch', batch' ≠ [] ∧ .handed batch' ∈ ds) ∨ ∃ batch', r'.Fills deadline batch' := by
  have hphase := h.phase_eq
  cases ht with
  | still => exact Or.inr ⟨batch, h⟩
  | passed hle hidle hreach =>
    refine Or.inr ⟨batch, h.phase_eq, h.room, ?_⟩
    rcases h.waiting with hne | ⟨hqueue, -⟩
    · exact Or.inl hne
    · simp [isUrgent, hphase, hqueue] at hidle
  | begun hp => rcases hp with hp | ⟨wakes, hp, -⟩ <;> simp [hphase] at hp
  | took hp hq hroom =>
    rw [hphase] at hp
    cases hp
    exact Or.inr ⟨_, rfl, h.room, Or.inl (by simp)⟩
  | rested hp hcut =>
    rw [hphase] at hp
    cases hp
    rcases h.waiting with hne | ⟨-, hopen⟩
    · exact absurd rfl hne
    · rcases hcut with hnone | hover
      · exact absurd h.room (by omega)
      · exact absurd hopen (Nat.not_lt.2 hover)
  | handed hp hne hcut => exact Or.inl ⟨_, hne, List.mem_cons_self⟩
  | again hp _ => simp [hphase] at hp
  | failed hp _ _ _ _ => simp [hphase] at hp
  | delivered hp _ _ _ => simp [hphase] at hp
  | abandoned hp _ _ _ _ => simp [hphase] at hp

theorem Fills.offer {deadline : Moment} {batch : List String} (h : r.Fills deadline batch)
    (record : String) :
    Fills { r with outbox := r.outbox.offerAny record } deadline batch := by
  have hqueue : r.outbox.queue ≠ [] → (r.outbox.offerAny record).queue ≠ [] := by
    intro hne
    cases hoffer : r.outbox.offer record with
    | ok o =>
      rw [Outbox.offerAny, hoffer, Outbox.offer_eq_ok hoffer]
      exact List.append_ne_nil_of_left_ne_nil hne _
    | error e => rwa [Outbox.offerAny_of_refused hoffer]
  obtain ⟨queue, hsame⟩ := exists_offerAny r.outbox record
  rw [hsame] at hqueue ⊢
  exact ⟨h.phase_eq, h.room, h.waiting.imp_right fun hw => ⟨hqueue hw.1, hw.2⟩⟩

/-- **A lap that begins with records waiting hands some over**, or still collects them. -/
theorem handed_or_collecting (h : r.InTime) (hsize : 1 ≤ r.outbox.settings.maxBatch)
    (hwindow : 0 < r.outbox.settings.batchWindow.nanos) (hbegins : r.Begins)
    (hwaiting : r.outbox.queue ≠ []) (bs : List Beat) :
    (∃ batch, batch ≠ [] ∧ .handed batch ∈ (r.beat .begin).ledger bs) ∨
      ∃ batch, ((r.beat .begin).run bs).Fills
        (r.now + r.outbox.settings.batchWindow.nanos) batch := by
  refine run_induction (P := fun ds r' => (∃ batch, batch ≠ [] ∧ .handed batch ∈ ds) ∨
    ∃ batch, r'.Fills (r.now + r.outbox.settings.batchWindow.nanos) batch) (h.beat .begin) bs
    ?_ ?_ ?_
  · rw [beat_begin hbegins]
    exact Or.inr ⟨[], rfl, hsize, Or.inr ⟨hwaiting, Nat.lt_add_of_pos_right hwindow⟩⟩
  · rintro ds ds' r₁ r₂ - (⟨batch, hne, hmem⟩ | ⟨batch, hfills⟩) ht
    · exact Or.inl ⟨batch, hne, List.mem_append_left _ hmem⟩
    · rcases hfills.ticks ht with ⟨batch', hne, hmem⟩ | hfills'
      · exact Or.inl ⟨batch', hne, List.mem_append_right _ hmem⟩
      · exact Or.inr hfills'
  · rintro ds r₁ record - - (⟨batch, hne, hmem⟩ | ⟨batch, hfills⟩)
    · exact Or.inl ⟨batch, hne, List.mem_append_left _ hmem⟩
    · exact Or.inr ⟨batch, hfills.offer record⟩

end Rehearsal

/-! ## 2. Laps -/

def Deed.isHanded : Deed → Bool
  | .handed _ => true
  | _ => false

namespace Rehearsal

variable {r : Rehearsal}

/-- What has not been handed over. -/
def unhanded (r : Rehearsal) : Nat := r.outbox.phase.gathered.length + r.outbox.queue.length

/-- Every batch that is handed over is paid for with a record. -/
theorem unhanded_ticks {ds : List Deed} {r' : Rehearsal} (h : Ticks r ds r') :
    ds.countP Deed.isHanded + r'.unhanded ≤ r.unhanded := by
  cases h with
  | still => simp
  | passed hle hidle hreach => simp [unhanded]
  | begun hp => simp [unhanded, Phase.gathered]
  | took hp hq hroom =>
    simp [unhanded, Phase.gathered, hp, hq]
    omega
  | rested hp hcut => simp [unhanded, Phase.gathered, hp]
  | @handed batch deadline hp hne hcut =>
    have hone : [Deed.handed batch, .called batch].countP Deed.isHanded = 1 := rfl
    have hpos : 0 < batch.length := List.length_pos_iff.2 hne
    simp only [hone, unhanded, dial, Phase.gathered, hp, List.length_nil, Nat.zero_add]
    exact Nat.add_le_add_right hpos _
  | again hp hdue => simp [unhanded, dial, Phase.gathered, Deed.isHanded]
  | failed hp hcall hends htook hdelay => simp [unhanded, Phase.gathered]
  | delivered hp hcall hends htook => simp [unhanded, Phase.gathered, Deed.isHanded]
  | abandoned hp hcall hends htook hdelay => simp [unhanded, Phase.gathered, Deed.isHanded]

theorem unhanded_run (h : r.InTime) {bs : List Beat} (hquiet : ∀ b ∈ bs, b.isOffer = false) :
    (r.ledger bs).countP Deed.isHanded + (r.run bs).unhanded ≤ r.unhanded := by
  refine run_induction (P := fun ds r' => ds.countP Deed.isHanded + r'.unhanded ≤ r.unhanded) h bs
    (by simp) ?_ ?_
  · intro ds ds' r₁ r₂ _ hle ht
    have hstep := unhanded_ticks ht
    rw [List.countP_append]
    omega
  · intro ds r₁ record hmem
    cases hquiet _ hmem

theorem Begins.gathered_eq (h : r.Begins) : r.outbox.phase.gathered = [] := by
  rcases h with hp | ⟨wakes, hp, -⟩ <;> simp [hp, Phase.gathered]

/-- **A lap leaves one record fewer in the queue**, if there was one. -/
theorem length_queue_lap (h : r.InTime) (hsize : 1 ≤ r.outbox.settings.maxBatch)
    (hwindow : 0 < r.outbox.settings.batchWindow.nanos) {bs : List Beat} (hbegins : r.Begins)
    (hquiet : ∀ b ∈ bs, b.isOffer = false) (hends : ((r.beat .begin).run bs).Begins) :
    ((r.beat .begin).run bs).outbox.queue.length ≤ r.outbox.queue.length - 1 := by
  have hbegin := unhanded_ticks (ticks_begin h)
  have hrun := unhanded_run (h.beat .begin) hquiet
  simp only [unhanded, hends.gathered_eq, hbegins.gathered_eq, List.length_nil] at hbegin hrun
  by_cases hwaiting : r.outbox.queue = []
  · rw [hwaiting, List.length_nil] at hbegin
    omega
  · have hone : 0 < ((r.beat .begin).ledger bs).countP Deed.isHanded := by
      rcases handed_or_collecting h hsize hwindow hbegins hwaiting bs with
        ⟨batch, -, hmem⟩ | ⟨batch, hfills⟩
      · exact List.countP_pos_iff.2 ⟨_, hmem, rfl⟩
      · have hphase := hfills.phase_eq
        rcases hends with hp | ⟨wakes, hp, -⟩ <;> simp [hphase] at hp
    omega

/-- So many laps, one after another, with nothing offered. -/
inductive Laps : Nat → Rehearsal → Rehearsal → Prop where
  | refl (r : Rehearsal) : Laps 0 r r
  | lap {n : Nat} {r r' : Rehearsal} {bs : List Beat} (hbegins : r.Begins)
      (hquiet : ∀ b ∈ bs, b.isOffer = false) (hends : ((r.beat .begin).run bs).Begins)
      (rest : Laps n ((r.beat .begin).run bs) r') : Laps (n + 1) r r'

theorem Laps.exists_run {n : Nat} {r r' : Rehearsal} (h : Laps n r r') :
    ∃ bs : List Beat, (∀ b ∈ bs, b.isOffer = false) ∧ r' = r.run bs := by
  induction h with
  | refl r => exact ⟨[], nofun, rfl⟩
  | @lap n r r' bs hbegins hquiet hends rest ih =>
    obtain ⟨bs', hquiet', rfl⟩ := ih
    refine ⟨.begin :: bs ++ bs', ?_, ?_⟩
    · intro b hmem
      rcases List.mem_append.1 hmem with hmem | hmem
      · rcases List.mem_cons.1 hmem with rfl | hmem
        · rfl
        · exact hquiet b hmem
      · exact hquiet' b hmem
    · rw [run_append]
      rfl

/-- **The queue is empty after as many laps as there were records.** -/
theorem Laps.length_queue {n : Nat} {r r' : Rehearsal} (h : Laps n r r') (hr : r.InTime)
    (hsize : 1 ≤ r.outbox.settings.maxBatch)
    (hwindow : 0 < r.outbox.settings.batchWindow.nanos) :
    r'.outbox.queue.length ≤ r.outbox.queue.length - n := by
  induction h with
  | refl r => exact Nat.le_refl _
  | @lap n r r' bs hbegins hquiet hends rest ih =>
    have hs : ((r.beat .begin).run bs).outbox.settings = r.outbox.settings :=
      settings_run hr (.begin :: bs)
    have hlap := length_queue_lap hr hsize hwindow hbegins hquiet hends
    have hrest := ih ((hr.beat .begin).run bs) (by rw [hs]; exact hsize) (by rw [hs]; exact hwindow)
    omega

end Rehearsal

/-! ## 3. Before a peer that takes every batch -/

/-- A peer that is met so takes every batch there may be. -/
def Reception.Serves (x : Reception) (s : SenderSettings) : Prop :=
  ∀ count ≤ s.maxBatch, x.TakesAll s.callLimit count

/-- Nothing has been given up, and the call in flight will succeed. -/
structure Obliged (s : SenderSettings) (ds : List Deed) (r : Rehearsal) : Prop where
  settings_eq : r.outbox.settings = s
  serves : ∀ x ∈ r.script, x.Serves s
  gathered_le : r.outbox.phase.gathered.length ≤ s.maxBatch
  taking : ∀ batch ends result, r.outbox.phase = .calling batch →
    r.pending = some (ends, result) → tookAll batch result = true
  not_retrying : ∀ batch wakes, r.outbox.phase ≠ .retrying batch wakes
  kept : ∀ batch, Deed.abandoned batch ∉ ds

namespace Obliged

variable {s : SenderSettings} {ds : List Deed} {r : Rehearsal}

theorem new (address : String) {script : List Reception} (h : ∀ x ∈ script, x.Serves s) :
    Obliged s [] (.new address s script) :=
  ⟨rfl, h, Nat.zero_le _, nofun, nofun, nofun⟩

/-- What is seen from now on. -/
theorem forget (h : Obliged s ds r) : Obliged s [] r :=
  ⟨h.settings_eq, h.serves, h.gathered_le, h.taking, h.not_retrying, nofun⟩

/-- The sender goes about with no batch in its hand. -/
theorem idle (h : Obliged s ds r) {queue : List String} {backoff : Backoff} {phase : Phase}
    {pending : Option (Moment × Except Error Nat)} (hhand : phase.inHand = [])
    (hle : phase.gathered.length ≤ s.maxBatch) :
    Obliged s ds { r with pending, outbox := { r.outbox with queue, backoff, phase } } where
  settings_eq := h.settings_eq
  serves := h.serves
  gathered_le := hle
  taking := by
    rintro batch ends result rfl -
    cases hhand
  not_retrying := by
    rintro batch wakes rfl
    cases hhand
  kept := h.kept

/-- The call with a batch succeeds; beyond the script every batch is taken. -/
theorem dial (h : Obliged s ds r) {batch : List String} (hle : batch.length ≤ s.maxBatch) :
    Obliged s ds (r.dial batch) where
  settings_eq := h.settings_eq
  serves := by
    intro x hmem
    exact h.serves x (List.mem_of_mem_drop hmem)
  gathered_le := Nat.zero_le _
  taking := by
    rintro batch' ends result ⟨⟩ hcall
    have hnext : (r.script.headD {}).Serves s := by
      cases hscript : r.script with
      | nil => exact fun count _ => Rehearsal.takesAll_default _ count
      | cons x rest => exact h.serves x (by rw [hscript]; exact List.mem_cons_self)
    have htook := (hnext batch.length hle).tookAll_eq r.now
    rw [← h.settings_eq] at htook
    have hsame : _ = result := congrArg Prod.snd (Option.some.inj hcall)
    rwa [← hsame]
  not_retrying := by
    intro batch' wakes hp
    cases hp
  kept := h.kept

theorem seen (h : Obliged s ds r) {ds' : List Deed}
    (hkept : ∀ batch, Deed.abandoned batch ∉ ds') : Obliged s (ds ++ ds') r := by
  refine ⟨h.settings_eq, h.serves, h.gathered_le, h.taking, h.not_retrying, ?_⟩
  intro batch hmem
  exact (List.mem_append.1 hmem).elim (h.kept batch) (hkept batch)

theorem ticks (h : Obliged s ds r) {ds' : List Deed} {r' : Rehearsal}
    (ht : Rehearsal.Ticks r ds' r') : Obliged s (ds ++ ds') r' := by
  cases ht with
  | still => rwa [List.append_nil]
  | passed hle hidle hreach =>
    rw [List.append_nil]
    exact ⟨h.settings_eq, h.serves, h.gathered_le, h.taking, h.not_retrying, h.kept⟩
  | begun hp =>
    rw [List.append_nil]
    exact h.idle rfl (Nat.zero_le _)
  | took hp hq hroom =>
    rw [h.settings_eq] at hroom
    rw [List.append_nil]
    refine h.idle rfl ?_
    simp only [Phase.gathered, List.length_append, List.length_singleton]
    exact hroom
  | rested hp hcut =>
    rw [List.append_nil]
    exact h.idle rfl (Nat.zero_le _)
  | handed hp hne hcut =>
    have hle := h.gathered_le
    rw [hp] at hle
    exact (h.dial hle).seen (by simp)
  | again hp hdue => exact absurd hp (h.not_retrying _ _)
  | failed hp hcall hends htook hdelay =>
    rw [h.taking _ _ _ hp hcall] at htook
    cases htook
  | delivered hp hcall hends htook => exact (h.idle rfl (Nat.zero_le _)).seen (by simp)
  | abandoned hp hcall hends htook hdelay =>
    rw [h.taking _ _ _ hp hcall] at htook
    cases htook

theorem offer (h : Obliged s ds r) (record : String) :
    Obliged s (ds ++ r.deeds (.offer record))
      { r with outbox := r.outbox.offerAny record } := by
  have hnone : ∀ batch, Deed.abandoned batch ∉ r.deeds (.offer record) := by
    intro batch
    rw [Rehearsal.deeds_offer]
    cases hoffer : r.outbox.offer record <;> simp [Outbox.deeds, hoffer]
  obtain ⟨queue, hqueue⟩ := Rehearsal.exists_offerAny r.outbox record
  rw [hqueue]
  have hqueued : Obliged s ds { r with outbox := { r.outbox with queue } } :=
    ⟨h.settings_eq, h.serves, h.gathered_le, h.taking, h.not_retrying, h.kept⟩
  exact hqueued.seen hnone

theorem run (h : Obliged s [] r) (hr : r.InTime) (bs : List Beat) :
    Obliged s (r.ledger bs) (r.run bs) :=
  Rehearsal.run_induction (P := Obliged s) hr bs h (fun _ h ht => h.ticks ht)
    fun _ _ h => h.offer _

end Obliged

/-! ## 4. If a batch has no room -/

/-- The record that was accepted. -/
def Deed.accepted? : Deed → Option String
  | .accepted record => some record
  | _ => none

/-- The sender rests and looks, and rests again; all that was accepted waits. -/
structure Idling (waiting : List String) (ds : List Deed) (r : Rehearsal) : Prop where
  no_room : r.outbox.settings.maxBatch = 0
  gathered_eq : r.outbox.phase.gathered = []
  inHand_eq : r.outbox.phase.inHand = []
  calls_eq : r.calls = []
  kept : ∀ batch, Deed.handed batch ∉ ds
  queue_eq : r.outbox.queue = waiting ++ ds.filterMap Deed.accepted?

namespace Idling

variable {waiting : List String} {ds : List Deed} {r : Rehearsal}

theorem new (address : String) {s : SenderSettings} (h : s.maxBatch = 0)
    (script : List Reception) : Idling [] [] (.new address s script) :=
  ⟨h, rfl, rfl, rfl, nofun, rfl⟩

theorem ticks (h : Idling waiting ds r) {ds' : List Deed} {r' : Rehearsal}
    (ht : Rehearsal.Ticks r ds' r') : Idling waiting (ds ++ ds') r' := by
  have hgathered := h.gathered_eq
  have hhand := h.inHand_eq
  cases ht with
  | still => rwa [List.append_nil]
  | passed hle hidle hreach =>
    rw [List.append_nil]
    exact ⟨h.no_room, h.gathered_eq, h.inHand_eq, h.calls_eq, h.kept, h.queue_eq⟩
  | begun hp =>
    rw [List.append_nil]
    exact ⟨h.no_room, rfl, rfl, h.calls_eq, h.kept, h.queue_eq⟩
  | rested hp hcut =>
    rw [List.append_nil]
    exact ⟨h.no_room, rfl, rfl, h.calls_eq, h.kept, h.queue_eq⟩
  | took hp hq hroom =>
    rw [h.no_room] at hroom
    exact absurd hroom (Nat.not_lt_zero _)
  | handed hp hne hcut =>
    rw [hp, Phase.gathered] at hgathered
    exact absurd hgathered hne
  | again hp hdue => simp [hp, Phase.inHand] at hhand
  | failed hp hcall hends htook hdelay => simp [hp, Phase.inHand] at hhand
  | delivered hp hcall hends htook => simp [hp, Phase.inHand] at hhand
  | abandoned hp hcall hends htook hdelay => simp [hp, Phase.inHand] at hhand

theorem offer (h : Idling waiting ds r) (record : String) :
    Idling waiting (ds ++ r.deeds (.offer record))
      { r with outbox := r.outbox.offerAny record } := by
  rw [Rehearsal.deeds_offer]
  cases hoffer : r.outbox.offer record with
  | ok o =>
    rw [Outbox.offerAny, hoffer, Outbox.offer_eq_ok hoffer]
    simp only [Outbox.deeds, hoffer]
    refine ⟨h.no_room, h.gathered_eq, h.inHand_eq, h.calls_eq, ?_, ?_⟩
    · simpa using h.kept
    · rw [List.filterMap_append, ← List.append_assoc, ← h.queue_eq]
      rfl
  | error e =>
    rw [Outbox.offerAny_of_refused hoffer]
    simp only [Outbox.deeds, hoffer]
    refine ⟨h.no_room, h.gathered_eq, h.inHand_eq, h.calls_eq, ?_, ?_⟩
    · simpa using h.kept
    · rw [List.filterMap_append, ← List.append_assoc, ← h.queue_eq]
      exact (List.append_nil _).symm

theorem run (h : Idling waiting [] r) (hr : r.InTime) (bs : List Beat) :
    Idling waiting (r.ledger bs) (r.run bs) :=
  Rehearsal.run_induction (P := Idling waiting) hr bs h (fun _ h ht => h.ticks ht)
    fun _ _ h => h.offer _

end Idling

/-- Nothing is accepted that was not offered. -/
theorem Rehearsal.accepted_of_quiet {r : Rehearsal} (h : r.InTime) {bs : List Beat}
    (hquiet : ∀ b ∈ bs, b.isOffer = false) : (r.ledger bs).filterMap Deed.accepted? = [] := by
  refine run_induction (P := fun ds _ => ds.filterMap Deed.accepted? = []) h bs rfl ?_ ?_
  · intro ds ds' r₁ r₂ _ hnil ht
    rw [List.filterMap_append, hnil]
    cases ht <;> rfl
  · intro ds r₁ record hmem
    cases hquiet _ hmem

/-! ## 5. All together -/

/-- **A sender gets on with its queue if a batch has room, and not at all if it has none.**  With
room a lap that begins with records waiting hands some of them over within the window, the queue
is empty after as many laps as there were records, and before a peer that takes every batch all of
it is taken, by a moment that comes.  Without room the peer is never called, and whatever was
accepted waits. -/
theorem sender_progress (settings : SenderSettings) (hwindow : 0 < settings.batchWindow.nanos) :
    (1 ≤ settings.maxBatch → ∀ (address : String) (script : List Reception) (earlier : List Beat),
      let r := (Rehearsal.new address settings script).run earlier
      let begun := r.beat .begin
      (r.Begins → r.outbox.queue ≠ [] → ∀ bs,
        (∃ batch, batch ≠ [] ∧ .handed batch ∈ begun.ledger bs) ∨
          ∃ batch deadline, (begun.run bs).outbox.phase = .collecting batch deadline ∧
            deadline = r.now + settings.batchWindow.nanos ∧ (begun.run bs).now ≤ deadline) ∧
      (∀ n r', r.Laps n r' → r'.outbox.queue.length ≤ r.outbox.queue.length - n) ∧
      (r.Begins → (∀ x ∈ script, x.Serves settings) → ∀ bs, (∀ b ∈ bs, b.isOffer = false) →
        (∀ batch, Deed.abandoned batch ∉ r.ledger bs) ∧
        (r.now + (r.script.length + r.outbox.queue.length) * settings.toll < (r.run bs).now →
          (r.run bs).outbox.pending = []) ∧
        ∃ on : List Beat, (∀ b ∈ on, b.isOffer = false) ∧
          ((r.run bs).run on).outbox.pending = [])) ∧
    (settings.maxBatch = 0 → ∀ (address : String) (script : List Reception) (bs : List Beat),
      let start := Rehearsal.new address settings script
      (∀ batch, Deed.handed batch ∉ start.ledger bs) ∧ (start.run bs).calls = [] ∧
        (start.run bs).outbox.queue = (start.ledger bs).filterMap Deed.accepted?) := by
  refine ⟨fun hsize address script earlier => ?_, fun hnone address script bs => ?_⟩
  · intro r begun
    have hstart := Rehearsal.inTime_new address settings script
    have hr : r.InTime := hstart.run earlier
    have hs : r.outbox.settings = settings := Rehearsal.settings_run hstart earlier
    rw [← hs] at hsize hwindow
    refine ⟨fun hbegins hwaiting bs => ?_, fun n r' h => h.length_queue hr hsize hwindow, ?_⟩
    · rcases Rehearsal.handed_or_collecting hr hsize hwindow hbegins hwaiting bs with
        hhanded | ⟨batch, hfills⟩
      · exact Or.inl hhanded
      · have hbegun : begun.InTime := hr.beat .begin
        have hnow : (begun.run bs).InTime := hbegun.run bs
        have hphase := hfills.phase_eq
        rw [hs] at hphase
        exact Or.inr ⟨batch, _, hphase, rfl, hnow.le_deadline hphase⟩
    · intro hbegins hserves bs hquiet
      have hobliged : Obliged settings [] r :=
        ((Obliged.new address hserves).run hstart earlier).forget
      -- what a backlog comes to, whatever the beats
      have hdrained : ∀ {bs : List Beat}, (∀ b ∈ bs, b.isOffer = false) →
          r.now + (r.script.length + r.outbox.queue.length) * settings.toll < (r.run bs).now →
          (r.run bs).outbox.pending = [] := by
        intro bs hquiet hlate
        have hdrain := Draining.run hbegins hr hsize hwindow hquiet (hobliged.run hr bs).kept
        rw [hs] at hdrain
        exact hdrain.pending_eq_nil (hr.run bs) hlate
      refine ⟨(hobliged.run hr bs).kept, hdrained hquiet, ?_⟩
      have hs' : (r.run bs).outbox.settings = r.outbox.settings := Rehearsal.settings_run hr bs
      obtain ⟨on, hon, hpast⟩ := Rehearsal.exists_run_past (hr.run bs) (by rw [hs']; exact hsize)
        (by rw [hs']; exact hwindow)
        (r.now + (r.script.length + r.outbox.queue.length) * settings.toll)
      refine ⟨on, hon, ?_⟩
      rw [← Rehearsal.run_append] at hpast ⊢
      refine hdrained (fun b hmem => ?_) hpast
      exact (List.mem_append.1 hmem).elim (hquiet b) (hon b)
  · intro start
    have hidle := (Idling.new address hnone script).run
      (Rehearsal.inTime_new address settings script) bs
    exact ⟨hidle.kept, hidle.calls_eq, hidle.queue_eq⟩

/-- One to a batch. -/
def singly : SenderSettings := { maxBatch := 1, backoffCap := .ofSeconds 1 }

/-- A lap with one record, before a peer that takes it within a second. -/
def oneLap : List Beat := [.take, .cut, .pass 1000000000, .answer]

theorem sender_progress_twoLaps :
    let script : List Reception := [{ delay := .ofSeconds 1 }]
    let r := (Rehearsal.new "peer" singly script).run [.offer "a", .offer "b"]
    let r₁ := (r.beat .begin).run oneLap
    let r₂ := (r₁.beat .begin).run oneLap
    let shut := Rehearsal.new "peer" { maxBatch := 0 } script
    r.Begins ∧ r.outbox.queue = ["a", "b"] ∧ r₁.outbox.queue = ["b"] ∧ r.Laps 2 r₂ ∧
      r₂.outbox.queue = [] ∧
      (∃ batch, batch ≠ [] ∧ .handed batch ∈ (r.beat .begin).ledger oneLap) ∧
      (∃ on : List Beat, (∀ b ∈ on, b.isOffer = false) ∧ (r.run on).outbox.pending = []) ∧
      (shut.run [.offer "a", .act, .pass 1000000000, .act]).calls = [] := by
  intro script r r₁ r₂ shut
  have hserves : ∀ x ∈ script, x.Serves singly := by
    intro x hmem count _
    obtain rfl := List.mem_singleton.1 hmem
    exact ⟨rfl, by decide +kernel, count, rfl, Nat.le_refl _⟩
  have hbegins : r.Begins := Or.inl rfl
  have hbegins₁ : r₁.Begins := Or.inl (by decide +kernel)
  have hbegins₂ : r₂.Begins := Or.inl (by decide +kernel)
  have hqueue : r.outbox.queue = ["a", "b"] := by decide +kernel
  have hlaps : r.Laps 2 r₂ :=
    .lap hbegins (by decide) hbegins₁ (.lap hbegins₁ (by decide) hbegins₂ (.refl _))
  obtain ⟨hroom, -⟩ := sender_progress singly (by decide +kernel)
  obtain ⟨-, hnone⟩ := sender_progress { maxBatch := 0 } (by decide +kernel)
  obtain ⟨hlap, hlength, hall⟩ := hroom (by decide) "peer" script [.offer "a", .offer "b"]
  refine ⟨hbegins, hqueue, by decide +kernel, hlaps, ?_, ?_, ?_, ?_⟩
  · have hle := hlength 2 r₂ hlaps
    rw [hqueue] at hle
    exact List.length_eq_zero_iff.1 (Nat.le_zero.1 hle)
  · have hfresh : ((((Rehearsal.new "peer" singly script).run [.offer "a", .offer "b"]).beat
        .begin).run oneLap).outbox.phase = .fresh := by
      decide +kernel
    rcases hlap hbegins (by rw [hqueue]; simp) oneLap with hhanded | ⟨batch, deadline, hp, -⟩
    · exact hhanded
    · rw [hfresh] at hp
      cases hp
  · obtain ⟨-, -, on, hon, hempty⟩ := hall hbegins hserves [] nofun
    exact ⟨on, hon, hempty⟩
  · exact (hnone rfl "peer" script [.offer "a", .act, .pass 1000000000, .act]).2.1

/-- **With no room in a batch a lap that begins with a record waiting hands nothing over**, and
after any number of laps the record waits. -/
theorem no_room_keeps_waiting :
    let settings : SenderSettings := { maxBatch := 0 }
    let r := (Rehearsal.new "peer" settings []).run [.offer "1 req set a"]
    0 < settings.batchWindow.nanos ∧ r.Begins ∧ r.outbox.queue = ["1 req set a"] ∧
      ((r.beat .begin).run [.act]).outbox.phase = .resting settings.idlePause.nanos ∧
      (r.beat .begin).ledger [.act] = [] ∧
      ∀ n r', r.Laps n r' → r'.outbox.queue = ["1 req set a"] := by
  intro settings r
  have hr : r.InTime := (Rehearsal.inTime_new "peer" settings []).run _
  have hidle : Idling ["1 req set a"] [] r := ⟨rfl, rfl, rfl, rfl, nofun, by decide +kernel⟩
  refine ⟨by decide +kernel, Or.inl rfl, by decide +kernel, by decide +kernel, by decide +kernel,
    ?_⟩
  intro n r' hlaps
  obtain ⟨bs, hquiet, rfl⟩ := hlaps.exists_run
  have hqueue := (hidle.run hr bs).queue_eq
  rwa [Rehearsal.accepted_of_quiet hr hquiet, List.append_nil] at hqueue

end Replica
