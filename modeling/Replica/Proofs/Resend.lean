/-
# Sending again does no harm

A sender that is not told that all of a batch was taken sends the whole batch again, although
the receiver may have taken any part of it.  Sets and deletes do not commute, so a set that
comes twice may well bring back, for a while, what a delete between the two had taken away.
**In the end it makes no difference** (`store_of_resent`): every request of a failed attempt
comes once more with the attempt that is taken whole, and a repeated request counts only where
it comes last.

What others send may arrive in between, and the pipeline may run at any time.
-/

import Replica.Proofs.Pipeline

namespace Replica

/-! ## 1. What arrives at a receiver -/

/-- On whose account a request arrives. -/
inductive Leg where
  /-- An attempt of the sender that failed. -/
  | failed
  /-- The attempt that was taken whole. -/
  | whole
  /-- Somebody else. -/
  | other
deriving DecidableEq, Repr

structure Arrival where
  leg : Leg
  request : Request
deriving DecidableEq, Repr

/-- Whether an arrival would be there if no attempt had failed. -/
def Arrival.counts (a : Arrival) : Bool := a.leg ≠ .failed

/-- How a batch got through: what the failed attempts, one after another, left with the receiver
is told by how many requests that was. -/
structure Delivery where
  batch : List String
  failed : List Nat
deriving DecidableEq, Repr

namespace Delivery

/-- The requests of the failed attempts. -/
def spare (d : Delivery) : List Arrival :=
  d.failed.flatMap fun taken => ((Node.pushed d.batch).take taken).map (⟨.failed, ·⟩)

/-- The requests of the attempt that was taken whole. -/
def whole (d : Delivery) : List Arrival := (Node.pushed d.batch).map (⟨.whole, ·⟩)

/-- All that a batch made arrive. -/
def arrivals (d : Delivery) : List Arrival := d.spare ++ d.whole

theorem counts_of_mem_whole {d : Delivery} {a : Arrival} (h : a ∈ d.whole) : a.counts = true := by
  obtain ⟨r, -, rfl⟩ := List.mem_map.1 h
  rfl

theorem not_counts_of_mem_spare {d : Delivery} {a : Arrival} (h : a ∈ d.spare) :
    a.counts = false ∧ ∃ b ∈ d.whole, b.request = a.request := by
  obtain ⟨taken, -, h⟩ := List.mem_flatMap.1 h
  obtain ⟨r, hr, rfl⟩ := List.mem_map.1 h
  exact ⟨rfl, ⟨.whole, r⟩, List.mem_map.2 ⟨r, List.mem_of_mem_take hr, rfl⟩, rfl⟩

end Delivery

/-! ## 2. Repeated requests -/

/-- What does not count comes again later, and then counts. -/
def Resent : List Arrival → Prop
  | [] => True
  | a :: rest =>
    (a.counts = false → ∃ b ∈ rest, b.counts = true ∧ b.request = a.request) ∧ Resent rest

theorem resent_append_of_counts :
    ∀ {l m : List Arrival}, (∀ a ∈ l, a.counts = false → ∃ b ∈ m, b.counts = true ∧
      b.request = a.request) → Resent m → Resent (l ++ m)
  | [], _, _, hm => hm
  | a :: l, m, h, hm => by
    refine ⟨fun ha => ?_, resent_append_of_counts (fun b hb => h b (List.mem_cons_of_mem _ hb)) hm⟩
    obtain ⟨b, hb, hrest⟩ := h a List.mem_cons_self ha
    exact ⟨b, List.mem_append_right _ hb, hrest⟩

theorem Resent.append :
    ∀ {l m : List Arrival}, Resent l → Resent m → Resent (l ++ m)
  | [], _, _, hm => hm
  | a :: l, m, ⟨ha, hl⟩, hm => by
    refine ⟨fun hc => ?_, hl.append hm⟩
    obtain ⟨b, hb, hrest⟩ := ha hc
    exact ⟨b, List.mem_append_left _ hb, hrest⟩

theorem resent_of_all_count : ∀ {l : List Arrival}, (∀ a ∈ l, a.counts = true) → Resent l
  | [], _ => trivial
  | a :: _, h => ⟨fun hc => by simp [h a List.mem_cons_self] at hc,
      resent_of_all_count fun b hb => h b (List.mem_cons_of_mem _ hb)⟩

theorem Delivery.resent_arrivals (d : Delivery) : Resent d.arrivals := by
  refine resent_append_of_counts (fun a ha _ => ?_)
    (resent_of_all_count fun _ => counts_of_mem_whole)
  obtain ⟨-, b, hb, hreq⟩ := not_counts_of_mem_spare ha
  exact ⟨b, hb, counts_of_mem_whole hb, hreq⟩

theorem resent_flatMap_arrivals :
    ∀ ds : List Delivery, Resent (ds.flatMap Delivery.arrivals)
  | [] => trivial
  | d :: ds => d.resent_arrivals.append (resent_flatMap_arrivals ds)

/-- What arrives in between takes nothing away. -/
theorem Resent.of_filter {p : Arrival → Bool} :
    ∀ {l : List Arrival}, Resent (l.filter p) → (∀ a ∈ l, a.counts = false → p a = true) →
      Resent l
  | [], _, _ => trivial
  | a :: l, h, hp => by
    have hp' : ∀ b ∈ l, b.counts = false → p b = true := fun b hb => hp b (List.mem_cons_of_mem _ hb)
    by_cases ha : p a = true
    · rw [List.filter_cons_of_pos ha] at h
      refine ⟨fun hc => ?_, h.2.of_filter hp'⟩
      obtain ⟨b, hb, hrest⟩ := h.1 hc
      exact ⟨b, (List.mem_filter.1 hb).1, hrest⟩
    · rw [List.filter_cons_of_neg ha] at h
      exact ⟨fun hc => absurd (hp a List.mem_cons_self hc) ha, h.of_filter hp'⟩

/-- **What comes again later might as well not have come.** -/
theorem applyAll_of_resent (s : Store) :
    ∀ {l : List Arrival}, Resent l →
      s.applyAll (l.map Arrival.request) =
        s.applyAll ((l.filter Arrival.counts).map Arrival.request) := by
  intro l
  induction l generalizing s with
  | nil => intro _; rfl
  | cons a l ih =>
    rintro ⟨ha, hl⟩
    by_cases hc : a.counts = true
    · rw [List.filter_cons_of_pos hc, List.map_cons, List.map_cons]
      exact ih _ hl
    · obtain ⟨b, hb, -, hreq⟩ := ha (by simpa using hc)
      rw [List.filter_cons_of_neg hc, ← ih _ hl, List.map_cons]
      exact s.applyAll_cons_of_superseded
        (superseded_of_mem (hreq ▸ List.mem_map_of_mem hb))

/-! ## 3. The receiver -/

/-- What happens at a receiver. -/
inductive Happening where
  /-- A request comes into the intake. -/
  | arrives (a : Arrival)
  /-- The pipeline takes the next request. -/
  | processes
deriving DecidableEq, Repr

namespace Happening

def arrival? : Happening → Option Arrival
  | .arrives a => some a
  | .processes => none

/-- Whether it would happen if no attempt had failed. -/
def counts : Happening → Bool
  | .arrives a => a.counts
  | .processes => true

/-- The arrivals from the sender among what happens. -/
def sent (hs : List Happening) : List Arrival :=
  (hs.filterMap arrival?).filter fun a => a.leg ≠ .other

theorem filterMap_arrival?_filter_counts (hs : List Happening) :
    (hs.filter counts).filterMap arrival? = (hs.filterMap arrival?).filter Arrival.counts := by
  induction hs with
  | nil => rfl
  | cons h hs ih =>
    cases h with
    | processes => exact ih
    | arrives a =>
      cases ha : a.counts with
      | true => simp [counts, arrival?, ha, ih]
      | false => simp [counts, arrival?, ha, ih]

end Happening

namespace Node

/-- Lets something happen at a node; an arrival has to find room. -/
def undergo (n : Node) (d : Disk) : Happening → Option (Node × Disk)
  | .arrives a => (n.submit a.request).toOption.map fun n => (n, d)
  | .processes => some ((n.advance? d).getD (n, d))

/-- Lets one thing after another happen at a node. -/
def undergoAll (n : Node) (d : Disk) : List Happening → Option (Node × Disk)
  | [] => some (n, d)
  | h :: hs => (n.undergo d h).bind fun (n, d) => n.undergoAll d hs

theorem submit_of_undergo {n n' : Node} {d d' : Disk} {a : Arrival}
    (h : n.undergo d (.arrives a) = some (n', d')) : n.submit a.request = .ok n' := by
  cases hsub : n.submit a.request with
  | error e => simp [undergo, hsub, Except.toOption] at h
  | ok m =>
    simp only [undergo, hsub, Except.toOption, Option.map_some, Option.some.injEq,
      Prod.mk.injEq] at h
    rw [h.1]

/-- All that may become of a node: a request joins a queue that has room for it, or the first
leaves a queue that is not empty. -/
theorem undergo_eq_some {n n' : Node} {d d' : Disk} {h : Happening}
    (hu : n.undergo d h = some (n', d')) :
    (∃ a, h = .arrives a ∧ n.intake.closed = false ∧ n.intake.hasRoom = true ∧
      n' = { n with intake := n.intake.enqueue a.request }) ∨
    (h = .processes ∧ n.intake.queue = [] ∧ n' = n) ∨
    (h = .processes ∧ ∃ r rest, n.intake.queue = r :: rest ∧
      n' = ({ n with intake := { n.intake with queue := rest } }.process d r).1) := by
  cases h with
  | arrives a => exact Or.inl ⟨a, rfl, submit_eq_ok (submit_of_undergo hu)⟩
  | processes =>
    simp only [undergo, Option.some.injEq] at hu
    cases hq : n.intake.queue with
    | nil =>
      rw [advance?_of_nil d hq] at hu
      exact Or.inr (Or.inl ⟨rfl, rfl, (congrArg Prod.fst hu).symm⟩)
    | cons r rest =>
      rw [advance?_of_cons d hq] at hu
      exact Or.inr (Or.inr ⟨rfl, r, rest, rfl, (congrArg Prod.fst hu).symm⟩)

/-- **The pipeline is a queue**: whenever it runs, it ends with what arrived, in order. -/
theorem due_undergoAll {hs : List Happening} {n n₁ : Node} {d d₁ : Disk}
    (h : n.undergoAll d hs = some (n₁, d₁)) :
    n₁.due = n.due.applyAll ((hs.filterMap Happening.arrival?).map Arrival.request) := by
  induction hs generalizing n d with
  | nil =>
    cases h
    rfl
  | cons e hs ih =>
    obtain ⟨⟨n', d'⟩, hstep, hrest⟩ := Option.bind_eq_some_iff.1 h
    rw [ih hrest]
    cases e with
    | arrives a =>
      rw [due_submit (submit_of_undergo hstep)]
      rfl
    | processes =>
      cases hadv : n.advance? d with
      | none =>
        simp only [undergo, hadv, Option.getD_none, Option.some.injEq, Prod.mk.injEq] at hstep
        rw [hstep.1]
        rfl
      | some x =>
        simp only [undergo, hadv, Option.getD_some, Option.some.injEq] at hstep
        rw [due_advance? (hstep ▸ hadv)]
        rfl

/-- A node whose intake is that of another but holds no more. -/
structure NoFuller (n' n : Node) : Prop where
  capacity_eq : n'.intake.capacity = n.intake.capacity
  promised_eq : n'.intake.promised = n.intake.promised
  closed_eq : n'.intake.closed = n.intake.closed
  length_le : n'.intake.queue.length ≤ n.intake.queue.length

/-- What an arrival that does not count leaves is fuller still. -/
theorem NoFuller.enqueue {n' n : Node} (h : NoFuller n' n) (r : Request) :
    NoFuller n' { n with intake := n.intake.enqueue r } where
  capacity_eq := h.capacity_eq
  promised_eq := h.promised_eq
  closed_eq := h.closed_eq
  length_le := by
    have := h.length_le
    simp only [Intake.enqueue, List.length_append]
    omega

theorem NoFuller.enqueue_both {n' n : Node} (h : NoFuller n' n) (r : Request) :
    NoFuller { n' with intake := n'.intake.enqueue r } { n with intake := n.intake.enqueue r } where
  capacity_eq := h.capacity_eq
  promised_eq := h.promised_eq
  closed_eq := h.closed_eq
  length_le := by
    have := h.length_le
    simp only [Intake.enqueue, List.length_append]
    omega

theorem NoFuller.hasRoom {n' n : Node} (h : NoFuller n' n) (hr : n.intake.hasRoom = true) :
    n'.intake.hasRoom = true := by
  have hlen := h.length_le
  unfold Intake.hasRoom Intake.places at hr ⊢
  rw [decide_eq_true_eq] at hr ⊢
  rw [h.capacity_eq, h.promised_eq]
  omega

/-- Both pipelines take one request, if they have one. -/
theorem NoFuller.advance {n' n n₁ : Node} {d d₁ : Disk} (d' : Disk) (h : NoFuller n' n)
    (hu : n.undergo d .processes = some (n₁, d₁)) :
    ∃ n₂ d₂, n'.undergo d' .processes = some (n₂, d₂) ∧ NoFuller n₂ n₁ := by
  have hlen := h.length_le
  refine ⟨_, _, rfl, ?_⟩
  rcases undergo_eq_some hu with ⟨a, ha, -⟩ | ⟨-, hq, rfl⟩ | ⟨-, r, rest, hq, rfl⟩
  · cases ha
  · have hq' : n'.intake.queue = [] := by simpa [hq] using hlen
    rw [advance?_of_nil d' hq']
    exact h
  · cases hq' : n'.intake.queue with
    | nil =>
      rw [advance?_of_nil d' hq']
      constructor
      · simpa using h.capacity_eq
      · simpa using h.promised_eq
      · simpa using h.closed_eq
      · simp [hq']
    | cons r' rest' =>
      rw [advance?_of_cons d' hq']
      constructor
      · simpa using h.capacity_eq
      · simpa using h.promised_eq
      · simpa using h.closed_eq
      · simpa [hq, hq'] using hlen

/-- **Where a request found room, it finds room with less in front of it.** -/
theorem undergoAll_of_noFuller {hs : List Happening} {n n' : Node} {d : Disk} {x : Node × Disk}
    (d' : Disk) (hn : NoFuller n' n) (h : n.undergoAll d hs = some x) :
    ∃ n₂ d₂, n'.undergoAll d' (hs.filter Happening.counts) = some (n₂, d₂) := by
  induction hs generalizing n n' d d' with
  | nil => exact ⟨n', d', rfl⟩
  | cons e hs ih =>
    obtain ⟨⟨m, dm⟩, hstep, hrest⟩ := Option.bind_eq_some_iff.1 h
    cases e with
    | processes =>
      obtain ⟨m', dm', hstep', hm⟩ := hn.advance d' hstep
      obtain ⟨n₂, d₂, h₂⟩ := ih dm' hm hrest
      exact ⟨n₂, d₂, Option.bind_eq_some_iff.2 ⟨(m', dm'), hstep', h₂⟩⟩
    | arrives a =>
      rcases undergo_eq_some hstep with ⟨b, ha, hc, hr, rfl⟩ | ⟨ha, -⟩ | ⟨ha, -⟩
      · cases ha
        cases hcount : a.counts with
        | false =>
          rw [List.filter_cons_of_neg (by simp [Happening.counts, hcount])]
          exact ih d' (hn.enqueue _) hrest
        | true =>
          rw [List.filter_cons_of_pos (by simp [Happening.counts, hcount])]
          obtain ⟨n₂, d₂, h₂⟩ := ih d' (hn.enqueue_both a.request) hrest
          have hsub := submit_of_hasRoom (n := n') a.request (hn.closed_eq.trans hc)
            (hn.hasRoom hr)
          exact ⟨n₂, d₂, by simpa [undergoAll, undergo, hsub, Except.toOption] using h₂⟩
      · cases ha
      · cases ha

end Node

/-! ## 4. Sending again -/

theorem Happening.sent_filter_counts (hs : List Happening) :
    sent (hs.filter counts) = (sent hs).filter Arrival.counts := by
  simp only [sent, filterMap_arrival?_filter_counts, List.filter_filter, Bool.and_comm]

theorem filter_counts_flatMap_arrivals (ds : List Delivery) :
    (ds.flatMap Delivery.arrivals).filter Arrival.counts = ds.flatMap Delivery.whole := by
  rw [List.filter_flatMap]
  congr 1
  funext d
  have hspare : d.spare.filter Arrival.counts = [] :=
    List.filter_eq_nil_iff.2 fun a ha => by simp [(Delivery.not_counts_of_mem_spare ha).1]
  have hwhole : d.whole.filter Arrival.counts = d.whole :=
    List.filter_eq_self.2 fun a ha => Delivery.counts_of_mem_whole ha
  rw [Delivery.arrivals, List.filter_append, hspare, hwhole, List.nil_append]

/-- **Failed attempts leave no trace in the end.**  Whatever batches a sender gets through to a
node, after whatever attempts that failed, and whatever else arrives meanwhile: without what
the failed attempts left, the same may happen, each batch arrives just once, and what the node
holds when its pipeline has drained is the same. -/
theorem store_of_resent {n n₁ : Node} {d d₁ : Disk} {hs : List Happening} {ds : List Delivery}
    (hsent : Happening.sent hs = ds.flatMap Delivery.arrivals)
    (h : n.undergoAll d hs = some (n₁, d₁)) :
    Happening.sent (hs.filter Happening.counts) = ds.flatMap Delivery.whole ∧
    ∃ n₂ d₂, n.undergoAll d (hs.filter Happening.counts) = some (n₂, d₂) ∧
      (n₂.drain d₂).1.store = (n₁.drain d₁).1.store := by
  have hresent : Resent (hs.filterMap Happening.arrival?) := by
    refine Resent.of_filter (p := fun a => a.leg ≠ .other) ?_ fun a _ hc => ?_
    · change Resent (Happening.sent hs)
      rw [hsent]
      exact resent_flatMap_arrivals ds
    · cases hl : a.leg with
      | other => simp [Arrival.counts, hl] at hc
      | failed => rfl
      | whole => rfl
  have hsame : Node.NoFuller n n := ⟨rfl, rfl, rfl, Nat.le_refl _⟩
  obtain ⟨n₂, d₂, h₂⟩ := Node.undergoAll_of_noFuller d hsame h
  refine ⟨?_, n₂, d₂, h₂, ?_⟩
  · rw [Happening.sent_filter_counts, hsent, filter_counts_flatMap_arrivals]
  · rw [Node.store_drain, Node.store_drain, Node.due_undergoAll h₂, Node.due_undergoAll h,
      Happening.filterMap_arrival?_filter_counts, applyAll_of_resent _ hresent]

/-- A set and a delete of one batch, of which a failed attempt left the set, and a newer set
between the two attempts. -/
def Happening.resentSet : List Happening :=
  [.arrives ⟨.failed, .set 3 .peer "k" [1]⟩, .processes,
    .arrives ⟨.other, .set 4 .client "k" [2]⟩, .arrives ⟨.whole, .set 3 .peer "k" [1]⟩, .processes,
    .arrives ⟨.whole, .delete 5 .peer "k"⟩]

theorem store_of_resent_resentSet :
    ∃ n₁ d₁ n₂ d₂, (Node.solitary 1).undergoAll .empty Happening.resentSet = some (n₁, d₁) ∧
      (Node.solitary 1).undergoAll .empty (Happening.resentSet.filter Happening.counts) =
        some (n₂, d₂) ∧
      (n₂.drain d₂).1.store = (n₁.drain d₁).1.store := by
  obtain ⟨⟨n₁, d₁⟩, h⟩ := Option.isSome_iff_exists.1
    (by decide +kernel : ((Node.solitary 1).undergoAll .empty Happening.resentSet).isSome = true)
  have hsent : Happening.sent Happening.resentSet =
      [⟨["3 sync set k AQ==", "5 sync del k"], [1]⟩].flatMap Delivery.arrivals := by
    decide +kernel
  obtain ⟨-, n₂, d₂, h₂, hstore⟩ := store_of_resent hsent h
  exact ⟨n₁, d₁, n₂, d₂, h, h₂, hstore⟩

end Replica
