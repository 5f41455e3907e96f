/-
# Where requests come in

A request comes into a node at work because a client asked for it, because it is submitted, or
because a guest hands it over that came with it.  So **what holds of all that comes in holds of
all that a node carries** (`Service.Carries.run`): of what waits in the intake and with guests,
of what was accepted and so of what was processed, and of what the keys hold.

What a client asks for is told apart from the rest by its origin: no guest that comes with a push
or a pull brings a request of a client (`Service.filter_accepted_sights`).
-/

import Replica.Proofs.Acceptance
import Replica.Proofs.Codec.Record
import Replica.Proofs.Codec.Snapshot

namespace Replica

/-! ## 1. Clients and errands -/

theorem Call.recordable_request {call : Call} (h : LegalKey call.key) (v : Version) :
    (call.request v).Recordable := by
  refine ⟨by rwa [Call.key_request], fun hdelete => ?_⟩
  cases call with
  | set key value => cases hdelete
  | delete key => rfl

theorem Node.mem_pushed_iff {records : List String} {r : Request} :
    r ∈ pushed records ↔ ∃ record ∈ records, ∃ q, Request.ofRecord record = .ok q ∧
      q.toPeer = r := by
  unfold pushed
  rw [List.mem_filterMap]
  refine exists_congr fun record => and_congr_right fun _ => ?_
  cases Request.ofRecord record with
  | error f => simp [Except.toOption]
  | ok q => simp [Except.toOption]

theorem Node.mem_pulled_iff {s : Store} {r : Request} :
    r ∈ pulled s ↔ ∃ key i, s.get? key = some i ∧ r = .set i.version .peer key i.value := by
  unfold pulled
  rw [List.mem_map]
  constructor
  · rintro ⟨⟨key, i⟩, hmem, rfl⟩
    exact ⟨key, i, Dict.mem_entries_iff.1 hmem, rfl⟩
  · rintro ⟨key, i, hget, rfl⟩
    exact ⟨(key, i), Dict.mem_entries_iff.2 hget, rfl⟩

/-- What a store holds behind a request, it held before or has from the request. -/
theorem Node.mem_pulled_apply {s : Store} {r q : Request} (h : q ∈ pulled (s.apply r).2) :
    q ∈ pulled s ∨ q = r.toPeer := by
  obtain ⟨key, i, hget, rfl⟩ := mem_pulled_iff.1 h
  rw [Store.get?_apply] at hget
  split at hget
  · next hkey =>
    rcases Request.leaves_eq_some hget with hheld | hitem
    · exact Or.inl (mem_pulled_iff.2 ⟨key, i, hheld, rfl⟩)
    · obtain ⟨haction, hvalue, hversion⟩ := Request.item?_eq_some hitem
      refine Or.inr ?_
      rw [← hkey, ← hvalue, ← hversion]
      simp [Request.set, Request.toPeer, haction]
  · exact Or.inl (mem_pulled_iff.2 ⟨key, i, hget, rfl⟩)

/-- **Whatever a peer pushes**, the requests in it have lines. -/
theorem Node.recordable_of_mem_pushed {records : List String} {r : Request}
    (h : r ∈ pushed records) : r.Recordable := by
  obtain ⟨record, -, q, hread, rfl⟩ := mem_pushed_iff.1 h
  exact (Request.recordable_of_ofRecord hread).toPeer

namespace Errand

/-- Whether an errand is to hand over one request as it is. -/
def isWait : Errand → Bool
  | .wait _ => true
  | _ => false

/-- What comes with a push or a pull is taken for a peer's, whatever it says of itself. -/
theorem origin_of_mem_requests {errand : Errand} (h : errand.isWait = false) {r : Request}
    (hr : r ∈ errand.requests) : r.origin = .peer := by
  cases errand with
  | wait q => cases h
  | push records =>
    obtain ⟨record, -, q, -, rfl⟩ := Node.mem_pushed_iff.1 hr
    rfl
  | pull snapshot =>
    unfold requests at hr
    simp only at hr
    split at hr
    · obtain ⟨⟨key, item⟩, -, rfl⟩ := List.mem_map.1 hr
      rfl
    · cases hr

/-- **What is pulled is what the other store holds.** -/
theorem requests_pull_snapshot (s : Store) : (pull s.snapshot).requests = Node.pulled s := by
  simp only [requests, Store.ofSnapshot_snapshot]

end Errand

namespace Service

/-- The request of a call that is accepted: it carries the version that the call returns. -/
def asked (x : Service) : Act → List Request
  | .ask millis call =>
    match (x.node.ask millis call).1 with
    | .ok v => [call.request v]
    | .error _ => []
  | _ => []

/-- The requests of all calls that are accepted, in order. -/
def askedIn (x : Service) : List Act → List Request
  | [] => []
  | a :: as => x.asked a ++ (x.step a).askedIn as

/-- Whether an act brings a request that is neither asked for nor pushed nor pulled. -/
def Act.isDirect : Act → Bool
  | .submit _ => true
  | .come errand => errand.isWait
  | _ => false

/-- Whether all requests that an act brings are of a kind, but for what its client asks. -/
def Act.Brings (P : Request → Prop) : Act → Prop
  | .submit r => P r
  | .come errand => ∀ r ∈ errand.requests, P r
  | _ => True

variable {x x' : Service} {a : Act} {as : List Act} {P : Request → Prop} {r : Request}

theorem mem_asked_iff :
    r ∈ x.asked a ↔ ∃ millis call v n, a = .ask millis call ∧
      x.node.ask millis call = (.ok v, n) ∧ r = call.request v := by
  constructor
  · intro h
    cases a with
    | ask millis call =>
      unfold asked at h
      rcases hask : x.node.ask millis call with ⟨e | v, n⟩
      · simp [hask] at h
      · simp only [hask, List.mem_singleton] at h
        exact ⟨millis, call, v, n, rfl, hask, h⟩
    | _ => cases h
  · rintro ⟨millis, call, v, n, rfl, hask, rfl⟩
    simp only [asked, hask, List.mem_singleton]

/-- A call is accepted only if its key is legal. -/
theorem recordable_of_mem_asked (h : r ∈ x.asked a) : r.Recordable := by
  obtain ⟨millis, call, v, n, rfl, hask, rfl⟩ := mem_asked_iff.1 h
  exact Call.recordable_request (Node.ask_eq_ok hask).1 v

theorem recordable_of_mem_askedIn (h : r ∈ x.askedIn as) : r.Recordable := by
  induction as generalizing x with
  | nil => cases h
  | cons a as ih =>
    rcases List.mem_append.1 h with h | h
    · exact recordable_of_mem_asked h
    · exact ih h

/-- An act that brings nothing by itself brings requests of peers only. -/
theorem Act.brings_origin_peer (h : a.isDirect = false) :
    a.Brings fun r => r.origin = .peer := by
  cases a with
  | submit q => cases h
  | come errand => exact fun r hr => Errand.origin_of_mem_requests h hr
  | _ => trivial

/-! ## 2. Guests -/

theorem forall_left_set {guests : List Guest} {guest : Guest} (g : Nat)
    (h : ∀ guest ∈ guests, ∀ r ∈ guest.left, P r) (hguest : ∀ r ∈ guest.left, P r) :
    ∀ guest' ∈ guests.set g guest, ∀ r ∈ guest'.left, P r := by
  intro guest' hmem
  rcases List.mem_or_eq_of_mem_set hmem with hold | rfl
  · exact h guest' hold
  · exact hguest

theorem forall_left_dismiss (g : Nat) (guest : Guest)
    (h : ∀ guest ∈ x.guests, ∀ r ∈ guest.left, P r) :
    ∀ guest' ∈ (x.dismiss g guest).guests, ∀ r ∈ guest'.left, P r :=
  forall_left_set g h nofun

/-- **Guests have left of what guests had, or come with it.** -/
theorem forall_left_step (h : ∀ guest ∈ x.guests, ∀ r ∈ guest.left, P r) (ha : a.Brings P) :
    ∀ guest ∈ (x.step a).guests, ∀ r ∈ guest.left, P r := by
  have hleft : ∀ {g : Nat} {guest : Guest}, x.guests[g]? = some guest → ∀ r ∈ guest.left, P r :=
    fun hg => h _ (List.mem_of_getElem? hg)
  cases a with
  | come errand =>
    intro guest hmem
    rcases List.mem_append.1 hmem with hold | hnew
    · exact h guest hold
    · obtain rfl := List.mem_singleton.1 hnew
      exact ha
  | invite g =>
    simp only [step]
    split
    · next guest hg =>
      split
      · exact h
      · exact forall_left_set g h fun r hr => hleft hg r hr
    · exact h
  | hand g =>
    simp only [step]
    split
    · next r rest hg =>
      exact forall_left_set g h fun q hq => hleft hg q (List.mem_cons_of_mem r hq)
    · next r rest hg =>
      split
      · exact forall_left_set g h fun q hq => hleft hg q (List.mem_cons_of_mem r hq)
      · exact forall_left_dismiss g _ h
      · exact h
    · exact h
  | turnAway g =>
    simp only [step]
    split
    · split
      · exact forall_left_dismiss g _ h
      · exact h
    · exact h
  | leave g =>
    simp only [step]
    split
    · exact forall_left_dismiss g _ h
    · exact h
  | _ =>
    -- no other act has to do with guests
    simp only [step]
    repeat' split
    all_goals exact h

/-! ## 3. What is accepted -/

/-- **What is accepted was asked for, submitted, or left with a guest.** -/
theorem forall_accepted (hleft : ∀ guest ∈ x.guests, ∀ r ∈ guest.left, P r)
    (hasked : ∀ r ∈ x.asked a, P r) (ha : a.Brings P) (hr : .accepted r ∈ x.seen a) : P r := by
  cases a with
  | ask millis call =>
    refine hasked r ?_
    unfold seen at hr
    unfold asked
    rcases hask : x.node.ask millis call with ⟨e | v, n⟩
    · simp only [hask] at hr
      cases e <;> simp at hr
    · simpa [hask] using hr
  | submit q =>
    simp only [seen] at hr
    split at hr
    · obtain rfl : r = q := by simpa using hr
      exact ha
    · simp at hr
  | hand g =>
    have hfirst : ∀ q rest inv, x.guests[g]? = some ⟨q :: rest, inv⟩ → P q :=
      fun q rest inv hg => hleft _ (List.mem_of_getElem? hg) q List.mem_cons_self
    simp only [seen] at hr
    split at hr
    · next q rest hg =>
      obtain rfl : r = q := by simpa using hr
      exact hfirst r rest true hg
    · next q rest hg =>
      split at hr
      · obtain rfl : r = q := by simpa using hr
        exact hfirst r rest false hg
      · simp at hr
      · simp at hr
    · simp at hr
  | turnAway g =>
    simp only [seen] at hr
    split at hr
    · split at hr <;> simp at hr
    · simp at hr
  | process =>
    simp only [seen] at hr
    split at hr <;> simp at hr
  | _ => simp [seen] at hr

/-- What is processed was in the queue. -/
theorem mem_queue_of_processed (h : .processed r ∈ x.seen a) : r ∈ x.node.intake.queue := by
  cases a with
  | process =>
    simp only [seen] at h
    split at h
    · next q rest hq =>
      obtain rfl : r = q := by simpa using h
      rw [hq]
      exact List.mem_cons_self
    · simp at h
  | _ =>
    simp only [seen] at h
    repeat' split at h
    all_goals simp at h

/-! ## 4. All that a node carries -/

/-- **Whatever waits in a node, and whatever a key holds, is of a kind.**  An item counts as the
request that puts it into the pipeline of a peer. -/
structure Carries (P : Request → Prop) (x : Service) : Prop where
  queue : ∀ r ∈ x.node.intake.queue, P r
  left : ∀ guest ∈ x.guests, ∀ r ∈ guest.left, P r
  held : ∀ r ∈ Node.pulled x.node.store, P r

/-- **An act leaves a node with what it had or what came in.** -/
theorem Carries.change {ss : List Sight} (h : Carries P x) (hpeer : ∀ r, P r → P r.toPeer)
    (haccepted : ∀ r, .accepted r ∈ ss → P r)
    (hleft : ∀ guest ∈ x'.guests, ∀ r ∈ guest.left, P r) (hc : Change x ss x') :
    Carries P x' := by
  have hstill : ∀ {n : Node}, Still n x.node → ∀ r ∈ Node.pulled n.store, P r :=
    fun hn => hn.store ▸ h.held
  have henter : ∀ {q : Request} {i : Intake}, P q → i.queue = x.node.intake.queue ++ [q] →
      ∀ r ∈ i.queue, P r := by
    intro q i hq hi r hr
    rw [hi] at hr
    rcases List.mem_append.1 hr with hold | hnew
    · exact h.queue r hold
    · exact List.mem_singleton.1 hnew ▸ hq
  cases hc with
  | quiet _ hn hi _ _ => exact ⟨hi ▸ h.queue, hleft, hstill hn⟩
  | @entered q _ _ _ _ hn hi _ =>
    exact ⟨henter (haccepted q List.mem_cons_self) (by rw [hi]; rfl), hleft, hstill hn⟩
  | @kept q _ _ hn hi _ =>
    exact ⟨henter (haccepted q List.mem_cons_self) (by rw [hi]; rfl), hleft, hstill hn⟩
  | promised _ _ hn hi _ => exact ⟨by rw [hi]; exact h.queue, hleft, hstill hn⟩
  | released _ hn hi _ => exact ⟨by rw [hi]; exact h.queue, hleft, hstill hn⟩
  | @processed q rest hq =>
    have hqueue : ∀ r ∈ q :: rest, P r := hq ▸ h.queue
    refine ⟨fun r hr => ?_, hleft, fun r hr => ?_⟩
    · rw [intake_takeNext] at hr
      exact hqueue r (List.mem_cons_of_mem q hr)
    · rw [store_takeNext] at hr
      rcases Node.mem_pulled_apply hr with hold | rfl
      · exact h.held r hold
      · exact hpeer q (hqueue q List.mem_cons_self)
  | closed => exact ⟨h.queue, hleft, h.held⟩
  | sealed _ _ _ => exact ⟨h.queue, hleft, h.held⟩
  | saved _ _ => exact ⟨h.queue, hleft, h.held⟩

theorem Carries.step (h : Carries P x) (hpeer : ∀ r, P r → P r.toPeer)
    (hasked : ∀ r ∈ x.asked a, P r) (ha : a.Brings P) : Carries P (x.step a) :=
  h.change hpeer (fun _ hr => forall_accepted h.left hasked ha hr) (forall_left_step h.left ha)
    (change_step x a)

/-- **What holds of all that comes in holds of all that a node carries**, and of all that it ever
accepted. -/
theorem Carries.run (h : Carries P x) (hpeer : ∀ r, P r → P r.toPeer)
    (hasked : ∀ r ∈ x.askedIn as, P r) (has : ∀ a ∈ as, a.Brings P) :
    Carries P (x.run as) ∧ ∀ r, .accepted r ∈ x.sights as → P r := by
  induction as generalizing x with
  | nil => exact ⟨h, nofun⟩
  | cons a as ih =>
    have ha := has a List.mem_cons_self
    have hfirst : ∀ r ∈ x.asked a, P r := fun r hr => hasked r (List.mem_append_left _ hr)
    obtain ⟨hrun, hrest⟩ := ih (h.step hpeer hfirst ha)
      (fun r hr => hasked r (List.mem_append_right _ hr))
      fun b hb => has b (List.mem_cons_of_mem a hb)
    refine ⟨hrun, fun r hr => ?_⟩
    rcases List.mem_append.1 hr with hr | hr
    · exact forall_accepted h.left hfirst ha hr
    · exact hrest r hr

/-! ## 5. What was asked for among what was accepted -/

theorem mem_accepted_tally : r ∈ (x.tally as).accepted ↔ .accepted r ∈ x.sights as := by
  unfold tally
  rw [Tally.accepted_enterAll, List.nil_append, List.mem_filterMap]
  constructor
  · rintro ⟨sight, hsight, heq⟩
    cases sight with
    | accepted q =>
      obtain rfl : q = r := Option.some.inj heq
      exact hsight
    | _ => cases heq
  · exact fun h => ⟨_, h, rfl⟩

/-- What is processed was accepted. -/
theorem processed_subset_accepted {s : Settings} {d d' : Disk} {n : Node}
    (hopen : Node.openIn s d = (.ok n, d')) (as : List Act) :
    let start : Service := { node := n, disk := d' }
    (start.tally as).processed ⊆ (start.tally as).accepted := by
  intro start r hr
  have hall : (start.tally as).accepted =
      (start.tally as).processed ++ (start.run as).node.intake.queue :=
    ((sound_openIn hopen).run as).accepted_eq
  rw [hall]
  exact List.mem_append_left _ hr

/-- **Only a call makes a node accept a request of a client.** -/
theorem filter_accepted_seen (hleft : ∀ guest ∈ x.guests, ∀ r ∈ guest.left, r.origin = .peer)
    (ha : a.isDirect = false) :
    ((x.seen a).filterMap Sight.accepted?).filter (·.origin = .client) = x.asked a := by
  have hpeer : ∀ r, .accepted r ∈ x.seen a → x.asked a = [] → r.origin = .peer :=
    fun r hr hnone => forall_accepted hleft (by simp [hnone]) (Act.brings_origin_peer ha) hr
  by_cases hask : ∃ millis call, a = .ask millis call
  · obtain ⟨millis, call, rfl⟩ := hask
    simp only [seen, asked]
    rcases x.node.ask millis call with ⟨e | v, n⟩
    · cases e <;> rfl
    · simp [Sight.accepted?]
  · have hnone : x.asked a = [] := by
      cases a with
      | ask millis call => exact absurd ⟨millis, call, rfl⟩ hask
      | _ => rfl
    rw [hnone, List.filter_eq_nil_iff]
    intro r hr
    obtain ⟨sight, hsight, heq⟩ := List.mem_filterMap.1 hr
    cases sight with
    | accepted q =>
      obtain rfl : q = r := Option.some.inj heq
      simp [hpeer q hsight hnone]
    | _ => cases heq

theorem filter_accepted_sights
    (hleft : ∀ guest ∈ x.guests, ∀ r ∈ guest.left, r.origin = .peer)
    (has : ∀ a ∈ as, a.isDirect = false) :
    ((x.sights as).filterMap Sight.accepted?).filter (·.origin = .client) = x.askedIn as := by
  induction as generalizing x with
  | nil => rfl
  | cons a as ih =>
    have ha := has a List.mem_cons_self
    have hrest := ih (forall_left_step hleft (Act.brings_origin_peer ha))
      fun b hb => has b (List.mem_cons_of_mem a hb)
    unfold sights askedIn
    rw [List.filterMap_append, List.filter_append, filter_accepted_seen hleft ha, hrest]

end Service

end Replica
