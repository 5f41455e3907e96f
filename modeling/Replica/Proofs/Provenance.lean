/-
# Where requests come from

Every request in a mesh of nodes, wherever it is, and every item that a key holds **stems from a
request that some node accepted from a client** (`Mesh.sound_run`).  On the way it has become a
line, a batch, a snapshot and a request again, and in all of these it has kept its version,
action, key and value.
-/

import Replica.Proofs.Mesh

namespace Replica

/-! ## 1. Requests -/

namespace Request

@[simp] theorem toPeer_toPeer (r : Request) : r.toPeer.toPeer = r.toPeer := rfl

/-- Whether a request is one of those asked for, whoever handed it on. -/
def StemsFrom (q : Request) (asked : List Request) : Prop := ∃ a ∈ asked, q.toPeer = a.toPeer

theorem stemsFrom_of_mem {q : Request} {asked : List Request} (h : q ∈ asked) :
    q.StemsFrom asked := ⟨q, h, rfl⟩

theorem StemsFrom.mono {q : Request} {asked asked' : List Request} (h : q.StemsFrom asked)
    (hsub : asked ⊆ asked') : q.StemsFrom asked' := by
  obtain ⟨a, ha, heq⟩ := h
  exact ⟨a, hsub ha, heq⟩

/-- Who handed a request on is all that the requests of one origin can differ in. -/
theorem eq_of_toPeer_eq {q a : Request} (h : q.toPeer = a.toPeer) :
    q.key = a.key ∧ q.version = a.version ∧ q.item? = a.item? := by
  obtain ⟨version, origin, action, key, value⟩ := q
  obtain ⟨version', origin', action', key', value'⟩ := a
  simp only [toPeer, Request.mk.injEq] at h
  obtain ⟨rfl, -, rfl, rfl, rfl⟩ := h
  exact ⟨rfl, rfl, rfl⟩

end Request

/-! ## 2. Batches and snapshots -/

namespace Node

variable {asked : List Request}

/-- **A request comes out of the batch that its line is in.** -/
theorem mem_pushed {r : Request} {batch : List String} (hr : r.Recordable)
    (h : r.toPeer.record ∈ batch) : r.toPeer ∈ pushed batch :=
  List.mem_filterMap.2 ⟨_, h, by simp [Request.ofRecord_record hr.toPeer, Except.toOption]⟩

/-- Nothing else comes out of a batch of such lines. -/
theorem stemsFrom_of_mem_pushed {batch : List String} (hasked : ∀ a ∈ asked, a.Recordable)
    (hbatch : ∀ s ∈ batch, ∃ a ∈ asked, s = a.toPeer.record) {q : Request}
    (hq : q ∈ pushed batch) : q.StemsFrom asked := by
  obtain ⟨s, hs, hread⟩ := List.mem_filterMap.1 hq
  obtain ⟨a, ha, rfl⟩ := hbatch s hs
  rw [Request.ofRecord_record (hasked a ha).toPeer] at hread
  obtain rfl : a.toPeer = q := by simpa [Except.toOption] using hread
  exact ⟨a, ha, rfl⟩

/-- **What comes out of a snapshot stems from whatever the items did.** -/
theorem stemsFrom_of_mem_pulled {s : Store}
    (hs : ∀ key i, s.get? key = some i → ∃ a ∈ asked, a.key = key ∧ a.item? = some i)
    {q : Request} (hq : q ∈ pulled s) : q.StemsFrom asked := by
  obtain ⟨⟨key, i⟩, hmem, rfl⟩ := List.mem_map.1 hq
  obtain ⟨a, ha, rfl, hitem⟩ := hs key i (Dict.mem_entries_iff.1 hmem)
  obtain ⟨haction, hvalue, hversion⟩ := Request.item?_eq_some hitem
  refine ⟨a, ha, ?_⟩
  simp [Request.set, Request.toPeer, haction, hvalue, hversion]

end Node

/-! ## 3. Hosts -/

/-- Whatever a host has waiting, owes or holds stems from what was asked for. -/
structure Host.Sound (asked : List Request) (x : Host) : Prop where
  queue : ∀ q ∈ x.node.intake.queue, q.StemsFrom asked
  owes : ∀ address record, x.Owes address record → ∃ a ∈ asked, record = a.toPeer.record
  held : ∀ key i, x.node.store.get? key = some i → ∃ a ∈ asked, a.key = key ∧ a.item? = some i

namespace Host

variable {asked asked' : List Request} {x x' : Host} {r : Request} {rs : List Request}
  {lossy : Bool}

theorem Sound.mono (h : x.Sound asked) (hsub : asked ⊆ asked') : x.Sound asked' where
  queue q hq := (h.queue q hq).mono hsub
  owes address record ho := by
    obtain ⟨a, ha, heq⟩ := h.owes address record ho
    exact ⟨a, hsub ha, heq⟩
  held key i hi := by
    obtain ⟨a, ha, heq⟩ := h.held key i hi
    exact ⟨a, hsub ha, heq⟩

theorem Sound.joined (h : x.Sound asked) (hj : x'.Joined x rs)
    (hrs : ∀ r ∈ rs, r.StemsFrom asked) : x'.Sound asked where
  queue q hq := by
    rw [hj.queue] at hq
    rcases List.mem_append.1 hq with hq | hq
    · exact h.queue q hq
    · exact hrs q hq
  owes address record ho := by
    obtain ⟨o, hm, hrest⟩ := ho
    exact h.owes address record ⟨o, hj.outboxes ▸ hm, hrest⟩
  held key i hi := h.held key i (hj.store ▸ hi)

theorem Sound.processed (h : x.Sound asked) (hp : x'.Processed x r lossy) : x'.Sound asked := by
  have hr : r.StemsFrom asked := h.queue r (hp.queue ▸ List.mem_cons_self)
  obtain ⟨a, ha, heq⟩ := hr
  refine ⟨fun q hq => ?_, fun address record ho => ?_, fun key i hi => ?_⟩
  · exact h.queue q (hp.queue ▸ List.mem_cons_of_mem r hq)
  · rcases hp.owes address record ho with ho | ⟨-, rfl⟩
    · exact h.owes address record ho
    · exact ⟨a, ha, congrArg Request.record heq⟩
  · rw [hp.store, Store.get?_apply] at hi
    split at hi
    · next hkey =>
      rcases Request.leaves_eq_some hi with hi | hi
      · exact h.held key i hi
      · obtain ⟨hk, -, hitem⟩ := Request.eq_of_toPeer_eq heq
        exact ⟨a, ha, hk.symm.trans hkey, hitem.symm.trans hi⟩
    · exact h.held key i hi

theorem Sound.sent (h : x.Sound asked) (hs : x'.Sent x) : x'.Sound asked where
  queue q hq := h.queue q (hs.queue ▸ hq)
  owes address record ho := h.owes address record (hs.owes address record ho)
  held key i hi := h.held key i (hs.store ▸ hi)

end Host

/-! ## 4. Meshes -/

namespace Mesh

variable {k : Nat} {asked asked' : List Request} {m m' : Mesh k}

/-- **All that is in a mesh stems from what was asked for.** -/
structure Sound (asked : List Request) (m : Mesh k) : Prop where
  recordable : ∀ a ∈ asked, a.Recordable
  hosts : ∀ h, (m.hosts h).Sound asked
  visits : ∀ v ∈ m.visits, ∀ q ∈ v.left, q.StemsFrom asked

/-- What holds of every host and, after an act, of the one that was replaced. -/
theorem forall_hosts {P : Fin k → Host → Prop} {h : Fin k} {x : Host}
    (hosts : m'.hosts = Function.update m.hosts h x) (hx : P h x)
    (hm : ∀ g, P g (m.hosts g)) (g : Fin k) : P g (m'.hosts g) := by
  rw [hosts]
  by_cases hg : g = h
  · subst hg
    rwa [Function.update_self]
  · rw [Function.update_of_ne hg]
    exact hm g

theorem Sound.asks (hm : m.Sound asked) {r : Request} (hr : r.Recordable) :
    m.Sound (asked ++ [r]) where
  recordable a ha := by
    rcases List.mem_append.1 ha with ha | ha
    · exact hm.recordable a ha
    · exact List.mem_singleton.1 ha ▸ hr
  hosts h := (hm.hosts h).mono (List.subset_append_left _ _)
  visits v hv q hq := (hm.visits v hv q hq).mono (List.subset_append_left _ _)

/-- **An act brings in nothing but what it makes a node accept.** -/
theorem sound_effect {accepted : Option Request} {lossy : Bool}
    (e : Effect m m' accepted lossy) (hm : m.Sound asked) :
    m'.Sound (asked ++ accepted.toList) := by
  cases e with
  | aside hosts visits =>
    rw [Option.toList_none, List.append_nil]
    refine ⟨hm.recordable, fun h => (hm.hosts h).joined (hosts h) (by simp), fun v' hv' => ?_⟩
    obtain ⟨v, hv, -, hleft, -⟩ := visits v' hv'
    exact hleft ▸ hm.visits v hv
  | @joins _ h r x recordable origin hosts joined visits =>
    have hm := hm.asks recordable
    have hr : ∀ q ∈ [r], q.StemsFrom (asked ++ [r]) := fun q hq =>
      Request.stemsFrom_of_mem (List.mem_append_right _ hq)
    exact ⟨hm.recordable, forall_hosts hosts ((hm.hosts h).joined joined hr) hm.hosts,
      visits ▸ hm.visits⟩
  | @hands _ v r rest x mem left hosts joined visits =>
    rw [Option.toList_none, List.append_nil]
    have hleft : ∀ q ∈ r :: rest, q.StemsFrom asked := left ▸ hm.visits v mem
    have hx := (hm.hosts v.target).joined joined fun q hq =>
      hleft q (List.mem_singleton.1 hq ▸ List.mem_cons_self)
    refine ⟨hm.recordable, forall_hosts hosts hx hm.hosts, fun v' hv' => ?_⟩
    rcases visits v' hv' with hv' | ⟨-, hrest, -⟩
    · exact hm.visits v' hv'
    · exact fun q hq => hleft q (List.mem_cons_of_mem _ (hrest ▸ hq))
  | @processes _ h r x hosts processed visits =>
    rw [Option.toList_none, List.append_nil]
    exact ⟨hm.recordable, forall_hosts hosts ((hm.hosts h).processed processed) hm.hosts,
      visits ▸ hm.visits⟩
  | @sends _ h x hosts sent keeps visits =>
    rw [Option.toList_none, List.append_nil]
    exact ⟨hm.recordable, forall_hosts hosts ((hm.hosts h).sent sent) hm.hosts,
      fun v hv => hm.visits v (visits v hv)⟩
  | @arrives _ h target p hosts owes visits =>
    rw [Option.toList_none, List.append_nil]
    refine ⟨hm.recordable, hosts ▸ hm.hosts, fun v hv => ?_⟩
    rcases List.mem_append.1 (visits ▸ hv) with hv | hv
    · exact hm.visits v hv
    · obtain rfl := List.mem_singleton.1 hv
      exact fun q => Node.stemsFrom_of_mem_pushed hm.recordable
        fun s hs => (hm.hosts h).owes _ s (owes s hs)
  | @pulls _ h source hosts visits =>
    rw [Option.toList_none, List.append_nil]
    refine ⟨hm.recordable, hosts ▸ hm.hosts, fun v hv => ?_⟩
    rcases List.mem_append.1 (visits ▸ hv) with hv | hv
    · exact hm.visits v hv
    · obtain rfl := List.mem_singleton.1 hv
      exact fun q => Node.stemsFrom_of_mem_pulled (hm.hosts source).held

/-- **All that is in a mesh after any acts stems from what nodes accepted.** -/
theorem sound_run (m : Mesh k) (as : List (Act k)) (hm : m.Sound asked) :
    (m.run as).Sound (asked ++ m.accepted as) := by
  induction as generalizing m asked with
  | nil =>
    rw [accepted, List.append_nil]
    exact hm
  | cons a as ih =>
    have hstep := ih (m.step a) (sound_effect (effect_step m a) hm)
    rw [List.append_assoc] at hstep
    exact hstep

end Mesh

end Replica
