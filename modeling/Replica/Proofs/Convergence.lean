/-
# Nodes that have lost nothing agree

Nodes start empty, each with all others among its peers, and clients ask for writes under
versions of which no two are equal.  Acts follow in any order.  If none of them lost a record and
nothing is under way in the end, then **every node holds exactly the newest write of a key if
that is a set, and nothing under a key that no set named** (`Mesh.agree_of_lossless`).

Deletes leave nothing behind, so what a key holds may come and go.  The newest set `t` of a key
does not go: at every moment each node

* holds what `t` left or has `t` in its queue (`Host.Got`), which nothing that stems from an
  accepted request can undo; or
* `t` waits in the queue of the node that accepted it, or is owed to the address
  (`Mesh.Reaches`).

What is owed is forgotten only after a visit that handed the whole batch over, and a visit that
has no `t` left has handed it over (`Mesh.Custody`).
-/

import Mathlib.Data.List.Nodup
import Replica.Proofs.Provenance

namespace Replica

/-! ## 1. What a host has got -/

section Topmost

variable {asked : List Request} {t q : Request}

/-- **Nothing that stems from the requests undoes the topmost set among them.** -/
theorem Topmost.leaves_item? (h : Topmost t asked) (hset : t.action = .set)
    (hq : q.StemsFrom asked) (hk : q.key = t.key) : q.leaves t.item? = t.item? := by
  obtain ⟨a, ha, heq⟩ := hq
  obtain ⟨hkey, hversion, hitem⟩ := Request.eq_of_toPeer_eq heq
  have hak : a.key = t.key := hkey.symm.trans hk
  refine leaves_item?_of_le hset (hversion ▸ h.le a ha hak) fun hv => ?_
  rw [hitem]
  exact h.item?_eq a ha hak (hversion.symm.trans hv)

/-- No host holds anything newer. -/
theorem Topmost.not_newerThan {x : Host} (h : Topmost t asked) (hx : x.Sound asked) :
    ¬ NewerThan t.version (x.node.store.get? t.key) := by
  cases hheld : x.node.store.get? t.key with
  | none => exact newerThan_none
  | some i =>
    obtain ⟨a, ha, hk, hitem⟩ := hx.held _ i hheld
    obtain ⟨-, -, hversion⟩ := Request.item?_eq_some hitem
    rw [newerThan_some, ← hversion, Int64.not_lt]
    exact h.le a ha hk

theorem Topmost.of_append {asked' : List Request} (h : Topmost t (asked ++ asked')) :
    Topmost t asked :=
  ⟨fun q hq => h.le q (List.mem_append_left _ hq),
    fun q hq => h.item?_eq q (List.mem_append_left _ hq)⟩

end Topmost

/-- Whether a host holds what a set left or has the set in its queue. -/
def Host.Got (t : Request) (x : Host) : Prop :=
  x.node.store.get? t.key = t.item? ∨ ∃ q ∈ x.node.intake.queue, q.toPeer = t.toPeer

namespace Host

variable {asked : List Request} {x x' : Host} {t r : Request} {rs : List Request} {lossy : Bool}

theorem Got.joined (h : x.Got t) (hj : x'.Joined x rs) : x'.Got t := by
  rcases h with h | ⟨q, hq, heq⟩
  · exact Or.inl (by rw [hj.store, h])
  · exact Or.inr ⟨q, by rw [hj.queue]; exact List.mem_append_left _ hq, heq⟩

theorem got_of_joined (hj : x'.Joined x rs) (hr : r ∈ rs) (heq : r.toPeer = t.toPeer) :
    x'.Got t :=
  Or.inr ⟨r, by rw [hj.queue]; exact List.mem_append_right _ hr, heq⟩

theorem Got.sent (h : x.Got t) (hs : x'.Sent x) : x'.Got t := by
  unfold Got
  rw [hs.store, hs.queue]
  exact h

/-- A host that has processed the topmost set holds what it left. -/
theorem got_of_processed (htop : Topmost t asked) (hx : x.Sound asked)
    (hp : x'.Processed x r lossy) (heq : r.toPeer = t.toPeer) : x'.Got t := by
  obtain ⟨hkey, hversion, hitem⟩ := Request.eq_of_toPeer_eq heq
  refine Or.inl ?_
  rw [hp.store, Store.get?_apply, if_pos hkey, ← hitem]
  refine Request.leaves_of_not_newer ?_
  rw [hversion]
  exact htop.not_newerThan hx

theorem Got.processed (htop : Topmost t asked) (hset : t.action = .set) (hx : x.Sound asked)
    (h : x.Got t) (hp : x'.Processed x r lossy) : x'.Got t := by
  rcases h with h | ⟨q, hq, heq⟩
  · refine Or.inl ?_
    rw [hp.store, Store.get?_apply, h]
    split
    · next hk => exact htop.leaves_item? hset (hx.queue r (hp.queue ▸ List.mem_cons_self)) hk
    · rfl
  · rw [hp.queue] at hq
    rcases List.mem_cons.1 hq with rfl | hq
    · exact got_of_processed htop hx hp heq
    · exact Or.inr ⟨q, hq, heq⟩

end Host

namespace Mesh

variable {k : Nat} {asked : List Request} {t : Request} {m m' : Mesh k}
  {accepted : Option Request} {lossy : Bool}

/-! ## 2. Host by host -/

/-- **What may have become of a host**: requests have joined its queue, it has processed one, or
a sender of it has gone on. -/
inductive Became (m : Mesh k) (lossy : Bool) (x x' : Host) : Prop where
  | joined (rs : List Request) (joined : x'.Joined x rs)
  | processed (r : Request) (processed : x'.Processed x r lossy)
  | sent (sent : x'.Sent x) (keeps : lossy = false → ∀ address record,
      x.Owes address record → x'.Owes address record ∨ m.Delivered address record)

theorem became_self (m : Mesh k) (lossy : Bool) (x : Host) : m.Became lossy x x :=
  .joined [] (Host.Alike.refl x)

theorem became_of_effect (e : Effect m m' accepted lossy) (n : Fin k) :
    m.Became lossy (m.hosts n) (m'.hosts n) := by
  have hothers : ∀ {h : Fin k} {x : Host}, m'.hosts = Function.update m.hosts h x →
      m.Became lossy (m.hosts h) x → m.Became lossy (m.hosts n) (m'.hosts n) :=
    fun hosts hx => forall_hosts (P := fun g => m.Became lossy (m.hosts g)) hosts hx
      (fun g => became_self m lossy (m.hosts g)) n
  cases e with
  | aside hosts visits => exact .joined [] (hosts n)
  | joins recordable origin hosts joined visits => exact hothers hosts (.joined _ joined)
  | hands mem left hosts joined visits => exact hothers hosts (.joined _ joined)
  | processes hosts processed visits => exact hothers hosts (.processed _ processed)
  | sends hosts sent keeps visits => exact hothers hosts (.sent sent keeps)
  | arrives hosts owes visits =>
    rw [hosts]
    exact became_self m lossy _
  | pulls hosts visits =>
    rw [hosts]
    exact became_self m lossy _

theorem address_effect (e : Effect m m' accepted lossy) (n : Fin k) :
    (m'.hosts n).address = (m.hosts n).address := by
  cases became_of_effect e n with
  | joined rs hj => exact hj.address
  | processed r hp => exact hp.address
  | sent hs _ => exact hs.address

theorem serves_effect (e : Effect m m' accepted lossy) {n : Fin k} {address : String}
    (h : (m.hosts n).Serves address) : (m'.hosts n).Serves address := by
  cases became_of_effect e n with
  | joined rs hj =>
    obtain ⟨o, hm, ha⟩ := h
    exact ⟨o, hj.outboxes ▸ hm, ha⟩
  | processed r hp => exact hp.serves address h
  | sent hs _ => exact hs.serves address h

/-- **Once got, the topmost set stays.** -/
theorem got_effect (e : Effect m m' accepted lossy) (htop : Topmost t asked)
    (hset : t.action = .set) (hm : m.Sound asked) {n : Fin k} (h : (m.hosts n).Got t) :
    (m'.hosts n).Got t := by
  cases became_of_effect e n with
  | joined rs hj => exact h.joined hj
  | processed r hp => exact h.processed htop hset (hm.hosts n) hp
  | sent hs _ => exact h.sent hs

/-- **What is owed stays owed** until it is delivered. -/
theorem owes_effect (e : Effect m m' accepted false) {n : Fin k} {address record : String}
    (h : (m.hosts n).Owes address record) :
    (m'.hosts n).Owes address record ∨ m.Delivered address record := by
  cases became_of_effect e n with
  | joined rs hj =>
    obtain ⟨o, hm, hrest⟩ := h
    exact Or.inl ⟨o, hj.outboxes ▸ hm, hrest⟩
  | processed r hp => exact Or.inl (hp.keeps rfl address record h)
  | sent _ hkeeps => exact hkeeps rfl address record h

/-- **What a client asked for waits in the queue** until the host has got it and owes it to every
address it sends to. -/
theorem queued_effect (e : Effect m m' accepted false) (htop : Topmost t asked)
    (hclient : t.origin = .client) (hm : m.Sound asked) {n : Fin k}
    (h : t ∈ (m.hosts n).node.intake.queue) :
    t ∈ (m'.hosts n).node.intake.queue ∨ ((m'.hosts n).Got t ∧ ∀ address,
      (m.hosts n).Serves address → (m'.hosts n).Owes address t.toPeer.record) := by
  cases became_of_effect e n with
  | joined rs hj =>
    rw [hj.queue]
    exact Or.inl (List.mem_append_left _ h)
  | processed r hp =>
    rw [hp.queue] at h
    rcases List.mem_cons.1 h with rfl | h
    · exact Or.inr ⟨Host.got_of_processed htop (hm.hosts n) hp rfl, hp.offers rfl hclient⟩
    · exact Or.inl h
  | sent hs _ =>
    rw [hs.queue]
    exact Or.inl h

/-! ## 3. Whose hands a set is in -/

/-- Each host sends to all others, and a visit that has not the set left of a batch with it has
handed it over. -/
structure Custody (asked : List Request) (t : Request) (m : Mesh k) : Prop where
  sound : m.Sound asked
  address_ne : ∀ g h, g ≠ h → (m.hosts g).address ≠ (m.hosts h).address
  serves : ∀ g h, g ≠ h → (m.hosts g).Serves (m.hosts h).address
  handed : ∀ v ∈ m.visits, ∀ p, v.push = some p → t.toPeer.record ∈ p.batch →
    t.toPeer ∈ v.left ∨ (m.hosts v.target).Got t

/-- A host has got the set, or the set waits at the host that accepted it, or is owed to the
address. -/
def Reaches (m : Mesh k) (t : Request) : Prop :=
  ∀ n, (m.hosts n).Got t ∨ ∃ h, t ∈ (m.hosts h).node.intake.queue ∨
    (m.hosts h).Owes (m.hosts n).address t.toPeer.record

theorem handed_effect (e : Effect m m' accepted lossy) (htop : Topmost t asked)
    (hset : t.action = .set) (hrec : t.Recordable) (hm : m.Custody asked t) :
    ∀ v ∈ m'.visits, ∀ p, v.push = some p → t.toPeer.record ∈ p.batch →
      t.toPeer ∈ v.left ∨ (m'.hosts v.target).Got t := by
  have hkeep : ∀ v ∈ m.visits, ∀ p, v.push = some p → t.toPeer.record ∈ p.batch →
      t.toPeer ∈ v.left ∨ (m'.hosts v.target).Got t := fun v hv p hp hb =>
    (hm.handed v hv p hp hb).imp id (got_effect e htop hset hm.sound)
  intro v' hv' p hpush hbatch
  cases e with
  | aside hosts visits =>
    obtain ⟨v, hv, htarget, hleft, hp⟩ := visits v' hv'
    rw [hleft, htarget]
    exact hkeep v hv p (hp.symm.trans hpush) hbatch
  | joins recordable origin hosts joined visits => exact hkeep v' (visits ▸ hv') p hpush hbatch
  | processes hosts processed visits => exact hkeep v' (visits ▸ hv') p hpush hbatch
  | sends hosts sent keeps visits => exact hkeep v' (visits v' hv') p hpush hbatch
  | @hands _ v r rest x mem left hosts joined visits =>
    rcases visits v' hv' with hv' | ⟨htarget, hleft, hp⟩
    · exact hkeep v' hv' p hpush hbatch
    · rw [hleft, htarget]
      rcases hkeep v mem p (hp.symm.trans hpush) hbatch with hin | hgot
      · rcases List.mem_cons.1 (left ▸ hin) with heq | hin
        · have hx : (m'.hosts v.target).Joined (m.hosts v.target) [r] := by
            rw [hosts, Function.update_self]
            exact joined
          exact Or.inr (Host.got_of_joined hx List.mem_cons_self (heq ▸ t.toPeer_toPeer))
        · exact Or.inl hin
      · exact Or.inr hgot
  | arrives hosts owes visits =>
    rcases List.mem_append.1 (visits ▸ hv') with hv' | hv'
    · exact hkeep v' hv' p hpush hbatch
    · obtain rfl := List.mem_singleton.1 hv'
      obtain rfl := Option.some.inj hpush
      exact Or.inl (Node.mem_pushed hrec hbatch)
  | pulls hosts visits =>
    rcases List.mem_append.1 (visits ▸ hv') with hv' | hv'
    · exact hkeep v' hv' p hpush hbatch
    · obtain rfl := List.mem_singleton.1 hv'
      cases hpush

/-- **An act leaves every set in somebody's hands.** -/
theorem custody_effect (e : Effect m m' accepted lossy) (htop : Topmost t asked)
    (hset : t.action = .set) (hrec : t.Recordable) (hm : m.Custody asked t) :
    m'.Custody (asked ++ accepted.toList) t where
  sound := sound_effect e hm.sound
  address_ne g h hne := by
    rw [address_effect e g, address_effect e h]
    exact hm.address_ne g h hne
  serves g h hne := by
    rw [address_effect e h]
    exact serves_effect e (hm.serves g h hne)
  handed := handed_effect e htop hset hrec hm

/-- **An act that loses nothing leaves the topmost set on its way to every host.** -/
theorem reaches_effect (e : Effect m m' accepted false) (htop : Topmost t asked)
    (hset : t.action = .set) (hclient : t.origin = .client) (hm : m.Custody asked t)
    (h : m.Reaches t) : m'.Reaches t := by
  intro n
  rcases h n with hgot | ⟨g, hqueued | howes⟩
  · exact Or.inl (got_effect e htop hset hm.sound hgot)
  · rcases queued_effect e htop hclient hm.sound hqueued with hqueued | ⟨hgot, howes⟩
    · exact Or.inr ⟨g, Or.inl hqueued⟩
    · by_cases hg : g = n
      · exact Or.inl (hg ▸ hgot)
      · refine Or.inr ⟨g, Or.inr ?_⟩
        rw [address_effect e n]
        exact howes _ (hm.serves g n hg)
  · rcases owes_effect e howes with howes | ⟨v, hv, p, hleft, hpush, hbatch, haddress⟩
    · refine Or.inr ⟨g, Or.inr ?_⟩
      rw [address_effect e n]
      exact howes
    · have htarget : v.target = n := by
        by_contra hne
        exact hm.address_ne _ _ hne haddress
      have hgot : (m.hosts v.target).Got t := by
        simpa [hleft] using hm.handed v hv p hpush hbatch
      exact Or.inl (got_effect e htop hset hm.sound (htarget ▸ hgot))

/-- A set that has just been accepted is on its way. -/
theorem reaches_of_accepted (e : Effect m m' (some t) lossy) : m'.Reaches t := by
  cases e with
  | @joins _ h r x recordable origin hosts joined visits =>
    refine fun n => Or.inr ⟨h, Or.inl ?_⟩
    rw [hosts, Function.update_self, joined.queue]
    exact List.mem_concat_self

/-! ## 4. Many acts -/

/-- What a node accepts has a key that a line can carry and comes from a client. -/
theorem recordable_of_accepted {r : Request} (e : Effect m m' (some r) lossy) :
    r.Recordable ∧ r.origin = .client := by
  cases e with
  | joins recordable origin hosts joined visits => exact ⟨recordable, origin⟩

theorem recordable_of_mem_accepted {as : List (Act k)} (h : t ∈ m.accepted as) :
    t.Recordable ∧ t.origin = .client := by
  induction as generalizing m with
  | nil => simp [accepted] at h
  | cons a as ih =>
    rcases List.mem_append.1 h with h | h
    · have e := effect_step m a
      rw [Option.mem_toList.1 h] at e
      exact recordable_of_accepted e
    · exact ih h

/-- **After any acts that lose nothing the topmost set is on its way to every host**, if it was
before or was accepted meanwhile. -/
theorem reaches_run (m : Mesh k) (as : List (Act k)) (hlossless : m.lossless as = true)
    (htop : Topmost t (asked ++ m.accepted as)) (hset : t.action = .set)
    (hrec : t.Recordable) (hclient : t.origin = .client) (hm : m.Custody asked t)
    (h : m.Reaches t ∨ t ∈ m.accepted as) : (m.run as).Reaches t := by
  induction as generalizing m asked with
  | nil => exact h.resolve_right (by simp [accepted])
  | cons a as ih =>
    obtain ⟨hl, hlossless⟩ : m.loses a = false ∧ (m.step a).lossless as = true := by
      simpa [lossless] using hlossless
    have e : Effect m (m.step a) (m.acceptedBy? a) false := hl ▸ effect_step m a
    have htop' : Topmost t asked := htop.of_append
    refine ih (m.step a) hlossless ?_ (custody_effect e htop' hset hrec hm) ?_
    · rw [List.append_assoc]
      exact htop
    · rcases h with h | h
      · exact Or.inl (reaches_effect e htop' hset hclient hm h)
      · rcases List.mem_append.1 h with h | h
        · rw [Option.mem_toList.1 h] at e
          exact Or.inl (reaches_of_accepted e)
        · exact Or.inr h

/-! ## 5. The start and the end -/

theorem sound_of_fresh (h : m.Fresh) : m.Sound [] where
  recordable a ha := by cases ha
  hosts n := by
    obtain ⟨s, d, hopen⟩ := h.opened n
    obtain ⟨-, hqueue, houtboxes⟩ := Node.openIn_eq_ok hopen
    refine ⟨fun q hq => ?_, fun address record ho => ?_, fun key i hi => ?_⟩
    · rw [hqueue] at hq
      cases hq
    · obtain ⟨o, hm, -, hpending⟩ := ho
      rw [houtboxes] at hm
      obtain ⟨peer, -, rfl⟩ := List.mem_map.1 hm
      cases hpending
    · rw [h.store n] at hi
      cases hi
  visits v hv := by
    rw [h.visits] at hv
    cases hv

theorem custody_of_fresh (h : m.Fresh) (t : Request) : m.Custody [] t where
  sound := sound_of_fresh h
  address_ne := h.address_ne
  serves g n hne := by
    obtain ⟨s, d, hopen⟩ := h.opened g
    obtain ⟨hsettings, -, houtboxes⟩ := Node.openIn_eq_ok hopen
    refine ⟨Outbox.new (m.hosts n).address s.sender, ?_, rfl⟩
    rw [houtboxes]
    exact List.mem_map_of_mem (hsettings ▸ h.mem_peers g n hne)
  handed v hv := by
    rw [h.visits] at hv
    cases hv

/-- **When nothing is under way, what is on its way has arrived.** -/
theorem get?_of_reaches (hq : m.Quiescent) (h : m.Reaches t) (n : Fin k) :
    (m.hosts n).node.get? t.key = t.item? := by
  rcases h n with (hheld | ⟨q, hmem, -⟩) | ⟨g, hqueued | ⟨o, hmem, -, howed⟩⟩
  · exact hheld
  · rw [hq.intake n] at hmem
    cases hmem
  · rw [hq.intake g] at hqueued
    cases hqueued
  · obtain ⟨hqueue, hbatch⟩ := hq.outboxes g o hmem
    rw [Outbox.pending, hqueue, hbatch] at howed
    cases howed

/-- A newest request of its key is the topmost one when no two versions are equal. -/
theorem topmost_of_nodup (hversions : (asked.map Request.version).Nodup) (ht : t ∈ asked)
    (hle : ∀ a ∈ asked, a.key = t.key → a.version ≤ t.version) : Topmost t asked :=
  ⟨hle, fun _ ha _ hv => congrArg Request.item? (List.inj_on_of_nodup_map hversions ha ht hv)⟩

/-- **Nodes that have lost nothing agree** when nothing is under way: each holds exactly the
newest accepted request of a key if that is a set, and nothing under a key that no accepted set
named. -/
theorem agree_of_lossless (m : Mesh k) (as : List (Act k)) (hfresh : m.Fresh)
    (hversions : ((m.accepted as).map Request.version).Nodup)
    (hlossless : m.lossless as = true) (hquiet : (m.run as).Quiescent) :
    (∀ t ∈ m.accepted as, t.action = .set →
      (∀ a ∈ m.accepted as, a.key = t.key → a.version ≤ t.version) →
        ∀ n, ((m.run as).hosts n).node.get? t.key = some ⟨t.value, t.version⟩) ∧
    ∀ key, (∀ a ∈ m.accepted as, a.action = .set → a.key ≠ key) →
      ∀ n, ((m.run as).hosts n).node.get? key = none := by
  constructor
  · intro t ht hset hle n
    obtain ⟨hrec, hclient⟩ := recordable_of_mem_accepted ht
    have hreaches : (m.run as).Reaches t :=
      reaches_run m as hlossless (topmost_of_nodup hversions ht hle) hset hrec hclient
        (custody_of_fresh hfresh t) (Or.inr ht)
    rw [get?_of_reaches hquiet hreaches n]
    simp [Request.item?, hset]
  · intro key hkey n
    have hsound : (m.run as).Sound (m.accepted as) := sound_run m as (sound_of_fresh hfresh)
    cases hheld : ((m.run as).hosts n).node.get? key with
    | none => rfl
    | some i =>
      obtain ⟨a, ha, hk, hitem⟩ := (hsound.hosts n).held key i hheld
      exact absurd hk (hkey a ha (Request.item?_eq_some hitem).1)

/-- A node at its address, opened on an empty disk. -/
def site (address : String) (s : Settings) : Host where
  address
  node := (Node.openIn s .empty).1.toOption.getD (.solitary (Fin.last 999))
  disk := (Node.openIn s .empty).2

theorem openIn_site (address : String) {s : Settings}
    (h : (Node.openIn s .empty).1.toOption.isSome = true) :
    Node.openIn s .empty = (.ok (site address s).node, (site address s).disk) := by
  unfold site
  rcases hopen : Node.openIn s .empty with ⟨e | n, d⟩
  · rw [hopen] at h
    cases h
  · rfl

/-- Two nodes that send to each other. -/
def pair : Mesh 2 where
  hosts
    | 0 => site "a" { node := 0, directory := "data", peers := ["b"] }
    | 1 => site "b" { node := 1, directory := "data", peers := ["a"] }

/-- A set whose first call is cut off when the peer has already taken it, a delete of the same
key at the peer in between, and a newer set that comes by a snapshot and by a call. -/
def pairActs : List (Act 2) :=
  [.ask 0 1700000000000 (.set "k" [1]), .process 0, .resume 0 0 0, .resume 0 0 50000000,
    .arrive 0 0 1, .invite 0, .fail 0 0 60000000 (.ok 0), .hand 0, .leave 0,
    .ask 1 1700000000001 (.delete "k"), .process 1, .process 1,
    .resume 0 0 2000000000, .arrive 0 0 1, .hand 0, .answer 0 2000000000, .process 1,
    .resume 1 0 0, .resume 1 0 50000000, .arrive 1 0 0, .hand 0, .answer 0 60000000, .process 0,
    .ask 1 1700000000002 (.set "k" [2]), .process 1, .pull 0 1, .hand 0, .leave 0, .process 0,
    .resume 1 0 70000000, .resume 1 0 2000000000, .arrive 1 0 0, .hand 0, .answer 0 2000000000,
    .process 0]

theorem fresh_pair : pair.Fresh where
  opened
    | 0 => ⟨_, _, openIn_site "a" (by decide +kernel)⟩
    | 1 => ⟨_, _, openIn_site "b" (by decide +kernel)⟩
  store := by decide +kernel
  visits := rfl
  address_ne := by decide +kernel
  mem_peers := by decide +kernel

theorem agree_of_lossless_pair :
    pair.Fresh ∧ ((pair.accepted pairActs).map Request.version).Nodup ∧
      pair.lossless pairActs = true ∧ (pair.run pairActs).Quiescent ∧
      (∀ n, ((pair.run pairActs).hosts n).node.get? "k" = some ⟨[2], 1700000000002001002⟩) ∧
      ∀ n, ((pair.run pairActs).hosts n).node.get? "j" = none := by
  have hversions : ((pair.accepted pairActs).map Request.version).Nodup := by decide +kernel
  have hlossless : pair.lossless pairActs = true := by decide +kernel
  have hquiet : (pair.run pairActs).Quiescent :=
    ⟨by decide +kernel, by decide +kernel, by decide +kernel⟩
  obtain ⟨hset, habsent⟩ :=
    agree_of_lossless pair pairActs fresh_pair hversions hlossless hquiet
  exact ⟨fresh_pair, hversions, hlossless, hquiet,
    hset (.set 1700000000002001002 .client "k" [2]) (by decide +kernel) rfl (by decide +kernel),
    habsent "j" (by decide +kernel)⟩

end Mesh

end Replica
