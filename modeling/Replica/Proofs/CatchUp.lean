/-
# Catching up

A node that catches up asks its peers one after another, takes the first snapshot that comes in
time and reads, and hands its items over to its own pipeline as a peer's sets, with the versions
that they have.

* **The first usable peer in the order of the list decides** (`catchUp_of_firstUsable`), whatever
  the others answer or do not; without one nothing is handed over (`catchUp_of_none`).
* **What comes of it is a merge**: a key holds the pulled item unless its own is newer
  (`get?_processAll_pulled`).  Of two items with one version the pulled one stays, so the order
  matters: but who then catches up the other way takes over that choice (`merged_turned`), and
  both hold the same (`stores_eq_of_catchUps`).

What goes on between the portions of the handing over is left open, so that it comes to its end is
asked of the places that it finds; at a node where nothing else goes on nothing is asked, and there
the merge is all that has changed when all wait again (`catchUp_of_quiet`).
-/

import Replica.Proofs.Entrances
import Replica.Proofs.Quiet

namespace Replica

namespace Cluster

variable {c : Cluster} {limit : Span} {address : String}

/-! ## 1. One peer -/

/-- **Without an answer within the limit** a call is cut off there. -/
theorem pull_of_late
    (h : ∀ t, (c.reception address).arrival c.now = some t → c.now + limit.nanos < t) :
    c.pull limit address = (.error .timeout, c.waitUntil (c.now + limit.nanos)) := by
  have hcall : endOfCall c.now limit ((c.reception address).arrival c.now) (.ok ()) =
      (c.now + limit.nanos, .error .timeout) := by
    unfold endOfCall
    cases harrival : (c.reception address).arrival c.now with
    | none => rfl
    | some t => exact if_neg (Nat.not_le.2 (h t harrival))
  simp only [pull, ask, hcall]

/-- What comes within the limit is an error, or the snapshot of the node that is open then. -/
theorem pull_in_time {t : Moment} (harrival : (c.reception address).arrival c.now = some t)
    (ht : t ≤ c.now + limit.nanos) :
    (c.pull limit address).1 =
      match (c.reception address).error with
      | some e => .error e
      | none =>
        match ((c.waitUntil t).find? address).bind (c.waitUntil t).node? with
        | none => .error (.unreachable address)
        | some peer => .ok ((c.reception address).snapshot.getD peer.store.snapshot) := by
  have hcall : endOfCall c.now limit ((c.reception address).arrival c.now) (.ok ()) =
      (t, .ok ()) := by
    unfold endOfCall
    rw [harrival]
    exact if_pos ht
  simp only [pull, ask, hcall]
  cases (c.reception address).error with
  | some e => rfl
  | none => cases ((c.waitUntil t).find? address).bind (c.waitUntil t).node? <;> rfl

/-- **What an answer to a pull is**: bytes that come within the limit and past no error, the
snapshot of the node that is open at the address then, or what stands in for it. -/
theorem pull_eq_ok_iff {b : Bytes} :
    (c.pull limit address).1 = .ok b ↔
      ∃ t peer, (c.reception address).arrival c.now = some t ∧ t ≤ c.now + limit.nanos ∧
        (c.reception address).error = none ∧
        ((c.waitUntil t).find? address).bind (c.waitUntil t).node? = some peer ∧
        b = (c.reception address).snapshot.getD peer.store.snapshot := by
  constructor
  · intro h
    by_cases hlate : ∀ t, (c.reception address).arrival c.now = some t → c.now + limit.nanos < t
    · rw [pull_of_late hlate] at h
      cases h
    · obtain ⟨t, htime⟩ := Classical.not_forall.1 hlate
      obtain ⟨harrival, ht⟩ := Classical.not_imp.1 htime
      rw [pull_in_time harrival (Nat.not_lt.1 ht)] at h
      cases herror : (c.reception address).error with
      | some e =>
        rw [herror] at h
        cases h
      | none =>
        rw [herror] at h
        cases hpeer : ((c.waitUntil t).find? address).bind (c.waitUntil t).node? with
        | none =>
          rw [hpeer] at h
          cases h
        | some peer =>
          rw [hpeer] at h
          exact ⟨t, peer, harrival, Nat.not_lt.1 ht, rfl, hpeer, (Except.ok.inj h).symm⟩
  · rintro ⟨t, peer, harrival, ht, herror, hpeer, rfl⟩
    rw [pull_in_time harrival ht, herror, hpeer]

/-! ## 2. One peer after another -/

/-- The store that an answer to a pull brings, if it brings one. -/
def usable? (answer : Except Error Bytes) : Option Store :=
  answer.toOption.bind fun b => (Store.ofSnapshot b).toOption

/-- What peers answer when each is asked in its turn, whatever the ones before it did. -/
def answers (limit : Span) : List String → Cluster → List (Except Error Bytes)
  | [], _ => []
  | address :: rest, c => (c.pull limit address).1 :: answers limit rest (c.pull limit address).2

/-- The cluster behind these calls. -/
def asked (limit : Span) (peers : List String) (c : Cluster) : Cluster :=
  peers.foldl (fun c address => (c.pull limit address).2) c

/-- The first peer in the order of the list that gives a store gives this one, and leaves the
cluster like this. -/
def FirstUsable (limit : Span) (peers : List String) (c : Cluster) (s : Store) (c' : Cluster) :
    Prop :=
  ∃ before address after, peers = before ++ address :: after ∧
    (∀ answer ∈ answers limit before c, usable? answer = none) ∧
    usable? ((asked limit before c).pull limit address).1 = some s ∧
    ((asked limit before c).pull limit address).2 = c'

theorem pullFirst_cons (limit : Span) (address : String) (rest : List String) (c : Cluster) :
    pullFirst limit (address :: rest) c =
      match usable? (c.pull limit address).1 with
      | some s => (some s, (c.pull limit address).2)
      | none => pullFirst limit rest (c.pull limit address).2 := by
  rw [pullFirst]
  unfold usable?
  rcases c.pull limit address with ⟨e | b, c'⟩
  · rfl
  · cases hread : Store.ofSnapshot b <;> simp [Except.toOption, hread]

/-- **Without a usable answer nothing is found**, and all have been asked. -/
theorem pullFirst_of_none {peers : List String}
    (h : ∀ answer ∈ answers limit peers c, usable? answer = none) :
    pullFirst limit peers c = (none, asked limit peers c) := by
  induction peers generalizing c with
  | nil => rfl
  | cons address rest ih =>
    rw [answers, List.forall_mem_cons] at h
    rw [pullFirst_cons, h.1]
    exact ih h.2

/-- **The first usable answer is the one that is taken**, and nobody behind it is asked. -/
theorem pullFirst_of_firstUsable {peers : List String} {s : Store} {c' : Cluster}
    (h : FirstUsable limit peers c s c') : pullFirst limit peers c = (some s, c') := by
  obtain ⟨before, address, after, rfl, hbefore, hs, rfl⟩ := h
  induction before generalizing c with
  | nil =>
    have hfirst : usable? (c.pull limit address).1 = some s := hs
    rw [List.nil_append, pullFirst_cons, hfirst]
    rfl
  | cons first before ih =>
    rw [answers, List.forall_mem_cons] at hbefore
    rw [List.cons_append, pullFirst_cons, hbefore.1]
    exact ih hbefore.2 hs

/-- Either a peer is usable or none is. -/
theorem firstUsable_or_none (limit : Span) (peers : List String) (c : Cluster) :
    (∃ s c', FirstUsable limit peers c s c') ∨
      ∀ answer ∈ answers limit peers c, usable? answer = none := by
  induction peers generalizing c with
  | nil => exact Or.inr (List.forall_mem_nil _)
  | cons address rest ih =>
    cases hfirst : usable? (c.pull limit address).1 with
    | some s => exact Or.inl ⟨s, _, [], address, rest, rfl, List.forall_mem_nil _, hfirst, rfl⟩
    | none =>
      rcases ih (c.pull limit address).2 with
        ⟨s, c', before, later, after, rfl, hbefore, hs, rfl⟩ | hnone
      · exact Or.inl ⟨s, _, address :: before, later, after, rfl,
          List.forall_mem_cons.2 ⟨hfirst, hbefore⟩, hs, rfl⟩
      · exact Or.inr (List.forall_mem_cons.2 ⟨hfirst, hnone⟩)

/-! ## 3. A node and its peers -/

section CatchUp

variable {m : Nat} {n : Node}

/-- **A node whose peers are of no use** hands nothing over. -/
theorem catchUp_of_none (hnode : c.node? m = some n) (hpeers : n.settings.peers ≠ [])
    (h : ∀ answer ∈ answers n.settings.sender.callLimit n.settings.peers c,
      usable? answer = none) :
    c.catchUp m = (.error (.noUsablePeer n.settings.peers.length),
      asked n.settings.sender.callLimit n.settings.peers c) := by
  unfold catchUp
  simp only [hnode, List.isEmpty_iff, hpeers, if_false, pullFirst_of_none h]

/-- **Otherwise it hands over what the first usable peer gave**, and that only. -/
theorem catchUp_of_firstUsable (hnode : c.node? m = some n) {s : Store} {c' : Cluster}
    (h : FirstUsable n.settings.sender.callLimit n.settings.peers c s c') :
    c.catchUp m = ((c'.deliver m (Node.pulled s)).1.mapError .refused,
      (c'.deliver m (Node.pulled s)).2) := by
  have hpeers : n.settings.peers ≠ [] := by
    obtain ⟨before, address, after, hsplit, -⟩ := h
    rw [hsplit]
    exact List.append_ne_nil_of_right_ne_nil before (List.cons_ne_nil address after)
  unfold catchUp
  simp only [hnode, List.isEmpty_iff, hpeers, if_false, pullFirst_of_firstUsable h]

theorem length_pulled (s : Store) : (Node.pulled s).length = s.size := List.length_map _

/-- Where each round finds a place, the answer is how many items there were. -/
theorem catchUp_eq_ok (hnode : c.node? m = some n) {s : Store} {c' : Cluster}
    (h : FirstUsable n.settings.sender.callLimit n.settings.peers c s c')
    (hrounds : ∀ x ∈ rounds m (s.size + 1) (Node.pulled s) c', x.IsOpen m ∧ x.Admits .caller m) :
    (c.catchUp m).1 = .ok s.size := by
  rw [← length_pulled] at hrounds ⊢
  rw [catchUp_of_firstUsable hnode h, deliver_of_admits hrounds]
  rfl

/-- **A node at which nothing else goes on** takes all of the items. -/
theorem catchUp_of_quiet (hnode : c.node? m = some n) {s : Store} {c' : Cluster}
    (h : FirstUsable n.settings.sender.callLimit n.settings.peers c s c') {x : Member}
    (hquiet : c'.Quiet m x) :
    (c.catchUp m).1 = .ok s.size ∧
      (c.catchUp m).2.settle = c'.behind m x (Node.pulled s) := by
  have hpeer : ∀ r ∈ Node.pulled s, r.origin = .peer := by
    intro r hr
    obtain ⟨key, i, -, rfl⟩ := Node.mem_pulled_iff.1 hr
    rfl
  obtain ⟨hresult, hend⟩ := deliver_of_quiet hquiet hpeer
  rw [catchUp_of_firstUsable hnode h, hresult, length_pulled]
  exact ⟨rfl, hend⟩

end CatchUp

end Cluster

/-! ## 4. Merging -/

/-- What a key holds once an item has been pulled over what it held: the pulled one, unless the
other is newer. -/
def Item.merged (held pulled : Option Item) : Option Item :=
  match held, pulled with
  | held, none => held
  | none, some p => some p
  | some i, some p => if i.version ≤ p.version then some p else some i

namespace Item

variable {held pulled : Option Item}

@[simp] theorem merged_none (held : Option Item) : merged held none = held := by
  cases held <;> rfl

theorem merged_some_some (i p : Item) :
    merged (some i) (some p) = if i.version ≤ p.version then some p else some i := rfl

/-- A pulled set leaves the merge of its item. -/
theorem leaves_set (p : Item) (key : String) (held : Option Item) :
    (Request.set p.version .peer key p.value).leaves held = merged held (some p) := by
  cases held with
  | none => rfl
  | some i =>
    rw [merged_some_some]
    by_cases h : i.version ≤ p.version
    · rw [if_pos h]
      exact Request.leaves_of_not_newer fun hnewer => Int64.not_le.2 hnewer h
    · rw [if_neg h]
      exact Request.leaves_of_newer (Int64.not_le.1 h)

/-- **No key is emptied.** -/
theorem isSome_merged (h : held.isSome) : (merged held pulled).isSome := by
  cases held with
  | none => cases h
  | some i =>
    cases pulled with
    | none => rfl
    | some p =>
      rw [merged_some_some]
      split <;> rfl

/-- **Pulling again changes nothing.** -/
theorem merged_again (held pulled : Option Item) :
    merged (merged held pulled) pulled = merged held pulled := by
  cases pulled with
  | none => simp only [merged_none]
  | some p =>
    have hself : merged (some p) (some p) = some p := if_pos (Int64.le_refl _)
    cases held with
    | none => exact hself
    | some i =>
      rw [merged_some_some]
      split
      · exact hself
      · next h => exact if_neg h

/-- **The other way round the merge is taken over as it is**, ties included: it is at least as
new as what it is merged into, of which it is made. -/
theorem merged_turned (held pulled : Option Item) :
    merged pulled (merged held pulled) = merged held pulled := by
  cases pulled with
  | none =>
    rw [merged_none]
    cases held <;> rfl
  | some p =>
    have hself : merged (some p) (some p) = some p := if_pos (Int64.le_refl _)
    cases held with
    | none => exact hself
    | some i =>
      rw [merged_some_some]
      split
      · exact hself
      · next h => exact if_pos (Int64.le_of_lt (Int64.not_le.1 h))

end Item

namespace Node

/-- Entries of different keys: of their sets the one of a key decides what it holds. -/
theorem heldAfter_sets (key : String) (held : Option Item) {es : List (String × Item)}
    (h : es.Pairwise fun e f => e.1 < f.1) :
    heldAfter key (es.map fun e => .set e.2.version .peer e.1 e.2.value) held =
      Item.merged held (Dict.lookup key es) := by
  induction es generalizing held with
  | nil => exact (Item.merged_none held).symm
  | cons e es ih =>
    obtain ⟨k, p⟩ := e
    obtain ⟨hk, hes⟩ := List.pairwise_cons.1 h
    have hset : (Request.set p.version .peer k p.value).key = k := rfl
    change heldAfter key (Request.set p.version .peer k p.value :: _) held = _
    by_cases hkey : k = key
    · subst hkey
      rw [heldAfter_cons_self hset, Item.leaves_set, ih _ hes, Dict.lookup_eq_none_of_lt hk,
        Item.merged_none, Dict.lookup, if_pos rfl]
    · rw [heldAfter_cons_of_ne hkey, ih held hes, Dict.lookup, if_neg hkey]

/-- **What comes of pulled items**: key by key the merge of what was there and what was pulled. -/
theorem get?_processAll_pulled (n : Node) (d : Disk) (s : Store) (key : String) :
    (n.processAll d (pulled s)).1.get? key = Item.merged (n.get? key) (s.get? key) := by
  rw [get?_processAll]
  exact heldAfter_sets key _ s.items.ascending

/-- **Pulling the same again changes nothing.** -/
theorem store_pulled_again (n : Node) (d d' : Disk) (s : Store) :
    ((n.processAll d (pulled s)).1.processAll d' (pulled s)).1.store =
      (n.processAll d (pulled s)).1.store := by
  refine Store.ext_get? fun key => ?_
  have hagain := get?_processAll_pulled (n.processAll d (pulled s)).1 d' s key
  rw [get?_processAll_pulled n d s key, Item.merged_again] at hagain
  exact hagain.trans (get?_processAll_pulled n d s key).symm

/-- **Who then catches up the other way** holds the same. -/
theorem store_pulled_back (a b : Node) (d d' : Disk) :
    (b.processAll d' (pulled (a.processAll d (pulled b.store)).1.store)).1.store =
      (a.processAll d (pulled b.store)).1.store := by
  refine Store.ext_get? fun key => ?_
  have hmerged : (a.processAll d (pulled b.store)).1.store.get? key =
      Item.merged (a.get? key) (b.get? key) := get?_processAll_pulled a d b.store key
  have hback := get?_processAll_pulled b d' (a.processAll d (pulled b.store)).1.store key
  rw [hmerged, Item.merged_turned] at hback
  exact hback.trans hmerged.symm

end Node

/-! ## 5. All together -/

namespace Cluster

theorem usable?_snapshot (s : Store) : usable? (.ok s.snapshot) = some s := by
  simp only [usable?, Except.toOption, Option.bind_some, Store.ofSnapshot_snapshot]

/-- **Two nodes that catch up from each other hold the same.**  The first takes the store of the
second; the second, in which nothing has been written since, the store that the first has then. -/
theorem stores_eq_of_catchUps {c c' c'' : Cluster} {a b : Nat} (hne : a ≠ b) {n : Node}
    {x y x' : Member} (hnode : c.node? a = some n)
    (hfirst : FirstUsable n.settings.sender.callLimit n.settings.peers c y.node.store c')
    (ha : c'.Quiet a x) (hb : c'.Quiet b y)
    (hback : FirstUsable y.node.settings.sender.callLimit y.node.settings.peers
      (c.catchUp a).2.settle x'.node.store c'')
    (ha' : c''.member? a = some x') (hb' : c''.Quiet b y)
    (hstays : ((c.catchUp a).2.settle.node? a).map (·.store) = some x'.node.store) :
    (((c.catchUp a).2.settle.catchUp b).2.settle.node? a).map (·.store) =
      (((c.catchUp a).2.settle.catchUp b).2.settle.node? b).map (·.store) := by
  have hfirstEnd : (c.catchUp a).2.settle = c'.behind a x (Node.pulled y.node.store) :=
    (catchUp_of_quiet hnode hfirst ha).2
  have hnode' : (c.catchUp a).2.settle.node? b = some y.node := by
    rw [hfirstEnd, node?_behind_of_ne hne, node?_of_member? hb.member]
  have hsecondEnd : ((c.catchUp a).2.settle.catchUp b).2.settle =
      c''.behind b y (Node.pulled x'.node.store) := (catchUp_of_quiet hnode' hback hb').2
  rw [hfirstEnd, node?_behind_self ha.member] at hstays
  have hmerged : (x.node.processAll c'.disk (Node.pulled y.node.store)).1.store = x'.node.store :=
    Option.some.inj hstays
  rw [hsecondEnd, node?_behind_of_ne hne.symm, node?_of_member? ha',
    node?_behind_self hb'.member]
  have hsame := Node.store_pulled_back x.node y.node c'.disk c''.disk
  rw [hmerged] at hsame
  exact congrArg some hsame.symm

/-- **Catching up is a merge with the first usable peer.**  An answer counts that comes within the
limit and reads.  The first peer in the order of the list with such an answer is the only one of
which anything is handed over: all of its items, as a peer's sets with the versions that they
have, and where the rounds find their places the answer is how many there were; if there is none
the node fails and nothing is handed over.  At a node where nothing else goes on they do find their
places, and the node ends up as the one that has processed the items.  Once it has, and nothing
else between, a key holds the pulled item if it held nothing or nothing newer, and else what it
held; none is emptied; and the same again changes nothing.  So two nodes that catch up from each
other, one after the other, hold the same. -/
theorem catch_up_merges :
    (∀ (c : Cluster) (limit : Span) (address : String),
      ((∀ t, (c.reception address).arrival c.now = some t → c.now + limit.nanos < t) →
        (c.pull limit address).1 = .error .timeout) ∧
      ∀ b, (c.pull limit address).1 = .ok b ↔
        ∃ t peer, (c.reception address).arrival c.now = some t ∧ t ≤ c.now + limit.nanos ∧
          (c.reception address).error = none ∧
          ((c.waitUntil t).find? address).bind (c.waitUntil t).node? = some peer ∧
          b = (c.reception address).snapshot.getD peer.store.snapshot) ∧
    (∀ (c : Cluster) (m : Nat) (n : Node), c.node? m = some n → n.settings.peers ≠ [] →
      ((∃ s c', FirstUsable n.settings.sender.callLimit n.settings.peers c s c') ∨
        ∀ answer ∈ answers n.settings.sender.callLimit n.settings.peers c,
          usable? answer = none) ∧
      ((∀ answer ∈ answers n.settings.sender.callLimit n.settings.peers c,
          usable? answer = none) →
        c.catchUp m = (.error (.noUsablePeer n.settings.peers.length),
          asked n.settings.sender.callLimit n.settings.peers c)) ∧
      ∀ s c', FirstUsable n.settings.sender.callLimit n.settings.peers c s c' →
        c.catchUp m = ((c'.deliver m (Node.pulled s)).1.mapError .refused,
          (c'.deliver m (Node.pulled s)).2) ∧
        ((∀ x ∈ rounds m (s.size + 1) (Node.pulled s) c', x.IsOpen m ∧ x.Admits .caller m) →
          (c.catchUp m).1 = .ok s.size) ∧
        ∀ x, c'.Quiet m x → (c.catchUp m).1 = .ok s.size ∧
          (c.catchUp m).2.settle = c'.behind m x (Node.pulled s)) ∧
    (∀ (s : Store) (who : Activity) (m : Nat) (cs : List Cluster), (∀ c ∈ cs, c.IsOpen m) →
      ∀ result put, portions who m (Node.pulled s) 0 cs = (some result, put) →
        result = .ok s.size ∧
          put = s.items.entries.map fun e => .set e.2.version .peer e.1 e.2.value) ∧
    (∀ (n : Node) (d : Disk) (s : Store),
      (∀ key, (n.processAll d (Node.pulled s)).1.get? key =
        Item.merged (n.get? key) (s.get? key)) ∧
      (∀ key, (n.get? key).isSome → ((n.processAll d (Node.pulled s)).1.get? key).isSome) ∧
      ∀ d', ((n.processAll d (Node.pulled s)).1.processAll d' (Node.pulled s)).1.store =
        (n.processAll d (Node.pulled s)).1.store) ∧
    (∀ (a b : Node) (d d' : Disk) (s s' : Store), usable? (.ok b.store.snapshot) = some s →
      usable? (.ok (a.processAll d (Node.pulled s)).1.store.snapshot) = some s' →
        (b.processAll d' (Node.pulled s')).1.store =
          (a.processAll d (Node.pulled s)).1.store) ∧
    ∀ (c c' c'' : Cluster) (a b : Nat) (n : Node) (x y x' : Member), a ≠ b →
      c.node? a = some n →
      FirstUsable n.settings.sender.callLimit n.settings.peers c y.node.store c' →
      c'.Quiet a x → c'.Quiet b y →
      FirstUsable y.node.settings.sender.callLimit y.node.settings.peers
        (c.catchUp a).2.settle x'.node.store c'' →
      c''.member? a = some x' → c''.Quiet b y →
      ((c.catchUp a).2.settle.node? a).map (·.store) = some x'.node.store →
        (((c.catchUp a).2.settle.catchUp b).2.settle.node? a).map (·.store) =
          (((c.catchUp a).2.settle.catchUp b).2.settle.node? b).map (·.store) := by
  refine ⟨?_, ?_, ?_, ?_, ?_, ?_⟩
  · intro c limit address
    constructor
    · intro hlate
      rw [pull_of_late hlate]
    · intro b
      exact pull_eq_ok_iff
  · intro c m n hnode hpeers
    refine ⟨firstUsable_or_none _ _ c, catchUp_of_none hnode hpeers, ?_⟩
    intro s c' h
    refine ⟨catchUp_of_firstUsable hnode h, catchUp_eq_ok hnode h, ?_⟩
    intro x hquiet
    exact catchUp_of_quiet hnode h hquiet
  · intro s who m cs hopen result put h
    obtain ⟨hresult, hput⟩ := portions_eq_some hopen h
    rw [Nat.zero_add, length_pulled] at hresult
    exact ⟨hresult, hput⟩
  · intro n d s
    refine ⟨n.get?_processAll_pulled d s, ?_, fun d' => n.store_pulled_again d d' s⟩
    intro key hheld
    rw [n.get?_processAll_pulled d s key]
    exact Item.isSome_merged hheld
  · intro a b d d' s s' hs hs'
    rw [usable?_snapshot] at hs hs'
    obtain rfl := Option.some.inj hs
    obtain rfl := Option.some.inj hs'
    exact Node.store_pulled_back a b d d'
  · intro c c' c'' a b n x y x' hne hnode hfirst ha hb hback ha' hb' hstays
    exact stores_eq_of_catchUps hne hnode hfirst ha hb hback ha' hb' hstays

/-- A node with peers of which the first is not there, the second never answers, the third gives
no store, and the fourth is the other node. -/
def west : Member where
  name := "west"
  node := { Node.solitary ⟨1, by decide⟩ with
    settings := { node := 1, peers := ["mute", "late", "torn", "east"] }
    intake := { capacity := 1 }
    store := ⟨.ofEntries [("k", ⟨[0x61], 5⟩), ("old", ⟨[1], 9⟩)]⟩ }

def east : Member where
  name := "east"
  node := { Node.solitary ⟨2, by decide⟩ with
    settings := { node := 2, peers := ["west"] }
    intake := { capacity := 1 }
    store := ⟨.ofEntries [("k", ⟨[0x62], 5⟩), ("new", ⟨[2], -1⟩), ("old", ⟨[3], 3⟩)]⟩ }

def facing : Cluster where
  millis := 0
  members := [west, east]
  names := .ofEntries [("west", 0), ("east", 1), ("late", 1), ("torn", 1)]
  receptions := .ofEntries [("late", { hangs := true }), ("torn", { snapshot := some [0x7b] })]

/-- The same cluster when the first node has asked its peers, of which one took all of its time. -/
def facingLater : Cluster := { facing with now := 1000000000 }

/-- The first node when it has caught up: under the key for which the two held different values of
one version it has the pulled one, and under the old key still its own. -/
def westLater : Member :=
  { west with node := (west.node.processAll facingLater.disk (Node.pulled east.node.store)).1 }

theorem catch_up_merges_facing :
    FirstUsable west.node.settings.sender.callLimit west.node.settings.peers facing
        east.node.store facingLater ∧
      (facing.catchUp 0).1 = .ok 3 ∧
      (facing.catchUp 0).2.settle = facingLater.behind 0 west (Node.pulled east.node.store) ∧
      westLater.node.store =
        ⟨.ofEntries [("k", ⟨[0x62], 5⟩), ("new", ⟨[2], -1⟩), ("old", ⟨[1], 9⟩)]⟩ ∧
      (east.node.processAll .empty (Node.pulled
          (west.node.processAll .empty (Node.pulled east.node.store)).1.store)).1.store =
        (west.node.processAll .empty (Node.pulled east.node.store)).1.store ∧
      (((facing.catchUp 0).2.settle.catchUp 1).2.settle.node? 0).map (·.store) =
        (((facing.catchUp 0).2.settle.catchUp 1).2.settle.node? 1).map (·.store) := by
  obtain ⟨-, hsearch, -, -, hturned, hboth⟩ := catch_up_merges
  have hfirst : FirstUsable west.node.settings.sender.callLimit west.node.settings.peers facing
      east.node.store facingLater :=
    ⟨["mute", "late", "torn"], "east", [], rfl, by decide +kernel, by decide +kernel, rfl⟩
  have hwest : facingLater.Quiet 0 west := ⟨rfl, rfl, rfl, rfl, rfl, rfl, rfl, rfl⟩
  have heast : facingLater.Quiet 1 east := ⟨rfl, rfl, rfl, rfl, rfl, rfl, rfl, rfl⟩
  obtain ⟨-, -, hcatch⟩ := hsearch facing 0 west.node rfl (by decide)
  obtain ⟨hresult, hend⟩ := (hcatch _ _ hfirst).2.2 west hwest
  have hback : FirstUsable east.node.settings.sender.callLimit east.node.settings.peers
      (facing.catchUp 0).2.settle westLater.node.store
      (facingLater.behind 0 west (Node.pulled east.node.store)) := by
    rw [hend]
    exact ⟨[], "west", [], rfl, nofun, by decide +kernel, rfl⟩
  refine ⟨hfirst, hresult, hend, by decide +kernel, ?_, ?_⟩
  · exact hturned west.node east.node .empty .empty _ _ (by decide +kernel) (by decide +kernel)
  · exact hboth facing facingLater _ 0 1 west.node west east westLater (by decide) rfl hfirst
      hwest heast hback rfl ⟨rfl, rfl, rfl, rfl, rfl, rfl, rfl, rfl⟩ (by rw [hend]; rfl)

end Cluster

end Replica
