/-
# Handing requests over

Whoever pushes records to a node or catches up hands requests over one by one and waits when the
intake is full.  So a handing over goes in portions, each as far as the intake takes it, and
between two portions anything may go on: the pipeline, other guests, the senders, the clock.
`portions` runs it over the clusters that the portions find, **whatever these are**.

* At a node that stays open, **nothing is refused and nothing changes its place**: a handing over
  that has come to its end has put just its requests into the intake, in order, and its result is
  their number; one that still waits has put a part of them from the first one on
  (`portions_of_isOpen`).
* A portion that finds a place takes one request or more, so **as many places as there are
  requests are enough** (`portions_of_admits`).

What is asked of a node is that its intake takes requests whenever a portion begins; that the
places really become free is not claimed here, since it is the pipeline that frees them.

The caller of a cluster hands over like this, in rounds between which all others go on until they
wait (`handOverAll_eq`), and so does a push in flight (`handings_eq`).
-/

import Replica.Cluster.Caller

namespace Replica

namespace Cluster

/-- The requests that wait in the intake of a node. -/
def queue (c : Cluster) (m : Nat) : List Request := (c.node? m).elim [] (·.intake.queue)

/-- A node is there and its intake takes requests. -/
def IsOpen (c : Cluster) (m : Nat) : Prop := ∃ n, c.node? m = some n ∧ n.intake.closed = false

/-- There is a place for an activity: a free one, or one that it was promised. -/
def Admits (c : Cluster) (who : Activity) (m : Nat) : Prop :=
  ∃ member, c.member? m = some member ∧
    (who ∈ member.invited ∨ member.node.intake.hasRoom = true)

instance (c : Cluster) (m : Nat) : Decidable (c.IsOpen m) :=
  decidable_of_iff ((c.node? m).any fun n => !n.intake.closed) (by
    unfold IsOpen
    cases c.node? m <;> simp)

instance (c : Cluster) (who : Activity) (m : Nat) : Decidable (c.Admits who m) :=
  decidable_of_iff ((c.member? m).any fun member =>
      member.invited.contains who || member.node.intake.hasRoom) (by
    unfold Admits
    cases c.member? m <;> simp)

section One

variable {c : Cluster} {who : Activity} {m : Nat}

/-! ## 1. One request -/

theorem node?_of_member? {member : Member} (h : c.member? m = some member) :
    c.node? m = some member.node := by
  unfold node?
  rw [h]
  rfl

theorem queue_of_member? {member : Member} (h : c.member? m = some member) :
    c.queue m = member.node.intake.queue := by
  unfold queue
  rw [node?_of_member? h]
  rfl

theorem isOpen_of_member? {member : Member} (h : c.member? m = some member)
    (hopen : member.node.intake.closed = false) : c.IsOpen m :=
  ⟨member.node, node?_of_member? h, hopen⟩

theorem exists_member_of_isOpen (h : c.IsOpen m) :
    ∃ member, c.member? m = some member ∧ member.node.intake.closed = false := by
  obtain ⟨n, hn, hopen⟩ := h
  obtain ⟨member, hmember, rfl⟩ := Option.map_eq_some_iff.1 hn
  exact ⟨member, hmember, hopen⟩

@[simp] theorem member?_wake (c : Cluster) (a : Activity) (m : Nat) :
    (c.wake a).member? m = c.member? m := by
  unfold wake
  split <;> rfl

theorem member?_setMember_self {old : Member} (h : c.member? m = some old) (member : Member) :
    (c.setMember m member).member? m = some member := by
  obtain ⟨hlt, -⟩ := List.getElem?_eq_some_iff.1 h
  exact List.getElem?_set_self hlt

/-- **At an open node a request comes in or waits**, and it comes in where there is a place. -/
theorem enter_of_isOpen (h : c.IsOpen m) (r : Request) :
    (∃ c', c.enter who m r = (.entered, c') ∧ c'.IsOpen m ∧ c'.queue m = c.queue m ++ [r]) ∨
      ∃ c', c.enter who m r = (.waits, c') ∧ c'.IsOpen m ∧ c'.queue m = c.queue m ∧
        ¬ c.Admits who m := by
  obtain ⟨member, hmember, hopen⟩ := exists_member_of_isOpen h
  have hset := member?_setMember_self hmember
  unfold enter
  rw [hmember, queue_of_member? hmember]
  simp only [hopen, Bool.false_eq_true, if_false]
  by_cases hinvited : who ∈ member.invited
  · left
    rw [if_pos (List.contains_iff_mem.2 hinvited)]
    have hnext := (member?_wake _ (.pipeline m) m).trans (hset { member with
      node := { member.node with intake := member.node.intake.keepPromise r }
      invited := member.invited.erase who })
    exact ⟨_, rfl, isOpen_of_member? hnext hopen, queue_of_member? hnext⟩
  rw [if_neg fun hin => hinvited (List.contains_iff_mem.1 hin)]
  by_cases hroom : member.node.intake.hasRoom = true
  · left
    rw [if_pos hroom]
    have hnext := (member?_wake _ (.pipeline m) m).trans (hset { member with
      node := { member.node with intake := member.node.intake.enqueue r } })
    exact ⟨_, rfl, isOpen_of_member? hnext hopen, queue_of_member? hnext⟩
  · right
    rw [if_neg hroom]
    have hfull : ¬ c.Admits who m := by
      rintro ⟨other, hother, hplace⟩
      obtain rfl := Option.some.inj (hmember.symm.trans hother)
      exact hplace.elim hinvited hroom
    by_cases hwaits : who ∈ member.waiting
    · rw [if_pos (List.contains_iff_mem.2 hwaits)]
      exact ⟨c, rfl, h, queue_of_member? hmember, hfull⟩
    · rw [if_neg fun hin => hwaits (List.contains_iff_mem.1 hin)]
      have hnext := hset { member with waiting := member.waiting ++ [who] }
      have hqueue := queue_of_member? hnext
      exact ⟨_, rfl, isOpen_of_member? hnext hopen, hqueue, hfull⟩

/-! ## 2. One portion -/

/-- **A portion at an open node** puts all requests into the intake, or those in front of the
first one that has to wait: at least one where there is a place. -/
theorem handOver_of_isOpen (who : Activity) (h : c.IsOpen m) (rs : List Request) (n : Nat) :
    (∃ c', handOver who m rs n c = (.all (n + rs.length), c') ∧ c'.IsOpen m ∧
        c'.queue m = c.queue m ++ rs) ∨
      ∃ c' done r left, rs = done ++ r :: left ∧
        handOver who m rs n c = (.waits (r :: left) (n + done.length), c') ∧ c'.IsOpen m ∧
        c'.queue m = c.queue m ++ done ∧ (c.Admits who m → done ≠ []) := by
  induction rs generalizing n c with
  | nil => exact Or.inl ⟨c, rfl, h, (List.append_nil _).symm⟩
  | cons r rs ih =>
    rcases enter_of_isOpen h r with ⟨c₁, henter, hopen, hqueue⟩ | ⟨c₁, henter, hopen, hqueue, hfull⟩
    · rcases ih hopen (n + 1) with ⟨c', hrest, hopen', hqueue'⟩ |
        ⟨c', done, r', left, rfl, hrest, hopen', hqueue', -⟩
      · left
        refine ⟨c', ?_, hopen', ?_⟩
        · rw [handOver, henter]
          simp only [hrest, List.length_cons]
          congr 2
          omega
        · rw [hqueue', hqueue, List.append_assoc, List.singleton_append]
      · right
        refine ⟨c', r :: done, r', left, rfl, ?_, hopen', ?_, fun _ => List.cons_ne_nil r done⟩
        · rw [handOver, henter]
          simp only [hrest, List.length_cons]
          congr 2
          omega
        · rw [hqueue', hqueue, List.append_assoc, List.singleton_append]
    · right
      refine ⟨c₁, [], r, rs, rfl, ?_, hopen, ?_, fun hplace => absurd hplace hfull⟩
      · rw [handOver, henter]
        rfl
      · rw [hqueue, List.append_nil]

end One

/-! ## 3. Portion after portion -/

/-- What an intake got while a node went from one cluster to the next. -/
def got (m : Nat) (before after : Cluster) : List Request :=
  (after.queue m).drop (before.queue m).length

/-- Hands requests over in portions, each in a cluster of its own: what has come of it, if it has
come to its end, and what was put into the intake. -/
def portions (who : Activity) (m : Nat) :
    List Request → (accepted : Nat) → List Cluster → Option (Except Error Nat) × List Request
  | _, _, [] => (none, [])
  | rs, n, c :: cs =>
    match handOver who m rs n c with
    | (.all n, c') => (some (.ok n), got m c c')
    | (.refused, c') => (some (.error .closed), got m c c')
    | (.waits left n, c') =>
      let (result, put) := portions who m left n cs
      (result, got m c c' ++ put)

section Portions

variable {who : Activity} {m : Nat} {cs : List Cluster}

theorem got_of_append {c c' : Cluster} {rs : List Request} (h : c'.queue m = c.queue m ++ rs) :
    got m c c' = rs := by
  unfold got
  rw [h, List.drop_left]

/-- **At a node that stays open a handing over is complete and in order**, or it still waits, and
then each portion that found a place has brought it forward. -/
theorem portions_of_isOpen (who : Activity) (hopen : ∀ c ∈ cs, c.IsOpen m) (rs : List Request)
    (n : Nat) :
    portions who m rs n cs = (some (.ok (n + rs.length)), rs) ∨
      ∃ put left, rs = put ++ left ∧ portions who m rs n cs = (none, put) ∧
        ((∀ c ∈ cs, c.Admits who m) → cs.length ≤ put.length) := by
  induction cs generalizing rs n with
  | nil => exact Or.inr ⟨[], rs, rfl, rfl, fun _ => Nat.le_refl 0⟩
  | cons c cs ih =>
    rw [List.forall_mem_cons] at hopen
    rcases handOver_of_isOpen who hopen.1 rs n with ⟨c', hall, -, hqueue⟩ |
      ⟨c', done, r, left, rfl, hwaits, -, hqueue, hdone⟩
    · left
      rw [portions, hall]
      simp only [got_of_append hqueue]
    · rw [portions, hwaits]
      simp only [got_of_append hqueue]
      rcases ih hopen.2 (r :: left) (n + done.length) with hend | ⟨put, later, hleft, hnone, hmore⟩
      · left
        rw [hend]
        simp only [List.length_append, Prod.mk.injEq, Option.some.injEq, Except.ok.injEq, and_true]
        omega
      · right
        refine ⟨done ++ put, later, ?_, ?_, ?_⟩
        · rw [hleft, List.append_assoc]
        · rw [hnone]
        · intro hplace
          rw [List.forall_mem_cons] at hplace
          have hfirst : 0 < done.length := List.length_pos_iff.2 (hdone hplace.1)
          have hrest := hmore hplace.2
          simp only [List.length_cons, List.length_append]
          omega

/-- **As many places as there are requests are enough.** -/
theorem portions_of_admits (hopen : ∀ c ∈ cs, c.IsOpen m) (hplace : ∀ c ∈ cs, c.Admits who m)
    {rs : List Request} (henough : rs.length < cs.length) (n : Nat) :
    portions who m rs n cs = (some (.ok (n + rs.length)), rs) := by
  rcases portions_of_isOpen who hopen rs n with hend | ⟨put, left, rfl, -, hmore⟩
  · exact hend
  · have hput := hmore hplace
    rw [List.length_append] at henough
    omega

/-- A handing over that has come to its end at such a node is a whole one. -/
theorem portions_eq_some (hopen : ∀ c ∈ cs, c.IsOpen m) {rs put : List Request} {n : Nat}
    {result : Except Error Nat} (h : portions who m rs n cs = (some result, put)) :
    result = .ok (n + rs.length) ∧ put = rs := by
  rcases portions_of_isOpen who hopen rs n with hend | ⟨before, left, -, hnone, -⟩
  · rw [h, Prod.mk.injEq, Option.some.injEq] at hend
    exact hend
  · rw [h] at hnone
    cases hnone

end Portions

/-! ## 4. The caller and pushes in flight -/

/-- The clusters that the rounds find in which the caller hands requests over: behind each round
all others go on until they wait. -/
def rounds (m : Nat) : (fuel : Nat) → List Request → Cluster → List Cluster
  | 0, _, _ => []
  | fuel + 1, rs, c =>
    c :: match handOver .caller m rs 0 c with
      | (.waits left _, c') => rounds m fuel left c'.settle
      | _ => []

/-- How many were handed over before changes nothing in what follows. -/
theorem handOver_accepted (who : Activity) (m : Nat) (rs : List Request) (n : Nat) (c : Cluster) :
    handOver who m rs n c = match handOver who m rs 0 c with
      | (.all k, c') => (.all (n + k), c')
      | (.refused, c') => (.refused, c')
      | (.waits left k, c') => (.waits left (n + k), c') := by
  induction rs generalizing n c with
  | nil => rfl
  | cons r rs ih =>
    simp only [handOver]
    rcases c.enter who m r with ⟨_ | _ | _, c'⟩
    · simp only
      rw [ih (n + 1), ih (0 + 1)]
      rcases handOver who m rs 0 c' with ⟨_ | _ | _, c''⟩
      · simp only [Prod.mk.injEq, Handover.all.injEq, and_true]
        omega
      · rfl
      · simp only [Prod.mk.injEq, Handover.waits.injEq, true_and, and_true]
        omega
    · rfl
    · rfl

/-- **The caller hands over in portions**: one each round. -/
theorem handOverAll_eq (m : Nat) (fuel : Nat) (rs : List Request) (n : Nat) (c : Cluster) :
    (handOverAll m fuel rs n c).1 =
      (portions .caller m rs n (rounds m fuel rs c)).1.getD (.error .closed) := by
  induction fuel generalizing rs n c with
  | zero => rfl
  | succ fuel ih =>
    rw [handOverAll, rounds, portions, handOver_accepted]
    rcases handOver .caller m rs 0 c with ⟨_ | _ | _, c'⟩
    · rfl
    · rfl
    · exact ih _ _ _

/-- A handing over that still waits has made all the rounds that it may. -/
theorem length_rounds {m fuel : Nat} {rs : List Request} {n : Nat} {c : Cluster}
    (h : (portions .caller m rs n (rounds m fuel rs c)).1 = none) :
    (rounds m fuel rs c).length = fuel := by
  induction fuel generalizing rs n c with
  | zero => rfl
  | succ fuel ih =>
    rw [rounds] at h ⊢
    rw [portions, handOver_accepted] at h
    rcases hround : handOver .caller m rs 0 c with ⟨_ | _ | _, c'⟩ <;> rw [hround] at h
    · cases h
    · cases h
    · exact congrArg (· + 1) (ih h)

/-- **Rounds that find a place each come to their end.** -/
theorem portions_rounds {m fuel : Nat} {rs : List Request} {c : Cluster}
    (hopen : ∀ c' ∈ rounds m fuel rs c, c'.IsOpen m)
    (hplace : ∀ c' ∈ rounds m fuel rs c, c'.Admits .caller m) (hfuel : rs.length < fuel)
    (n : Nat) :
    portions .caller m rs n (rounds m fuel rs c) = (some (.ok (n + rs.length)), rs) := by
  rcases portions_of_isOpen .caller hopen rs n with hend | ⟨put, left, hrs, hnone, hmore⟩
  · exact hend
  · have hput := hmore hplace
    rw [length_rounds (congrArg Prod.fst hnone)] at hput
    rw [hrs, List.length_append] at hfuel
    omega

/-- So the caller is answered with their number. -/
theorem deliver_of_admits {m : Nat} {rs : List Request} {c : Cluster}
    (h : ∀ c' ∈ rounds m (rs.length + 1) rs c, c'.IsOpen m ∧ c'.Admits .caller m) :
    (c.deliver m rs).1 = .ok rs.length := by
  have hend := portions_rounds (fun c' hc' => (h c' hc').1) (fun c' hc' => (h c' hc').2)
    (Nat.lt_succ_self rs.length) 0
  unfold deliver
  rw [handOverAll_eq, hend, Nat.zero_add]
  rfl

/-- The portions of a push in flight at a node, each in a cluster of its own: what it ends with,
if it has ended. -/
def handings (f : Flight) (target : Nat) :
    List Request → (accepted : Nat) → List Cluster → Option (Except Error Nat)
  | _, _, [] => none
  | left, n, c :: cs =>
    match (c.hand f target left n).1 with
    | .ends result => some result
    | .goesOn (.handing _ left n) => handings f target left n cs
    | _ => none

/-- **A push in flight hands over in portions**; of its result only the count may be told anew. -/
theorem handings_eq (f : Flight) (target : Nat) (left : List Request) (n : Nat)
    (cs : List Cluster) :
    handings f target left n cs =
      (portions (.sender f.node f.outbox) target left n cs).1.map (·.map f.reception.told) := by
  induction cs generalizing left n with
  | nil => rfl
  | cons c cs ih =>
    rw [handings, portions, hand]
    rcases handOver (.sender f.node f.outbox) target left n c with ⟨_ | _ | _, c'⟩
    · rfl
    · rfl
    · exact ih _ _

end Cluster
end Replica
