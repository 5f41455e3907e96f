/-
# What the pipeline leaves under a key, in one step

A request stands if no later request on its key is as new as it is or newer.  The item that a key
held before counts as a set in front of all requests.  Then, whatever the order and the versions
of the requests are, **a key holds what the newest set that stands put there, and nothing if no
set stands** (`get?_processAll_iff`).

So a delete matters for those before it only.  An older set that comes behind it stands, and is
what the key holds.
-/

import Replica.Proofs.Pipeline

namespace Replica

/-- What a key holds, as the set that put it there. -/
def Request.restoring (key : String) (held : Option Item) : List Request :=
  held.toList.map fun i => .set i.version .peer key i.value

/-- A key that holds an item might as well have held nothing and then been set to it. -/
theorem heldAfter_restoring (key : String) (rs : List Request) (held : Option Item) :
    heldAfter key (Request.restoring key held ++ rs) none = heldAfter key rs held := by
  cases held with
  | none => rfl
  | some i =>
    have hput : (Request.set i.version .peer key i.value).leaves none = some i := rfl
    calc heldAfter key (.set i.version .peer key i.value :: rs) none
        = heldAfter key rs ((Request.set i.version .peer key i.value).leaves none) :=
          heldAfter_cons_self rfl
      _ = heldAfter key rs (some i) := by rw [hput]

theorem LeftBy.eq_some_iff {key : String} {rs : List Request} {held : Option Item}
    (h : LeftBy key rs held) (i : Item) :
    held = some i ↔ ∃ q, Newest q key rs ∧ i = ⟨q.value, q.version⟩ := by
  have hitem : ∀ q, Newest q key rs → q.item? = some ⟨q.value, q.version⟩ := by
    intro q hq
    simp [Request.item?, hq.standing.1]
  constructor
  · rintro rfl
    obtain ⟨q, hq, hi⟩ := h
    exact ⟨q, hq, Option.some.inj (hi.symm.trans (hitem q hq))⟩
  · rintro ⟨q, hq, rfl⟩
    cases held with
    | none => exact absurd hq.key_eq (h q hq.standing)
    | some j =>
      obtain ⟨p, hp, hj⟩ := h
      obtain rfl := hp.unique hq
      exact hj.symm.trans (hitem p hp)

theorem LeftBy.eq_none_iff {key : String} {rs : List Request} {held : Option Item}
    (h : LeftBy key rs held) : held = none ↔ ¬ ∃ q, Standing q rs ∧ q.key = key := by
  cases held with
  | none =>
    refine iff_of_true rfl ?_
    rintro ⟨q, hq, hqk⟩
    exact h q hq hqk
  | some i =>
    obtain ⟨q, hq, -⟩ := h
    exact iff_of_false nofun fun hno => hno ⟨q, hq.standing, hq.key_eq⟩

/-- **What the pipeline leaves under a key**: what the newest set that stands put there, with its
version, and nothing just if no set on the key stands. -/
theorem get?_processAll_iff (n : Node) (d : Disk) (rs : List Request) (key : String) :
    let all := Request.restoring key (n.get? key) ++ rs
    let left := (n.processAll d rs).1.get? key
    (∀ i, left = some i ↔ ∃ q, Newest q key all ∧ i = ⟨q.value, q.version⟩) ∧
      (left = none ↔ ¬ ∃ q, Standing q all ∧ q.key = key) := by
  intro all left
  have hleft : LeftBy key all left := by
    have h := leftBy_heldAfter key all
    rwa [heldAfter_restoring, ← Node.get?_processAll n d] at h
  exact ⟨hleft.eq_some_iff, hleft.eq_none_iff⟩

/-- Of two sets around a newer delete the older one stays. -/
example :
    ((Node.solitary 1).processAll .empty
      [.set 5 .client "k" [1], .delete 7 .client "k", .set 3 .peer "k" [2]]).1.get? "k" =
      some ⟨[2], 3⟩ := by
  decide +kernel

end Replica
