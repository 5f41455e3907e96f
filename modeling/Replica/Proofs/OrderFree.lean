/-
# When the order of requests does not matter

A node may meet the requests on a key in any order and each of them more than once.
`orderFree_iff` says for which requests that makes no difference: **for those whose newest is a
set, and for those without a set at all.**  Any other requests come apart: their newest is a
delete, and a set of theirs that comes behind it is put under a key that holds nothing.
-/

import Mathlib.Data.Finset.Max
import Replica.Proofs.Pipeline

namespace Replica

/-- A way to process requests on a key: each of them comes once or more, and no other request
on the key does. -/
structure Covers (key : String) (R : Finset Request) (rs : List Request) : Prop where
  mem : ∀ r ∈ R, r ∈ rs
  only : ∀ r ∈ rs, r.key = key → r ∈ R

/-- Whether all ways to process requests on a key leave a node with the same under it. -/
def OrderFree (n : Node) (d : Disk) (key : String) (R : Finset Request) : Prop :=
  ∀ rs ss, Covers key R rs → Covers key R ss →
    (n.processAll d rs).1.get? key = (n.processAll d ss).1.get? key

section OrderFree

variable {n : Node} {d : Disk} {key : String} {R : Finset Request}

theorem covers_append {rs : List Request} (hrs : ∀ r ∈ rs, r ∈ R) :
    Covers key R (R.toList ++ rs) where
  mem r hr := List.mem_append_left _ (Finset.mem_toList.2 hr)
  only r hr _ := by
    rcases List.mem_append.1 hr with hr | hr
    · exact Finset.mem_toList.1 hr
    · exact hrs r hr

/-- A newest set is topmost in every way to process the requests. -/
theorem Covers.topmost {rs : List Request} {t : Request} (h : Covers key R rs)
    (hver : Set.InjOn Request.version (R : Set Request)) (ht : t ∈ R) (hk : t.key = key)
    (hle : ∀ r ∈ R, r.version ≤ t.version) : Topmost t rs where
  le q hq hqk := hle q (h.only q hq (hqk.trans hk))
  item?_eq q hq hqk hqv := by rw [hver (h.only q hq (hqk.trans hk)) ht hqv]

theorem get?_of_newest_set {rs : List Request} {t : Request} (h : Covers key R rs)
    (hkey : ∀ r ∈ R, r.key = key) (hver : Set.InjOn Request.version (R : Set Request))
    (hn : n.get? key = none) (ht : t ∈ R) (hset : t.action = .set)
    (hle : ∀ r ∈ R, r.version ≤ t.version) :
    (n.processAll d rs).1.get? key = some ⟨t.value, t.version⟩ := by
  obtain rfl := hkey t ht
  rw [Node.get?_processAll, hn,
    heldAfter_of_topmost hset (h.mem t ht) (h.topmost hver ht rfl hle) newerThan_none]
  simp [Request.item?, hset]

theorem get?_of_deletes {rs : List Request} (h : Covers key R rs) (hn : n.get? key = none)
    (hdel : ∀ r ∈ R, r.action = .delete) : (n.processAll d rs).1.get? key = none := by
  rw [Node.get?_processAll, hn]
  exact heldAfter_none_of_deletes fun q hq hk => hdel q (h.only q hq hk)

/-- Behind all requests, their newest delete leaves nothing and what follows it stays. -/
theorem get?_behind_newest_delete {t : Request} (hkey : ∀ r ∈ R, r.key = key)
    (hn : n.get? key = none) (ht : t ∈ R) (hdel : t.action = .delete)
    (hle : ∀ r ∈ R, r.version ≤ t.version) (rs : List Request) :
    (n.processAll d (R.toList ++ t :: rs)).1.get? key = heldAfter key rs none := by
  have hold : ¬ NewerThan t.version (heldAfter key R.toList none) := by
    rw [newerThan_heldAfter_iff]
    rintro ⟨q, ⟨-, before, after, heq, -⟩, -, hv⟩
    have hq : q ∈ R := Finset.mem_toList.1 (by simp [heq])
    exact Int64.not_lt.2 (hle q hq) hv
  rw [Node.get?_processAll, hn, heldAfter_append, heldAfter_cons_self (hkey t ht),
    Request.leaves_of_not_newer hold]
  simp [Request.item?, hdel]

/-- **The order does not matter just when the newest request is a set or none is.**  Then the
key holds what the newest set put there, or nothing. -/
theorem orderFree_iff (hR : R.Nonempty) (hkey : ∀ r ∈ R, r.key = key)
    (hver : Set.InjOn Request.version (R : Set Request)) (hn : n.get? key = none) :
    (OrderFree n d key R ↔
      (∃ t ∈ R, t.action = .set ∧ ∀ r ∈ R, r.version ≤ t.version) ∨
        ∀ r ∈ R, r.action = .delete) ∧
    (∀ t ∈ R, t.action = .set → (∀ r ∈ R, r.version ≤ t.version) →
      ∀ rs, Covers key R rs →
        (n.processAll d rs).1.get? key = some ⟨t.value, t.version⟩) ∧
    ((∀ r ∈ R, r.action = .delete) →
      ∀ rs, Covers key R rs → (n.processAll d rs).1.get? key = none) := by
  refine ⟨⟨fun hfree => ?_, ?_⟩, ?_, ?_⟩
  · obtain ⟨t, ht, hle⟩ := R.exists_max_image (fun r => r.version.toInt) hR
    replace hle : ∀ r ∈ R, r.version ≤ t.version := fun r hr =>
      Int64.le_iff_toInt_le.2 (hle r hr)
    cases hact : t.action with
    | set => exact Or.inl ⟨t, ht, hact, hle⟩
    | delete =>
      -- the newest last against the newest followed by `q`
      refine Or.inr fun q hq => ?_
      have hends := hfree (R.toList ++ [t]) (R.toList ++ [t, q])
        (covers_append (by simpa using ht)) (covers_append (by simp [ht, hq]))
      rw [get?_behind_newest_delete hkey hn ht hact hle,
        get?_behind_newest_delete hkey hn ht hact hle, heldAfter_cons_self (hkey q hq)] at hends
      cases hq' : q.action with
      | delete => rfl
      | set => simp [Request.leaves, Request.item?, hq'] at hends
  · rintro (⟨t, ht, hset, hle⟩ | hdel) rs ss hrs hss
    · rw [get?_of_newest_set hrs hkey hver hn ht hset hle,
        get?_of_newest_set hss hkey hver hn ht hset hle]
    · rw [get?_of_deletes hrs hn hdel, get?_of_deletes hss hn hdel]
  · exact fun t ht hset hle rs hrs => get?_of_newest_set hrs hkey hver hn ht hset hle
  · exact fun hdel rs hrs => get?_of_deletes hrs hn hdel

end OrderFree

/-- A set and an older delete may come in any order, a set and a newer delete may not. -/
theorem orderFree_iff_set_and_delete :
    OrderFree (.solitary 1) .empty "k" {.set 5 .client "k" [1], .delete 3 .peer "k"} ∧
    ¬ OrderFree (.solitary 1) .empty "k" {.set 3 .client "k" [1], .delete 5 .peer "k"} := by
  have hset := orderFree_iff (n := .solitary 1) (d := .empty) (by decide)
    (by decide : ∀ r ∈ ({.set 5 .client "k" [1], .delete 3 .peer "k"} : Finset Request),
      r.key = "k") (fun q hq r hr => by revert q r; decide) rfl
  have hdelete := orderFree_iff (n := .solitary 1) (d := .empty) (by decide)
    (by decide : ∀ r ∈ ({.set 3 .client "k" [1], .delete 5 .peer "k"} : Finset Request),
      r.key = "k") (fun q hq r hr => by revert q r; decide) rfl
  rw [hset.1, hdelete.1]
  decide

end Replica
