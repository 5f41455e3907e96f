/-
# What those who watch are told

Behind each request the pipeline tells one change or none.  **It tells one just where the request
takes effect**: no stale set, no delete that conflicts and no delete of what is not there.  The
changes that are told are a log of the store: those of a key go from what it held at first, each
one from where the last one ended, to what it holds at the end, and doing them again makes the
final store of the first one (`notices_are_changes`).

Who watches, and when, makes no difference to what is told.
-/

import Mathlib.Data.List.ReduceOption
import Replica.Proofs.Course

namespace Replica

/-! ## 1. One request -/

namespace Request

/-- Whether a request takes effect: a set unless it is stale, its key holding something newer; a
delete unless it conflicts with something newer or there is nothing to delete. -/
def takesEffect (r : Request) (s : Store) : Bool :=
  match r.action with
  | .set => (s.get? r.key).all fun held => held.version ≤ r.version
  | .delete => (s.get? r.key).any fun held => held.version ≤ r.version

/-- The change that a request makes if it takes effect. -/
def changeIn (r : Request) (s : Store) : Change := ⟨r.action, r.key, s.get? r.key, r.item?⟩

theorem isSome_of_takesEffect {r : Request} {s : Store} (ha : r.action = .delete)
    (h : r.takesEffect s = true) : (s.get? r.key).isSome = true := by
  simp only [takesEffect, ha] at h
  cases hg : s.get? r.key with
  | none => simp [hg] at h
  | some held => rfl

end Request

namespace Store

/-- Makes a change again, by what it says is new. -/
def redo (s : Store) (c : Change) : Store :=
  match c.new with
  | some i => ⟨s.items.insert c.key i⟩
  | none => ⟨s.items.erase c.key⟩

theorem get?_redo_self (s : Store) (c : Change) : (s.redo c).get? c.key = c.new := by
  unfold redo
  cases c.new with
  | some i => exact get?_mk_insert s.items c.key i
  | none => exact get?_mk_erase s.items c.key

/-- **A request takes effect and tells its change, or nothing happens.** -/
theorem apply_eq (s : Store) (r : Request) :
    s.apply r =
      if r.takesEffect s then (some (r.changeIn s), s.redo (r.changeIn s)) else (none, s) := by
  unfold apply Request.takesEffect Request.changeIn redo Request.item?
  cases r.action with
  | set =>
    cases hg : s.get? r.key with
    | none => simp [set, hg, SetOutcome.isApplied, SetOutcome.old]
    | some held =>
      by_cases hv : held.version ≤ r.version
      · simp [set, hg, hv, SetOutcome.isApplied, SetOutcome.old]
      · simp [set, hg, hv, SetOutcome.isApplied]
  | delete =>
    cases hg : s.get? r.key with
    | none => simp [delete, hg]
    | some held =>
      by_cases hv : held.version ≤ r.version
      · simp [delete, hg, hv]
      · simp [delete, hg, hv]

theorem apply_of_takesEffect {s : Store} {r : Request} (h : r.takesEffect s = true) :
    s.apply r = (some (r.changeIn s), s.redo (r.changeIn s)) := by
  rw [apply_eq, if_pos h]

theorem apply_of_not_takesEffect {s : Store} {r : Request} (h : ¬ r.takesEffect s = true) :
    s.apply r = (none, s) := by
  rw [apply_eq, if_neg h]

/-! ## 2. Many requests -/

/-- Each request with the store that it meets. -/
def meetings (s : Store) : List Request → List (Store × Request)
  | [] => []
  | r :: rs => (s, r) :: (s.apply r).2.meetings rs

/-- The change behind each request, if there is one. -/
def changes (s : Store) (rs : List Request) : List (Option Change) :=
  (s.meetings rs).map fun m => (m.1.apply m.2).1

theorem changes_cons (s : Store) (r : Request) (rs : List Request) :
    s.changes (r :: rs) = (s.apply r).1 :: (s.apply r).2.changes rs := rfl

theorem mem_of_mem_meetings {s t : Store} {r : Request} {rs : List Request}
    (h : (t, r) ∈ s.meetings rs) : r ∈ rs := by
  induction rs generalizing s with
  | nil => cases h
  | cons q rs ih =>
    rcases List.mem_cons.1 h with heq | hrest
    · obtain ⟨-, rfl⟩ := Prod.mk.inj heq
      exact List.mem_cons_self
    · exact List.mem_cons_of_mem q (ih hrest)

theorem changes_eq (s : Store) (rs : List Request) :
    s.changes rs =
      (s.meetings rs).map fun m => if m.2.takesEffect m.1 then some (m.2.changeIn m.1) else none := by
  refine List.map_congr_left fun m _ => ?_
  rw [apply_eq]
  split
  · rfl
  · rfl

/-- What is told was made by a request that took effect. -/
theorem mem_reduceOption_changes {s : Store} {rs : List Request} {c : Change}
    (h : c ∈ (s.changes rs).reduceOption) :
    ∃ t, ∃ r ∈ rs, r.takesEffect t = true ∧ c = r.changeIn t := by
  rw [List.reduceOption_mem_iff, changes_eq] at h
  obtain ⟨⟨t, r⟩, hm, hc⟩ := List.mem_map.1 h
  by_cases he : r.takesEffect t = true
  · simp only [he, if_true, Option.some.injEq] at hc
    exact ⟨t, r, mem_of_mem_meetings hm, he, hc.symm⟩
  · simp [he] at hc

/-- **Doing the changes again makes the final store of the first one.** -/
theorem foldl_redo_changes (s : Store) (rs : List Request) :
    (s.changes rs).reduceOption.foldl redo s = s.applyAll rs := by
  induction rs generalizing s with
  | nil => rfl
  | cons r rs ih =>
    have hnext := ih (s.apply r).2
    have happly : s.applyAll (r :: rs) = (s.apply r).2.applyAll rs := rfl
    rw [changes_cons, happly]
    by_cases he : r.takesEffect s = true
    · rw [apply_of_takesEffect he] at hnext ⊢
      rw [List.reduceOption_cons_of_some, List.foldl_cons]
      exact hnext
    · rw [apply_of_not_takesEffect he] at hnext ⊢
      rw [List.reduceOption_cons_of_none]
      exact hnext

end Store

/-! ## 3. The changes of one key -/

/-- Changes each of which begins where the last one ended, from one state of a key to another. -/
def Chained : Option Item → List Change → Option Item → Prop
  | first, [], last => first = last
  | first, c :: cs, last => c.old = first ∧ Chained c.new cs last

theorem Store.chained_changes (s : Store) (rs : List Request) (key : String) :
    Chained (s.get? key) ((s.changes rs).reduceOption.filter fun c => c.key = key)
      ((s.applyAll rs).get? key) := by
  induction rs generalizing s with
  | nil => rfl
  | cons r rs ih =>
    have hnext := ih (s.apply r).2
    have happly : s.applyAll (r :: rs) = (s.apply r).2.applyAll rs := rfl
    rw [changes_cons, happly]
    by_cases he : r.takesEffect s = true
    · have hfst : (s.apply r).1 = some (r.changeIn s) := by rw [apply_of_takesEffect he]
      rw [hfst, List.reduceOption_cons_of_some]
      by_cases hk : r.key = key
      · -- the change leads from what the key held to what it holds now
        have hkey : (r.changeIn s).key = key := hk
        have hold : (r.changeIn s).old = s.get? key := congrArg s.get? hk
        have hnew : (s.apply r).2.get? key = (r.changeIn s).new := by
          rw [apply_of_takesEffect he, ← hkey]
          exact s.get?_redo_self (r.changeIn s)
        rw [hnew] at hnext
        rw [List.filter_cons, if_pos (decide_eq_true hkey)]
        exact ⟨hold, hnext⟩
      · have hkey : ¬ (r.changeIn s).key = key := hk
        rw [s.get?_apply_of_ne (Ne.symm hk)] at hnext
        rw [List.filter_cons, if_neg fun h => hkey (of_decide_eq_true h)]
        exact hnext
    · rw [apply_of_not_takesEffect he] at hnext ⊢
      rw [List.reduceOption_cons_of_none]
      exact hnext

/-! ## 4. The pipeline -/

/-- **What the pipeline tells**, whatever others do meanwhile. -/
theorem Node.notices_course (n : Node) (d : Disk) (steps : List (Interlude × Request)) :
    (n.course d steps).1.notices =
      n.notices.attend ((steps.map fun step => step.1.watchers).zip
        (n.store.changes (steps.map Prod.snd))) := by
  induction steps generalizing n d with
  | nil => rfl
  | cons step rest ih =>
    obtain ⟨e, r⟩ := step
    have hnext := ih ((e.node n).process (e.disk d) r).1 ((e.node n).process (e.disk d) r).2
    rw [notices_process, store_process] at hnext
    exact hnext

/-- **The notices are a faithful change log.**  Those who watch are told behind each request that
takes effect, and of nothing else; the changes of a key follow from one another, and together they
make the store. -/
theorem notices_are_changes (n : Node) (d : Disk) (steps : List (Interlude × Request)) :
    let rs := steps.map Prod.snd
    let told := n.store.changes rs
    let calls := told.reduceOption
    let left := (n.course d steps).1
    left.notices = n.notices.attend ((steps.map fun step => step.1.watchers).zip told) ∧
    told = (n.store.meetings rs).map
      (fun m => if m.2.takesEffect m.1 then some (m.2.changeIn m.1) else none) ∧
    (∀ key, Chained (n.store.get? key) (calls.filter fun c => c.key = key)
      (left.store.get? key)) ∧
    (∀ c ∈ calls, c.action = .set →
      ∃ r ∈ rs, r.action = .set ∧ r.key = c.key ∧ c.new = some ⟨r.value, r.version⟩) ∧
    (∀ c ∈ calls, c.action = .delete → c.old.isSome = true ∧ c.new = none) ∧
    calls.foldl Store.redo n.store = left.store := by
  intro rs told calls left
  have hstore : left.store = n.store.applyAll rs := n.store_course d steps
  refine ⟨n.notices_course d steps, n.store.changes_eq rs, ?_, ?_, ?_, ?_⟩
  · intro key
    rw [hstore]
    exact n.store.chained_changes rs key
  · intro c hc ha
    obtain ⟨t, r, hr, -, rfl⟩ := Store.mem_reduceOption_changes hc
    have hset : r.action = .set := ha
    exact ⟨r, hr, hset, rfl, by simp [Request.changeIn, Request.item?, hset]⟩
  · intro c hc ha
    obtain ⟨t, r, -, he, rfl⟩ := Store.mem_reduceOption_changes hc
    have hdelete : r.action = .delete := ha
    exact ⟨Request.isSome_of_takesEffect hdelete he, by
      simp [Request.changeIn, Request.item?, hdelete]⟩
  · rw [hstore]
    exact n.store.foldl_redo_changes rs

/-- Of six requests three are told: the stale set, the delete that conflicts and that of what is
not there are not. -/
example :
    ((Store.empty.changes
      [.set 5 .client "k" [1], .set 4 .peer "k" [2], .delete 3 .peer "k", .set 5 .peer "k" [3],
        .delete 9 .client "k", .delete 9 .client "k"]).map Option.isSome) =
      [true, false, false, true, true, false] := by
  decide +kernel

end Replica
