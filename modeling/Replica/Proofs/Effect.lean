/-
# What requests leave under a key

A key holds an item or nothing, and a request on it either takes effect or does not:
**it takes effect unless what the key holds is newer** (`Request.leaves`, `get?_apply`).  A
delete keeps no version, so the effect of many requests is no maximum; what it is instead:

* a request that a later one of its key is not older than might as well not have come
  (`applyAll_cons_of_superseded`).  A repeated request counts only where it comes last;
* a set that no request of its key is newer than decides what the key holds, wherever it
  stands (`heldAfter_of_topmost`);
* a key that held nothing holds what the newest set that was not superseded put there
  (`leftBy_heldAfter`), so something newer than `v` just when a set newer than `v` was not
  superseded (`newerThan_heldAfter_iff`).
-/

import Mathlib.Data.List.Induction
import Replica.Store

namespace Replica

/-! ## 1. One request -/

/-- What the key of a request holds once the request took effect. -/
def Request.item? (r : Request) : Option Item :=
  match r.action with
  | .set => some ⟨r.value, r.version⟩
  | .delete => none

/-- Whether what a key holds is newer than a version. -/
def NewerThan (v : Version) : Option Item → Prop
  | none => False
  | some held => v < held.version

instance (v : Version) : (held : Option Item) → Decidable (NewerThan v held)
  | none => isFalse id
  | some held => inferInstanceAs (Decidable (v < held.version))

@[simp] theorem newerThan_none {v : Version} : ¬ NewerThan v none := id

@[simp] theorem newerThan_some {v : Version} {i : Item} :
    NewerThan v (some i) ↔ v < i.version := Iff.rfl

theorem newerThan_item? {v : Version} {r : Request} :
    NewerThan v r.item? ↔ r.action = .set ∧ v < r.version := by
  unfold Request.item?
  cases r.action <;> simp

theorem NewerThan.mono {v w : Version} {held : Option Item} (h : NewerThan w held) (hv : v ≤ w) :
    NewerThan v held := by
  cases held with
  | none => exact h
  | some i => exact Int64.lt_of_le_of_lt hv h

/-- What the key of a request holds after the request, by what it held before. -/
def Request.leaves (r : Request) (held : Option Item) : Option Item :=
  if NewerThan r.version held then held else r.item?

theorem Request.leaves_of_newer {r : Request} {held : Option Item}
    (h : NewerThan r.version held) : r.leaves held = held := if_pos h

theorem Request.leaves_of_not_newer {r : Request} {held : Option Item}
    (h : ¬ NewerThan r.version held) : r.leaves held = r.item? := if_neg h

/-- What a key holds after a request, it held before or has from the request. -/
theorem Request.leaves_eq_some {r : Request} {held : Option Item} {i : Item}
    (h : r.leaves held = some i) : held = some i ∨ r.item? = some i := by
  unfold leaves at h
  split at h
  · exact Or.inl h
  · exact Or.inr h

theorem Request.item?_eq_some {r : Request} {i : Item} (h : r.item? = some i) :
    r.action = .set ∧ r.value = i.value ∧ r.version = i.version := by
  unfold item? at h
  split at h
  · next ha =>
    obtain rfl := Option.some.inj h
    exact ⟨ha, rfl, rfl⟩
  · cases h

namespace Store

/-- **What is newer than a request stays**, and nobody is told. -/
theorem apply_of_newer {s : Store} {r : Request} (h : NewerThan r.version (s.get? r.key)) :
    s.apply r = (none, s) := by
  cases hg : s.get? r.key with
  | none => simp [hg] at h
  | some held =>
    rw [hg, newerThan_some, ← Int64.not_le] at h
    unfold apply
    cases r.action with
    | set => simp [set, hg, h, SetOutcome.isApplied]
    | delete => simp [delete, hg, h]

@[simp] theorem get?_mk_insert (d : Dict Item) (key : String) (i : Item) :
    get? ⟨d.insert key i⟩ key = some i := Dict.get?_insert_self d key i

@[simp] theorem get?_mk_erase (d : Dict Item) (key : String) : get? ⟨d.erase key⟩ key = none :=
  Dict.get?_erase_self d key

theorem get?_apply_of_not_newer {s : Store} {r : Request}
    (h : ¬ NewerThan r.version (s.get? r.key)) :
    (s.apply r).2.get? r.key = r.item? := by
  unfold apply Request.item?
  cases hg : s.get? r.key with
  | none =>
    cases r.action with
    | set => simp [set, hg]
    | delete => simp [delete, hg]
  | some held =>
    rw [hg, newerThan_some, Int64.not_lt] at h
    cases r.action with
    | set => simp [set, hg, h]
    | delete => simp [delete, hg, h]

theorem get?_apply_of_ne (s : Store) {r : Request} {key : String} (h : key ≠ r.key) :
    (s.apply r).2.get? key = s.get? key := by
  unfold apply
  cases r.action with
  | set =>
    unfold set
    cases s.get? r.key with
    | none => exact Dict.get?_insert_of_ne _ _ h
    | some held =>
      by_cases hv : held.version ≤ r.version
      · simp only [if_pos hv]
        exact Dict.get?_insert_of_ne _ _ h
      · simp only [if_neg hv]
  | delete =>
    unfold delete
    cases s.get? r.key with
    | none => rfl
    | some held =>
      by_cases hv : held.version ≤ r.version
      · simp only [if_pos hv]
        exact Dict.get?_erase_of_ne _ h
      · simp only [if_neg hv]

/-- **A request changes its own key only, and that unless the key holds something newer.** -/
theorem get?_apply (s : Store) (r : Request) (key : String) :
    (s.apply r).2.get? key = if r.key = key then r.leaves (s.get? key) else s.get? key := by
  split
  · next h =>
    subst h
    by_cases hn : NewerThan r.version (s.get? r.key)
    · rw [apply_of_newer hn, Request.leaves_of_newer hn]
    · rw [get?_apply_of_not_newer hn, Request.leaves_of_not_newer hn]
  · next h => exact s.get?_apply_of_ne (Ne.symm h)

/-- Stores in which every key holds the same are equal. -/
theorem ext_get? {s t : Store} (h : ∀ key, s.get? key = t.get? key) : s = t := by
  cases s
  cases t
  exact congrArg Store.mk (Dict.ext_get? h)

end Store

/-! ## 2. Many requests -/

/-- What a key holds after requests, by what it held before. -/
def heldAfter (key : String) (rs : List Request) (held : Option Item) : Option Item :=
  rs.foldl (fun held r => if r.key = key then r.leaves held else held) held

section HeldAfter

variable {key : String} {held : Option Item} {r : Request} {rs : List Request} {v : Version}

@[simp] theorem heldAfter_nil : heldAfter key [] held = held := rfl

theorem heldAfter_cons_self (h : r.key = key) :
    heldAfter key (r :: rs) held = heldAfter key rs (r.leaves held) := by
  simp [heldAfter, h]

theorem heldAfter_cons_of_ne (h : r.key ≠ key) :
    heldAfter key (r :: rs) held = heldAfter key rs held := by
  simp [heldAfter, h]

theorem heldAfter_append (rs ss : List Request) (held : Option Item) :
    heldAfter key (rs ++ ss) held = heldAfter key ss (heldAfter key rs held) :=
  List.foldl_append

/-- **Each key is affected by the requests on it alone.** -/
theorem Store.get?_applyAll (key : String) (rs : List Request) (s : Store) :
    (s.applyAll rs).get? key = heldAfter key rs (s.get? key) := by
  induction rs generalizing s with
  | nil => rfl
  | cons r rs ih =>
    have hstep : s.applyAll (r :: rs) = (s.apply r).2.applyAll rs := rfl
    rw [hstep, ih, s.get?_apply]
    split
    · next h => rw [heldAfter_cons_self h]
    · next h => rw [heldAfter_cons_of_ne h]

/-! ## 3. Superseded requests -/

/-- Whether a later request on the key is not older. -/
def Superseded (r : Request) (later : List Request) : Prop :=
  ∃ q ∈ later, q.key = r.key ∧ r.version ≤ q.version

theorem superseded_of_mem (h : r ∈ rs) : Superseded r rs :=
  ⟨r, h, rfl, Int64.le_refl _⟩

/-- Two states of a key that no request of version `v` or above can tell apart. -/
def AlikeFrom (v : Version) (a b : Option Item) : Prop :=
  a = b ∨ (¬ NewerThan v a ∧ ¬ NewerThan v b)

theorem AlikeFrom.leaves {a b : Option Item} (h : AlikeFrom v a b) (r : Request) :
    AlikeFrom v (r.leaves a) (r.leaves b) := by
  rcases h with rfl | ⟨ha, hb⟩
  · exact Or.inl rfl
  · by_cases hv : v ≤ r.version
    · left
      rw [Request.leaves_of_not_newer fun h => ha (h.mono hv),
        Request.leaves_of_not_newer fun h => hb (h.mono hv)]
    · have hr : ¬ NewerThan v r.item? := fun h =>
        hv (Int64.le_of_lt (newerThan_item?.1 h).2)
      have hl : ∀ {c : Option Item}, ¬ NewerThan v c → ¬ NewerThan v (r.leaves c) := by
        intro c hc
        unfold Request.leaves
        split
        · exact hc
        · exact hr
      exact Or.inr ⟨hl ha, hl hb⟩

/-- What no request from `v` on can tell apart is the same after one of them. -/
theorem AlikeFrom.leaves_eq {a b : Option Item} (h : AlikeFrom v a b) (hv : v ≤ r.version) :
    r.leaves a = r.leaves b := by
  rcases h with rfl | ⟨ha, hb⟩
  · rfl
  · rw [Request.leaves_of_not_newer fun h => ha (h.mono hv),
      Request.leaves_of_not_newer fun h => hb (h.mono hv)]

theorem heldAfter_eq_of_alikeFrom {a b : Option Item} (h : AlikeFrom v a b)
    (hq : ∃ q ∈ rs, q.key = key ∧ v ≤ q.version) :
    heldAfter key rs a = heldAfter key rs b := by
  induction rs generalizing a b with
  | nil => simp at hq
  | cons r rs ih =>
    by_cases hk : r.key = key
    · rw [heldAfter_cons_self hk, heldAfter_cons_self hk]
      by_cases hv : v ≤ r.version
      · rw [h.leaves_eq hv]
      · refine ih (h.leaves r) ?_
        obtain ⟨q, hm, hqk, hqv⟩ := hq
        rcases List.mem_cons.1 hm with rfl | hm
        · exact absurd hqv hv
        · exact ⟨q, hm, hqk, hqv⟩
    · rw [heldAfter_cons_of_ne hk, heldAfter_cons_of_ne hk]
      refine ih h ?_
      obtain ⟨q, hm, hqk, hqv⟩ := hq
      rcases List.mem_cons.1 hm with rfl | hm
      · exact absurd hqk hk
      · exact ⟨q, hm, hqk, hqv⟩

/-- A request leaves what nobody from its own version on can tell from what was there. -/
theorem alikeFrom_leaves (r : Request) (held : Option Item) :
    AlikeFrom r.version (r.leaves held) held := by
  by_cases h : NewerThan r.version held
  · exact Or.inl (Request.leaves_of_newer h)
  · rw [Request.leaves_of_not_newer h]
    exact Or.inr ⟨fun hn => Int64.lt_irrefl (newerThan_item?.1 hn).2, h⟩

/-- **A superseded request might as well not have come.** -/
theorem Store.applyAll_cons_of_superseded (s : Store) (h : Superseded r rs) :
    s.applyAll (r :: rs) = s.applyAll rs := by
  refine ext_get? fun key => ?_
  rw [get?_applyAll, get?_applyAll]
  by_cases hk : r.key = key
  · subst hk
    rw [heldAfter_cons_self rfl]
    exact heldAfter_eq_of_alikeFrom (alikeFrom_leaves r _) h
  · rw [heldAfter_cons_of_ne hk]

/-! ## 4. The newest set -/

/-- A request that is at least as new as any other on its key: those of the very same version
leave the same. -/
structure Topmost (t : Request) (rs : List Request) : Prop where
  le : ∀ q ∈ rs, q.key = t.key → q.version ≤ t.version
  item?_eq : ∀ q ∈ rs, q.key = t.key → q.version = t.version → q.item? = t.item?

theorem Topmost.tail {t : Request} (h : Topmost t (r :: rs)) : Topmost t rs :=
  ⟨fun q hq => h.le q (List.mem_cons_of_mem _ hq),
    fun q hq => h.item?_eq q (List.mem_cons_of_mem _ hq)⟩

/-- What the topmost set has put under its key stays there. -/
theorem leaves_item?_of_le {t : Request} (hset : t.action = .set) (hle : r.version ≤ t.version)
    (heq : r.version = t.version → r.item? = t.item?) : r.leaves t.item? = t.item? := by
  by_cases hv : r.version = t.version
  · have hn : ¬ NewerThan r.version t.item? := fun h =>
      Int64.lt_irrefl (hv ▸ (newerThan_item?.1 h).2)
    rw [Request.leaves_of_not_newer hn, heq hv]
  · exact Request.leaves_of_newer (newerThan_item?.2 ⟨hset, Int64.lt_of_le_of_ne hle hv⟩)

/-- No request up to a version leaves anything newer. -/
theorem not_newerThan_leaves (hr : r.version ≤ v) (h : ¬ NewerThan v held) :
    ¬ NewerThan v (r.leaves held) := by
  unfold Request.leaves
  split
  · exact h
  · exact fun hn => Int64.not_lt.2 hr (newerThan_item?.1 hn).2

theorem heldAfter_item?_of_topmost {t : Request} (hset : t.action = .set) (h : Topmost t rs) :
    heldAfter t.key rs t.item? = t.item? := by
  induction rs with
  | nil => rfl
  | cons r rs ih =>
    by_cases hk : r.key = t.key
    · rw [heldAfter_cons_self hk, leaves_item?_of_le hset (h.le r List.mem_cons_self hk)
        (h.item?_eq r List.mem_cons_self hk), ih h.tail]
    · rw [heldAfter_cons_of_ne hk, ih h.tail]

/-- **The topmost set decides what its key holds**, wherever it stands among the requests and
however often. -/
theorem heldAfter_of_topmost {t : Request} (hset : t.action = .set) (ht : t ∈ rs)
    (h : Topmost t rs) (hheld : ¬ NewerThan t.version held) :
    heldAfter t.key rs held = t.item? := by
  induction rs generalizing held with
  | nil => simp at ht
  | cons r rs ih =>
    by_cases hr : r = t
    · subst hr
      rw [heldAfter_cons_self rfl, Request.leaves_of_not_newer hheld,
        heldAfter_item?_of_topmost hset h.tail]
    · have ht' : t ∈ rs := (List.mem_cons.1 ht).resolve_left (Ne.symm hr)
      by_cases hk : r.key = t.key
      · rw [heldAfter_cons_self hk]
        exact ih ht' h.tail (not_newerThan_leaves (h.le r List.mem_cons_self hk) hheld)
      · rw [heldAfter_cons_of_ne hk]
        exact ih ht' h.tail hheld

/-- Without a set on it a key that holds nothing goes on holding nothing. -/
theorem heldAfter_none_of_deletes (h : ∀ q ∈ rs, q.key = key → q.action = .delete) :
    heldAfter key rs none = none := by
  induction rs with
  | nil => rfl
  | cons r rs ih =>
    have ih := ih fun q hq => h q (List.mem_cons_of_mem _ hq)
    by_cases hk : r.key = key
    · have hd : r.item? = none := by simp [Request.item?, h r List.mem_cons_self hk]
      rw [heldAfter_cons_self hk, Request.leaves_of_not_newer newerThan_none, hd, ih]
    · rw [heldAfter_cons_of_ne hk, ih]

/-! ## 5. Sets that stand -/

/-- A set among requests that nothing behind it superseded. -/
def Standing (q : Request) (rs : List Request) : Prop :=
  q.action = .set ∧ ∃ before after, rs = before ++ q :: after ∧ ¬ Superseded q after

/-- With one more request behind the others, that request stands if it is a set, and of the
others those that it does not supersede. -/
theorem standing_concat {q : Request} :
    Standing q (rs ++ [r]) ↔
      (q = r ∧ q.action = .set) ∨ (Standing q rs ∧ (r.key = q.key → r.version < q.version)) := by
  constructor
  · rintro ⟨hset, before, after, heq, hs⟩
    rcases List.eq_nil_or_concat after with rfl | ⟨after, p, rfl⟩
    · obtain ⟨-, hrq⟩ := List.append_inj' heq rfl
      exact Or.inl ⟨(List.cons.inj hrq).1.symm, hset⟩
    · rw [List.concat_eq_append] at heq hs
      rw [← List.cons_append, ← List.append_assoc] at heq
      obtain ⟨rfl, hrp⟩ := List.append_inj' heq rfl
      obtain rfl : r = p := (List.cons.inj hrp).1
      refine Or.inr ⟨⟨hset, before, after, rfl, ?_⟩, fun hk => ?_⟩
      · rintro ⟨p, hp, hrest⟩
        exact hs ⟨p, List.mem_append_left _ hp, hrest⟩
      · rw [← Int64.not_le]
        exact fun hle => hs ⟨r, by simp, hk, hle⟩
  · rintro (⟨rfl, hset⟩ | ⟨⟨hset, before, after, rfl, hs⟩, hr⟩)
    · exact ⟨hset, rs, [], rfl, by rintro ⟨p, hp, -⟩; cases hp⟩
    · refine ⟨hset, before, after ++ [r], by simp, ?_⟩
      rintro ⟨p, hp, hpk, hpv⟩
      rcases List.mem_append.1 hp with hp | hp
      · exact hs ⟨p, hp, hpk, hpv⟩
      · obtain rfl : p = r := List.mem_singleton.1 hp
        exact Int64.not_le.2 (hr hpk) hpv

theorem not_standing_nil {q : Request} : ¬ Standing q [] := by
  rintro ⟨-, before, after, heq, -⟩
  simp at heq

/-- Of the sets of one key that stand no two have the same version. -/
theorem eq_of_standing {p q : Request} (hp : Standing p rs) (hq : Standing q rs)
    (hk : p.key = q.key) (hv : p.version = q.version) : p = q := by
  induction rs using List.reverseRecOn with
  | nil => exact absurd hp not_standing_nil
  | append_singleton rs r ih =>
    rcases standing_concat.1 hp with ⟨rfl, -⟩ | ⟨hp, hpr⟩
    · rcases standing_concat.1 hq with ⟨rfl, -⟩ | ⟨-, hqr⟩
      · rfl
      · exact absurd (hqr hk) (hv ▸ Int64.lt_irrefl)
    · rcases standing_concat.1 hq with ⟨rfl, -⟩ | ⟨hq, -⟩
      · exact absurd (hpr hk.symm) (hv ▸ Int64.lt_irrefl)
      · exact ih hp hq

/-- The set with the largest version of those that stand on a key. -/
structure Newest (q : Request) (key : String) (rs : List Request) : Prop where
  standing : Standing q rs
  key_eq : q.key = key
  le : ∀ p, Standing p rs → p.key = key → p.version ≤ q.version

theorem Newest.unique {p q : Request} (hp : Newest p key rs) (hq : Newest q key rs) : p = q :=
  eq_of_standing hp.standing hq.standing (hp.key_eq.trans hq.key_eq.symm)
    (Int64.le_antisymm (hq.le p hp.standing hp.key_eq) (hp.le q hq.standing hq.key_eq))

/-- What a key holds has been put there by the newest set that stands on it; if it holds nothing,
none stands. -/
def LeftBy (key : String) (rs : List Request) : Option Item → Prop
  | none => ∀ q, Standing q rs → q.key ≠ key
  | some i => ∃ q, Newest q key rs ∧ q.item? = some i

theorem LeftBy.newerThan_iff (h : LeftBy key rs held) :
    NewerThan v held ↔ ∃ q, Standing q rs ∧ q.key = key ∧ v < q.version := by
  cases held with
  | none =>
    constructor
    · intro hv
      exact absurd hv newerThan_none
    · rintro ⟨q, hq, hqk, -⟩
      exact absurd hqk (h q hq)
  | some i =>
    obtain ⟨q, hq, hi⟩ := h
    have hiv : q.version = i.version := (Request.item?_eq_some hi).2.2
    rw [newerThan_some, ← hiv]
    constructor
    · intro hv
      exact ⟨q, hq.standing, hq.key_eq, hv⟩
    · rintro ⟨p, hp, hpk, hv⟩
      exact Int64.lt_of_lt_of_le hv (hq.le p hp hpk)

/-- A request on another key leaves alone what stands on this one. -/
theorem LeftBy.concat_of_ne (h : LeftBy key rs held) (hk : r.key ≠ key) :
    LeftBy key (rs ++ [r]) held := by
  have hold : ∀ q, q.key = key → (Standing q (rs ++ [r]) ↔ Standing q rs) := by
    intro q hqk
    rw [standing_concat]
    constructor
    · rintro (⟨rfl, -⟩ | ⟨hq, -⟩)
      · exact absurd hqk hk
      · exact hq
    · intro hq
      exact Or.inr ⟨hq, fun hrq => absurd (hrq.trans hqk) hk⟩
  cases held with
  | none =>
    intro q hq hqk
    exact h q ((hold q hqk).1 hq) hqk
  | some i =>
    obtain ⟨q, hq, hi⟩ := h
    refine ⟨q, ⟨(hold q hq.key_eq).2 hq.standing, hq.key_eq, ?_⟩, hi⟩
    intro p hp hpk
    exact hq.le p ((hold p hpk).1 hp) hpk

/-- **What a request leaves is again put there by the newest set that stands.** -/
theorem LeftBy.concat (h : LeftBy key rs held) (hk : r.key = key) :
    LeftBy key (rs ++ [r]) (r.leaves held) := by
  by_cases hn : NewerThan r.version held
  · -- what is newer stays, and the set that put it there still stands
    rw [Request.leaves_of_newer hn]
    cases held with
    | none => exact absurd hn newerThan_none
    | some i =>
      obtain ⟨q, hq, hi⟩ := h
      have hrq : r.version < q.version := by
        rw [(Request.item?_eq_some hi).2.2]
        exact hn
      refine ⟨q, ⟨standing_concat.2 (Or.inr ⟨hq.standing, fun _ => hrq⟩), hq.key_eq, ?_⟩, hi⟩
      intro p hp hpk
      rcases standing_concat.1 hp with ⟨rfl, -⟩ | ⟨hp, -⟩
      · exact Int64.le_of_lt hrq
      · exact hq.le p hp hpk
  · -- what is not newer is gone, and nothing that stood stands any more
    rw [Request.leaves_of_not_newer hn]
    have hgone : ∀ p, p.key = key → Standing p (rs ++ [r]) → p = r ∧ p.action = .set := by
      intro p hpk hp
      rcases standing_concat.1 hp with hpr | ⟨hp, hlt⟩
      · exact hpr
      · exact absurd (h.newerThan_iff.2 ⟨p, hp, hpk, hlt (hk.trans hpk.symm)⟩) hn
    cases ha : r.action with
    | set =>
      have hi : r.item? = some ⟨r.value, r.version⟩ := by simp [Request.item?, ha]
      rw [hi]
      refine ⟨r, ⟨standing_concat.2 (Or.inl ⟨rfl, ha⟩), hk, ?_⟩, hi⟩
      intro p hp hpk
      rw [(hgone p hpk hp).1]
      exact Int64.le_refl _
    | delete =>
      have hi : r.item? = none := by simp [Request.item?, ha]
      rw [hi]
      intro p hp hpk
      obtain ⟨rfl, hset⟩ := hgone p hpk hp
      rw [ha] at hset
      cases hset

/-- **What a key that held nothing holds after requests, the newest set that stands has put
there.** -/
theorem leftBy_heldAfter (key : String) (rs : List Request) :
    LeftBy key rs (heldAfter key rs none) := by
  induction rs using List.reverseRecOn with
  | nil =>
    intro q hq
    exact absurd hq not_standing_nil
  | append_singleton rs r ih =>
    rw [heldAfter_append]
    by_cases hk : r.key = key
    · rw [heldAfter_cons_self hk]
      exact ih.concat hk
    · rw [heldAfter_cons_of_ne hk]
      exact ih.concat_of_ne hk

/-- **A key that held nothing holds something newer than `v` just when a set on it that is
newer than `v` stands.** -/
theorem newerThan_heldAfter_iff :
    NewerThan v (heldAfter key rs none) ↔ ∃ q, Standing q rs ∧ q.key = key ∧ v < q.version :=
  (leftBy_heldAfter key rs).newerThan_iff

end HeldAfter

end Replica
