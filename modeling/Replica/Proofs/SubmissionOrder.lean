/-
# Writes on one node, in the order of submission

What a client asks one node for is stamped in the order it is asked for, and the node is meant
to end up with what a map without versions would hold after the same calls.  **It does, but for
the keys on which the count came round** (`get?_drain_eq_plain_iff`): the count of the stamps
goes on from 999 to 0 while the clock may stand still, and then a set may carry a stamp that no
later call on its key reaches.  Such a set stays, and what was asked for behind it is lost.
-/

import Replica.Proofs.Pipeline
import Replica.Proofs.Stamps

namespace Replica

/-! ## 1. Calls and what they are meant to do -/

/-- A call that was accepted, with the version it was told. -/
structure Accepted where
  call : Call
  version : Version
deriving DecidableEq, Repr

namespace Accepted

def request (a : Accepted) : Request := a.call.request a.version

/-- What the call does to a map without versions; an item is put there with the version that
was told. -/
def write (m : Dict Item) (a : Accepted) : Dict Item :=
  match a.call with
  | .set key value => m.insert key ⟨value, a.version⟩
  | .delete key => m.erase key

theorem get?_write_self (m : Dict Item) (a : Accepted) :
    (a.write m).get? a.call.key = a.request.item? := by
  obtain ⟨_ | _, v⟩ := a
  · exact Dict.get?_insert_self ..
  · exact Dict.get?_erase_self ..

theorem get?_write_of_ne (m : Dict Item) {a : Accepted} {key : String} (h : key ≠ a.call.key) :
    (a.write m).get? key = m.get? key := by
  obtain ⟨_ | _, v⟩ := a
  · exact Dict.get?_insert_of_ne _ _ h
  · exact Dict.get?_erase_of_ne _ h

end Accepted

/-- What a map without versions holds after calls. -/
def plain (as : List Accepted) : Dict Item := as.foldl Accepted.write .empty

/-! ## 2. Where a set is not made up for -/

/-- Some set on the key is followed by calls on it, and all of these fall short of it. -/
def Outlasted (Short : Version → Version → Prop) (key : String) (as : List Accepted) : Prop :=
  ∃ before a after, as = before ++ a :: after ∧ a.request.action = .set ∧ a.call.key = key ∧
    (∃ b ∈ after, b.call.key = key) ∧ ∀ b ∈ after, b.call.key = key → Short b.version a.version

/-- A stamp of the same reading of the clock with a smaller count. -/
def CameRound (v w : Version) : Prop :=
  v.parts.1 = w.parts.1 ∧ v.parts.2.2 < w.parts.2.2

section Outlasted

variable {Short : Version → Version → Prop} {key : String} {as : List Accepted} {a : Accepted}

theorem not_outlasted_nil : ¬ Outlasted Short key [] := by
  rintro ⟨before, a, after, h, -⟩
  simp at h

theorem outlasted_concat_iff :
    Outlasted Short key (as ++ [a]) ↔
      ∃ before b after, as = before ++ b :: after ∧ b.request.action = .set ∧ b.call.key = key ∧
        (a.call.key = key ∨ ∃ c ∈ after, c.call.key = key) ∧
        (∀ c ∈ after, c.call.key = key → Short c.version b.version) ∧
        (a.call.key = key → Short a.version b.version) := by
  constructor
  · rintro ⟨before, b, after, heq, hset, hb, ⟨c, hc, hck⟩, hshort⟩
    rcases List.eq_nil_or_concat after with rfl | ⟨after, e, rfl⟩
    · cases hc
    · rw [List.concat_eq_append] at heq hc hshort
      rw [← List.cons_append, ← List.append_assoc] at heq
      obtain ⟨rfl, hae⟩ := List.append_inj' heq rfl
      obtain rfl : a = e := (List.cons.inj hae).1
      refine ⟨before, b, after, rfl, hset, hb, ?_, fun e he => ?_, hshort a (by simp)⟩
      · rcases List.mem_append.1 hc with hc | hc
        · exact Or.inr ⟨c, hc, hck⟩
        · exact Or.inl (List.mem_singleton.1 hc ▸ hck)
      · exact hshort e (List.mem_append_left _ he)
  · rintro ⟨before, b, after, rfl, hset, hb, hlater, hshort, ha⟩
    refine ⟨before, b, after ++ [a], by simp, hset, hb, ?_, fun c hc hck => ?_⟩
    · rcases hlater with hak | ⟨c, hc, hck⟩
      · exact ⟨a, by simp, hak⟩
      · exact ⟨c, List.mem_append_left _ hc, hck⟩
    · rcases List.mem_append.1 hc with hc | hc
      · exact hshort c hc hck
      · obtain rfl := List.mem_singleton.1 hc
        exact ha hck

theorem outlasted_concat_of_ne (h : a.call.key ≠ key) :
    Outlasted Short key (as ++ [a]) ↔ Outlasted Short key as := by
  rw [outlasted_concat_iff]
  simp [h, Outlasted]

/-- A call on the key leaves it outlasted just when the key held something newer. -/
theorem outlasted_concat_self (h : a.call.key = key) :
    Outlasted (· < ·) key (as ++ [a]) ↔
      NewerThan a.version (heldAfter key (as.map Accepted.request) none) := by
  rw [outlasted_concat_iff, newerThan_heldAfter_iff]
  constructor
  · rintro ⟨before, b, after, rfl, hset, hb, -, hshort, ha⟩
    refine ⟨b.request, ⟨hset, _, _, by rw [List.map_append, List.map_cons], ?_⟩, ?_, ?_⟩
    · rintro ⟨q, hq, hqk, hqv⟩
      obtain ⟨c, hc, rfl⟩ := List.mem_map.1 hq
      simp only [Accepted.request, Call.key_request, Call.version_request] at hqk hqv
      exact Int64.not_lt.2 hqv (hshort c hc (hqk.trans hb))
    · simpa [Accepted.request] using hb
    · simpa [Accepted.request] using ha h
  · rintro ⟨q, ⟨hset, before, after, heq, hs⟩, hqk, hqv⟩
    obtain ⟨before, rest, rfl, rfl, hrest⟩ := List.map_eq_append_iff.1 heq
    obtain ⟨b, after, rfl, rfl, rfl⟩ := List.map_eq_cons_iff.1 hrest
    have hb : b.call.key = key := by simpa [Accepted.request] using hqk
    refine ⟨before, b, after, rfl, hset, hb, Or.inl h, fun c hc hck => ?_, fun _ => ?_⟩
    · rw [← Int64.not_le]
      intro hle
      refine hs ⟨c.request, List.mem_map_of_mem hc, ?_, ?_⟩
      · simp [Accepted.request, hck, hb]
      · simpa [Accepted.request] using hle
    · simpa [Accepted.request] using hqv

/-- **A store goes apart from a map without versions on the keys with a set that no later call
reaches.** -/
theorem heldAfter_eq_plain_iff (key : String) (as : List Accepted) :
    heldAfter key (as.map Accepted.request) none = (plain as).get? key ↔
      ¬ Outlasted (· < ·) key as := by
  induction as using List.reverseRecOn with
  | nil => simp [plain, not_outlasted_nil]
  | append_singleton as a ih =>
    have hplain : plain (as ++ [a]) = a.write (plain as) := List.foldl_append ..
    rw [hplain, List.map_append, List.map_singleton, heldAfter_append]
    by_cases hk : a.call.key = key
    · have hkr : a.request.key = key := by simpa [Accepted.request] using hk
      have hver : a.request.version = a.version := by simp [Accepted.request]
      rw [outlasted_concat_self hk, heldAfter_cons_self hkr, heldAfter_nil]
      subst hk
      rw [a.get?_write_self]
      by_cases hn : NewerThan a.version (heldAfter a.call.key (as.map Accepted.request) none)
      · rw [Request.leaves_of_newer (hver ▸ hn)]
        refine iff_of_false (fun heq => ?_) (not_not_intro hn)
        rw [heq, newerThan_item?, hver] at hn
        exact Int64.lt_irrefl hn.2
      · rw [Request.leaves_of_not_newer (hver ▸ hn)]
        exact iff_of_true rfl hn
    · have hkr : a.request.key ≠ key := by simpa [Accepted.request] using hk
      rw [outlasted_concat_of_ne hk, heldAfter_cons_of_ne hkr, heldAfter_nil,
        Accepted.get?_write_of_ne _ (Ne.symm hk), ih]

end Outlasted

/-! ## 3. A node at work -/

/-- What a node does next. -/
inductive Turn where
  /-- A client asks while the clock reads `millis`. -/
  | asked (millis : Int64) (call : Call)
  /-- The pipeline takes the next request, if there is one. -/
  | processes
deriving DecidableEq, Repr

namespace Turn

/-- What the node is asked, and the reading of the clock. -/
def asked? : Turn → Option (Int64 × Call)
  | .asked millis call => some (millis, call)
  | .processes => none

/-- All that the node is asked, in order, each with the reading of the clock. -/
def calls (ts : List Turn) : List (Int64 × Call) := ts.filterMap asked?

end Turn

namespace Node

/-- Lets a node work; all that it is asked has to be accepted. -/
def operate (n : Node) (d : Disk) : List Turn → Option (List Accepted × Node × Disk)
  | [] => some ([], n, d)
  | .asked millis call :: rest =>
    match n.ask millis call with
    | (.ok v, n) => (n.operate d rest).map fun (as, x) => (⟨call, v⟩ :: as, x)
    | (.error _, _) => none
  | .processes :: rest =>
    match n.advance? d with
    | some (n, d) => n.operate d rest
    | none => n.operate d rest

/-- **A node at work** stamps the calls one after another and will hold what they leave. -/
theorem operate_eq_some {ts : List Turn} {n n' : Node} {d d' : Disk} {as : List Accepted}
    (h : n.operate d ts = some (as, n', d')) :
    as = (Turn.calls ts).mapIdx (fun i (millis, call) => ⟨call, n.ticker.stampAt i millis⟩) ∧
      n'.due = n.due.applyAll (as.map Accepted.request) := by
  induction ts generalizing n d as with
  | nil =>
    cases h
    exact ⟨rfl, rfl⟩
  | cons t ts ih =>
    cases t with
    | asked millis call =>
      unfold operate at h
      split at h
      · next v m hask =>
        obtain ⟨⟨bs, x⟩, hrest, heq⟩ := Option.map_eq_some_iff.1 h
        cases heq
        obtain ⟨-, rfl, hsub⟩ := ask_eq_ok hask
        have hticker : m.ticker = (n.ticker.next millis).2 := ticker_submit hsub
        have hdue := due_submit hsub
        obtain ⟨hbs, hdue'⟩ := ih hrest
        refine ⟨?_, ?_⟩
        · simp only [Turn.calls, Turn.asked?, List.filterMap_cons, List.mapIdx_cons, hbs, hticker,
            Ticker.stampAt_next, Ticker.next_eq]
        · rw [hdue', hdue]
          rfl
      · cases h
    | processes =>
      unfold operate at h
      split at h
      · next m e hadv =>
        obtain ⟨-, -, -, -, -, -, hticker⟩ := advance?_eq_some hadv
        obtain ⟨has, hdue⟩ := ih h
        rw [hticker] at has
        rw [due_advance? hadv] at hdue
        exact ⟨has, hdue⟩
      · exact ih h

end Node

/-! ## 4. What the clock adds -/

/-- Of two stamps with a reading that does not fall, the later is smaller just when the count
came round. -/
theorem Ticker.stampAt_lt_stampAt_iff_cameRound (t : Ticker) {i j : Nat} {m m' : Int64}
    (hm : Version.Fits m) (hm' : Version.Fits m') (hle : m ≤ m') :
    t.stampAt j m' < t.stampAt i m ↔ CameRound (t.stampAt j m') (t.stampAt i m) := by
  rw [t.stampAt_lt_stampAt_iff hm' hm, CameRound, t.parts_stampAt i hm, t.parts_stampAt j hm',
    Version.ofNat_lt_ofNat_iff (t.countAt_lt j) (t.countAt_lt i)]
  exact or_iff_right (Int64.not_lt.2 hle)

/-- What stamps of two readings that do not fall have in common with a list of calls. -/
theorem Outlasted.congr {R S : Version → Version → Prop} {key : String} {as : List Accepted}
    (h : as.Pairwise fun a b => R b.version a.version ↔ S b.version a.version) :
    Outlasted R key as ↔ Outlasted S key as := by
  refine exists_congr fun before => exists_congr fun a => exists_congr fun after => ?_
  refine and_congr_right fun heq => and_congr_right fun _ => and_congr_right fun _ =>
    and_congr_right fun _ => ?_
  rw [heq] at h
  have ha := (List.pairwise_cons.1 (List.pairwise_append.1 h).2.1).1
  exact forall₂_congr fun b hb => imp_congr_right fun _ => ha b hb

/-- **A node holds what a map without versions would hold, but for the keys on which a set is
followed by calls of the very same reading and smaller counts only.**  The stamps of accepted
calls carry the readings of the clock, the node, and counts that follow each other up to 999 and
go on with 0. -/
theorem get?_drain_eq_plain_iff {n n' : Node} {d d' : Disk} {ts : List Turn} {as : List Accepted}
    (hstore : n.store = .empty) (hqueue : n.intake.queue = [])
    (hclock : ((Turn.calls ts).map Prod.fst).Pairwise (· ≤ ·))
    (hfits : ∀ x ∈ Turn.calls ts, Version.Fits x.1)
    (h : n.operate d ts = some (as, n', d')) :
    as.map (fun a => (a.call, a.version.parts)) =
      (Turn.calls ts).mapIdx (fun i (millis, call) =>
        (call, millis, Int64.ofNat n.ticker.node,
          Int64.ofNat ((n.ticker.count + i + 1) % 1000))) ∧
    ∀ key, (n'.drain d').1.get? key = (plain as).get? key ↔ ¬ Outlasted CameRound key as := by
  obtain ⟨has, hdue⟩ := Node.operate_eq_some h
  refine ⟨?_, fun key => ?_⟩
  · refine List.ext_getElem (by simp [has]) fun i h₁ h₂ => ?_
    have hi : i < (Turn.calls ts).length := by simpa using h₂
    simp [has, n.ticker.parts_stampAt i (hfits _ (List.getElem_mem hi)), Ticker.countAt]
  · have hpair : as.Pairwise fun a b =>
        b.version < a.version ↔ CameRound b.version a.version := by
      rw [has, List.pairwise_iff_getElem]
      intro i j hi hj hij
      rw [List.length_mapIdx] at hi hj
      simp only [List.getElem_mapIdx]
      refine n.ticker.stampAt_lt_stampAt_iff_cameRound (hfits _ (List.getElem_mem hi))
        (hfits _ (List.getElem_mem hj)) ?_
      exact List.pairwise_iff_getElem.1 (List.pairwise_map.1 hclock) i j hi hj hij
    have hget : (n'.drain d').1.get? key = heldAfter key (as.map Accepted.request) none := by
      unfold Node.get?
      rw [Node.store_drain, hdue, Node.due_of_nil hqueue, hstore, Store.get?_applyAll]
      rfl
    rw [hget, heldAfter_eq_plain_iff, Outlasted.congr hpair]

/-- A set, another set of the same key, and a delete of another one, of two readings. -/
def Turn.threeCalls : List Turn :=
  [.asked 7 (.set "k" [1]), .asked 7 (.set "k" [2]), .processes, .asked 8 (.delete "l")]

theorem get?_drain_eq_plain_iff_threeCalls :
    ∃ as n' d', (Node.solitary 1).operate .empty Turn.threeCalls = some (as, n', d') ∧
      as.map (fun a => (a.call, a.version.parts)) =
        (Turn.calls Turn.threeCalls).mapIdx (fun i (millis, call) =>
          (call, millis, Int64.ofNat (Node.solitary 1).ticker.node,
            Int64.ofNat (((Node.solitary 1).ticker.count + i + 1) % 1000))) ∧
      ∀ key, (n'.drain d').1.get? key = (plain as).get? key ↔ ¬ Outlasted CameRound key as := by
  obtain ⟨⟨as, n', d'⟩, h⟩ := Option.isSome_iff_exists.1
    (by decide +kernel : ((Node.solitary 1).operate .empty Turn.threeCalls).isSome = true)
  exact ⟨as, n', d', h, get?_drain_eq_plain_iff rfl rfl (by decide +kernel) (by decide +kernel) h⟩

/-- A thousand sets of a key at one reading of the clock, the last of another value. -/
def Turn.thousandSets : List Turn :=
  (List.replicate 999 [.asked 0 (.set "k" [1]), .processes]).flatten ++ [.asked 0 (.set "k" [2])]

/-- **The thousandth set of one millisecond is lost.**  All are accepted, but the count of the
last is 0 again, and the key goes on holding what the last but one put there. -/
theorem thousandth_set_lost :
    ((Turn.calls Turn.thousandSets).map Prod.fst).Pairwise (· ≤ ·) ∧
    (∀ x ∈ Turn.calls Turn.thousandSets, Version.Fits x.1) ∧
    ∃ as n' d', (Node.solitary 1).operate .empty Turn.thousandSets = some (as, n', d') ∧
      (plain as).get? "k" = some ⟨[2], 1000⟩ ∧
      (n'.drain d').1.get? "k" = some ⟨[1], 1999⟩ := by
  have hcalls : ∀ x ∈ Turn.calls Turn.thousandSets, x.1 = 0 := by decide +kernel
  have hlost : (((Node.solitary 1).operate .empty Turn.thousandSets).any fun (as, n', d') =>
      decide ((plain as).get? "k" = some ⟨[2], 1000⟩) &&
        decide ((n'.drain d').1.get? "k" = some ⟨[1], 1999⟩)) = true := by decide +kernel
  refine ⟨?_, fun x hx => hcalls x hx ▸ by decide, ?_⟩
  · rw [List.pairwise_map]
    exact List.pairwise_of_forall_mem_list fun x hx y hy => by
      rw [hcalls x hx, hcalls y hy]; decide
  · obtain ⟨⟨as, n', d'⟩, h, hp⟩ := (Option.any_eq_true _ _).1 hlost
    simp only [Bool.and_eq_true, decide_eq_true_eq] at hp
    exact ⟨as, n', d', h, hp⟩

end Replica
