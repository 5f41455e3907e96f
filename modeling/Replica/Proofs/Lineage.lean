/-
# What a fleet holds, its clients asked for

In a fleet that found nothing and to which no stranger pushes, **every item that a node holds, or
that its snapshot file holds, was set by a call that some node accepted, with that very key and
value, and the call returned that very version; and every request in the log of a node is what such
a call made it**, up to who handed it on (`all_from_clients`).

Between a call and an item there may be any number of lines, batches, snapshots and files.  All of
them are read back as what they were written for because keys are legal: the calls that were
accepted name no others.

Nothing is said of time.  An item that a delete took away may come back with a snapshot; but then
too it is one that was set.
-/

import Replica.Proofs.Forwarding
import Replica.Proofs.Provenance

namespace Replica

/-! ## 1. The kind of what stems from calls -/

namespace Request

variable {asked : List Request} {q : Request}

theorem StemsFrom.recordable (h : q.StemsFrom asked) (hasked : ∀ a ∈ asked, a.Recordable) :
    q.Recordable := by
  obtain ⟨a, ha, heq⟩ := h
  have hpeer : q.toPeer.Recordable := heq ▸ (hasked a ha).toPeer
  exact ⟨hpeer.legalKey, hpeer.value_eq_nil⟩

theorem StemsFrom.toPeer (h : q.StemsFrom asked) : q.toPeer.StemsFrom asked := by
  obtain ⟨a, ha, heq⟩ := h
  exact ⟨a, ha, q.toPeer_toPeer.trans heq⟩

/-- **It does not matter who handed on what stems from requests that have lines.** -/
theorem kind_stemsFrom (hasked : ∀ a ∈ asked, a.Recordable) :
    Request.Kind fun r => r.StemsFrom asked where
  recordable _ h := h.recordable hasked
  toPeer _ h := h.toPeer

end Request

/-- What a call makes is told apart by its call and its version. -/
theorem Call.eq_of_set_toPeer_eq {call : Call} {v w : Version} {o : Origin} {key : String}
    {value : Bytes} (h : (Request.set w o key value).toPeer = (call.request v).toPeer) :
    call = .set key value ∧ v = w := by
  cases call with
  | set key' value' =>
    simp only [request, Request.set, Request.toPeer, Request.mk.injEq] at h
    obtain ⟨rfl, -, -, rfl, rfl⟩ := h
    exact ⟨rfl, rfl⟩
  | delete key' =>
    simp [request, Request.set, Request.delete, Request.toPeer] at h

namespace Fleet

variable {k : Nat} {m : Fleet k} {a : Act k} {as : List (Act k)} {r : Request}

/-! ## 2. Calls that were accepted -/

/-- Whether a client's call at some node was accepted and returned a version. -/
def Returned (m : Fleet k) (as : List (Act k)) (call : Call) (v : Version) : Prop :=
  ∃ before h millis after n, as = before ++ .occur h (.inside (.ask millis call)) :: after ∧
    ((m.run before).hosts h).node.ask millis call = (.ok v, n)

theorem exists_of_mem_asked (hr : r ∈ m.asked a) :
    ∃ h millis call v n, a = .occur h (.inside (.ask millis call)) ∧
      (m.hosts h).node.ask millis call = (.ok v, n) ∧ r = call.request v := by
  cases a with
  | occur h e =>
    simp only [asked] at hr
    split at hr
    · next b hact =>
      obtain ⟨millis, call, v, n, rfl, hask, rfl⟩ := Service.mem_asked_iff.1 hr
      refine ⟨h, millis, call, v, n, ?_, hask, rfl⟩
      cases e with
      | inside c =>
        cases c with
        | submit q => cases hact
        | come errand => cases hact
        | _ => exact congrArg (fun c => Act.occur h (.inside c)) (Option.some.inj hact)
      | push records => cases hact
      | deliver call =>
        obtain ⟨batch, -, hcome⟩ := Option.map_eq_some_iff.1 hact
        cases hcome
      | catchUp reply =>
        obtain ⟨snapshot, -, hcome⟩ := Option.map_eq_some_iff.1 hact
        cases hcome
    · cases hr
  | _ => cases hr

/-- **What clients asked for are the calls that were accepted.** -/
theorem exists_returned_of_mem_askedIn (hr : r ∈ m.askedIn as) :
    ∃ call v, m.Returned as call v ∧ r = call.request v := by
  induction as generalizing m with
  | nil => cases hr
  | cons a as ih =>
    rcases List.mem_append.1 hr with hr | hr
    · obtain ⟨h, millis, call, v, n, rfl, hask, rfl⟩ := exists_of_mem_asked hr
      exact ⟨call, v, ⟨[], h, millis, as, n, rfl, hask⟩, rfl⟩
    · obtain ⟨call, v, ⟨before, h, millis, after, n, rfl, hask⟩, rfl⟩ := ih hr
      exact ⟨call, v, ⟨a :: before, h, millis, after, n, rfl, hask⟩, rfl⟩

theorem exists_returned_of_stemsFrom (hr : r.StemsFrom (m.askedIn as)) :
    ∃ call v, m.Returned as call v ∧ r.toPeer = (call.request v).toPeer := by
  obtain ⟨q, hq, heq⟩ := hr
  obtain ⟨call, v, hreturned, rfl⟩ := exists_returned_of_mem_askedIn hq
  exact ⟨call, v, hreturned, heq⟩

/-- An item of the kind was set by a call that returned its version. -/
theorem returned_of_mem_pulled {st : Store} {key : String} {i : Item}
    (hst : ∀ r ∈ Node.pulled st, r.StemsFrom (m.askedIn as)) (hget : st.get? key = some i) :
    m.Returned as (.set key i.value) i.version := by
  have hmem := Node.mem_pulled_iff.2 ⟨key, i, hget, rfl⟩
  obtain ⟨call, v, hreturned, heq⟩ := exists_returned_of_stemsFrom (hst _ hmem)
  obtain ⟨rfl, rfl⟩ := Call.eq_of_set_toPeer_eq heq
  exact hreturned

/-! ## 3. All that a fleet keeps -/

theorem Act.brings_of_isForeign {P : Request → Prop} (h : a.isForeign = false) : a.Brings P := by
  cases a with
  | occur g e =>
    cases e with
    | push records => cases h
    | _ => trivial
  | _ => trivial

/-- **Everything stems from calls**, whatever happens. -/
theorem Fresh.stocked_run (hm : m.Fresh) (hown : ∀ a ∈ as, a.isForeign = false) :
    (m.run as).Stocked fun r => r.StemsFrom (m.askedIn as) :=
  hm.stocked.run (Request.kind_stemsFrom fun _ => recordable_of_mem_askedIn)
    (fun _ => Request.stemsFrom_of_mem) fun a ha => Act.brings_of_isForeign (hown a ha)

end Fleet

/-- A snapshot file that reads is of the kind. -/
theorem Disk.Files.ofSnapshot {P : Request → Prop} {s : Settings} {d : Disk} {b : Bytes}
    {st : Store} (h : d.Files P s) (hread : d.read (Path.ofText s.snapshotPath) = .ok b)
    (hst : Store.ofSnapshot b = .ok st) : ∀ r ∈ Node.pulled st, P r := by
  have hsnapshot := h.snapshot
  unfold Disk.read at hread
  split at hread
  · cases hread
  · split at hread
    · cases hread
    · cases hread
    · next hfull =>
      rw [hfull] at hsnapshot
      exact hsnapshot.elim
    · next content hfile =>
      rw [hfile] at hsnapshot
      obtain rfl := Except.ok.inj hread
      exact Snapshots.ofSnapshot hsnapshot hst

/-- **Whatever happens in a fleet that found nothing and to which no stranger pushes**, everything
in its stores, snapshots and logs is what a call made that some node accepted. -/
theorem all_from_clients {k : Nat} (m : Fleet k) (hm : m.Fresh) (as : List (Fleet.Act k))
    (hown : ∀ a ∈ as, a.isForeign = false) (h : Fin k) :
    let x := (m.run as).hosts h
    let s := x.node.settings
    (∀ key i, x.node.get? key = some i → m.Returned as (.set key i.value) i.version) ∧
    (∀ b st, x.disk.read (Path.ofText s.snapshotPath) = .ok b → Store.ofSnapshot b = .ok st →
      ∀ key i, st.get? key = some i → m.Returned as (.set key i.value) i.version) ∧
    ∃ rs, x.disk.read (Path.ofText s.logPath) = .ok (Log.written rs) ∧
      Log.read x.disk (Path.ofText s.logPath) = .ok rs ∧
      ∀ r ∈ rs, ∃ call v, m.Returned as call v ∧ r.toPeer = (call.request v).toPeer := by
  intro x s
  have hkind := Request.kind_stemsFrom
    fun q (hq : q ∈ m.askedIn as) => Fleet.recordable_of_mem_askedIn hq
  obtain ⟨s', hx⟩ := (hm.stocked_run hown).hosts h
  obtain rfl : s = s' := hx.filed.settings_eq
  refine ⟨fun key i hget => ?_, fun b st hread hst key i hget => ?_, ?_⟩
  · exact Fleet.returned_of_mem_pulled hx.carries.held hget
  · exact Fleet.returned_of_mem_pulled (hx.files.ofSnapshot hread hst) hget
  · obtain ⟨rs, hrs, hholds⟩ := hx.files.log
    refine ⟨rs, hholds.read, ?_, fun r hr => Fleet.exists_returned_of_stemsFrom (hrs r hr)⟩
    rw [Log.read_of_holds hholds]
    exact Log.requests_written fun r hr => hkind.recordable r (hrs r hr)

namespace Fleet

def partnerSettings : Fin 2 → Settings
  | 0 => { node := 0, directory := "a", peers := ["b"] }
  | 1 => { node := 1, directory := "b", peers := ["a"] }

def partners : Fleet 2 := .opening partnerSettings

/-- A write goes to the other node, which saves it, is gone and is opened again; meanwhile its own
node deletes it, and gets it back with a snapshot of the other. -/
def partnerActs : List (Act 2) :=
  [.occur 0 (.inside (.ask 1700000000000 (.set "k" [1]))), .occur 0 (.inside .process),
    .occur 0 (.inside (.move 0 (.begin 0))), .occur 0 (.inside (.move 0 .take)),
    .occur 0 (.inside (.move 0 (.cut 0))), .call 0 0,
    .occur 1 (.deliver 0), .occur 1 (.inside (.hand 0)), .occur 1 (.inside .process),
    .occur 1 (.inside .persist), .occur 1 (.inside (.save 0)), .occur 1 (.inside (.save 0)),
    .occur 1 (.inside (.save 0)), .occur 1 (.inside (.save 0)), .occur 1 (.inside (.save 0)),
    .occur 0 (.inside (.ask 1700000000001 (.delete "k"))), .occur 0 (.inside .process),
    .reopen 1 { node := 1 }, .serve 1, .occur 0 (.catchUp 0), .occur 0 (.inside (.hand 0)),
    .occur 0 (.inside .process)]

theorem fresh_partners : partners.Fresh := fresh_opening (by decide +kernel)

end Fleet

theorem all_from_clients_partners :
    let asked : Call := .set "k" [1]
    let v : Version := 1700000000000000001
    let x := (Fleet.partners.run Fleet.partnerActs).hosts 0
    let y := (Fleet.partners.run Fleet.partnerActs).hosts 1
    Fleet.partners.Fresh ∧ (∀ a ∈ Fleet.partnerActs, a.isForeign = false) ∧
      x.node.get? "k" = some ⟨[1], v⟩ ∧
      y.disk.read ["b", "snapshot.dat"] =
        .ok (Text.utf8 "\x7b\"k\":\x7b\"value\":\"AQ==\",\"version\":1700000000000000001\x7d\x7d") ∧
      Log.read x.disk ["a", "tx.dat"] =
        .ok [.set v .client "k" [1], .delete 1700000000001000002 .client "k",
          .set v .peer "k" [1]] ∧
      Fleet.partners.Returned Fleet.partnerActs asked v := by
  intro asked v x y
  have hown : ∀ a ∈ Fleet.partnerActs, a.isForeign = false := by decide +kernel
  have hget : x.node.get? "k" = some ⟨[1], v⟩ := by decide +kernel
  obtain ⟨hheld, -⟩ := all_from_clients _ Fleet.fresh_partners _ hown 0
  exact ⟨Fleet.fresh_partners, hown, hget, by decide +kernel, by decide +kernel, hheld _ _ hget⟩

end Replica
