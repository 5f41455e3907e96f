/-
# All that a node keeps

A node keeps requests in its memory, in the outboxes of its peers and in its files, and in each
place they look different: a request that waits, the line that goes to a peer, a line of the log,
an item of a snapshot.  **If all that comes in is of a kind, so is all that a node ever keeps**
(`Service.Stocked.step`), also after it was gone and is opened again on what it left on its disk
(`Service.Stocked.reopened`).

Snapshots may be saved by several savings at once, each of which begins the draft anew and writes
its snapshot behind what is there.  So a draft, and a snapshot too, may be several snapshots one
behind another; as such it does not read, or it reads as the first (`Snapshots.ofSnapshot`).
-/

import Replica.Proofs.FanOut
import Replica.Proofs.Filing

namespace Replica

/-- A kind of requests that have lines, in which it does not matter who handed a request on. -/
structure Request.Kind (P : Request → Prop) : Prop where
  recordable : ∀ r, P r → r.Recordable
  toPeer : ∀ r, P r → P r.toPeer

variable {P : Request → Prop}

/-! ## 1. Snapshots on a disk -/

theorem Store.ofSnapshot_nil : ofSnapshot [] = .error .ended := rfl

/-- A snapshot is never empty. -/
theorem Store.snapshot_ne_nil (st : Store) : st.snapshot ≠ [] := by
  intro h
  have hread := st.ofSnapshot_snapshot
  rw [h, ofSnapshot_nil] at hread
  cases hread

/-- What is read back from a snapshot is its store, if anything. -/
theorem Store.eq_of_ofSnapshot_append {st st' : Store} {more : Bytes}
    (h : ofSnapshot (st.snapshot ++ more) = .ok st') : st' = st := by
  have hread := Snapshot.readItems_snapshotChars st more
  unfold ofSnapshot snapshot Json.readWhole at h
  rw [Text.utf8_ofList, hread] at h
  simp only [bind, Except.bind, pure, Except.pure] at h
  split at h
  · cases h
  · next items hitems =>
    split at hitems
    · obtain rfl := Except.ok.inj hitems
      exact (Except.ok.inj h).symm
    · cases hitems

/-- Snapshots one behind another, of stores that hold items of a kind. -/
def Snapshots (P : Request → Prop) (b : Bytes) : Prop :=
  ∃ stores : List Store, b = stores.flatMap Store.snapshot ∧
    ∀ st ∈ stores, ∀ r ∈ Node.pulled st, P r

theorem Snapshots.nil : Snapshots P [] := ⟨[], rfl, nofun⟩

theorem Snapshots.append {b : Bytes} {st : Store} (h : Snapshots P b)
    (hst : ∀ r ∈ Node.pulled st, P r) : Snapshots P (b ++ st.snapshot) := by
  obtain ⟨stores, rfl, hstores⟩ := h
  refine ⟨stores ++ [st], ?_, fun st' hmem => ?_⟩
  · rw [List.flatMap_append, List.flatMap_singleton]
  · rcases List.mem_append.1 hmem with hold | hnew
    · exact hstores st' hold
    · exact List.mem_singleton.1 hnew ▸ hst

/-- **What is read from them is of the kind.** -/
theorem Snapshots.ofSnapshot {b : Bytes} {st : Store} (h : Snapshots P b)
    (hread : Store.ofSnapshot b = .ok st) : ∀ r ∈ Node.pulled st, P r := by
  obtain ⟨stores, rfl, hstores⟩ := h
  cases stores with
  | nil =>
    cases Store.ofSnapshot_nil.symm.trans hread
  | cons first rest =>
    rw [List.flatMap_cons] at hread
    obtain rfl := Store.eq_of_ofSnapshot_append hread
    exact hstores st List.mem_cons_self

/-- Nothing, or a file of such snapshots. -/
def SnapshotsAt (P : Request → Prop) : Option DiskEntry → Prop
  | none => True
  | some (.file b) => Snapshots P b
  | some _ => False

/-- A step of saving a store that holds items of a kind. -/
def SavingOf (P : Request → Prop) (s : Settings) (step : Disk.Step) : Prop :=
  ∃ n : Node, n.settings = s ∧ (∀ r ∈ Node.pulled n.store, P r) ∧ step ∈ n.saveSteps

/-! ## 2. The files of a node -/

theorem Settings.parent_snapshotPath (s : Settings) :
    (Path.ofText s.snapshotPath).parent = Path.ofText s.directory := by
  unfold snapshotPath
  rw [Path.ofText_inDirectory _ plain_snapshotName]
  exact List.dropLast_concat

theorem Settings.parent_logPath (s : Settings) :
    (Path.ofText s.logPath).parent = Path.ofText s.directory := by
  unfold logPath
  rw [Path.ofText_inDirectory _ plain_logName]
  exact List.dropLast_concat

theorem Settings.snapshot_beside_draft (s : Settings) :
    Disk.Beside (Path.ofText s.snapshotPath) (Path.ofText s.draftPath) :=
  Path.beside_of_plain s.directory plain_snapshotName plain_draftName (by decide)

theorem Settings.snapshot_beside_log (s : Settings) :
    Disk.Beside (Path.ofText s.snapshotPath) (Path.ofText s.logPath) :=
  Path.beside_of_plain s.directory plain_snapshotName plain_logName (by decide)

theorem Settings.draft_beside_snapshot (s : Settings) :
    Disk.Beside (Path.ofText s.draftPath) (Path.ofText s.snapshotPath) :=
  Path.beside_of_plain s.directory plain_draftName plain_snapshotName (by decide)

theorem Settings.log_beside_snapshot (s : Settings) :
    Disk.Beside (Path.ofText s.logPath) (Path.ofText s.snapshotPath) :=
  Path.beside_of_plain s.directory plain_logName plain_snapshotName (by decide)

theorem Settings.draft_beside_log (s : Settings) :
    Disk.Beside (Path.ofText s.draftPath) (Path.ofText s.logPath) :=
  Path.beside_of_plain s.directory plain_draftName plain_logName (by decide)

theorem Settings.log_beside_draft (s : Settings) :
    Disk.Beside (Path.ofText s.logPath) (Path.ofText s.draftPath) :=
  Path.beside_of_plain s.directory plain_logName plain_draftName (by decide)

namespace Disk

theorem get?_erase_self (d : Disk) {p : Path} (h : p ≠ []) : (d.erase p).get? p = none := by
  rw [get?_of_ne_nil _ h]
  exact d.entries.get?_erase_self _

theorem bare_empty (s : Settings) : empty.Bare s := by
  have hnone : ∀ {p : Path}, p ≠ [] → empty.get? p = none := fun hp =>
    (get?_of_ne_nil empty hp).trans (Dict.get?_empty _)
  exact ⟨hnone s.snapshot_beside_log.ne_nil, hnone s.draft_beside_log.ne_nil,
    hnone s.log_beside_draft.ne_nil⟩

/-- **What the files of a node hold is of a kind**: the lines of its log, and the items of its
snapshot and of the draft beside it. -/
structure Files (P : Request → Prop) (s : Settings) (d : Disk) : Prop where
  log : ∃ rs, (∀ r ∈ rs, P r) ∧ d.Holds (Path.ofText s.logPath) (Log.written rs)
  snapshot : SnapshotsAt P (d.get? (Path.ofText s.snapshotPath))
  draft : SnapshotsAt P (d.get? (Path.ofText s.draftPath))

variable {s : Settings} {d d' : Disk}

/-- Where the files are depends on the directory alone. -/
theorem Files.of_directory {s' : Settings} (h : d.Files P s) (hs : s'.directory = s.directory) :
    d.Files P s' := by
  have hlog : s'.logPath = s.logPath := by simp only [Settings.logPath, hs]
  have hsnapshot : s'.snapshotPath = s.snapshotPath := by simp only [Settings.snapshotPath, hs]
  have hdraft : s'.draftPath = s.draftPath := by simp only [Settings.draftPath, hs]
  refine ⟨?_, ?_, ?_⟩
  · rw [hlog]
    exact h.log
  · rw [hsnapshot]
    exact h.snapshot
  · rw [hdraft]
    exact h.draft

/-- Where nothing has become of the snapshot and its draft, only the log matters. -/
theorem Files.of_log (h : d.Files P s)
    (hlog : ∃ rs, (∀ r ∈ rs, P r) ∧ d'.Holds (Path.ofText s.logPath) (Log.written rs))
    (hsnapshot : d'.get? (Path.ofText s.snapshotPath) = d.get? (Path.ofText s.snapshotPath))
    (hdraft : d'.get? (Path.ofText s.draftPath) = d.get? (Path.ofText s.draftPath)) :
    d'.Files P s := by
  refine ⟨hlog, ?_, ?_⟩
  · rw [hsnapshot]
    exact h.snapshot
  · rw [hdraft]
    exact h.draft

/-- A line of the kind goes behind the others. -/
theorem Files.append_line {r : Request} (h : d.Files P s) (hr : P r)
    (happend : d.append (Path.ofText s.logPath) (Log.line r) = .ok d') : d'.Files P s := by
  obtain ⟨rs, hrs, hholds⟩ := h.log
  obtain ⟨d₁, hok, hholds'⟩ := hholds.append (Log.line r)
  obtain rfl := Except.ok.inj (hok.symm.trans happend)
  refine h.of_log ⟨rs ++ [r], fun q hq => ?_, ?_⟩
    (get?_append_of_ne s.snapshot_beside_log.ne.symm happend)
    (get?_append_of_ne s.draft_beside_log.ne.symm happend)
  · rcases List.mem_append.1 hq with hold | hnew
    · exact hrs q hold
    · exact List.mem_singleton.1 hnew ▸ hr
  · rw [Log.written_concat]
    exact hholds'

/-- A draft that is begun anew is empty, unless nothing can be written to it. -/
theorem Files.openNew_draft (h : d.Files P s)
    (hopen : d.openNew (Path.ofText s.draftPath) = .ok d') :
    SnapshotsAt P (d'.get? (Path.ofText s.draftPath)) := by
  unfold openNew at hopen
  split at hopen
  · cases hopen
  · split at hopen
    · cases hopen
    · obtain rfl := Except.ok.inj hopen
      exact h.draft
    · obtain rfl := Except.ok.inj hopen
      rw [get?_put_self _ _ s.draft_beside_log.ne_nil]
      exact Snapshots.nil

theorem Files.append_draft {st : Store} (h : d.Files P s) (hst : ∀ r ∈ Node.pulled st, P r)
    (happend : d.append (Path.ofText s.draftPath) st.snapshot = .ok d') :
    SnapshotsAt P (d'.get? (Path.ofText s.draftPath)) := by
  have hdraft := h.draft
  unfold append at happend
  split at happend
  · next old hold =>
    obtain rfl := Except.ok.inj happend
    rw [hold] at hdraft
    rw [get?_put_self _ _ s.draft_beside_log.ne_nil]
    exact Snapshots.append hdraft hst
  · next hfull =>
    rw [hfull] at hdraft
    exact hdraft.elim
  · obtain rfl := Except.ok.inj happend
    exact hdraft

/-- **A step of saving leaves the files of the kind.** -/
theorem Files.saving {st : Step} (h : d.Files P s) (hst : SavingOf P s st)
    (hstep : d.step st = .ok d') : d'.Files P s := by
  obtain ⟨n, rfl, hstore, hmem⟩ := hst
  have hlog : ∃ rs, (∀ r ∈ rs, P r) ∧
      d'.Holds (Path.ofText n.settings.logPath) (Log.written rs) := by
    obtain ⟨rs, hrs, hholds⟩ := h.log
    exact ⟨rs, hrs, hholds.step (n.spares_saveSteps st hmem) hstep⟩
  have hne := n.settings.snapshot_beside_draft.ne
  simp only [Node.saveSteps, List.mem_cons, List.not_mem_nil, or_false] at hmem
  rcases hmem with rfl | rfl | rfl | rfl | rfl
  · -- the directory
    have hmake : d.makeDirs (Path.ofText n.settings.directory) = .ok d' := by
      rw [← n.settings.parent_snapshotPath]
      exact hstep
    exact h.of_log hlog (get?_makeDirs_directory Settings.plain_snapshotName hmake)
      (get?_makeDirs_directory Settings.plain_draftName hmake)
  · simp only [step] at hstep
    have hsnapshot := get?_openNew_of_ne hne.symm hstep
    refine ⟨hlog, ?_, h.openNew_draft hstep⟩
    rw [hsnapshot]
    exact h.snapshot
  · have hsnapshot := get?_append_of_ne hne.symm hstep
    refine ⟨hlog, ?_, h.append_draft hstore hstep⟩
    rw [hsnapshot]
    exact h.snapshot
  · -- making sure
    have hmisses : ∀ p, (Step.sync (Path.ofText n.settings.draftPath)).Misses p := fun _ => trivial
    exact h.of_log hlog (get?_step_of_misses (hmisses _) hstep)
      (get?_step_of_misses (hmisses _) hstep)
  · -- the draft becomes the snapshot
    obtain ⟨e, he, rfl⟩ := rename_eq_ok hstep
    have hdraft := h.draft
    rw [he] at hdraft
    have hnew := get?_put_self (d.erase (Path.ofText n.settings.draftPath)) e
      n.settings.snapshot_beside_draft.ne_nil
    have hold := (get?_put_of_ne _ e hne).trans
      (d.get?_erase_self n.settings.draft_beside_log.ne_nil)
    refine ⟨hlog, ?_, ?_⟩
    · rw [hnew]
      exact hdraft
    · rw [hold]
      trivial

/-- **What is restored is of the kind.** -/
theorem Files.restore {st : Store} (h : d.Files P s) (hrestore : Node.restore d s = .ok st) :
    ∀ r ∈ Node.pulled st, P r := by
  have hsnapshot := h.snapshot
  unfold Node.restore at hrestore
  simp only at hrestore
  split at hrestore
  · obtain rfl := Except.ok.inj hrestore
    exact nofun
  · next entry hentry =>
    rw [hentry] at hsnapshot
    cases entry with
    | file b =>
      split at hrestore
      · cases hrestore
      · next content hread =>
        unfold Disk.read at hread
        split at hread
        · cases hread
        · simp only [hentry, Except.ok.injEq] at hread
          subst hread
          cases hof : Store.ofSnapshot b with
          | error f =>
            rw [hof] at hrestore
            cases hrestore
          | ok st' =>
            rw [hof] at hrestore
            obtain rfl : st' = st := Except.ok.inj hrestore
            exact Snapshots.ofSnapshot hsnapshot hof
    | directory => exact hsnapshot.elim
    | full => exact hsnapshot.elim

/-- **Opening a node on its files leaves them as they are**, whatever comes of it, and the store
of the node is of the kind. -/
theorem Files.openIn (h : d.Files P s) :
    (Node.openIn s d).2 = d ∧
      ∀ n, (Node.openIn s d).1 = .ok n → ∀ r ∈ Node.pulled n.store, P r := by
  obtain ⟨rs, -, hholds⟩ := h.log
  have hmake : d.makeDirs (Path.ofText s.directory) = .ok d := by
    rw [← s.parent_logPath]
    exact hholds.makeDirs_parent
  unfold Node.openIn
  split
  · exact ⟨rfl, nofun⟩
  · simp only [hmake, Log.openAt_of_holds hholds]
    cases hrestore : Node.restore d s with
    | error f => exact ⟨rfl, nofun⟩
    | ok st =>
      refine ⟨rfl, fun n hn => ?_⟩
      obtain rfl := Except.ok.inj hn
      exact h.restore hrestore

end Disk

namespace Service

/-! ## 3. A node at work -/

/-- A node that is gone and is opened again in its directory, maybe with other settings; what was
in its memory is lost.  One that cannot be opened counts as not gone. -/
def reopened (x : Service) (s : Settings) : Service :=
  match Node.openIn { s with directory := x.node.settings.directory } x.disk with
  | (.ok n, disk) => { node := n, disk }
  | (.error _, disk) => { x with disk }

/-- **All that a node keeps is of a kind.** -/
structure Stocked (P : Request → Prop) (s : Settings) (x : Service) : Prop where
  carries : Carries P x
  filed : Filed s x
  pending : ∀ o ∈ x.node.outboxes, ∀ record ∈ o.pending, ∃ r, P r ∧ r.toPeer.record = record
  files : x.disk.Files P s
  savings : ∀ steps ∈ x.saves, ∀ st ∈ steps, SavingOf P s st

variable {s : Settings} {x x' : Service} {a : Act}

/-- The files behind a processed request. -/
theorem Filed.files_takeNext {r : Request} (hfiled : Filed s x) (h : x.disk.Files P s) (hr : P r)
    (rest : List Request) : (x.takeNext r rest).disk.Files P s := by
  rw [disk_takeNext_eq]
  unfold Log.append
  split
  · rw [hfiled.log_path]
    cases happend : x.disk.append (Path.ofText s.logPath) (Log.line r) with
    | error f => exact h
    | ok d => exact h.append_line hr happend
  · exact h

/-- **An act leaves the files and the savings of the kind.** -/
theorem Stocked.change {ss : List Sight} (h : Stocked P s x) (hc : Change x ss x') :
    x'.disk.Files P s ∧ ∀ steps ∈ x'.saves, ∀ st ∈ steps, SavingOf P s st := by
  cases hc with
  | @processed r rest hq =>
    have hr : P r := h.carries.queue r (hq ▸ List.mem_cons_self)
    exact ⟨h.filed.files_takeNext h.files hr rest, h.savings⟩
  | saved hd hs =>
    refine ⟨?_, fun steps hsteps st hst => ?_⟩
    · rcases hd with rfl | ⟨steps, hsteps, st, hst, hstep⟩
      · exact h.files
      · exact h.files.saving (h.savings steps hsteps st hst) hstep
    · rcases hs steps hsteps with rfl | ⟨old, hold, hsub⟩
      · exact ⟨x.node, h.filed.settings_eq, h.carries.held, hst⟩
      · exact h.savings old hold st (hsub hst)
  | _ => exact ⟨h.files, h.savings⟩

/-- **What comes in is of the kind, and so is what a node keeps.** -/
theorem Stocked.step (h : Stocked P s x) (hkind : Request.Kind P)
    (hasked : ∀ r ∈ x.asked a, P r) (ha : a.Brings P) : Stocked P s (x.step a) := by
  obtain ⟨hfiles, hsavings⟩ := h.change (change_step x a)
  refine ⟨h.carries.step hkind.toPeer hasked ha, h.filed.change (change_step x a),
    forall_pending_step h.pending fun r hr record hpeers => ?_, hfiles, hsavings⟩
  unfold Request.forPeers? at hpeers
  split at hpeers
  · exact ⟨r, h.carries.queue r hr, Option.some.inj hpeers⟩
  · cases hpeers

/-- A node that has just been opened on such files. -/
theorem stocked_openIn {d d' : Disk} {n : Node} (hopen : Node.openIn s d = (.ok n, d'))
    (hfiles : d'.Files P s) (hheld : ∀ r ∈ Node.pulled n.store, P r) :
    Stocked P s { node := n, disk := d' } := by
  obtain ⟨-, hqueue, houtboxes⟩ := Node.openIn_eq_ok hopen
  refine ⟨⟨?_, nofun, hheld⟩, filed_openIn hopen, fun o ho record hrecord => ?_, hfiles, nofun⟩
  · rw [hqueue]
    exact nofun
  · rw [houtboxes] at ho
    obtain ⟨address, -, rfl⟩ := List.mem_map.1 ho
    cases hrecord

/-- Where nothing was found there is nothing of another kind. -/
theorem stocked_of_bare {d d' : Disk} {n : Node} (hopen : Node.openIn s d = (.ok n, d'))
    (hbare : d.Bare s) : Stocked P s { node := n, disk := d' } := by
  obtain ⟨hempty, hlog, hsnapshot, hdraft⟩ := Node.openIn_bare hopen hbare
  refine stocked_openIn hopen ⟨⟨[], nofun, hlog⟩, ?_, ?_⟩ ?_
  · rw [hsnapshot]
    trivial
  · rw [hdraft]
    trivial
  · rw [hempty]
    exact nofun

/-- **A node that is opened again has what it had left.** -/
theorem Stocked.reopened (h : Stocked P s x) (s' : Settings) :
    ∃ s'', Stocked P s'' (x.reopened s') := by
  have hdirectory : x.node.settings.directory = s.directory := by rw [h.filed.settings_eq]
  have hfiles : x.disk.Files P { s' with directory := x.node.settings.directory } :=
    h.files.of_directory hdirectory
  obtain ⟨hdisk, hstore⟩ := hfiles.openIn
  unfold Service.reopened
  rcases hopen : Node.openIn { s' with directory := x.node.settings.directory } x.disk with
    ⟨e | n, d'⟩
  · rw [hopen] at hdisk
    obtain rfl : d' = x.disk := hdisk
    exact ⟨s, h⟩
  · rw [hopen] at hdisk hstore
    obtain rfl : d' = x.disk := hdisk
    exact ⟨_, stocked_openIn hopen hfiles (hstore n rfl)⟩

end Service

end Replica
