/-
# The files of a node at work

A node at work writes lines to its log and saves snapshots beside it.  So the log stands at every
moment where it was opened, and it can be written to until the pipeline is past its last request
(`Service.Filed`): **no line is ever left out**, and a log in which so much was found holds that
and then the lines of all that was processed, whatever the requests were
(`Service.Filed.holds_run`).

Whether a line carries the request it was written for is another question, which its key decides.
-/

import Replica.Proofs.History

namespace Replica

/-! ## 1. Where a node finds nothing -/

/-- Nothing stands where the files of a node would be. -/
structure Disk.Bare (d : Disk) (s : Settings) : Prop where
  snapshot : d.get? (Path.ofText s.snapshotPath) = none
  draft : d.get? (Path.ofText s.draftPath) = none
  log : d.get? (Path.ofText s.logPath) = none

instance (d : Disk) (s : Settings) : Decidable (d.Bare s) :=
  decidable_of_iff (d.get? (Path.ofText s.snapshotPath) = none ∧
      d.get? (Path.ofText s.draftPath) = none ∧ d.get? (Path.ofText s.logPath) = none)
    ⟨fun h => ⟨h.1, h.2.1, h.2.2⟩, fun h => ⟨h.snapshot, h.draft, h.log⟩⟩

/-- Opening a log does not change what stands as another file beside it. -/
theorem Log.get?_openAt_directory {d d' : Disk} {l : Log} {directory name other : String}
    (hname : Path.Plain name) (hother : Path.Plain other) (hne : name ≠ other)
    (h : openAt d (Path.ofText (Settings.inDirectory directory other)) = (.ok l, d')) :
    d'.get? (Path.ofText (Settings.inDirectory directory name)) =
      d.get? (Path.ofText (Settings.inDirectory directory name)) := by
  rw [Path.ofText_inDirectory directory hother] at h
  rw [Path.ofText_inDirectory directory hname]
  unfold openAt at h
  split at h
  · cases h
  next d₁ hmake =>
  have hparent : Path.parent (Path.ofText directory ++ [other]) = Path.ofText directory :=
    List.dropLast_concat
  rw [hparent] at hmake
  have hmade := Disk.get?_makeDirs_directory hname hmake
  rw [Path.ofText_inDirectory directory hname] at hmade
  split at h
  · cases h
  next d₂ hopen =>
  obtain rfl : d₂ = d' := congrArg Prod.snd h
  rw [← hmade]
  unfold Disk.openAppend at hopen
  split at hopen
  · cases hopen
  split at hopen
  · obtain rfl := Except.ok.inj hopen
    exact Disk.get?_put_of_ne _ _ fun heq => hne (Path.toText_concat_inj heq)
  · cases hopen
  · obtain rfl := Except.ok.inj hopen
    rfl

/-- **A node that finds nothing** holds nothing, its log is empty, and no snapshot stands there. -/
theorem Node.openIn_bare {s : Settings} {d d' : Disk} {n : Node}
    (hopen : openIn s d = (.ok n, d')) (hbare : d.Bare s) :
    n.store = .empty ∧ d'.Holds (Path.ofText s.logPath) [] ∧
      d'.get? (Path.ofText s.snapshotPath) = none ∧ d'.get? (Path.ofText s.draftPath) = none := by
  obtain ⟨-, -, d₁, hmake, hrestore, hlog⟩ := exists_of_openIn hopen
  have hsnapshot : d₁.get? (Path.ofText s.snapshotPath) = none :=
    (Disk.get?_makeDirs_directory Settings.plain_snapshotName hmake).trans hbare.snapshot
  have hdraft : d₁.get? (Path.ofText s.draftPath) = none :=
    (Disk.get?_makeDirs_directory Settings.plain_draftName hmake).trans hbare.draft
  have hnone : d₁.get? (Path.ofText s.logPath) = none :=
    (Disk.get?_makeDirs_directory Settings.plain_logName hmake).trans hbare.log
  refine ⟨?_, ?_, ?_, ?_⟩
  · simp only [restore, hsnapshot, Except.ok.injEq] at hrestore
    exact hrestore.symm
  · exact (Log.holds_openAt (fun _ => Path.ne_empty_of_mem_ofText) hlog (Or.inl ⟨hnone, rfl⟩)).2
  · exact (Log.get?_openAt_directory Settings.plain_snapshotName Settings.plain_logName
      (by decide) hlog).trans hsnapshot
  · exact (Log.get?_openAt_directory Settings.plain_draftName Settings.plain_logName
      (by decide) hlog).trans hdraft

/-! ## 2. The log can be written to -/

/-- **What is written to a file that stands, or is refused, leaves a file there.** -/
theorem Disk.Stands.append {d : Disk} {p : Path} {entry : DiskEntry} (h : d.Stands p entry)
    (hne : entry ≠ .directory) (more : Bytes) :
    ∃ entry', entry' ≠ .directory ∧ (((d.append p more).toOption).getD d).Stands p entry' := by
  cases entry with
  | directory => exact absurd rfl hne
  | file content =>
    obtain ⟨d', hok, hholds⟩ := Holds.append h more
    rw [hok]
    exact ⟨.file (content ++ more), nofun, hholds⟩
  | full =>
    refine ⟨.full, nofun, ?_⟩
    simp only [Disk.append, h.get?_eq]
    split <;> exact h

namespace Service

/-- What is on the disk behind a processed request. -/
theorem disk_takeNext_eq (x : Service) (r : Request) (rest : List Request) :
    (x.takeNext r rest).disk = ((x.node.log.append x.disk r).toOption).getD x.disk := rfl

/-- **What holds of the files of a node at work at any time**, opened with settings `s`. -/
structure Filed (s : Settings) (x : Service) : Prop where
  settings_eq : x.node.settings = s
  log_path : x.node.log.path = Path.ofText s.logPath
  isOpen : x.stage.isOver = false → x.node.log.isOpen = true
  stands : ∃ entry, entry ≠ .directory ∧ x.disk.Stands (Path.ofText s.logPath) entry
  saves : ∀ steps ∈ x.saves, ∀ st ∈ steps, st.Spares (Path.ofText s.logPath)

theorem filed_openIn {s : Settings} {d d' : Disk} {n : Node}
    (hopen : Node.openIn s d = (.ok n, d')) : Filed s { node := n, disk := d' } := by
  obtain ⟨hsettings, -, d₁, -, -, hlog⟩ := Node.exists_of_openIn hopen
  obtain ⟨hl, hstands⟩ := Log.stands_openAt (fun _ => Path.ne_empty_of_mem_ofText) hlog
  refine ⟨hsettings, congrArg Log.path hl, fun _ => congrArg Log.isOpen hl, ?_, nofun⟩
  rcases hstands with ⟨-, hholds⟩ | ⟨entry, -, hne, hstands⟩
  · exact ⟨.file [], nofun, hholds⟩
  · exact ⟨entry, hne, hstands⟩

variable {s : Settings} {n : Node} {x x' : Service} {t : Tally} {ss : List Sight}

/-- Nothing on the disk has changed. -/
theorem Filed.still {m : Node} {guests : List Guest} {stage : Stage} (h : Filed s x)
    (hn : Still m x.node) (hs : stage.isOver = false → x.stage.isOver = false) :
    Filed s { x with node := m, guests, stage } where
  settings_eq := hn.settings.trans h.settings_eq
  log_path := (congrArg Log.path hn.log).trans h.log_path
  isOpen ho := (congrArg Log.isOpen hn.log).trans (h.isOpen (hs ho))
  stands := h.stands
  saves := h.saves

theorem Filed.process {r : Request} {rest : List Request} (h : Filed s x) :
    Filed s (x.takeNext r rest) := by
  refine ⟨?_, ?_, fun ho => ?_, ?_, h.saves⟩
  · rw [settings_takeNext]
    exact h.settings_eq
  · rw [log_takeNext]
    exact h.log_path
  · rw [log_takeNext]
    exact h.isOpen ho
  · obtain ⟨entry, hne, hstands⟩ := h.stands
    rw [disk_takeNext_eq]
    unfold Log.append
    split
    · obtain ⟨entry', hne', hstands'⟩ := hstands.append hne (Log.line r)
      rw [h.log_path]
      refine ⟨entry', hne', ?_⟩
      cases happend : x.disk.append (Path.ofText s.logPath) (Log.line r) with
      | error f =>
        rw [happend] at hstands'
        exact hstands'
      | ok d =>
        rw [happend] at hstands'
        exact hstands'
    · exact ⟨entry, hne, hstands⟩

/-- **An act leaves the files in order.** -/
theorem Filed.change (h : Filed s x) (hc : Change x ss x') : Filed s x' := by
  cases hc with
  | quiet hss hn hi hg hs => exact h.still hn fun ho => hs ▸ ho
  | entered hclosed hroom hn hi hg => exact h.still hn id
  | kept hn hi hg => exact h.still hn id
  | promised hclosed hroom hn hi hg => exact h.still hn id
  | released hss hn hi hg => exact h.still hn id
  | processed hq => exact h.process
  | closed => exact h.still ⟨rfl, rfl, rfl⟩ id
  | sealed hclosed hq hp => exact ⟨h.settings_eq, h.log_path, nofun, h.stands, h.saves⟩
  | saved hd hs =>
    refine ⟨h.settings_eq, h.log_path, h.isOpen, ?_, fun steps hsteps st hmem => ?_⟩
    · obtain ⟨entry, hne, hstands⟩ := h.stands
      rcases hd with rfl | ⟨steps, hsteps, st, hmem, hstep⟩
      · exact ⟨entry, hne, hstands⟩
      · exact ⟨entry, hne, hstands.step (h.saves steps hsteps st hmem) hstep⟩
    · rcases hs steps hsteps with rfl | ⟨old, hold, hsub⟩
      · have hspares := x.node.spares_saveSteps st hmem
        rwa [h.settings_eq] at hspares
      · exact h.saves old hold st (hsub hmem)

theorem Filed.run (h : Filed s x) (as : List Act) : Filed s (x.run as) := by
  induction as generalizing x with
  | nil => exact h
  | cons a as ih => exact ih (h.change (change_step x a))

/-! ## 3. What is in the log -/

/-- **A processed request has its line written**: nothing is processed once the log is closed. -/
theorem Filed.line {content : Bytes} {r : Request} {rest : List Request} (h : Filed s x)
    (hsound : Sound n x t) (hq : x.node.intake.queue = r :: rest)
    (hlog : x.disk.Holds (Path.ofText s.logPath) content) :
    (x.takeNext r rest).disk.Holds (Path.ofText s.logPath) (content ++ Log.line r) := by
  have hrunning : x.stage.isOver = false := by
    rw [Bool.eq_false_iff]
    intro ho
    have hnil := (hsound.last ho).2.1
    rw [hq] at hnil
    cases hnil
  have hlogis : x.node.log = ⟨Path.ofText s.logPath, true⟩ := by
    rw [← h.log_path, ← h.isOpen hrunning]
  obtain ⟨d', hok, hholds⟩ := Log.append_eq_ok hlog r
  rw [disk_takeNext_eq, hlogis, hok]
  exact hholds

/-- **The log goes on by the lines of what is processed.** -/
theorem Filed.holds_change {content : Bytes} (h : Filed s x) (hsound : Sound n x t)
    (hlog : x.disk.Holds (Path.ofText s.logPath) (content ++ Log.written t.processed))
    (hc : Change x ss x') :
    x'.disk.Holds (Path.ofText s.logPath) (content ++ Log.written (t.enterAll ss).processed) := by
  cases hc with
  | quiet hss hn hi hg hs =>
    rw [t.enterAll_of_refusals hss]
    exact hlog
  | entered hclosed hroom hn hi hg => exact hlog
  | kept hn hi hg => exact hlog
  | promised hclosed hroom hn hi hg => exact hlog
  | released hss hn hi hg =>
    rw [t.enterAll_of_refusals hss]
    exact hlog
  | @processed r rest hq =>
    have hline := h.line hsound hq hlog
    rw [List.append_assoc, ← Log.written_concat] at hline
    exact hline
  | closed => exact hlog
  | sealed hclosed hq hp => exact hlog
  | saved hd hs =>
    rcases hd with rfl | ⟨steps, hsteps, st, hmem, hstep⟩
    · exact hlog
    · exact hlog.step (h.saves steps hsteps st hmem) hstep

/-- **The log holds what it held and then the lines of all that was processed.** -/
theorem Filed.holds_run {content : Bytes} (h : Filed s x) (hsound : Sound n x t)
    (hlog : x.disk.Holds (Path.ofText s.logPath) (content ++ Log.written t.processed))
    (as : List Act) :
    (x.run as).disk.Holds (Path.ofText s.logPath)
      (content ++ Log.written (t.enterAll (x.sights as)).processed) := by
  induction as generalizing x t with
  | nil => exact hlog
  | cons a as ih =>
    have hc := change_step x a
    have hrest := ih (h.change hc) (hsound.change hc) (h.holds_change hsound hlog hc)
    rw [← Tally.enterAll_append] at hrest
    exact hrest

/-- **Opened on nothing, a node has the lines of all that it processed in its log.** -/
theorem holds_written_of_bare {d d' : Disk} (hopen : Node.openIn s d = (.ok n, d'))
    (hbare : d.Bare s) (as : List Act) :
    let start : Service := { node := n, disk := d' }
    (start.run as).disk.Holds (Path.ofText s.logPath)
      (Log.written (start.tally as).processed) := by
  intro start
  obtain ⟨-, hlog, -⟩ := Node.openIn_bare hopen hbare
  have hstart : d'.Holds (Path.ofText s.logPath)
      ([] ++ Log.written ({} : Tally).processed) := hlog
  exact (filed_openIn hopen).holds_run (sound_openIn hopen) hstart as

end Service

end Replica
