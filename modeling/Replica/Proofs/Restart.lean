/-
# Saving and opening again

A snapshot is written beside the one that is there and takes its place by one renaming.  So
**whatever stops a saving before its renaming, and wherever, the snapshot is what it was**
(`Node.get?_of_interrupted`), and **from its renaming on a node that is opened in the directory
holds what was saved** (`Node.openIn_of_saved`), whatever has become of the draft and of the log in
the meantime.

Together with what a node does before it has shut down this makes a restart lossless
(`restart_lossless`): what was accepted is what was processed, so what is saved then is the store
that was restored at the opening and on it, in the order of their acceptance, all requests that
were accepted.

Files keep what was written to them: while a snapshot is saved the pipeline may go on and write to
the log, but nobody else writes to the draft.  Savings that were begun before and have not come to
their renaming are no harm.
-/

import Replica.Proofs.Stock

namespace Replica

/-! ## 1. Interruptions -/

namespace Disk

/-- What may have been done of a step when something stopped it: some of the directories were made,
from the root on, or some of the bytes written, from the first on. -/
inductive Step.PartOf : Step → Step → Prop where
  | makeDirs (path : Path) (k : Nat) : PartOf (.makeDirs (path.take k)) (.makeDirs path)
  | append (path : Path) (content : Bytes) (k : Nat) :
      PartOf (.append path (content.take k)) (.append path content)

/-- What may have been done of some steps when something stopped them. -/
inductive Interrupted : List Step → List Step → Prop where
  | before (steps : List Step) : Interrupted steps []
  | during {s part : Step} (rest : List Step) (h : part.PartOf s) : Interrupted (s :: rest) [part]
  | next {s : Step} {rest done : List Step} (h : Interrupted rest done) :
      Interrupted (s :: rest) (s :: done)

/-- Steps in their order, and others in between. -/
inductive Mingled (other : Step → Prop) : List Step → List Step → Prop where
  | done : Mingled other [] []
  | own {s : Step} {rest all : List Step} (h : Mingled other rest all) :
      Mingled other (s :: rest) (s :: all)
  | aside {s : Step} {steps all : List Step} (hs : other s) (h : Mingled other steps all) :
      Mingled other steps (s :: all)

variable {other : Step → Prop} {p : Path} {steps done all : List Step} {d d' : Disk}

theorem Step.PartOf.misses {s part : Step} (h : part.PartOf s) (hs : s.Misses p) :
    part.Misses p := by
  cases h with
  | makeDirs path k =>
    intro j
    rw [List.take_take]
    exact hs _
  | append path content k => exact hs

theorem Interrupted.misses (h : Interrupted steps done) (hsteps : ∀ s ∈ steps, s.Misses p) :
    ∀ s ∈ done, s.Misses p := by
  induction h with
  | before steps => exact nofun
  | during rest hpart =>
    intro s hs
    rw [List.mem_singleton.1 hs]
    exact hpart.misses (hsteps _ List.mem_cons_self)
  | @next s rest done _ ih =>
    intro s' hs'
    rcases List.mem_cons.1 hs' with rfl | hs'
    · exact hsteps s' List.mem_cons_self
    · exact ih (fun s'' hs'' => hsteps s'' (List.mem_cons_of_mem s hs'')) s' hs'

theorem Mingled.refl (steps : List Step) : Mingled other steps steps := by
  induction steps with
  | nil => exact .done
  | cons s rest ih => exact .own ih

theorem Mingled.mem_or (h : Mingled other steps all) {s : Step} (hs : s ∈ all) :
    s ∈ steps ∨ other s := by
  induction h with
  | done => cases hs
  | own h ih =>
    rcases List.mem_cons.1 hs with rfl | hs
    · exact Or.inl List.mem_cons_self
    · exact (ih hs).imp_left (List.mem_cons_of_mem _)
  | aside hother h ih =>
    rcases List.mem_cons.1 hs with rfl | hs
    · exact Or.inr hother
    · exact ih hs

/-! ## 2. Steps one after another -/

theorem run_cons_eq_ok {s : Step} {rest : List Step} (h : d.run (s :: rest) = (.ok (), d')) :
    ∃ d₁, d.step s = .ok d₁ ∧ d₁.run rest = (.ok (), d') := by
  unfold run at h
  cases hstep : d.step s with
  | error f => simp [hstep] at h
  | ok d₁ =>
    rw [hstep] at h
    exact ⟨d₁, rfl, h⟩

theorem run_append_error {rest : List Step} {f : DiskFault} {last : Step}
    (h : d.run (rest ++ [last]) = (.error f, d')) : d' = (d.run rest).2 := by
  induction rest generalizing d with
  | nil =>
    simp only [List.nil_append, run] at h
    cases hstep : d.step last with
    | ok d₁ => simp [hstep] at h
    | error f' =>
      rw [hstep] at h
      exact (congrArg Prod.snd h).symm
  | cons s rest ih =>
    simp only [List.cons_append, run] at h ⊢
    cases hstep : d.step s with
    | ok d₁ =>
      rw [hstep] at h
      exact ih h
    | error f' =>
      rw [hstep] at h
      exact (congrArg Prod.snd h).symm

/-- **How mingled steps begin**: with some of the others, and then the first of their own. -/
theorem Mingled.uncons {s : Step} {rest : List Step} (h : Mingled other (s :: rest) all)
    (hrun : d.run all = (.ok (), d')) :
    ∃ before after d₁ d₂, (∀ o ∈ before, other o) ∧ d.run before = (.ok (), d₁) ∧
      d₁.step s = .ok d₂ ∧ Mingled other rest after ∧ d₂.run after = (.ok (), d') := by
  generalize hsteps : s :: rest = steps at h
  induction h generalizing d with
  | done => cases hsteps
  | own h ih =>
    obtain ⟨rfl, rfl⟩ := List.cons.inj hsteps
    obtain ⟨d₂, hstep, hafter⟩ := run_cons_eq_ok hrun
    exact ⟨[], _, d, d₂, nofun, rfl, hstep, h, hafter⟩
  | @aside o _ all hother h ih =>
    obtain ⟨d₀, hstep₀, hrest⟩ := run_cons_eq_ok hrun
    obtain ⟨before, after, d₁, d₂, hbefore, hrun₁, hstep, hmingled, hafter⟩ := ih hrest hsteps
    refine ⟨o :: before, after, d₁, d₂, fun o' ho' => ?_, ?_, hstep, hmingled, hafter⟩
    · rcases List.mem_cons.1 ho' with rfl | ho'
      · exact hother
      · exact hbefore o' ho'
    · simp only [run, hstep₀]
      exact hrun₁

end Disk

/-! ## 3. Before the renaming -/

namespace Node

/-- The steps of a saving before its renaming. -/
def draftSteps (n : Node) : List Disk.Step :=
  let draft := Path.ofText n.settings.draftPath
  [.makeDirs (Path.ofText n.settings.snapshotPath).parent, .openNew draft,
    .append draft n.store.snapshot, .sync draft]

theorem saveSteps_eq (n : Node) :
    n.saveSteps = n.draftSteps ++ [.rename (Path.ofText n.settings.draftPath)
      (Path.ofText n.settings.snapshotPath)] := rfl

theorem misses_draftSteps (n : Node) :
    ∀ s ∈ n.draftSteps, s.Misses (Path.ofText n.settings.snapshotPath) := by
  have hne := n.settings.snapshot_beside_draft.ne.symm
  intro s hs
  simp only [draftSteps, List.mem_cons, List.not_mem_nil, or_false] at hs
  rcases hs with rfl | rfl | rfl | rfl
  · intro k
    rw [n.settings.parent_snapshotPath]
    unfold Settings.snapshotPath
    rw [Path.ofText_inDirectory _ Settings.plain_snapshotName]
    exact Path.toText_concat_ne_take _ Settings.plain_snapshotName.ne_empty k
  · exact hne
  · exact hne
  · exact trivial

/-- Something is written to the log of a node. -/
def WritesLog (n : Node) (s : Disk.Step) : Prop :=
  ∃ content, s = .append (Path.ofText n.settings.logPath) content

variable {n : Node} {d d' : Disk} {done all : List Disk.Step}

/-- **A saving that is stopped before its renaming leaves the snapshot as it was**, wherever it
was stopped. -/
theorem get?_of_interrupted (h : Disk.Interrupted n.draftSteps done)
    (hall : Disk.Mingled n.WritesLog done all) :
    (d.run all).2.get? (Path.ofText n.settings.snapshotPath) =
      d.get? (Path.ofText n.settings.snapshotPath) := by
  refine Disk.get?_run_of_misses fun s hs => ?_
  rcases hall.mem_or hs with hown | ⟨content, rfl⟩
  · exact h.misses n.misses_draftSteps s hown
  · exact n.settings.snapshot_beside_log.ne.symm

/-- So does one that fails, be it in its renaming. -/
theorem get?_of_save_error {f : DiskFault} (h : n.save d = (.error f, d')) :
    d'.get? (Path.ofText n.settings.snapshotPath) =
      d.get? (Path.ofText n.settings.snapshotPath) := by
  unfold save at h
  rw [saveSteps_eq] at h
  rw [Disk.run_append_error h]
  exact Disk.get?_run_of_misses n.misses_draftSteps

/-! ## 4. From the renaming on -/

/-- What is written to the log leaves alone what stands beside it. -/
theorem WritesLog.stands {before : List Disk.Step} (h : ∀ s ∈ before, n.WritesLog s)
    (hrun : d.run before = (.ok (), d')) {p : Path}
    (hp : Disk.Beside (Path.ofText n.settings.logPath) p) {entry : DiskEntry}
    (hstands : d.Stands p entry) : d'.Stands p entry := by
  have hkept := hstands.run fun s hs => by
    obtain ⟨content, rfl⟩ := h s hs
    exact hp
  rw [hrun] at hkept
  exact hkept

/-- The next step of a saving, in front of which the log may have been written. -/
theorem uncons_of_mingled {s : Disk.Step} {rest : List Disk.Step}
    (hall : Disk.Mingled n.WritesLog (s :: rest) all) (hrun : d.run all = (.ok (), d')) :
    ∃ (after : List Disk.Step) (d₁ d₂ : Disk),
      (∀ p entry, Disk.Beside (Path.ofText n.settings.logPath) p → d.Stands p entry →
        d₁.Stands p entry) ∧
      d₁.step s = .ok d₂ ∧ Disk.Mingled n.WritesLog rest after ∧ d₂.run after = (.ok (), d') := by
  obtain ⟨before, after, d₁, d₂, hbefore, hrun₁, hstep, hafter, hrun₂⟩ := hall.uncons hrun
  exact ⟨after, d₁, d₂, fun p entry hp hstands => WritesLog.stands hbefore hrun₁ hp hstands,
    hstep, hafter, hrun₂⟩

/-- **A saving that comes to its end has put the store where the snapshot stands**, whatever was
written to the log meanwhile. -/
theorem holds_of_saved (hall : Disk.Mingled n.WritesLog n.saveSteps all)
    (hrun : d.run all = (.ok (), d')) :
    d'.Holds (Path.ofText n.settings.snapshotPath) n.store.snapshot := by
  have hbeside := n.settings.log_beside_draft
  -- what stands as the draft, step by step
  obtain ⟨_, _, _, -, -, hall, hrun⟩ := uncons_of_mingled hall hrun
  obtain ⟨_, _, d₁, -, hopen, hall, hrun⟩ := uncons_of_mingled hall hrun
  simp only [Disk.step] at hopen
  have hopened := Disk.stands_of_openNew n.settings.draft_beside_log.ne_nil hopen
  obtain ⟨_, _, d₂, hkeeps, happend, hall, hrun⟩ := uncons_of_mingled hall hrun
  have hwritten : d₂.Holds (Path.ofText n.settings.draftPath) n.store.snapshot := by
    rcases hopened with hempty | hfull
    · obtain ⟨_, hok, hholds⟩ := Disk.Holds.append (hkeeps _ _ hbeside hempty) n.store.snapshot
      obtain rfl := Except.ok.inj (hok.symm.trans happend)
      exact hholds
    · have hget := (hkeeps _ _ hbeside hfull).get?_eq
      simp [Disk.step, Disk.append, hget, n.store.snapshot_ne_nil] at happend
  obtain ⟨_, _, d₃, hkeeps, hsync, hall, hrun⟩ := uncons_of_mingled hall hrun
  have hsynced : d₃.Holds (Path.ofText n.settings.draftPath) n.store.snapshot :=
    Disk.Stands.step (s := .sync _) (hkeeps _ _ hbeside hwritten) trivial hsync
  -- and at last as the snapshot
  obtain ⟨_, _, _, hkeeps, hrename, hall, hrun⟩ := uncons_of_mingled hall hrun
  have hnamed := hkeeps _ _ hbeside hsynced
  obtain ⟨e, he, rfl⟩ := Disk.rename_eq_ok hrename
  obtain rfl := Option.some.inj (hnamed.get?_eq.symm.trans he)
  refine WritesLog.stands (fun s hs => ?_) hrun n.settings.log_beside_snapshot
    (hnamed.rename n.settings.draft_beside_snapshot n.settings.snapshot_beside_draft)
  exact (hall.mem_or hs).resolve_left List.not_mem_nil

end Node

/-- Nothing is different but what stands as the draft and as the log. -/
def Disk.AlikeButDraftAndLog (s : Settings) (d' d : Disk) : Prop :=
  ∀ p : Path, p.toText ≠ (Path.ofText s.draftPath).toText →
    p.toText ≠ (Path.ofText s.logPath).toText → d'.get? p = d.get? p

variable {s : Settings} {d d' : Disk}

theorem Disk.Holds.alike {content : Bytes} (h : d.Holds (Path.ofText s.snapshotPath) content)
    (halike : d'.AlikeButDraftAndLog s d) : d'.Holds (Path.ofText s.snapshotPath) content := by
  refine Stands.of_same h ((halike _ ?_ ?_).trans h.get?_eq)
    fun q hq hdir => (halike q ?_ ?_).trans hdir
  · exact s.draft_beside_snapshot.ne
  · exact s.log_beside_snapshot.ne
  · exact s.draft_beside_snapshot.ne_of_mem_above hq
  · exact s.log_beside_snapshot.ne_of_mem_above hq

/-- **A node that is opened where a snapshot stands holds what was saved**, unless its log is no
file. -/
theorem Node.openIn_of_holds {st : Store} (hnode : s.node.toNat < 1000)
    (h : d.Holds (Path.ofText s.snapshotPath) st.snapshot)
    (hlog : d.get? (Path.ofText s.logPath) ≠ some .directory) :
    ∃ n d', Node.openIn s d = (.ok n, d') ∧ n.store = st := by
  have hmake : d.makeDirs (Path.ofText s.directory) = .ok d := by
    rw [← s.parent_snapshotPath]
    exact h.makeDirs_parent
  have hrestore : Node.restore d s = .ok st := by
    simp only [Node.restore, h.get?_eq, h.read, st.ofSnapshot_snapshot]
    rfl
  obtain ⟨d', hopen⟩ : ∃ d', d.openAppend (Path.ofText s.logPath) = .ok d' := by
    have hwalk := (s.log_beside_snapshot.walkFault?_eq d).trans h.walkFault?_eq
    unfold Disk.openAppend
    rw [hwalk]
    rcases hget : d.get? (Path.ofText s.logPath) with _ | ⟨content⟩ | _ | _
    · exact ⟨_, rfl⟩
    · exact ⟨_, rfl⟩
    · exact absurd hget hlog
    · exact ⟨_, rfl⟩
  have hparent : d.makeDirs (Path.ofText s.logPath).parent = .ok d := by
    rw [s.parent_logPath]
    exact hmake
  refine ⟨{
    settings := s
    ticker := .new ⟨s.node.toNat, hnode⟩
    store := st
    notices := {}
    intake := { capacity := s.intakeCapacity }
    log := ⟨Path.ofText s.logPath, true⟩
    outboxes := s.peers.map fun address => Outbox.new address s.sender }, d', ?_, rfl⟩
  simp only [openIn, Ticker.ofNode?, hnode, dif_pos, hmake, hrestore, Log.openAt, hparent, hopen]

/-- **A node that is opened where a saving came to its end holds what was saved**, in whatever
way the draft and the log have changed since. -/
theorem Node.openIn_of_saved {n : Node} {all : List Disk.Step} {d₁ : Disk}
    (hdir : s.directory = n.settings.directory) (hnode : s.node.toNat < 1000)
    (hall : Disk.Mingled n.WritesLog n.saveSteps all) (hrun : d.run all = (.ok (), d₁))
    (halike : d'.AlikeButDraftAndLog n.settings d₁)
    (hlog : d'.get? (Path.ofText n.settings.logPath) ≠ some .directory) :
    ∃ n' d₂, Node.openIn s d' = (.ok n', d₂) ∧ n'.store = n.store := by
  have hsnapshot : s.snapshotPath = n.settings.snapshotPath := by
    simp only [Settings.snapshotPath, hdir]
  have hlogPath : s.logPath = n.settings.logPath := by simp only [Settings.logPath, hdir]
  refine openIn_of_holds hnode ?_ ?_
  · rw [hsnapshot]
    exact (holds_of_saved hall hrun).alike halike
  · rw [hlogPath]
    exact hlog

/-- A saving leaves a log that was a file a file. -/
theorem Node.log_ne_directory_of_save {n : Node} {entry : DiskEntry}
    (hstands : d.Stands (Path.ofText n.settings.logPath) entry) (hne : entry ≠ .directory) :
    (n.save d).2.get? (Path.ofText n.settings.logPath) ≠ some .directory := by
  have hkept := hstands.run n.spares_saveSteps
  unfold Node.save
  rw [hkept.get?_eq]
  exact fun h => hne (Option.some.inj h)

/-! ## 5. From one opening to the next -/

/-- **A saving is done as a whole or not at all, and a restart loses nothing.**  In whatever state
a node has come to, and whatever is on the disk:

* a saving that is stopped before its renaming, by a fault or otherwise, leaves the snapshot as it
  was, byte for byte;
* from the renaming on a node can be opened in the directory, and it holds what was saved;
* a node that is opened after one that has shut down holds what that one had restored, and on it
  all requests that it accepted, in the order of their acceptance. -/
theorem restart_lossless {s s' : Settings} {d d' : Disk} {n : Node}
    (hopen : Node.openIn s d = (.ok n, d')) (hdir : s'.directory = s.directory)
    (hnode : s'.node.toNat < 1000) (as : List Service.Act) :
    let start : Service := { node := n, disk := d' }
    let x := start.run as
    let t := start.tally as
    let snapshot := Path.ofText s.snapshotPath
    (∀ (d₁ : Disk) (done all : List Disk.Step), Disk.Interrupted x.node.draftSteps done →
      Disk.Mingled x.node.WritesLog done all →
      (d₁.run all).2.get? snapshot = d₁.get? snapshot) ∧
    (∀ (d₁ d₂ : Disk) (f : DiskFault), x.node.save d₁ = (.error f, d₂) →
      d₂.get? snapshot = d₁.get? snapshot) ∧
    (∀ (d₁ d₂ d₃ : Disk) (all : List Disk.Step),
      Disk.Mingled x.node.WritesLog x.node.saveSteps all →
      d₁.run all = (.ok (), d₂) → d₃.AlikeButDraftAndLog s d₂ →
      d₃.get? (Path.ofText s.logPath) ≠ some .directory →
      ∃ n' d₄, Node.openIn s' d₃ = (.ok n', d₄) ∧ n'.store = x.node.store) ∧
    (x.stage = .ended → ∀ d₁, x.node.save x.disk = (.ok (), d₁) →
      ∃ n' d₂, Node.openIn s' d₁ = (.ok n', d₂) ∧ n'.store = n.store.applyAll t.accepted) := by
  intro start x t snapshot
  have hfiled : Service.Filed s x := (Service.filed_openIn hopen).run as
  have hsound : Service.Sound n x t := (Service.sound_openIn hopen).run as
  have hsettings := hfiled.settings_eq
  have hdir' : s'.directory = x.node.settings.directory := by rw [hsettings, hdir]
  have hsnapshot : snapshot = Path.ofText x.node.settings.snapshotPath := by rw [hsettings]
  refine ⟨fun d₁ done all hdone hall => ?_, fun d₁ d₂ f hsave => ?_,
    fun d₁ d₂ d₃ all hall hrun halike hlog => ?_, fun hended d₁ hsave => ?_⟩
  · rw [hsnapshot]
    exact Node.get?_of_interrupted hdone hall
  · rw [hsnapshot]
    exact Node.get?_of_save_error hsave
  · rw [← hsettings] at halike hlog
    exact Node.openIn_of_saved hdir' hnode hall hrun halike hlog
  · -- what was accepted is what was processed, and so what the store has come to
    have ho : x.stage.isOver = true := by
      rw [hended]
      rfl
    obtain ⟨-, hqueue, -⟩ := hsound.last ho
    have haccepted := hsound.accepted_eq
    rw [hqueue, List.append_nil] at haccepted
    obtain ⟨entry, hne, hstands⟩ := hfiled.stands
    rw [← hsettings] at hstands
    have hlog := Node.log_ne_directory_of_save hstands hne
    rw [hsave] at hlog
    obtain ⟨n', d₂, hreopen, hstore⟩ := Node.openIn_of_saved hdir' hnode
      (.refl x.node.saveSteps) hsave (fun _ _ _ => rfl) hlog
    exact ⟨n', d₂, hreopen, by rw [hstore, hsound.store_eq, haccepted]⟩

/-- A node by itself. -/
def alone : Settings := { directory := "data" }

/-- A directory in which a snapshot of one item stands. -/
def oneItem : Disk :=
  Disk.empty.force (Path.ofText alone.snapshotPath)
    (Store.empty.apply (.set 3 .client "b" [2])).2.snapshot

/-- A client writes, and the node is told to shut down before it has processed the write. -/
def leavingActs : List Service.Act :=
  [.ask 5 (.set "a" [1]), .shutdown, .close, .process, .closeLog, .conclude]

/-- The node is opened again after its last saving was stopped at its first byte, after draft and
log were spoiled behind it, and after neither. -/
theorem restart_lossless_leaving :
    let start := Service.openedOn alone oneItem
    let x := start.run leavingActs
    let draft := Path.ofText alone.draftPath
    let log := Path.ofText alone.logPath
    let snapshot := Path.ofText alone.snapshotPath
    let saved := (x.node.save x.disk).2
    Node.openIn alone oneItem = (.ok start.node, start.disk) ∧ x.stage = .ended ∧
      (x.disk.run [.makeDirs snapshot.parent, .append log [10], .openNew draft,
        .append draft [123]]).2.get? snapshot = x.disk.get? snapshot ∧
      (∃ n' d₁, Node.openIn alone ((saved.put draft .full).put log (.file [255])) = (.ok n', d₁) ∧
        n'.store = x.node.store) ∧
      ∃ n' d₁, Node.openIn alone saved = (.ok n', d₁) ∧
        n'.get? "a" = some ⟨[1], 5000001⟩ ∧ n'.get? "b" = some ⟨[2], 3⟩ := by
  intro start x draft log snapshot saved
  have hopen : Node.openIn alone oneItem = (.ok start.node, start.disk) :=
    Service.openIn_openedOn (by decide +kernel)
  have hended : x.stage = .ended := by decide +kernel
  have hsettings : x.node.settings = alone := by decide +kernel
  have hbytes : x.node.store.snapshot.take 1 = [123] := by decide +kernel
  have hok : (x.node.save x.disk).1.toOption.isSome = true := by decide +kernel
  have hsave : x.node.save x.disk = (.ok (), saved) := by
    rcases hsave : x.node.save x.disk with ⟨f | ⟨⟩, d₁⟩
    · rw [hsave] at hok
      cases hok
    · simp only [saved, hsave]
  have hbegun : Disk.Interrupted x.node.draftSteps
      [.makeDirs snapshot.parent, .openNew draft, .append draft [123]] := by
    unfold Node.draftSteps
    rw [hsettings, ← hbytes]
    exact .next (.next (.during _ (.append _ _ 1)))
  have hlog : x.node.WritesLog (.append log [10]) := ⟨[10], by rw [hsettings]⟩
  obtain ⟨hstopped, -, hsaved, hrestart⟩ :=
    restart_lossless hopen rfl (by decide) leavingActs
  refine ⟨hopen, hended, ?_, ?_, ?_⟩
  · exact hstopped x.disk _ _ hbegun (.own (.aside hlog (.own (.own .done))))
  · refine hsaved x.disk saved _ x.node.saveSteps (.refl _) hsave (fun p hdraft hlog => ?_) ?_
    · rw [Disk.get?_put_of_ne _ _ hlog, Disk.get?_put_of_ne _ _ hdraft]
    · rw [Disk.get?_put_self _ _ alone.log_beside_draft.ne_nil]
      exact nofun
  · obtain ⟨n', d₁, hreopen, hstore⟩ := hrestart hended saved hsave
    refine ⟨n', d₁, hreopen, ?_, ?_⟩
    · rw [Node.get?, hstore]
      decide +kernel
    · rw [Node.get?, hstore]
      decide +kernel

end Replica
