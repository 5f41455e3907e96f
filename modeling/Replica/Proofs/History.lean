/-
# The log is the history

Behind each request that it has processed, whatever came of it, a node writes a line to its log,
and nothing else goes there: snapshots are saved beside it.  So long as no line fails to be
written, **the log is what it was at the opening and then what was processed, and that makes the
store out of the snapshot that was restored** (`log_is_history`).

A request is read back from its line if the line carries it whole.  Calls and pushes make no
other requests; the keys of a peer's snapshot have to be legal.
-/

import Replica.Proofs.Entrances
import Replica.Proofs.Files

namespace Replica

/-! ## 1. The file -/

namespace Log

variable {d d' : Disk} {p : Path} {b : Bytes} {l : Log}

/-- What there is to read where a log will be opened.  Nothing is ever in the file that is always
full. -/
def found? (d : Disk) (p : Path) : Option Bytes :=
  match d.get? p with
  | none => some []
  | some (.file content) => some content
  | some .full => some []
  | some .directory => none

/-- A log that can be reached, with what there is to read in it. -/
def Keeps (d : Disk) (p : Path) (b : Bytes) : Prop :=
  d.Holds p b ∨ (d.Stands p .full ∧ b = [])

theorem Keeps.read (h : Keeps d p b) : read d p = requests b := by
  rcases h with hfile | ⟨hfull, rfl⟩
  · exact read_of_holds hfile
  · simp only [Log.read, Disk.read, hfull.walkFault?_eq, hfull.get?_eq]

theorem Keeps.step {s : Disk.Step} (h : Keeps d p b) (hs : s.Spares p)
    (hstep : d.step s = .ok d') : Keeps d' p b := by
  rcases h with hfile | ⟨hfull, hb⟩
  · exact Or.inl (hfile.step hs hstep)
  · exact Or.inr ⟨hfull.step hs hstep, hb⟩

/-- **A line that could be written stands behind all others.** -/
theorem Keeps.append {r : Request} (h : Keeps d l.path b) (happend : l.append d r = .ok d') :
    Keeps d' l.path (b ++ line r) := by
  obtain ⟨p, isOpen⟩ := l
  cases isOpen with
  | false => cases happend
  | true =>
    rcases h with hfile | ⟨hfull, -⟩
    · obtain ⟨d₁, hok, hholds⟩ := append_eq_ok hfile r
      obtain rfl := Except.ok.inj (hok.symm.trans happend)
      exact Or.inl hholds
    · -- no line is so short that it fits into the full file
      have hne : (line r).isEmpty = false := by simp [line_eq]
      simp only [Log.append, if_true, Disk.append, hfull.get?_eq, hne, Bool.false_eq_true,
        if_false] at happend
      cases happend

theorem keeps_openAt (hp : ∀ name ∈ p, name ≠ "") (h : openAt d p = (.ok l, d'))
    (hfound : found? d p = some b) : l.path = p ∧ Keeps d' p b := by
  obtain ⟨rfl, hstands⟩ := stands_openAt hp h
  refine ⟨rfl, ?_⟩
  unfold found? at hfound
  rcases hstands with ⟨hnone, hholds⟩ | ⟨entry, hsome, hne, hstands⟩
  · simp only [hnone, Option.some.injEq] at hfound
    exact Or.inl (hfound ▸ hholds)
  · simp only [hsome] at hfound
    cases entry with
    | file content => exact Or.inl (Option.some.inj hfound ▸ hstands)
    | full => exact Or.inr ⟨hstands, (Option.some.inj hfound).symm⟩
    | directory => exact absurd rfl hne

theorem requests_of_found? {rs : List Request} (hfound : found? d p = some b)
    (h : read d p = .ok rs) : requests b = .ok rs := by
  unfold found? at hfound
  unfold read Disk.read at h
  split at h
  · cases h
  · next content hread =>
    split at hread
    · cases hread
    · split at hread
      · cases hread
      · cases hread
      · next hget =>
        simp only [hget, Option.some.injEq] at hfound
        obtain rfl := Except.ok.inj hread
        exact hfound ▸ h
      · next hget =>
        simp only [hget, Option.some.injEq] at hfound
        obtain rfl := Except.ok.inj hread
        exact hfound ▸ h

end Log

/-! ## 2. Files of one directory -/

theorem Path.beside_of_plain (dir : String) {name other : String} (hname : Plain name)
    (hother : Plain other) (hne : name ≠ other) :
    Disk.Beside (ofText (Settings.inDirectory dir name))
      (ofText (Settings.inDirectory dir other)) :=
  ⟨ofText dir, name, other, ofText_inDirectory dir hname, ofText_inDirectory dir hother,
    hname.ne_empty, hne⟩

theorem Settings.plain_logName : Path.Plain logName :=
  ⟨by decide, by decide, by decide, by decide⟩

theorem Settings.plain_snapshotName : Path.Plain snapshotName :=
  ⟨by decide, by decide, by decide, by decide⟩

theorem Settings.plain_draftName : Path.Plain draftName :=
  ⟨by decide, by decide, by decide, by decide⟩

/-- **Saving a snapshot has nothing to do with the log.** -/
theorem Node.spares_saveSteps (n : Node) :
    ∀ s ∈ n.saveSteps, s.Spares (Path.ofText n.settings.logPath) := by
  have hdraft := Path.beside_of_plain n.settings.directory Settings.plain_draftName
    Settings.plain_logName (by decide)
  have htarget := Path.beside_of_plain n.settings.directory Settings.plain_snapshotName
    Settings.plain_logName (by decide)
  intro s hs
  simp only [saveSteps, List.mem_cons, List.not_mem_nil, or_false] at hs
  rcases hs with rfl | rfl | rfl | rfl | rfl
  · exact trivial
  · exact hdraft
  · exact hdraft
  · exact trivial
  · exact ⟨hdraft, htarget⟩

/-- Making a directory does not change what stands as a file in it. -/
theorem Disk.get?_makeDirs_directory {d d₁ : Disk} {directory name : String}
    (hname : Path.Plain name) (h : d.makeDirs (Path.ofText directory) = .ok d₁) :
    d₁.get? (Path.ofText (Settings.inDirectory directory name)) =
      d.get? (Path.ofText (Settings.inDirectory directory name)) := by
  refine Disk.get?_makeDirs_of_ne (fun k => ?_) h
  rw [Path.ofText_inDirectory directory hname]
  exact Path.toText_concat_ne_take _ hname.ne_empty k

/-- Making the directory of a node does not change what its log will find. -/
theorem Log.found?_makeDirs {s : Settings} {d d₁ : Disk}
    (h : d.makeDirs (Path.ofText s.directory) = .ok d₁) :
    found? d₁ (Path.ofText s.logPath) = found? d (Path.ofText s.logPath) := by
  unfold found?
  rw [show d₁.get? (Path.ofText s.logPath) = d.get? (Path.ofText s.logPath) from
    Disk.get?_makeDirs_directory Settings.plain_logName h]

/-! ## 3. Requests that their lines carry whole -/

/-- Whether an errand brings requests that have lines only. -/
def Errand.Legible : Errand → Prop
  | .wait r => r.Recordable
  | .push _ => True
  | .pull snapshot => ∀ r ∈ (Errand.pull snapshot).requests, LegalKey r.key

instance (errand : Errand) : Decidable errand.Legible :=
  match errand with
  | .wait r => inferInstanceAs (Decidable r.Recordable)
  | .push _ => isTrue trivial
  | .pull snapshot =>
    inferInstanceAs (Decidable (∀ r ∈ (Errand.pull snapshot).requests, LegalKey r.key))

theorem Errand.Legible.recordable {errand : Errand} (h : errand.Legible) :
    ∀ r ∈ errand.requests, r.Recordable := by
  intro r hr
  cases errand with
  | wait q => exact List.mem_singleton.1 hr ▸ h
  | push records => exact Node.recordable_of_mem_pushed hr
  | pull snapshot =>
    refine ⟨h r hr, fun hdelete => ?_⟩
    simp only [Errand.requests] at hr
    split at hr
    · obtain ⟨⟨key, item⟩, -, rfl⟩ := List.mem_map.1 hr
      cases hdelete
    · cases hr

namespace Service

/-- Whether an act brings requests that have lines only: a call and a push always do. -/
def Act.Legible : Act → Prop
  | .submit r => r.Recordable
  | .come errand => errand.Legible
  | _ => True

instance (a : Act) : Decidable a.Legible :=
  match a with
  | .submit r => inferInstanceAs (Decidable r.Recordable)
  | .come errand => inferInstanceAs (Decidable errand.Legible)
  | .ask .. | .stamp _ | .invite _ | .hand _ | .turnAway _ | .leave _ | .process | .watch _
  | .hear _ | .forget _ | .move .. | .persist | .save _ | .shutdown | .close | .closeLog
  | .stop _ | .conclude => isTrue trivial

variable {x x' : Service} {a : Act}

theorem Act.Legible.brings (h : a.Legible) : a.Brings Request.Recordable := by
  cases a with
  | submit r => exact h
  | come errand => exact Errand.Legible.recordable h
  | _ => trivial

/-! ## 4. The log of a node at work -/

/-- Whether the line of what is processed, if anything is, is written. -/
def isLogged (x : Service) (a : Act) : Bool :=
  (x.seen a).all fun
    | .processed r => (x.node.log.append x.disk r).toOption.isSome
    | _ => true

/-- Whether every line is written. -/
def logged (x : Service) : List Act → Bool
  | [] => true
  | a :: as => x.isLogged a && (x.step a).logged as

theorem exists_append_of_isLogged {r : Request} (h : x.isLogged a = true)
    (hr : .processed r ∈ x.seen a) : ∃ d, x.node.log.append x.disk r = .ok d := by
  have hsome := List.all_eq_true.1 h _ hr
  cases happend : x.node.log.append x.disk r with
  | ok d => exact ⟨d, rfl⟩
  | error f => simp [happend, Except.toOption] at hsome

/-- **What holds of the log of a node at work at any time**, and of what will come to it. -/
structure Recorded (n : Node) (content : Bytes) (x : Service) (t : Tally) : Prop where
  settings_eq : x.node.settings = n.settings
  log_path : x.node.log.path = Path.ofText n.settings.logPath
  keeps : Log.Keeps x.disk (Path.ofText n.settings.logPath) (content ++ Log.written t.processed)
  saves : ∀ steps ∈ x.saves, ∀ s ∈ steps, s.Spares (Path.ofText n.settings.logPath)
  queue : ∀ r ∈ x.node.intake.queue, r.Recordable
  processed : ∀ r ∈ t.processed, r.Recordable

variable {n : Node} {content : Bytes} {t : Tally}

/-- Nothing that lasts has changed, and only requests that have lines came in. -/
theorem Recorded.still {m : Node} {guests : List Guest} {stage : Stage} {accepted : List Request}
    (h : Recorded n content x t) (hn : Still m x.node)
    (hq : ∀ r ∈ m.intake.queue, r.Recordable) :
    Recorded n content { x with node := m, guests, stage } { t with accepted } where
  settings_eq := hn.settings.trans h.settings_eq
  log_path := (congrArg Log.path hn.log).trans h.log_path
  keeps := h.keeps
  saves := h.saves
  queue := hq
  processed := h.processed

/-- A request that comes in waits behind the others. -/
theorem Recorded.accept {m : Node} {guests : List Guest} {r : Request}
    (h : Recorded n content x t) (hn : Still m x.node)
    (hq : m.intake.queue = x.node.intake.queue ++ [r]) (hr : r.Recordable) :
    Recorded n content { x with node := m, guests } { t with accepted := t.accepted ++ [r] } := by
  refine h.still hn fun q hmem => ?_
  rw [hq] at hmem
  rcases List.mem_append.1 hmem with hold | hnew
  · exact h.queue q hold
  · exact List.mem_singleton.1 hnew ▸ hr

/-- **A processed request is the last one in the log.** -/
theorem Recorded.process {r : Request} {rest : List Request} {d : Disk}
    (h : Recorded n content x t) (hq : x.node.intake.queue = r :: rest)
    (happend : x.node.log.append x.disk r = .ok d) :
    Recorded n content (x.takeNext r rest) { t with processed := t.processed ++ [r] } := by
  have hr : r.Recordable := h.queue r (hq ▸ List.mem_cons_self)
  refine ⟨?_, ?_, ?_, h.saves, fun q hmem => ?_, fun q hmem => ?_⟩
  · rw [settings_takeNext]
    exact h.settings_eq
  · rw [log_takeNext]
    exact h.log_path
  · have hkeeps := h.keeps
    rw [← h.log_path] at hkeeps ⊢
    rw [disk_takeNext rest happend, Log.written_concat, ← List.append_assoc]
    exact hkeeps.append happend
  · rw [intake_takeNext] at hmem
    exact h.queue q (hq ▸ List.mem_cons_of_mem r hmem)
  · rcases List.mem_append.1 hmem with hold | hnew
    · exact h.processed q hold
    · exact List.mem_singleton.1 hnew ▸ hr

/-- **An act that has its line written keeps the log in order.** -/
theorem Recorded.change {ss : List Sight} (h : Recorded n content x t) (hc : Change x ss x')
    (haccepted : ∀ r, .accepted r ∈ ss → r.Recordable)
    (hlogged : ∀ r, .processed r ∈ ss → ∃ d, x.node.log.append x.disk r = .ok d) :
    Recorded n content x' (t.enterAll ss) := by
  cases hc with
  | quiet hss hn hi _ _ =>
    rw [t.enterAll_of_refusals hss]
    exact h.still hn (hi ▸ h.queue)
  | @entered r _ _ _ _ hn hi _ =>
    exact h.accept hn (by rw [hi]; rfl) (haccepted r List.mem_cons_self)
  | @kept r _ _ hn hi _ =>
    exact h.accept hn (by rw [hi]; rfl) (haccepted r List.mem_cons_self)
  | promised _ _ hn hi _ => exact h.still hn (by rw [hi]; exact h.queue)
  | released hss hn hi _ =>
    rw [t.enterAll_of_refusals hss]
    exact h.still hn (by rw [hi]; exact h.queue)
  | @processed r rest hq =>
    obtain ⟨d, happend⟩ := hlogged r List.mem_cons_self
    exact h.process hq happend
  | closed => exact h.still ⟨rfl, rfl, rfl⟩ h.queue
  | sealed _ _ _ => exact ⟨h.settings_eq, h.log_path, h.keeps, h.saves, h.queue, h.processed⟩
  | saved hd hs =>
    refine ⟨h.settings_eq, h.log_path, ?_, fun steps hsteps s hmem => ?_, h.queue, h.processed⟩
    · rcases hd with rfl | ⟨steps, hsteps, s, hmem, hstep⟩
      · exact h.keeps
      · exact h.keeps.step (h.saves steps hsteps s hmem) hstep
    · rcases hs steps hsteps with rfl | ⟨old, hold, hsub⟩
      · have hspares := x.node.spares_saveSteps s hmem
        rwa [h.settings_eq] at hspares
      · exact h.saves old hold s (hsub hmem)

theorem Recorded.run (h : Recorded n content x t)
    (hguests : ∀ guest ∈ x.guests, ∀ r ∈ guest.left, r.Recordable) {as : List Act}
    (hlegible : ∀ a ∈ as, a.Legible) (hlogged : x.logged as = true) :
    Recorded n content (x.run as) (t.enterAll (x.sights as)) := by
  induction as generalizing x t with
  | nil => exact h
  | cons a as ih =>
    have ha := hlegible a List.mem_cons_self
    have hrest := fun b hb => hlegible b (List.mem_cons_of_mem a hb)
    obtain ⟨hfirst, hlater⟩ := Bool.and_eq_true_iff.1 hlogged
    have hstep := h.change (change_step x a)
      (fun r hr => forall_accepted hguests (fun q => recordable_of_mem_asked) ha.brings hr)
      fun r hr => exists_append_of_isLogged hfirst hr
    have hall := ih hstep (forall_left_step hguests ha.brings) hrest hlater
    rw [← Tally.enterAll_append] at hall
    exact hall

end Service

/-! ## 5. From the opening on -/

/-- **The log is what was found at the opening and then exactly what was processed since**, and
that is what has become of the snapshot: at any time, if every line was written and the log found
was whole lines of text. -/
theorem log_is_history {s : Settings} {d d' : Disk} {n : Node} {found : Bytes}
    (hopen : Node.openIn s d = (.ok n, d'))
    (hfound : Log.found? d (Path.ofText s.logPath) = some found) (hwhole : Log.Whole found)
    (htext : (Text.ofUtf8? found).isSome = true) {as : List Service.Act}
    (hlegible : ∀ a ∈ as, a.Legible)
    (hlogged : ({ node := n, disk := d' } : Service).logged as = true) :
    let start : Service := { node := n, disk := d' }
    let x := start.run as
    let t := start.tally as
    ∃ before restored d₁,
      Log.requests found = .ok before ∧
      (∀ rs, Log.read d (Path.ofText s.logPath) = .ok rs → rs = before) ∧
      Log.read x.disk (Path.ofText s.logPath) = .ok (before ++ t.processed) ∧
      d.makeDirs (Path.ofText s.directory) = .ok d₁ ∧ Node.restore d₁ s = .ok restored ∧
      x.node.store = restored.applyAll t.processed := by
  intro start x t
  obtain ⟨hsettings, hintake, d₁, hmake, hrestore, hlog⟩ := Node.exists_of_openIn hopen
  obtain ⟨text, htext⟩ := Option.isSome_iff_exists.1 htext
  obtain ⟨before, hbefore⟩ := Log.exists_requests_of_text htext
  obtain ⟨hpath, hkeeps⟩ := Log.keeps_openAt (fun name => Path.ne_empty_of_mem_ofText) hlog
    ((Log.found?_makeDirs hmake).trans hfound)
  have hstart : Service.Recorded n found start {} := by
    refine ⟨rfl, ?_, ?_, nofun, ?_, nofun⟩
    · rw [hsettings]
      exact hpath
    · rw [hsettings, show Log.written ([] : List Request) = [] from rfl, List.append_nil]
      exact hkeeps
    · rw [hintake]
      exact nofun
  have h : Service.Recorded n found x t := hstart.run nofun hlegible hlogged
  have hsound : Service.Sound n x t :=
    (Service.sound_start (by rw [hintake]) (by rw [hintake])).run as
  refine ⟨before, n.store, d₁, hbefore, fun rs hread => ?_, ?_, hmake, hrestore,
    hsound.store_eq⟩
  · have hsame := (Log.requests_of_found? hfound hread).symm.trans hbefore
    exact Except.ok.inj hsame
  · have hkept := h.keeps
    rw [hsettings] at hkept
    rw [hkept.read]
    exact Log.requests_append_written hwhole hbefore h.processed

/-- A log with a line that carries a request and one that carries none. -/
def olderLog : Bytes := Text.utf8 "1 req set a AQ==\nno line\n"

def olderDisk : Disk := Disk.empty.force ["data", "tx.dat"] olderLog

def reopened : Settings := { directory := "data", peers := ["b"] }

/-- A set, a push with an older delete of the same key behind a line that carries no request, a
delete of a key that holds nothing, and a snapshot that is saved in between. -/
def mixedActs : List Service.Act :=
  [.ask 1700000000000 (.set "k" [1]), .come (.push ["8 req", "5 req del k", "7 req set j Aw=="]),
    .process, .hand 0, .persist, .save 0, .hand 0, .save 0, .process,
    .ask 1700000000001 (.delete "absent"), .save 0, .process, .save 0, .process, .save 0]

theorem log_is_history_mixed :
    let start := Service.openedOn reopened olderDisk
    let path := Path.ofText reopened.logPath
    Node.openIn reopened olderDisk = (.ok start.node, start.disk) ∧
      Log.found? olderDisk path = some olderLog ∧ Log.Whole olderLog ∧
      (Text.ofUtf8? olderLog).isSome = true ∧ (∀ a ∈ mixedActs, a.Legible) ∧
      start.logged mixedActs = true ∧
      Log.read (start.run mixedActs).disk path =
        .ok [.set 1 .client "a" [1], .set 1700000000000000001 .client "k" [1],
          .delete 5 .peer "k", .set 7 .peer "j" [3],
          .delete 1700000000001000002 .client "absent"] := by
  intro start path
  have hopen : Node.openIn reopened olderDisk = (.ok start.node, start.disk) :=
    Service.openIn_openedOn (by decide +kernel)
  have hfound : Log.found? olderDisk path = some olderLog := by decide +kernel
  have hwhole : Log.Whole olderLog := by decide +kernel
  have htext : (Text.ofUtf8? olderLog).isSome = true := by decide +kernel
  have hlegible : ∀ a ∈ mixedActs, a.Legible := by decide +kernel
  have hlogged : start.logged mixedActs = true := by decide +kernel
  have hprocessed : (start.tally mixedActs).processed =
      [.set 1700000000000000001 .client "k" [1], .delete 5 .peer "k", .set 7 .peer "j" [3],
        .delete 1700000000001000002 .client "absent"] := by
    decide +kernel
  have hrequests : Log.requests olderLog = .ok [.set 1 .client "a" [1]] := by decide +kernel
  obtain ⟨before, -, -, hbefore, -, hread, -⟩ :=
    log_is_history hopen hfound hwhole htext hlegible hlogged
  obtain rfl := Except.ok.inj (hrequests.symm.trans hbefore)
  refine ⟨hopen, hfound, hwhole, htext, hlegible, hlogged, hread.trans ?_⟩
  exact congrArg (fun rs => Except.ok ([Request.set 1 .client "a" [1]] ++ rs)) hprocessed

end Replica
