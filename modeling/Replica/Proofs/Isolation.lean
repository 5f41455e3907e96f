/-
# Faults stay where they are

A line that cannot be written to the log, and an outbox that refuses a record because it is full
or has stopped, are nobody else's affair.  Take two courses of the pipeline over the same
requests, from the same store and with the same who watch, in which others do the same to all
outboxes but some: **whatever becomes of the log, of the disk and of those outboxes, everybody
else sees the same** (`faults_isolated`).  After each request the store is the same, the same
tickets have been told the same, every outbox has been offered the same records, and all outboxes
but those have accepted the same.  If nothing happens to the log and the disk in one course that
does not in the other, the same lines are written.

Such faults may come in any pattern (`append_failing`, `offer_failing`).
-/

import Replica.Proofs.Course
import Replica.Proofs.FanOut

namespace Replica

/-! ## 1. What is seen of a request -/

/-- The record that a deed offers. -/
def Deed.offered? : Deed → Option String
  | .accepted record => some record
  | .refused record _ => some record
  | _ => none

/-- What is seen of a request once it has been processed. -/
structure Glance where
  node : Node
  disk : Disk
  /-- Who has been told of the change that it made. -/
  heard : List (Nat × Change)
  /-- What came of offering it to the peers, outbox by outbox. -/
  dealt : List (List Deed)

/-- The records that were offered, outbox by outbox. -/
def Glance.offered (g : Glance) : List (List String) :=
  g.dealt.map fun deeds => deeds.filterMap Deed.offered?

namespace Node

/-- What is seen of a request that the pipeline takes next. -/
def glance (n : Node) (d : Disk) (r : Request) : Glance where
  node := (n.process d r).1
  disk := (n.process d r).2
  heard := n.notices.hearers (n.store.apply r).1
  dealt := n.outboxes.map fun o => o.ledger (r.forPeers?.toList.map .offer)

/-- What is seen of a course, request by request. -/
def glances (n : Node) (d : Disk) : List (Interlude × Request) → List Glance
  | [] => []
  | (e, r) :: rest =>
    let g := (e.node n).glance (e.disk d) r
    g :: g.node.glances g.disk rest

/-- Those who hear of a change are those who have been told it. -/
theorem told_glance (n : Node) (d : Disk) (r : Request) :
    (n.glance d r).node.notices.told = n.notices.told ++ (n.glance d r).heard := by
  unfold glance
  rw [notices_process]
  exact Notices.told_tellAny _ _

end Node

theorem Outbox.offered_ledger (o : Outbox) (r : Request) :
    (o.ledger (r.forPeers?.toList.map .offer)).filterMap Deed.offered? = r.forPeers?.toList := by
  cases r.forPeers? with
  | none => rfl
  | some record =>
    simp only [Option.toList_some, List.map_cons, List.map_nil, ledger, deeds, List.append_nil]
    split
    · rfl
    · rfl

/-- **Every outbox is offered the same**, whether it has room or not. -/
theorem Node.offered_glance (n : Node) (d : Disk) (r : Request) :
    (n.glance d r).offered = List.replicate n.outboxes.length r.forPeers?.toList := by
  have hoffered : (n.glance d r).offered = n.outboxes.map fun _ => r.forPeers?.toList := by
    unfold Glance.offered glance
    rw [List.map_map]
    exact List.map_congr_left fun o _ => o.offered_ledger r
  rw [hoffered, List.map_const']

/-! ## 2. Alike but for some outboxes -/

variable {P : Set Nat}

/-- Nodes that nobody can tell apart but by the outboxes at some places, and by their logs. -/
structure Node.AlikeBut (P : Set Nat) (n m : Node) : Prop where
  store_eq : n.store = m.store
  notices_eq : n.notices = m.notices
  length_eq : n.outboxes.length = m.outboxes.length
  outboxes_eq : ∀ i ∉ P, n.outboxes[i]? = m.outboxes[i]?

/-- Interludes in which others do the same, but to the outboxes at some places and to the files. -/
structure Interlude.SameBut (P : Set Nat) (e f : Interlude) : Prop where
  watchers_eq : e.watchers = f.watchers
  senders_eq : ∀ i ∉ P, e.senders i = f.senders i

/-- Interludes in which the same happens to the files. -/
structure Interlude.SameFiles (e f : Interlude) : Prop where
  log_eq : e.log = f.log
  disk_eq : e.disk = f.disk

/-- What is seen of a request alike but at some outboxes, and even there the same was offered. -/
structure Glance.AlikeBut (P : Set Nat) (g h : Glance) : Prop where
  node : g.node.AlikeBut P h.node
  heard_eq : g.heard = h.heard
  offered_eq : g.offered = h.offered
  dealt_eq : ∀ i ∉ P, g.dealt[i]? = h.dealt[i]?

theorem Node.AlikeBut.interlude {n m : Node} {e f : Interlude} (h : n.AlikeBut P m)
    (hsame : e.SameBut P f) : (e.node n).AlikeBut P (f.node m) where
  store_eq := h.store_eq
  notices_eq := by
    unfold Interlude.node
    rw [hsame.watchers_eq, h.notices_eq]
  length_eq := by
    unfold Interlude.node
    simpa using h.length_eq
  outboxes_eq := by
    intro i hi
    unfold Interlude.node
    simp only [List.getElem?_mapIdx]
    rw [hsame.senders_eq i hi, h.outboxes_eq i hi]

/-- **A request that is processed makes no difference between the two**, whether its line is
written or not. -/
theorem Node.AlikeBut.process {n m : Node} (h : n.AlikeBut P m) (d c : Disk) (r : Request) :
    (n.process d r).1.AlikeBut P (m.process c r).1 where
  store_eq := by rw [store_process, store_process, h.store_eq]
  notices_eq := by rw [notices_process, notices_process, h.notices_eq, h.store_eq]
  length_eq := by
    simp only [outboxes_process, offered_eq, List.length_map]
    exact h.length_eq
  outboxes_eq := by
    intro i hi
    simp only [outboxes_process, offered_eq, List.getElem?_map]
    rw [h.outboxes_eq i hi]

theorem Node.AlikeBut.glance {n m : Node} (h : n.AlikeBut P m) (d c : Disk) (r : Request) :
    (n.glance d r).AlikeBut P (m.glance c r) where
  node := h.process d c r
  heard_eq := by
    unfold Node.glance
    rw [h.notices_eq, h.store_eq]
  offered_eq := by rw [n.offered_glance, m.offered_glance, h.length_eq]
  dealt_eq := by
    intro i hi
    unfold Node.glance
    rw [List.getElem?_map, List.getElem?_map, h.outboxes_eq i hi]

/-! ## 3. Courses -/

/-- The same requests, behind interludes of which the same holds. -/
def SameRequests (R : Interlude → Interlude → Prop) (as bs : List (Interlude × Request)) : Prop :=
  List.Forall₂ (fun a b => R a.1 b.1 ∧ a.2 = b.2) as bs

variable {n m : Node} {as bs : List (Interlude × Request)}

theorem Node.AlikeBut.glances (h : n.AlikeBut P m)
    (hsame : SameRequests (Interlude.SameBut P) as bs) (d c : Disk) :
    List.Forall₂ (Glance.AlikeBut P) (n.glances d as) (m.glances c bs) := by
  unfold SameRequests at hsame
  induction hsame generalizing n m d c with
  | nil => exact .nil
  | @cons a b as bs hab _ ih =>
    obtain ⟨e, r⟩ := a
    obtain ⟨f, q⟩ := b
    obtain ⟨hinterlude, rfl⟩ : e.SameBut P f ∧ r = q := hab
    have hfirst := (h.interlude hinterlude).glance (e.disk d) (f.disk c) r
    exact .cons hfirst (ih hfirst.node _ _)

/-- **What goes to the log goes by the log and the disk alone.** -/
theorem Node.disks_glances (hlog : n.log = m.log)
    (hsame : SameRequests Interlude.SameFiles as bs) (d : Disk) :
    (n.glances d as).map Glance.disk = (m.glances d bs).map Glance.disk := by
  unfold SameRequests at hsame
  induction hsame generalizing n m d with
  | nil => rfl
  | @cons a b as bs hab _ ih =>
    obtain ⟨e, r⟩ := a
    obtain ⟨f, q⟩ := b
    obtain ⟨hfiles, rfl⟩ : e.SameFiles f ∧ r = q := hab
    have hbefore : (e.node n).log = (f.node m).log := by
      unfold Interlude.node
      rw [hfiles.log_eq, hlog]
    have hdisk : ((e.node n).glance (e.disk d) r).disk = ((f.node m).glance (f.disk d) r).disk := by
      unfold Node.glance
      rw [disk_process, disk_process, hbefore, hfiles.disk_eq]
    have hafter : ((e.node n).glance (e.disk d) r).node.log =
        ((f.node m).glance (f.disk d) r).node.log := by
      unfold Node.glance
      rw [log_process, log_process, hbefore]
    have hrest := ih hafter ((e.node n).glance (e.disk d) r).disk
    unfold glances
    rw [List.map_cons, List.map_cons, hdisk]
    rw [hdisk] at hrest
    rw [hrest]

/-- **Faults stay isolated.**  Of two courses over the same requests, from nodes alike but for the
outboxes at some places, nobody else sees what happened there, to the log and to the disk.  If the
same happened to the log and the disk, the same lines were written. -/
theorem faults_isolated (hstart : n.AlikeBut P m)
    (hsame : SameRequests (Interlude.SameBut P) as bs) (d c : Disk) :
    List.Forall₂ (Glance.AlikeBut P) (n.glances d as) (m.glances c bs) ∧
    (n.log = m.log → d = c → SameRequests Interlude.SameFiles as bs →
      (n.glances d as).map Glance.disk = (m.glances c bs).map Glance.disk) := by
  constructor
  · exact hstart.glances hsame d c
  · rintro hlog rfl hfiles
    exact Node.disks_glances hlog hfiles d

/-- A node with two peers, and a disk with a log. -/
def connected : Node := { Node.solitary (Fin.last 999) with outboxes := [.new "b" {}, .new "c" {}] }

def connectedDisk : Disk := Disk.empty.force ["tx.dat"] []

/-- Somebody watches, and nothing is in the way. -/
def smooth : Interlude where
  watchers b := (b.draw "k").2
  senders _ o := o
  log l := l
  disk d := d

/-- The first of the outboxes stops. -/
def severed : Interlude := { smooth with senders := fun i o => if i = 0 then o.stop else o }

/-- The log is closed as well. -/
def muted : Interlude := { severed with log := fun l => { l with isOpen := false } }

def threeSteps (e : Interlude) : List (Interlude × Request) :=
  [(e, .set 1 .client "k" [1]), (e, .delete 2 .peer "k"), (e, .set 3 .client "k" [3])]

/-- The outbox that stopped refuses both records and no line is written, but the other one takes
the records, and whoever watches hears of all changes. -/
theorem faults_isolated_muted :
    let seen := fun e => connected.glances connectedDisk (threeSteps e)
    List.Forall₂ (Glance.AlikeBut {0}) (seen smooth) (seen muted) ∧
      (seen smooth).map Glance.disk = (seen severed).map Glance.disk ∧
      (seen smooth).map Glance.disk ≠ (seen muted).map Glance.disk ∧
      (seen muted).map Glance.dealt =
        [[[.refused "1 sync set k AQ==" .closed], [.accepted "1 sync set k AQ=="]], [[], []],
          [[.refused "3 sync set k Aw==" .closed], [.accepted "3 sync set k Aw=="]]] ∧
      (seen muted).map (fun g => g.heard.map Prod.fst) = [[0], [1], [2]] := by
  intro seen
  have hstart : connected.AlikeBut {0} connected := ⟨rfl, rfl, rfl, fun i _ => rfl⟩
  have hother : ∀ i ∉ ({0} : Set Nat), smooth.senders i = severed.senders i := by
    intro i hi
    funext o
    exact (if_neg hi).symm
  have hmuted : SameRequests (Interlude.SameBut {0}) (threeSteps smooth) (threeSteps muted) := by
    have hsame : smooth.SameBut {0} muted := ⟨rfl, hother⟩
    exact .cons ⟨hsame, rfl⟩ (.cons ⟨hsame, rfl⟩ (.cons ⟨hsame, rfl⟩ .nil))
  have hsevered : SameRequests (Interlude.SameBut {0}) (threeSteps smooth) (threeSteps severed) := by
    have hsame : smooth.SameBut {0} severed := ⟨rfl, hother⟩
    exact .cons ⟨hsame, rfl⟩ (.cons ⟨hsame, rfl⟩ (.cons ⟨hsame, rfl⟩ .nil))
  have hfiles : SameRequests Interlude.SameFiles (threeSteps smooth) (threeSteps severed) := by
    have hsame : smooth.SameFiles severed := ⟨rfl, rfl⟩
    exact .cons ⟨hsame, rfl⟩ (.cons ⟨hsame, rfl⟩ (.cons ⟨hsame, rfl⟩ .nil))
  refine ⟨(faults_isolated hstart hmuted connectedDisk connectedDisk).1,
    (faults_isolated hstart hsevered connectedDisk connectedDisk).2 rfl rfl hfiles, ?_, ?_, ?_⟩
  · decide +kernel
  · decide +kernel
  · decide +kernel

/-! ## 4. Any pattern of faults -/

/-- An interlude behind which lines fail to be written and outboxes refuse as it says. -/
def Interlude.failing (fails : Bool) (refuses : Nat → Bool) : Interlude where
  watchers b := b
  senders i o :=
    if refuses i then o.stop else { o with queue := [], stopping := false, phase := .fresh }
  log l := { l with isOpen := !fails }
  disk _ := .empty

theorem append_failing (n : Node) (d : Disk) (r : Request) (fails : Bool) (refuses : Nat → Bool) :
    let e := Interlude.failing fails refuses
    ((e.node n).log.append (e.disk d) r).toOption.isNone = fails := by
  intro e
  cases fails with
  | true => rfl
  | false =>
    have hnowhere : Disk.empty.append n.log.path (Log.line r) = .ok .empty := by
      unfold Disk.append Disk.get?
      split
      · next hfile =>
        split at hfile
        · cases hfile
        · cases hfile
      · next hfull =>
        split at hfull
        · cases hfull
        · cases hfull
      · rfl
    have happend : (e.node n).log.append (e.disk d) r = .ok .empty := by
      change ((Disk.empty.append n.log.path (Log.line r)).mapError LogFault.disk) = .ok .empty
      rw [hnowhere]
      rfl
    rw [happend]
    rfl

theorem offer_failing {n : Node} {fails : Bool} {refuses : Nat → Bool} {i : Nat} {o : Outbox}
    (ho : ((Interlude.failing fails refuses).node n).outboxes[i]? = some o) (record : String) :
    (o.offer record).toOption.isNone = refuses i := by
  unfold Interlude.node at ho
  rw [List.getElem?_mapIdx] at ho
  obtain ⟨before, -, rfl⟩ := Option.map_eq_some_iff.1 ho
  cases hi : refuses i with
  | true => simp [Interlude.failing, hi, Outbox.offer, Outbox.stop, Except.toOption]
  | false =>
    have hroom : 0 < max before.settings.queueCapacity 1 :=
      Nat.lt_of_lt_of_le Nat.zero_lt_one (Nat.le_max_right ..)
    simp [Interlude.failing, hi, Outbox.offer, Outbox.places, hroom, Except.toOption]

end Replica
