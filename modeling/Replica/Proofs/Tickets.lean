/-
# A ticket is served once

Tickets are drawn and given up, changes are told, and holders look at what they were told, in any
order and for any keys.  **A ticket hears of the first change of its key after it was drawn, of
that alone, and of none if it was given up before** (`Waits.fate`).  Who waits for a key is said by
what has been done since each ticket was drawn (`mem_waitingFor_iff`), and nothing that is done
about one key changes who waits for another.
-/

import Mathlib.Data.List.TakeWhile
import Mathlib.Data.Set.Card
import Replica.Proofs.Course

namespace Replica

namespace Notices

/-! ## 1. What is done -/

/-- What those who watch and those who tell do. -/
inductive Act where
  | draw (key : String)
  | giveUp (ticket : Nat)
  | tell (change : Change)
  /-- The holder of a ticket looks at what it has been told. -/
  | take (ticket : Nat)
deriving DecidableEq

namespace Act

def isDraw : Act → Bool
  | .draw _ => true
  | _ => false

/-- The key that an act is about. -/
def key? : Act → Option String
  | .draw key => some key
  | .tell change => some change.key
  | _ => none

/-- Whether an act tells a change of a key. -/
def tells (key : String) : Act → Bool
  | .tell change => change.key = key
  | _ => false

end Act

/-- How many tickets are drawn. -/
def draws (acts : List Act) : Nat := acts.countP Act.isDraw

/-- The first change of a key that is told, and what is done after that. -/
def firstTell (key : String) : List Act → Option (Change × List Act)
  | [] => none
  | .tell change :: acts =>
    if change.key = key then some (change, acts) else firstTell key acts
  | _ :: acts => firstTell key acts

/-- A ticket that has not been drawn cannot be given up. -/
def turn (n : Notices) : Act → Notices
  | .draw key => (n.draw key).2
  | .giveUp ticket => if ticket < n.drawn then n.giveUp ticket else n
  | .tell change => (n.tell change).2
  | .take ticket => (n.take ticket).2

def after (n : Notices) (acts : List Act) : Notices := acts.foldl turn n

/-- What a ticket is told by an act. -/
def hears (n : Notices) (ticket : Nat) : Act → List Change
  | .tell change => ((n.hearers (some change)).filter fun e => e.1 = ticket).map Prod.snd
  | _ => []

/-- What the holder of a ticket finds by an act. -/
def finds (n : Notices) (ticket : Nat) : Act → List Change
  | .take t =>
    if t = ticket then
      match (n.take ticket).1 with
      | .told change => [change]
      | _ => []
    else []
  | _ => []

/-- What a ticket is told, act by act. -/
def heard (n : Notices) (ticket : Nat) : List Act → List Change
  | [] => []
  | a :: acts => n.hears ticket a ++ (n.turn a).heard ticket acts

/-- What its holder finds, act by act. -/
def found (n : Notices) (ticket : Nat) : List Act → List Change
  | [] => []
  | a :: acts => n.finds ticket a ++ (n.turn a).found ticket acts

variable {n : Notices} {key : String} {ticket : Nat}

theorem heard_append (n : Notices) (ticket : Nat) (acts acts' : List Act) :
    n.heard ticket (acts ++ acts') = n.heard ticket acts ++ (n.after acts).heard ticket acts' := by
  induction acts generalizing n with
  | nil => rfl
  | cons a acts ih =>
    rw [List.cons_append, heard, heard, ih, List.append_assoc]
    rfl

theorem found_append (n : Notices) (ticket : Nat) (acts acts' : List Act) :
    n.found ticket (acts ++ acts') = n.found ticket acts ++ (n.after acts).found ticket acts' := by
  induction acts generalizing n with
  | nil => rfl
  | cons a acts ih =>
    rw [List.cons_append, found, found, ih, List.append_assoc]
    rfl

theorem after_concat (n : Notices) (acts : List Act) (a : Act) :
    n.after (acts ++ [a]) = (n.after acts).turn a := List.foldl_concat ..

theorem after_append (n : Notices) (acts acts' : List Act) :
    n.after (acts ++ acts') = (n.after acts).after acts' := List.foldl_append

theorem draws_concat (acts : List Act) (a : Act) :
    draws (acts ++ [a]) = draws acts + if a.isDraw then 1 else 0 := by
  cases h : a.isDraw <;> simp [draws, h]

/-! ## 2. Who waits -/

@[simp] theorem waitingFor_draw_self (n : Notices) (key : String) :
    (n.draw key).2.waitingFor key = n.waitingFor key ++ [n.drawn] := by
  simp [waitingFor, draw]

theorem waitingFor_draw_of_ne (n : Notices) {key other : String} (h : other ≠ key) :
    (n.draw key).2.waitingFor other = n.waitingFor other := by
  simp [waitingFor, draw, Dict.get?_insert_of_ne _ _ h]

@[simp] theorem waitingFor_tell_self (n : Notices) (change : Change) :
    (n.tell change).2.waitingFor change.key = [] := by
  simp [waitingFor, tell]

theorem waitingFor_tell_of_ne (n : Notices) {change : Change} {other : String}
    (h : other ≠ change.key) : (n.tell change).2.waitingFor other = n.waitingFor other := by
  simp [waitingFor, tell, Dict.get?_erase_of_ne _ h]

/-- Taking is clearing away what was told. -/
theorem take_snd (n : Notices) (ticket : Nat) :
    (n.take ticket).2 = { n with told := n.told.filter fun t => t.1 ≠ ticket } := by
  unfold take
  cases hfind : n.told.find? fun t => t.1 = ticket with
  | some e => rfl
  | none =>
    have hall : (n.told.filter fun t => t.1 ≠ ticket) = n.told := by
      rw [List.filter_eq_self]
      intro e hmem
      simpa using List.find?_eq_none.1 hfind e hmem
    rw [hall]

/-- **What is done about one key changes nothing about who waits for another.** -/
theorem waitingFor_turn_of_ne {a : Act} (h : a.key? ≠ some key) :
    (n.turn a).waitingFor key = n.waitingFor key := by
  cases a with
  | draw other => exact waitingFor_draw_of_ne n fun heq => h (by rw [heq]; rfl)
  | tell change => exact waitingFor_tell_of_ne n fun heq => h (by rw [heq]; rfl)
  | giveUp t =>
    simp only [turn]
    split <;> rfl
  | take t =>
    simp only [turn, take_snd]
    rfl

theorem isWaiting_iff : n.isWaiting ticket = true ↔ ∃ key, ticket ∈ n.waitingFor key := by
  simp only [isWaiting, Dict.values, List.any_map, List.any_eq_true, Function.comp_apply,
    List.contains_iff_mem]
  constructor
  · rintro ⟨⟨key, tickets⟩, hmem, ht⟩
    exact ⟨key, by simpa [waitingFor, Dict.mem_entries_iff.1 hmem] using ht⟩
  · rintro ⟨key, ht⟩
    cases hget : n.waiting.get? key with
    | none => simp [waitingFor, hget] at ht
    | some tickets =>
      exact ⟨(key, tickets), Dict.mem_entries_iff.2 hget, by simpa [waitingFor, hget] using ht⟩

/-! ## 3. What is in a slot -/

/-- What a ticket has been told and its holder has not taken. -/
def slot (n : Notices) (ticket : Nat) : List Change :=
  (n.told.filter fun e => e.1 = ticket).map Prod.snd

theorem take_fst (n : Notices) (ticket : Nat) :
    (n.take ticket).1 = match n.slot ticket with
      | change :: _ => .told change
      | [] => if n.isWaiting ticket then .waiting else .closed := by
  have hhead : (n.slot ticket).head? = (n.told.find? fun e => e.1 = ticket).map Prod.snd := by
    rw [slot, List.head?_map, List.head?_filter]
  unfold take
  cases hfind : n.told.find? fun e => e.1 = ticket with
  | some e =>
    rw [hfind] at hhead
    obtain ⟨rest, hslot⟩ := List.head?_eq_some_iff.1 hhead
    rw [hslot]
  | none =>
    rw [hfind] at hhead
    rw [List.head?_eq_none_iff.1 hhead]

theorem slot_filter_ne (n : Notices) (ticket other : Nat) :
    slot { n with told := n.told.filter fun t => t.1 ≠ other } ticket =
      if other = ticket then [] else n.slot ticket := by
  simp only [slot, List.filter_filter]
  split
  · next h =>
    subst h
    simp
  · next h =>
    congr 1
    apply List.filter_congr
    intro e _
    by_cases he : e.1 = ticket
    · simp [he, Ne.symm h]
    · simp [he]

/-- **A slot is filled by what the ticket hears**, and emptied by its holder. -/
theorem slot_turn (n : Notices) (ticket : Nat) (a : Act) :
    (n.turn a).slot ticket = if a = .take ticket ∨ a = .giveUp ticket ∧ ticket < n.drawn then []
      else n.slot ticket ++ n.hears ticket a := by
  cases a with
  | draw key => simp [turn, draw, slot, hears]
  | tell change => simp [turn, tell, slot, hears, hearers]
  | take t =>
    simp only [turn, take_snd, slot_filter_ne, hears, List.append_nil, Act.take.injEq,
      reduceCtorEq, false_and, or_false]
  | giveUp t =>
    simp only [turn, hears, List.append_nil, Act.giveUp.injEq, reduceCtorEq, false_or]
    by_cases hdrawn : t < n.drawn
    · rw [if_pos hdrawn]
      have hgiven : (n.giveUp t).slot ticket = if t = ticket then [] else n.slot ticket :=
        slot_filter_ne n ticket t
      rw [hgiven]
      by_cases ht : t = ticket
      · subst ht
        simp [hdrawn]
      · simp [ht]
    · rw [if_neg hdrawn, if_neg]
      rintro ⟨rfl, hlt⟩
      exact hdrawn hlt

/-! ## 4. Tickets are new and wait once -/

/-- Tickets wait in the order they were drawn, each for one key, and nothing is known of tickets
that have not been drawn. -/
structure Sound (n : Notices) : Prop where
  ascending : ∀ key, (n.waitingFor key).Pairwise (· < ·)
  lt_drawn : ∀ key, ∀ t ∈ n.waitingFor key, t < n.drawn
  one_key : ∀ key key' t, t ∈ n.waitingFor key → t ∈ n.waitingFor key' → key = key'
  given_lt : ∀ t ∈ n.given, t < n.drawn
  slot_eq : ∀ t, n.drawn ≤ t → n.slot t = []

theorem sound_new : Sound {} :=
  ⟨fun _ => .nil, nofun, nofun, nofun, fun _ _ => rfl⟩

/-- **A ticket hears of a change of its key**, unless it was given up. -/
theorem Sound.hears_tell (h : n.Sound) (ticket : Nat) (change : Change) :
    n.hears ticket (.tell change) =
      if ticket ∈ n.waitingFor change.key ∧ ticket ∉ n.given then [change] else [] := by
  have hnodup : (n.waitingFor change.key).Nodup := (h.ascending change.key).imp Nat.ne_of_lt
  have hlist : n.hears ticket (.tell change) = (((n.waitingFor change.key).filter fun t =>
      !n.given.contains t).filter fun t => t = ticket).map fun _ => change := by
    simp [hears, hearers, List.filter_map, Function.comp_def]
  have hone : ((n.waitingFor change.key).filter fun t => !n.given.contains t).Nodup :=
    hnodup.filter _
  rw [hlist, List.filter_eq, hone.count, List.map_replicate]
  by_cases hwaits : ticket ∈ n.waitingFor change.key ∧ ticket ∉ n.given
  · rw [if_pos hwaits, if_pos (by simpa using hwaits)]
    rfl
  · rw [if_neg hwaits, if_neg (by simpa using hwaits)]
    rfl

theorem drawn_turn (n : Notices) (a : Act) :
    (n.turn a).drawn = n.drawn + if a.isDraw then 1 else 0 := by
  cases a with
  | draw key => rfl
  | tell change => rfl
  | take t =>
    simp only [turn, take_snd]
    rfl
  | giveUp t =>
    simp only [turn]
    split <;> rfl

theorem given_turn (n : Notices) (a : Act) : (n.turn a).given =
    match a with
    | .giveUp t => if t < n.drawn then t :: n.given else n.given
    | _ => n.given := by
  cases a with
  | draw key => rfl
  | tell change => rfl
  | take t => simp only [turn, take_snd]
  | giveUp t =>
    simp only [turn]
    split <;> rfl

/-- Who waits for a key after an act: who waited before, until the key is told, and who draws. -/
theorem mem_waitingFor_turn {a : Act} : ticket ∈ (n.turn a).waitingFor key ↔
    ticket ∈ n.waitingFor key ∧ a.tells key = false ∨ a = .draw key ∧ ticket = n.drawn := by
  by_cases hkey : a.key? = some key
  · cases a with
    | draw other =>
      cases hkey
      simp [turn, Act.tells]
    | tell change =>
      cases hkey
      simp [turn, Act.tells]
    | giveUp t => cases hkey
    | take t => cases hkey
  · rw [waitingFor_turn_of_ne hkey]
    cases a with
    | draw other =>
      have hne : other ≠ key := fun heq => hkey (by rw [heq]; rfl)
      simp [Act.tells, hne]
    | tell change =>
      have hne : change.key ≠ key := fun heq => hkey (by rw [← heq]; rfl)
      simp [Act.tells, hne]
    | giveUp t => simp [Act.tells]
    | take t => simp [Act.tells]

theorem Sound.turn (h : n.Sound) (a : Act) : (n.turn a).Sound where
  ascending key := by
    by_cases hkey : a.key? = some key
    · cases a with
      | draw other =>
        cases hkey
        simp only [Notices.turn, waitingFor_draw_self, List.pairwise_append]
        refine ⟨h.ascending _, List.pairwise_singleton _ _, fun t ht t' ht' => ?_⟩
        rw [List.mem_singleton.1 ht']
        exact h.lt_drawn _ t ht
      | tell change =>
        cases hkey
        simp only [Notices.turn, waitingFor_tell_self]
        exact .nil
      | giveUp t => cases hkey
      | take t => cases hkey
    · rw [waitingFor_turn_of_ne hkey]
      exact h.ascending key
  lt_drawn key t ht := by
    rw [drawn_turn]
    rcases mem_waitingFor_turn.1 ht with ⟨ht, -⟩ | ⟨rfl, rfl⟩
    · exact Nat.lt_add_right _ (h.lt_drawn key t ht)
    · exact Nat.lt_succ_self _
  one_key key key' t ht ht' := by
    rcases mem_waitingFor_turn.1 ht with ⟨ht, -⟩ | ⟨rfl, rfl⟩ <;>
      rcases mem_waitingFor_turn.1 ht' with ⟨ht', -⟩ | ⟨heq, hnew⟩
    · exact h.one_key key key' t ht ht'
    · exact absurd (h.lt_drawn key t ht) (by omega)
    · exact absurd (h.lt_drawn key' _ ht') (Nat.lt_irrefl _)
    · exact Act.draw.inj heq
  given_lt t ht := by
    rw [drawn_turn]
    rw [given_turn] at ht
    cases a with
    | giveUp t' =>
      simp only at ht
      split at ht
      · next hlt =>
        rcases List.mem_cons.1 ht with rfl | ht
        · exact Nat.lt_add_right _ hlt
        · exact Nat.lt_add_right _ (h.given_lt t ht)
      · exact Nat.lt_add_right _ (h.given_lt t ht)
    | _ => exact Nat.lt_add_right _ (h.given_lt t ht)
  slot_eq t hle := by
    rw [drawn_turn] at hle
    have hold : n.drawn ≤ t := Nat.le_of_add_right_le hle
    rw [slot_turn]
    split
    · rfl
    · rw [h.slot_eq t hold, List.nil_append]
      cases a with
      | tell change =>
        rw [h.hears_tell, if_neg]
        exact fun hwaits => absurd (h.lt_drawn _ t hwaits.1) (Nat.not_lt.2 hold)
      | _ => rfl

theorem Sound.after (h : n.Sound) (acts : List Act) : (n.after acts).Sound := by
  induction acts generalizing n with
  | nil => exact h
  | cons a acts ih => exact ih (h.turn a)

/-! ## 5. What has been done since a ticket was drawn -/

/-- A ticket was drawn for a key, and all that was done since is of some kind. -/
def DrawnAndSince (p : Act → Prop) (acts : List Act) (key : String) (ticket : Nat) : Prop :=
  ∃ before later, acts = before ++ .draw key :: later ∧ draws before = ticket ∧ ∀ a ∈ later, p a

/-- A ticket was drawn for a key, and no change of the key has been told since. -/
def Stands (acts : List Act) (key : String) (ticket : Nat) : Prop :=
  DrawnAndSince (fun a => a.tells key = false) acts key ticket

/-- Nor has it been given up. -/
def Listens (acts : List Act) (key : String) (ticket : Nat) : Prop :=
  DrawnAndSince (fun a => a.tells key = false ∧ a ≠ .giveUp ticket) acts key ticket

theorem not_drawnAndSince_nil {p : Act → Prop} : ¬ DrawnAndSince p [] key ticket := by
  rintro ⟨before, later, hacts, -⟩
  exact absurd hacts.symm (List.append_ne_nil_of_right_ne_nil _ (List.cons_ne_nil _ _))

theorem drawnAndSince_concat {p : Act → Prop} {acts : List Act} {a : Act} :
    DrawnAndSince p (acts ++ [a]) key ticket ↔
      DrawnAndSince p acts key ticket ∧ p a ∨ a = .draw key ∧ ticket = draws acts := by
  constructor
  · rintro ⟨before, later, hacts, rfl, hsince⟩
    rcases List.eq_nil_or_concat later with rfl | ⟨later, a', rfl⟩
    · obtain ⟨rfl, hlast⟩ := List.append_inj' hacts rfl
      cases hlast
      exact Or.inr ⟨rfl, rfl⟩
    · rw [List.concat_eq_append, ← List.cons_append, ← List.append_assoc] at hacts
      obtain ⟨rfl, hlast⟩ := List.append_inj' hacts rfl
      cases hlast
      refine Or.inl ⟨⟨before, later, rfl, rfl, fun b hb => hsince b (by simp [hb])⟩, ?_⟩
      exact hsince a (by simp)
  · rintro (⟨⟨before, later, rfl, rfl, hsince⟩, ha⟩ | ⟨rfl, rfl⟩)
    · refine ⟨before, later ++ [a], by simp, rfl, fun b hb => ?_⟩
      rcases List.mem_append.1 hb with hb | hb
      · exact hsince b hb
      · rw [List.mem_singleton.1 hb]
        exact ha
    · exact ⟨acts, [], rfl, rfl, nofun⟩

theorem drawn_after (acts : List Act) : (after {} acts).drawn = draws acts := by
  induction acts using List.reverseRecOn with
  | nil => rfl
  | append_singleton acts a ih => rw [after_concat, drawn_turn, draws_concat, ih]

/-- **Those wait for a key that were drawn for it since it was last told.** -/
theorem mem_waitingFor_iff {acts : List Act} :
    ticket ∈ (after {} acts).waitingFor key ↔ Stands acts key ticket := by
  induction acts using List.reverseRecOn with
  | nil => exact ⟨nofun, fun h => absurd h not_drawnAndSince_nil⟩
  | append_singleton acts a ih =>
    rw [after_concat, mem_waitingFor_turn, ih, drawn_after]
    exact drawnAndSince_concat.symm

theorem not_mem_given_turn {a : Act} (h : ticket < n.drawn) :
    ticket ∉ (n.turn a).given ↔ ticket ∉ n.given ∧ a ≠ .giveUp ticket := by
  rw [given_turn]
  cases a with
  | giveUp t =>
    by_cases ht : t = ticket
    · subst ht
      simp [h]
    · simp only [ne_eq, Act.giveUp.injEq, ht, not_false_iff, and_true]
      split
      · simp [Ne.symm ht]
      · rfl
  | _ => simp

/-- **Those of them listen that have not been given up.** -/
theorem listens_iff {acts : List Act} : Listens acts key ticket ↔
    ticket ∈ (after {} acts).waitingFor key ∧ ticket ∉ (after {} acts).given := by
  induction acts using List.reverseRecOn with
  | nil => exact ⟨fun h => absurd h not_drawnAndSince_nil, nofun⟩
  | append_singleton acts a ih =>
    have hsound : (after {} acts).Sound := sound_new.after acts
    rw [after_concat, mem_waitingFor_turn, or_and_right]
    refine drawnAndSince_concat.trans (or_congr ?_ ?_)
    · constructor
      · rintro ⟨hlistens, htells, hkept⟩
        obtain ⟨hwaits, hgiven⟩ := ih.1 hlistens
        exact ⟨⟨hwaits, htells⟩,
          (not_mem_given_turn (hsound.lt_drawn key ticket hwaits)).2 ⟨hgiven, hkept⟩⟩
      · rintro ⟨⟨hwaits, htells⟩, hgiven⟩
        obtain ⟨hgiven, hkept⟩ := (not_mem_given_turn (hsound.lt_drawn key ticket hwaits)).1 hgiven
        exact ⟨ih.2 ⟨hwaits, hgiven⟩, htells, hkept⟩
    · rw [drawn_after]
      constructor
      · rintro ⟨rfl, rfl⟩
        refine ⟨⟨rfl, rfl⟩, fun hgiven => ?_⟩
        rw [given_turn, ← drawn_after] at hgiven
        exact absurd (hsound.given_lt _ hgiven) (Nat.lt_irrefl _)
      · exact And.left

/-! ## 6. The life of a ticket -/

/-- A ticket that has been given up hears nothing, nor does one that does not wait. -/
theorem hears_eq_nil (h : ticket ∈ n.given ∨ ∀ key, ticket ∉ n.waitingFor key) (a : Act) :
    n.hears ticket a = [] := by
  cases a with
  | tell change =>
    simp only [hears, hearers, List.map_eq_nil_iff, List.filter_eq_nil_iff, List.mem_map,
      List.mem_filter]
    rintro e ⟨t, ⟨hwaits, hlistens⟩, rfl⟩ heq
    obtain rfl : t = ticket := of_decide_eq_true heq
    rcases h with hgiven | hnot
    · simp [hgiven] at hlistens
    · exact hnot _ hwaits
  | _ => rfl

/-- The holder of a ticket finds something only by a look at it. -/
theorem finds_of_ne {a : Act} (h : a ≠ .take ticket) : n.finds ticket a = [] := by
  cases a with
  | take t => simp only [finds, if_neg fun ht : t = ticket => h (by rw [ht])]
  | _ => rfl

theorem finds_take (n : Notices) (ticket : Nat) :
    n.finds ticket (.take ticket) = (n.slot ticket).head?.toList := by
  simp only [finds, if_pos, take_fst]
  cases n.slot ticket with
  | nil => cases n.isWaiting ticket <;> rfl
  | cons change rest => rfl

theorem finds_of_slot_eq_nil (h : n.slot ticket = []) (a : Act) : n.finds ticket a = [] := by
  by_cases htake : a = .take ticket
  · rw [htake, finds_take, h]
    rfl
  · exact finds_of_ne htake

/-- A ticket that hears nothing any more, or not yet. -/
structure Silent (n : Notices) (ticket : Nat) (acts : List Act) : Prop where
  slot_eq : n.slot ticket = []
  deaf : ticket ∈ n.given ∨ (∀ key, ticket ∉ n.waitingFor key) ∧
    (ticket < n.drawn ∨ n.drawn + draws acts ≤ ticket)

theorem Silent.hears_eq {acts : List Act} (h : Silent n ticket acts) (a : Act) :
    n.hears ticket a = [] :=
  hears_eq_nil (h.deaf.imp_right And.left) a

theorem Silent.turn {a : Act} {acts : List Act} (h : Silent n ticket (a :: acts)) :
    Silent (n.turn a) ticket acts where
  slot_eq := by
    rw [slot_turn, h.hears_eq, h.slot_eq]
    exact ite_self _
  deaf := by
    rcases h.deaf with hgiven | ⟨hnot, htime⟩
    · left
      rw [given_turn]
      cases a with
      | giveUp t =>
        simp only
        split
        · exact List.mem_cons_of_mem t hgiven
        · exact hgiven
      | _ => exact hgiven
    · right
      have hdraws : draws (a :: acts) = draws acts + if a.isDraw then 1 else 0 := List.countP_cons
      rw [hdraws] at htime
      rw [drawn_turn]
      refine ⟨fun key hwaits => ?_, htime.imp (Nat.lt_add_right _) (by omega)⟩
      rcases mem_waitingFor_turn.1 hwaits with ⟨hold, -⟩ | ⟨rfl, rfl⟩
      · exact hnot key hold
      · simp [Act.isDraw] at htime

/-- **It has nothing to find.** -/
theorem Silent.run {acts : List Act} (h : Silent n ticket acts) :
    n.heard ticket acts = [] ∧ n.found ticket acts = [] := by
  induction acts generalizing n with
  | nil => exact ⟨rfl, rfl⟩
  | cons a acts ih =>
    obtain ⟨hheard, hfound⟩ := ih h.turn
    rw [heard, found, hheard, hfound, h.hears_eq, finds_of_slot_eq_nil h.slot_eq]
    exact ⟨rfl, rfl⟩

/-- A ticket that waits no more, and what is in its slot. -/
structure Past (n : Notices) (ticket : Nat) (slot : List Change) : Prop where
  slot_eq : n.slot ticket = slot
  not_waiting : ∀ key, ticket ∉ n.waitingFor key
  lt_drawn : ticket < n.drawn

variable {slot : List Change} {change : Change}

theorem Past.hears_eq (h : n.Past ticket slot) (a : Act) : n.hears ticket a = [] :=
  hears_eq_nil (Or.inr h.not_waiting) a

theorem Past.silent (h : n.Past ticket []) (acts : List Act) : Silent n ticket acts :=
  ⟨h.slot_eq, Or.inr ⟨h.not_waiting, Or.inl h.lt_drawn⟩⟩

/-- Its slot is emptied by a look, or by giving the ticket up. -/
theorem Past.turn (h : n.Past ticket slot) (a : Act) :
    (n.turn a).Past ticket (if a = .take ticket ∨ a = .giveUp ticket then [] else slot) where
  slot_eq := by
    rw [slot_turn, h.hears_eq, h.slot_eq, List.append_nil]
    simp only [h.lt_drawn, and_true]
  not_waiting := by
    intro key hwaits
    rcases mem_waitingFor_turn.1 hwaits with ⟨hold, -⟩ | ⟨-, rfl⟩
    · exact h.not_waiting key hold
    · exact Nat.lt_irrefl _ h.lt_drawn
  lt_drawn := by
    rw [drawn_turn]
    exact Nat.lt_add_right _ h.lt_drawn

theorem Past.take_eq (h : n.Past ticket slot) :
    (n.take ticket).1 = match slot with
      | change :: _ => .told change
      | [] => .closed := by
  have hwaiting : n.isWaiting ticket = false := by
    rw [← Bool.not_eq_true, isWaiting_iff]
    exact fun ⟨key, hwaits⟩ => h.not_waiting key hwaits
  rw [take_fst, h.slot_eq, hwaiting]
  cases slot <;> rfl

theorem Past.closed (h : n.Past ticket []) (acts : List Act) :
    ((n.after acts).take ticket).1 = .closed := by
  induction acts generalizing n with
  | nil => exact h.take_eq
  | cons a acts ih =>
    have hturn := h.turn a
    rw [ite_self] at hturn
    exact ih hturn

/-- **A change that was told is found by the next look, and by no other.** -/
theorem Past.run (h : n.Past ticket [change]) (acts : List Act) :
    n.heard ticket acts = [] ∧
    n.found ticket acts =
      (if .take ticket ∈ acts.takeWhile (· ≠ .giveUp ticket) then [change] else []) ∧
    (.giveUp ticket ∉ acts →
      ((n.after acts).take ticket).1 = if .take ticket ∈ acts then .closed else .told change) := by
  induction acts generalizing n with
  | nil => exact ⟨rfl, rfl, fun _ => h.take_eq⟩
  | cons a acts ih =>
    have hturn := h.turn a
    rw [heard, found, h.hears_eq]
    by_cases htake : a = .take ticket
    · subst htake
      rw [if_pos (Or.inl rfl)] at hturn
      obtain ⟨hheard, hfound⟩ := (hturn.silent acts).run
      rw [hheard, hfound, finds_take, h.slot_eq]
      refine ⟨rfl, by simp, fun _ => ?_⟩
      rw [if_pos List.mem_cons_self]
      exact hturn.closed acts
    · rw [finds_of_ne htake]
      by_cases hkept : a = .giveUp ticket
      · subst hkept
        rw [if_pos (Or.inr rfl)] at hturn
        obtain ⟨hheard, hfound⟩ := (hturn.silent acts).run
        rw [hheard, hfound]
        exact ⟨rfl, by simp, fun hnever => absurd List.mem_cons_self hnever⟩
      · rw [if_neg (by simp [htake, hkept])] at hturn
        obtain ⟨hheard, hfound, hlook⟩ := ih hturn
        have hlater : Act.take ticket ∈ a :: acts ↔ Act.take ticket ∈ acts := by
          simp [Ne.symm htake]
        rw [hheard, hfound]
        refine ⟨rfl, by simp [hkept, Ne.symm htake], fun hnever => ?_⟩
        simp only [hlater]
        exact hlook fun hmem => hnever (List.mem_cons_of_mem a hmem)

/-- A ticket that waits for a key, and has heard of nothing. -/
structure Waits (n : Notices) (key : String) (ticket : Nat) : Prop where
  sound : n.Sound
  waits : ticket ∈ n.waitingFor key
  not_given : ticket ∉ n.given
  slot_eq : n.slot ticket = []

theorem Sound.waits_draw (h : n.Sound) (key : String) : (n.draw key).2.Waits key n.drawn := by
  refine ⟨h.turn (.draw key), ?_, fun hgiven => ?_, h.slot_eq n.drawn (Nat.le_refl _)⟩
  · rw [waitingFor_draw_self]
    exact List.mem_append_right _ List.mem_cons_self
  · exact Nat.lt_irrefl _ (h.given_lt n.drawn hgiven)

theorem Waits.lt_drawn (h : n.Waits key ticket) : ticket < n.drawn :=
  h.sound.lt_drawn key ticket h.waits

theorem Waits.hears_eq (h : n.Waits key ticket) (a : Act) :
    n.hears ticket a = (firstTell key [a]).toList.map Prod.fst := by
  cases a with
  | tell change =>
    rw [h.sound.hears_tell]
    by_cases hkey : change.key = key
    · rw [if_pos ⟨hkey ▸ h.waits, h.not_given⟩]
      simp [firstTell, hkey]
    · rw [if_neg fun hw => hkey (h.sound.one_key _ _ _ hw.1 h.waits)]
      simp [firstTell, hkey]
  | _ => rfl

/-- It goes on waiting until its key is told, or it is given up. -/
theorem Waits.turn (h : n.Waits key ticket) {a : Act} (htells : a.tells key = false)
    (hkept : a ≠ .giveUp ticket) : (n.turn a).Waits key ticket := by
  refine ⟨h.sound.turn a, mem_waitingFor_turn.2 (Or.inl ⟨h.waits, htells⟩),
    (not_mem_given_turn h.lt_drawn).2 ⟨h.not_given, hkept⟩, ?_⟩
  have hhears : n.hears ticket a = [] := by
    rw [h.hears_eq]
    cases a with
    | tell change =>
      have hne : change.key ≠ key := of_decide_eq_false htells
      simp [firstTell, hne]
    | _ => rfl
  rw [slot_turn, h.slot_eq, hhears]
  exact ite_self _

/-- **A change of its key is put in its slot.** -/
theorem Waits.told (h : n.Waits key ticket) (hkey : change.key = key) :
    (n.turn (.tell change)).Past ticket [change] where
  slot_eq := by
    rw [slot_turn, if_neg (by simp), h.slot_eq, h.hears_eq]
    simp [firstTell, hkey]
  not_waiting := by
    intro other hwaits
    rcases mem_waitingFor_turn.1 hwaits with ⟨hold, htells⟩ | ⟨hdraw, -⟩
    · obtain rfl := h.sound.one_key _ _ _ h.waits hold
      simp [Act.tells, hkey] at htells
    · cases hdraw
  lt_drawn := h.lt_drawn

theorem Waits.given (h : n.Waits key ticket) (acts : List Act) :
    Silent (n.turn (.giveUp ticket)) ticket acts := by
  refine ⟨?_, Or.inl ?_⟩
  · rw [slot_turn, if_pos (Or.inr ⟨rfl, h.lt_drawn⟩)]
  · rw [given_turn]
    simp only [if_pos h.lt_drawn, List.mem_cons_self]

theorem firstTell_cons_of_tells {a : Act} (acts : List Act) (h : a.tells key = true) :
    ∃ change, a = .tell change ∧ change.key = key ∧
      firstTell key (a :: acts) = some (change, acts) := by
  cases a with
  | tell change =>
    have hkey : change.key = key := of_decide_eq_true h
    exact ⟨change, rfl, hkey, by rw [firstTell, if_pos hkey]⟩
  | _ => cases h

theorem firstTell_cons_of_not_tells {a : Act} (acts : List Act) (h : a.tells key = false) :
    firstTell key (a :: acts) = firstTell key acts := by
  cases a with
  | tell change => rw [firstTell, if_neg (of_decide_eq_false h)]
  | _ => rfl

/-- What becomes of a ticket for a key when this is done after it was drawn: the first change of
the key that is told before the ticket is given up is what it hears, and what its holder finds. -/
def Fate (n : Notices) (key : String) (ticket : Nat) (acts : List Act) : Prop :=
  match firstTell key (acts.takeWhile (· ≠ .giveUp ticket)) with
  | none => n.heard ticket acts = [] ∧ n.found ticket acts = [] ∧
      (.giveUp ticket ∉ acts → ((n.after acts).take ticket).1 = .waiting)
  | some (change, later) => n.heard ticket acts = [change] ∧
      n.found ticket acts = (if .take ticket ∈ later then [change] else []) ∧
      (.giveUp ticket ∉ acts →
        ((n.after acts).take ticket).1 = if .take ticket ∈ later then .closed else .told change)

/-- What makes no difference to a ticket makes none to its fate. -/
theorem Fate.cons {a : Act} {acts : List Act} (h : (n.turn a).Fate key ticket acts)
    (hhears : n.hears ticket a = []) (hfinds : n.finds ticket a = [])
    (hkept : a ≠ .giveUp ticket) (htells : a.tells key = false) :
    n.Fate key ticket (a :: acts) := by
  have hnever : .giveUp ticket ∉ a :: acts → .giveUp ticket ∉ acts := fun hnot hmem =>
    hnot (List.mem_cons_of_mem a hmem)
  have hheard : n.heard ticket (a :: acts) = (n.turn a).heard ticket acts := by
    rw [heard, hhears, List.nil_append]
  have hfound : n.found ticket (a :: acts) = (n.turn a).found ticket acts := by
    rw [found, hfinds, List.nil_append]
  rw [Fate, List.takeWhile_cons_of_pos (by simpa using hkept),
    firstTell_cons_of_not_tells _ htells, hheard, hfound]
  rw [Fate] at h
  split at h <;> exact ⟨h.1, h.2.1, fun hnot => h.2.2 (hnever hnot)⟩

/-- **A ticket that waits hears of the next change of its key, and of no other.** -/
theorem Waits.fate (h : n.Waits key ticket) (acts : List Act) : n.Fate key ticket acts := by
  induction acts generalizing n with
  | nil =>
    have hwaiting : n.isWaiting ticket = true := isWaiting_iff.2 ⟨key, h.waits⟩
    refine ⟨rfl, rfl, fun _ => ?_⟩
    rw [after, List.foldl_nil, take_fst, h.slot_eq, hwaiting]
    rfl
  | cons a acts ih =>
    have hfinds := finds_of_slot_eq_nil h.slot_eq a
    by_cases hkept : a = .giveUp ticket
    · subst hkept
      obtain ⟨hheard, hfound⟩ := (h.given acts).run
      rw [Fate, List.takeWhile_cons_of_neg (by simp)]
      refine ⟨?_, ?_, fun hnever => absurd List.mem_cons_self hnever⟩
      · rw [heard, hheard]
        rfl
      · rw [found, hfound, hfinds]
        rfl
    · cases htells : a.tells key with
      | true =>
        obtain ⟨change, rfl, hkey, hfirst⟩ := firstTell_cons_of_tells
          (acts.takeWhile (· ≠ .giveUp ticket)) htells
        obtain ⟨hheard, hfound, hlook⟩ := (h.told hkey).run acts
        rw [Fate, List.takeWhile_cons_of_pos (by simp), hfirst]
        refine ⟨?_, ?_, fun hnever => ?_⟩
        · rw [heard, hheard, h.hears_eq]
          simp [firstTell, hkey]
        · rw [found, hfound, hfinds]
          rfl
        · have hnot : .giveUp ticket ∉ acts := fun hmem => hnever (List.mem_cons_of_mem _ hmem)
          have hall : acts.takeWhile (· ≠ .giveUp ticket) = acts := by
            rw [List.takeWhile_eq_self_iff]
            exact fun b hb => decide_eq_true fun heq => hnot (heq ▸ hb)
          rw [hall]
          exact hlook hnot
      | false =>
        have hhears : n.hears ticket a = [] := by
          rw [h.hears_eq, firstTell_cons_of_not_tells [] htells]
          rfl
        exact (ih (h.turn htells hkept)).cons hhears hfinds hkept htells

/-! ## 7. All together -/

theorem ncard_eq_length {l : List Nat} (hl : l.Pairwise (· < ·)) {p : Nat → Prop}
    (hmem : ∀ t, p t ↔ t ∈ l) : {t | p t}.ncard = l.length := by
  have hset : {t | p t} = (l.toFinset : Set Nat) := by
    ext t
    simp [hmem t]
  rw [hset, Set.ncard_coe_finset, List.toFinset_card_of_nodup (hl.imp Nat.ne_of_lt)]

/-- Before a ticket is drawn nothing is known of it. -/
theorem silent_new (acts : List Act) : Silent {} (draws acts) acts :=
  ⟨rfl, Or.inr ⟨nofun, Or.inr (Nat.le_of_eq (Nat.zero_add _))⟩⟩

/-- **Notices are one-shot.**  Whatever is done, each ticket hears of the first change of its key
that is told after it was drawn, unless it was given up before, and of no other; its holder finds
that change once.  A change is told to just those that listen, tickets that were given up are
counted until their key is told, and what is done about one key changes nothing about another. -/
theorem one_shot (acts : List Act) :
    let n := after {} acts
    (∀ before key later, acts = before ++ .draw key :: later →
      let ticket := draws before
      ((after {} before).draw key).1 = ticket ∧
      match firstTell key (later.takeWhile (· ≠ .giveUp ticket)) with
      | none => heard {} ticket acts = [] ∧ found {} ticket acts = [] ∧
          (.giveUp ticket ∉ later → (n.take ticket).1 = .waiting)
      | some (change, rest) => heard {} ticket acts = [change] ∧
          found {} ticket acts = (if .take ticket ∈ rest then [change] else []) ∧
          (.giveUp ticket ∉ later →
            (n.take ticket).1 = if .take ticket ∈ rest then .closed else .told change)) ∧
    (∀ key, n.count key = {t | Stands acts key t}.ncard) ∧
    (∀ change, (n.tell change).1 = {t | Listens acts change.key t}.ncard) ∧
    ∀ a key, a.key? ≠ some key → (n.turn a).waitingFor key = n.waitingFor key := by
  intro n
  have hsound : n.Sound := sound_new.after acts
  refine ⟨?_, fun key => ?_, fun change => ?_, fun a key => waitingFor_turn_of_ne⟩
  · rintro before key later hacts ticket
    have hdrawn : (after {} before).drawn = ticket := drawn_after before
    obtain ⟨hheard, hfound⟩ := (silent_new before).run
    have hafter : n = (((after {} before).draw key).2).after later := by
      rw [show n = after {} acts from rfl, hacts, after_append]
      rfl
    have hheard' : heard {} ticket acts = (((after {} before).draw key).2).heard ticket later := by
      rw [hacts, heard_append, hheard]
      rfl
    have hfound' : found {} ticket acts = (((after {} before).draw key).2).found ticket later := by
      rw [hacts, found_append, hfound]
      rfl
    have hfate := ((sound_new.after before).waits_draw key).fate later
    rw [hdrawn, Fate] at hfate
    rw [hheard', hfound', hafter]
    exact ⟨hdrawn, hfate⟩
  · exact (ncard_eq_length (hsound.ascending key) fun t => mem_waitingFor_iff.symm).symm
  · have hlisten := (hsound.ascending change.key).filter fun t => !n.given.contains t
    refine (ncard_eq_length hlisten fun t => ?_).symm
    rw [listens_iff]
    simp [n]

/-- Two tickets for one key and one for another; the first is given up, the last one is served. -/
def threeTickets : List Act :=
  [.draw "k", .draw "j", .draw "k", .giveUp 0, .tell ⟨.delete, "k", none, none⟩, .take 2,
    .tell ⟨.set, "k", none, none⟩, .take 2]

theorem one_shot_threeTickets :
    heard {} 0 threeTickets = [] ∧
    heard {} 2 threeTickets = [⟨.delete, "k", none, none⟩] ∧
    found {} 2 threeTickets = [⟨.delete, "k", none, none⟩] ∧
    ((after {} threeTickets).take 2).1 = .closed ∧
    ((after {} threeTickets).take 1).1 = .waiting ∧
    {t | Stands (threeTickets.take 4) "k" t}.ncard = 2 ∧
    {t | Listens (threeTickets.take 4) "k" t}.ncard = 1 := by
  obtain ⟨hticket, -⟩ := one_shot threeTickets
  obtain ⟨-, hcount, htell, -⟩ := one_shot (threeTickets.take 4)
  obtain ⟨-, hfirst, -⟩ := hticket [] "k" (threeTickets.drop 1) rfl
  obtain ⟨-, -, -, hwaits⟩ := hticket [.draw "k"] "j" (threeTickets.drop 2) rfl
  obtain ⟨-, hheard, hfound, hlook⟩ :=
    hticket [.draw "k", .draw "j"] "k" (threeTickets.drop 3) rfl
  refine ⟨hfirst, hheard, hfound, hlook (by decide), hwaits (by decide), ?_, ?_⟩
  · rw [← hcount "k"]
    decide +kernel
  · rw [← htell ⟨.delete, "k", none, none⟩]
    decide +kernel

end Notices

end Replica
