/-
# Files side by side

The files of a node stand in one directory.  What is done with the snapshot and its draft leaves
the log alone (`Stands.step`), whatever the directory is called: files of one directory differ in
their texts where their names do, and no text of a path above them is as long.
-/

import Replica.Proofs.Codec.Lines
import Replica.Settings

namespace Replica

/-! ## 1. Texts of paths -/

namespace Path

theorem toText_concat {dir : Path} (name : String) (h : dir ≠ []) :
    toText (dir ++ [name]) = dir.toText ++ "/" ++ name := by
  unfold toText
  rw [String.intercalate_append_of_ne_nil h (List.cons_ne_nil _ _)]
  rfl

theorem toText_concat_inj {dir : Path} {name other : String}
    (h : toText (dir ++ [name]) = toText (dir ++ [other])) : name = other := by
  by_cases hd : dir = []
  · subst hd
    exact h
  · rw [toText_concat name hd, toText_concat other hd] at h
    exact (String.append_right_inj _).1 h

theorem length_toText_le (p q : Path) : p.toText.length ≤ (toText (p ++ q)).length := by
  by_cases hp : p = []
  · subst hp
    exact Nat.zero_le _
  · by_cases hq : q = []
    · subst hq
      exact Nat.le_of_eq (by rw [List.append_nil])
    · unfold toText
      rw [String.intercalate_append_of_ne_nil hp hq]
      simp only [String.length_append]
      omega

theorem length_toText_lt (dir : Path) {name : String} (h : name ≠ "") :
    dir.toText.length < (toText (dir ++ [name])).length := by
  by_cases hd : dir = []
  · subst hd
    exact Nat.pos_of_ne_zero fun hz => h (String.length_eq_zero_iff.1 hz)
  · rw [toText_concat name hd]
    simp only [String.length_append]
    have hslash : "/".length = 1 := rfl
    omega

/-- **A file does not have the text of its directory**, nor of one above it. -/
theorem toText_concat_ne_take (dir : Path) {name : String} (h : name ≠ "") (k : Nat) :
    toText (dir ++ [name]) ≠ toText (dir.take k) := by
  intro heq
  have hle := length_toText_le (dir.take k) (dir.drop k)
  have hlt := length_toText_lt dir h
  rw [List.take_append_drop] at hle
  rw [heq] at hlt
  omega

theorem toText_ne_of_mem_above {dir p : Path} {name other : String} (h : name ≠ "")
    (hp : p ∈ Disk.above (dir ++ [other])) : p.toText ≠ toText (dir ++ [name]) := by
  unfold Disk.above at hp
  obtain ⟨k, hk, rfl⟩ := List.mem_map.1 hp
  have hk' : k ≤ dir.length := by
    have hlt := List.mem_range.1 hk
    rw [List.length_append] at hlt
    exact Nat.le_of_lt_succ hlt
  rw [List.take_append_of_le_length hk']
  exact (toText_concat_ne_take dir h k).symm

/-! ## 2. Paths by their texts -/

/-- A name that is one step of a path. -/
structure Plain (name : String) : Prop where
  slash_not_mem : '/' ∉ name.toList
  ne_empty : name ≠ ""
  ne_dot : name ≠ "."
  ne_dots : name ≠ ".."

/-- One step along a path. -/
def enter (path : Path) (name : String) : Path :=
  if name = "" || name = "." then path
  else if name = ".." then path.dropLast
  else path ++ [name]

theorem ofText_eq (s : String) :
    ofText s =
      (Text.pieces (· = '/') s.toList).foldl (fun p cs => enter p (String.ofList cs)) [] := by
  unfold ofText
  rw [List.foldl_map]
  rfl

theorem ne_empty_of_mem_enter {p : Path} {name n : String} (hp : ∀ n ∈ p, n ≠ "")
    (hn : n ∈ enter p name) : n ≠ "" := by
  unfold enter at hn
  split at hn
  · exact hp n hn
  · next hne =>
    split at hn
    · exact hp n ((List.dropLast_sublist p).subset hn)
    · rcases List.mem_append.1 hn with hn | hn
      · exact hp n hn
      · rw [List.mem_singleton.1 hn]
        intro hempty
        simp [hempty] at hne

/-- **No step of a path is empty.** -/
theorem ne_empty_of_mem_ofText {s name : String} (h : name ∈ ofText s) : name ≠ "" := by
  rw [ofText_eq] at h
  generalize hstart : ([] : Path) = p at h
  have hp : ∀ n ∈ p, n ≠ "" := by simp [← hstart]
  clear hstart
  generalize Text.pieces (· = '/') s.toList = css at h
  induction css generalizing p with
  | nil => exact hp name h
  | cons cs css ih => exact ih _ (fun n hn => ne_empty_of_mem_enter hp hn) h

theorem enter_of_plain (path : Path) {name : String} (h : Plain name) :
    enter path name = path ++ [name] := by
  simp [enter, h.ne_empty, h.ne_dot, h.ne_dots]

theorem pieces_of_plain {name : String} (h : Plain name) :
    Text.pieces (· = '/') name.toList = [name.toList] :=
  Text.pieces_eq_singleton fun c hc => by
    rw [decide_eq_false_iff_not]
    exact fun heq => h.slash_not_mem (heq ▸ hc)

theorem pieces_slash (cs ds : List Char) :
    Text.pieces (· = '/') (cs ++ '/' :: ds) =
      Text.pieces (· = '/') cs ++ Text.pieces (· = '/') ds :=
  Text.pieces_append_separator cs ds (decide_eq_true rfl)

/-- A name behind a slash. -/
theorem ofText_append_slash (dir : String) {name : String} (h : Plain name) :
    ofText (dir ++ "/" ++ name) = ofText dir ++ [name] := by
  have hchars : (dir ++ "/" ++ name).toList = dir.toList ++ '/' :: name.toList := by simp
  rw [ofText_eq, hchars, pieces_slash, pieces_of_plain h, List.foldl_append, ← ofText_eq]
  simp only [List.foldl_cons, List.foldl_nil, String.ofList_toList]
  exact enter_of_plain _ h

/-- **A file in a directory is one step from it.** -/
theorem ofText_inDirectory (dir : String) {name : String} (h : Plain name) :
    ofText (Settings.inDirectory dir name) = ofText dir ++ [name] := by
  unfold Settings.inDirectory
  split
  · next hdir =>
    rcases Bool.or_eq_true_iff.1 hdir with hempty | hslash
    · have hdir : dir = "" := by simpa using hempty
      rw [hdir, String.empty_append, ofText_eq, pieces_of_plain h]
      simp only [List.foldl_cons, List.foldl_nil, String.ofList_toList]
      exact enter_of_plain _ h
    · -- the last step of the directory is the empty one behind its slash
      have hlast : dir.toList.getLast? = some '/' := of_decide_eq_true hslash
      obtain ⟨cs, hcs⟩ := List.getLast?_eq_some_iff.1 hlast
      have hfront : dir = String.ofList cs ++ "/" := by
        rw [← String.toList_inj, hcs]
        simp
      have hdirpath : ofText dir = ofText (String.ofList cs) := by
        rw [ofText_eq, hcs, pieces_slash, List.foldl_append, ofText_eq, String.toList_ofList]
        rfl
      rw [hdirpath, hfront]
      exact ofText_append_slash _ h
  · exact ofText_append_slash dir h

end Path

/-! ## 3. What stands where -/

namespace Disk

theorem get?_of_ne_nil (d : Disk) {p : Path} (h : p ≠ []) :
    d.get? p = d.entries.get? p.toText := if_neg h

theorem get?_put_self (d : Disk) {p : Path} (entry : DiskEntry) (h : p ≠ []) :
    (d.put p entry).get? p = some entry := by
  rw [get?_of_ne_nil _ h]
  exact d.entries.get?_insert_self _ _

theorem get?_put_of_ne (d : Disk) {p q : Path} (entry : DiskEntry) (h : p.toText ≠ q.toText) :
    (d.put q entry).get? p = d.get? p := by
  unfold get?
  split
  · rfl
  · exact d.entries.get?_insert_of_ne _ h

theorem get?_erase_of_ne (d : Disk) {p q : Path} (h : p.toText ≠ q.toText) :
    (d.erase q).get? p = d.get? p := by
  unfold get?
  split
  · rfl
  · exact d.entries.get?_erase_of_ne h

/-- **What stands somewhere is not disturbed by what is made where nothing stood.** -/
theorem get?_put_of_none {d : Disk} {p q : Path} {e : DiskEntry} (entry : DiskEntry)
    (hp : d.get? p = some e) (hq : d.get? q = none) : (d.put q entry).get? p = some e := by
  by_cases hnil : p = []
  · subst hnil
    exact hp
  have hq' : q ≠ [] := by
    rintro rfl
    cases hq
  rw [get?_put_of_ne, hp]
  intro heq
  rw [get?_of_ne_nil d hnil, heq, ← get?_of_ne_nil d hq', hq] at hp
  cases hp

theorem walkFault?_eq_none_iff {d : Disk} {p : Path} :
    d.walkFault? p = none ↔ ∀ q ∈ above p, d.get? q = some .directory := by
  unfold walkFault?
  rw [List.findSome?_eq_none_iff]
  refine forall₂_congr fun q _ => ?_
  split
  · next h => simp [h]
  · next e hne h => simpa [h] using hne
  · next h => simp [h]

/-- **What stands somewhere and can be reached.** -/
structure Stands (d : Disk) (p : Path) (entry : DiskEntry) : Prop where
  get?_eq : d.get? p = some entry
  walkFault?_eq : d.walkFault? p = none

/-- A file that can be reached, with what is in it. -/
abbrev Holds (d : Disk) (p : Path) (content : Bytes) : Prop := d.Stands p (.file content)

variable {d d' : Disk} {p q : Path} {content : Bytes} {entry : DiskEntry}

theorem Holds.ne_nil (h : d.Holds p content) : p ≠ [] := by
  rintro rfl
  cases h.get?_eq

theorem Holds.read (h : d.Holds p content) : d.read p = .ok content := by
  simp only [Disk.read, h.walkFault?_eq, h.get?_eq]

/-- What is still where it was, below the directories that were there. -/
theorem Stands.of_same {entry' : DiskEntry} (h : d.Stands p entry)
    (hp : d'.get? p = some entry')
    (habove : ∀ q ∈ above p, d.get? q = some .directory → d'.get? q = some .directory) :
    d'.Stands p entry' :=
  ⟨hp, walkFault?_eq_none_iff.2 fun q hq =>
    habove q hq (walkFault?_eq_none_iff.1 h.walkFault?_eq q hq)⟩

/-! ### Directories -/

/-- Directories are made where nothing stands. -/
theorem get?_makeDirs_go {e : DiskEntry} {names : List String} {done : Path}
    (hp : d.get? p = some e) (h : makeDirs.go d done names = .ok d') : d'.get? p = some e := by
  induction names generalizing d done with
  | nil =>
    cases h
    exact hp
  | cons name rest ih =>
    unfold makeDirs.go at h
    simp only at h
    split at h
    · next hnone => exact ih (get?_put_of_none _ hp hnone) h
    · exact ih hp h
    · cases h

/-- Directories are made on the way only. -/
theorem get?_makeDirs_go_of_ne {names : List String} {done : Path}
    (hp : ∀ k, p.toText ≠ Path.toText ((done ++ names).take k))
    (h : makeDirs.go d done names = .ok d') : d'.get? p = d.get? p := by
  induction names generalizing d done with
  | nil =>
    cases h
    rfl
  | cons name rest ih =>
    have hsplit : done ++ name :: rest = done ++ [name] ++ rest := List.append_cons ..
    unfold makeDirs.go at h
    simp only at h
    split at h
    · have hhere : p.toText ≠ Path.toText (done ++ [name]) := by
        have hlen : (done ++ [name]).length = done.length + 1 := List.length_append
        have htake := hp (done.length + 1)
        rwa [hsplit, ← hlen, List.take_left] at htake
      rw [ih (hsplit ▸ hp) h, get?_put_of_ne _ _ hhere]
    · exact ih (hsplit ▸ hp) h
    · cases h

theorem get?_makeDirs_of_ne (hp : ∀ k, p.toText ≠ Path.toText (q.take k))
    (h : d.makeDirs q = .ok d') : d'.get? p = d.get? p := by
  refine get?_makeDirs_go_of_ne ?_ h
  exact hp

theorem get?_makeDirs {e : DiskEntry} (hp : d.get? p = some e) (h : d.makeDirs q = .ok d') :
    d'.get? p = some e := get?_makeDirs_go hp h

/-- Where all directories stand already none is made. -/
theorem makeDirs_go_of_directories {names : List String} {done : Path}
    (h : ∀ k < names.length, d.get? (done ++ names.take (k + 1)) = some .directory) :
    makeDirs.go d done names = .ok d := by
  induction names generalizing done with
  | nil => rfl
  | cons name rest ih =>
    have hhere : d.get? (done ++ [name]) = some .directory := by
      simpa using h 0 (Nat.zero_lt_succ _)
    unfold makeDirs.go
    simp only [hhere]
    refine ih fun k hk => ?_
    have hnext := h (k + 1) (Nat.succ_lt_succ hk)
    rwa [List.take_succ_cons, List.append_cons] at hnext

theorem Holds.makeDirs_parent (h : d.Holds p content) : d.makeDirs p.parent = .ok d := by
  have hlen : p.dropLast.length = p.length - 1 := List.length_dropLast
  refine makeDirs_go_of_directories fun k hk => ?_
  have hk' : k + 1 < p.length := by
    unfold Path.parent at hk
    omega
  have htake : p.parent.take (k + 1) = p.take (k + 1) := by
    unfold Path.parent
    rw [List.dropLast_eq_take, List.take_take]
    congr 1
    omega
  rw [List.nil_append, htake]
  exact walkFault?_eq_none_iff.1 h.walkFault?_eq _
    (List.mem_map.2 ⟨k + 1, List.mem_range.2 hk', rfl⟩)

theorem Stands.makeDirs (h : d.Stands p entry) (hmake : d.makeDirs q = .ok d') :
    d'.Stands p entry :=
  h.of_same (get?_makeDirs h.get?_eq hmake) fun _ _ hdir => get?_makeDirs hdir hmake

/-! ### The file itself -/

/-- **What is put where no directory stood stands there.** -/
theorem stands_put (hp : p ≠ []) (hwalk : d.walkFault? p = none)
    (hne : d.get? p ≠ some .directory) (entry : DiskEntry) : (d.put p entry).Stands p entry := by
  refine ⟨get?_put_self _ _ hp, walkFault?_eq_none_iff.2 fun q hq => ?_⟩
  have hdir := walkFault?_eq_none_iff.1 hwalk q hq
  by_cases hnil : q = []
  · subst hnil
    rfl
  rw [get?_put_of_ne, hdir]
  -- what is put here stands in the place of no directory above it
  intro heq
  rw [get?_of_ne_nil d hnil, heq, ← get?_of_ne_nil d hp] at hdir
  exact hne hdir

theorem Holds.put (h : d.Holds p content) (content' : Bytes) :
    (d.put p (.file content')).Holds p content' := by
  refine stands_put h.ne_nil h.walkFault?_eq ?_ _
  rw [h.get?_eq]
  simp

theorem Holds.append (h : d.Holds p content) (more : Bytes) :
    ∃ d', d.append p more = .ok d' ∧ d'.Holds p (content ++ more) := by
  refine ⟨d.put p (.file (content ++ more)), ?_, h.put _⟩
  simp only [Disk.append, h.get?_eq]

theorem Holds.openAppend (h : d.Holds p content) : d.openAppend p = .ok d := by
  simp only [Disk.openAppend, h.walkFault?_eq, h.get?_eq]

/-- A file is made where nothing stood. -/
theorem holds_of_openAppend_none (hnone : d.get? p = none) (h : d.openAppend p = .ok d') :
    d'.Holds p [] := by
  have hp : p ≠ [] := by
    rintro rfl
    cases hnone
  unfold Disk.openAppend at h
  split at h
  · cases h
  · next hwalk =>
    simp only [hnone, Except.ok.injEq] at h
    subst h
    exact stands_put hp hwalk (by simp [hnone]) _

/-- **A file that is opened anew is empty**, unless it is always full. -/
theorem stands_of_openNew (hp : p ≠ []) (h : d.openNew p = .ok d') :
    d'.Holds p [] ∨ d'.Stands p .full := by
  unfold openNew at h
  split at h
  · cases h
  · next hwalk =>
    split at h
    · cases h
    · next hfull =>
      obtain rfl := Except.ok.inj h
      exact Or.inr ⟨hfull, hwalk⟩
    · next hdir _ =>
      obtain rfl := Except.ok.inj h
      exact Or.inl (stands_put hp hwalk hdir _)

/-! ## 4. Files beside it -/

/-- Another file of the same directory. -/
def Beside (q p : Path) : Prop :=
  ∃ dir name other, q = dir ++ [name] ∧ p = dir ++ [other] ∧ name ≠ "" ∧ name ≠ other

theorem Beside.ne (h : Beside q p) : p.toText ≠ q.toText := by
  obtain ⟨dir, name, other, rfl, rfl, -, hne⟩ := h
  exact fun heq => hne (Path.toText_concat_inj heq.symm)

theorem Beside.ne_of_mem_above {a : Path} (h : Beside q p) (ha : a ∈ above p) :
    a.toText ≠ q.toText := by
  obtain ⟨dir, name, other, rfl, rfl, hname, -⟩ := h
  exact Path.toText_ne_of_mem_above hname ha

theorem Stands.put_beside (h : d.Stands p entry) (hq : Beside q p) (other : DiskEntry) :
    (d.put q other).Stands p entry := by
  refine h.of_same ?_ fun a ha hdir => ?_
  · rw [get?_put_of_ne _ _ hq.ne]
    exact h.get?_eq
  · rw [get?_put_of_ne _ _ (hq.ne_of_mem_above ha)]
    exact hdir

theorem Stands.erase_beside (h : d.Stands p entry) (hq : Beside q p) :
    (d.erase q).Stands p entry := by
  refine h.of_same ?_ fun a ha hdir => ?_
  · rw [get?_erase_of_ne _ hq.ne]
    exact h.get?_eq
  · rw [get?_erase_of_ne _ (hq.ne_of_mem_above ha)]
    exact hdir

theorem Beside.above_eq (h : Beside q p) : above q = above p := by
  obtain ⟨dir, name, other, rfl, rfl, -, -⟩ := h
  have htake : ∀ last : String, above (dir ++ [last]) =
      (List.range (dir.length + 1)).map dir.take := by
    intro last
    unfold above
    rw [List.length_append, List.length_singleton]
    refine List.map_congr_left fun k hk => ?_
    exact List.take_append_of_le_length (Nat.le_of_lt_succ (List.mem_range.1 hk))
  rw [htake, htake]

/-- Files of one directory can be reached alike. -/
theorem Beside.walkFault?_eq (h : Beside q p) (d : Disk) : d.walkFault? q = d.walkFault? p := by
  unfold walkFault?
  rw [h.above_eq]

theorem Beside.ne_nil (h : Beside q p) : q ≠ [] := by
  obtain ⟨dir, name, other, rfl, -, -, -⟩ := h
  exact List.append_ne_nil_of_right_ne_nil dir (List.cons_ne_nil name [])

/-- **What is renamed stands under its new name.** -/
theorem Stands.rename (h : d.Stands q entry) (hq : Beside q p) (hp : Beside p q) :
    ((d.erase q).put p entry).Stands p entry := by
  refine ⟨get?_put_self _ _ hp.ne_nil, walkFault?_eq_none_iff.2 fun a ha => ?_⟩
  have ha' : a ∈ above q := hq.above_eq ▸ ha
  rw [get?_put_of_ne _ _ (hp.ne_of_mem_above ha'), get?_erase_of_ne _ (hq.ne_of_mem_above ha)]
  exact walkFault?_eq_none_iff.1 h.walkFault?_eq a ha'

/-- Whether a step is about other files of the directory only. -/
def Step.Spares (p : Path) : Step → Prop
  | .makeDirs _ => True
  | .openNew q => Beside q p
  | .append q _ => Beside q p
  | .sync _ => True
  | .rename source target => Beside source p ∧ Beside target p

/-- **What is done with the files beside it leaves a file alone.** -/
theorem Stands.step {s : Step} (h : d.Stands p entry) (hs : s.Spares p)
    (hstep : d.step s = .ok d') : d'.Stands p entry := by
  cases s with
  | makeDirs q => exact h.makeDirs hstep
  | openNew q =>
    simp only [Disk.step, Disk.openNew] at hstep
    split at hstep
    · cases hstep
    · split at hstep
      · cases hstep
      · cases hstep
        exact h
      · cases hstep
        exact h.put_beside hs _
  | append q more =>
    simp only [Disk.step, Disk.append] at hstep
    split at hstep
    · cases hstep
      exact h.put_beside hs _
    · split at hstep
      · cases hstep
        exact h
      · cases hstep
    · cases hstep
      exact h
  | sync q =>
    simp only [Disk.step, Disk.sync] at hstep
    split at hstep
    · cases hstep
    · cases hstep
      exact h
  | rename source target =>
    simp only [Disk.step, Disk.rename] at hstep
    split at hstep
    · cases hstep
    · cases hstep
    · cases hstep
    · cases hstep
    · cases hstep
    · cases hstep
      exact (h.erase_beside hs.1).put_beside hs.2 _

/-- **What a list of steps has nothing to do with still stands behind it.** -/
theorem Stands.run {steps : List Step} (h : d.Stands p entry) (hsteps : ∀ s ∈ steps, s.Spares p) :
    (d.run steps).2.Stands p entry := by
  induction steps generalizing d with
  | nil => exact h
  | cons s rest ih =>
    unfold Disk.run
    cases hstep : d.step s with
    | error f => exact h
    | ok d₁ =>
      exact ih (h.step (hsteps s List.mem_cons_self) hstep)
        fun s' hs' => hsteps s' (List.mem_cons_of_mem s hs')

/-! ## 5. Files elsewhere -/

/-- Whether a step is about other texts than that of a path. -/
def Step.Misses (p : Path) : Step → Prop
  | .makeDirs q => ∀ k, p.toText ≠ Path.toText (q.take k)
  | .openNew q => p.toText ≠ q.toText
  | .append q _ => p.toText ≠ q.toText
  | .sync _ => True
  | .rename source target => p.toText ≠ source.toText ∧ p.toText ≠ target.toText

theorem get?_append_of_ne {more : Bytes} (h : p.toText ≠ q.toText)
    (happend : d.append q more = .ok d') : d'.get? p = d.get? p := by
  unfold append at happend
  split at happend
  · obtain rfl := Except.ok.inj happend
    exact get?_put_of_ne _ _ h
  · split at happend
    · obtain rfl := Except.ok.inj happend
      rfl
    · cases happend
  · obtain rfl := Except.ok.inj happend
    rfl

theorem get?_openNew_of_ne (h : p.toText ≠ q.toText) (hopen : d.openNew q = .ok d') :
    d'.get? p = d.get? p := by
  unfold openNew at hopen
  split at hopen
  · cases hopen
  · split at hopen
    · cases hopen
    · obtain rfl := Except.ok.inj hopen
      rfl
    · obtain rfl := Except.ok.inj hopen
      exact get?_put_of_ne _ _ h

theorem rename_eq_ok {source target : Path} (h : d.rename source target = .ok d') :
    ∃ e, d.get? source = some e ∧ d' = (d.erase source).put target e := by
  unfold rename at h
  split at h
  · cases h
  · cases h
  · cases h
  · cases h
  · cases h
  · next e hsource _ _ _ _ => exact ⟨e, hsource, (Except.ok.inj h).symm⟩

/-- **A step does not change what stands elsewhere.** -/
theorem get?_step_of_misses {s : Step} (h : s.Misses p) (hstep : d.step s = .ok d') :
    d'.get? p = d.get? p := by
  cases s with
  | makeDirs q => exact get?_makeDirs_of_ne h hstep
  | openNew q => exact get?_openNew_of_ne h hstep
  | append q more => exact get?_append_of_ne h hstep
  | sync q =>
    simp only [Disk.step, Disk.sync] at hstep
    split at hstep
    · cases hstep
    · obtain rfl := Except.ok.inj hstep
      rfl
  | rename source target =>
    obtain ⟨e, -, rfl⟩ := rename_eq_ok hstep
    rw [get?_put_of_ne _ _ h.2, get?_erase_of_ne _ h.1]

theorem get?_run_of_misses {steps : List Step} (h : ∀ s ∈ steps, s.Misses p) :
    (d.run steps).2.get? p = d.get? p := by
  induction steps generalizing d with
  | nil => rfl
  | cons s rest ih =>
    unfold run
    cases hstep : d.step s with
    | error f => rfl
    | ok d₁ =>
      have hrest := ih (d := d₁) fun s' hs' => h s' (List.mem_cons_of_mem s hs')
      exact hrest.trans (get?_step_of_misses (h s List.mem_cons_self) hstep)

end Disk

/-! ## 6. The log file -/

namespace Log

variable {d d' : Disk} {p : Path} {content : Bytes} {l : Log}

/-- **Opening a log leaves what stood there**, or makes a file. -/
theorem stands_openAt (hp : ∀ name ∈ p, name ≠ "") (h : openAt d p = (.ok l, d')) :
    l = ⟨p, true⟩ ∧ ((d.get? p = none ∧ d'.Holds p []) ∨
      ∃ entry, d.get? p = some entry ∧ entry ≠ .directory ∧ d'.Stands p entry) := by
  unfold openAt at h
  split at h
  · cases h
  next d₁ hmake =>
  split at h
  · cases h
  next d₂ hopen =>
  simp only [Prod.mk.injEq, Except.ok.injEq] at h
  obtain ⟨rfl, rfl⟩ := h
  refine ⟨rfl, ?_⟩
  have hsame : d₁.get? p = d.get? p := by
    by_cases hne : p = []
    · subst hne
      rfl
    · have hp' : p.dropLast ++ [p.getLast hne] = p := List.dropLast_concat_getLast hne
      have hname : p.getLast hne ≠ "" := hp _ (List.getLast_mem hne)
      refine Disk.get?_makeDirs_of_ne (fun k => ?_) hmake
      have htake := Path.toText_concat_ne_take p.dropLast hname k
      rwa [hp'] at htake
  rw [← hsame]
  cases hget : d₁.get? p with
  | none => exact Or.inl ⟨rfl, Disk.holds_of_openAppend_none hget hopen⟩
  | some entry =>
    unfold Disk.openAppend at hopen
    split at hopen
    · cases hopen
    · next hwalk =>
      simp only [hget] at hopen
      cases entry with
      | directory => cases hopen
      | _ =>
        obtain rfl := Except.ok.inj hopen
        exact Or.inr ⟨_, rfl, nofun, hget, hwalk⟩

/-- What a log finds where it is opened: nothing yet, or a file. -/
def Finds (d : Disk) (p : Path) (content : Bytes) : Prop :=
  (d.get? p = none ∧ content = []) ∨ d.get? p = some (.file content)

/-- **Opening a log keeps what is in it.** -/
theorem holds_openAt (hp : ∀ name ∈ p, name ≠ "") (h : openAt d p = (.ok l, d'))
    (hfinds : Finds d p content) : l = ⟨p, true⟩ ∧ d'.Holds p content := by
  obtain ⟨hl, hstands⟩ := stands_openAt hp h
  refine ⟨hl, ?_⟩
  rcases hfinds with ⟨hnone, rfl⟩ | hfile
  · rcases hstands with ⟨-, hholds⟩ | ⟨entry, hsome, -, -⟩
    · exact hholds
    · cases hnone.symm.trans hsome
  · rcases hstands with ⟨hnone, -⟩ | ⟨entry, hsome, -, hstands⟩
    · cases hnone.symm.trans hfile
    · obtain rfl : entry = .file content := Option.some.inj (hsome.symm.trans hfile)
      exact hstands

/-- A log that is there is opened as it is. -/
theorem openAt_of_holds (h : d.Holds p content) : openAt d p = (.ok ⟨p, true⟩, d) := by
  simp only [openAt, h.makeDirs_parent, h.openAppend]

theorem read_of_holds (h : d.Holds p content) : read d p = requests content := by
  simp only [read, h.read]

/-- **What is written to an open log goes behind what is in it.** -/
theorem append_eq_ok (h : d.Holds p content) (r : Request) :
    ∃ d', (⟨p, true⟩ : Log).append d r = .ok d' ∧ d'.Holds p (content ++ line r) := by
  obtain ⟨d', hd', hholds⟩ := h.append (line r)
  refine ⟨d', ?_, hholds⟩
  simp only [append, if_true, hd']
  rfl

end Log

end Replica
