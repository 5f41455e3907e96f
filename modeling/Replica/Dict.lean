/-
# Dictionaries in key order

A finite map from texts, kept as its entries in strictly ascending order of their keys, by code
point.  The order is part of the type, so **two dictionaries with the same entries are equal**
and listing one needs no sort.
-/

namespace Replica

/-- A finite map from texts. -/
structure Dict (α : Type) where
  entries : List (String × α)
  ascending : entries.Pairwise fun e f => e.1 < f.1

namespace Dict

variable {α : Type}

@[ext] theorem ext {d e : Dict α} (h : d.entries = e.entries) : d = e := by
  cases d
  cases e
  cases h
  rfl

instance [DecidableEq α] : DecidableEq (Dict α) := fun d e =>
  decidable_of_iff (d.entries = e.entries) ⟨ext, fun h => h ▸ rfl⟩

instance [Repr α] : Repr (Dict α) := ⟨fun d n => reprPrec d.entries n⟩

def empty : Dict α := ⟨[], .nil⟩

instance : Inhabited (Dict α) := ⟨empty⟩

def isEmpty (d : Dict α) : Bool := d.entries.isEmpty

def size (d : Dict α) : Nat := d.entries.length

def keys (d : Dict α) : List String := d.entries.map (·.1)

def values (d : Dict α) : List α := d.entries.map (·.2)

/-- What the entries hold under a key. -/
def lookup (key : String) : List (String × α) → Option α
  | [] => none
  | (k, a) :: rest => if k = key then some a else lookup key rest

def get? (d : Dict α) (key : String) : Option α := lookup key d.entries

def contains (d : Dict α) (key : String) : Bool := (d.get? key).isSome

/-! ## Putting and taking away -/

/-- The entries with one more, in its place. -/
def putEntry (key : String) (a : α) : List (String × α) → List (String × α)
  | [] => [(key, a)]
  | (k, b) :: rest =>
    if key < k then (key, a) :: (k, b) :: rest
    else if key = k then (key, a) :: rest
    else (k, b) :: putEntry key a rest

attribute [local simp] lookup putEntry

theorem mem_putEntry {key : String} {a : α} {e : String × α} :
    ∀ {l : List (String × α)}, e ∈ putEntry key a l → e.1 = key ∨ e ∈ l
  | [], h => by
    simp only [putEntry, List.mem_singleton] at h
    exact Or.inl (h ▸ rfl)
  | (k, b) :: rest, h => by
    unfold putEntry at h
    split at h
    · rcases List.mem_cons.1 h with rfl | h
      · exact Or.inl rfl
      · exact Or.inr h
    · split at h
      · rcases List.mem_cons.1 h with rfl | h
        · exact Or.inl rfl
        · exact Or.inr (List.mem_cons_of_mem _ h)
      · rcases List.mem_cons.1 h with rfl | h
        · exact Or.inr List.mem_cons_self
        · rcases mem_putEntry h with h | h
          · exact Or.inl h
          · exact Or.inr (List.mem_cons_of_mem _ h)

theorem ascending_putEntry (key : String) (a : α) :
    ∀ {l : List (String × α)}, (l.Pairwise fun e f => e.1 < f.1) →
      (putEntry key a l).Pairwise fun e f => e.1 < f.1
  | [], _ => List.pairwise_singleton _ _
  | (k, b) :: rest, h => by
    obtain ⟨hk, hr⟩ := List.pairwise_cons.1 h
    unfold putEntry
    split
    · next hlt =>
      refine List.pairwise_cons.2 ⟨fun e he => ?_, h⟩
      rcases List.mem_cons.1 he with rfl | he
      · exact hlt
      · exact Std.lt_trans hlt (hk e he)
    · next hnlt =>
      split
      · next heq =>
        subst heq
        exact List.pairwise_cons.2 ⟨fun e he => hk e he, hr⟩
      · next hne =>
        refine List.pairwise_cons.2 ⟨fun e he => ?_, ascending_putEntry key a hr⟩
        rcases mem_putEntry he with h1 | h1
        · grind
        · exact hk e h1

/-- The dictionary with `a` under `key`. -/
def insert (d : Dict α) (key : String) (a : α) : Dict α :=
  ⟨putEntry key a d.entries, ascending_putEntry key a d.ascending⟩

/-- The dictionary with nothing under `key`. -/
def erase (d : Dict α) (key : String) : Dict α :=
  ⟨d.entries.filter fun e => e.1 ≠ key, d.ascending.sublist List.filter_sublist⟩

/-- The dictionary of any entries; of those under one key the last counts. -/
def ofEntries (l : List (String × α)) : Dict α :=
  l.foldl (fun d e => d.insert e.1 e.2) empty

/-- The same keys with other values. -/
def map {β : Type} (f : α → β) (d : Dict α) : Dict β :=
  ⟨d.entries.map fun e => (e.1, f e.2), by
    rw [List.pairwise_map]
    exact d.ascending⟩

/-! ## What is found afterwards -/

theorem lookup_putEntry_self (key : String) (a : α) :
    ∀ l : List (String × α), lookup key (putEntry key a l) = some a
  | [] => by simp
  | (k, b) :: rest => by
    unfold putEntry
    split
    · simp
    · split
      · simp
      · next h =>
        simp only [lookup, if_neg (Ne.symm h)]
        exact lookup_putEntry_self key a rest

theorem lookup_putEntry_of_ne {key other : String} (a : α) (h : other ≠ key) :
    ∀ l : List (String × α), lookup other (putEntry key a l) = lookup other l
  | [] => by simp [Ne.symm h]
  | (k, b) :: rest => by
    unfold putEntry
    split
    · simp [Ne.symm h]
    · split
      · next heq => simp [← heq, Ne.symm h]
      · simp only [lookup]
        split
        · rfl
        · exact lookup_putEntry_of_ne a h rest

/-- **The key holds what was put under it.** -/
@[simp] theorem get?_insert_self (d : Dict α) (key : String) (a : α) :
    (d.insert key a).get? key = some a := lookup_putEntry_self key a d.entries

/-- **Any other key holds what it held.** -/
theorem get?_insert_of_ne (d : Dict α) {key other : String} (a : α) (h : other ≠ key) :
    (d.insert key a).get? other = d.get? other := lookup_putEntry_of_ne a h d.entries

@[simp] theorem get?_empty (key : String) : (empty : Dict α).get? key = none := rfl

theorem lookup_filter_self (key : String) :
    ∀ l : List (String × α), lookup key (l.filter fun e => e.1 ≠ key) = none
  | [] => rfl
  | (k, b) :: rest => by
    by_cases h : k = key
    · simpa [h, List.filter] using lookup_filter_self key rest
    · simpa [h, List.filter] using lookup_filter_self key rest

theorem lookup_filter_of_ne {key other : String} (h : other ≠ key) :
    ∀ l : List (String × α), lookup other (l.filter fun e => e.1 ≠ key) = lookup other l
  | [] => rfl
  | (k, b) :: rest => by
    by_cases hk : k = key
    · subst hk
      simpa [List.filter, Ne.symm h] using lookup_filter_of_ne h rest
    · have ih := lookup_filter_of_ne h rest
      simp only [ne_eq, decide_not] at ih
      simp [List.filter, hk, ih]

/-- **Nothing is left under an erased key.** -/
@[simp] theorem get?_erase_self (d : Dict α) (key : String) : (d.erase key).get? key = none :=
  lookup_filter_self key d.entries

theorem get?_erase_of_ne (d : Dict α) {key other : String} (h : other ≠ key) :
    (d.erase key).get? other = d.get? other := lookup_filter_of_ne h d.entries

/-! ## Entries and what is found -/

theorem mem_of_lookup_eq_some {key : String} {a : α} :
    ∀ {l : List (String × α)}, lookup key l = some a → (key, a) ∈ l
  | [], h => by simp at h
  | (k, b) :: rest, h => by
    simp only [lookup] at h
    split at h
    · next hk =>
      cases h
      exact hk ▸ List.mem_cons_self
    · exact List.mem_cons_of_mem _ (mem_of_lookup_eq_some h)

theorem lookup_eq_some_of_mem {key : String} {a : α} :
    ∀ {l : List (String × α)}, (l.Pairwise fun e f => e.1 < f.1) → (key, a) ∈ l →
      lookup key l = some a
  | (k, b) :: rest, hl, h => by
    obtain ⟨hk, hr⟩ := List.pairwise_cons.1 hl
    rcases List.mem_cons.1 h with h | h
    · cases h
      simp
    · have hne : k ≠ key := fun he => String.lt_irrefl key (he ▸ hk _ h)
      simpa [hne] using lookup_eq_some_of_mem hr h

/-- **The entries are just what is found.** -/
theorem mem_entries_iff {d : Dict α} {key : String} {a : α} :
    (key, a) ∈ d.entries ↔ d.get? key = some a :=
  ⟨lookup_eq_some_of_mem d.ascending, mem_of_lookup_eq_some⟩

theorem lookup_eq_none_of_lt {key : String} {l : List (String × α)} (h : ∀ e ∈ l, key < e.1) :
    lookup key l = none := by
  cases hf : lookup key l with
  | none => rfl
  | some a => exact absurd (h _ (mem_of_lookup_eq_some hf)) (String.lt_irrefl key)

theorem eq_of_lookup_eq :
    ∀ {l m : List (String × α)}, (l.Pairwise fun e f => e.1 < f.1) →
      (m.Pairwise fun e f => e.1 < f.1) → (∀ key, lookup key l = lookup key m) → l = m
  | [], [], _, _, _ => rfl
  | [], (k, b) :: m, _, _, h => by simpa using h k
  | (k, a) :: l, [], _, _, h => by simpa using h k
  | (k, a) :: l, (j, b) :: m, hl, hm, h => by
    obtain ⟨hkl, hl'⟩ := List.pairwise_cons.1 hl
    obtain ⟨hjm, hm'⟩ := List.pairwise_cons.1 hm
    have ha : (k, a) ∈ (j, b) :: m := mem_of_lookup_eq_some (by simpa using (h k).symm)
    have hb : (j, b) ∈ (k, a) :: l := mem_of_lookup_eq_some (by simpa using h j)
    have hhead : (k, a) = (j, b) := by
      rcases List.mem_cons.1 ha with ha | ha
      · exact ha
      · rcases List.mem_cons.1 hb with hb | hb
        · exact hb.symm
        · exact absurd (Std.lt_trans (hjm _ ha) (hkl _ hb)) (String.lt_irrefl _)
    cases hhead
    refine congrArg _ (eq_of_lookup_eq hl' hm' fun key => ?_)
    by_cases hk : k = key
    · rw [← hk, lookup_eq_none_of_lt hkl, lookup_eq_none_of_lt hjm]
    · simpa [hk] using h key

/-- **Dictionaries in which the same is found are equal.** -/
theorem ext_get? {d e : Dict α} (h : ∀ key, d.get? key = e.get? key) : d = e :=
  ext (eq_of_lookup_eq d.ascending e.ascending h)

theorem get?_foldl_insert {l : List (String × α)} (h : l.Pairwise fun e f => e.1 < f.1)
    (d : Dict α) (key : String) :
    (l.foldl (fun d e => d.insert e.1 e.2) d).get? key = (lookup key l).or (d.get? key) := by
  induction l generalizing d with
  | nil => rfl
  | cons e l ih =>
    obtain ⟨k, a⟩ := e
    obtain ⟨hk, hl⟩ := List.pairwise_cons.1 h
    rw [List.foldl_cons, ih hl]
    by_cases he : k = key
    · subst he
      rw [lookup_eq_none_of_lt hk, get?_insert_self]
      simp
    · rw [get?_insert_of_ne _ _ (Ne.symm he)]
      simp [he]

/-- **Its entries make up a dictionary again.** -/
theorem ofEntries_entries (d : Dict α) : ofEntries d.entries = d := by
  refine ext_get? fun key => ?_
  unfold ofEntries
  rw [get?_foldl_insert d.ascending, get?_empty, Option.or_none]
  rfl

end Dict

end Replica
