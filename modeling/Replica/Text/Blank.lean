/-
# Blank characters

What separates the fields of a line: the Unicode property White_Space, twenty-five code
points.  A field is a maximal run of characters that are not blank, so `fields` never yields
an empty field, and what it yields holds no blank.
-/

namespace Replica.Text

/-- The Unicode property White_Space. -/
def isBlank (c : Char) : Bool :=
  let n := c.toNat
  (0x09 ≤ n && n ≤ 0x0D) || n == 0x20 || n == 0x85 || n == 0xA0 || n == 0x1680 ||
    (0x2000 ≤ n && n ≤ 0x200A) || n == 0x2028 || n == 0x2029 || n == 0x202F ||
    n == 0x205F || n == 0x3000

/-- The stretches between separators, at least one, each possibly empty. -/
def pieces {α : Type} (isSeparator : α → Bool) : List α → List (List α)
  | [] => [[]]
  | a :: rest =>
    if isSeparator a then [] :: pieces isSeparator rest
    else match pieces isSeparator rest with
      | [] => [[a]]
      | first :: more => (a :: first) :: more

/-- The maximal runs of characters that are not blank, in order. -/
def fields (s : List Char) : List (List Char) :=
  (pieces isBlank s).filter fun field => !field.isEmpty

/-- The text without the blanks at its two ends. -/
def trim (s : List Char) : List Char :=
  ((s.dropWhile isBlank).reverse.dropWhile isBlank).reverse

/-! ## Fields hold no blank -/

theorem not_isSeparator_of_mem_pieces {α : Type} {p : α → Bool} :
    ∀ {s piece : List α} {a : α}, piece ∈ pieces p s → a ∈ piece → p a = false
  | [], piece, a, hp, ha => by
    simp only [pieces, List.mem_singleton] at hp
    subst hp
    cases ha
  | b :: rest, piece, a, hp, ha => by
    have ih := @not_isSeparator_of_mem_pieces α p rest
    unfold pieces at hp
    split at hp
    · rcases List.mem_cons.1 hp with rfl | h
      · cases ha
      · exact ih h ha
    · next hb =>
      split at hp
      · rcases List.mem_cons.1 hp with rfl | h
        · rcases List.mem_singleton.1 ha with rfl
          simpa using hb
        · cases h
      · next first more heq =>
        rcases List.mem_cons.1 hp with rfl | h
        · rcases List.mem_cons.1 ha with rfl | ha'
          · simpa using hb
          · exact ih (by rw [heq]; exact List.mem_cons_self) ha'
        · exact ih (by rw [heq]; exact List.mem_cons_of_mem _ h) ha

/-- **No field holds a blank.** -/
theorem not_isBlank_of_mem_fields {s field : List Char} {c : Char} (h : field ∈ fields s)
    (hc : c ∈ field) : isBlank c = false :=
  not_isSeparator_of_mem_pieces (List.mem_filter.1 h).1 hc

/-- **No field is empty.** -/
theorem ne_nil_of_mem_fields {s field : List Char} (h : field ∈ fields s) : field ≠ [] := by
  have := (List.mem_filter.1 h).2
  intro hn
  simp [hn] at this

end Replica.Text
