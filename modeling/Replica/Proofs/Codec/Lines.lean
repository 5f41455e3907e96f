/-
# Reading what was written: logs

A line feed ends a line and stands nowhere else: no request with a legal key has one in its
line.  So lines written behind a file that ends in a line feed, or is empty, are read back as
they are and leave the others alone (`requests_append_written`).

A file that spells a text never fails to be read (`exists_requests_of_text`): its lines are the
bytes of the lines of the text.
-/

import Replica.Log
import Replica.Proofs.Codec.Record

namespace Replica

namespace Text

/-! ## 1. Stretches between separators -/

theorem pieces_ne_nil {α : Type} (p : α → Bool) (s : List α) : pieces p s ≠ [] := by
  cases s with
  | nil => simp [pieces]
  | cons a s =>
    unfold pieces
    split
    · simp
    · split <;> simp

/-- **A separator parts what is in front of it from what is behind.** -/
theorem pieces_append_separator {α : Type} {p : α → Bool} {a : α} (s rest : List α)
    (ha : p a = true) : pieces p (s ++ a :: rest) = pieces p s ++ pieces p rest := by
  induction s with
  | nil => simp [pieces, ha]
  | cons x s ih =>
    rw [List.cons_append, pieces, pieces]
    by_cases hx : p x = true
    · rw [if_pos hx, if_pos hx, ih]
      rfl
    · obtain ⟨first, more, heq⟩ := List.exists_cons_of_ne_nil (pieces_ne_nil p s)
      rw [if_neg hx, if_neg hx, ih, heq]
      rfl

/-- What holds no separator joins the first stretch. -/
theorem pieces_append_of_eq_cons {α : Type} {p : α → Bool} {s rest first : List α}
    {more : List (List α)} (hs : ∀ x ∈ s, p x = false) (h : pieces p rest = first :: more) :
    pieces p (s ++ rest) = (s ++ first) :: more := by
  induction s with
  | nil => exact h
  | cons x s ih =>
    have hx := hs x List.mem_cons_self
    rw [List.cons_append, pieces, if_neg (by simp [hx]),
      ih fun y hy => hs y (List.mem_cons_of_mem _ hy)]
    rfl

/-- The byte of a line feed is of no other character. -/
theorem lineFeed_not_mem_charBytes {cs : List Char} (h : '\n' ∉ cs) : lineFeed ∉ charBytes cs := by
  intro hmem
  obtain ⟨c, hc, hb⟩ := List.mem_flatMap.1 hmem
  by_cases hlow : c.toNat < 0x80
  · rw [utf8EncodeChar_of_lt hlow, List.mem_singleton] at hb
    have hten : c.toNat = 10 := by
      have hval := congrArg UInt8.toNat hb
      rw [UInt8.toNat_ofNat_of_lt' (by simp only [UInt8.size]; omega)] at hval
      exact hval.symm
    have hfeed : c = '\n' := Char.toNat_inj.1 hten
    exact h (hfeed ▸ hc)
  · have hle := le_of_mem_utf8EncodeChar (Nat.not_lt.1 hlow) hb
    exact absurd hle (by decide)

theorem ne_lineFeed_of_not_mem {b : Bytes} (h : lineFeed ∉ b) :
    ∀ x ∈ b, decide (x = lineFeed) = false := by
  intro x hx
  rw [decide_eq_false_iff_not]
  exact fun heq => h (heq ▸ hx)

/-- **The lines of a text are where its line feeds are.** -/
theorem pieces_charBytes (cs : List Char) :
    pieces (· = lineFeed) (charBytes cs) = (pieces (· = '\n') cs).map charBytes := by
  induction cs with
  | nil => rfl
  | cons c cs ih =>
    by_cases hc : c = '\n'
    · have hfeed : charBytes (c :: cs) = lineFeed :: charBytes cs := by
        rw [charBytes_cons, hc, utf8EncodeChar_of_lt (by decide)]
        rfl
      have hbytes := pieces_append_separator (p := (· = lineFeed)) [] (charBytes cs)
        (decide_eq_true rfl)
      have hchars := pieces_append_separator (p := (· = '\n')) [] cs (decide_eq_true hc)
      rw [List.nil_append] at hbytes hchars
      rw [hfeed, hbytes, hchars, ih]
      rfl
    · obtain ⟨first, more, heq⟩ := List.exists_cons_of_ne_nil (pieces_ne_nil (· = '\n') cs)
      have hone : lineFeed ∉ charBytes [c] :=
        lineFeed_not_mem_charBytes (by simpa using fun h => hc h.symm)
      have hchars := pieces_append_of_eq_cons (s := [c]) (by simpa using hc) heq
      rw [heq, List.map_cons] at ih
      have hbytes := pieces_append_of_eq_cons (ne_lineFeed_of_not_mem hone) ih
      rw [← charBytes_append, ← charBytes_append] at hbytes
      rw [List.singleton_append] at hbytes hchars
      rw [hbytes, hchars]
      rfl

end Text

/-- **Single spaces are all that is blank in a line.** -/
theorem Request.eq_space_or_not_isBlank {r : Request} (h : LegalKey r.key) {c : Char}
    (hc : c ∈ r.recordChars) : c = ' ' ∨ Text.isBlank c = false := by
  unfold Request.recordChars at hc
  simp only [List.mem_append, List.mem_cons] at hc
  rcases hc with ((((hc | rfl | hc) | rfl | hc) | rfl | hc) | hc)
  · exact Or.inr ((Text.word_intChars _).2 c hc)
  · exact Or.inl rfl
  · exact Or.inr ((Request.word_token_origin _).2 c hc)
  · exact Or.inl rfl
  · exact Or.inr ((Request.word_token_action _).2 c hc)
  · exact Or.inl rfl
  · exact Or.inr (h.2 c hc)
  · split at hc
    · next hv =>
      rcases List.mem_cons.1 hc with rfl | hc
      · exact Or.inl rfl
      · have hne : r.value ≠ [] := by
          intro hn
          simp [Request.showsValue, hn] at hv
        exact Or.inr ((Text.word_encode hne).2 c hc)
    · cases hc

namespace Log

open Text

/-! ## 2. Lines -/

/-- A file whose last line has its line feed. -/
def Whole (b : Bytes) : Prop := b = [] ∨ b.getLast? = some lineFeed

instance (b : Bytes) : Decidable (Whole b) :=
  inferInstanceAs (Decidable (b = [] ∨ b.getLast? = some lineFeed))

theorem whole_append_lineFeed (b : Bytes) : Whole (b ++ [lineFeed]) := Or.inr (by simp)

theorem lines_append_lineFeed (b : Bytes) : lines (b ++ [lineFeed]) = pieces (· = lineFeed) b := by
  have hsplit : pieces (· = lineFeed) (b ++ [lineFeed]) = pieces (· = lineFeed) b ++ [[]] :=
    pieces_append_separator b [] (decide_eq_true rfl)
  simp only [lines, hsplit, List.getLast?_concat, if_true, List.dropLast_concat]

/-- **What is written behind whole lines leaves them alone.** -/
theorem lines_append {a : Bytes} (h : Whole a) (b : Bytes) : lines (a ++ b) = lines a ++ lines b := by
  rcases h with rfl | hlast
  · rfl
  obtain ⟨a, rfl⟩ := List.getLast?_eq_some_iff.1 hlast
  have hsplit : pieces (· = lineFeed) (a ++ [lineFeed] ++ b) =
      pieces (· = lineFeed) a ++ pieces (· = lineFeed) b := by
    rw [List.append_assoc]
    exact pieces_append_separator a b (decide_eq_true rfl)
  rw [lines_append_lineFeed]
  obtain ⟨front, last, hb⟩ : ∃ front last, pieces (· = lineFeed) b = front ++ [last] := by
    rcases (pieces (· = lineFeed) b).eq_nil_or_concat with hnil | ⟨front, last, hcat⟩
    · exact absurd hnil (pieces_ne_nil _ b)
    · exact ⟨front, last, hcat.trans List.concat_eq_append⟩
  simp only [lines, hsplit, hb]
  rw [← List.append_assoc, List.getLast?_concat, List.getLast?_concat, List.dropLast_concat,
    List.dropLast_concat]
  split
  · rfl
  · exact List.append_assoc ..

/-! ## 3. The lines of requests -/

/-- What is written for requests. -/
def written (rs : List Request) : Bytes := rs.flatMap line

theorem written_append (rs ss : List Request) : written (rs ++ ss) = written rs ++ written ss :=
  List.flatMap_append

theorem written_cons (r : Request) (rs : List Request) :
    written (r :: rs) = line r ++ written rs := rfl

theorem written_concat (rs : List Request) (r : Request) :
    written (rs ++ [r]) = written rs ++ line r := by
  rw [written_append, written_cons]
  exact congrArg _ (List.append_nil _)

theorem line_eq (r : Request) : line r = utf8 r.record ++ [lineFeed] := by
  rw [line, utf8_append]
  rfl

/-- **No line holds a line feed of its own.** -/
theorem lineFeed_not_mem_record {r : Request} (h : LegalKey r.key) : lineFeed ∉ utf8 r.record := by
  rw [Request.record, utf8_ofList]
  refine lineFeed_not_mem_charBytes fun hmem => ?_
  rcases Request.eq_space_or_not_isBlank h hmem with heq | hblank
  · exact absurd heq (by decide)
  · exact absurd hblank (by decide)

theorem lines_written {rs : List Request} (h : ∀ r ∈ rs, LegalKey r.key) :
    lines (written rs) = rs.map fun r => utf8 r.record := by
  induction rs with
  | nil => rfl
  | cons r rs ih =>
    have hr := lineFeed_not_mem_record (h r List.mem_cons_self)
    have hline : lines (line r) = [utf8 r.record] := by
      rw [line_eq, lines_append_lineFeed, pieces_eq_singleton (ne_lineFeed_of_not_mem hr)]
    have hwhole : Whole (line r) := by
      rw [line_eq]
      exact whole_append_lineFeed _
    rw [written_cons, lines_append hwhole, hline, ih fun s hs => h s (List.mem_cons_of_mem _ hs)]
    rfl

/-! ## 4. The requests of lines -/

theorem requestsOfLines_append (ls ms : List Bytes) :
    requestsOfLines (ls ++ ms) =
      (requestsOfLines ls).bind fun rs => (requestsOfLines ms).map (rs ++ ·) := by
  induction ls with
  | nil => simp [requestsOfLines]
  | cons l ls ih =>
    simp only [List.cons_append, requestsOfLines, ih, bind, pure]
    cases ofUtf8? l with
    | none => rfl
    | some text =>
      simp only [Option.bind_some]
      cases requestsOfLines ls with
      | none => rfl
      | some rs =>
        simp only [Option.bind_some]
        cases requestsOfLines ms <;> cases Request.ofRecord text <;> rfl

/-- **Requests are read back from their lines.** -/
theorem requestsOfLines_records {rs : List Request} (h : ∀ r ∈ rs, r.Recordable) :
    requestsOfLines (rs.map fun r => utf8 r.record) = some rs := by
  induction rs with
  | nil => rfl
  | cons r rs ih =>
    simp only [List.map_cons, requestsOfLines, ofUtf8?_utf8,
      ih fun s hs => h s (List.mem_cons_of_mem _ hs), bind, Option.bind, pure,
      Request.ofRecord_record (h r List.mem_cons_self)]

theorem requestsOfLines_texts (ts : List String) :
    ∃ rs, requestsOfLines (ts.map utf8) = some rs := by
  induction ts with
  | nil => exact ⟨[], rfl⟩
  | cons t ts ih =>
    obtain ⟨rs, hrs⟩ := ih
    simp only [List.map_cons, requestsOfLines, ofUtf8?_utf8, hrs, bind, Option.bind, pure]
    cases Request.ofRecord t with
    | ok r => exact ⟨r :: rs, rfl⟩
    | error e => exact ⟨rs, rfl⟩

/-! ## 5. The requests of a file -/

theorem requests_eq_ok_iff {b : Bytes} {rs : List Request} :
    requests b = .ok rs ↔ requestsOfLines (lines b) = some rs := by
  unfold requests
  cases requestsOfLines (lines b) <;> simp

/-- **What is written behind whole lines is read behind theirs.** -/
theorem requests_append_written {b : Bytes} {before rs : List Request} (hb : Whole b)
    (hbefore : requests b = .ok before) (hrs : ∀ r ∈ rs, r.Recordable) :
    requests (b ++ written rs) = .ok (before ++ rs) := by
  rw [requests_eq_ok_iff] at hbefore ⊢
  rw [lines_append hb, lines_written fun r hr => (hrs r hr).legalKey, requestsOfLines_append,
    hbefore, requestsOfLines_records hrs]
  rfl

theorem requests_written {rs : List Request} (hrs : ∀ r ∈ rs, r.Recordable) :
    requests (written rs) = .ok rs := by
  have hnone : requests ([] : Bytes) = .ok [] := rfl
  exact requests_append_written (Or.inl rfl) hnone hrs

/-- **What is read from lines is carried whole by lines.** -/
theorem recordable_of_requestsOfLines {ls : List Bytes} {rs : List Request}
    (h : requestsOfLines ls = some rs) : ∀ r ∈ rs, r.Recordable := by
  induction ls generalizing rs with
  | nil =>
    obtain rfl := Option.some.inj h
    exact nofun
  | cons l ls ih =>
    simp only [requestsOfLines, bind, pure] at h
    obtain ⟨text, -, h⟩ := Option.bind_eq_some_iff.1 h
    obtain ⟨more, hmore, h⟩ := Option.bind_eq_some_iff.1 h
    split at h
    · next q hq =>
      obtain rfl := Option.some.inj h
      exact List.forall_mem_cons.2 ⟨Request.recordable_of_ofRecord hq, ih hmore⟩
    · obtain rfl := Option.some.inj h
      exact ih hmore

/-- **A text never fails to be read.** -/
theorem exists_requests_of_text {b : Bytes} {text : String} (h : ofUtf8? b = some text) :
    ∃ rs, requests b = .ok rs := by
  have hbytes : b = charBytes text.toList := by rw [← utf8_eq_charBytes, utf8_of_ofUtf8? h]
  have hpieces : pieces (· = lineFeed) b =
      ((pieces (· = '\n') text.toList).map String.ofList).map utf8 := by
    rw [hbytes, pieces_charBytes, List.map_map]
    exact List.map_congr_left fun cs _ => (utf8_ofList cs).symm
  have hlines : ∃ ts : List String, lines b = ts.map utf8 := by
    simp only [lines, hpieces]
    split
    · exact ⟨_, List.map_dropLast.symm⟩
    · exact ⟨_, rfl⟩
  obtain ⟨ts, hts⟩ := hlines
  obtain ⟨rs, hrs⟩ := requestsOfLines_texts ts
  exact ⟨rs, requests_eq_ok_iff.2 (hts ▸ hrs)⟩

end Log

end Replica
