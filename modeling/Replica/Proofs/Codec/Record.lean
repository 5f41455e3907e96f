/-
# Reading what was written: lines

The fields of a line are words, and a blank between two words is all that parts them
(`fields_append_blank`).  So **a request with a legal key is read back from its line**
(`ofRecord_record`); of a delete only if it carries no value, which no line of a delete shows.  No
other request is, and whatever a line is read as is read back from its own (`record_codec`).
-/

import Replica.Request
import Replica.Proofs.Codec.Base64
import Replica.Proofs.Codec.Decimal
import Replica.Proofs.Codec.Utf8

namespace Replica

namespace Text

/-! ## 1. Words -/

/-- What can stand as one field of a line. -/
def Word (s : List Char) : Prop := s ≠ [] ∧ ∀ c ∈ s, isBlank c = false

instance (s : List Char) : Decidable (Word s) :=
  haveI : Decidable (∀ c ∈ s, isBlank c = false) :=
    List.decidableBAll (fun c => isBlank c = false) s
  inferInstanceAs (Decidable (s ≠ [] ∧ ∀ c ∈ s, isBlank c = false))

theorem pieces_append_cons {α : Type} {p : α → Bool} {s : List α} {a : α} (rest : List α)
    (hs : ∀ x ∈ s, p x = false) (ha : p a = true) :
    pieces p (s ++ a :: rest) = s :: pieces p rest := by
  induction s with
  | nil => simp [pieces, ha]
  | cons x s ih =>
    have hx := hs x List.mem_cons_self
    rw [List.cons_append, pieces, if_neg (by simp [hx]),
      ih fun y hy => hs y (List.mem_cons_of_mem _ hy)]

theorem pieces_eq_singleton {α : Type} {p : α → Bool} {s : List α} (hs : ∀ x ∈ s, p x = false) :
    pieces p s = [s] := by
  induction s with
  | nil => rfl
  | cons x s ih =>
    have hx := hs x List.mem_cons_self
    rw [pieces, if_neg (by simp [hx]), ih fun y hy => hs y (List.mem_cons_of_mem _ hy)]

/-- **A blank behind a word ends its field.** -/
theorem fields_append_blank {s : List Char} (hs : Word s) (rest : List Char) :
    fields (s ++ ' ' :: rest) = s :: fields rest := by
  unfold fields
  rw [pieces_append_cons rest hs.2 (by decide), List.filter_cons_of_pos]
  simpa using hs.1

theorem fields_eq_singleton {s : List Char} (hs : Word s) : fields s = [s] := by
  unfold fields
  rw [pieces_eq_singleton hs.2, List.filter_cons_of_pos (by simpa using hs.1), List.filter_nil]

theorem not_isBlank_of_between {c : Char} (hl : 0x21 ≤ c.toNat) (hu : c.toNat < 0x80) :
    isBlank c = false := by
  unfold isBlank
  simp only [Bool.or_eq_false_iff, Bool.and_eq_false_imp, decide_eq_true_eq, decide_eq_false_iff_not,
    beq_eq_false_iff_ne]
  omega

theorem word_intChars (n : Int) : Word (Decimal.intChars n) := by
  have hdigit : ∀ d : Fin 10, isBlank (Nat.digitChar d) = false := by decide
  have hnat : ∀ n : Nat, ∀ c ∈ Decimal.natChars n, isBlank c = false := by
    intro n c hc
    obtain ⟨d, hd, rfl⟩ := Decimal.mem_natChars hc
    exact hdigit ⟨d, hd⟩
  cases n with
  | ofNat n => exact ⟨Decimal.natChars_ne_nil n, hnat n⟩
  | negSucc n =>
    refine ⟨by simp [Decimal.intChars], fun c hc => ?_⟩
    rcases List.mem_cons.1 hc with rfl | hc
    · decide
    · exact hnat _ c hc

/-- The written form of bytes is a word, unless there is none. -/
theorem word_encode {b : Bytes} (h : b ≠ []) :
    Word ((Base64.encode b).map fun x => Char.ofNat x.toNat) := by
  refine ⟨by simpa [Base64.encode_eq_nil_iff] using h, fun c hc => ?_⟩
  obtain ⟨x, hx, rfl⟩ := List.mem_map.1 hc
  obtain ⟨hl, hu, -⟩ := Base64.toNat_of_mem_encode hx
  refine not_isBlank_of_between ?_ ?_ <;> rw [toNat_ofNat_of_lt (by omega)] <;> omega

end Text

/-! ## 2. Lines -/

namespace Request

/-- What the line of a request carries whole. -/
structure Recordable (r : Request) : Prop where
  legalKey : LegalKey r.key
  value_eq_nil : r.action = .delete → r.value = []

open Text

instance (r : Request) : Decidable r.Recordable :=
  decidable_of_iff (LegalKey r.key ∧ (r.action = .delete → r.value = []))
    ⟨fun h => ⟨h.1, h.2⟩, fun h => ⟨h.legalKey, h.value_eq_nil⟩⟩

theorem Recordable.toPeer {r : Request} (h : r.Recordable) : r.toPeer.Recordable :=
  ⟨h.legalKey, h.value_eq_nil⟩

theorem word_token_origin (o : Origin) : Word o.token.toList := by cases o <;> decide

theorem word_token_action (a : Action) : Word a.token.toList := by cases a <;> decide

/-- **The fields of a request's line.** -/
theorem fields_recordChars {r : Request} (h : LegalKey r.key) :
    fields r.recordChars =
      Decimal.intChars r.version.toInt :: r.origin.token.toList :: r.action.token.toList ::
        r.key.toList ::
        if r.showsValue then [(Base64.encode r.value).map fun b => Char.ofNat b.toNat] else [] := by
  unfold recordChars
  simp only [List.append_assoc, List.cons_append]
  rw [fields_append_blank (word_intChars _), fields_append_blank (word_token_origin _),
    fields_append_blank (word_token_action _)]
  cases hv : r.showsValue with
  | false => rw [if_neg (by decide), if_neg (by decide), List.append_nil, fields_eq_singleton h]
  | true =>
    have hne : r.value ≠ [] := by
      intro hn
      simp [showsValue, hn] at hv
    rw [if_pos rfl, if_pos rfl, fields_append_blank h, fields_eq_singleton (word_encode hne)]

/-- The value is read back from the fields behind the key. -/
theorem valueOfFields_showsValue {r : Request} (h : r.action = .set) :
    valueOfFields (if r.showsValue then
      [(Base64.encode r.value).map fun b => Char.ofNat b.toNat] else []) = .ok r.value := by
  cases hv : r.showsValue with
  | false =>
    have hn : r.value = [] := by simpa [showsValue, h] using hv
    rw [if_neg (by decide), hn]
    rfl
  | true =>
    rw [if_pos rfl]
    simp only [valueOfFields]
    rw [utf8_ofList, Base64.charBytes_encode, Base64.decode_encode]
    rfl

/-- **A request is read back from its line.** -/
theorem ofRecord_record {r : Request} (h : r.Recordable) : ofRecord r.record = .ok r := by
  have hread : Decimal.readInt Decimal.greatestInt64 (Decimal.intChars r.version.toInt) =
      .ok r.version.toInt :=
    Decimal.readInt_intChars (Int64.le_toInt _) (Int64.toInt_le _)
  have hversion : ∀ f : Decimal.Fault → RecordFault,
      (Decimal.readInt Decimal.greatestInt64 (Decimal.intChars r.version.toInt)).mapError f =
        .ok r.version.toInt := fun f => congrArg (Except.mapError f) hread
  unfold ofRecord record
  rw [String.toList_ofList, fields_recordChars h.legalKey]
  simp only [ofFields, hversion, String.ofList_toList, Origin.ofToken_token,
    Action.ofToken_token, bind, Except.bind, pure, Except.pure]
  obtain ⟨version, origin, action, key, value⟩ := r
  cases action with
  | set =>
    have hvalue := valueOfFields_showsValue (r := ⟨version, origin, .set, key, value⟩) rfl
    dsimp only at hvalue ⊢
    rw [hvalue]
    simp [set]
  | delete =>
    obtain rfl : value = [] := h.value_eq_nil rfl
    simp [delete]

theorem legalKey_of_mem_fields {line field : List Char} (h : field ∈ fields line) :
    LegalKey (String.ofList field) := by
  refine ⟨?_, fun c hc => ?_⟩
  · rw [String.toList_ofList]
    exact ne_nil_of_mem_fields h
  · rw [String.toList_ofList] at hc
    exact not_isBlank_of_mem_fields h hc

/-- **Whatever is read from a line is carried whole by its own.** -/
theorem recordable_of_ofRecord {line : String} {r : Request} (h : ofRecord line = .ok r) :
    r.Recordable := by
  unfold ofRecord ofFields at h
  split at h
  · next version origin action key rest hfields =>
    have hmem : key ∈ fields line.toList := by simp [hfields]
    have hkey : LegalKey (String.ofList key) := legalKey_of_mem_fields hmem
    simp only [bind, Except.bind, pure, Except.pure] at h
    -- the version, the origin and the action have to be read before the key counts
    split at h
    · cases h
    split at h
    · cases h
    split at h
    · cases h
    split at h
    · obtain rfl := Except.ok.inj h
      exact ⟨hkey, fun _ => rfl⟩
    · split at h
      · cases h
      · obtain rfl := Except.ok.inj h
        exact ⟨hkey, nofun⟩
  · cases h

theorem recordable_iff {r : Request} :
    r.Recordable ↔ checkKey r.key = .ok () ∧ (r.action = .set ∨ r.value = []) := by
  rw [checkKey_eq_ok_iff]
  constructor
  · intro h
    refine ⟨h.legalKey, ?_⟩
    cases ha : r.action with
    | set => exact Or.inl rfl
    | delete => exact Or.inr (h.value_eq_nil ha)
  · rintro ⟨hkey, hvalue⟩
    refine ⟨hkey, fun ha => hvalue.resolve_left ?_⟩
    simp [ha]

/-- A line read as the request that it was written for was written for one that it carries whole:
an illegal key would fall apart or vanish, and no delete is read with a value. -/
theorem ofRecord_record_iff {r : Request} : ofRecord r.record = .ok r ↔ r.Recordable := by
  constructor
  · intro hread
    exact recordable_of_ofRecord hread
  · intro h
    exact ofRecord_record h

/-- **A request is read back from its line just if its key passes and a delete carries no value;
whatever a line is read as is such a request**, so nothing is lost by writing it again. -/
theorem record_codec :
    (∀ r : Request, ofRecord r.record = .ok r ↔
      checkKey r.key = .ok () ∧ (r.action = .set ∨ r.value = [])) ∧
    ∀ (line : String) (r : Request), ofRecord line = .ok r →
      checkKey r.key = .ok () ∧ ofRecord r.record = .ok r := by
  constructor
  · intro r
    rw [ofRecord_record_iff, recordable_iff]
  · intro line r hread
    have h : r.Recordable := recordable_of_ofRecord hread
    exact ⟨(recordable_iff.1 h).1, ofRecord_record h⟩

/-- A line with a sign, other blanks and a field too many: its request has another one. -/
theorem record_codec_loose :
    ofRecord "\t+007 sync del  k\u2003x " = .ok (delete 7 .peer "k") ∧
      ofRecord (delete 7 .peer "k").record = .ok (delete 7 .peer "k") ∧
      (delete 7 .peer "k").record = "7 sync del k" := by
  have hread : ofRecord "\t+007 sync del  k\u2003x " = .ok (delete 7 .peer "k") := rfl
  exact ⟨hread, (record_codec.2 _ _ hread).2, by decide +kernel⟩

end Request

end Replica
