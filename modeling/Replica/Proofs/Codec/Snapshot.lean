/-
# Reading what was written: snapshots

**A store is read back from its snapshot** (`ofSnapshot_snapshot`): item by item, each put under
its key, and the entries of a dictionary make it up again whatever they are put in.

So **a snapshot is the content of its store and nothing else** (`snapshot_codec`): loaded over
any content it leaves its own store, stores of one content have one snapshot and others never
share theirs, and bytes that spell no store change nothing where they are loaded.
-/

import Replica.Snapshot
import Replica.Proofs.Codec.Base64
import Replica.Proofs.Codec.Json
import Replica.Proofs.Effect

namespace Replica

open Text Json

/-! ## 1. Items -/

/-- The written form of bytes in its quotes. -/
theorem stringChars_encodeText (b : Bytes) :
    stringChars (Base64.encodeText b) =
      '\x22' :: ((Base64.encode b).map fun x => Char.ofNat x.toNat) ++ ['\x22'] := by
  refine stringChars_ofList fun c hc => ?_
  obtain ⟨x, hx, rfl⟩ := List.mem_map.1 hc
  obtain ⟨hl, hu, hs⟩ := Base64.toNat_of_mem_encode hx
  have hx' : (Char.ofNat x.toNat).toNat = x.toNat := toNat_ofNat_of_lt (by omega)
  rintro (he | he | he)
  · have hnum : x.toNat = 0x22 := by rw [← hx', he]; rfl
    omega
  · exact hs (by rw [← hx', he]; rfl)
  · omega

theorem ends_closeBrace (rest : Bytes) : Ends (closeBrace :: rest) := by
  intro b hb
  cases hb
  decide

/-- The bytes of an item. -/
theorem Item.charBytes_jsonChars (i : Item) :
    charBytes i.jsonChars =
      openBrace :: (charBytes (stringChars "value") ++
        (colon :: (charBytes (stringChars (Base64.encodeText i.value)) ++
          comma :: (charBytes (stringChars "version") ++
            (colon :: (charBytes (Decimal.intChars i.version.toInt) ++ [closeBrace])))))) := by
  unfold Item.jsonChars objectChars
  rw [← stringChars_encodeText]
  simp only [List.map_cons, List.map_nil, between_cons, List.flatMap_cons, List.flatMap_nil,
    List.append_nil, List.cons_append, charBytes_openBrace, charBytes_append, charBytes_colon,
    charBytes_comma, charBytes_closeBrace, List.append_assoc]

namespace Snapshot

theorem readColon_colon (s : Bytes) : readColon (colon :: s) = .ok s := rfl

theorem readField_value (g : Gathered) (hg : g.value = none) (b s : Bytes) :
    readField "value" g (colon :: (charBytes (stringChars (Base64.encodeText b)) ++ s)) =
      .ok ({ g with value := some b }, s) := by
  unfold readField readValue
  rw [if_pos rfl, hg, readColon_colon]
  simp only [bind, Except.bind, Option.isSome_none, Bool.false_eq_true, if_false]
  rw [readString_stringChars]
  simp only [Base64.utf8_encodeText, Base64.decode_encode]
  rfl

theorem readField_version (g : Gathered) (hg : g.version = none) (v : Version) {s : Bytes}
    (hs : Ends s) :
    readField "version" g (colon :: (charBytes (Decimal.intChars v.toInt) ++ s)) =
      .ok ({ g with version := some v }, s) := by
  unfold readField readVersion
  rw [if_neg (by decide), if_pos rfl, hg, readColon_colon]
  simp only [bind, Except.bind, Option.isSome_none, Bool.false_eq_true, if_false]
  rw [readInt_charBytes (Int64.le_toInt v) (Int64.toInt_le v) hs]
  simp [pure, Except.pure]

/-- **An item is read back.** -/
theorem readItem_jsonChars (i : Item) (rest : Bytes) :
    readItem (charBytes i.jsonChars ++ rest) = .ok (i, rest) := by
  have hends : Ends (closeBrace :: rest) := ends_closeBrace rest
  rw [Item.charBytes_jsonChars]
  simp only [List.cons_append, List.append_assoc, List.nil_append]
  generalize hbody : charBytes (stringChars "value") ++ _ = body
  have hfuel : ∃ f, body.length + 1 = f + 1 + 1 + 1 := by
    refine ⟨body.length - 2, ?_⟩
    have hlen : 2 ≤ body.length := by
      rw [← hbody, charBytes_stringChars]
      simp only [List.length_append, List.length_cons]
      omega
    omega
  obtain ⟨f, hf⟩ := hfuel
  have hfields : readFields readField (body.length + 1) true {} body =
      .ok ({ value := some i.value, version := some i.version }, closeBrace :: rest) := by
    rw [hf, ← hbody, readFields_first, readField_value {} rfl]
    simp only [Except.bind]
    rw [readFields_next, readField_version _ rfl _ hends]
    simp only [Except.bind]
    rw [readFields_end]
  unfold readItem
  rw [skipSpace, List.dropWhile_cons_of_neg (by decide)]
  simp only [if_pos, hfields, bind, Except.bind]
  rfl

end Snapshot

/-! ## 2. Stores -/

namespace Snapshot

theorem readEntry_jsonChars (key : String) (items : Dict Item) (i : Item) (rest : Bytes) :
    readEntry key items (colon :: (charBytes i.jsonChars ++ rest)) =
      .ok (items.insert key i, rest) := by
  unfold readEntry
  rw [readColon_colon]
  simp only [bind, Except.bind]
  rw [readItem_jsonChars]
  rfl

/-- The characters of an entry. -/
def memberChars (e : String × Item) : List Char := stringChars e.1 ++ ':' :: e.2.jsonChars

theorem charBytes_memberChars (e : String × Item) :
    charBytes (memberChars e) = charBytes (stringChars e.1) ++ colon :: charBytes e.2.jsonChars := by
  unfold memberChars
  rw [charBytes_append]
  rfl

/-- Entries with a comma in front each. -/
theorem readFields_members (rest : Bytes) :
    ∀ (es : List (String × Item)) {fuel : Nat} (items : Dict Item), es.length < fuel →
      readFields readEntry fuel false items
          (charBytes ((es.map memberChars).flatMap fun w => ',' :: w) ++ closeBrace :: rest) =
        .ok (es.foldl (fun d e => d.insert e.1 e.2) items, closeBrace :: rest)
  | [], fuel + 1, items, _ => readFields_end false rest
  | e :: es, fuel + 1, items, h => by
    rw [List.map_cons, List.flatMap_cons, charBytes_append, charBytes_comma, charBytes_memberChars]
    simp only [List.cons_append, List.append_assoc]
    rw [readFields_next, readEntry_jsonChars]
    simp only [Except.bind]
    exact readFields_members rest es _ (Nat.lt_of_succ_lt_succ h)

theorem length_le_charBytes_members (es : List (String × Item)) :
    es.length ≤ (charBytes ((es.map memberChars).flatMap fun w => ',' :: w)).length := by
  induction es with
  | nil => exact Nat.le_refl _
  | cons e es ih =>
    rw [List.map_cons, List.flatMap_cons, charBytes_append, charBytes_comma, List.length_append]
    simp only [List.length_cons]
    omega

/-- **All items are read back.** -/
theorem readItems_snapshotChars (s : Store) (rest : Bytes) :
    readItems (charBytes s.snapshotChars ++ rest) = .ok (s.items, rest) := by
  have hmembers : s.snapshotChars =
      '\x7b' :: between (s.items.entries.map memberChars) ++ ['\x7d'] := by
    unfold Store.snapshotChars objectChars
    rw [List.map_map]
    rfl
  rw [hmembers, List.cons_append, charBytes_openBrace, charBytes_append, charBytes_closeBrace]
  simp only [List.cons_append, List.append_assoc, List.nil_append]
  generalize hbody : charBytes (between _) ++ closeBrace :: rest = body
  have hfields : readFields readEntry (body.length + 1) true .empty body =
      .ok (s.items, closeBrace :: rest) := by
    rw [← s.items.ofEntries_entries, ← hbody]
    unfold Dict.ofEntries
    cases s.items.entries with
    | nil => exact readFields_end true rest
    | cons e es =>
      rw [List.map_cons, between_cons, charBytes_append, charBytes_memberChars]
      simp only [List.cons_append, List.append_assoc]
      rw [readFields_first, readEntry_jsonChars]
      simp only [Except.bind]
      refine readFields_members rest es _ ?_
      have hlen := length_le_charBytes_members es
      simp only [List.length_append, List.length_cons]
      omega
  unfold readItems
  rw [skipSpace, List.dropWhile_cons_of_neg (by decide)]
  simp only [if_pos, hfields, bind, Except.bind]
  rfl

end Snapshot

/-- **A store is read back from its snapshot.** -/
theorem Store.ofSnapshot_snapshot (s : Store) : ofSnapshot s.snapshot = .ok s := by
  have hread := Snapshot.readItems_snapshotChars s []
  rw [List.append_nil] at hread
  unfold ofSnapshot snapshot readWhole
  rw [utf8_ofList, hread]
  rfl

/-! ## 3. Loading

Bytes that spell a store put it in the place of what was there; nothing of that is looked at. -/

namespace Store

/-- **A snapshot leaves its own store, whatever it is loaded over.** -/
theorem load_snapshot (s t : Store) : t.load s.snapshot = (.ok (), s) := by
  unfold load
  rw [ofSnapshot_snapshot]

/-- Two stores never share a snapshot: it is read as one store. -/
theorem eq_of_snapshot_eq {s t : Store} (h : s.snapshot = t.snapshot) : s = t := by
  have hread : (.ok s : Except Json.Fault Store) = .ok t := by
    calc .ok s = ofSnapshot s.snapshot := (ofSnapshot_snapshot s).symm
      _ = ofSnapshot t.snapshot := by rw [h]
      _ = .ok t := ofSnapshot_snapshot t
  exact Except.ok.inj hread

/-- The order in which the keys came is not in the bytes, and neither is anything else that no
look-up shows. -/
theorem snapshot_eq_iff {s t : Store} :
    s.snapshot = t.snapshot ↔ ∀ key, s.get? key = t.get? key := by
  constructor
  · intro h key
    rw [eq_of_snapshot_eq h]
  · intro h
    rw [ext_get? h]

/-- What fails to load changes nothing, however much of it could be read. -/
theorem load_of_error {s : Store} {b : Bytes} {f : Json.Fault} (h : (s.load b).1 = .error f) :
    (s.load b).2 = s := by
  unfold load at h ⊢
  cases hread : ofSnapshot b with
  | error g => rfl
  | ok t =>
    rw [hread] at h
    cases h

/-- **A snapshot is the content of its store, no more and no less**: loaded over anything it
leaves that store; two stores have one snapshot just if every key holds the same in both; and a
load that fails leaves the store as it was. -/
theorem snapshot_codec :
    (∀ s t : Store, t.load s.snapshot = (.ok (), s)) ∧
    (∀ s t : Store, s.snapshot = t.snapshot ↔ ∀ key, s.get? key = t.get? key) ∧
    ∀ (s : Store) (b : Bytes) (f : Json.Fault),
      (s.load b).1 = .error f → (s.load b).2 = s := by
  refine ⟨?_, ?_, ?_⟩
  · intro s t
    exact load_snapshot s t
  · intro s t
    exact snapshot_eq_iff
  · intro s b f h
    exact load_of_error h

/-- The empty key under the least version, a key of nothing that a text takes as it is under the
greatest, and one beyond the basic plane. -/
def awkward : Store :=
  ⟨.ofEntries [("\x22\\\n\x00", ⟨[0, 255], Int64.maxValue⟩), ("😀", ⟨[0x61], 0⟩),
    ("", ⟨[], Int64.minValue⟩)]⟩

/-- A snapshot cut off behind its first item. -/
def cutShort : Bytes :=
  utf8 "\x7b\x22a\x22:\x7b\x22value\x22:\x22\x22,\x22version\x22:1\x7d,"

theorem snapshot_codec_awkward :
    awkward.snapshot =
        utf8 ("\x7b\x22\x22:\x7b\x22value\x22:\x22\x22," ++
          "\x22version\x22:-9223372036854775808\x7d," ++
          "\x22\\\x22\\\\\\n\\u0000\x22:\x7b\x22value\x22:\x22AP8=\x22," ++
          "\x22version\x22:9223372036854775807\x7d," ++
          "\x22😀\x22:\x7b\x22value\x22:\x22YQ==\x22,\x22version\x22:0\x7d\x7d") ∧
      Store.empty.load awkward.snapshot = (.ok (), awkward) ∧
      (awkward.load cutShort).1 = .error .ended ∧ (awkward.load cutShort).2 = awkward := by
  have hcut : (awkward.load cutShort).1 = .error .ended := by decide +kernel
  exact ⟨by decide +kernel, snapshot_codec.1 awkward _, hcut, snapshot_codec.2.2 _ _ _ hcut⟩

end Store

end Replica
