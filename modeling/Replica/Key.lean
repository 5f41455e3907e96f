/-
# Legal keys

A key travels as one field of a line, so it is legal when it is not empty and holds no blank.
-/

import Replica.Text.Blank
import Replica.Text.Quoted

namespace Replica

/-- Why a text is no legal key. -/
inductive KeyFault where
  | empty
  | blank (key : String)
deriving DecidableEq, Repr

def KeyFault.message : KeyFault → String
  | .empty => "empty key"
  | .blank key => "key " ++ Text.quoted key ++ " contains whitespace"

/-- A text that can stand as one field of a line. -/
def LegalKey (key : String) : Prop :=
  key.toList ≠ [] ∧ ∀ c ∈ key.toList, Text.isBlank c = false

instance (key : String) : Decidable (LegalKey key) :=
  haveI : Decidable (∀ c ∈ key.toList, Text.isBlank c = false) :=
    List.decidableBAll (fun c => Text.isBlank c = false) key.toList
  inferInstanceAs (Decidable (key.toList ≠ [] ∧ ∀ c ∈ key.toList, Text.isBlank c = false))

/-- Refuses what is no legal key. -/
def checkKey (key : String) : Except KeyFault Unit :=
  if key.toList.isEmpty then .error .empty
  else if key.toList.any Text.isBlank then .error (.blank key)
  else .ok ()

/-- **Just the legal keys pass.** -/
theorem checkKey_eq_ok_iff {key : String} : checkKey key = .ok () ↔ LegalKey key := by
  unfold checkKey LegalKey
  by_cases h : key.toList = []
  · simp [h]
  · by_cases h' : key.toList.any Text.isBlank = true
    · simp only [List.isEmpty_iff, h, if_false, h', if_true, reduceCtorEq, false_iff]
      rintro ⟨-, hb⟩
      obtain ⟨c, hc, hcb⟩ := List.any_eq_true.1 h'
      simp [hb c hc] at hcb
    · have hb : ∀ c ∈ key.toList, Text.isBlank c = false := by
        simpa [List.any_eq_true] using h'
      simpa [List.isEmpty_iff, h, h'] using hb

end Replica
