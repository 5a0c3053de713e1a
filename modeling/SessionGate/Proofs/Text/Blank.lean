import Mathlib.Data.List.DropRight
import SessionGate.Text.Blank

/-! What is left of a text when its blank ends are cut off has no blank ends. -/

namespace SessionGate.Text

/-- The two ends are cut off one after the other. -/
theorem trimChars_eq (chars : List Char) :
    trimChars chars = (chars.dropWhile isBlank).rdropWhile isBlank :=
  -- Cutting off at the end is cutting off at the start of the reversed text.
  rfl

/-- Nothing is cut off where nothing is blank. -/
theorem trim_of_unblank {text : String} (unblank : ∀ c ∈ text.toList, isBlank c = false) :
    trim text = text := by
  -- The first character is not blank, so nothing is cut off before it.
  have start : text.toList.dropWhile isBlank = text.toList :=
    List.dropWhile_eq_self_iff.mpr fun within => by
      rw [unblank _ (List.getElem_mem within)]
      decide
  -- Nor is the last one.
  have ending : text.toList.rdropWhile isBlank = text.toList :=
    List.rdropWhile_eq_self_iff.mpr fun some => by
      rw [unblank _ (List.getLast_mem some)]
      decide
  rw [trim, trimChars_eq, start, ending, String.ofList_toList]

/-- Cutting off the blank ends a second time changes nothing. -/
theorem trim_trim (text : String) : trim (trim text) = trim text := by
  rw [trim, trim, String.toList_ofList, trimChars_eq, trimChars_eq]
  -- What is left begins as the text without its blank start does, with a character that stays.
  have start : ((text.toList.dropWhile isBlank).rdropWhile isBlank).dropWhile isBlank =
      (text.toList.dropWhile isBlank).rdropWhile isBlank := by
    refine List.dropWhile_eq_self_iff.mpr fun within => ?_
    have longer := List.IsPrefix.length_le (List.rdropWhile_prefix isBlank
      (text.toList.dropWhile isBlank))
    rw [List.IsPrefix.getElem (List.rdropWhile_prefix isBlank _) within]
    exact List.dropWhile_eq_self_iff.mp (List.dropWhile_idempotent isBlank text.toList)
      (Nat.lt_of_lt_of_le within longer)
  rw [start, List.rdropWhile_idempotent]

end SessionGate.Text
