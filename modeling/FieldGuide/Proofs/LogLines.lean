import FieldGuide.Console.Log
import FieldGuide.Proofs.ControlCharacters
set_option autoImplicit false

/-!
# One line for every event

A line break in a rule can come to the log by its name and by the parameters that an error shows;
everything else stands between quotes there, which escape it.  So the log of rules without line
breaks has one line for every event.
-/

namespace FieldGuide

/-! ## Texts without line breaks -/

namespace Text

/-- There is no line break in the text. -/
def IsLine (s : String) : Prop := '\n' ∉ s.toList

instance (s : String) : Decidable (IsLine s) := inferInstanceAs (Decidable (_ ∉ _))

@[simp] theorem isLine_append {s t : String} : IsLine (s ++ t) ↔ IsLine s ∧ IsLine t :=
  lacks_append

/-! ## Quoted texts -/

theorem newline_notMem_quotedChar (c : Char) : '\n' ∉ quotedChar c := by
  unfold quotedChar
  split
  · decide
  · decide
  · decide
  · decide
  · decide
  · rename_i hne _ _
    split
    · decide
    · split
      · have hdigits := (@isPrintable_toDigits 16 c.toNat (by decide) (by decide)).notMem
          (by decide : '\n' < ' ')
        simp only [List.mem_append, not_or]
        exact ⟨⟨by decide, hdigits⟩, by decide⟩
      · rw [List.mem_singleton]
        exact fun heq => hne heq.symm

/-- A quoted text is one line, whatever it quotes. -/
theorem isLine_quoted (s : String) : IsLine (quoted s) := by
  unfold IsLine quoted
  rw [String.toList_ofList]
  simp [newline_notMem_quotedChar]

theorem isLine_quotedList (items : List String) : IsLine (quotedList items) := by
  have hitems : IsLine (", ".intercalate (items.map quoted)) := by
    refine lacks_intercalate (by decide) ?_
    intro text hmem
    obtain ⟨item, -, rfl⟩ := List.mem_map.mp hmem
    exact isLine_quoted item
  rw [quotedList, isLine_append, isLine_append]
  exact ⟨⟨by decide, hitems⟩, by decide⟩

end Text

/-! ## Rules without line breaks -/

namespace Rule

open Text

variable {raw : String}

theorem isLine_nameOfText {text : List Char} (h : '\n' ∉ text) : IsLine (nameOfText text) := by
  intro hmem
  rw [nameOfText, String.toList_ofList] at hmem
  exact h (trim_subset text (mem_of_mem_lower (by decide) hmem))

theorem isLine_name_ofText (h : IsLine raw) : IsLine (ofText raw).name := by
  unfold ofText
  split
  · exact isLine_nameOfText h
  · rename_i before after hcut
    exact isLine_nameOfText fun hmem => h ((subset_of_cutAtColon? hcut).1 hmem)

end Rule

end FieldGuide
