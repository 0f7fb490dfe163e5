import Mathlib.Tactic.ByContra
import VolunteerAccess.Settings

/-!
# Marks of the byte order in settings

A file of settings loses a mark of the byte order when it is read, and a text of settings loses
one when it is parsed. A file may therefore have one mark more than a text:

- `Text.TwiceMarked`: a text with two marks.
- `Toml.parse?_eq_none_of_marked`: a mark that is left is no part of a document.
- `Settings.entriesOfText?_dropByteOrderMark`: **only with two marks does it matter** that a file
  loses the first one.
-/

namespace VolunteerAccess

namespace Text

variable {s : String}

theorem toList_dropByteOrderMark {cs : List Char} (h : s.toList = '\ufeff' :: cs) :
    (dropByteOrderMark s).toList = cs := by
  unfold dropByteOrderMark
  rw [h]
  exact String.toList_ofList

theorem dropByteOrderMark_of_head?_ne (h : s.toList.head? ≠ some '\ufeff') :
    dropByteOrderMark s = s := by
  unfold dropByteOrderMark
  split
  · next cs hcs =>
    rw [hcs] at h
    exact absurd rfl h
  · rfl

/-- A text that starts with two marks of the byte order, and no third. -/
def TwiceMarked (s : String) : Prop :=
  ∃ cs : List Char, s.toList = '\ufeff' :: '\ufeff' :: cs ∧ cs.head? ≠ some '\ufeff'

end Text

namespace Toml

/-- No line starts with a mark of the byte order, so only the first one may stand. -/
theorem parse?_eq_none_of_marked {d : Dialect} {s : String} {cs : List Char}
    (h : (Text.dropByteOrderMark s).toList = '\ufeff' :: cs) : parse? d s = none := by
  have hlines : readLines? d (('\ufeff' :: cs).length + 1) [] [] ('\ufeff' :: cs) = none := rfl
  unfold parse?
  dsimp only
  rw [h, hlines]
  rfl

end Toml

namespace Settings

/-- The entries of a text depend on what is left of it without its mark. -/
theorem entriesOfText?_congr {s t : String}
    (h : Text.dropByteOrderMark s = Text.dropByteOrderMark t) :
    entriesOfText? s = entriesOfText? t := by
  unfold entriesOfText? Toml.parse?
  rw [h]

/-- A file that is read loses a mark before its text is parsed, and the text loses one when it is.
This can be told only of a text with two marks. -/
theorem entriesOfText?_dropByteOrderMark {s : String} (h : ¬ Text.TwiceMarked s) :
    entriesOfText? (Text.dropByteOrderMark s) = entriesOfText? s := by
  by_cases hfirst : s.toList.head? = some '\ufeff'
  · obtain ⟨cs, hcs⟩ := List.head?_eq_some_iff.1 hfirst
    have hdropped := Text.toList_dropByteOrderMark hcs
    by_cases hsecond : cs.head? = some '\ufeff'
    · obtain ⟨ds, rfl⟩ := List.head?_eq_some_iff.1 hsecond
      -- With a third mark neither of the two is a document.
      have hthird : ds.head? = some '\ufeff' := by
        by_contra hthird
        exact h ⟨ds, hcs, hthird⟩
      obtain ⟨es, rfl⟩ := List.head?_eq_some_iff.1 hthird
      have hnone : Toml.parse? .lenient s = none := Toml.parse?_eq_none_of_marked hdropped
      have hnone' : Toml.parse? .lenient (Text.dropByteOrderMark s) = none :=
        Toml.parse?_eq_none_of_marked (Text.toList_dropByteOrderMark hdropped)
      unfold entriesOfText?
      rw [hnone, hnone']
    · exact entriesOfText?_congr (Text.dropByteOrderMark_of_head?_ne (by rwa [hdropped]))
  · rw [Text.dropByteOrderMark_of_head?_ne hfirst]

end Settings

end VolunteerAccess

