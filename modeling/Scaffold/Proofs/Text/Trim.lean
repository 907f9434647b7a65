import Mathlib.Data.List.TakeWhile
import Scaffold.Text.Blank

/-! What is left of a text between its blanks. -/
namespace Scaffold.Text

variable {p : Char → Bool} {c : Char} {cs : List Char} {s : String}

theorem mem_dropWhile (h : c ∈ cs) (hc : p c = false) : c ∈ cs.dropWhile p := by
  rw [← List.takeWhile_append_dropWhile (p := p) (l := cs), List.mem_append] at h
  rcases h with h | h
  · rw [List.mem_takeWhile_imp h] at hc
    contradiction
  · exact h

theorem mem_dropEndWhile (h : c ∈ cs) (hc : p c = false) : c ∈ dropEndWhile p cs :=
  List.mem_reverse.mpr (mem_dropWhile (List.mem_reverse.mpr h) hc)

/-- Trimming takes nothing away but blanks. -/
theorem mem_trim (h : c ∈ s.toList) (hc : isBlank c = false) : c ∈ (trim s).toList := by
  rw [trim, String.toList_ofList]
  exact mem_dropEndWhile (mem_dropWhile h hc) hc

theorem trim_of_allBlank (h : allBlank s) : trim s = "" := by
  have hdropped : s.toList.dropWhile isBlank = [] :=
    List.dropWhile_eq_nil_iff.mpr (List.all_eq_true.mp h)
  rw [trim, trimChars, hdropped]
  rfl

theorem not_allBlank_of_mem (h : c ∈ s.toList) (hc : isBlank c = false) : allBlank s = false :=
  List.all_eq_false.mpr ⟨c, h, by simp [hc]⟩

end Scaffold.Text
