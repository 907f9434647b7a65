import Scaffold.Proofs.Text.AsciiCase
import Scaffold.Proofs.Text.Split

/-! The words of a text. Neither the blanks around them nor ASCII case changes them. -/
namespace Scaffold.Text

section Runs

variable {sep : Char → Bool} {c : Char} {cs ds : List Char}

theorem runsWithout_append_of_seps (h : ∀ c ∈ cs, sep c) (ds : List Char) :
    runsWithout sep (cs ++ ds) = runsWithout sep ds := by
  induction cs with
  | nil => rfl
  | cons c cs ih =>
    obtain ⟨hc, hcs⟩ := List.forall_mem_cons.mp h
    have hfirst : runsWithout sep (c :: (cs ++ ds)) = runsWithout sep (cs ++ ds) :=
      runsWithout_append_cons hc [] (cs ++ ds)
    rw [List.cons_append, hfirst, ih hcs]

/-- A text that begins with another character than a separator begins with a run. -/
theorem exists_runsWithout_cons (hc : sep c = false) (cs : List Char) :
    ∃ w ws, ∀ ds, (∀ d ∈ ds, sep d = false) →
      runsWithout sep (ds ++ c :: cs) = (ds ++ c :: w) :: ws := by
  obtain ⟨v, vs, hpieces⟩ := List.exists_cons_of_ne_nil (pieces_ne_nil sep cs)
  refine ⟨v, vs.filter (!·.isEmpty), fun ds hds => ?_⟩
  rw [runsWithout, pieces_append_of_none hds, pieces_cons_of_not hc, hpieces]
  simp

theorem pieces_map (f : Char → Char) (hf : ∀ c, sep (f c) = sep c) (cs : List Char) :
    pieces sep (cs.map f) = (pieces sep cs).map (List.map f) := by
  induction cs with
  | nil => rfl
  | cons c cs ih =>
    rw [List.map_cons, pieces, pieces, hf, ih]
    cases sep c with
    | true => rfl
    | false => cases pieces sep cs <;> rfl

theorem runsWithout_map (f : Char → Char) (hf : ∀ c, sep (f c) = sep c) (cs : List Char) :
    runsWithout sep (cs.map f) = (runsWithout sep cs).map (List.map f) := by
  rw [runsWithout, runsWithout, pieces_map f hf, List.filter_map]
  congr 2
  funext w
  simp

theorem ne_nil_of_mem_runsWithout {w : List Char} (h : w ∈ runsWithout sep cs) : w ≠ [] := by
  simpa using (List.mem_filter.mp h).2

theorem not_sep_of_mem_runsWithout {w : List Char} (h : w ∈ runsWithout sep cs) :
    ∀ c ∈ w, sep c = false :=
  not_sep_of_mem_pieces (List.mem_filter.mp h).1

end Runs

theorem spaced_cons_cons (w w' : List Char) (ws : List (List Char)) :
    [' '].intercalate (w :: w' :: ws) = w ++ ' ' :: [' '].intercalate (w' :: ws) := by
  rw [List.intercalate_cons_cons, List.append_assoc, List.singleton_append]

/-- Words joined by spaces keep together where a character follows that is not blank. -/
theorem spaced_append_cons {ws : List (List Char)} {c : Char} (hne : ws ≠ [])
    (hws : ∀ w ∈ ws, w ≠ [] ∧ ∀ d ∈ w, isBlank d = false) (hc : isBlank c = false)
    (cs : List Char) :
    [' '].intercalate (runsWithout isBlank ([' '].intercalate ws ++ c :: cs)) =
      [' '].intercalate ws ++ [' '].intercalate (runsWithout isBlank (c :: cs)) := by
  obtain ⟨v, vs, hruns⟩ := exists_runsWithout_cons hc cs
  have hlast : runsWithout isBlank (c :: cs) = (c :: v) :: vs := hruns [] (by simp)
  induction ws with
  | nil => contradiction
  | cons w ws ih =>
    obtain ⟨⟨hw, hblank⟩, hrest⟩ := List.forall_mem_cons.mp hws
    cases ws with
    | nil =>
      rw [List.intercalate_singleton, hruns w hblank, hlast]
      cases vs <;> simp
    | cons w' ws =>
      have hbehind := ih (by simp) hrest
      obtain ⟨u, us, hus⟩ : ∃ u us,
          runsWithout isBlank ([' '].intercalate (w' :: ws) ++ c :: cs) = u :: us := by
        refine List.exists_cons_of_ne_nil fun hnil => ?_
        rw [hnil, hlast] at hbehind
        cases vs <;> simp at hbehind
      rw [hus] at hbehind
      rw [spaced_cons_cons, List.append_assoc, List.cons_append,
        runsWithout_append_cons (by decide), runsWithout_of_none hw hblank, hus,
        List.singleton_append, spaced_cons_cons, hbehind, List.append_assoc, List.cons_append]

variable {s t w : String} {c : Char}

theorem toList_singleSpaced (s : String) :
    (singleSpaced s).toList = [' '].intercalate (runsWithout isBlank s.toList) := by
  simp [singleSpaced, words, String.toList_intercalate, Function.comp_def]

theorem words_append_of_allBlank (hw : allBlank w) (s : String) : words (w ++ s) = words s := by
  rw [words, words, String.toList_append,
    runsWithout_append_of_seps (List.all_eq_true.mp hw)]

/-- Blanks part the words before them from those behind. -/
theorem words_append_append (hw : allBlank w) (hne : w ≠ "") (s t : String) :
    words (s ++ w ++ t) = words s ++ words t := by
  obtain ⟨b, bs, hlist⟩ := List.exists_cons_of_ne_nil fun hnil =>
    hne (String.toList_eq_nil_iff.mp hnil)
  have hblank : ∀ c ∈ b :: bs, isBlank c := hlist ▸ List.all_eq_true.mp hw
  obtain ⟨hb, hbs⟩ := List.forall_mem_cons.mp hblank
  rw [words, words, words, String.toList_append, String.toList_append, hlist, List.append_assoc,
    List.cons_append, runsWithout_append_cons hb, runsWithout_append_of_seps hbs, List.map_append]

theorem words_ne_nil (ht : t.toList.head? = some c) (hc : isBlank c = false) : words t ≠ [] := by
  obtain ⟨cs, hlist⟩ := List.head?_eq_some_iff.mp ht
  obtain ⟨v, vs, hruns⟩ := exists_runsWithout_cons hc cs
  have hfirst : runsWithout isBlank (c :: cs) = (c :: v) :: vs := hruns [] (by simp)
  rw [words, hlist, hfirst]
  simp

theorem singleSpaced_head (ht : t.toList.head? = some c) (hc : isBlank c = false) :
    (singleSpaced t).toList.head? = some c := by
  obtain ⟨cs, hlist⟩ := List.head?_eq_some_iff.mp ht
  obtain ⟨v, vs, hruns⟩ := exists_runsWithout_cons hc cs
  have hfirst : runsWithout isBlank (c :: cs) = (c :: v) :: vs := hruns [] (by simp)
  rw [toList_singleSpaced, hlist, hfirst]
  cases vs <;> simp

/-- A text that has its words with one space between them keeps them where no blank follows. -/
theorem singleSpaced_append (hs : singleSpaced s = s) (hne : s ≠ "")
    (ht : t.toList.head? = some c) (hc : isBlank c = false) :
    singleSpaced (s ++ t) = s ++ singleSpaced t := by
  obtain ⟨cs, hlist⟩ := List.head?_eq_some_iff.mp ht
  have hchars : [' '].intercalate (runsWithout isBlank s.toList) = s.toList := by
    rw [← toList_singleSpaced, hs]
  have hruns : runsWithout isBlank s.toList ≠ [] := by
    intro hnil
    rw [hnil, List.intercalate_nil] at hchars
    exact hne (String.toList_eq_nil_iff.mp hchars.symm)
  have hjoined := spaced_append_cons hruns
    (fun w hw => ⟨ne_nil_of_mem_runsWithout hw, not_sep_of_mem_runsWithout hw⟩) hc cs
  rw [hchars] at hjoined
  rw [← String.toList_inj, toList_singleSpaced, String.toList_append, String.toList_append,
    toList_singleSpaced, hlist, hjoined]

/-- Blanks behind such a text count as one space. -/
theorem singleSpaced_append_append (hs : singleSpaced s = s) (hne : s ≠ "") (hw : allBlank w)
    (ht : t.toList.head? = some c) (hc : isBlank c = false) :
    singleSpaced (s ++ w ++ t) = s ++ (if w = "" then "" else " ") ++ singleSpaced t := by
  by_cases hempty : w = ""
  · rw [hempty, if_pos rfl, String.append_empty, singleSpaced_append hs hne ht hc]
  · have hwords : words s ≠ [] := by
      intro hnil
      rw [singleSpaced, hnil, String.intercalate_nil] at hs
      exact hne hs.symm
    rw [if_neg hempty, singleSpaced, words_append_append hw hempty,
      String.intercalate_append_of_ne_nil hwords (words_ne_nil ht hc)]
    exact congrArg (· ++ " " ++ singleSpaced t) hs

theorem isBlank_asciiLowerChar (c : Char) : isBlank (asciiLowerChar c) = isBlank c := by
  cases h : isAsciiUpper c with
  | true =>
    rw [isAsciiUpper_iff] at h
    have hletters : ∀ n ∈ List.range' 0x41 26,
        isBlank (asciiLowerChar (.ofNat n)) = isBlank (.ofNat n) := by decide +kernel
    have hletter := hletters c.toNat (List.mem_range'_1.mpr (by omega))
    rwa [Char.ofNat_toNat] at hletter
  | false =>
    rw [asciiLowerChar, h, if_neg Bool.false_ne_true]

theorem singleSpaced_asciiLower (s : String) :
    singleSpaced (asciiLower s) = asciiLower (singleSpaced s) := by
  have hjoin : ∀ ws : List (List Char),
      [' '].intercalate (ws.map (List.map asciiLowerChar)) =
        ([' '].intercalate ws).map asciiLowerChar := by
    intro ws
    induction ws with
    | nil => rfl
    | cons w ws ih =>
      cases ws with
      | nil => simp
      | cons w' ws =>
        rw [List.map_cons] at ih
        rw [List.map_cons, List.map_cons, spaced_cons_cons, ih, spaced_cons_cons, List.map_append,
          List.map_cons]
        rfl
  rw [← String.toList_inj, toList_singleSpaced, asciiLower, asciiLower, String.toList_map,
    String.toList_map, toList_singleSpaced, runsWithout_map _ isBlank_asciiLowerChar, hjoin]

end Scaffold.Text
