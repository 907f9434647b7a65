import Mathlib.Data.List.Basic
import Scaffold.Text.Blank

/-! Texts cut at a separator. -/
namespace Scaffold.Text

section Pieces

variable {sep : Char → Bool} {c : Char} {cs ds es : List Char}

theorem pieces_of_none (h : ∀ c ∈ cs, sep c = false) : pieces sep cs = [cs] := by
  induction cs with
  | nil => rfl
  | cons c cs ih =>
    obtain ⟨hc, hcs⟩ := List.forall_mem_cons.mp h
    rw [pieces, hc, ih hcs]
    rfl

theorem pieces_append_cons (hc : sep c) (cs ds : List Char) :
    pieces sep (cs ++ c :: ds) = pieces sep cs ++ pieces sep ds := by
  induction cs with
  | nil => simp [pieces, hc]
  | cons e cs ih =>
    rw [List.cons_append, pieces, pieces, ih]
    by_cases he : sep e
    · rw [if_pos he, if_pos he]
      rfl
    · rw [if_neg he, if_neg he]
      cases hpieces : pieces sep cs with
      | nil => exact absurd hpieces (pieces_ne_nil sep cs)
      | cons w ws => rfl

theorem not_sep_of_mem_pieces {w : List Char} (h : w ∈ pieces sep cs) : ∀ c ∈ w, sep c = false := by
  induction cs generalizing w with
  | nil =>
    obtain rfl := List.mem_singleton.mp h
    simp
  | cons e cs ih =>
    rw [pieces] at h
    by_cases he : sep e
    · rw [if_pos he] at h
      rcases List.mem_cons.mp h with rfl | h
      · simp
      · exact ih h
    · rw [if_neg he] at h
      cases hpieces : pieces sep cs with
      | nil => exact absurd hpieces (pieces_ne_nil sep cs)
      | cons v vs =>
        rw [hpieces] at h ih
        rcases List.mem_cons.mp h with rfl | h
        · exact List.forall_mem_cons.mpr ⟨by simpa using he, ih List.mem_cons_self⟩
        · exact ih (List.mem_cons_of_mem v h)

theorem pieces_cons_of_not (hc : sep c = false) (cs : List Char) :
    pieces sep (c :: cs) = (pieces sep cs).modifyHead (c :: ·) := by
  rw [pieces, if_neg (by simp [hc])]
  cases hpieces : pieces sep cs with
  | nil => exact absurd hpieces (pieces_ne_nil sep cs)
  | cons w ws => rfl

theorem pieces_append_of_none (h : ∀ c ∈ cs, sep c = false) (es : List Char) :
    pieces sep (cs ++ es) = (pieces sep es).modifyHead (cs ++ ·) := by
  induction cs with
  | nil =>
    rw [List.nil_append]
    cases pieces sep es <;> rfl
  | cons c cs ih =>
    obtain ⟨hc, hcs⟩ := List.forall_mem_cons.mp h
    rw [List.cons_append, pieces_cons_of_not hc, ih hcs, List.modifyHead_modifyHead]
    rfl

/-- What follows the last separator is longer by what is appended. -/
theorem exists_pieces_append (h : ∀ c ∈ es, sep c = false) (cs : List Char) :
    ∃ ws w, pieces sep (cs ++ es) = ws ++ [w ++ es] := by
  induction cs with
  | nil => exact ⟨[], [], pieces_of_none h⟩
  | cons c cs ih =>
    obtain ⟨ws, w, heq⟩ := ih
    rw [List.cons_append]
    cases hc : sep c with
    | true => exact ⟨[] :: ws, w, by rw [pieces, if_pos hc, heq]; rfl⟩
    | false =>
      rw [pieces_cons_of_not hc, heq]
      cases ws with
      | nil => exact ⟨[], c :: w, rfl⟩
      | cons v vs => exact ⟨(c :: v) :: vs, w, rfl⟩

theorem runsWithout_append_cons (hc : sep c) (cs ds : List Char) :
    runsWithout sep (cs ++ c :: ds) = runsWithout sep cs ++ runsWithout sep ds := by
  rw [runsWithout, pieces_append_cons hc, List.filter_append]
  rfl

theorem runsWithout_of_none (hne : cs ≠ []) (h : ∀ c ∈ cs, sep c = false) :
    runsWithout sep cs = [cs] := by
  simp [runsWithout, pieces_of_none h, hne]

end Pieces

variable {sep : Char} {p s : String}

/-- Of two cuts of a text at the separator, the second is the first one or comes behind it. -/
theorem exists_of_append_sep_eq (hp : p.toList = [sep]) {a b a' b' : String} {w : List Char}
    (ha : a'.toList = a.toList ++ w) (hb : sep :: b.toList = w ++ sep :: b'.toList) :
    a = a' ∧ b = b' ∨ ∃ d, b = d ++ p ++ b' ∧ a' = a ++ p ++ d := by
  cases w with
  | nil =>
    have hstart : a = a' := String.toList_inj.mp (by simp [ha])
    have hend : b = b' := String.toList_inj.mp (List.cons.inj hb).2
    exact .inl ⟨hstart, hend⟩
  | cons c w =>
    obtain ⟨rfl, hrest⟩ := List.cons.inj hb
    exact .inr ⟨String.ofList w, String.toList_inj.mp (by simp [hp, hrest]),
      String.toList_inj.mp (by simp [hp, ha])⟩

/-- Where a text can be cut in two ways at a separator, the longer end has the separator inside. -/
theorem append_sep_eq_iff (hp : p.toList = [sep]) {a b a' b' : String} :
    a ++ p ++ b = a' ++ p ++ b' ↔ a = a' ∧ b = b' ∨
      (∃ d, b = d ++ p ++ b' ∧ a' = a ++ p ++ d) ∨ ∃ d, b' = d ++ p ++ b ∧ a = a' ++ p ++ d := by
  constructor
  · intro h
    have hlist : a.toList ++ sep :: b.toList = a'.toList ++ sep :: b'.toList := by
      simpa [hp] using congrArg String.toList h
    obtain ⟨w, ha, hb⟩ | ⟨w, ha, hb⟩ := List.append_eq_append_iff.mp hlist
    · exact (exists_of_append_sep_eq hp ha hb).imp_right .inl
    · exact (exists_of_append_sep_eq hp ha hb).imp (And.imp Eq.symm Eq.symm) .inr
  · rintro (⟨rfl, rfl⟩ | ⟨d, rfl, rfl⟩ | ⟨d, rfl, rfl⟩) <;> simp only [String.append_assoc]

theorem append_sep_eq_iff_of_not_mem (hp : p.toList = [sep]) {a b a' b' : String}
    (hb : sep ∉ b.toList) (hb' : sep ∉ b'.toList) :
    a ++ p ++ b = a' ++ p ++ b' ↔ a = a' ∧ b = b' := by
  rw [append_sep_eq_iff hp, or_iff_left]
  rintro (⟨d, rfl, -⟩ | ⟨d, rfl, -⟩)
  · simp [hp] at hb
  · simp [hp] at hb'

theorem append_sep_eq_iff_of_not_mem_left (hp : p.toList = [sep]) {a b a' b' : String}
    (ha : sep ∉ a.toList) (ha' : sep ∉ a'.toList) :
    a ++ p ++ b = a' ++ p ++ b' ↔ a = a' ∧ b = b' := by
  rw [append_sep_eq_iff hp, or_iff_left]
  rintro (⟨d, -, rfl⟩ | ⟨d, -, rfl⟩)
  · simp [hp] at ha'
  · simp [hp] at ha

theorem splitAt_ne_nil (sep : Char) (s : String) : splitAt sep s ≠ [] := by
  simpa [splitAt] using pieces_ne_nil (· == sep) s.toList

theorem splitAt_of_not_mem (h : sep ∉ s.toList) : splitAt sep s = [s] := by
  have hnone : ∀ c ∈ s.toList, (c == sep) = false := by
    intro c hc
    simpa using ne_of_mem_of_not_mem hc h
  rw [splitAt, pieces_of_none hnone]
  simp

theorem splitAt_append (hp : p.toList = [sep]) (s t : String) :
    splitAt sep (s ++ p ++ t) = splitAt sep s ++ splitAt sep t := by
  have hlist : (s ++ p ++ t).toList = s.toList ++ sep :: t.toList := by simp [hp]
  rw [splitAt, hlist, pieces_append_cons (by simp), List.map_append]
  rfl

theorem splitAt_two (hp : p.toList = [sep]) {t : String} (hs : sep ∉ s.toList)
    (ht : sep ∉ t.toList) : splitAt sep (s ++ p ++ t) = [s, t] := by
  rw [splitAt_append hp, splitAt_of_not_mem hs, splitAt_of_not_mem ht]
  rfl

theorem not_mem_of_mem_splitAt {w : String} (h : w ∈ splitAt sep s) : sep ∉ w.toList := by
  obtain ⟨cs, hcs, rfl⟩ := List.mem_map.mp h
  intro hsep
  rw [String.toList_ofList] at hsep
  simpa using not_sep_of_mem_pieces hcs sep hsep

theorem not_mem_intercalate {x : Char} {sep : String} {parts : List String}
    (hsep : x ∉ sep.toList) (h : ∀ s ∈ parts, x ∉ s.toList) :
    x ∉ (sep.intercalate parts).toList := by
  induction parts with
  | nil => simp
  | cons s rest ih =>
    have hs : x ∉ s.toList := h s (by simp)
    cases rest with
    | nil => simpa using hs
    | cons t rest =>
      have hrest := ih fun u hu => h u (by simp [hu])
      rw [String.intercalate_cons_cons, String.toList_append, String.toList_append,
        List.mem_append, List.mem_append]
      exact not_or.mpr ⟨not_or.mpr ⟨hs, hsep⟩, hrest⟩

/-- Each of the parts that make a text is cut by itself. -/
theorem splitAt_intercalate_eq_flatMap (hp : p.toList = [sep]) {parts : List String}
    (hne : parts ≠ []) : splitAt sep (p.intercalate parts) = parts.flatMap (splitAt sep) := by
  induction parts with
  | nil => contradiction
  | cons s rest ih =>
    rw [List.flatMap_cons]
    cases rest with
    | nil => rw [String.intercalate_singleton, List.flatMap_nil, List.append_nil]
    | cons s' rest => rw [String.intercalate_cons_cons, splitAt_append hp, ih (by simp)]

/-- Parts without the separator are read back from the text that they make. -/
theorem splitAt_intercalate (hp : p.toList = [sep]) {parts : List String} (hne : parts ≠ [])
    (h : ∀ s ∈ parts, sep ∉ s.toList) : splitAt sep (p.intercalate parts) = parts := by
  rw [splitAt_intercalate_eq_flatMap hp hne,
    List.flatMap_congr fun s hs => splitAt_of_not_mem (h s hs)]
  simp

/-- The pieces make the text again. -/
theorem intercalate_splitAt (hp : p.toList = [sep]) (s : String) :
    p.intercalate (splitAt sep s) = s := by
  have hlist : ∀ cs : List Char, [sep].intercalate (pieces (· == sep) cs) = cs := by
    intro cs
    induction cs with
    | nil => rfl
    | cons c cs ih =>
      have hne := pieces_ne_nil (· == sep) cs
      rw [pieces]
      cases hpieces : pieces (· == sep) cs with
      | nil => contradiction
      | cons w ws =>
        rw [hpieces] at ih
        by_cases hc : c == sep
        · rw [if_pos hc, List.intercalate_cons_cons, ih, eq_of_beq hc]
          rfl
        · rw [if_neg hc]
          cases ws with
          | nil => simpa using ih
          | cons w' ws =>
            rw [List.intercalate_cons_cons] at ih ⊢
            rw [← ih]
            rfl
  refine String.toList_inj.mp ?_
  rw [String.toList_intercalate, hp, splitAt, List.map_map]
  simpa [Function.comp_def] using hlist s.toList

end Scaffold.Text
