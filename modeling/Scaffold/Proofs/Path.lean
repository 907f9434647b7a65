import Scaffold.Path
import Scaffold.Proofs.Text.Split

/-! Paths and their segments. -/
namespace Scaffold.Path

variable {p q s : String}

theorem segments_ne_nil (p : String) : segments p ≠ [] := Text.splitAt_ne_nil '/' p

theorem dropLast_append_last (p : String) :
    (segments p).dropLast ++ [(segments p).getLast?.getD ""] = segments p := by
  rw [List.getLast?_eq_some_getLast (segments_ne_nil p)]
  exact List.dropLast_concat_getLast (segments_ne_nil p)

theorem segments_of_no_slash (h : '/' ∉ p.toList) : segments p = [p] := Text.splitAt_of_not_mem h

theorem segments_append_slash (p q : String) :
    segments (p ++ "/" ++ q) = segments p ++ segments q := Text.splitAt_append rfl p q

theorem segments_slash (p : String) : segments (p ++ "/") = segments p ++ [""] := by
  have hempty : segments "" = [""] := rfl
  have happend := segments_append_slash p ""
  rwa [String.append_empty, hempty] at happend

theorem no_slash_of_mem_segments (h : s ∈ segments p) : '/' ∉ s.toList :=
  Text.not_mem_of_mem_splitAt h

/-- Segments without a separator are read back from the path that they make. -/
theorem segments_intercalate {parts : List String} (hne : parts ≠ [])
    (h : ∀ s ∈ parts, '/' ∉ s.toList) : segments ("/".intercalate parts) = parts :=
  Text.splitAt_intercalate rfl hne h

theorem isAbsolute_iff : isAbsolute p ↔ ∃ q, p = "/" ++ q := by
  rw [isAbsolute, beq_iff_eq, List.head?_eq_some_iff]
  constructor
  · rintro ⟨cs, hcs⟩
    exact ⟨String.ofList cs, String.toList_inj.mp (by simp [hcs])⟩
  · rintro ⟨q, rfl⟩
    exact ⟨q.toList, by simp⟩

theorem segments_slash_append (p : String) : segments ("/" ++ p) = "" :: segments p := by
  have happend := segments_append_slash "" p
  rwa [String.empty_append] at happend

/-- The segment in front of the first separator is empty. -/
theorem isAbsolute_iff_head (hne : p ≠ "") : isAbsolute p ↔ (segments p).head? = some "" := by
  rw [isAbsolute_iff]
  constructor
  · rintro ⟨q, rfl⟩
    rw [segments_slash_append]
    rfl
  · intro h
    rw [segments, Text.splitAt] at h
    cases hlist : p.toList with
    | nil => exact absurd (String.toList_eq_nil_iff.mp hlist) hne
    | cons c cs =>
      by_cases hc : c = '/'
      · exact ⟨String.ofList cs, String.toList_inj.mp (by simp [hlist, hc])⟩
      · rw [hlist, Text.pieces_cons_of_not (by simpa using hc)] at h
        cases hpieces : Text.pieces (· == '/') cs with
        | nil => simp [hpieces] at h
        | cons w ws => simp [hpieces, ← String.toList_inj] at h

theorem isAbsolute_of_no_slash (h : '/' ∉ q.toList) : isAbsolute q = false := by
  refine Bool.eq_false_iff.mpr fun habsolute => h ?_
  obtain ⟨r, rfl⟩ := isAbsolute_iff.mp habsolute
  simp

/-- The folder with a separator behind it, unless it is empty or has one. -/
def opened (folder : String) : String :=
  if folder.isEmpty || folder.toList.getLast? == some '/' then folder else folder ++ "/"

theorem join_of_relative (h : isAbsolute q = false) : join p q = opened p ++ q := by
  rw [join, if_neg (by simp [h]), opened]
  split <;> rfl

theorem opened_cases (p : String) : opened p = "" ∨ ∃ q, opened p = q ++ "/" := by
  rw [opened]
  split
  case isFalse => exact .inr ⟨p, rfl⟩
  case isTrue h =>
    rcases Bool.or_eq_true_iff.mp h with hnone | hslash
    · exact .inl (String.isEmpty_iff.mp hnone)
    · obtain ⟨cs, hcs⟩ := List.getLast?_eq_some_iff.mp (eq_of_beq hslash)
      exact .inr ⟨String.ofList cs, String.toList_inj.mp (by simp [hcs])⟩

theorem opened_opened (p : String) : opened (opened p) = opened p := by
  rcases opened_cases p with h | ⟨q, h⟩
  · rw [h]
    rfl
  · rw [h, opened, if_pos (by simp)]

theorem opened_append (hne : s ≠ "") (h : '/' ∉ s.toList) (p : String) :
    opened (p ++ s) = p ++ s ++ "/" := by
  have hlast : (p ++ s).toList.getLast? ≠ some '/' := by
    intro hslash
    rw [String.toList_append, List.getLast?_append_of_ne_nil _
      (by simpa [String.toList_eq_nil_iff] using hne)] at hslash
    exact h (List.mem_of_getLast? hslash)
  have hempty : (p ++ s).isEmpty = false := by simp [hne]
  rw [opened, hempty, Bool.false_or, if_neg (by simpa only [beq_iff_eq] using hlast)]

/-- Empty segments leave no trace in a path that is made segment by segment. -/
theorem foldl_join {parts : List String} {last : String} (hlast : last ≠ "")
    (h : ∀ s ∈ parts ++ [last], '/' ∉ s.toList) (folder : String) :
    (parts ++ [last]).foldl join folder =
      opened folder ++ "/".intercalate ((parts ++ [last]).filter (· ≠ "")) := by
  induction parts generalizing folder with
  | nil =>
    have hrelative := isAbsolute_of_no_slash (h last (by simp))
    simp [join_of_relative hrelative, hlast]
  | cons s parts ih =>
    obtain ⟨hs, hrest⟩ := List.forall_mem_cons.mp h
    rw [List.cons_append, List.foldl_cons, ih hrest]
    by_cases hempty : s = ""
    · subst hempty
      rw [List.filter_cons_of_neg (by simp)]
      rw [join_of_relative (by decide), String.append_empty, opened_opened]
    · have hmore : (parts ++ [last]).filter (· ≠ "") ≠ [] := by simp [hlast]
      rw [join_of_relative (isAbsolute_of_no_slash hs), opened_append hempty hs,
        List.filter_cons_of_pos (by simpa using hempty), String.intercalate_cons_of_ne_nil hmore]
      simp only [String.append_assoc]

/-- The segments that are not empty. -/
def names (p : String) : List String := (segments p).filter (· ≠ "")

theorem below_eq (h : (segments p).getLast? ≠ some "") (folder : String) :
    below folder p = opened folder ++ "/".intercalate (names p) := by
  have hparts := dropLast_append_last p
  have hlast : (segments p).getLast?.getD "" ≠ "" := by
    rw [List.getLast?_eq_some_getLast (segments_ne_nil p)] at h ⊢
    simpa using h
  unfold below names
  rw [← hparts]
  exact foldl_join hlast (fun s hs => no_slash_of_mem_segments (hparts ▸ hs)) folder

/-- Without empty segments it does not matter whether a path is joined at once. -/
theorem below_eq_join (h : "" ∉ segments p) (folder : String) :
    below folder p = join folder p := by
  have hlast : (segments p).getLast? ≠ some "" := fun hlast => h (List.mem_of_getLast? hlast)
  have hnames : names p = segments p :=
    List.filter_eq_self.mpr fun s hs => by simpa using ne_of_mem_of_not_mem hs h
  have hrelative : isAbsolute p = false := by
    refine Bool.eq_false_iff.mpr fun habsolute => h ?_
    obtain ⟨q, rfl⟩ := isAbsolute_iff.mp habsolute
    rw [segments_slash_append]
    exact List.mem_cons_self
  rw [below_eq hlast, hnames, join_of_relative hrelative]
  exact congrArg _ (Text.intercalate_splitAt rfl p)

theorem segments_intercalate_names (h : names p ≠ []) :
    segments ("/".intercalate (names p)) = names p :=
  segments_intercalate h fun _ hs => no_slash_of_mem_segments (List.mem_of_mem_filter hs)

/-- Where both ways to join a path agree, its empty segments come before all others. -/
theorem pairwise_of_below_eq_join (hlast : (segments p).getLast? ≠ some "") {folder : String}
    (h : below folder p = join folder p) :
    (segments p).Pairwise fun s r => r = "" → s = "" := by
  have hnames : names p ≠ [] := by
    rw [← dropLast_append_last p] at hlast
    have hmem : (segments p).getLast?.getD "" ∈ names p := by
      refine List.mem_filter.mpr ⟨?_, by simpa using hlast⟩
      rw [← dropLast_append_last p]
      simp
    exact List.ne_nil_of_mem hmem
  have hfull : ∀ s ∈ names p, s ≠ "" := fun s hs => by simpa using List.of_mem_filter hs
  have hends : (names p).Pairwise fun s r => r = "" → s = "" :=
    List.pairwise_of_forall_mem_list fun s _ r hr hempty => absurd hempty (hfull r hr)
  rw [below_eq hlast] at h
  by_cases habsolute : isAbsolute p
  · rw [join, if_pos habsolute] at h
    rcases opened_cases folder with hnone | ⟨q, hslash⟩
    · rw [hnone, String.empty_append] at h
      rwa [← h, segments_intercalate_names hnames]
    · -- the folder has no names, as all those of the path are behind it
      rw [hslash] at h
      have hcut : segments p = segments q ++ names p := by
        rw [← segments_intercalate_names hnames, ← segments_append_slash, h]
      have hfront : names q = [] := by
        have hfilter := congrArg (List.filter (· ≠ "")) hcut
        have hkept : (names p).filter (· ≠ "") = names p :=
          List.filter_eq_self.mpr fun s hs => by simpa using hfull s hs
        rw [List.filter_append, hkept] at hfilter
        exact List.append_left_eq_self.mp hfilter.symm
      have hempty : ∀ s ∈ segments q, s = "" := by simpa [names] using hfront
      rw [hcut, List.pairwise_append]
      refine ⟨List.pairwise_of_forall_mem_list fun s hs _ _ _ => hempty s hs, hends, ?_⟩
      exact fun s hs _ _ _ => hempty s hs
  · rw [join_of_relative (by simpa using habsolute)] at h
    have hp := (String.append_right_inj _).mp h
    rwa [← hp, segments_intercalate_names hnames]

end Scaffold.Path
