import Mathlib.Data.List.Forall2
import Scaffold.Proofs.Files.Places

/-! Paths that stay below the folder they are joined to. -/
namespace Scaffold

namespace FileTree

variable {t : FileTree} {l : Location} {p q e : String} {ss rs : List String} {depth depth' : Nat}

/-- The path leads to a place inside the folder, and not to the folder itself. -/
def StrictlyBelow (t : FileTree) (folder p : String) : Prop :=
  ∃ rest, rest ≠ [] ∧ t.place p = t.place folder ++ rest

/-- Whether segments that start some folders down never lead further up than those folders. -/
def stays : Nat → List String → Bool
  | _, [] => true
  | depth, s :: rest =>
    if s == ".." then
      match depth with
      | 0 => false
      | depth + 1 => stays depth rest
    else stays (if isName s then depth + 1 else depth) rest

theorem stays_up_cons (depth : Nat) (rest : List String) :
    stays depth (".." :: rest) ↔ ∃ above, depth = above + 1 ∧ stays above rest := by
  cases depth <;> simp [stays]

theorem stays_cons_of_ne {s : String} (h : s ≠ "..") (depth : Nat) (rest : List String) :
    stays depth (s :: rest) = stays (if isName s then depth + 1 else depth) rest := by
  have hs : (s == "..") = false := by simpa using h
  cases depth <;> rw [stays, hs] <;> rfl

/-- A segment is skipped, leads upwards, or leads on. -/
theorem stays_cases (s : String) :
    ((∀ l, onward l s = l) ∧ ∀ depth rest, stays depth (s :: rest) = stays depth rest) ∨
    s = ".." ∨
    ((∀ l, onward l s = l ++ [s]) ∧
      ∀ depth rest, stays depth (s :: rest) = stays (depth + 1) rest) := by
  obtain ⟨hskip, hname, honward⟩ | ⟨-, hup, -, -⟩ | ⟨-, hup, hname⟩ := segment_cases s
  · left
    have hs : s ≠ ".." := by
      rintro rfl
      simp at hskip
    refine ⟨honward, fun depth rest => ?_⟩
    rw [stays_cons_of_ne hs, if_neg (by simp [hname])]
  · exact .inr (.inl (by simpa using hup))
  · right
    right
    refine ⟨onward_of_isName hname, fun depth rest => ?_⟩
    rw [stays_cons_of_ne (by simpa using hup), if_pos hname]

theorem onward_up (l : Location) : onward l ".." = l.dropLast := rfl

theorem not_isName_up : isName ".." = false := by decide

/-- Where a segment is replaced by a name, or stays what it is, the way leads no further up. -/
theorem stays_of_forall₂ (h : List.Forall₂ (fun s r => r = s ∨ isName r) ss rs)
    (hdepth : depth ≤ depth') (hstays : stays depth ss) : stays depth' rs := by
  induction h generalizing depth depth' with
  | nil => rfl
  | @cons s r ss rs hsr _ ih =>
    by_cases hs : s = ".."
    · subst hs
      obtain ⟨above, rfl, hrest⟩ := (stays_up_cons depth ss).mp hstays
      rcases hsr with rfl | hname
      · obtain ⟨above', rfl⟩ := Nat.exists_eq_succ_of_ne_zero (show depth' ≠ 0 by omega)
        exact (stays_up_cons _ rs).mpr ⟨above', rfl, ih (by omega) hrest⟩
      · have hr : r ≠ ".." := fun heq => by simp [heq, not_isName_up] at hname
        rw [stays_cons_of_ne hr, if_pos hname]
        exact ih (by omega) hrest
    · rw [stays_cons_of_ne hs] at hstays
      have hr : r ≠ ".." := by
        rintro rfl
        rcases hsr with heq | hname
        · exact hs heq.symm
        · rw [not_isName_up] at hname
          contradiction
      rw [stays_cons_of_ne hr]
      refine ih ?_ hstays
      rcases hsr with rfl | hname
      · split <;> omega
      · rw [if_pos hname]
        split <;> omega

theorem stays_mono (hdepth : depth ≤ depth') (h : stays depth ss) : stays depth' ss :=
  stays_of_forall₂ (List.forall₂_same.mpr fun _ _ => .inl rfl) hdepth h

theorem stays_append (hss : stays depth ss) (hrs : stays 0 rs) : stays depth (ss ++ rs) := by
  induction ss generalizing depth with
  | nil => exact stays_mono (Nat.zero_le depth) hrs
  | cons s ss ih =>
    by_cases hs : s = ".."
    · subst hs
      obtain ⟨above, rfl, hrest⟩ := (stays_up_cons depth ss).mp hss
      exact (stays_up_cons _ (ss ++ rs)).mpr ⟨above, rfl, ih hrest⟩
    · rw [stays_cons_of_ne hs] at hss
      rw [List.cons_append, stays_cons_of_ne hs]
      exact ih hss

theorem stays_of_append (h : stays depth (ss ++ rs)) : stays depth ss := by
  induction ss generalizing depth with
  | nil => rfl
  | cons s ss ih =>
    by_cases hs : s = ".."
    · subst hs
      obtain ⟨above, rfl, hrest⟩ := (stays_up_cons depth (ss ++ rs)).mp h
      exact (stays_up_cons _ ss).mpr ⟨above, rfl, ih hrest⟩
    · rw [List.cons_append, stays_cons_of_ne hs] at h
      rw [stays_cons_of_ne hs]
      exact ih h

theorem stays_flatMap {parts : List String} {f : String → List String}
    (h : ∀ s ∈ parts, stays 0 (f s)) : stays 0 (parts.flatMap f) := by
  induction parts with
  | nil => rfl
  | cons s rest ih =>
    obtain ⟨hs, hrest⟩ := List.forall_mem_cons.mp h
    exact stays_append hs (ih hrest)

theorem foldl_onward_of_stays (base : Location) (hl : l.length = depth) (h : stays depth ss) :
    ∃ l', ss.foldl onward (base ++ l) = base ++ l' := by
  induction ss generalizing l depth with
  | nil => exact ⟨l, rfl⟩
  | cons s ss ih =>
    rw [List.foldl_cons]
    obtain ⟨honward, hstays⟩ | rfl | ⟨honward, hstays⟩ := stays_cases s
    · rw [hstays] at h
      rw [honward]
      exact ih hl h
    · obtain ⟨above, rfl, hrest⟩ := (stays_up_cons depth ss).mp h
      have hne : l ≠ [] := List.ne_nil_of_length_eq_add_one hl
      rw [onward_up, List.dropLast_append_of_ne_nil hne]
      exact ih (by rw [List.length_dropLast, hl]; rfl) hrest
    · rw [hstays] at h
      rw [honward, List.append_assoc]
      exact ih (by rw [List.length_append, hl]; rfl) h

theorem mem_foldl_onward {s : String} (h : s ∈ ss.foldl onward l) : s ∈ l ∨ s ∈ ss := by
  induction ss generalizing l with
  | nil => exact .inl h
  | cons r ss ih =>
    rw [List.foldl_cons] at h
    rcases ih h with h | h
    · obtain ⟨honward, -⟩ | rfl | ⟨honward, -⟩ := stays_cases r
      · exact .inl (honward l ▸ h)
      · exact .inl (List.dropLast_subset _ h)
      · rw [honward, List.mem_append, List.mem_singleton] at h
        exact h.imp_right fun heq => List.mem_cons.mpr (.inl heq)
    · exact .inr (List.mem_cons_of_mem r h)

/-- Segments that lead above a folder never come back to it, unless one of them has its name. -/
theorem not_mem_foldl_onward {folder : String} (hl : l.length = depth) (hfolder : folder ∉ ss)
    (hnot : folder ∉ l) (h : stays depth ss = false) :
    folder ∉ ss.foldl onward (folder :: l) := by
  induction ss generalizing l depth with
  | nil => contradiction
  | cons s ss ih =>
    obtain ⟨hs, hss⟩ := not_or.mp (mt List.mem_cons.mpr hfolder)
    rw [List.foldl_cons]
    obtain ⟨honward, hstays⟩ | rfl | ⟨honward, hstays⟩ := stays_cases s
    · rw [hstays] at h
      rw [honward]
      exact ih hl hss hnot h
    · rw [onward_up]
      cases depth with
      | zero =>
        obtain rfl := List.length_eq_zero_iff.mp hl
        exact fun hmem => (mem_foldl_onward hmem).elim (by simp) hss
      | succ above =>
        have hne : l ≠ [] := List.ne_nil_of_length_eq_add_one hl
        have hrest : stays above ss = false := by
          rw [Bool.eq_false_iff] at h ⊢
          exact fun hrest => h ((stays_up_cons _ ss).mpr ⟨above, rfl, hrest⟩)
        rw [List.dropLast_cons_of_ne_nil hne]
        refine ih ?_ hss (fun hmem => hnot (List.dropLast_subset _ hmem)) hrest
        rw [List.length_dropLast, hl]
        rfl
    · rw [hstays] at h
      rw [honward, List.cons_append]
      refine ih (by rw [List.length_append, hl]; rfl) hss ?_ h
      rw [List.mem_append, List.mem_singleton]
      exact not_or.mpr ⟨hnot, hs⟩

theorem strictlyBelow_of_stays (hname : isName (baseName p)) (h : stays 0 (Path.segments p))
    (t : FileTree) (folder : String) : t.StrictlyBelow folder (Path.below folder p) := by
  have hparts := Path.dropLast_append_last p
  rw [← hparts] at h
  obtain ⟨l, hl⟩ := foldl_onward_of_stays (l := []) (t.place folder) rfl (stays_of_append h)
  rw [List.append_nil] at hl
  refine ⟨l ++ [baseName p], by simp, ?_⟩
  rw [place_below, ← hparts, List.foldl_append, hl, List.foldl_cons, List.foldl_nil, ← baseName,
    onward_of_isName hname, List.append_assoc]

theorem exists_longer (ss : List String) : ∃ n, ∀ s ∈ ss, s.length < n := by
  induction ss with
  | nil => exact ⟨0, by simp⟩
  | cons s ss ih =>
    obtain ⟨n, hn⟩ := ih
    refine ⟨n + s.length + 1, List.forall_mem_cons.mpr ⟨by omega, fun r hr => ?_⟩⟩
    have := hn r hr
    omega

/-- Below a folder with a name of its own, such segments lead out of it. -/
theorem exists_not_strictlyBelow (h : stays 0 (Path.segments p) = false) :
    ∃ folder, ¬ ({} : FileTree).StrictlyBelow folder (Path.below folder p) := by
  obtain ⟨n, hn⟩ := exists_longer (Path.segments p)
  let folder := String.ofList (List.replicate (n + 1) 'x')
  have hchars : folder.toList = List.replicate (n + 1) 'x' := String.toList_ofList
  have hslash : '/' ∉ folder.toList := by simp [hchars]
  have hname : isName folder := by
    have happend := isName_append (s := "") (e := folder) (by simp [hchars])
    rwa [String.empty_append] at happend
  have hfresh : folder ∉ Path.segments p := by
    intro hmem
    have hlength := hn folder hmem
    rw [← String.length_toList, hchars, List.length_replicate] at hlength
    omega
  have hplace : ({} : FileTree).place folder = [folder] := by
    have hstart : ({} : FileTree).start folder = [] := by
      unfold start
      split <;> rfl
    rw [place, Path.segments_of_no_slash hslash, hstart, List.foldl_cons, List.foldl_nil,
      onward_of_isName hname, List.nil_append]
  refine ⟨folder, ?_⟩
  rintro ⟨rest, -, heq⟩
  rw [place_below, hplace] at heq
  refine not_mem_foldl_onward (l := []) rfl hfresh List.not_mem_nil h ?_
  rw [heq]
  exact List.mem_cons_self

end FileTree

end Scaffold
