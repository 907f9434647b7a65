import Mathlib.Data.List.Sort
import Mathlib.Data.String.Basic
import Scaffold.Keyed

/-! Maps with text keys: nothing is lost while keys differ. -/
namespace Scaffold.Keyed

variable {α : Type} {key : α → String}

/-- Keys stand in their order, each of them once. -/
def Sorted (key : α → String) (xs : List α) : Prop := xs.Pairwise fun x y => key x < key y

theorem Sorted.nodup_keys {xs : List α} (h : Sorted key xs) : (xs.map key).Nodup :=
  List.pairwise_map.mpr (h.imp ne_of_lt)

theorem mem_insert {x y : α} {xs : List α} (h : y ∈ insert key x xs) : y = x ∨ y ∈ xs := by
  induction xs with
  | nil => exact .inl (List.mem_singleton.mp h)
  | cons z rest ih =>
    unfold insert at h
    split at h
    · rcases List.mem_cons.mp h with rfl | h
      · exact .inl rfl
      · exact .inr (List.mem_cons_of_mem z h)
    · split at h
      · exact List.mem_cons.mp h
      · rcases List.mem_cons.mp h with rfl | h
        · exact .inr List.mem_cons_self
        · exact (ih h).imp_right (List.mem_cons_of_mem z)

theorem sorted_insert (x : α) {xs : List α} (h : Sorted key xs) :
    Sorted key (insert key x xs) := by
  induction xs with
  | nil => exact List.pairwise_singleton _ x
  | cons y rest ih =>
    obtain ⟨hfirst, hrest⟩ := List.pairwise_cons.mp h
    unfold insert
    split
    case isTrue heq => exact List.pairwise_cons.mpr ⟨fun z hz => heq ▸ hfirst z hz, hrest⟩
    case isFalse hne =>
      split
      case isTrue hlt =>
        refine List.pairwise_cons.mpr ⟨fun z hz => ?_, h⟩
        rcases List.mem_cons.mp hz with rfl | hz
        · exact hlt
        · exact hlt.trans (hfirst z hz)
      case isFalse hle =>
        refine List.pairwise_cons.mpr ⟨fun z hz => ?_, ih hrest⟩
        rcases mem_insert hz with rfl | hz
        · exact (lt_trichotomy (key z) (key y)).resolve_left hle |>.resolve_left hne
        · exact hfirst z hz

theorem insert_perm {x : α} {xs : List α} (h : ∀ y ∈ xs, key y ≠ key x) :
    (insert key x xs).Perm (x :: xs) := by
  induction xs with
  | nil => exact .refl _
  | cons y rest ih =>
    obtain ⟨hy, hrest⟩ := List.forall_mem_cons.mp h
    unfold insert
    rw [if_neg (Ne.symm hy)]
    split
    · exact .refl _
    · exact ((ih hrest).cons y).trans (.swap x y rest)

theorem sorted_foldl (xs : List α) {m : List α} (h : Sorted key m) :
    Sorted key (xs.foldl (fun m x => insert key x m) m) := by
  induction xs generalizing m with
  | nil => exact h
  | cons x rest ih => exact ih (sorted_insert x h)

theorem sorted_ofList (xs : List α) : Sorted key (ofList key xs) :=
  sorted_foldl xs List.Pairwise.nil

theorem foldl_perm {xs m : List α} (h : ((m ++ xs).map key).Nodup) :
    (xs.foldl (fun m x => insert key x m) m).Perm (m ++ xs) := by
  induction xs generalizing m with
  | nil => rw [List.append_nil]; exact .refl m
  | cons x rest ih =>
    have hmoved : (m ++ x :: rest).Perm ((x :: m) ++ rest) := List.perm_middle
    have hnodup : (((x :: m) ++ rest).map key).Nodup := (hmoved.map key).nodup_iff.mp h
    have hx : ∀ y ∈ m, key y ≠ key x := by
      intro y hy heq
      have hnot := (List.nodup_cons.mp hnodup).1
      exact hnot (List.mem_map.mpr ⟨y, List.mem_append_left rest hy, heq⟩)
    have hinsert : (insert key x m ++ rest).Perm ((x :: m) ++ rest) :=
      (insert_perm hx).append_right rest
    exact (ih ((hinsert.map key).nodup_iff.mpr hnodup)).trans (hinsert.trans hmoved.symm)

/-- Values with different keys are all kept. -/
theorem ofList_perm {xs : List α} (h : (xs.map key).Nodup) : (ofList key xs).Perm xs := foldl_perm h

/-- Two maps with the same values are equal. -/
theorem Sorted.eq_of_perm {xs ys : List α} (hxs : Sorted key xs) (hys : Sorted key ys)
    (h : xs.Perm ys) : xs = ys :=
  h.eq_of_pairwise (fun _ _ _ _ hxy hyx => absurd (hxy.trans hyx) (lt_irrefl _)) hxs hys

/-- The map does not depend on the order in which its values arrive. -/
theorem ofList_eq_of_perm {xs ys : List α} (h : (xs.map key).Nodup) (hperm : xs.Perm ys) :
    ofList key xs = ofList key ys := by
  have hys : (ys.map key).Nodup := (hperm.map key).nodup_iff.mp h
  have hall := (ofList_perm h).trans (hperm.trans (ofList_perm hys).symm)
  exact (sorted_ofList xs).eq_of_perm (sorted_ofList ys) hall

/-- Values that are left out beforehand are left out of the map, and nothing else is. -/
theorem ofList_filter {xs : List α} (h : (xs.map key).Nodup) (p : α → Bool) :
    ofList key (xs.filter p) = (ofList key xs).filter p := by
  have hfilter : ((xs.filter p).map key).Nodup := h.sublist (List.filter_sublist.map key)
  have hsorted : Sorted key ((ofList key xs).filter p) := (sorted_ofList xs).filter p
  have hperm := (ofList_perm hfilter).trans ((ofList_perm h).filter p).symm
  exact (sorted_ofList _).eq_of_perm hsorted hperm

theorem find?_of_mem {xs : List α} (h : (xs.map key).Nodup) {x : α} (hx : x ∈ xs) :
    xs.find? (key · = key x) = some x := by
  induction xs with
  | nil => contradiction
  | cons y rest ih =>
    obtain ⟨hy, hrest⟩ := List.nodup_cons.mp h
    rcases List.mem_cons.mp hx with rfl | hx
    · simp
    · have hne : key y ≠ key x := fun heq => hy (List.mem_map.mpr ⟨x, hx, heq.symm⟩)
      rw [List.find?_cons_of_neg (by simpa using hne), ih hrest hx]

end Scaffold.Keyed
