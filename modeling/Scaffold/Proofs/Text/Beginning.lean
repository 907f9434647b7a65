import Mathlib.Data.List.Basic

/-! How texts begin. -/
namespace Scaffold.Text

variable {p s : String} {c : Char}

/-- Stated for all texts, so that none of them is evaluated where it is used. -/
theorem append_four (s t u v w : String) : s ++ t ++ u ++ v ++ w = s ++ (t ++ (u ++ (v ++ w))) := by
  simp only [String.append_assoc]

theorem getElem?_append {i : Nat} (h : s.toList[i]? = some c) (t : String) :
    (s ++ t).toList[i]? = some c := by
  rw [String.toList_append, List.getElem?_append_left (List.getElem?_eq_some_iff.mp h).1, h]

/-- Some character of the text is another one than `p` has in its place. -/
def differs (p s : String) : Bool := (s.toList.zip p.toList).any fun x => x.1 != x.2

theorem any_zip_append {cs ps : List Char} (h : (cs.zip ps).any fun x => x.1 != x.2)
    (ds : List Char) : ((cs ++ ds).zip ps).any fun x => x.1 != x.2 := by
  induction cs generalizing ps with
  | nil => simp at h
  | cons c cs ih =>
    cases ps with
    | nil => simp at h
    | cons q ps =>
      rw [List.zip_cons_cons, List.any_cons, Bool.or_eq_true] at h
      rw [List.cons_append, List.zip_cons_cons, List.any_cons, Bool.or_eq_true]
      exact h.imp_right ih

theorem differs_append (h : differs p s) (t : String) : differs p (s ++ t) := by
  unfold differs at h ⊢
  rw [String.toList_append]
  exact any_zip_append h t.toList

/-- A literal is reached by its list of characters, so that its text need not be evaluated. -/
theorem differs_ofList {cs : List Char} (h : (cs.zip p.toList).any fun x => x.1 != x.2) :
    differs p (String.ofList cs) := by
  rwa [differs, String.toList_ofList]

theorem starts_self_append (p t : String) : p.toList <+: (p ++ t).toList := by
  rw [String.toList_append]
  exact List.prefix_append _ _

theorem starts_append (h : p.toList.isPrefixOf s.toList) (t : String) :
    p.toList <+: (s ++ t).toList :=
  (List.isPrefixOf_iff_prefix.mp h).trans (starts_self_append s t)

/-- Two beginnings of a text that are of one length are the same. -/
theorem eq_of_starts {q : String} (hp : p.toList <+: s.toList) (hq : q.toList <+: s.toList)
    (h : p.length = q.length) : p = q := by
  have hlength : p.toList.length = q.toList.length := by
    rw [String.length_toList, String.length_toList, h]
  exact String.toList_inj.mp
    ((List.prefix_of_prefix_length_le hp hq (Nat.le_of_eq hlength)).eq_of_length hlength)

theorem not_starts_of_differs (h : differs p s) : ¬ p.toList <+: s.toList := by
  rintro ⟨rest, hrest⟩
  obtain ⟨x, hx, hne⟩ := List.any_eq_true.mp h
  obtain ⟨i, hi⟩ := List.mem_iff_getElem?.mp hx
  obtain ⟨hfirst, hsecond⟩ := List.getElem?_zip_eq_some.mp hi
  rw [← hrest, List.getElem?_append_left (List.getElem?_eq_some_iff.mp hsecond).1] at hfirst
  simp [Option.some.inj (hfirst.symm.trans hsecond)] at hne

end Scaffold.Text
