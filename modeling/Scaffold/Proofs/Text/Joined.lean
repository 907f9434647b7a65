import Mathlib.Data.List.Basic

/-! Lists that are read back item by item from their joined texts. -/
namespace Scaffold.Text

variable {α : Type} {code : α → String} {Follows : String → Prop} {sep r s : String}
  {xs ys : List α}

/-- Texts that begin differently are different. -/
theorem append_ne_of_head {a b : String} {c d : Char} (ha : a.toList.head? = some c)
    (hb : b.toList.head? = some d) (hne : c ≠ d) (r s : String) : a ++ r ≠ b ++ s := by
  intro h
  have hheads := congrArg (fun text => text.toList.head?) h
  simp only [String.toList_append, List.head?_append, ha, hb, Option.some_or] at hheads
  exact hne (Option.some.inj hheads)

/-- Each item ends where its text does, as long as only such texts follow as `Follows` allows. -/
def ReadBack (code : α → String) (Follows : String → Prop) : Prop :=
  ∀ {x y r s}, Follows r → Follows s → code x ++ r = code y ++ s → x = y ∧ r = s

/-- What stands behind an item: more of them, each behind a separator, and then `rest`. -/
def behindItem (code : α → String) (sep rest : String) : List α → String
  | [] => rest
  | x :: xs => sep ++ (code x ++ behindItem code sep rest xs)

theorem follows_behindItem (hsep : ∀ t, Follows (sep ++ t)) (hr : Follows r) (xs : List α) :
    Follows (behindItem code sep r xs) := by
  cases xs with
  | nil => exact hr
  | cons x xs => exact hsep _

theorem behindItem_inj (hcode : ReadBack code Follows) (hsep : ∀ t, Follows (sep ++ t))
    (hr : Follows r) (hs : Follows s) (hrsep : ∀ t, r ≠ sep ++ t) (hssep : ∀ t, s ≠ sep ++ t)
    (h : behindItem code sep r xs = behindItem code sep s ys) : xs = ys ∧ r = s := by
  induction xs generalizing ys with
  | nil =>
    cases ys with
    | nil => exact ⟨rfl, h⟩
    | cons y ys => exact absurd h (hrsep _)
  | cons x xs ih =>
    cases ys with
    | nil => exact absurd h.symm (hssep _)
    | cons y ys =>
      obtain ⟨rfl, hrest⟩ := hcode (follows_behindItem hsep hr xs) (follows_behindItem hsep hs ys)
        ((String.append_right_inj _).mp h)
      obtain ⟨rfl, hend⟩ := ih hrest
      exact ⟨rfl, hend⟩

theorem intercalate_cons_append_eq (x : α) (xs : List α) (rest : String) :
    sep.intercalate ((x :: xs).map code) ++ rest = code x ++ behindItem code sep rest xs := by
  induction xs generalizing x with
  | nil => simp [behindItem]
  | cons next xs ih =>
    have hnext := ih next
    rw [List.map_cons] at hnext
    simp only [List.map_cons, String.intercalate_cons_cons, String.append_assoc, hnext, behindItem]

/-- A text that goes on neither with a separator nor with an item ends the joined items. -/
theorem intercalate_append_inj (hcode : ReadBack code Follows) (hsep : ∀ t, Follows (sep ++ t))
    (hr : Follows r) (hs : Follows s) (hrsep : ∀ t, r ≠ sep ++ t) (hssep : ∀ t, s ≠ sep ++ t)
    (hritem : ∀ x t, r ≠ code x ++ t) (hsitem : ∀ x t, s ≠ code x ++ t)
    (h : sep.intercalate (xs.map code) ++ r = sep.intercalate (ys.map code) ++ s) :
    xs = ys ∧ r = s := by
  have hnil : ∀ rest, sep.intercalate (([] : List α).map code) ++ rest = rest := by simp
  cases xs with
  | nil =>
    cases ys with
    | nil => simpa using h
    | cons y ys =>
      rw [hnil, intercalate_cons_append_eq] at h
      exact absurd h (hritem y _)
  | cons x xs =>
    cases ys with
    | nil =>
      rw [hnil, intercalate_cons_append_eq] at h
      exact absurd h.symm (hsitem x _)
    | cons y ys =>
      rw [intercalate_cons_append_eq, intercalate_cons_append_eq] at h
      obtain ⟨rfl, hrest⟩ :=
        hcode (follows_behindItem hsep hr xs) (follows_behindItem hsep hs ys) h
      obtain ⟨rfl, hend⟩ := behindItem_inj hcode hsep hr hs hrsep hssep hrest
      exact ⟨rfl, hend⟩

end Scaffold.Text
