import Mathlib.Algebra.Group.Nat.Defs
import Mathlib.Data.List.Induction
import Mathlib.Data.List.Nodup
import Mathlib.Data.List.Pairwise

/-! Names with a row number glued on, and the row counts up to which they stay different. -/
namespace Scaffold.Text

/-- Every name with every row number, row by row. -/
def numbered (names : List String) (rows : Nat) : List String :=
  (List.range rows).flatMap fun i => names.map (· ++ toString i)

theorem length_numbered (names : List String) (rows : Nat) :
    (numbered names rows).length = rows * names.length := by
  simp [numbered, List.length_flatMap]

theorem isDigit_of_mem_toString {n : Nat} {c : Char} (h : c ∈ (toString n).toList) : c.isDigit := by
  rw [Nat.toString_eq_repr, Nat.toList_repr] at h
  exact Nat.isDigit_of_mem_toDigits (by decide) (by decide) h

theorem head_toString (i : Nat) : ∃ c ∈ (toString i).toList.head?, c.isDigit := by
  have hne : (toString i).toList ≠ [] := by
    rw [Nat.toString_eq_repr, Nat.toList_repr]
    exact Nat.toDigits_ne_nil
  obtain ⟨c, hc⟩ := Option.ne_none_iff_exists'.mp (mt List.head?_eq_none_iff.mp hne)
  exact ⟨c, hc, isDigit_of_mem_toString (List.mem_of_mem_head? hc)⟩

theorem toString_injective {i j : Nat} (h : toString i = toString j) : i = j := by
  have hdigits : Nat.toDigits 10 i = Nat.toDigits 10 j := by
    simpa using congrArg String.toList h
  simpa using congrArg (Nat.ofDigitChars 10 · 0) hdigits

/-- What is left of a numeral when digits are cut off its end is again a numeral. -/
theorem toDigits_of_append {n : Nat} {w l : List Char} (hw : w ≠ [])
    (h : Nat.toDigits 10 n = w ++ l) : w = Nat.toDigits 10 (n / 10 ^ l.length) := by
  induction l using List.reverseRecOn generalizing n with
  | nil => simpa using h.symm
  | append_singleton l d ih =>
    have hlen : 1 < (Nat.toDigits 10 n).length := by
      have := List.length_pos_iff.mpr hw
      rw [h, List.length_append, List.length_append, List.length_singleton]
      omega
    have hten : 10 ≤ n := by
      by_contra hlt
      rw [Nat.toDigits_of_lt_base (by omega)] at hlen
      simp at hlen
    rw [Nat.toDigits_of_base_le (by decide) hten, ← List.append_assoc] at h
    have hinit := (List.append_inj' h rfl).1
    rw [ih hinit, Nat.div_div_eq_div_mul, List.length_append, List.length_singleton,
      Nat.pow_succ, Nat.mul_comm]

/-- A numeral that ends in another one continues it on the left by a positive number, which is at
most a tenth of it. -/
theorem toString_eq_append {w : String} {i j : Nat} (hw : w ≠ "")
    (h : toString i = w ++ toString j) : ∃ k, 0 < k ∧ 10 * k ≤ i ∧ w = toString k := by
  have hdigits : Nat.toDigits 10 i = w.toList ++ Nat.toDigits 10 j := by
    simpa using congrArg String.toList h
  have hne : w.toList ≠ [] := fun hnil => hw (String.toList_eq_nil_iff.mp hnil)
  have hlen : 0 < (Nat.toDigits 10 j).length := Nat.length_toDigits_pos
  have hlow : 10 ^ (Nat.toDigits 10 j).length ≤ i := by
    by_contra hlt
    have hle := (Nat.length_toDigits_le_iff (by decide) hlen).mpr (Nat.lt_of_not_le hlt)
    have := List.length_pos_iff.mpr hne
    rw [hdigits, List.length_append] at hle
    omega
  have hpow : 0 < 10 ^ (Nat.toDigits 10 j).length := Nat.pow_pos (by decide)
  refine ⟨i / 10 ^ (Nat.toDigits 10 j).length, Nat.div_pos hlow hpow, ?_, ?_⟩
  · have hten : 10 ^ 1 ≤ 10 ^ (Nat.toDigits 10 j).length := Nat.pow_le_pow_right (by decide) hlen
    calc 10 * (i / 10 ^ (Nat.toDigits 10 j).length)
        ≤ 10 ^ (Nat.toDigits 10 j).length * (i / 10 ^ (Nat.toDigits 10 j).length) :=
          Nat.mul_le_mul_right _ hten
      _ ≤ i := Nat.mul_div_le i _
  · rw [← String.toList_inj]
    simpa using toDigits_of_append hne hdigits

theorem toString_mul_ten {k : Nat} (hk : 0 < k) :
    toString (10 * k) = toString k ++ toString 0 := by
  have hdigits := Nat.toDigits_append_toDigits (show 1 < 10 by decide) hk (show 0 < 10 by decide)
  rw [Nat.add_zero] at hdigits
  rw [← String.toList_inj]
  simpa using hdigits.symm

/-- A name continued on the right takes the continuation from the number behind it. -/
theorem eq_or_numbered_of_append {c d w : String} {i j : Nat} (hd : d = c ++ w)
    (hi : toString i = w ++ toString j) :
    (c = d ∧ i = j) ∨ ∃ k, 0 < k ∧ 10 * k ≤ i ∧ d = c ++ toString k := by
  by_cases hw : w = ""
  · rw [hw, String.empty_append] at hi
    rw [hw, String.append_empty] at hd
    exact .inl ⟨hd.symm, toString_injective hi⟩
  · obtain ⟨k, hk, hle, rfl⟩ := toString_eq_append hw hi
    exact .inr ⟨k, hk, hle, hd⟩

/-- Two numbered names meet only if one name is the other with a positive number behind it. -/
theorem numbered_collision {c d : String} {i j : Nat} (h : c ++ toString i = d ++ toString j) :
    (c = d ∧ i = j) ∨ (∃ k, 0 < k ∧ 10 * k ≤ i ∧ d = c ++ toString k) ∨
      (∃ k, 0 < k ∧ 10 * k ≤ j ∧ c = d ++ toString k) := by
  have hlist := congrArg String.toList h
  rw [String.toList_append, String.toList_append] at hlist
  obtain ⟨w, hd, hi⟩ | ⟨w, hc, hj⟩ := List.append_eq_append_iff.mp hlist
  · have hd : d = c ++ String.ofList w := by simpa [← String.toList_inj] using hd
    have hi : toString i = String.ofList w ++ toString j := by
      simpa [← String.toList_inj] using hi
    exact (eq_or_numbered_of_append hd hi).imp id .inl
  · have hc : c = d ++ String.ofList w := by simpa [← String.toList_inj] using hc
    have hj : toString j = String.ofList w ++ toString i := by
      simpa [← String.toList_inj] using hj
    exact (eq_or_numbered_of_append hc hj).imp (fun ⟨heq, hij⟩ => ⟨heq.symm, hij.symm⟩) .inr

/-- The numbered names of so many rows are pairwise different exactly when no name is another one
with a number behind it of which the tenfold is a row. -/
theorem nodup_numbered_iff {names : List String} (h : names.Nodup) (rows : Nat) :
    (numbered names rows).Nodup ↔
      ∀ c ∈ names, ∀ d ∈ names, ∀ k, 0 < k → d = c ++ toString k → rows ≤ 10 * k := by
  unfold numbered
  rw [List.nodup_flatMap]
  constructor
  · rintro ⟨-, hpair⟩ c hc d hd k hk heq
    by_contra hlt
    have hfirst : 0 ∈ List.range rows := List.mem_range.mpr (by omega)
    have htenth : 10 * k ∈ List.range rows := List.mem_range.mpr (by omega)
    have hsymm : Std.Symm (Function.onFun List.Disjoint fun i : Nat =>
      names.map (· ++ toString i)) := ⟨fun _ _ h _ hx hy => h hy hx⟩
    have hdisjoint := hpair.forall hfirst htenth (by omega)
    refine hdisjoint (List.mem_map_of_mem hd) (List.mem_map.mpr ⟨c, hc, ?_⟩)
    rw [heq, toString_mul_ten hk, String.append_assoc]
  · intro hfree
    refine ⟨fun i _ => h.map (fun c d hcd => (String.append_left_inj _).mp hcd), ?_⟩
    refine List.nodup_range.pairwise_of_forall_ne fun i hi j hj hij => ?_
    rw [List.mem_range] at hi hj
    intro x hxi hxj
    obtain ⟨c, hc, rfl⟩ := List.mem_map.mp hxi
    obtain ⟨d, hd, heq⟩ := List.mem_map.mp hxj
    obtain ⟨-, hji⟩ | ⟨k, hk, hle, hcd⟩ | ⟨k, hk, hle, hdc⟩ := numbered_collision heq
    · exact hij hji.symm
    · have := hfree d hd c hc k hk hcd
      omega
    · have := hfree c hc d hd k hk hdc
      omega

end Scaffold.Text
