import Scaffold.Proofs.Text.Lower
import Mathlib.Data.List.Basic

/-! Lower case of texts that differ in ASCII case only. -/
namespace Scaffold.Text

theorem eqIgnoringAsciiCase_iff {s t : String} :
    eqIgnoringAsciiCase s t ↔ asciiLower s = asciiLower t := beq_iff_eq

/-- Lists of characters are faster to compare than texts. -/
theorem eqIgnoringAsciiCase_eq_toList (s t : String) :
    eqIgnoringAsciiCase s t = (s.toList.map asciiLowerChar == t.toList.map asciiLowerChar) := by
  rw [Bool.eq_iff_iff, eqIgnoringAsciiCase_iff, beq_iff_eq, asciiLower, asciiLower,
    ← String.toList_inj, String.toList_map, String.toList_map]

theorem eqIgnoringAsciiCase_self (s : String) : eqIgnoringAsciiCase s s :=
  eqIgnoringAsciiCase_iff.mpr rfl

theorem eqIgnoringAsciiCase_comm {s t : String} :
    eqIgnoringAsciiCase s t = eqIgnoringAsciiCase t s := BEq.comm

theorem eqIgnoringAsciiCase_congr {s t : String} (h : eqIgnoringAsciiCase s t) (u : String) :
    eqIgnoringAsciiCase s u = eqIgnoringAsciiCase t u := by
  rw [eqIgnoringAsciiCase, eqIgnoringAsciiCase, eqIgnoringAsciiCase_iff.mp h]

/-- Lower case does not tell the characters apart, wherever they stand in a text. -/
structure Alike (c d : Char) : Prop where
  lowerChar_eq : lowerChar c = lowerChar d
  isCased_eq : isCased c = isCased d
  isCaseIgnorable_eq : isCaseIgnorable c = isCaseIgnorable d
  sigma_eq : (c == 'Σ') = (d == 'Σ')

theorem asciiLowerChar_letters : ∀ n ∈ List.range' 0x41 26,
    lowerChar (asciiLowerChar (.ofNat n)) = lowerChar (.ofNat n) ∧
      isCased (asciiLowerChar (.ofNat n)) = isCased (.ofNat n) ∧
      isCaseIgnorable (asciiLowerChar (.ofNat n)) = isCaseIgnorable (.ofNat n) ∧
      (asciiLowerChar (.ofNat n) == 'Σ') = (Char.ofNat n == 'Σ') := by
  decide +kernel

theorem alike_asciiLowerChar (c : Char) : Alike (asciiLowerChar c) c := by
  cases h : isAsciiUpper c with
  | true =>
    rw [isAsciiUpper_iff] at h
    have hletter := asciiLowerChar_letters c.toNat (List.mem_range'_1.mpr (by omega))
    rw [Char.ofNat_toNat] at hletter
    obtain ⟨hlower, hcased, hignorable, hsigma⟩ := hletter
    exact ⟨hlower, hcased, hignorable, hsigma⟩
  | false =>
    have hsame : asciiLowerChar c = c := by simp [asciiLowerChar, h]
    rw [hsame]
    exact ⟨rfl, rfl, rfl, rfl⟩

theorem isFinalSigma_map (before after : List Char) :
    isFinalSigma (before.map asciiLowerChar) (after.map asciiLowerChar) =
      isFinalSigma before after := by
  have hignorable : isCaseIgnorable ∘ asciiLowerChar = isCaseIgnorable :=
    funext fun c => (alike_asciiLowerChar c).isCaseIgnorable_eq
  have hmeets : ∀ cs : List Char,
      ((cs.map asciiLowerChar).dropWhile isCaseIgnorable).head?.any isCased =
        (cs.dropWhile isCaseIgnorable).head?.any isCased := by
    intro cs
    rw [List.dropWhile_map, hignorable, List.head?_map, Option.any_map]
    simp only [(alike_asciiLowerChar _).isCased_eq]
  rw [isFinalSigma_eq, isFinalSigma_eq, hmeets, hmeets]

/-- What was passed counts by its kind alone, and ASCII case is no part of that. -/
theorem lowerAfter_map (before cs : List Char) :
    lowerAfter (before.map asciiLowerChar) (cs.map asciiLowerChar) = lowerAfter before cs := by
  induction cs generalizing before with
  | nil => rfl
  | cons c cs ih =>
    have hrest := ih (c :: before)
    rw [List.map_cons] at hrest
    rw [List.map_cons, lowerAfter, lowerAfter, (alike_asciiLowerChar c).sigma_eq, isFinalSigma_map,
      (alike_asciiLowerChar c).lowerChar_eq, hrest]

theorem lower_asciiLower (s : String) : lower (asciiLower s) = lower s := by
  rw [lower, lower, asciiLower, String.toList_map]
  exact congrArg String.ofList (lowerAfter_map [] s.toList)

theorem lower_eq_of_eqIgnoringAsciiCase {s t : String} (h : eqIgnoringAsciiCase s t) :
    lower s = lower t := by
  rw [← lower_asciiLower s, eqIgnoringAsciiCase_iff.mp h, lower_asciiLower]

/-- The converse fails beyond ASCII, as for the sign for Kelvin. -/
example : lower "\u212A" = lower "k" ∧ eqIgnoringAsciiCase "\u212A" "k" = false := by
  decide +kernel

def IsAscii (s : String) : Prop := ∀ c ∈ s.toList, c.toNat < 0x80

instance (s : String) : Decidable (IsAscii s) :=
  decidable_of_iff (s.toList.all (·.toNat < 0x80)) (by simp [IsAscii])

theorem isAscii_append {s t : String} (hs : IsAscii s) (ht : IsAscii t) : IsAscii (s ++ t) := by
  intro c hc
  rw [String.toList_append, List.mem_append] at hc
  exact hc.elim (hs c) (ht c)

theorem lowerAfter_append_of_ascii {cs : List Char} (h : ∀ c ∈ cs, c.toNat < 0x80)
    (before ds : List Char) :
    lowerAfter before (cs ++ ds) =
      cs.map asciiLowerChar ++ lowerAfter (cs.reverse ++ before) ds := by
  induction cs generalizing before with
  | nil => rfl
  | cons c cs ih =>
    have hc := h c List.mem_cons_self
    have hrest := ih (fun d hd => h d (List.mem_cons_of_mem c hd)) (c :: before)
    have hsigma : c ≠ 'Σ' := by
      rintro rfl
      exact absurd hc (by decide)
    rw [List.cons_append, lowerAfter, hrest]
    simp [hsigma, lowerChar, hc]

/-- What follows an ASCII text does not change how that becomes lower case. -/
theorem exists_lower_append {s : String} (h : IsAscii s) (t : String) :
    ∃ r, lower (s ++ t) = asciiLower s ++ r := by
  refine ⟨String.ofList (lowerAfter (s.toList.reverse ++ []) t.toList), ?_⟩
  rw [lower, String.toList_append, lowerAfter_append_of_ascii h, asciiLower, ← String.toList_inj]
  simp

theorem lower_of_isAscii {s : String} (h : IsAscii s) : lower s = asciiLower s := by
  have hchars := lowerAfter_append_of_ascii h [] []
  rw [List.append_nil, lowerAfter, List.append_nil] at hchars
  rw [lower, hchars, asciiLower, ← String.toList_inj, String.toList_ofList, String.toList_map]

theorem lower_eq_iff_of_isAscii {s t : String} (hs : IsAscii s) (ht : IsAscii t) :
    lower s = lower t ↔ eqIgnoringAsciiCase s t := by
  rw [lower_of_isAscii hs, lower_of_isAscii ht, eqIgnoringAsciiCase_iff]

end Scaffold.Text
