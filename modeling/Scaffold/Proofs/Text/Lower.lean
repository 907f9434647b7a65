import Scaffold.Text.Case

/-! Which ASCII characters a text in lower case holds. -/
namespace Scaffold.Text

theorem toNat_ofNat {n : Nat} (h : n.isValidChar) : (Char.ofNat n).toNat = n := by
  rw [Char.ofNat, dif_pos h]
  rfl

theorem isAsciiUpper_iff {c : Char} : isAsciiUpper c ↔ 0x41 ≤ c.toNat ∧ c.toNat ≤ 0x5A := by
  simp [isAsciiUpper, Char.le_def, UInt32.le_iff_toNat_le]

theorem isAsciiLower_iff {c : Char} : isAsciiLower c ↔ 0x61 ≤ c.toNat ∧ c.toNat ≤ 0x7A := by
  simp [isAsciiLower, Char.le_def, UInt32.le_iff_toNat_le]

/-- A character beyond ASCII, or a small letter. -/
def IsLowered (c : Char) : Prop := 0x80 ≤ c.toNat ∨ isAsciiLower c

theorem asciiLowerChar_eq (c : Char) :
    isAsciiLower (asciiLowerChar c) ∨ asciiLowerChar c = c ∧ isAsciiUpper c = false := by
  unfold asciiLowerChar
  by_cases h : isAsciiUpper c
  · left
    rw [if_pos h]
    rw [isAsciiUpper_iff] at h
    have hvalid : (c.toNat + 32).isValidChar := .inl (by omega)
    rw [isAsciiLower_iff, toNat_ofNat hvalid]
    omega
  · rw [if_neg h]
    exact .inr ⟨rfl, by simpa using h⟩

/-- The images are characters. Apart from the sign for Kelvin all of them are beyond ASCII. -/
theorem lowerRuns_targets : ∀ r ∈ lowerRuns,
    (r.target + (r.last - r.first) < 0xD800 ∨
      0xE000 ≤ r.target ∧ r.target + (r.last - r.first) < 0x110000) ∧
    (0x80 ≤ r.target ∨ r.target = 0x6B ∧ r.first = r.last) := by
  decide +kernel

theorem isLowered_mapChar {c : Char} (h : 0x80 ≤ c.toNat) : IsLowered (mapChar lowerRuns c) := by
  unfold mapChar
  split
  case h_2 => exact .inl h
  case h_1 n hn =>
    obtain ⟨r, hr, himage⟩ := List.exists_of_findSome?_eq_some hn
    obtain ⟨hvalid, htarget⟩ := lowerRuns_targets r hr
    unfold CaseRun.image? at himage
    split at himage
    case isFalse => contradiction
    case isTrue hholds =>
      have hbounds : r.first ≤ c.toNat ∧ c.toNat ≤ r.last := by
        simp only [CodeRun.holds, Bool.and_eq_true, decide_eq_true_eq] at hholds
        exact hholds.1
      obtain rfl := Option.some.inj himage
      have hchar : (r.target + (c.toNat - r.first)).isValidChar := by
        rcases hvalid with hlow | hhigh
        · exact .inl (by omega)
        · exact .inr ⟨by omega, by omega⟩
      unfold IsLowered
      rw [isAsciiLower_iff, toNat_ofNat hchar]
      omega

theorem mem_lowerChar {c d : Char} (h : d ∈ lowerChar c) :
    IsLowered d ∨ d = c ∧ isAsciiUpper d = false := by
  unfold lowerChar at h
  split at h
  · obtain rfl := List.mem_singleton.mp h
    rcases asciiLowerChar_eq c with hlower | ⟨heq, hupper⟩
    · exact .inl (.inr hlower)
    · rw [heq]
      exact .inr ⟨rfl, hupper⟩
  · split at h
    · rcases List.mem_cons.mp h with rfl | h
      · exact .inl (.inr (by decide))
      · obtain rfl := List.mem_singleton.mp h
        exact .inl (.inl (by decide))
    · obtain rfl := List.mem_singleton.mp h
      exact .inl (isLowered_mapChar (by omega))

theorem mem_lowerAfter {before cs : List Char} {d : Char} (h : d ∈ lowerAfter before cs) :
    IsLowered d ∨ d ∈ cs ∧ isAsciiUpper d = false := by
  induction cs generalizing before with
  | nil => contradiction
  | cons c cs ih =>
    rw [lowerAfter, List.mem_append] at h
    rcases h with h | h
    · split at h
      · obtain rfl := List.mem_singleton.mp h
        left
        left
        split <;> decide
      · rcases mem_lowerChar h with hlower | ⟨rfl, hupper⟩
        · exact .inl hlower
        · exact .inr ⟨List.mem_cons_self, hupper⟩
    · exact (ih h).imp_right fun hmem => ⟨List.mem_cons_of_mem c hmem.1, hmem.2⟩

/-- Lower case brings in no ASCII characters but small letters, and leaves no capital ones. -/
theorem mem_lower {s : String} {c : Char} (h : c ∈ (lower s).toList) :
    IsLowered c ∨ c ∈ s.toList ∧ isAsciiUpper c = false := by
  rw [lower, String.toList_ofList] at h
  exact mem_lowerAfter h

theorem not_isAsciiUpper_of_mem_lower {s : String} {c : Char} (h : c ∈ (lower s).toList) :
    isAsciiUpper c = false := by
  rcases mem_lower h with hlower | ⟨-, hupper⟩
  · unfold IsLowered at hlower
    rw [isAsciiLower_iff] at hlower
    rw [Bool.eq_false_iff, Ne, isAsciiUpper_iff]
    omega
  · exact hupper

end Scaffold.Text
