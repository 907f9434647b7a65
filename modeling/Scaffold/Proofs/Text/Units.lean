import Scaffold.Proofs.Text.Escaped

/-! The UTF-16 code units of texts, which determine them. -/
namespace Scaffold.Text

/-- The UTF-16 code units of a code point: a unit, or a pair of surrogates. -/
def unitsOfPoint (n : Nat) : List UInt16 :=
  if n < 0x10000 then [.ofNat n]
  else [.ofNat (0xD800 + (n - 0x10000) / 0x400), .ofNat (0xDC00 + (n - 0x10000) % 0x400)]

def units (s : String) : List UInt16 := s.toList.flatMap fun c => unitsOfPoint c.toNat

theorem isScalar (c : Char) : c.toNat < 0xD800 ∨ 0xDFFF < c.toNat ∧ c.toNat < 0x110000 := c.valid

/-- No surrogate is the unit of a character, and the first of a pair is never the second. -/
theorem unitsOfPoint_append_inj {c d : Char} {xs ys : List UInt16}
    (h : unitsOfPoint c.toNat ++ xs = unitsOfPoint d.toNat ++ ys) : c = d ∧ xs = ys := by
  have hc := isScalar c
  have hd := isScalar d
  unfold unitsOfPoint at h
  split at h <;> split at h <;>
    simp only [List.cons_append, List.nil_append, List.cons.injEq, ← UInt16.toNat_inj,
      UInt16.toNat_ofNat'] at h
  · exact ⟨Char.toNat_inj.mp (by omega), h.2⟩
  · omega
  · omega
  · exact ⟨Char.toNat_inj.mp (by omega), h.2.2⟩

theorem units_injective {s t : String} (h : units s = units t) : s = t := by
  have hend : ∀ (c : Char) (zs : List UInt16), [] ≠ unitsOfPoint c.toNat ++ zs := by
    intro c zs
    unfold unitsOfPoint
    split <;> simp
  have hchars : s.toList.flatMap (fun c => unitsOfPoint c.toNat) ++ [] =
      t.toList.flatMap (fun c => unitsOfPoint c.toNat) ++ [] := by simpa [units] using h
  exact String.toList_inj.mp (flatMap_append_inj unitsOfPoint_append_inj hend hend hchars).1

end Scaffold.Text
