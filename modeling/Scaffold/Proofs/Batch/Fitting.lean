import Scaffold.Proofs.Batch.Overflow
import Scaffold.Proofs.Schema.Key

/-! Chunks that are sized by no less than a row binds, such as those of a table with a key of its
own. -/
namespace Scaffold

namespace ParamBudget

variable {b : ParamBudget} {op : Bulk} {v : Connection} {n : ColumnCounts}

/-- Such a chunk fits if a single row does. -/
theorem len_mul_le_of_bound_le (hsized : boundParams op n ≤ b.paramsPerItem op v n)
    (hrow : boundParams op n ≤ b.budget) {items : Nat} {c : Batch.Chunk}
    (hc : c ∈ b.plan op v n items) : c.len * boundParams op n ≤ b.budget := by
  rcases Nat.lt_or_ge b.budget (b.paramsPerItem op v n) with hlt | hle
  · rw [Batch.len_eq_one hlt hc, Nat.one_mul]
    exact hrow
  · calc c.len * boundParams op n
        ≤ c.len * b.paramsPerItem op v n := Nat.mul_le_mul_left c.len hsized
      _ ≤ b.budget := Batch.len_mul_le_budget hle hc

theorem chunkSize_eq_one (hsized : boundParams op n ≤ b.paramsPerItem op v n)
    (hrow : b.budget < boundParams op n) : b.chunkSize op v n = 1 :=
  Batch.maxLen_of_budget_lt (Nat.lt_of_lt_of_le hrow hsized)

theorem overflow?_eq_some_iff_of_bound_le (hsized : boundParams op n ≤ b.paramsPerItem op v n)
    (params : Nat) :
    b.overflow? op v n = some params ↔
      b.budget < boundParams op n ∧ params = boundParams op n := by
  rcases Nat.lt_or_ge b.budget (boundParams op n) with hrow | hrow
  · have hsome : b.overflow? op v n = some (boundParams op n) := by
      simp [overflow?, chunkSize_eq_one hsized hrow, hrow]
    rw [hsome, Option.some.injEq, eq_comm]
    exact (and_iff_right hrow).symm
  · refine iff_of_false (fun hsome => ?_) fun h => Nat.not_lt.mpr hrow h.1
    obtain ⟨items, c, hc, hlt⟩ := (b.exists_overflow?_iff op v n).mp ⟨params, hsome⟩
    exact Nat.not_lt.mpr (len_mul_le_of_bound_le hsized hrow hc) hlt

/-- A key among the declared columns makes up for the one that an update binds besides the written
ones. -/
theorem bound_le_of_compatible (hpolicy : b.policy = .compatible) (hkey : n.nonKey < n.total)
    (op : Bulk) : boundParams op n ≤ b.paramsPerItem op .ambient n := by
  cases op <;> simp only [boundParams, paramsPerItem, hpolicy] <;> omega

end ParamBudget

namespace Model

variable {t : Table} {database : String} {b₀ b : ParamBudget} {m : Model}

theorem nonKey_lt_total (hm : build t database b₀ = .ok m)
    (hkey : ∃ c ∈ t.columns, c.name = m.key.name) :
    m.statements.counts.nonKey < m.statements.counts.total := by
  obtain ⟨c, hc, hname⟩ := hkey
  have hexcluded : m.key.excludes c.name := hname ▸ m.key.excludes_name
  rw [statements_of_build hm, Statements.nonKey_lt_total_ofTable_iff]
  exact ⟨c, hc, hexcluded⟩

/-- Under the compatible policy a bulk operation on a connection of its own passes the budget only
with a single row, as long as the key is a column of the table. -/
theorem compatible_ambient_overflow_iff (hm : build t database b₀ = .ok m)
    (hkey : ∃ c ∈ t.columns, c.name = m.key.name) (hpolicy : b.policy = .compatible) (op : Bulk) :
    (∀ params, b.overflow? op .ambient m.statements.counts = some params ↔
      b.budget < ParamBudget.boundParams op m.statements.counts ∧
        params = ParamBudget.boundParams op m.statements.counts) ∧
    (b.budget < ParamBudget.boundParams op m.statements.counts →
      b.chunkSize op .ambient m.statements.counts = 1) ∧
    (ParamBudget.boundParams op m.statements.counts ≤ b.budget →
      ∀ items, ∀ c ∈ b.plan op .ambient m.statements.counts items,
        c.len * ParamBudget.boundParams op m.statements.counts ≤ b.budget) := by
  have hsized := ParamBudget.bound_le_of_compatible hpolicy (nonKey_lt_total hm hkey) op
  exact ⟨ParamBudget.overflow?_eq_some_iff_of_bound_le hsized, ParamBudget.chunkSize_eq_one hsized,
    fun hrow _ _ hc => ParamBudget.len_mul_le_of_bound_le hsized hrow hc⟩

/-- With two written columns and a key, an update of one user passes a budget of two. -/
theorem user_update_overflows :
    ∃ m, build userTable "Main" {} = .ok m ∧ (∃ c ∈ userTable.columns, c.name = m.key.name) ∧
      ({ budget := 2 } : ParamBudget).policy = .compatible ∧
      ({ budget := 2 } : ParamBudget).overflow? .updateMultiple .ambient m.statements.counts =
        some 3 ∧
      ({ budget := 2 } : ParamBudget).overflow? .insertMultiple .ambient m.statements.counts =
        none := by
  have hbuild := build_userTable "Main" {}
  have hkey : ∃ c ∈ userTable.columns, c.name = (derived userTable "Main" {}).key.name := by
    decide +kernel
  have hupdate := (compatible_ambient_overflow_iff (b := { budget := 2 }) hbuild hkey rfl
    .updateMultiple).1
  have hinsert := (compatible_ambient_overflow_iff (b := { budget := 2 }) hbuild hkey rfl
    .insertMultiple).1
  refine ⟨_, hbuild, hkey, rfl, (hupdate 3).mpr (by decide +kernel), ?_⟩
  refine Option.eq_none_iff_forall_ne_some.mpr fun params hsome => ?_
  exact absurd ((hinsert params).mp hsome).1 (by decide +kernel)

end Model

end Scaffold
