import Scaffold.Proofs.Batch.Covering
import Scaffold.Proofs.Model
import Mathlib.Order.Bounds.Basic

/-! The most that a chunk of a bulk operation binds, and the warnings where it passes the budget. -/
namespace Scaffold

namespace ParamBudget

variable (b : ParamBudget) (op : Bulk) (v : Connection) (n : ColumnCounts)

/-- The parameters that a chunk binds, for each chunk in the plan of each number of items. -/
def chunkLoads : Set Nat :=
  {load | ∃ items, ∃ c ∈ b.plan op v n items, load = c.len * boundParams op n}

/-- The plan of as many items as a full chunk holds is that chunk. -/
theorem plan_chunkSize :
    b.plan op v n (b.chunkSize op v n) = [⟨0, b.chunkSize op v n⟩] :=
  Batch.plan_of_le_maxLen (Batch.maxLen_pos _ _) (Nat.le_refl _)

theorem isGreatest_chunkLoads :
    IsGreatest (b.chunkLoads op v n) (b.chunkSize op v n * boundParams op n) := by
  constructor
  · have hfull : ⟨0, b.chunkSize op v n⟩ ∈ b.plan op v n (b.chunkSize op v n) := by
      rw [plan_chunkSize]
      exact List.mem_singleton_self _
    exact ⟨_, _, hfull, rfl⟩
  · rintro load ⟨items, c, hc, rfl⟩
    exact Nat.mul_le_mul_right _ (Batch.len_le_maxLen hc)

theorem overflow?_eq_some_iff {params : Nat} :
    b.overflow? op v n = some params ↔
      IsGreatest (b.chunkLoads op v n) params ∧ b.budget < params := by
  have hgreatest := b.isGreatest_chunkLoads op v n
  unfold overflow?
  dsimp only
  constructor
  · intro h
    split at h
    · rename_i hlt
      obtain rfl := Option.some.inj h
      exact ⟨hgreatest, hlt⟩
    · contradiction
  · rintro ⟨hparams, hlt⟩
    rw [hparams.unique hgreatest] at hlt ⊢
    exact if_pos hlt

/-- A full chunk passes the budget as soon as any chunk does. -/
theorem exists_overflow?_iff :
    (∃ params, b.overflow? op v n = some params) ↔
      ∃ items, ∃ c ∈ b.plan op v n items, b.budget < c.len * boundParams op n := by
  have hgreatest := b.isGreatest_chunkLoads op v n
  simp only [overflow?_eq_some_iff]
  constructor
  · rintro ⟨params, ⟨⟨items, c, hc, rfl⟩, -⟩, hlt⟩
    exact ⟨items, c, hc, hlt⟩
  · rintro ⟨items, c, hc, hlt⟩
    exact ⟨_, hgreatest, Nat.lt_of_lt_of_le hlt (hgreatest.2 ⟨items, c, hc, rfl⟩)⟩

end ParamBudget

/-- Whether a warning says that this bulk operation passes the budget on this connection. -/
def Warning.concerns (op : Bulk) (v : Connection) : Warning → Bool
  | budgetExceeded _ op' v' _ _ => op' = op && v' = v
  | _ => false

namespace Model

variable {t : Table} {database : String} {b : ParamBudget} {m : Model}

theorem filter_concerns_budgetWarnings (t : Table) (b : ParamBudget) (n : ColumnCounts) (op : Bulk)
    (v : Connection) :
    (budgetWarnings t b n).filter (·.concerns op v) =
      ((b.overflow? op v n).map fun params =>
        Warning.budgetExceeded t.name op v params b.budget).toList := by
  -- Of all operations on all connections the filter keeps the one in question.
  have hkept : ∀ (v' : Connection) (op' : Bulk),
      ((b.overflow? op' v' n).map fun params =>
        Warning.budgetExceeded t.name op' v' params b.budget).filter (·.concerns op v) =
      if op' = op ∧ v' = v then (b.overflow? op v n).map fun params =>
        Warning.budgetExceeded t.name op v params b.budget
      else none := by
    intro v' op'
    split
    · rename_i h
      obtain ⟨rfl, rfl⟩ := h
      cases b.overflow? op' v' n <;> simp [Warning.concerns]
    · cases b.overflow? op' v' n <;> simp_all [Warning.concerns]
  unfold budgetWarnings
  rw [List.filter_flatMap]
  simp only [List.filter_filterMap, hkept]
  cases op <;> cases v <;> cases b.overflow? _ _ n <;> simp [Connection.all, Bulk.all]

theorem filter_concerns_warnings (hm : build t database b = .ok m) (op : Bulk) (v : Connection) :
    m.warnings.filter (·.concerns op v) =
      ((b.overflow? op v m.statements.counts).map fun params =>
        Warning.budgetExceeded t.name op v params b.budget).toList := by
  rw [filter_warnings hm, filter_keyWarnings_eq_nil fun _ _ => rfl,
    filter_typeWarnings_eq_nil fun _ _ _ => rfl, filter_concerns_budgetWarnings]
  rfl

/-- An operation is warned of exactly if some number of items has a chunk that passes the budget.
There is one warning then, and it names the most that any chunk binds. -/
theorem budget_warning_iff (hm : build t database b = .ok m) (op : Bulk) (v : Connection) :
    ((∃ w ∈ m.warnings, w.concerns op v) ↔
      ∃ items, ∃ c ∈ b.plan op v m.statements.counts items,
        b.budget < c.len * ParamBudget.boundParams op m.statements.counts) ∧
    ((∃ w ∈ m.warnings, w.concerns op v) →
      ∃ params, m.warnings.filter (·.concerns op v) =
          [.budgetExceeded t.name op v params b.budget] ∧
        IsGreatest (b.chunkLoads op v m.statements.counts) params) := by
  have hfilter := filter_concerns_warnings hm op v
  have hwarned : (∃ w ∈ m.warnings, w.concerns op v) ↔
      ∃ params, b.overflow? op v m.statements.counts = some params := by
    have hmem : (∃ w ∈ m.warnings, w.concerns op v) ↔
        m.warnings.filter (·.concerns op v) ≠ [] := by
      simp [List.filter_eq_nil_iff]
    rw [hmem, hfilter]
    cases b.overflow? op v m.statements.counts <;> simp
  refine ⟨hwarned.trans (b.exists_overflow?_iff op v _), fun h => ?_⟩
  obtain ⟨params, hparams⟩ := hwarned.mp h
  rw [hparams] at hfilter
  exact ⟨params, hfilter, ((b.overflow?_eq_some_iff op v _).mp hparams).1⟩

/-- A divisor of two under a budget of six lets an update of three rows bind nine parameters. -/
theorem budget_warning_of_small_divisor :
    ∃ m, build userTable "Main" { budget := 6, divisor := 2 } = .ok m ∧
      m.warnings.filter (·.concerns .updateMultiple .supplied) =
        [.budgetExceeded "Users" .updateMultiple .supplied 9 6] := by
  have hbuild := build_userTable "Main" { budget := 6, divisor := 2 }
  obtain ⟨hiff, hone⟩ := budget_warning_iff hbuild .updateMultiple .supplied
  obtain ⟨params, hwarning, hgreatest⟩ :=
    hone (hiff.mpr ⟨3, ⟨0, 3⟩, by decide +kernel, by decide +kernel⟩)
  have hparams : params = 9 :=
    (hgreatest.unique (ParamBudget.isGreatest_chunkLoads _ _ _ _)).trans (by decide +kernel)
  rw [hparams] at hwarning
  exact ⟨_, hbuild, hwarning⟩

end Model

end Scaffold
