import Scaffold.Proofs.Batch.Covering
import Mathlib.Tactic.SplitIfs

/-! Plans computed step by step in numbers of bounded size, and all that holds of every plan. -/
namespace Scaffold.Batch

/-- A value that a computation can hold only up to the bound. -/
def within? (bound n : Nat) : Option Nat := if n ≤ bound then some n else none

/-- A difference that does not exist below zero. -/
def difference? (n m : Nat) : Option Nat := if m ≤ n then some (n - m) else none

/-- The end of a chunk has to be held as well. -/
def chunkWithin? (bound start len : Nat) : Option Chunk := do
  let start ← within? bound start
  let _ ← within? bound (start + len)
  return ⟨start, len⟩

/-- The plan with each product, sum and difference checked. One chunk is enough where the items
fit; otherwise the full chunks come first and a last one is added only if something remains. -/
def planWithin? (bound items perItem budget : Nat) : Option (List Chunk) :=
  let size := maxLen perItem budget
  if items = 0 then some []
  else if items ≤ size then (chunkWithin? bound 0 items).map ([·])
  else do
    let full := items / size
    let chunks ← (List.range full).mapM fun i => chunkWithin? bound (i * size) size
    let covered ← within? bound (full * size)
    let rest ← difference? items covered
    if rest = 0 then return chunks
    else
      let last ← chunkWithin? bound covered rest
      return chunks ++ [last]

theorem within?_of_le {bound n : Nat} (h : n ≤ bound) : within? bound n = some n := if_pos h

theorem difference?_of_le {n m : Nat} (h : m ≤ n) : difference? n m = some (n - m) := if_pos h

theorem chunkWithin?_of_le {bound start len : Nat} (h : start + len ≤ bound) :
    chunkWithin? bound start len = some ⟨start, len⟩ := by
  have hs : start ≤ bound := by omega
  simp [chunkWithin?, within?_of_le hs, within?_of_le h]

private theorem mapM_of_forall {α β : Type} {f : α → Option β} {g : α → β} {xs : List α}
    (h : ∀ x ∈ xs, f x = some (g x)) : xs.mapM f = some (xs.map g) := by
  induction xs with
  | nil => rfl
  | cons x xs ih =>
    rw [List.mapM_cons, h x (by simp), ih fun y hy => h y (by simp [hy])]
    rfl

theorem fullChunks_within {bound items size : Nat} (h : items ≤ bound) :
    (List.range (items / size)).mapM (fun i => chunkWithin? bound (i * size) size) =
      some (fullChunks size (items / size)) := by
  refine mapM_of_forall fun i hi => chunkWithin?_of_le ?_
  have hi : i + 1 ≤ items / size := List.mem_range.mp hi
  have hmul : (i + 1) * size ≤ items / size * size := Nat.mul_le_mul_right size hi
  have hle : items / size * size ≤ items := Nat.div_mul_le_self items size
  rw [Nat.succ_mul] at hmul
  omega

/-- No step of the computation passes the number of items. -/
theorem planWithin?_eq {bound items : Nat} (h : items ≤ bound) (perItem budget : Nat) :
    planWithin? bound items perItem budget = some (plan items perItem budget) := by
  have hsum := Nat.div_add_mod' items (maxLen perItem budget)
  unfold planWithin?
  dsimp only
  split_ifs with hzero hfit
  · rw [hzero, plan_zero]
  · rw [chunkWithin?_of_le (by omega), plan_of_le_maxLen (Nat.pos_of_ne_zero hzero) hfit]
    rfl
  · have hcovered : items / maxLen perItem budget * maxLen perItem budget ≤ items := by omega
    have hrest : items - items / maxLen perItem budget * maxLen perItem budget =
        items % maxLen perItem budget := by omega
    rw [fullChunks_within h, within?_of_le (by omega)]
    obtain ⟨hmod, heq⟩ | ⟨hmod, heq⟩ := plan_cases items perItem budget
    · simp [difference?_of_le hcovered, hrest, hmod, heq]
    · have hlast := chunkWithin?_of_le
        (show items / maxLen perItem budget * maxLen perItem budget +
          items % maxLen perItem budget ≤ bound by omega)
      simp [difference?_of_le hcovered, hrest, Nat.ne_of_gt hmod, heq, hlast]

/-- What a plan promises: its chunks follow one another and cover all items, all but the last are
full, a full chunk fits the budget or holds a single item, fewer chunks would not do, and no
number on the way to it is larger than the number of items. -/
theorem plan_least_covering (items perItem budget : Nat) :
    Covers 0 items (plan items perItem budget) ∧
      (items = 0 → plan items perItem budget = []) ∧
      (∀ c ∈ (plan items perItem budget).dropLast, c.len = maxLen perItem budget) ∧
      (∀ c ∈ plan items perItem budget, 1 ≤ c.len ∧ c.len ≤ maxLen perItem budget) ∧
      (1 ≤ perItem → perItem ≤ budget →
        ∀ c ∈ plan items perItem budget, c.len * perItem ≤ budget) ∧
      (budget < perItem → ∀ c ∈ plan items perItem budget, c.len = 1) ∧
      (∀ cs, Covers 0 items cs → (∀ c ∈ cs, c.len ≤ maxLen perItem budget) →
        (plan items perItem budget).length ≤ cs.length) ∧
      planWithin? items items perItem budget = some (plan items perItem budget) := by
  have hcovers := covers_plan items perItem budget
  refine ⟨hcovers, ?_, fun c => len_of_mem_dropLast_plan, ?_, ?_, fun hlt c => len_eq_one hlt,
    fun cs => length_plan_le, planWithin?_eq (Nat.le_refl items) perItem budget⟩
  · rintro rfl
    exact plan_zero perItem budget
  · exact fun c hc => ⟨hcovers.len_pos c hc, len_le_maxLen hc⟩
  · exact fun _ hle c => len_mul_le_budget hle

end Scaffold.Batch
