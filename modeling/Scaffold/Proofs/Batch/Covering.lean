import Scaffold.Batch.Plan

/-! Consecutive chunks that cover a number of items, and the chunks of a plan as such a covering. -/
namespace Scaffold.Batch

/-- Chunks that follow one another from `start` to `stop`, none of them empty. -/
def Covers : Nat → Nat → List Chunk → Prop
  | start, stop, [] => start = stop
  | start, stop, c :: cs => c.start = start ∧ 0 < c.len ∧ Covers c.stop stop cs

theorem Covers.append {a b c : Nat} {cs ds : List Chunk} (h : Covers a b cs) (k : Covers b c ds) :
    Covers a c (cs ++ ds) := by
  induction cs generalizing a with
  | nil =>
    have hab : a = b := h
    subst hab
    exact k
  | cons x xs ih =>
    obtain ⟨hs, hl, hr⟩ := h
    exact ⟨hs, hl, ih hr⟩

theorem covers_singleton (start len : Nat) (h : 0 < len) :
    Covers start (start + len) [⟨start, len⟩] :=
  ⟨rfl, h, rfl⟩

theorem Covers.start_le {a b : Nat} {cs : List Chunk} (h : Covers a b cs) : a ≤ b := by
  induction cs generalizing a with
  | nil => exact Nat.le_of_eq h
  | cons x xs ih =>
    obtain ⟨rfl, hl, hr⟩ := h
    exact Nat.le_trans (Nat.le_add_right _ _) (ih hr)

theorem Covers.eq_nil {a : Nat} {cs : List Chunk} (h : Covers a a cs) : cs = [] := by
  cases cs with
  | nil => rfl
  | cons x xs =>
    obtain ⟨hs, hl, hr⟩ := h
    have := hr.start_le
    unfold Chunk.stop at this
    omega

theorem Covers.len_pos {a b : Nat} {cs : List Chunk} (h : Covers a b cs) :
    ∀ c ∈ cs, 0 < c.len := by
  induction cs generalizing a with
  | nil => simp
  | cons x xs ih =>
    obtain ⟨hs, hl, hr⟩ := h
    exact List.forall_mem_cons.mpr ⟨hl, ih hr⟩

theorem Covers.stop_le_of_mem {a b : Nat} {cs : List Chunk} (h : Covers a b cs) {c : Chunk}
    (hc : c ∈ cs) : c.stop ≤ b := by
  induction cs generalizing a with
  | nil => simp at hc
  | cons x xs ih =>
    obtain ⟨hs, hl, hr⟩ := h
    rcases List.mem_cons.mp hc with rfl | hc
    · exact hr.start_le
    · exact ih hr hc

/-- A covering by chunks of bounded length has room for all items. -/
theorem Covers.stop_le {a b size : Nat} {cs : List Chunk} (h : Covers a b cs)
    (hsize : ∀ c ∈ cs, c.len ≤ size) : b ≤ a + cs.length * size := by
  induction cs generalizing a with
  | nil =>
    have hab : a = b := h
    omega
  | cons x xs ih =>
    obtain ⟨rfl, hl, hr⟩ := h
    have hx := hsize x (by simp)
    have hxs := ih hr fun c hc => hsize c (by simp [hc])
    unfold Chunk.stop at hxs
    rw [List.length_cons, Nat.succ_mul]
    omega

theorem maxLen_pos (perItem budget : Nat) : 0 < maxLen perItem budget := by
  unfold maxLen
  split <;> omega

theorem maxLen_mul_le {perItem budget : Nat} (hpos : 0 < perItem) (hle : perItem ≤ budget) :
    maxLen perItem budget * perItem ≤ budget := by
  have hquot : 1 ≤ budget / perItem := (Nat.le_div_iff_mul_le hpos).mpr (by omega)
  rw [maxLen, if_neg (by omega), Nat.max_eq_left hquot]
  exact Nat.div_mul_le_self budget perItem

theorem maxLen_of_budget_lt {perItem budget : Nat} (h : budget < perItem) :
    maxLen perItem budget = 1 := by
  rw [maxLen, if_neg (by omega), Nat.div_eq_of_lt h]
  rfl

/-- The chunks of a plan that are full. -/
def fullChunks (size full : Nat) : List Chunk := (List.range full).map fun i => ⟨i * size, size⟩

theorem len_of_mem_fullChunks {size full : Nat} {c : Chunk} (h : c ∈ fullChunks size full) :
    c.len = size := by
  obtain ⟨i, -, rfl⟩ := List.mem_map.mp h
  rfl

theorem covers_fullChunks {size : Nat} (hsize : 0 < size) (full : Nat) :
    Covers 0 (full * size) (fullChunks size full) := by
  induction full with
  | zero => simp [fullChunks, Covers]
  | succ n ih =>
    have hlast := covers_singleton (n * size) size hsize
    rw [← Nat.succ_mul] at hlast
    rw [fullChunks, List.range_succ, List.map_append]
    exact ih.append hlast

/-- A plan is its full chunks and, unless they cover everything, one shorter chunk. -/
theorem plan_cases (items perItem budget : Nat) :
    (items % maxLen perItem budget = 0 ∧
      plan items perItem budget =
        fullChunks (maxLen perItem budget) (items / maxLen perItem budget)) ∨
    (0 < items % maxLen perItem budget ∧
      plan items perItem budget =
        fullChunks (maxLen perItem budget) (items / maxLen perItem budget) ++
          [⟨items / maxLen perItem budget * maxLen perItem budget,
            items % maxLen perItem budget⟩]) := by
  by_cases h : items % maxLen perItem budget = 0
  · exact .inl ⟨h, by simp [plan, fullChunks, h]⟩
  · exact .inr ⟨by omega, by simp [plan, fullChunks, h]⟩

theorem covers_plan (items perItem budget : Nat) :
    Covers 0 items (plan items perItem budget) := by
  have hfull := covers_fullChunks (maxLen_pos perItem budget) (items / maxLen perItem budget)
  have hsum := Nat.div_add_mod' items (maxLen perItem budget)
  obtain ⟨hrest, heq⟩ | ⟨hrest, heq⟩ := plan_cases items perItem budget
  · rw [hrest, Nat.add_zero] at hsum
    rw [hsum] at hfull
    exact heq ▸ hfull
  · have hlast := covers_singleton (items / maxLen perItem budget * maxLen perItem budget)
      (items % maxLen perItem budget) hrest
    rw [hsum] at hlast
    exact heq ▸ hfull.append hlast

theorem plan_zero (perItem budget : Nat) : plan 0 perItem budget = [] :=
  (covers_plan 0 perItem budget).eq_nil

theorem plan_of_le_maxLen {items perItem budget : Nat} (hpos : 0 < items)
    (hle : items ≤ maxLen perItem budget) : plan items perItem budget = [⟨0, items⟩] := by
  rcases Nat.lt_or_eq_of_le hle with hlt | heq
  · simp [plan, Nat.div_eq_of_lt hlt, Nat.mod_eq_of_lt hlt, Nat.ne_of_gt hpos]
  · simp [plan, ← heq, Nat.div_self hpos]

theorem len_le_maxLen {items perItem budget : Nat} {c : Chunk}
    (h : c ∈ plan items perItem budget) : c.len ≤ maxLen perItem budget := by
  obtain ⟨-, heq⟩ | ⟨-, heq⟩ := plan_cases items perItem budget <;> rw [heq] at h
  · exact Nat.le_of_eq (len_of_mem_fullChunks h)
  · rcases List.mem_append.mp h with hfull | hlast
    · exact Nat.le_of_eq (len_of_mem_fullChunks hfull)
    · rw [List.mem_singleton.mp hlast]
      exact Nat.le_of_lt (Nat.mod_lt _ (maxLen_pos perItem budget))

theorem len_mul_le_budget {items perItem budget : Nat} {c : Chunk} (hle : perItem ≤ budget)
    (h : c ∈ plan items perItem budget) : c.len * perItem ≤ budget := by
  rcases Nat.eq_zero_or_pos perItem with rfl | hpos
  · omega
  · exact Nat.le_trans (Nat.mul_le_mul_right perItem (len_le_maxLen h)) (maxLen_mul_le hpos hle)

theorem len_eq_one {items perItem budget : Nat} {c : Chunk} (hlt : budget < perItem)
    (h : c ∈ plan items perItem budget) : c.len = 1 := by
  have hle := len_le_maxLen h
  rw [maxLen_of_budget_lt hlt] at hle
  exact Nat.le_antisymm hle ((covers_plan items perItem budget).len_pos c h)

/-- Only the last chunk may be shorter than the others. -/
theorem len_of_mem_dropLast_plan {items perItem budget : Nat} {c : Chunk}
    (h : c ∈ (plan items perItem budget).dropLast) : c.len = maxLen perItem budget := by
  obtain ⟨-, heq⟩ | ⟨-, heq⟩ := plan_cases items perItem budget <;> rw [heq] at h
  · exact len_of_mem_fullChunks (List.dropLast_subset _ h)
  · rw [List.dropLast_concat] at h
    exact len_of_mem_fullChunks h

/-- No covering by chunks of that length has fewer of them. -/
theorem length_plan_le {items perItem budget : Nat} {cs : List Chunk} (h : Covers 0 items cs)
    (hsize : ∀ c ∈ cs, c.len ≤ maxLen perItem budget) :
    (plan items perItem budget).length ≤ cs.length := by
  have hroom := h.stop_le hsize
  rw [Nat.zero_add] at hroom
  have hsum := Nat.div_add_mod' items (maxLen perItem budget)
  obtain ⟨-, heq⟩ | ⟨hrest, heq⟩ := plan_cases items perItem budget
  · rw [heq, fullChunks, List.length_map, List.length_range]
    exact Nat.div_le_of_le_mul (Nat.mul_comm _ _ ▸ hroom)
  · have hlt : items / maxLen perItem budget * maxLen perItem budget <
        cs.length * maxLen perItem budget := by omega
    rw [heq, List.length_append, fullChunks, List.length_map, List.length_range,
      List.length_singleton]
    exact Nat.lt_of_mul_lt_mul_right hlt

end Scaffold.Batch
