import Scaffold.Text.Reader

/-! What readers take off lists that begin as they ask. -/
namespace Scaffold.Reader

variable {σ α β : Type}

theorem bind_apply {r : Reader σ α} {s s' : List σ} {a : α} (h : r s = some (a, s'))
    (f : α → Reader σ β) : (r >>= f) s = f a s' := by
  change (r s).bind (fun p => f p.1 p.2) = f a s'
  rw [h, Option.bind_some]

theorem orElse_apply (r r' : Reader σ α) (s : List σ) : (r <|> r') s = (r s <|> r' s) := rfl

theorem manyUpTo_of_none {r : Reader σ α} {s : List σ} (h : r s = none) (n : Nat) :
    manyUpTo r n s = some ([], s) := by
  cases n with
  | zero => rfl
  | succ n =>
    have hfirst : (do let a ← r; return a :: (← manyUpTo r n) : Reader σ (List α)) s = none := by
      change (r s).bind _ = none
      rw [h, Option.bind_none]
    rw [manyUpTo, orElse_apply, hfirst]
    rfl

theorem manyUpTo_succ {r : Reader σ α} {s s' s'' : List σ} {a : α} {as : List α} {n : Nat}
    (h : r s = some (a, s')) (hrest : manyUpTo r n s' = some (as, s'')) :
    manyUpTo r (n + 1) s = some (a :: as, s'') := by
  rw [manyUpTo, orElse_apply, bind_apply h, bind_apply hrest]
  rfl

/-- What is written item by item is read back, up to a rest that begins no item. -/
theorem many_flatMap {r : Reader σ α} {code : β → List σ} {value : β → α} {bs : List β}
    {rest : List σ} (hcode : ∀ b ∈ bs, ∀ s, r (code b ++ s) = some (value b, s))
    (hne : ∀ b ∈ bs, code b ≠ []) (hrest : r rest = none) :
    many r (bs.flatMap code ++ rest) = some (bs.map value, rest) := by
  have hread : ∀ n, (bs.flatMap code).length ≤ n →
      manyUpTo r n (bs.flatMap code ++ rest) = some (bs.map value, rest) := by
    induction bs with
    | nil => exact fun n _ => manyUpTo_of_none hrest n
    | cons b bs ih =>
      obtain ⟨hb, hbs⟩ := List.forall_mem_cons.mp hcode
      obtain ⟨hfirst, hmore⟩ := List.forall_mem_cons.mp hne
      intro n hn
      rw [List.flatMap_cons, List.length_append] at hn
      have hpos := List.length_pos_iff.mpr hfirst
      obtain ⟨n, rfl⟩ := Nat.exists_eq_succ_of_ne_zero (show n ≠ 0 by omega)
      have htail := ih hbs hmore n (by omega)
      rw [List.flatMap_cons, List.append_assoc]
      exact manyUpTo_succ (hb _) htail
  exact hread _ (by simp)

theorem one_cons [BEq σ] [LawfulBEq σ] (c : σ) (s : List σ) : one c (c :: s) = some ((), s) := by
  change (sat (· == c) (c :: s)).bind (fun p => some ((), p.2)) = some ((), s)
  rw [sat, if_pos (beq_self_eq_true c), Option.bind_some]

/-- What begins as the reader asks is read on behind its beginning. -/
theorem exactly_append_append [BEq σ] [LawfulBEq σ] (cs ds s : List σ) :
    exactly (cs ++ ds) (cs ++ s) = exactly ds s := by
  induction cs with
  | nil => rfl
  | cons c cs ih =>
    change (one c >>= fun _ => exactly (cs ++ ds)) (c :: (cs ++ s)) = exactly ds s
    rw [bind_apply (one_cons c (cs ++ s)), ih]

theorem exactly_append [BEq σ] [LawfulBEq σ] (cs s : List σ) :
    exactly cs (cs ++ s) = some ((), s) := by
  have h := exactly_append_append cs [] s
  rwa [List.append_nil] at h

theorem takeWhile1_append {p : σ → Bool} {cs : List σ} {d : σ} (hne : cs ≠ [])
    (hcs : ∀ c ∈ cs, p c) (hd : ¬ p d) (s : List σ) :
    takeWhile1 p (cs ++ d :: s) = some (cs, d :: s) := by
  obtain ⟨c, cs, rfl⟩ := List.exists_cons_of_ne_nil hne
  obtain ⟨hc, hrest⟩ := List.forall_mem_cons.mp hcs
  have hfirst : sat p (c :: cs ++ d :: s) = some (c, cs ++ d :: s) := by
    rw [List.cons_append, sat, if_pos hc]
  have hmore : Reader.takeWhile p (cs ++ d :: s) = some (cs, d :: s) := by
    rw [Reader.takeWhile, List.takeWhile_append_of_pos hrest, List.dropWhile_append_of_pos hrest,
      List.takeWhile_cons_of_neg hd, List.dropWhile_cons_of_neg hd, List.append_nil]
  rw [takeWhile1, bind_apply hfirst, bind_apply hmore]
  rfl

theorem whole?_of_nil {r : Reader σ α} {s : List σ} {a : α} (h : r s = some (a, [])) :
    whole? r s = some a := by
  change Option.map Prod.fst ((r s).bind _) = some a
  rw [h]
  rfl

theorem whole?_of_none {r : Reader σ α} {s : List σ} (h : r s = none) : whole? r s = none := by
  change Option.map Prod.fst ((r s).bind _) = none
  rw [h]
  rfl

end Scaffold.Reader
