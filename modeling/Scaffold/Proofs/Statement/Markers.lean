import Scaffold.Proofs.Batch.Covering
import Scaffold.Proofs.Model
import Scaffold.Proofs.Schema.Key
import Scaffold.Proofs.Statement.Rendering
import Scaffold.Proofs.Text.Split

/-! Parameter markers in the statements of a plan, counted in their texts. -/
namespace Scaffold

theorem not_mem_quoteName {x : Char} {name : String} (hx : x ∉ "[]".toList)
    (h : x ∉ name.toList) : x ∉ (quoteName name).toList := by
  intro hmem
  have hbrackets : x ≠ '[' ∧ x ≠ ']' := by simpa using hx
  simp only [quoteName, String.toList_append, List.mem_append] at hmem
  rcases hmem with (hopen | hname) | hclose
  · exact hbrackets.1 (by simpa using hopen)
  · rcases Text.mem_of_mem_replace hname with hin | hdouble
    · exact h hin
    · exact hbrackets.2 (by simpa using hdouble)
  · exact hbrackets.2 (by simpa using hclose)

namespace Statements

open Piece

variable {s : Statements} {x : Char}

/-- No name in the statements holds the character. -/
def Free (s : Statements) (x : Char) : Prop :=
  x ∉ s.table.toList ∧ x ∉ s.key.toList ∧ ∀ c ∈ s.columns, x ∉ c.toList

theorem Free.not_mem_quotedTable (h : s.Free x) (hx : x ∉ "[]".toList) :
    x ∉ s.quotedTable.toList :=
  not_mem_quoteName hx h.1

theorem Free.not_mem_quotedKey (h : s.Free x) (hx : x ∉ "[]".toList) : x ∉ s.quotedKey.toList :=
  not_mem_quoteName hx h.2.1

theorem Free.not_mem_columnList (h : s.Free x) (hx : x ∉ "[],".toList) :
    x ∉ s.columnList.toList := by
  have hne : x ≠ '[' ∧ x ≠ ']' ∧ x ≠ ',' := by simpa using hx
  refine Text.not_mem_intercalate (by simp [hne]) fun q hq => ?_
  obtain ⟨c, hc, rfl⟩ := List.mem_map.mp hq
  exact not_mem_quoteName (by simp [hne]) (h.2.2 c hc)

theorem at_not_mem_toString (i : Nat) : '@' ∉ (toString i).toList := fun h =>
  absurd (Text.isDigit_of_mem_toString h) (by decide)

theorem Free.insertPieces_content (h : s.Free '@') {suffix : String}
    (hsuffix : '@' ∉ suffix.toList) (output : Bool) :
    ∀ p ∈ s.insertPieces suffix output, '@' ∉ p.content.toList := by
  have htable := h.not_mem_quotedTable (by decide)
  have hkey := h.not_mem_quotedKey (by decide)
  have hlist := h.not_mem_columnList (by decide)
  have hreturned :
      '@' ∉ (if output then " OUTPUT INSERTED." ++ s.quotedKey else "").toList := by
    split <;> simp [hkey]
  unfold insertPieces
  dsimp only
  split
  · simp [content, htable, hreturned]
  · intro p hp
    rw [List.mem_append, List.mem_cons] at hp
    rcases hp with (rfl | hp) | hp
    · simp [content, htable, hlist, hreturned]
    · obtain rfl | ⟨ps, hps, hp⟩ := mem_between hp
      · simp [content]
      · obtain ⟨c, hc, rfl⟩ := List.mem_map.mp hps
        obtain rfl := List.mem_singleton.mp hp
        simp [content, hsuffix, h.2.2 c hc]
    · obtain rfl := List.mem_singleton.mp hp
      simp [content]

theorem Free.updatePieces_content (h : s.Free '@') {suffix : String}
    (hsuffix : '@' ∉ suffix.toList) :
    ∀ p ∈ s.updatePieces suffix, '@' ∉ p.content.toList := by
  have htable := h.not_mem_quotedTable (by decide)
  have hkey := h.not_mem_quotedKey (by decide)
  unfold updatePieces
  intro p hp
  rw [List.mem_append, List.mem_cons] at hp
  rcases hp with (rfl | hp) | hp
  · simp [content, htable]
  · obtain rfl | ⟨ps, hps, hp⟩ := mem_between hp
    · simp [content]
    · obtain ⟨c, hc, rfl⟩ := List.mem_map.mp hps
      have hquoted := not_mem_quoteName (by decide) (h.2.2 c hc)
      rcases List.mem_pair.mp hp with rfl | rfl
      · simp [content, hquoted]
      · simp [content, hsuffix, h.2.2 c hc]
  · rcases List.mem_pair.mp hp with rfl | rfl
    · simp [content, hkey]
    · simp [content, hsuffix, h.2.1]

theorem Free.insertRow_content (h : s.Free '@') :
    ∀ p ∈ s.insertRow rowMark, '@' ∉ p.content.toList := by
  intro p hp
  rcases List.mem_append.mp hp with hp | hp
  · exact h.insertPieces_content (by decide) false p hp
  · obtain rfl := List.mem_singleton.mp hp
    simp [content]

theorem Free.updateRow_content (h : s.Free '@') :
    ∀ p ∈ s.updateRow rowMark, '@' ∉ p.content.toList := by
  intro p hp
  rcases List.mem_append.mp hp with hp | hp
  · exact h.updatePieces_content (by decide) p hp
  · obtain rfl := List.mem_singleton.mp hp
    simp [content]

theorem numberedRows_content {row : List Piece} (h : ∀ p ∈ row, '@' ∉ p.content.toList)
    (rows : Nat) : ∀ p ∈ numberedRows row rows, '@' ∉ p.content.toList := by
  intro p hp
  obtain rfl | ⟨ps, hps, hp⟩ := mem_between hp
  · simp [content]
  · obtain ⟨i, -, rfl⟩ := List.mem_map.mp hps
    obtain ⟨q, hq, rfl⟩ := List.mem_map.mp hp
    have hfill : (q.fill rowMark (toString i)).content =
        Text.replace rowMark (toString i) q.content := by
      cases q <;> rfl
    rw [hfill]
    intro hat
    rcases Text.mem_of_mem_replace hat with hin | hdigit
    · exact h q hq hin
    · exact at_not_mem_toString i hdigit

/-- Where no name can be taken for the mark of the list, the parameters stand in the list alone. -/
theorem Free.keyedPieces_content (h : s.Free '@') (hmark : s.Free '\x7b') {verb : String}
    (hverb : '@' ∉ verb.toList ∧ '\x7b' ∉ verb.toList) (rows : Nat) :
    ∀ p ∈ s.keyedPieces verb rows, '@' ∉ p.content.toList := by
  have htable := h.not_mem_quotedTable (by decide)
  have hkey := h.not_mem_quotedKey (by decide)
  have hfront : '\x7b' ∉
      (verb ++ s.quotedTable ++ " WHERE " ++ s.quotedKey ++ " IN (").toList := by
    simp [hverb, hmark.not_mem_quotedTable (by decide), hmark.not_mem_quotedKey (by decide)]
  intro p hp
  obtain rfl | hp | ⟨i, -, rfl⟩ := mem_keyedPieces hp
  · rw [Text.replace_of_not_mem (by decide) hfront]
    simp [content, hverb, htable, hkey]
  · simp only [List.mem_cons, List.not_mem_nil, or_false] at hp
    rcases hp with rfl | rfl <;> simp [content]
  · have := at_not_mem_toString i
    simp_all [content, h.2.1]

theorem Free.chunkPieces_content (h : s.Free '@') (hmark : s.Free '\x7b') (op : Bulk)
    (rows : Nat) : ∀ p ∈ s.chunkPieces op rows, '@' ∉ p.content.toList := by
  cases op with
  | getMultiple => exact h.keyedPieces_content hmark (by decide) rows
  | insertMultiple => exact numberedRows_content h.insertRow_content rows
  | updateMultiple => exact numberedRows_content h.updateRow_content rows
  | deleteMultiple => exact h.keyedPieces_content hmark (by decide) rows

theorem Free.rowMark_absent (h : s.Free '\x7b') (op : Bulk) :
    ∀ name ∈ s.boundNames op, ¬ rowMark.toList <:+: name.toList := by
  intro name hname hin
  have hopen : '\x7b' ∈ name.toList := hin.subset (by decide)
  rcases mem_boundNames hname with hcolumn | rfl
  · exact h.2.2 name hcolumn hopen
  · exact h.2.1 hopen

/-- A rendered chunk holds as many markers as its rows bind parameters. -/
theorem count_render (h : s.Free '@') (hmark : s.Free '\x7b') (op : Bulk) (rows : Nat) :
    (s.render op rows).toList.count '@' = rows * ParamBudget.boundParams op s.counts := by
  rw [← printAll_chunkPieces, count_printAll (h.chunkPieces_content hmark op rows),
    parameters_chunkPieces rows (hmark.rowMark_absent op), Text.length_numbered,
    length_boundNames]

end Statements

theorem ParamBudget.paramsPerItem_exact {b : ParamBudget} (h : b.policy = .exact) (op : Bulk)
    (v : Connection) (n : ColumnCounts) : b.paramsPerItem op v n = boundParams op n := by
  cases op <;> simp [paramsPerItem, boundParams, h]

namespace Model

variable {t : Table} {database : String} {b₀ b : ParamBudget} {m : Model}

theorem free_of_names {x : Char} (hm : build t database b₀ = .ok m)
    (h : ∀ name ∈ t.name :: m.key.name :: t.columns.map (·.name), x ∉ name.toList) :
    m.statements.Free x := by
  rw [statements_of_build hm]
  refine ⟨h t.name (by simp), h m.key.name (by simp), fun name hname => h name ?_⟩
  obtain ⟨⟨c, hc, rfl⟩, -⟩ := Statements.mem_columns_ofTable.mp hname
  simpa using .inr (.inr ⟨c, hc, rfl⟩)

/-- Under the exact policy the markers of a planned statement are the parameters of its items, and
they fit the budget unless a single item does not. -/
theorem exact_statement_markers (hm : build t database b₀ = .ok m)
    (hnames : ∀ name ∈ t.name :: m.key.name :: t.columns.map (·.name),
      '@' ∉ name.toList ∧ '\x7b' ∉ name.toList)
    (hexact : b.policy = .exact) (op : Bulk) (v : Connection) (items : Nat) :
    ∀ e ∈ m.statements.planned b op v items,
      e.2.toList.count '@' = e.1.len * ParamBudget.boundParams op m.statements.counts ∧
        (ParamBudget.boundParams op m.statements.counts ≤ b.budget →
          e.2.toList.count '@' ≤ b.budget) ∧
        (b.budget < ParamBudget.boundParams op m.statements.counts → e.1.len = 1) := by
  intro e he
  obtain ⟨c, hc, rfl⟩ := List.mem_map.mp he
  rw [ParamBudget.plan, ParamBudget.paramsPerItem_exact hexact] at hc
  have hat := free_of_names hm fun name hname => (hnames name hname).1
  have hbrace := free_of_names hm fun name hname => (hnames name hname).2
  have hcount := Statements.count_render hat hbrace op c.len
  refine ⟨hcount, fun hle => ?_, fun hlt => Batch.len_eq_one hlt hc⟩
  rw [hcount]
  exact Batch.len_mul_le_budget hle hc

/-- Seven parameters are enough for updates of two rows with three parameters each. -/
theorem update_markers_of_two_rows :
    ∃ m, build userTable "Main" {} = .ok m ∧
      (∀ name ∈ userTable.name :: m.key.name :: userTable.columns.map (·.name),
        '@' ∉ name.toList ∧ '\x7b' ∉ name.toList) ∧
      (m.statements.render .updateMultiple 2).toList.count '@' = 6 := by
  let m := derived userTable "Main" {}
  let b : ParamBudget := { budget := 7, policy := .exact }
  have hnames : ∀ name ∈ userTable.name :: m.key.name :: userTable.columns.map (·.name),
      '@' ∉ name.toList ∧ '\x7b' ∉ name.toList := by decide +kernel
  have hfirst : (⟨0, 2⟩, m.statements.render .updateMultiple 2) ∈
      m.statements.planned b .updateMultiple .ambient 3 :=
    List.mem_map.mpr ⟨⟨0, 2⟩, by decide +kernel, rfl⟩
  have hbound : ParamBudget.boundParams .updateMultiple m.statements.counts = 3 := by
    decide +kernel
  have hcount := (exact_statement_markers (build_userTable "Main" {}) hnames (b := b) rfl
    .updateMultiple .ambient 3 _ hfirst).1
  rw [hbound] at hcount
  exact ⟨m, build_userTable "Main" {}, hnames, hcount⟩

end Model

end Scaffold
