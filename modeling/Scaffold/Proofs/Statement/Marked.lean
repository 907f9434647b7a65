import Scaffold.Proofs.Statement.Filled
import Scaffold.Proofs.Statement.Markers

/-! The markers of a statement, read off its text from left to right. -/
namespace Scaffold

/-- What may stand right behind a marker. -/
def closing : List Char := [',', ')', ' ', ';']

/-- The markers that stand in a text, in order. A marker goes from its sign to the end of the text
or to a closing character, and there is no sign in between. -/
inductive Marked : String → List String → Prop
  | done {text : String} (h : '@' ∉ text.toList) : Marked text []
  | next {before name after : String} {markers : List String} (hbefore : '@' ∉ before.toList)
      (hname : '@' ∉ name.toList) (hafter : ∀ c ∈ after.toList.head?, c ∈ closing)
      (rest : Marked after markers) :
      Marked (before ++ ("@" ++ name) ++ after) (("@" ++ name) :: markers)

namespace Marked

variable {text : String} {markers : List String}

theorem prepend {s : String} (hs : '@' ∉ s.toList) (h : Marked text markers) :
    Marked (s ++ text) markers := by
  cases h with
  | done htext => exact .done (by simp [hs, htext])
  | next hbefore hname hafter rest =>
    rw [← String.append_assoc, ← String.append_assoc]
    exact .next (by simp [hs, hbefore]) hname hafter rest

theorem append {s : String} (h : Marked text markers) (hs : '@' ∉ s.toList)
    (hclose : ∀ c ∈ s.toList.head?, c ∈ closing) : Marked (text ++ s) markers := by
  induction h with
  | done htext => exact .done (by simp [hs, htext])
  | next hbefore hname hafter _ ih =>
    rw [String.append_assoc]
    refine .next hbefore hname (fun c hc => ?_) ih
    rw [String.toList_append, List.head?_append, Option.mem_def, Option.or_eq_some_iff] at hc
    rcases hc with hc | ⟨-, hc⟩
    · exact hafter c hc
    · exact hclose c hc

/-- Signs stand where markers begin, so a text has as many markers as signs. -/
theorem count_eq_length (h : Marked text markers) : text.toList.count '@' = markers.length := by
  induction h with
  | done htext => exact List.count_eq_zero.mpr htext
  | next hbefore hname _ _ ih =>
    simp only [String.toList_append, List.count_append, List.count_eq_zero.mpr hbefore,
      List.count_eq_zero.mpr hname, ih, List.length_cons]
    simp [Nat.add_comm]

end Marked

/-- Up to where both go on differently, two texts with one beginning agree. -/
theorem Text.append_inj_of_head {p : Char → Prop} {a b r s : List Char} (ha : ∀ c ∈ a, ¬ p c)
    (hb : ∀ c ∈ b, ¬ p c) (hr : ∀ c ∈ r.head?, p c) (hs : ∀ c ∈ s.head?, p c)
    (h : a ++ r = b ++ s) : a = b ∧ r = s := by
  induction a generalizing b with
  | nil =>
    cases b with
    | nil => exact ⟨rfl, h⟩
    | cons c b => exact absurd (hr c (by simp [show r = c :: (b ++ s) from h])) (hb c (by simp))
  | cons c a ih =>
    cases b with
    | nil => exact absurd (hs c (by simp [show s = c :: (a ++ r) from h.symm])) (ha c (by simp))
    | cons d b =>
      obtain ⟨rfl, hrest⟩ := List.cons.inj h
      obtain ⟨rfl, hend⟩ :=
        ih (fun x hx => ha x (by simp [hx])) (fun x hx => hb x (by simp [hx])) hrest
      exact ⟨rfl, hend⟩

/-- Markers without closing characters can be read in one way only. -/
theorem Marked.unique {text : String} {ms ns : List String} (h : Marked text ms)
    (k : Marked text ns) (hms : ∀ m ∈ ms, ∀ c ∈ m.toList, c ∉ closing)
    (hns : ∀ n ∈ ns, ∀ c ∈ n.toList, c ∉ closing) : ms = ns := by
  induction h generalizing ns with
  | done htext =>
    have hcount := k.count_eq_length
    rw [List.count_eq_zero.mpr htext] at hcount
    exact (List.eq_nil_of_length_eq_zero hcount.symm).symm
  | @next before name after markers hbefore hname hafter rest ih =>
    generalize htext : before ++ ("@" ++ name) ++ after = text at k
    cases k with
    | done hnone => exact absurd (by simp [← htext]) hnone
    | @next before' name' after' markers' hbefore' hname' hafter' rest' =>
      have hlist := congrArg String.toList htext
      simp only [String.toList_append, List.append_assoc] at hlist
      obtain ⟨-, hsigned⟩ := Text.append_inj_of_head (p := (· = '@'))
        (fun c hc heq => hbefore (heq ▸ hc)) (fun c hc heq => hbefore' (heq ▸ hc))
        (by simp) (by simp) hlist
      have hnamed : name.toList ++ after.toList = name'.toList ++ after'.toList := by
        simpa using hsigned
      obtain ⟨hn, ha⟩ := Text.append_inj_of_head (p := (· ∈ closing))
        (fun c hc => hms _ List.mem_cons_self c (by simp [hc]))
        (fun c hc => hns _ List.mem_cons_self c (by simp [hc])) hafter hafter' hnamed
      obtain rfl := String.toList_inj.mp hn
      obtain rfl := String.toList_inj.mp ha
      rw [ih rest' (fun m hm => hms m (List.mem_cons_of_mem _ hm))
        fun n hn => hns n (List.mem_cons_of_mem _ hn)]

namespace Piece

/-- Behind each parameter the pieces end or go on with a closing character. -/
def Separated : List Piece → Prop
  | [] => True
  | text _ :: ps => Separated ps
  | parameter _ :: ps => (∀ c ∈ (printAll ps).toList.head?, c ∈ closing) ∧ Separated ps

theorem marked_printAll {ps : List Piece} (hfree : ∀ p ∈ ps, '@' ∉ p.content.toList)
    (hsep : Separated ps) : Marked (printAll ps) ((parameters ps).map ("@" ++ ·)) := by
  induction ps with
  | nil => exact .done (by simp)
  | cons p ps ih =>
    have hp := hfree p List.mem_cons_self
    have hps : ∀ q ∈ ps, '@' ∉ q.content.toList := fun q hq =>
      hfree q (List.mem_cons_of_mem p hq)
    cases p with
    | text s =>
      rw [printAll_cons]
      exact (ih hps hsep).prepend hp
    | parameter name =>
      have hname : '@' ∉ name.toList := hp
      have hnext : Marked ("" ++ ("@" ++ name) ++ printAll ps)
          (("@" ++ name) :: (parameters ps).map ("@" ++ ·)) :=
        .next (by simp) hname hsep.1 (ih hps hsep.2)
      simpa [print] using hnext

theorem separated_append_text {ps qs : List Piece} {s : String} (hps : Separated ps)
    (hqs : Separated qs) (hs : ∃ c ∈ closing, s.toList.head? = some c) :
    Separated (ps ++ text s :: qs) := by
  induction ps with
  | nil => exact hqs
  | cons p ps ih =>
    cases p with
    | text _ => exact ih hps
    | parameter name =>
      refine ⟨fun c hc => ?_, ih hps.2⟩
      obtain ⟨d, hd, hs⟩ := hs
      change c ∈ (printAll (ps ++ text s :: qs)).toList.head? at hc
      rw [printAll_append, printAll_cons, String.toList_append, String.toList_append,
        List.head?_append, List.head?_append, Option.mem_def, Option.or_eq_some_iff, print, hs,
        Option.some_or] at hc
      rcases hc with hc | ⟨-, hc⟩
      · exact hps.1 c hc
      · exact Option.some.inj hc ▸ hd

/-- Groups that each end with a parameter stay apart by a separator that closes it. -/
theorem separated_between {sep : String} (hsep : ∃ c ∈ closing, sep.toList.head? = some c)
    {groups : List (List Piece)} (h : ∀ ps ∈ groups, Separated ps) :
    Separated (between sep groups) := by
  induction groups with
  | nil => trivial
  | cons ps rest ih =>
    cases rest with
    | nil => simpa using h ps List.mem_cons_self
    | cons qs rest =>
      rw [between_cons_cons]
      exact separated_append_text (h ps List.mem_cons_self)
        (ih fun ps hps => h ps (List.mem_cons_of_mem _ hps)) hsep

end Piece

namespace Statements

open Piece

variable {s : Statements}

/-- Names without the first character of a mark hold none. -/
theorem Free.unmarked (h : s.Free '\x7b') (op : Bulk) :
    ∀ name ∈ s.table :: s.boundNames op, Unmarked op name := by
  intro name hname
  refine unmarked_of_not_mem op ?_
  rcases List.mem_cons.mp hname with rfl | hbound
  · exact h.1
  · rcases mem_boundNames hbound with hcolumn | rfl
    · exact h.2.2 name hcolumn
    · exact h.2.1

theorem Free.replace_idTemplate (h : s.Free '\x7b') (suffix : String) :
    Text.replace rowMark suffix s.idTemplate = param s.key suffix := by
  have hname : ¬ rowMark.toList <:+: ("@" ++ s.key).toList := fun hmark => by
    have hopen : '\x7b' ∈ ("@" ++ s.key).toList := hmark.subset (by decide)
    simp [h.2.1] at hopen
  exact fill_rowMark hname suffix

section Markers

variable {suffix : String} (hsuffix : '@' ∉ suffix.toList)
include hsuffix

/-- The markers of an insert statement are the columns that it writes. -/
theorem Free.marked_insertWith (h : s.Free '@') (output : Bool) :
    Marked (s.insertWith suffix output) (s.columns.map (param · suffix)) := by
  have hsep : Separated (s.insertPieces suffix output) := by
    unfold insertPieces
    dsimp only
    split
    · trivial
    · refine separated_append_text (separated_between ⟨',', by decide, rfl⟩ ?_) trivial
        ⟨')', by decide, rfl⟩
      simp [Separated]
  have hmarked := marked_printAll (h.insertPieces_content hsuffix output) hsep
  rw [printAll_insertPieces, parameters_insertPieces, List.map_map] at hmarked
  simpa [Function.comp_def, param, String.append_assoc] using hmarked

/-- The markers of an update statement are the columns that it writes, and the key behind them. -/
theorem Free.marked_updateWith (h : s.Free '@') :
    Marked (s.updateWith suffix) ((s.columns ++ [s.key]).map (param · suffix)) := by
  have hsep : Separated (s.updatePieces suffix) := by
    refine separated_append_text (separated_between ⟨',', by decide, rfl⟩ ?_)
      ⟨by simp, trivial⟩ ⟨' ', by decide, by simp⟩
    simp [Separated]
  have hmarked := marked_printAll (h.updatePieces_content hsuffix) hsep
  rw [printAll_updatePieces, parameters_updatePieces, List.map_map] at hmarked
  simpa [Function.comp_def, param, String.append_assoc] using hmarked

theorem Free.marked_param (h : s.Free '@') : Marked (param s.key suffix) [param s.key suffix] := by
  have hname : '@' ∉ (s.key ++ suffix).toList := by simp [h.2.1, hsuffix]
  have hfree : ∀ p ∈ [parameter (s.key ++ suffix)], '@' ∉ p.content.toList := by
    simpa [content] using hname
  have hmarked := marked_printAll hfree ⟨by simp, trivial⟩
  simpa [print, param, String.append_assoc] using hmarked

end Markers

end Statements

end Scaffold
