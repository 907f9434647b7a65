import Scaffold.Text.Replace

/-! Literal replacement across concatenation, and where it changes nothing. -/
namespace Scaffold.Text

theorem afterPattern?_eq_some_iff {ps cs rest : List Char} :
    afterPattern? ps cs = some rest ↔ cs = ps ++ rest := by
  induction ps generalizing cs with
  | nil => simp [afterPattern?]
  | cons p ps ih =>
    cases cs with
    | nil => simp [afterPattern?]
    | cons c cs =>
      by_cases hp : p = c
      · subst hp
        simp [afterPattern?, ih]
      · simp [afterPattern?, hp, Ne.symm hp]

section Chars

variable {p : Char} {ps value : List Char}

@[simp] theorem replaceChars_nil : replaceChars p ps value [] = [] := by
  rw [replaceChars]

/-- An occurrence at the front is replaced and the rest is read on. -/
theorem replaceChars_pattern_append (rest : List Char) :
    replaceChars p ps value (p :: ps ++ rest) = value ++ replaceChars p ps value rest := by
  have hafter : afterPattern? ps (ps ++ rest) = some rest := afterPattern?_eq_some_iff.mpr rfl
  rw [List.cons_append, replaceChars]
  simp only [beq_self_eq_true, if_true]
  split
  · rename_i r hr
    rw [hafter] at hr
    rw [Option.some.inj hr]
  · rename_i hr
    rw [hafter] at hr
    contradiction

/-- Where no occurrence begins, one character is kept. -/
theorem replaceChars_cons_of_absent {c : Char} {cs : List Char} (h : ¬ p :: ps <+: c :: cs) :
    replaceChars p ps value (c :: cs) = c :: replaceChars p ps value cs := by
  rw [replaceChars]
  split
  · rename_i hp
    split
    · rename_i rest hr
      refine absurd ⟨rest, ?_⟩ h
      rw [afterPattern?_eq_some_iff.mp hr, beq_iff_eq.mp hp, List.cons_append]
    · rfl
  · rfl

theorem replaceChars_cons_of_ne {c : Char} {cs : List Char} (h : p ≠ c) :
    replaceChars p ps value (c :: cs) = c :: replaceChars p ps value cs :=
  replaceChars_cons_of_absent fun hp => h (List.cons_prefix_cons.mp hp).1

/-- A pattern of one character is replaced wherever that stands. -/
theorem replaceChars_singleton (p : Char) (value cs : List Char) :
    replaceChars p [] value cs = cs.flatMap fun c => if c = p then value else [c] := by
  induction cs with
  | nil => exact replaceChars_nil
  | cons c cs ih =>
    rw [List.flatMap_cons, ← ih]
    by_cases hc : c = p
    · rw [hc, if_pos rfl]
      exact replaceChars_pattern_append cs
    · rw [if_neg hc, replaceChars_cons_of_ne (Ne.symm hc), List.singleton_append]

/-- A text is either cut at an occurrence at its front or read past its first character. -/
theorem replaceChars_induction (p : Char) (ps : List Char) {motive : List Char → Prop}
    (nil : motive [])
    (found : ∀ rest, motive rest → motive (p :: ps ++ rest))
    (kept : ∀ c cs, ¬ p :: ps <+: c :: cs → motive cs → motive (c :: cs)) (cs : List Char) :
    motive cs := by
  induction hn : cs.length using Nat.strongRecOn generalizing cs with
  | ind n ih =>
    cases cs with
    | nil => exact nil
    | cons c cs =>
      by_cases h : p :: ps <+: c :: cs
      · obtain ⟨rest, heq⟩ := h
        rw [← heq] at hn ⊢
        refine found rest (ih rest.length ?_ rest rfl)
        simp only [List.length_append, List.length_cons] at hn
        omega
      · refine kept c cs h (ih cs.length ?_ cs rfl)
        simp only [List.length_cons] at hn
        omega

/-- No occurrence lies across a seam after which the text goes on with a character that is not
in the pattern, its first place apart. -/
theorem pattern_prefix_of_append {a b : List Char} (ha : a ≠ []) (h : ∀ c ∈ b.head?, c ∉ ps)
    (hp : p :: ps <+: a ++ b) : p :: ps <+: a := by
  obtain ⟨t, ht⟩ := hp
  obtain ⟨w, hw, -⟩ | ⟨w, hw, hb⟩ := List.append_eq_append_iff.mp ht
  · exact ⟨w, hw.symm⟩
  · cases w with
    | nil => exact ⟨[], by simpa using hw⟩
    | cons x w =>
      obtain ⟨y, a, rfl⟩ := List.exists_cons_of_ne_nil ha
      have hps : ps = a ++ x :: w := (List.cons.inj hw).2
      exact absurd (by simp [hps]) (h x (by simp [hb]))

theorem replaceChars_append {b : List Char} (h : ∀ c ∈ b.head?, c ∉ ps) (a : List Char) :
    replaceChars p ps value (a ++ b) = replaceChars p ps value a ++ replaceChars p ps value b := by
  induction a using replaceChars_induction p ps with
  | nil => simp
  | found rest ih =>
    rw [List.append_assoc, replaceChars_pattern_append, ih, replaceChars_pattern_append,
      List.append_assoc]
  | kept c cs habsent ih =>
    have hseam : ¬ p :: ps <+: c :: (cs ++ b) := fun hp =>
      habsent (pattern_prefix_of_append (a := c :: cs) (by simp) h hp)
    rw [List.cons_append, replaceChars_cons_of_absent hseam, ih,
      replaceChars_cons_of_absent habsent, List.cons_append]

theorem replaceChars_of_absent {cs : List Char} (h : ¬ p :: ps <:+: cs) :
    replaceChars p ps value cs = cs := by
  induction cs with
  | nil => exact replaceChars_nil
  | cons c cs ih =>
    rw [replaceChars_cons_of_absent fun hp => h hp.isInfix,
      ih fun hi => h (List.infix_cons hi)]

theorem replaceChars_append_of_not_mem {a : List Char} (h : p ∉ a) (b : List Char) :
    replaceChars p ps value (a ++ b) = a ++ replaceChars p ps value b := by
  induction a with
  | nil => rfl
  | cons c a ih =>
    have hc : p ≠ c := fun hp => h (by simp [hp])
    have ha : p ∉ a := fun hp => h (by simp [hp])
    rw [List.cons_append, replaceChars_cons_of_ne hc, ih ha, List.cons_append]

theorem mem_of_mem_replaceChars {c : Char} {cs : List Char}
    (h : c ∈ replaceChars p ps value cs) : c ∈ cs ∨ c ∈ value := by
  induction cs using replaceChars_induction p ps with
  | nil => simp at h
  | found rest ih =>
    rw [replaceChars_pattern_append, List.mem_append] at h
    rcases h with hv | hr
    · exact .inr hv
    · exact (ih hr).imp (by simp_all) id
  | kept x cs habsent ih =>
    rw [replaceChars_cons_of_absent habsent, List.mem_cons] at h
    rcases h with rfl | hr
    · exact .inl (by simp)
    · exact (ih hr).imp (by simp_all) id

/-- What is put in begins otherwise than the pattern, so the first occurrence shows, whatever the
text goes on with. -/
theorem replaceChars_append_inj {v : Char} {vs cs r r' : List Char} (hv : v ≠ p)
    (h : replaceChars p ps (v :: vs) cs ++ r = cs ++ r') : ¬ p :: ps <:+: cs ∧ r = r' := by
  induction cs using replaceChars_induction p ps with
  | nil => exact ⟨by simp, by simpa using h⟩
  | found rest ih =>
    rw [replaceChars_pattern_append] at h
    exact absurd (List.cons.inj h).1 hv
  | kept c cs habsent ih =>
    rw [replaceChars_cons_of_absent habsent] at h
    obtain ⟨hbehind, hrest⟩ := ih (List.cons.inj h).2
    refine ⟨fun hin => ?_, hrest⟩
    rcases List.infix_cons_iff.mp hin with hfront | hin
    · exact habsent hfront
    · exact hbehind hin

end Chars

/-- No occurrence lies across a character that is not in the pattern. -/
theorem infix_append_cons_iff {pattern a b : List Char} {c : Char} (h : c ∉ pattern) :
    pattern <:+: a ++ c :: b ↔ pattern <:+: a ∨ pattern <:+: b := by
  have hfront : ∀ {l l' : List Char}, l ++ l' = pattern → l' <+: c :: b → l' = [] := by
    rintro l (_ | ⟨x, l'⟩) rfl hbegins
    · rfl
    · exact absurd (by simp [(List.cons_prefix_cons.mp hbegins).1]) h
  rw [List.infix_append_iff, List.infix_cons_iff]
  constructor
  · rintro (ha | (hbegins | hb) | ⟨l, l', rfl, hl, hl'⟩)
    · exact .inl ha
    · exact .inl (by simp [hfront (List.nil_append _) hbegins])
    · exact .inr hb
    · exact .inl (by simpa [hfront rfl hl'] using hl.isInfix)
  · rintro (ha | hb)
    · exact .inl ha
    · exact .inr (.inl (.inr hb))

variable {pattern value s t : String}

theorem toList_replace {p : Char} {ps : List Char} (h : pattern.toList = p :: ps) :
    (replace pattern value s).toList = replaceChars p ps value.toList s.toList := by
  simp [replace, h]

@[simp] theorem replace_empty : replace pattern value "" = "" := by
  cases hp : pattern.toList with
  | nil => simp [replace, hp]
  | cons p ps => simp [replace, hp]

theorem replace_append (h : ∀ c ∈ t.toList.head?, c ∉ pattern.toList.tail) :
    replace pattern value (s ++ t) = replace pattern value s ++ replace pattern value t := by
  cases hp : pattern.toList with
  | nil => simp [replace, hp]
  | cons p ps =>
    have hseam : ∀ c ∈ t.toList.head?, c ∉ ps := by simpa [hp] using h
    rw [← String.toList_inj, String.toList_append, toList_replace hp, toList_replace hp,
      toList_replace hp, String.toList_append, replaceChars_append hseam]

/-- Nothing is replaced ahead of the pattern's first character. -/
theorem replace_append_of_not_mem (h : ∀ c ∈ pattern.toList.head?, c ∉ s.toList) :
    replace pattern value (s ++ t) = s ++ replace pattern value t := by
  cases hp : pattern.toList with
  | nil => simp [replace, hp]
  | cons p ps =>
    have hfirst : p ∉ s.toList := h p (by simp [hp])
    rw [← String.toList_inj, toList_replace hp, String.toList_append, String.toList_append,
      toList_replace hp, replaceChars_append_of_not_mem hfirst]

theorem replace_of_absent (h : ¬ pattern.toList <:+: s.toList) : replace pattern value s = s := by
  cases hp : pattern.toList with
  | nil => simp [replace, hp]
  | cons p ps =>
    rw [hp] at h
    rw [← String.toList_inj, toList_replace hp, replaceChars_of_absent h]

/-- A text without the pattern's first character is left alone. -/
theorem replace_of_not_mem {c : Char} (hc : c ∈ pattern.toList) (h : c ∉ s.toList) :
    replace pattern value s = s :=
  replace_of_absent fun hp => h (hp.subset hc)

theorem replace_self (h : pattern ≠ "") : replace pattern value pattern = value := by
  obtain ⟨p, ps, hp⟩ := List.exists_cons_of_ne_nil fun hnil =>
    h (String.toList_eq_nil_iff.mp hnil)
  have hwhole : replaceChars p ps value.toList (p :: ps ++ []) = value.toList ++ [] := by
    rw [replaceChars_pattern_append, replaceChars_nil]
  rw [List.append_nil, List.append_nil] at hwhole
  rw [← String.toList_inj, toList_replace hp, hp, hwhole]

/-- A text is the beginning of what it gives only if nothing is replaced in it. -/
theorem replace_append_inj {r r' : String} (hpattern : pattern ≠ "")
    (hvalue : ∃ v ∈ value.toList.head?, v ∉ pattern.toList.head?)
    (h : replace pattern value s ++ r = s ++ r') : ¬ pattern.toList <:+: s.toList ∧ r = r' := by
  obtain ⟨p, ps, hp⟩ := List.exists_cons_of_ne_nil fun hnil =>
    hpattern (String.toList_eq_nil_iff.mp hnil)
  obtain ⟨v, hv, hne⟩ := hvalue
  obtain ⟨vs, hvs⟩ := List.head?_eq_some_iff.mp hv
  have hfirst : v ≠ p := by simpa [hp, eq_comm] using hne
  rw [← String.toList_inj, String.toList_append, String.toList_append, toList_replace hp, hvs] at h
  obtain ⟨habsent, hrest⟩ := replaceChars_append_inj hfirst h
  exact ⟨hp ▸ habsent, String.toList_inj.mp hrest⟩

theorem infix_append_iff_of_disjoint (hpattern : pattern ≠ "")
    (h : ∀ c ∈ s.toList, c ∉ pattern.toList) :
    pattern.toList <:+: (s ++ t).toList ↔ pattern.toList <:+: t.toList := by
  have hne : pattern.toList ≠ [] := fun hnil => hpattern (String.toList_eq_nil_iff.mp hnil)
  rw [String.toList_append]
  generalize s.toList = cs at h
  induction cs with
  | nil => rfl
  | cons c cs ih =>
    have hc : pattern.toList <:+: c :: (cs ++ t.toList) ↔ pattern.toList <:+: cs ++ t.toList := by
      simpa [hne] using infix_append_cons_iff (a := []) (h c List.mem_cons_self)
    exact hc.trans (ih fun d hd => h d (List.mem_cons_of_mem c hd))

theorem mem_of_mem_replace {c : Char} (h : c ∈ (replace pattern value s).toList) :
    c ∈ s.toList ∨ c ∈ value.toList := by
  cases hp : pattern.toList with
  | nil => exact .inl (by simpa [replace, hp] using h)
  | cons p ps =>
    rw [toList_replace hp] at h
    exact mem_of_mem_replaceChars h

end Scaffold.Text
