import Scaffold.Backend.Literal
import Scaffold.Proofs.Text.Beginning
import Scaffold.Proofs.Text.Joined
import Scaffold.Proofs.Text.Replace
import Scaffold.Statement.Template

/-! Names in brackets and string literals. Each ends at a place that what it holds cannot move. -/
namespace Scaffold

namespace Text

/-- Characters written by a code are read back one by one, up to a rest that no code word begins. -/
theorem flatMap_append_inj {α : Type} {code : Char → List α}
    (hcode : ∀ {c d xs ys}, code c ++ xs = code d ++ ys → c = d ∧ xs = ys)
    {cs ds : List Char} {xs ys : List α} (hxs : ∀ c zs, xs ≠ code c ++ zs)
    (hys : ∀ c zs, ys ≠ code c ++ zs) (h : cs.flatMap code ++ xs = ds.flatMap code ++ ys) :
    cs = ds ∧ xs = ys := by
  induction cs generalizing ds with
  | nil =>
    cases ds with
    | nil => exact ⟨rfl, h⟩
    | cons d ds =>
      rw [List.flatMap_nil, List.nil_append, List.flatMap_cons, List.append_assoc] at h
      exact absurd h (hxs d _)
  | cons c cs ih =>
    rw [List.flatMap_cons, List.append_assoc] at h
    cases ds with
    | nil => exact absurd h.symm (hys c _)
    | cons d ds =>
      rw [List.flatMap_cons, List.append_assoc] at h
      obtain ⟨rfl, hrest⟩ := hcode h
      obtain ⟨rfl, hend⟩ := ih hrest
      exact ⟨rfl, hend⟩

end Text

/-- A closing bracket within brackets is written twice. -/
def doubleClosing (c : Char) : List Char := if c = ']' then [']', ']'] else [c]

theorem doubleClosing_append_inj {c d : Char} {xs ys : List Char}
    (h : doubleClosing c ++ xs = doubleClosing d ++ ys) : c = d ∧ xs = ys := by
  unfold doubleClosing at h
  split at h <;> split at h <;> grind

theorem toList_quoteName (name : String) :
    (quoteName name).toList = '[' :: name.toList.flatMap doubleClosing ++ [']'] := by
  have hpattern : "]".toList = [']'] := by decide
  have hvalue : "]]".toList = [']', ']'] := by decide
  rw [quoteName, String.toList_append, String.toList_append, Text.toList_replace hpattern, hvalue,
    Text.replaceChars_singleton]
  rfl

theorem prefix_flatMap_doubleClosing_iff {pattern cs : List Char} (h : ']' ∉ pattern) :
    pattern <+: cs.flatMap doubleClosing ↔ pattern <+: cs := by
  induction pattern generalizing cs with
  | nil => simp
  | cons p ps ih =>
    cases cs with
    | nil => simp
    | cons c cs =>
      have hp : p ≠ ']' := fun heq => h (by simp [heq])
      have hps : ps <+: cs.flatMap doubleClosing ↔ ps <+: cs :=
        ih fun hin => h (List.mem_cons_of_mem p hin)
      by_cases hc : c = ']'
      · simp [doubleClosing, hc, List.cons_prefix_cons, hp]
      · simp [doubleClosing, hc, List.cons_prefix_cons, hps]

theorem infix_flatMap_doubleClosing_iff {pattern cs : List Char} (h : ']' ∉ pattern) :
    pattern <:+: cs.flatMap doubleClosing ↔ pattern <:+: cs := by
  induction cs with
  | nil => rfl
  | cons c cs ih =>
    by_cases hc : c = ']'
    · have hdouble : (c :: cs).flatMap doubleClosing =
          [] ++ ']' :: ([] ++ ']' :: cs.flatMap doubleClosing) := by
        simp [doubleClosing, hc]
      have hsingle : c :: cs = [] ++ ']' :: cs := by rw [hc, List.nil_append]
      rw [hdouble, hsingle, Text.infix_append_cons_iff h, Text.infix_append_cons_iff h,
        Text.infix_append_cons_iff h, ih, or_self_left]
    · have hsingle : (c :: cs).flatMap doubleClosing = c :: cs.flatMap doubleClosing := by
        simp [doubleClosing, hc]
      have hbegins : pattern <+: (c :: cs).flatMap doubleClosing ↔ pattern <+: c :: cs :=
        prefix_flatMap_doubleClosing_iff h
      rw [hsingle] at hbegins ⊢
      rw [List.infix_cons_iff, List.infix_cons_iff, hbegins, ih]

/-- A text without brackets occurs in a name in brackets only if it occurs in the name, and never
across the end of it. -/
theorem infix_quoteName_append_iff {pattern : String} (hpattern : pattern ≠ "")
    (hopen : '[' ∉ pattern.toList) (hclose : ']' ∉ pattern.toList) (name t : String) :
    pattern.toList <:+: (quoteName name ++ t).toList ↔
      pattern.toList <:+: name.toList ∨ pattern.toList <:+: t.toList := by
  have hne : pattern.toList ≠ [] := fun hnil => hpattern (String.toList_eq_nil_iff.mp hnil)
  have hlist : (quoteName name ++ t).toList =
      [] ++ '[' :: (name.toList.flatMap doubleClosing ++ ']' :: t.toList) := by
    simp [toList_quoteName]
  rw [hlist, Text.infix_append_cons_iff hopen, Text.infix_append_cons_iff hclose,
    infix_flatMap_doubleClosing_iff hclose, List.infix_nil]
  simp [hne]

/-- A closing bracket that stands alone ends the name. -/
theorem quoteName_append_inj {a b r s : String} (hr : ']' ∉ r.toList.head?)
    (hs : ']' ∉ s.toList.head?) (h : quoteName a ++ r = quoteName b ++ s) : a = b ∧ r = s := by
  have hend : ∀ {t : String}, ']' ∉ t.toList.head? →
      ∀ c zs, ']' :: t.toList ≠ doubleClosing c ++ zs := by
    intro t ht c zs heq
    unfold doubleClosing at heq
    split at heq <;> grind
  rw [← String.toList_inj, String.toList_append, String.toList_append, toList_quoteName,
    toList_quoteName] at h
  have hchars : a.toList.flatMap doubleClosing ++ ']' :: r.toList =
      b.toList.flatMap doubleClosing ++ ']' :: s.toList := by simpa using h
  obtain ⟨hname, hrest⟩ :=
    Text.flatMap_append_inj doubleClosing_append_inj (hend hr) (hend hs) hchars
  exact ⟨String.toList_inj.mp hname, String.toList_inj.mp (List.cons.inj hrest).2⟩

theorem readBack_quoteName : Text.ReadBack quoteName fun r => ']' ∉ r.toList.head? :=
  fun hr hs h => quoteName_append_inj hr hs h

theorem quoteName_injective {a b : String} (h : quoteName a = quoteName b) : a = b :=
  (quoteName_append_inj (r := "") (s := "") (by simp) (by simp) (by rw [h])).1

namespace Backend

/-- Escaping is two replacements in turn; the quotes that the second one finds are those of the text,
as the first one writes none. -/
theorem literal_eq_replace (s : String) :
    literal s = "\"" ++ Text.replace "\"" "\\\"" (Text.replace "\\" "\\\\" s) ++ "\"" := by
  have hslash : "\\".toList = ['\\'] := by decide
  have hquote : "\"".toList = ['"'] := by decide
  have hslashes : "\\\\".toList = ['\\', '\\'] := by decide
  have hescaped : "\\\"".toList = ['\\', '"'] := by decide
  have hchars : (Text.replace "\"" "\\\"" (Text.replace "\\" "\\\\" s)).toList =
      s.toList.flatMap escapeChar := by
    rw [Text.toList_replace hquote, Text.toList_replace hslash, hslashes, hescaped,
      Text.replaceChars_singleton, Text.replaceChars_singleton, List.flatMap_assoc]
    refine List.flatMap_congr fun c _ => ?_
    by_cases hbackslash : c = '\\'
    · rw [hbackslash]
      rfl
    by_cases hdouble : c = '"'
    · rw [hdouble]
      rfl
    · rw [if_neg hbackslash, List.flatMap_singleton, if_neg hdouble, escapeChar]
      · exact hbackslash
      · exact hdouble
  rw [literal, ← hchars, String.ofList_toList]

theorem escapeChar_append_inj {c d : Char} {xs ys : List Char}
    (h : escapeChar c ++ xs = escapeChar d ++ ys) : c = d ∧ xs = ys := by
  unfold escapeChar at h
  split at h <;> split at h <;> grind

/-- A quote that is not escaped ends the literal. -/
theorem literal_append_inj {s t r r' : String} (h : literal s ++ r = literal t ++ r') :
    s = t ∧ r = r' := by
  have hend : ∀ (cs : List Char) (c : Char) (zs : List Char),
      '"' :: cs ≠ escapeChar c ++ zs := by
    intro cs c zs heq
    unfold escapeChar at heq
    split at heq <;> grind
  rw [← String.toList_inj] at h
  have hchars : s.toList.flatMap escapeChar ++ '"' :: r.toList =
      t.toList.flatMap escapeChar ++ '"' :: r'.toList := by simpa [literal] using h
  obtain ⟨htext, hrest⟩ :=
    Text.flatMap_append_inj escapeChar_append_inj (hend r.toList) (hend r'.toList) hchars
  exact ⟨String.toList_inj.mp htext, String.toList_inj.mp (List.cons.inj hrest).2⟩

end Backend

end Scaffold
