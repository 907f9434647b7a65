import Mathlib.Data.List.TakeWhile
import Scaffold.Proofs.Text.Replace
import Scaffold.Proofs.Text.Words
import Scaffold.SqlType

/-! Types are looked up by what they have ahead of a parenthesis, in whichever form they are
written. -/
namespace Scaffold

namespace Text

theorem dropEndWhile_append_of_forall {p : Char → Bool} {bs : List Char} (h : ∀ c ∈ bs, p c)
    (cs : List Char) : dropEndWhile p (cs ++ bs) = dropEndWhile p cs := by
  have hreverse : ∀ c ∈ bs.reverse, p c := fun c hc => h c (List.mem_reverse.mp hc)
  rw [dropEndWhile, List.reverse_append, List.dropWhile_append_of_pos hreverse, dropEndWhile]

theorem asciiLower_append (s t : String) : asciiLower (s ++ t) = asciiLower s ++ asciiLower t := by
  simp [asciiLower, ← String.toList_inj]

end Text

namespace SqlType

theorem withoutSuffix_of_not_mem {cs : List Char} (h : '(' ∉ cs) : withoutSuffix cs = cs := by
  have hdropped : cs.dropWhile (· != '(') = [] :=
    List.dropWhile_eq_nil_iff.mpr fun c hc => by simpa using ne_of_mem_of_not_mem hc h
  rw [withoutSuffix, hdropped]

theorem withoutSuffix_of_mem {cs : List Char} (h : '(' ∈ cs) :
    withoutSuffix cs = Text.dropEndWhile Text.isBlank (cs.takeWhile (· != '(')) := by
  unfold withoutSuffix
  split
  · rename_i hdropped
    simpa using List.dropWhile_eq_nil_iff.mp hdropped '(' h
  · rfl

/-- Parentheses lose the space in front of them, and none is lost or added. -/
theorem takeWhile_compact (cs : List Char) :
    ('(' ∈ Text.replaceChars ' ' ['('] ['('] cs ↔ '(' ∈ cs) ∧
    ∃ bs : List Char, (∀ c ∈ bs, Text.isBlank c) ∧ cs.takeWhile (· != '(') =
      (Text.replaceChars ' ' ['('] ['('] cs).takeWhile (· != '(') ++ bs := by
  induction cs using Text.replaceChars_induction ' ' ['('] with
  | nil => exact ⟨by simp, [], by simp, by simp⟩
  | found rest ih =>
    rw [Text.replaceChars_pattern_append]
    exact ⟨by simp, [' '], by simp; decide, by simp⟩
  | kept c cs habsent ih =>
    obtain ⟨hmem, bs, hblank, htake⟩ := ih
    rw [Text.replaceChars_cons_of_absent habsent]
    refine ⟨by simp [hmem], ?_⟩
    by_cases hc : c = '('
    · exact ⟨[], by simp, by simp [hc]⟩
    · exact ⟨bs, hblank, by simp [hc, htake]⟩

/-- What a name has ahead of its first parenthesis. -/
def stem (name : String) : String := String.ofList (withoutSuffix name.toList)

theorem stem_compact (name : String) : stem (Text.replace " (" "(" name) = stem name := by
  have hpattern : " (".toList = [' ', '('] := by decide
  have hvalue : "(".toList = ['('] := by decide
  obtain ⟨hmem, bs, hblank, htake⟩ := takeWhile_compact name.toList
  by_cases h : '(' ∈ name.toList
  · rw [stem, stem, Text.toList_replace hpattern, hvalue, withoutSuffix_of_mem (hmem.mpr h),
      withoutSuffix_of_mem h, htake, Text.dropEndWhile_append_of_forall hblank]
  · rw [Text.replace_of_not_mem (c := '(') (by decide) h]

theorem stem_of_not_mem {name : String} (h : '(' ∉ name.toList) : stem name = name := by
  rw [stem, withoutSuffix_of_not_mem h, String.ofList_toList]

theorem stem_append {name : String} (h : '(' ∉ name.toList) (rest : String) :
    stem (name ++ "(" ++ rest) =
      String.ofList (Text.dropEndWhile Text.isBlank name.toList) := by
  have hlist : (name ++ "(" ++ rest).toList = name.toList ++ '(' :: rest.toList := by simp
  have hkept : ∀ c ∈ name.toList, (c != '(') = true := fun c hc => by
    simpa using ne_of_mem_of_not_mem hc h
  rw [stem, hlist, withoutSuffix_of_mem (by simp), List.takeWhile_append_of_pos hkept]
  simp

/-- A known name with a suffix has the outcomes of its stem, which is known too. -/
theorem stem_known : ∀ name ∈ known,
    stem name ∈ known ∧ mappingOf (stem name) = mappingOf name := by
  decide +kernel

/-- Known names are in lower case, with one space between their words and none around them. -/
theorem known_normal : ∀ name ∈ known, Text.IsAscii name ∧ Text.asciiLower name = name ∧
    Text.singleSpaced name = name ∧ name ≠ "" ∧
    Text.dropEndWhile Text.isBlank name.toList = name.toList := by
  decide +kernel

theorem isKnown_iff {sourceType : String} :
    isKnown sourceType ↔ normalize sourceType ∈ known := List.contains_iff_mem

/-- Lower case with single spaces, and with the suffix. -/
def collapsed (sourceType : String) : String := Text.lower (Text.singleSpaced sourceType)

/-- Whatever form a type is put in, its stem is left. -/
theorem normalize_cases (sourceType : String) :
    normalize sourceType ∈ known ∧ stem (normalize sourceType) = stem (collapsed sourceType) ∨
      normalize sourceType = stem (collapsed sourceType) := by
  have hcompact := stem_compact (collapsed sourceType)
  unfold normalize
  dsimp only
  split
  · rename_i hknown
    exact .inl ⟨List.contains_iff_mem.mp hknown, rfl⟩
  · split
    · rename_i hknown
      exact .inl ⟨List.contains_iff_mem.mp hknown, hcompact⟩
    · exact .inr hcompact

theorem mapping_eq_stem (sourceType : String) :
    mapping sourceType = mappingOf (stem (collapsed sourceType)) := by
  rcases normalize_cases sourceType with ⟨hknown, hstem⟩ | hstem
  · rw [mapping, ← hstem, (stem_known _ hknown).2]
  · rw [mapping, hstem]

theorem isKnown_iff_stem (sourceType : String) :
    isKnown sourceType ↔ stem (collapsed sourceType) ∈ known := by
  rw [isKnown_iff]
  rcases normalize_cases sourceType with ⟨hknown, hstem⟩ | hstem
  · exact iff_of_true hknown (hstem ▸ (stem_known _ hknown).1)
  · rw [hstem]

theorem collapsed_of_known {name : String} (h : name ∈ known) : collapsed name = name := by
  obtain ⟨hascii, hlower, hspaced, -, -⟩ := known_normal name h
  rw [collapsed, hspaced, Text.lower_of_isAscii hascii, hlower]

theorem mapping_of_known {name : String} (h : name ∈ known) : mapping name = mappingOf name := by
  rw [mapping_eq_stem, collapsed_of_known h, (stem_known name h).2]

theorem collapsed_congr {s t : String} (h : Text.eqIgnoringAsciiCase s t) :
    collapsed s = collapsed t := by
  have hcase : ∀ u, collapsed (Text.asciiLower u) = collapsed u := fun u => by
    rw [collapsed, Text.singleSpaced_asciiLower, Text.lower_asciiLower, collapsed]
  rw [← hcase s, Text.eqIgnoringAsciiCase_iff.mp h, hcase]

/-- Of the blanks around a known name at most one space is left, ahead of the parenthesis. -/
theorem singleSpaced_suffixed {name w w' : String} (hname : name ∈ known) (hw : Text.allBlank w)
    (hw' : Text.allBlank w') (rest : String) :
    ∃ space ∈ ["", " "], ∃ r,
      Text.singleSpaced (w ++ name ++ w' ++ "(" ++ rest) = name ++ space ++ "(" ++ r := by
  obtain ⟨-, -, hspaced, hne, -⟩ := known_normal name hname
  have hopen : ("(" ++ rest).toList.head? = some '(' := by simp
  obtain ⟨cs, hcs⟩ := List.head?_eq_some_iff.mp (Text.singleSpaced_head hopen (by decide))
  have hsuffix : Text.singleSpaced ("(" ++ rest) = "(" ++ String.ofList cs := by
    rw [← String.toList_inj, hcs]
    simp
  refine ⟨if w' = "" then "" else " ", by split <;> simp, String.ofList cs, ?_⟩
  calc Text.singleSpaced (w ++ name ++ w' ++ "(" ++ rest)
      = Text.singleSpaced (w ++ (name ++ w' ++ ("(" ++ rest))) := by
        simp only [String.append_assoc]
    _ = Text.singleSpaced (name ++ w' ++ ("(" ++ rest)) := by
        rw [Text.singleSpaced, Text.words_append_of_allBlank hw, Text.singleSpaced]
    _ = name ++ (if w' = "" then "" else " ") ++ ("(" ++ String.ofList cs) := by
        rw [Text.singleSpaced_append_append hspaced hne hw' hopen (by decide), hsuffix]
    _ = name ++ (if w' = "" then "" else " ") ++ "(" ++ String.ofList cs :=
        String.append_assoc.symm

theorem collapsed_suffixed {name w w' : String} (hname : name ∈ known) (hw : Text.allBlank w)
    (hw' : Text.allBlank w') (rest : String) :
    ∃ space ∈ ["", " "], ∃ r, collapsed (w ++ name ++ w' ++ "(" ++ rest) =
      name ++ space ++ "(" ++ r := by
  obtain ⟨hascii, hlower, -, -, -⟩ := known_normal name hname
  obtain ⟨space, hspace, r, hfront⟩ := singleSpaced_suffixed hname hw hw' rest
  have hbehind : ∀ space ∈ ["", " "], Text.IsAscii (space ++ "(") ∧
      Text.asciiLower (space ++ "(") = space ++ "(" := by decide +kernel
  obtain ⟨hbehind_ascii, hbehind_lower⟩ := hbehind space hspace
  obtain ⟨r', hr'⟩ := Text.exists_lower_append (Text.isAscii_append hascii hbehind_ascii) r
  have hgroup : name ++ space ++ "(" = name ++ (space ++ "(") := String.append_assoc
  refine ⟨space, hspace, r', ?_⟩
  rw [collapsed, hfront, hgroup, hr', Text.asciiLower_append, hlower, hbehind_lower]

theorem stem_collapsed_suffixed {name w w' : String} (hname : name ∈ known)
    (hplain : '(' ∉ name.toList) (hw : Text.allBlank w) (hw' : Text.allBlank w') (rest : String) :
    stem (collapsed (w ++ name ++ w' ++ "(" ++ rest)) = name := by
  obtain ⟨-, -, -, -, htrimmed⟩ := known_normal name hname
  obtain ⟨space, hspace, r, hcollapsed⟩ := collapsed_suffixed hname hw hw' rest
  have hblank : ∀ space ∈ ["", " "], Text.allBlank space ∧ '(' ∉ space.toList := by
    decide +kernel
  obtain ⟨hspace_blank, hspace_plain⟩ := hblank space hspace
  have hahead : '(' ∉ (name ++ space).toList := by
    rw [String.toList_append, List.mem_append]
    exact not_or.mpr ⟨hplain, hspace_plain⟩
  rw [hcollapsed, stem_append hahead, String.toList_append,
    Text.dropEndWhile_append_of_forall (List.all_eq_true.mp hspace_blank), htrimmed, String.ofList_toList]

/-- A known type is known in any ASCII case, with any blanks around it and with anything in a
parenthesis behind it, even if the whole is another known type. It has the same outcomes then. -/
theorem mapping_suffixed {name variant w w' : String} (hname : name ∈ known)
    (hplain : '(' ∉ name.toList) (hcase : Text.eqIgnoringAsciiCase variant name)
    (hw : Text.allBlank w) (hw' : Text.allBlank w') (rest : String) :
    isKnown (w ++ variant ++ w' ++ "(" ++ rest) ∧
      mapping (w ++ variant ++ w' ++ "(" ++ rest) = mapping name := by
  have hwhole : Text.eqIgnoringAsciiCase (w ++ variant ++ w' ++ "(" ++ rest)
      (w ++ name ++ w' ++ "(" ++ rest) := by
    rw [Text.eqIgnoringAsciiCase_iff]
    simp only [Text.asciiLower_append, Text.eqIgnoringAsciiCase_iff.mp hcase]
  have hstem : stem (collapsed (w ++ variant ++ w' ++ "(" ++ rest)) = name := by
    rw [collapsed_congr hwhole, stem_collapsed_suffixed hname hplain hw hw']
  rw [isKnown_iff_stem, mapping_eq_stem, mapping_eq_stem, hstem, collapsed_of_known hname,
    stem_of_not_mem hplain]
  exact ⟨hname, rfl⟩

/-- The longest texts are a known type of their own, and become what all others do. -/
theorem longest_text_mapped :
    "nvarchar" ∈ known ∧ '(' ∉ "nvarchar".toList ∧
      Text.eqIgnoringAsciiCase "NVarChar" "nvarchar" ∧ Text.allBlank "\t" ∧
      Text.allBlank "\u3000 " ∧
      normalize ("\t" ++ "NVarChar" ++ "\u3000 " ++ "(" ++ "MAX)") = "nvarchar(max)" ∧
      isKnown ("\t" ++ "NVarChar" ++ "\u3000 " ++ "(" ++ "MAX)") ∧
      mapping ("\t" ++ "NVarChar" ++ "\u3000 " ++ "(" ++ "MAX)") =
        ⟨.string, .string, .plain⟩ := by
  have hname : "nvarchar" ∈ known := by decide
  have hplain : '(' ∉ "nvarchar".toList := by decide
  have hcase : Text.eqIgnoringAsciiCase "NVarChar" "nvarchar" := by
    rw [Text.eqIgnoringAsciiCase_eq_toList]
    decide
  have hw : Text.allBlank "\t" := by decide +kernel
  have hw' : Text.allBlank "\u3000 " := by decide +kernel
  have hnormal : normalize ("\t" ++ "NVarChar" ++ "\u3000 " ++ "(" ++ "MAX)") =
      "nvarchar(max)" := by decide +kernel
  obtain ⟨hknown, hmapping⟩ := mapping_suffixed hname hplain hcase hw hw' "MAX)"
  rw [mapping_of_known hname] at hmapping
  exact ⟨hname, hplain, hcase, hw, hw', hnormal, hknown, hmapping.trans (by decide +kernel)⟩

end SqlType

end Scaffold
