import Scaffold.Proofs.Artifact.Paths
import Scaffold.Proofs.Files.Tree

/-! Where the artifacts of tables come to lie below an output folder. -/
namespace Scaffold

namespace FileTree

variable {t : FileTree} {p q : String}

theorem start_append (h : p ≠ "") (r : String) : t.start (p ++ r) = t.start p := by
  have hhead : (p ++ r).toList.head? = p.toList.head? := by
    rw [String.toList_append]
    cases hp : p.toList with
    | nil => exact absurd (by simpa using hp) h
    | cons c cs => rfl
  rw [start, start, Path.isAbsolute, Path.isAbsolute, hhead]

theorem place_empty (t : FileTree) : t.place "" = t.workingFolder := rfl

/-- A segment is joined to a path as it is walked from there. -/
theorem place_join (hq : '/' ∉ q.toList) : t.place (Path.join p q) = onward (t.place p) q := by
  have hrelative := Path.isAbsolute_of_no_slash hq
  rw [Path.join, if_neg (by simp [hrelative])]
  by_cases hempty : p = ""
  · subst hempty
    rw [if_pos (by simp), String.empty_append, place_empty, place, Path.segments_of_no_slash hq,
      start, hrelative]
    rfl
  by_cases hslash : p.toList.getLast? = some '/'
  · rw [if_pos (by simp [hslash])]
    obtain ⟨cs, hcs⟩ := List.getLast?_eq_some_iff.mp hslash
    obtain rfl : p = String.ofList cs ++ "/" := String.toList_inj.mp (by simp [hcs])
    rw [place, place, start_append hempty, Path.segments_append_slash,
      Path.segments_slash, Path.segments_of_no_slash hq, List.foldl_append, List.foldl_append]
    rfl
  · rw [if_neg (by simp [hempty, hslash]), String.append_assoc, place, start_append hempty,
      ← String.append_assoc, Path.segments_append_slash, Path.segments_of_no_slash hq,
      List.foldl_append]
    rfl

theorem place_below (t : FileTree) (folder path : String) :
    t.place (Path.below folder path) = (Path.segments path).foldl onward (t.place folder) := by
  have hall : ∀ ss : List String, (∀ s ∈ ss, '/' ∉ s.toList) → ∀ p,
      t.place (ss.foldl Path.join p) = ss.foldl onward (t.place p) := by
    intro ss
    induction ss with
    | nil => exact fun _ _ => rfl
    | cons s rest ih =>
      intro h p
      obtain ⟨hs, hrest⟩ := List.forall_mem_cons.mp h
      rw [List.foldl_cons, List.foldl_cons, ih hrest, place_join hs]
  exact hall _ (fun s => Path.no_slash_of_mem_segments) folder

theorem isName_append {s e : String} (h : e.toList.any (· != '.')) : isName (s ++ e) := by
  obtain ⟨c, hc, hne⟩ := List.any_eq_true.mp h
  have hmem : c ∈ (s ++ e).toList := by simp [hc]
  rw [isName, Bool.not_eq_true', Bool.eq_false_iff, Ne, List.contains_iff_mem]
  intro hdots
  simp only [List.mem_cons, List.not_mem_nil, or_false] at hdots
  rcases hdots with h | h | h <;> rw [h] at hmem <;> simp_all

theorem foldl_onward {ss : List String} (h : ∀ s ∈ ss, isName s) (l : Location) :
    ss.foldl onward l = l ++ ss := by
  induction ss generalizing l with
  | nil => simp
  | cons s rest ih =>
    obtain ⟨hs, hrest⟩ := List.forall_mem_cons.mp h
    rw [List.foldl_cons, onward_of_isName hs, ih hrest]
    simp

theorem name_ne_empty {u : Table} (h : u.fault? = none) : u.name ≠ "" := by
  intro heq
  have hblank : Text.allBlank u.name := by rw [heq]; rfl
  rw [Table.fault?, if_pos hblank] at h
  contradiction

theorem isName_of_sound {u : Table} (h : u.fault? = none) (hdot : u.name ≠ ".")
    (hdots : u.name ≠ "..") : isName u.name := by
  simp [isName, name_ne_empty h, hdot, hdots]

end FileTree

namespace ArtifactKind

open FileTree

/-- The folders inside the one of the table. -/
def folders (stem : String) : ArtifactKind → List String
  | config | entity | access | controller => ["Net"]
  | serviceInterface | service => ["Net", "Services"]
  | clientInterface => ["Angular"]
  | clientService | clientServiceTest => ["Angular", stem ++ "-service"]
  | matTableMarkup | matTable => ["Angular", stem ++ "-mat-table"]
  | component op _ => ["Angular", stem ++ ("-" ++ op.word)]

/-- What the name of the file begins with. -/
def fileFront (name stem : String) : ArtifactKind → String
  | config => ""
  | serviceInterface => "I" ++ name
  | entity | access | service | controller => name
  | clientInterface => stem ++ "."
  | _ => stem

def parts (name : String) (k : ArtifactKind) : List String :=
  let stem := Text.lower name
  name :: k.folders stem ++ [k.fileFront name stem ++ k.ending]

theorem path_eq_intercalate (k : ArtifactKind) (t : Table) (database : String) :
    k.path (.ofTable t database) = "/".intercalate (k.parts t.name) := by
  refine String.toList_inj.mp ?_
  cases k
  case component op part =>
    cases part <;>
      simp [path, Names.ofTable, Names.componentStem, parts, folders, fileFront, ending, toString]
  all_goals simp [path, Names.ofTable, parts, folders, fileFront, ending, toString]

/-- The fixed parts of names are names of files by themselves. -/
theorem endings_named : ∀ k ∈ backend ++ client,
    '/' ∉ k.ending.toList ∧ k.ending.toList.any (· != '.') := by
  decide +kernel

/-- What follows the stem in the name of a folder. -/
theorem words_named : ∀ op ∈ Operation.all,
    '/' ∉ ("-" ++ op.word).toList ∧ ("-" ++ op.word).toList.any (· != '.') := by
  decide +kernel

theorem no_slash_lower {name : String} (h : '/' ∉ name.toList) :
    '/' ∉ (Text.lower name).toList := by
  intro hmem
  rcases Text.mem_lower hmem with hlowered | ⟨hname, -⟩
  · rcases hlowered with hhigh | hsmall
    · exact absurd hhigh (by decide)
    · exact absurd hsmall (by decide)
  · exact h hname

theorem folders_named {stem : String} (hstem : '/' ∉ stem.toList) (k : ArtifactKind) :
    ∀ s ∈ k.folders stem, isName s ∧ '/' ∉ s.toList := by
  have hnet : isName "Net" ∧ '/' ∉ "Net".toList := by decide +kernel
  have hservices : isName "Services" ∧ '/' ∉ "Services".toList := by decide +kernel
  have hangular : isName "Angular" ∧ '/' ∉ "Angular".toList := by decide +kernel
  have hjoined : ∀ e : String, ('/' ∉ e.toList ∧ e.toList.any (· != '.')) →
      isName (stem ++ e) ∧ '/' ∉ (stem ++ e).toList := fun e he =>
    ⟨isName_append he.2, by simp [hstem, he.1]⟩
  cases k with
  | component op part =>
    have hop : op ∈ Operation.all := by cases op <;> decide
    simpa [folders, hangular] using hjoined _ (words_named op hop)
  | clientService | clientServiceTest =>
    simpa [folders, hangular] using hjoined "-service" (by decide +kernel)
  | matTableMarkup | matTable =>
    simpa [folders, hangular] using hjoined "-mat-table" (by decide +kernel)
  | config | entity | access | controller => simpa [folders] using hnet
  | serviceInterface | service => simpa [folders, hnet] using hservices
  | clientInterface => simpa [folders] using hangular

/-- Under a table's name that is itself the name of a folder all parts are names. -/
theorem parts_named {name : String} (hname : isName name) (hslash : '/' ∉ name.toList)
    (k : ArtifactKind) : ∀ s ∈ k.parts name, isName s ∧ '/' ∉ s.toList := by
  have hstem := no_slash_lower hslash
  obtain ⟨hend, hdot⟩ := endings_named k (mem_all k)
  have hfront : '/' ∉ (k.fileFront name (Text.lower name)).toList := by
    cases k <;> simp [fileFront, hslash, hstem]
  intro s hs
  rw [parts, List.mem_append, List.mem_cons, List.mem_singleton] at hs
  rcases hs with (rfl | hs) | rfl
  · exact ⟨hname, hslash⟩
  · exact folders_named hstem k s hs
  · exact ⟨isName_append hdot, by simp [hfront, hend]⟩

theorem segments_path {t : Table} (hname : isName t.name) (hslash : '/' ∉ t.name.toList)
    (k : ArtifactKind) (database : String) :
    Path.segments (k.path (.ofTable t database)) = k.parts t.name := by
  rw [path_eq_intercalate]
  exact Path.segments_intercalate (by simp [parts]) fun s hs => (parts_named hname hslash k s hs).2

end ArtifactKind

end Scaffold
