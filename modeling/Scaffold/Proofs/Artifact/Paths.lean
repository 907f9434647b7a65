import Scaffold.Artifact
import Scaffold.Proofs.Text.Lower

/-! The paths of the artifacts tell tables and kinds apart. -/
namespace Scaffold.ArtifactKind

/-- What follows the table's name in lower case in the path of a client file. -/
def folderEnd : ArtifactKind → String
  | clientService | clientServiceTest => "-service/"
  | matTableMarkup | matTable => "-mat-table/"
  | component op _ => "-" ++ op.word ++ "/"
  | _ => "."

/-- What a path ends with, whatever the table. -/
def ending : ArtifactKind → String
  | config => "Config.cs"
  | entity => "Entity.cs"
  | access => "Access.cs"
  | serviceInterface | service => "Service.cs"
  | controller => "Controller.cs"
  | clientInterface => "ts"
  | clientService => ".service.ts"
  | clientServiceTest => ".service.spec.ts"
  | matTableMarkup => "MatTable.html"
  | matTable => "MatTable.ts"
  | component op .code => "-" ++ op.word ++ ".component.ts"
  | component op .markup => "-" ++ op.word ++ ".component.html"
  | component op .style => "-" ++ op.word ++ ".component.css"
  | component op .test => "-" ++ op.word ++ ".component.spec.ts"

/-- The part of a client path behind the folder of all client files. -/
def clientTail (stem : String) (k : ArtifactKind) : String :=
  stem ++ (k.folderEnd ++ ((if k = clientInterface then "" else stem) ++ k.ending))

def backendFront (name : String) : ArtifactKind → String
  | config => name ++ "/Net/"
  | serviceInterface => name ++ "/Net/Services/" ++ ("I" ++ name)
  | service => name ++ "/Net/Services/" ++ name
  | _ => name ++ "/Net/" ++ name

variable {name name' stem : String} {k k' : ArtifactKind} {t t' : Table}
  {database database' : String}

theorem path_of_isBackend (h : k.isBackend) :
    k.path (.ofTable t database) = k.backendFront t.name ++ k.ending := by
  cases k
  case config | entity | access | serviceInterface | service | controller =>
    simp [path, Names.ofTable, backendFront, ending, toString, String.append_assoc]
  all_goals contradiction

theorem path_of_not_isBackend (h : k.isBackend = false) :
    k.path (.ofTable t database) =
      t.name ++ "/Angular/" ++ clientTail (Text.lower t.name) k := by
  cases k
  case component op part =>
    cases part <;>
      simp [path, Names.ofTable, Names.componentStem, clientTail, folderEnd, ending, toString,
        String.append_assoc]
  case clientInterface | clientService | clientServiceTest | matTableMarkup | matTable =>
    simp [path, Names.ofTable, clientTail, folderEnd, ending, toString, String.append_assoc]
  all_goals contradiction

theorem mem_client (h : k.isBackend = false) : k ∈ client := by
  cases k with
  | component op part => cases op <;> cases part <;> decide
  | _ => first | contradiction | decide

theorem ending_suffix_path (k : ArtifactKind) :
    k.ending.toList <:+ (k.path (.ofTable t database)).toList := by
  cases h : k.isBackend
  · rw [path_of_not_isBackend h, clientTail]
    simp only [String.toList_append, ← List.append_assoc]
    exact List.suffix_append _ _
  · rw [path_of_isBackend h, String.toList_append]
    exact List.suffix_append _ _

theorem mem_all (k : ArtifactKind) : k ∈ backend ++ client := by
  cases h : k.isBackend
  · exact List.mem_append_right _ (mem_client h)
  · exact List.mem_append_left _ (List.contains_iff_mem.mp h)

/-- Of two endings one is the end of the other only within one part, and in the backend for the
two files of the service alone. -/
theorem endings_apart : ∀ k ∈ backend ++ client, ∀ k' ∈ backend ++ client,
    k.ending.toList <:+ k'.ending.toList → k.isBackend = k'.isBackend ∧
      (k.isBackend → k.ending = k'.ending ∧
        (k = k' ∨ k ∈ [serviceInterface, service] ∧ k' ∈ [serviceInterface, service])) := by
  decide +kernel

theorem folderEnds_apart : ∀ k ∈ client, ∀ k' ∈ client,
    k.folderEnd.toList <+: k'.folderEnd.toList →
      k.folderEnd = k'.folderEnd ∧ (k = clientInterface ↔ k' = clientInterface) ∧
        (k.ending = k'.ending → k = k') := by
  decide +kernel

theorem prefixes_eq {p q s : List Char} (hp : p <+: s) (hq : q <+: s)
    (h : p.length = q.length) : p = q :=
  (List.prefix_of_prefix_length_le hp hq (Nat.le_of_eq h)).eq_of_length h

theorem prefix_backendFront (k : ArtifactKind) (name : String) :
    name.toList <+: (k.backendFront name).toList := by
  cases k <;> simp only [backendFront, String.append_assoc, String.toList_append] <;>
    exact List.prefix_append _ _

theorem backendFront_inj (h : k.backendFront name = k.backendFront name') : name = name' := by
  have hlength := congrArg String.length h
  have hsame : name.length = name'.length := by
    cases k <;> simp [backendFront] at hlength <;> omega
  have hname := prefix_backendFront k name'
  rw [← h] at hname
  rw [← String.length_toList, ← String.length_toList] at hsame
  exact String.toList_inj.mp (prefixes_eq (prefix_backendFront k name) hname hsame)

/-- The lengths of these two differ in parity. -/
theorem serviceInterface_front_ne (name name' : String) :
    serviceInterface.backendFront name ≠ service.backendFront name' := by
  intro h
  have hlength := congrArg String.length h
  have hletter : "I".length = 1 := rfl
  simp only [backendFront, String.length_append, hletter] at hlength
  omega

theorem backend_inj (hk : k.isBackend) (hk' : k'.isBackend)
    (h : k.path (.ofTable t database) = k'.path (.ofTable t' database')) :
    t.name = t'.name ∧ k = k' := by
  have hends := List.suffix_or_suffix_of_suffix (ending_suffix_path k)
    (h ▸ ending_suffix_path k')
  have hkinds : k.ending = k'.ending ∧
      (k = k' ∨ k ∈ [serviceInterface, service] ∧ k' ∈ [serviceInterface, service]) := by
    rcases hends with hle | hle
    · exact (endings_apart k (mem_all k) k' (mem_all k') hle).2 hk
    · obtain ⟨heq, hor⟩ := (endings_apart k' (mem_all k') k (mem_all k) hle).2 hk'
      exact ⟨heq.symm, hor.imp Eq.symm And.symm⟩
  obtain ⟨heq, hor⟩ := hkinds
  rw [path_of_isBackend hk, path_of_isBackend hk', heq] at h
  have hfront := (String.append_left_inj _).mp h
  rcases hor with rfl | ⟨hmem, hmem'⟩
  · exact ⟨backendFront_inj hfront, rfl⟩
  · simp only [List.mem_cons, List.not_mem_nil, or_false] at hmem hmem'
    rcases hmem with rfl | rfl <;> rcases hmem' with rfl | rfl
    · exact ⟨backendFront_inj hfront, rfl⟩
    · exact absurd hfront (serviceInterface_front_ne _ _)
    · exact absurd hfront.symm (serviceInterface_front_ne _ _)
    · exact ⟨backendFront_inj hfront, rfl⟩

theorem client_kind_inj (hk : k.isBackend = false) (hk' : k'.isBackend = false)
    (h : clientTail stem k = clientTail stem k') : k = k' := by
  have hrest := (String.append_right_inj stem).mp h
  have hlist := congrArg String.toList hrest
  simp only [String.toList_append] at hlist
  have hfolder := List.prefix_append k.folderEnd.toList
    ((if k = clientInterface then "" else stem).toList ++ k.ending.toList)
  rw [hlist] at hfolder
  have hfolders := List.prefix_or_prefix_of_prefix hfolder (List.prefix_append _ _)
  have hsame : k.folderEnd = k'.folderEnd ∧ (k = clientInterface ↔ k' = clientInterface) ∧
      (k.ending = k'.ending → k = k') := by
    rcases hfolders with hle | hle
    · exact folderEnds_apart k (mem_client hk) k' (mem_client hk') hle
    · obtain ⟨heq, hiff, himp⟩ := folderEnds_apart k' (mem_client hk') k (mem_client hk) hle
      exact ⟨heq.symm, hiff.symm, fun hend => (himp hend.symm).symm⟩
  obtain ⟨heq, hiff, himp⟩ := hsame
  rw [heq] at hrest
  have hends := (String.append_right_inj _).mp hrest
  refine himp ?_
  by_cases hk : k = clientInterface
  · rw [if_pos hk, if_pos (hiff.mp hk)] at hends
    exact (String.append_right_inj _).mp hends
  · rw [if_neg hk, if_neg (mt hiff.mpr hk)] at hends
    exact (String.append_right_inj _).mp hends

/-- The folder of the client files is the last place of the path with a capital `A`. -/
theorem not_mem_clientTail (hk : k.isBackend = false) :
    'A' ∉ (clientTail (Text.lower name) k).toList := by
  have hstem : 'A' ∉ (Text.lower name).toList := fun h =>
    absurd (Text.not_isAsciiUpper_of_mem_lower h) (by decide)
  have hfixed : ∀ k ∈ client, 'A' ∉ k.folderEnd.toList ∧ 'A' ∉ k.ending.toList := by
    decide +kernel
  obtain ⟨hfolder, hending⟩ := hfixed k (mem_client hk)
  unfold clientTail
  split <;> simp [hstem, hfolder, hending]

/-- A text is cut in one way only at the last place of a character. -/
theorem append_inj_of_last {c : Char} {a b r s : List Char} (hr : c ∉ r) (hs : c ∉ s)
    (h : a ++ c :: r = b ++ c :: s) : a = b ∧ r = s := by
  rcases List.append_eq_append_iff.mp h with ⟨x, rfl, hx⟩ | ⟨x, rfl, hx⟩
  · cases x with
    | nil => exact ⟨by simp, by simpa using hx⟩
    | cons d x =>
      obtain ⟨-, rfl⟩ := List.cons.inj hx
      simp at hr
  · cases x with
    | nil => exact ⟨by simp, by simpa using hx.symm⟩
    | cons d x =>
      obtain ⟨-, rfl⟩ := List.cons.inj hx
      simp at hs

theorem client_inj (hk : k.isBackend = false) (hk' : k'.isBackend = false)
    (h : k.path (.ofTable t database) = k'.path (.ofTable t' database')) :
    t.name = t'.name ∧ k = k' := by
  rw [path_of_not_isBackend hk, path_of_not_isBackend hk'] at h
  have hfolder : "/Angular/".toList = '/' :: 'A' :: "ngular/".toList := by decide +kernel
  have hfree : ∀ {name : String} {k : ArtifactKind}, k.isBackend = false →
      'A' ∉ "ngular/".toList ++ (clientTail (Text.lower name) k).toList := fun hk =>
    List.not_mem_append (by decide +kernel) (not_mem_clientTail hk)
  have hlist := congrArg String.toList h
  simp only [String.toList_append, hfolder, List.append_assoc, List.cons_append] at hlist
  have hcut : ∀ n r : List Char, n ++ '/' :: 'A' :: r = (n ++ ['/']) ++ 'A' :: r := by simp
  rw [hcut, hcut] at hlist
  obtain ⟨hnames, htails⟩ := append_inj_of_last (hfree hk) (hfree hk') hlist
  have hname : t.name = t'.name := String.toList_inj.mp (List.append_cancel_right hnames)
  rw [hname] at htails
  have htail := String.toList_inj.mp (List.append_cancel_left htails)
  exact ⟨hname, client_kind_inj hk hk' htail⟩

/-- Artifacts of different tables, or of different kinds, have different paths. -/
theorem path_inj (h : k.path (.ofTable t database) = k'.path (.ofTable t' database')) :
    t.name = t'.name ∧ k = k' := by
  have hends := List.suffix_or_suffix_of_suffix (ending_suffix_path k)
    (h ▸ ending_suffix_path k')
  have hside : k.isBackend = k'.isBackend := by
    rcases hends with hle | hle
    · exact (endings_apart k (mem_all k) k' (mem_all k') hle).1
    · exact (endings_apart k' (mem_all k') k (mem_all k) hle).1.symm
  cases hk : k.isBackend
  · exact client_inj hk (hside ▸ hk) h
  · exact backend_inj hk (hside ▸ hk) h

end Scaffold.ArtifactKind
