import Scaffold.Proofs.Backend.Bindings
import Scaffold.Proofs.Backend.Properties
import Scaffold.Proofs.Model
import Scaffold.Proofs.Schema.Key

/-! The members that the data-access class reads, against the properties of the entity class. -/
namespace Scaffold.Backend.Access

variable {t : Table} {database : String} {b : ParamBudget} {m : Model}

/-- Some line of the class binds a parameter to that member of an item. -/
def Reads (m : Model) (member : String) : Prop :=
  ∃ b : Binding, b.member? = some member ∧ ∃ p, b.text p ∈ Step.allTexts (access m)

theorem reads_iff {name : String} :
    Reads m name ↔ name = m.key.name ∨ ∃ c ∈ m.written, c.name = name := by
  constructor
  · rintro ⟨b, hmember, p, hline⟩
    obtain hplain | hconstant | ⟨c, hc, q, heq⟩ := accounted_access (b.text p) hline
    · exact absurd hplain (b.not_plain_text p)
    · exact absurd hconstant (text_not_mem_constants b p)
    · obtain ⟨rfl, -⟩ := Binding.text_injective heq
      rcases List.mem_cons.mp hc with rfl | hc
      · simp [Binding.member?, idBinding] at hmember
      rcases List.mem_cons.mp hc with rfl | hc
      · exact .inl (Option.some.inj hmember).symm
      · obtain ⟨column, hcolumn, rfl⟩ := List.mem_map.mp hc
        exact .inr ⟨column, hcolumn, Option.some.inj hmember⟩
  · rintro (rfl | ⟨c, hc, rfl⟩)
    · exact ⟨keyBinding m, rfl, .alone, text_mem_access List.mem_cons_self⟩
    · exact ⟨⟨c.name, .nullableMember c.name⟩, rfl, .alone,
        text_mem_access (List.mem_cons_of_mem _ (List.mem_map.mpr ⟨c, hc, rfl⟩))⟩

theorem declares_iff_column (hm : Model.build t database b = .ok m) {name : String} :
    Declares m name ↔ ∃ c ∈ t.columns, c.name = name := by
  rw [declares_iff, Model.columns_of_build hm]
  simp [ColumnModel.of]

/-- The class reads no member that its entity does not declare, apart from a key by the default
name. It reads that one too unless a column is flagged as a key or has the default name. -/
theorem members_declared_iff (hm : Model.build t database b = .ok m) :
    (∀ name, Declares m name ↔ ∃ c ∈ t.columns, c.name = name) ∧
      (∀ name, Reads m name → Declares m name ∨ name = Key.defaultName) ∧
      ((∀ name, Reads m name → Declares m name) ↔
        ∃ c ∈ t.columns, c.flaggedKey ∨ Text.eqIgnoringAsciiCase c.name Key.defaultName) := by
  have hwritten : ∀ c ∈ m.written, Declares m c.name := fun c hc =>
    declares_iff.mpr ⟨c, (List.mem_filter.mp hc).1, rfl⟩
  have hkey : Model.key m = Key.ofTable t := Model.key_of_build hm
  refine ⟨fun name => declares_iff_column hm, fun name hread => ?_, ?_⟩
  · obtain rfl | ⟨c, hc, rfl⟩ := reads_iff.mp hread
    · rw [declares_iff_column hm, hkey]
      obtain ⟨c, hc, hname⟩ | hdefault := Key.name_ofTable t
      · exact .inl ⟨c, hc, hname.symm⟩
      · exact .inr hdefault
    · exact .inl (hwritten c hc)
  · rw [← Key.isColumn_iff, ← hkey, ← declares_iff_column hm]
    constructor
    · exact fun h => h m.key.name (reads_iff.mpr (.inl rfl))
    · intro h name hread
      obtain rfl | ⟨c, hc, rfl⟩ := reads_iff.mp hread
      · exact h
      · exact hwritten c hc

/-- Users have a key of their own, which the update of a user reads. -/
theorem user_members_declared :
    ∃ m, Model.build Model.userTable "Main" {} = .ok m ∧
      (∀ name, Reads m name → Declares m name) ∧ Reads m "Id" ∧ Declares m "Id" := by
  have hbuild := Model.build_userTable "Main" {}
  have hdeclared := (members_declared_iff hbuild).2.2.mpr (by decide)
  have hread : Reads (Model.derived Model.userTable "Main" {}) "Id" :=
    reads_iff.mpr (.inl (by decide +kernel))
  exact ⟨_, hbuild, hdeclared, hread, hdeclared "Id" hread⟩

/-- Messages without a key. -/
def messageTable : Table := { name := "Messages", columns := [⟨"Text", "nvarchar", false, false⟩] }

/-- The update of a message sends the identifier of an item that has nothing but a text. -/
theorem message_id_undeclared :
    ∃ m, Model.build messageTable "Main" {} = .ok m ∧
      (∀ name, Declares m name ↔ name = "Text") ∧ Reads m "Id" ∧ ¬ Declares m "Id" := by
  have hbuild : Model.build messageTable "Main" {} = .ok (Model.derived messageTable "Main" {}) :=
    Model.build_eq_ok_iff.mpr ⟨by decide, rfl⟩
  have hdeclares : ∀ name,
      Declares (Model.derived messageTable "Main" {}) name ↔ name = "Text" := by
    intro name
    rw [declares_iff_column hbuild]
    simp [messageTable, eq_comm]
  have hread : Reads (Model.derived messageTable "Main" {}) "Id" :=
    reads_iff.mpr (.inl (by decide +kernel))
  refine ⟨_, hbuild, hdeclares, hread, fun hid => ?_⟩
  exact absurd ((hdeclares "Id").mp hid) (by decide)

end Scaffold.Backend.Access
