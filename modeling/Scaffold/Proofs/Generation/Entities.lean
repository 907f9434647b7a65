import Scaffold.Proofs.Generation.Distinct
import Scaffold.Proofs.Text.Split

/-! When the entities of a run are different types. Tables are told apart by their own names alone;
the name of an entity, its namespace and its database are free. -/
namespace Scaffold

namespace Names

variable {n n' : Names}

/-- The entity's name goes through a namespace below its own, to the other entity. -/
def ReachesInto (n n' : Names) : Prop :=
  ∃ inner, n.entity = inner ++ "." ++ n'.entity ∧
    n'.entitiesNamespace = n.entitiesNamespace ++ "." ++ inner

def SameEntity (n n' : Names) : Prop :=
  n.entitiesNamespace = n'.entitiesNamespace ∧ n.entity = n'.entity ∨
    n.ReachesInto n' ∨ n'.ReachesInto n

theorem qualifiedEntity_eq_iff : n.qualifiedEntity = n'.qualifiedEntity ↔ n.SameEntity n' :=
  Text.append_sep_eq_iff rfl

theorem qualifiedEntity_eq_iff_of_not_mem (h : '.' ∉ n.entity.toList)
    (h' : '.' ∉ n'.entity.toList) :
    n.qualifiedEntity = n'.qualifiedEntity ↔
      n.entitiesNamespace = n'.entitiesNamespace ∧ n.entity = n'.entity :=
  Text.append_sep_eq_iff_of_not_mem rfl h h'

end Names

namespace Generation

variable {s : Settings} {ts : List Table} {t u : Table} {g : Generated}

/-- The first part of all namespaces of a table. -/
def rootOf (s : Settings) (t : Table) : String :=
  String.ofList (Text.dropEndWhile (· == '.') (qualified s t).rootNamespace.toList)

/-- The last part of the namespace of the table's entity. -/
def databaseOf (s : Settings) (t : Table) : String := Model.databaseOf t s.database

theorem entity_modelOf (s : Settings) (t : Table) : (modelOf s t).names.entity = t.entity := by
  rw [names_modelOf]
  unfold qualified
  split <;> rfl

theorem entitiesNamespace_modelOf (s : Settings) (t : Table) :
    (modelOf s t).names.entitiesNamespace =
      rootOf s t ++ ".Database.Entities" ++ "." ++ databaseOf s t := by
  have hdatabase : Model.databaseOf (qualified s t) s.database = databaseOf s t := by
    unfold qualified
    split <;> rfl
  have hdot : ".Database.Entities." = ".Database.Entities" ++ "." := rfl
  rw [names_modelOf, hdatabase]
  change rootOf s t ++ ".Database.Entities." ++ databaseOf s t = _
  rw [hdot, ← String.append_assoc]

theorem entitiesNamespace_eq_iff (h : '.' ∉ (databaseOf s t).toList)
    (h' : '.' ∉ (databaseOf s u).toList) :
    (modelOf s t).names.entitiesNamespace = (modelOf s u).names.entitiesNamespace ↔
      rootOf s t = rootOf s u ∧ databaseOf s t = databaseOf s u := by
  rw [entitiesNamespace_modelOf, entitiesNamespace_modelOf,
    Text.append_sep_eq_iff_of_not_mem rfl h h', String.append_left_inj]

theorem nodup_entities_iff (s : Settings) (ts : List Table) :
    ((ts.map (modelOf s)).map (·.names.qualifiedEntity)).Nodup ↔
      (ts.map (modelOf s)).Pairwise fun m n => ¬ m.names.SameEntity n.names := by
  rw [List.Nodup, List.pairwise_map]
  exact List.Pairwise.iff fun m n => not_congr Names.qualifiedEntity_eq_iff

theorem nodup_entities_iff_of_not_mem (hentity : ∀ t ∈ ts, '.' ∉ t.entity.toList)
    (hdatabase : ∀ t ∈ ts, '.' ∉ (databaseOf s t).toList) :
    ((ts.map (modelOf s)).map (·.names.qualifiedEntity)).Nodup ↔
      ts.Pairwise fun t u =>
        ¬ (rootOf s t = rootOf s u ∧ databaseOf s t = databaseOf s u ∧ t.entity = u.entity) := by
  rw [List.Nodup, List.pairwise_map, List.pairwise_map]
  refine List.Pairwise.iff_of_mem fun {t u} ht hu => not_congr ?_
  rw [Names.qualifiedEntity_eq_iff_of_not_mem, entitiesNamespace_eq_iff (hdatabase t ht)
    (hdatabase u hu), entity_modelOf, entity_modelOf, and_assoc]
  · rw [entity_modelOf]
    exact hentity t ht
  · rw [entity_modelOf]
    exact hentity u hu

/-- Tables that give their own names to their entities are as different as these. -/
theorem nodup_entities_of_own_names (hr : ¬ Repeats ts)
    (hown : ∀ t ∈ ts, t.entity = t.name ∧ '.' ∉ t.name.toList) :
    ((ts.map (modelOf s)).map (·.names.qualifiedEntity)).Nodup := by
  rw [List.Nodup, List.pairwise_map, List.pairwise_map]
  refine (pairwise_tables hr).imp_of_mem fun {t u} ht hu hlower heq => hlower ?_
  obtain ⟨htown, htdot⟩ := hown t ht
  obtain ⟨huown, hudot⟩ := hown u hu
  have hentities : t.entity = u.entity := by
    rw [Names.qualifiedEntity_eq_iff_of_not_mem (by rwa [entity_modelOf, htown])
      (by rwa [entity_modelOf, huown]), entity_modelOf, entity_modelOf] at heq
    exact heq.2
  rw [← htown, ← huown, hentities]

/-- Two tables of a run have one entity exactly if they agree in its name and its namespace, or if a
dot in the name of one entity leads to the other. Where neither entities nor databases have dots in
their names, the namespaces are one if the databases and the roots are; and where entities have the
names of their tables, they are all different. -/
theorem entities_distinct_iff {parallel : Gatherer} (h : parallel.Ordered)
    (hg : generateWith parallel s ts = .ok g) :
    ∃ ms : List Model, ts.map (model s) = ms.map .ok ∧
      ((ms.map (·.names.qualifiedEntity)).Nodup ↔
        ms.Pairwise fun m n => ¬ m.names.SameEntity n.names) ∧
      ((∀ t ∈ ts, '.' ∉ t.entity.toList) → (∀ t ∈ ts, '.' ∉ (databaseOf s t).toList) →
        ((ms.map (·.names.qualifiedEntity)).Nodup ↔ ts.Pairwise fun t u =>
          ¬ (rootOf s t = rootOf s u ∧ databaseOf s t = databaseOf s u ∧
            t.entity = u.entity))) ∧
      ((∀ t ∈ ts, t.entity = t.name ∧ '.' ∉ t.name.toList) →
        (ms.map (·.names.qualifiedEntity)).Nodup) := by
  obtain ⟨hr, hsound, -⟩ := (ok_iff h).mp hg
  exact ⟨ts.map (modelOf s), map_model hsound, nodup_entities_iff s ts,
    nodup_entities_iff_of_not_mem, nodup_entities_of_own_names hr⟩

/-- The table of users under another name. Its entity keeps the name that it had. -/
def renamedTable (database : Option String) : Table :=
  { Model.userTable with name := "Accounts", entityName := some "Users", database }

theorem generate_renamed (database : Option String) :
    ∃ g, generateWith inOrder {} [Model.userTable, renamedTable database] = .ok g := by
  have hstems : (stems [Model.userTable, renamedTable database]).Nodup := by
    change [Text.lower "Users", Text.lower "Accounts"].Nodup
    decide +kernel
  have hrenamed : (renamedTable database).fault? = none := by
    change (renamedTable none).fault? = none
    decide
  have hsound : ∀ t ∈ [Model.userTable, renamedTable database], t.fault? = none := by
    simp only [List.forall_mem_cons]
    exact ⟨by decide, hrenamed, nofun⟩
  exact ⟨_, (ok_iff ordered_inOrder).mpr ⟨not_repeats_iff.mpr hstems, hsound, rfl⟩⟩

/-- Entities of one name do not meet in different databases. -/
theorem archived_users_apart :
    ∃ g, generateWith inOrder {} [Model.userTable, renamedTable (some "Archive")] = .ok g ∧
      ∃ ms : List Model, [Model.userTable, renamedTable (some "Archive")].map (model {}) =
        ms.map .ok ∧ (ms.map (·.names.qualifiedEntity)).Nodup := by
  obtain ⟨g, hg⟩ := generate_renamed (some "Archive")
  obtain ⟨ms, hms, -, hiff, -⟩ := entities_distinct_iff ordered_inOrder hg
  refine ⟨g, hg, ms, hms, (hiff ?_ ?_).mpr ?_⟩ <;> decide +kernel

/-- In one database they do. -/
theorem renamed_users_meet :
    ∃ g, generateWith inOrder {} [Model.userTable, renamedTable none] = .ok g ∧
      ∃ ms : List Model, [Model.userTable, renamedTable none].map (model {}) = ms.map .ok ∧
        ¬ (ms.map (·.names.qualifiedEntity)).Nodup := by
  obtain ⟨g, hg⟩ := generate_renamed none
  obtain ⟨-, hsound, -⟩ := (ok_iff ordered_inOrder).mp hg
  exact ⟨g, hg, _, map_model hsound, by decide +kernel⟩

end Generation

end Scaffold
