import Scaffold.Artifact
import Scaffold.Settings.Basic

/-! From a list of tables to the artifacts of each. -/
namespace Scaffold

/-- The artifacts of every table, in the order of the tables' names. -/
abbrev Generated := List TableArtifacts

namespace Generation

/-- The settings' namespace stands in for a blank one. -/
def qualified (s : Settings) (t : Table) : Table :=
  if Text.allBlank t.rootNamespace then { t with rootNamespace := s.rootNamespace } else t

def model (s : Settings) (t : Table) : Except TableFault Model :=
  Model.build (qualified s t) s.database s.budget

def ofTable (s : Settings) (t : Table) : Except TableFault TableArtifacts :=
  (model s t).map fun m => .ofModel m s.backend s.client

/-- The first table whose name, in lower case, an earlier one has. -/
def duplicate? (seen : List String) : List Table → Option String
  | [] => none
  | t :: ts =>
    let stem := Text.lower t.name
    if seen.contains stem then some t.name else duplicate? (stem :: seen) ts

/-- Puts the results of all tables together. -/
abbrev Gatherer := List (Except TableFault TableArtifacts) → Except TableFault (List TableArtifacts)

/-- All results, unless there is a fault; then the first one. -/
def inOrder : Gatherer := List.mapM id

/-- Repeated names come before faults of single tables. `parallel` gathers the results of tables
that are generated at the same time. -/
def generateWith (parallel : Gatherer) (s : Settings) (ts : List Table) :
    Except Error Generated :=
  match duplicate? [] ts with
  | some name => .error (.run (.duplicateTable name))
  | none =>
    match (if s.parallel then parallel else inOrder) (ts.map (ofTable s)) with
    | .error fault => .error (.table fault)
    | .ok all => .ok (Keyed.ofList TableArtifacts.table all)

def generate (s : Settings) (ts : List Table) : Except Error Generated := generateWith inOrder s ts

/-- A blank list includes every table, and so does a star. -/
def includesAll (list : String) : Bool := Text.allBlank list || Text.trim list == "*"

def listed (list : String) : List String := (Text.splitAt ',' list).map Text.trim

def selects (s : Settings) (name : String) : Bool :=
  (includesAll s.includeTables || (listed s.includeTables).contains name) &&
    !((listed s.excludeTables).filter (!·.isEmpty)).contains name

def generateSelected (s : Settings) (ts : List Table) : Except Error Generated :=
  generate s (ts.filter (selects s ·.name))

end Generation

end Scaffold
