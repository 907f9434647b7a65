import Scaffold.Backend.Access
import Scaffold.Backend.Config
import Scaffold.Backend.Controller
import Scaffold.Backend.Entity
import Scaffold.Backend.Service
import Scaffold.Client.Component
import Scaffold.Client.Interface
import Scaffold.Client.Markup
import Scaffold.Client.MatTable
import Scaffold.Client.Service
import Scaffold.Keyed

/-! The files generated for one table. -/
namespace Scaffold

inductive ComponentPart
  | code
  | markup
  | style
  | test
deriving DecidableEq

inductive ArtifactKind
  | config
  | entity
  | access
  | serviceInterface
  | service
  | controller
  | clientInterface
  | clientService
  | clientServiceTest
  | matTableMarkup
  | matTable
  | component (op : Operation) (part : ComponentPart)
deriving DecidableEq

namespace ArtifactKind

def backend : List ArtifactKind :=
  [config, entity, access, serviceInterface, service, controller]

def client : List ArtifactKind :=
  [clientInterface, clientService, clientServiceTest, matTableMarkup, matTable] ++
    Operation.all.flatMap fun op => [.code, .markup, .style, .test].map (component op)

def isBackend (k : ArtifactKind) : Bool := backend.contains k

/-- Where the file lies below the output root. -/
def path (n : Names) (k : ArtifactKind) : String :=
  let net := n.table ++ "/Net"
  let ng := n.table ++ "/Angular"
  match k with
  | config => s!"{net}/Config.cs"
  | entity => s!"{net}/{n.table}Entity.cs"
  | access => s!"{net}/{n.accessClass}.cs"
  | serviceInterface => s!"{net}/Services/{n.serviceInterface}.cs"
  | service => s!"{net}/Services/{n.serviceClass}.cs"
  | controller => s!"{net}/{n.controller}.cs"
  | clientInterface => s!"{ng}/{n.stem}.ts"
  | clientService => s!"{ng}/{n.stem}-service/{n.stem}.service.ts"
  | clientServiceTest => s!"{ng}/{n.stem}-service/{n.stem}.service.spec.ts"
  | matTableMarkup => s!"{ng}/{n.stem}-mat-table/{n.stem}MatTable.html"
  | matTable => s!"{ng}/{n.stem}-mat-table/{n.stem}MatTable.ts"
  | component op part =>
    let stem := n.componentStem op
    let extension := match part with
      | .code => "ts"
      | .markup => "html"
      | .style => "css"
      | .test => "spec.ts"
    s!"{ng}/{stem}/{stem}.component.{extension}"

/-- The client source of the file, if it is one. -/
def source? (m : Model) : ArtifactKind → Option Client.Source
  | clientInterface => some (Client.interface m)
  | clientService => some (Client.service m)
  | clientServiceTest => some (Client.serviceTest m)
  | matTable => some (Client.matTable m)
  | component op .code => some (Client.Component.source m op)
  | component op .test => some (Client.Component.test m op)
  | _ => none

def steps (m : Model) : ArtifactKind → List Step
  | config => Backend.config m
  | entity => Backend.entity m
  | access => Backend.access m
  | serviceInterface => Backend.serviceInterface m
  | service => Backend.serviceClass m
  | controller => Backend.controller m
  | matTableMarkup => Client.matTableMarkup m
  | component op .markup => Client.Markup.ofOperation m op
  | component op .style => Client.Component.styleSheet m op
  | k => ((source? m k).map Client.Source.steps).getD []

def style (k : ArtifactKind) : Style := if k.isBackend then .ownLine else .endOfHeader

def text (m : Model) (k : ArtifactKind) : String := Step.print k.style (k.steps m)

end ArtifactKind

structure Artifact where
  kind : ArtifactKind
  path : String
  text : String
deriving DecidableEq

structure TableArtifacts where
  table : String
  artifacts : List Artifact
  warnings : List Warning
deriving DecidableEq

namespace TableArtifacts

/-- The backend comes first. -/
def ofModel (m : Model) (backend client : Bool) : TableArtifacts :=
  let kinds :=
    (if backend then ArtifactKind.backend else []) ++ if client then ArtifactKind.client else []
  { table := m.names.table
    artifacts := kinds.map fun k => ⟨k, k.path m.names, k.text m⟩
    warnings := m.warnings }

def paths (t : TableArtifacts) : List String := t.artifacts.map (·.path)

/-- The texts by path. -/
def texts (t : TableArtifacts) : List (String × String) :=
  Keyed.ofList Prod.fst (t.artifacts.map fun a => (a.path, a.text))

end TableArtifacts

end Scaffold
