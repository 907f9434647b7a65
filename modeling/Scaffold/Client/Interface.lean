import Scaffold.Client.Source
import Scaffold.Model

/-! The entity as the client sees it: an interface with a member for each column. -/
namespace Scaffold.Client

def interface (m : Model) : Source :=
  { exported := [{
      keyword := "interface"
      name := m.names.entity
      body := m.columns.map fun c => .line s!"{c.field}: {c.client.text};" }] }

end Scaffold.Client
