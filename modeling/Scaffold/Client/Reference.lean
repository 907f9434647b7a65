import Scaffold.Client.Source
import Scaffold.Schema.Names

/-! How client files refer to each other. -/
namespace Scaffold.Client

/-- The HTTP service, seen from another folder of the table. -/
def serviceImport (n : Names) : Import :=
  ⟨[n.clientService], s!"../{n.stem}-service/{n.stem}.service"⟩

/-- The entity interface, seen from a folder of the table. -/
def entityImport (n : Names) : Import := ⟨[n.entity], s!"../{n.stem}"⟩

end Scaffold.Client
