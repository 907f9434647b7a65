import Scaffold.Files.Tree

/-! What a run needs of the file system. -/
namespace Scaffold

class FileStore (m : Type → Type) where
  /-- The text of a file, unless it cannot be read. -/
  read? : String → m (Option String)
  isPresent : String → m Bool
  /-- Makes the folders above the file; the answer is whether it has been written. -/
  write : String → String → m Bool

instance : FileStore (StateM FileTree) where
  read? p := do return (← get).read? p
  isPresent p := do return (← get).isPresent p
  write p text := modifyGet fun t => let (t, done) := t.write p text; (done, t)

end Scaffold
