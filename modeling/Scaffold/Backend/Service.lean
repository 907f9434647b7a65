import Scaffold.Layout
import Scaffold.Model

/-! The service interface and the class that hands every call on to the data access. -/
namespace Scaffold.Backend

namespace Service

structure Method where
  returns : String
  name : String
  params : String
  call : String

def methods (m : Model) : List Method :=
  let entity := m.names.qualifiedEntity
  let key := m.keyBackend.text
  [ ⟨s!"List<{entity}>", "GetAll", "", "GetAll()"⟩,
    ⟨entity, "GetById", s!"{key} id", "Get(id)"⟩,
    ⟨s!"List<{entity}>", "GetMultiple", s!"List<{key}> ids", "GetMultiple(ids)"⟩,
    ⟨"int", "Insert", s!"{entity} entity", "Insert(entity)"⟩,
    ⟨"int", "InsertMultiple", s!"List<{entity}> items", "InsertMultiple(items)"⟩,
    ⟨"int", "Update", s!"{entity} entity", "Update(entity)"⟩,
    ⟨"int", "UpdateMultiple", s!"List<{entity}> items", "UpdateMultiple(items)"⟩,
    ⟨"int", "Delete", s!"{key} id", "Delete(id)"⟩,
    ⟨"int", "DeleteMultiple", s!"List<{key}> ids", "DeleteMultiple(ids)"⟩]

def signature (o : Method) : String := s!"{o.returns} {o.name}({o.params})"

end Service

def serviceInterface (m : Model) : List Step := [
  .line "using System.Collections.Generic;",
  .line s!"using {m.names.entitiesNamespace};",
  .blank,
  .braces s!"namespace {m.names.servicesNamespace}" [
    .braces s!"public interface {m.names.serviceInterface}"
      ((Service.methods m).map fun o => .line (Service.signature o ++ ";"))]]

def serviceClass (m : Model) : List Step :=
  let name := m.names.serviceClass
  let access := s!"{m.names.accessNamespace}.{m.names.accessClass}"
  [ .line "using System.Collections.Generic;",
    .line s!"using {m.names.entitiesNamespace};",
    .line s!"using {m.names.accessNamespace};",
    .blank,
    .braces s!"namespace {m.names.servicesNamespace}" [
      .braces s!"public class {name} : {m.names.serviceInterface}" ([
        .line s!"private readonly {access} _access;",
        .blank,
        .braces s!"public {name}({access} access)" [.line "_access = access;"]] ++
        (Service.methods m).flatMap fun o => [
          .blank,
          .braces s!"public {Service.signature o}" [.line s!"return _access.{o.call};"]])]]

end Scaffold.Backend
