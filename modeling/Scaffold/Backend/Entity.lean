import Scaffold.Layout
import Scaffold.Model

/-! The entity class: one annotated property for each column. -/
namespace Scaffold.Backend

structure Property where
  type : String
  name : String
  attributes : List String

namespace Property

def ofColumn (c : ColumnModel) : Property := ⟨c.backend.text, c.name, c.attributes.getD []⟩

def declaration (p : Property) : List Step := [
  .lines (p.attributes.map fun a => s!"[{a}]"),
  .line s!"public {p.type} {p.name} \x7b get; set; \x7d",
  .blank]

end Property

/-- The properties of the entity class, in order. -/
def properties (m : Model) : List Property := m.columns.map .ofColumn

def entity (m : Model) : List Step :=
  let name := m.names.entity
  let props := properties m
  let params := ", ".intercalate (props.map fun p => s!"{p.type} {p.name}")
  let shown := ", ".intercalate (props.map fun p => s!"{p.name}: \x7b{p.name}\x7d")
  [ .lines [
      "using System;",
      "using System.ComponentModel;",
      "using System.ComponentModel.DataAnnotations;",
      "using System.Data;"],
    .lines (if m.needsSqlServerTypes then ["using Microsoft.SqlServer.Types;"] else []),
    .blank,
    .braces s!"namespace {m.names.entitiesNamespace}" [
      .braces s!"public class {name}" (
        props.flatMap Property.declaration ++ [
        .line s!"public {name}() \x7b \x7d",
        .blank,
        .braces s!"public {name}({params})"
          (props.map fun p => .line s!"this.{p.name} = {p.name};"),
        .blank,
        .braces s!"public {name}(DataRow row)"
          (props.map fun p => .line s!"this.{p.name} = row.Field<{p.type}>(\"{p.name}\");"),
        .blank,
        .braces "public override string ToString()" [
          .line s!"return $\"{name} - {shown}\";"]])]]

end Scaffold.Backend
