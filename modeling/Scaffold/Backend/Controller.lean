import Scaffold.Layout
import Scaffold.Model

/-! The web controller over the service. -/
namespace Scaffold.Backend

namespace Controller

/-- A read answers with what it found; a write with the number of rows it changed. -/
inductive Effect
  | read
  | write

structure Action where
  name : String
  verb : String
  effect : Effect
  params : String
  response : String

def actions (m : Model) : List Action :=
  let entity := m.names.qualifiedEntity
  let key := m.keyBackend.text
  let list := s!"List<{entity}>"
  [ ⟨"GetAll", "HttpGet", .read, "", list⟩,
    ⟨"GetById", "HttpGet", .read, s!"{key} data", entity⟩,
    ⟨"GetMultiple", "HttpGet", .read, s!"[FromQuery] List<{key}> data", list⟩,
    ⟨"Insert", "HttpPost", .write, s!"{entity} data", "int"⟩,
    ⟨"InsertMultiple", "HttpPost", .write, s!"{list} data", "int"⟩,
    ⟨"Update", "HttpPut", .write, s!"{entity} data", "int"⟩,
    ⟨"UpdateMultiple", "HttpPut", .write, s!"{list} data", "int"⟩,
    ⟨"Delete", "HttpDelete", .write, s!"{key} data", "int"⟩,
    ⟨"DeleteMultiple", "HttpDelete", .write, s!"[FromQuery] List<{key}> data", "int"⟩]

def serviceField (m : Model) : String := "_" ++ m.names.serviceVariable

def answer (a : Action) : List Step :=
  match a.effect with
  | .read => [
    .braces "if (result == null)" [.line "return NotFound();"],
    .line "return Ok(result);"]
  | .write => [
    .braces "if (result > 0)" [.line "return Ok(result);"],
    .line s!"return BadRequest(\"Failed to {Text.asciiLower a.name} data.\");"]

def action (m : Model) (a : Action) : List Step :=
  let arguments := if a.params.isEmpty then "" else "data"
  [ .line s!"[{a.verb}(Name = \"{m.names.table}{a.name}\")]",
    .line s!"[ProducesResponseType(typeof({a.response}), 200)]",
    .braces s!"public IActionResult {a.name}({a.params})" [
      .braces "try" (
        .line s!"var result = {serviceField m}.{a.name}({arguments});" :: answer a),
      .braces "catch (Exception e)" [
        .line s!"_logger.LogError(e, \"\x7bModule\x7d.{a.name} failed\", MODULE);",
        .line "return StatusCode(500, \"An unexpected error occurred.\");"]]]

end Controller

def controller (m : Model) : List Step :=
  let n := m.names
  let field := Controller.serviceField m
  let loggerParam := s!"ILogger<{n.controller}> logger"
  [ .lines [
      "using System;",
      "using System.Collections.Generic;",
      "using Microsoft.AspNetCore.Mvc;",
      "using Microsoft.Extensions.Logging;",
      s!"using {n.servicesNamespace};"],
    .blank,
    .braces s!"namespace {n.controllersNamespace}" [
      .line "[ApiController]",
      .line "[Route(\"[controller]/[action]\")]",
      .braces s!"public class {n.controller} : ControllerBase" ([
        .line s!"private const string MODULE = \"{n.table}\";",
        .line s!"private readonly ILogger<{n.controller}> _logger;",
        .line s!"private readonly {n.serviceInterface} {field};",
        .blank,
        .braces s!"public {n.controller}({loggerParam}, {n.serviceInterface} {n.serviceVariable})"
          [ .line "_logger = logger;",
            .line s!"{field} = {n.serviceVariable};"]] ++
        (Controller.actions m).flatMap fun a => .blank :: Controller.action m a)]]

end Scaffold.Backend
