import Scaffold.Layout
import Scaffold.Model

/-! The class that holds the connection string and the parameter budget. -/
namespace Scaffold.Backend

def config (m : Model) : List Step := [
  .lines [
    "using System;",
    "using System.Collections.Generic;",
    "using System.Data;",
    "using System.Text;"],
  .blank,
  .braces s!"namespace {m.names.configNamespace}" [
    .braces "public interface IConfig" [],
    .blank,
    .braces "public class Config : IConfig" [
      .summary "Maximum number of query parameters sent in one statement",
      .line s!"public const int MAX_BATCH_SIZE = {m.budget.budget};",
      .blank,
      .line "public static string _connectionString \x7b get; set; \x7d = \"\";",
      .blank,
      .braces "public Config(string connectionString)" [
        .line "_connectionString = connectionString;"],
      .blank,
      .braces "public static string GetConnectionString()" [
        .line "return _connectionString;"]]]]

end Scaffold.Backend
