import Scaffold.Client.Reference
import Scaffold.Model

/-! The paginated listing of a table. -/
namespace Scaffold.Client

namespace MatTable

def column (c : ColumnModel) : List Step :=
  Step.within s!"<ng-container matColumnDef=\"{c.field}\">" "</ng-container>" [
    .line s!"<th mat-header-cell *matHeaderCellDef>{c.label}</th>",
    .line s!"<td mat-cell *matCellDef=\"let element\">\x7b\x7b element.{c.field} \x7d\x7d</td>"]

def paginator (m : Model) : Step :=
  .line (s!"<mat-paginator [pageSizeOptions]=\"[5, 10, 20]\" showFirstLastButtons " ++
    s!"aria-label=\"Select page of {m.names.stem}\"></mat-paginator>")

end MatTable

def matTableMarkup (m : Model) : List Step :=
  Step.within "<div class=\"mat-elevation-z8\">" "</div>" (
    Step.within "<table mat-table [dataSource]=\"dataSource\">" "</table>" (
      m.columns.flatMap MatTable.column ++ [
      .blank,
      .line "<tr mat-header-row *matHeaderRowDef=\"displayedColumns\"></tr>",
      .line "<tr mat-row *matRowDef=\"let row; columns: displayedColumns;\"></tr>"]) ++ [
    .blank,
    MatTable.paginator m])

def matTable (m : Model) : Source :=
  let n := m.names
  let fields := ", ".intercalate (m.columns.map fun c => s!"'{c.field}'")
  { imports := [[
      ⟨["AfterViewInit", "Component", "ViewChild"], "@angular/core"⟩,
      ⟨["MatPaginator"], "@angular/material/paginator"⟩,
      ⟨["MatTableDataSource"], "@angular/material/table"⟩,
      serviceImport n,
      entityImport n]]
    decorator := .component n.matTableSelector s!"./{n.stem}MatTable.html" []
    exported := [{
      keyword := "class"
      name := n.matTableClass
      clause := " implements AfterViewInit"
      body := [
        .line s!"displayedColumns: string[] = [{fields}];",
        .line s!"dataSource = new MatTableDataSource<{n.entity}>();",
        .blank,
        .line "@ViewChild(MatPaginator) paginator!: MatPaginator;",
        .blank,
        .line s!"constructor(private {n.serviceVariable}: {n.clientService}) \x7b \x7d",
        .blank,
        .braces "ngAfterViewInit(): void" [
          .line "this.dataSource.paginator = this.paginator;",
          .line "this.fetchData();"],
        .blank,
        .braces "fetchData(): void" [
          .line (s!"this.{n.serviceVariable}.getAll()" ++
            ".subscribe(data => this.dataSource.data = data);")]] }] }

end Scaffold.Client
