import SchemaPatch.Comparison.Basic
import SchemaPatch.Proofs.Document.RoundTrip
import SchemaPatch.Proofs.Patch.Agreement
import SchemaPatch.Proofs.Patch.Convergence
import SchemaPatch.Proofs.Patch.Performs

/-!
# Patches that create are read back

A patch that creates all tables of a document is a document itself. It is read without errors, and a
comparison sees of it what it sees of the document (`Comparison.patch_creation`), although what was
written under a search path is now written with its schema, redefined tables are created once, and
sequences are created with options of their own. Only a line feed in the name of a table would break
the comment that goes in front of its changes.
-/

namespace SchemaPatch

namespace Document

/-- An empty text says nothing. -/
theorem ofText_empty (name : String) :
    (ofText name "").errors = [] ∧ (ofText name "").statements = [] := by
  have hl : ∀ s ∈ ([] : List Statement), s.Readable Symbol.Survives := by simp
  exact ofText_of_symbols name hl symbols_nil

/-- A text that performs the steps of a patch is read without errors, and leaves to be seen what they
make of nothing. -/
theorem ofText_of_performs (name : String) {text : String} {steps : List Step}
    (h : Performs text steps) : (ofText name text).errors = [] ∧
      (ofText name text).catalog.view = Step.runAll steps Catalog.empty.view := by
  obtain ⟨l, hl, htext, hrun⟩ := h
  have hsymbols : symbols text.toList = Statement.symbolsAll l := by
    have hend := htext []
    rwa [List.append_nil, symbols_nil, List.append_nil] at hend
  obtain ⟨herrors, hstatements⟩ := ofText_of_symbols name hl hsymbols
  refine ⟨herrors, ?_⟩
  rw [catalog, hstatements]
  exact hrun Catalog.empty Catalog.publicSchema

end Document

/-- The patch that creates the tables of a catalog performs its steps. -/
theorem Patch.performs_creation {c : Catalog} (hc : c.Coherent) (hl : c.Legible Symbol.Survives)
    (hnames : ∀ t ∈ c.tables, t.name.OnOneLine) :
    Performs (between .empty c).sql (between .empty c).steps := by
  obtain ⟨l, htells, hall⟩ := tells_creation hc hl hnames
  exact .of_tells htells hall

namespace Comparison

theorem patch_of_errors_eq_nil {c : Comparison} (hs : c.source.errors = [])
    (hd : c.desired.errors = []) : c.patch = .ok c.lenientPatch := by
  rw [patch, isClean, Document.isClean, Document.isClean, hs, hd]
  rfl

/-- **A patch that creates is read back**: if a text is free of errors and no name of its tables has a
line feed, the patch from nothing to the text is itself read without errors, a comparison sees the
same tables in both, and between the patch and the text there is nothing to change. -/
theorem patch_creation (first second name text : String)
    (hclean : (Document.ofText name text).isClean)
    (hnames : ∀ t ∈ (Document.ofText name text).catalog.tables, t.name.OnOneLine) :
    ∃ p : Patch, patch ⟨.ofText first "", .ofText name text⟩ = .ok p ∧
      (Document.ofText second p.sql).errors = [] ∧
      (Document.ofText second p.sql).catalog.view = (Document.ofText name text).catalog.view ∧
      patch ⟨.ofText second p.sql, .ofText name text⟩ = .ok ⟨[]⟩ := by
  have herrors : (Document.ofText name text).errors = [] := List.isEmpty_iff.1 hclean
  have hcoherent : (Document.ofText name text).catalog.Coherent := Catalog.build_coherent _
  have hlegible : (Document.ofText name text).catalog.Legible Symbol.Survives :=
    Catalog.build_legible (Document.readable_statements name text)
  obtain ⟨hnone, hnothing⟩ := Document.ofText_empty first
  have hempty : (Document.ofText first "").catalog = .empty := by
    rw [Document.catalog, hnothing]
    rfl
  let p : Patch := .between .empty (Document.ofText name text).catalog
  obtain ⟨hread, hview⟩ :=
    Document.ofText_of_performs second (Patch.performs_creation hcoherent hlegible hnames)
  have hsame : (Document.ofText second p.sql).catalog.view =
      (Document.ofText name text).catalog.view :=
    hview.trans (Patch.lead_between .empty hcoherent).foldl_eq
  refine ⟨p, ?_, hread, hsame, ?_⟩
  · rw [patch_of_errors_eq_nil hnone herrors, lenientPatch, hempty]
  · rw [patch_of_errors_eq_nil hread herrors]
    have hnew : (Document.ofText second p.sql).catalog.Coherent := Catalog.build_coherent _
    exact congrArg Except.ok (Patch.between_of_view_eq hnew hsame)

/-- A table whose schema comes from the search path, with a constraint. -/
def searchPathText : String :=
  "SET search_path = app; CREATE TABLE t (id bigint NULL); " ++
    "ALTER TABLE t ADD CONSTRAINT k UNIQUE (id);"

/-- The patch that creates it. It names the table with its schema, and says nothing of null values. -/
def searchPathPatch : String :=
  "-- Table: \"app\".\"t\"\nCREATE TABLE \"app\".\"t\" (\n    \"id\" bigint\n);\n" ++
    "ALTER TABLE ONLY \"app\".\"t\" ADD CONSTRAINT \"k\" UNIQUE (\"id\");\n\n"

/-- The text has three statements and its patch two, which are read back as the table with its schema
and the constraint. -/
theorem patch_creation_searchPath :
    (Document.ofText "new" searchPathText).isClean ∧
      (∀ t ∈ (Document.ofText "new" searchPathText).catalog.tables, t.name.OnOneLine) ∧
      ∃ p : Patch, patch ⟨.ofText "empty" "", .ofText "new" searchPathText⟩ = .ok p ∧
        p.sql = searchPathPatch ∧ (Document.ofText "patch" p.sql).errors = [] ∧
        (Document.ofText "patch" p.sql).statements =
          [.createTable ⟨⟨some ⟨"app"⟩, ⟨"t"⟩⟩, [⟨⟨"id"⟩, .bigint, []⟩]⟩,
            .alterTable ⟨true, ⟨some ⟨"app"⟩, ⟨"t"⟩⟩, [.addConstraint ⟨some ⟨"k"⟩, .unique, [⟨"id"⟩]⟩]⟩] ∧
        (Document.ofText "patch" p.sql).catalog.view =
          (Document.ofText "new" searchPathText).catalog.view ∧
        patch ⟨.ofText "patch" p.sql, .ofText "new" searchPathText⟩ = .ok ⟨[]⟩ := by
  have hclean : (Document.ofText "new" searchPathText).isClean := by decide +kernel
  have hnames : ∀ t ∈ (Document.ofText "new" searchPathText).catalog.tables, t.name.OnOneLine := by
    decide +kernel
  obtain ⟨p, hpatch, herrors, hview, hnothing⟩ :=
    patch_creation "empty" "patch" "new" searchPathText hclean hnames
  have hsql : (patch ⟨.ofText "empty" "", .ofText "new" searchPathText⟩).toOption.map Patch.sql =
      some searchPathPatch := by decide +kernel
  rw [hpatch] at hsql
  have hsql : p.sql = searchPathPatch := Option.some.inj hsql
  have hstatements : (Document.ofText "patch" searchPathPatch).statements =
      [.createTable ⟨⟨some ⟨"app"⟩, ⟨"t"⟩⟩, [⟨⟨"id"⟩, .bigint, []⟩]⟩,
        .alterTable ⟨true, ⟨some ⟨"app"⟩, ⟨"t"⟩⟩, [.addConstraint ⟨some ⟨"k"⟩, .unique, [⟨"id"⟩]⟩]⟩] := by
    decide +kernel
  exact ⟨hclean, hnames, p, hpatch, hsql, herrors, hsql ▸ hstatements, hview, hnothing⟩

end Comparison

end SchemaPatch
