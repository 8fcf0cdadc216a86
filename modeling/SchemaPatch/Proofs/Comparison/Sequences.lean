import SchemaPatch.Proofs.Comparison.ReadBack
import SchemaPatch.Proofs.Patch.Links

/-!
# Sequences in patches that create

A patch that creates the tables of a document attaches their sequences anew. The statement names the
table of the column without its schema. So it is read back as what was meant exactly if all columns
with sequences are in tables of the public schema (`Comparison.link?_creation_iff`).
-/

namespace SchemaPatch

namespace Catalog

variable {c : Catalog}

/-- The sequence of a column in a catalog is attached to it. -/
theorem link?_of_mem (hc : c.Coherent) {t : Table} (ht : t ∈ c.tables) {column : Column}
    (hcolumn : column ∈ t.columns.values) : c.link? t.id column.name.value = column.sequence := by
  obtain ⟨e, he, rfl⟩ := List.mem_map.1 ht
  obtain ⟨e', he', rfl⟩ := List.mem_map.1 hcolumn
  have hcoherent := hc.table e he
  have hname : e'.2.name.value = e'.1 := hcoherent.columns.name_eq e' he'
  have hget : e.2.column? e'.1 = some e'.2 := Keyed.get?_of_mem hcoherent.columns.nodup he'
  rw [link?, hc.id_eq e he, hc.table?_of_mem he, hname]
  show (e.2.column? e'.1).bind Column.sequence = _
  rw [hget]
  rfl

/-- Where no sequence is attached outside the public schema, all columns with sequences are in its
tables. -/
theorem linksPublic_of_unlinked (hc : c.Coherent) (h : c.links.Unlinked) : c.LinksPublic := by
  intro t ht column hcolumn hsequence
  by_contra hschema
  have hother : ∀ name, t.id ≠ (QualifiedName.mk publicSchema name).sql := fun name hid => by
    have hname := QualifiedName.sql_injective hid
    exact hschema (by rw [hname])
  have hnone := h t.id hother column.name.value
  rw [← link?_eq_join, link?_of_mem hc ht hcolumn] at hnone
  simp [hnone] at hsequence

end Catalog

/-- A text that tells what the steps of a patch are worded as attaches the sequences that the steps
attach. -/
theorem Document.links_of_tells (name : String) {text : String} {l : List Statement}
    {steps : List Step} (h : Tells text l) (hall : List.Forall₂ Step.Means steps l) :
    (ofText name text).catalog.links =
      steps.foldl (fun links x => x.relink links) Catalog.empty.links := by
  obtain ⟨-, hstatements⟩ := ofText_of_symbols name h.readable h.lexes.symbols_eq
  rw [catalog, hstatements]
  exact Step.runAll_of_means (fun hmeans c => hmeans.links c) hall Catalog.empty

namespace Comparison

/-- The patch from an empty text creates the tables of the other one. -/
theorem patch_of_empty (first name : String) {text : String}
    (hclean : (Document.ofText name text).isClean) :
    patch ⟨.ofText first "", .ofText name text⟩ =
      .ok (.between .empty (Document.ofText name text).catalog) := by
  have herrors : (Document.ofText name text).errors = [] := List.isEmpty_iff.1 hclean
  obtain ⟨hnone, hnothing⟩ := Document.ofText_empty first
  have hempty : (Document.ofText first "").catalog = .empty := by
    rw [Document.catalog, hnothing]
    rfl
  rw [patch_of_errors_eq_nil hnone herrors, lenientPatch, hempty]

/-- **A patch that creates gives each column its sequence again, exactly if all columns with sequences
are in tables of the public schema.** -/
theorem link?_creation_iff (first second name text : String)
    (hclean : (Document.ofText name text).isClean)
    (hnames : ∀ t ∈ (Document.ofText name text).catalog.tables, t.name.OnOneLine) :
    ∃ p : Patch, patch ⟨.ofText first "", .ofText name text⟩ = .ok p ∧
      (Document.ofText second p.sql).errors = [] ∧
      ((∀ id column, (Document.ofText second p.sql).catalog.link? id column =
          (Document.ofText name text).catalog.link? id column) ↔
        (Document.ofText name text).catalog.LinksPublic) := by
  have hcoherent : (Document.ofText name text).catalog.Coherent := Catalog.build_coherent _
  have hlegible : (Document.ofText name text).catalog.Legible Symbol.Survives :=
    Catalog.build_legible (Document.readable_statements name text)
  let p : Patch := .between .empty (Document.ofText name text).catalog
  obtain ⟨l, htells, hall⟩ := Patch.tells_creation hcoherent hlegible hnames
  have hlinks := Document.links_of_tells second htells hall
  have hread := (Document.ofText_of_symbols second htells.readable htells.lexes.symbols_eq).1
  refine ⟨p, patch_of_empty first name hclean, hread, ?_, ?_⟩
  · intro hsame
    apply Catalog.linksPublic_of_unlinked hcoherent
    intro id hother column
    have hunlinked : (Document.ofText second p.sql).catalog.links.Unlinked := by
      rw [hlinks]
      exact Step.unlinked_relinkAll (fun _ _ _ => rfl) _
    rw [← Catalog.link?_eq_join, ← hsame, Catalog.link?_eq_join]
    exact hunlinked id hother column
  · intro hpublic id column
    have hsame : (Document.ofText second p.sql).catalog.links =
        (Document.ofText name text).catalog.links :=
      hlinks.trans (Patch.relinks_creation hcoherent hpublic).foldl_eq
    rw [Catalog.link?_eq_join, hsame, ← Catalog.link?_eq_join]

/-- A table outside the public schema with a sequence attached to its column. -/
def ownedText : String := "CREATE TABLE app.t (id bigint); ALTER SEQUENCE app.s OWNED BY app.t.id;"

/-- Outside the public schema, a column does not get its sequence again. -/
theorem link?_creation_owned : ∃ p : Patch,
    patch ⟨.ofText "empty" "", .ofText "new" ownedText⟩ = .ok p ∧
      (Document.ofText "patch" p.sql).errors = [] ∧
      ¬ ∀ id column, (Document.ofText "patch" p.sql).catalog.link? id column =
        (Document.ofText "new" ownedText).catalog.link? id column := by
  have hclean : (Document.ofText "new" ownedText).isClean := by decide +kernel
  have hnames : ∀ t ∈ (Document.ofText "new" ownedText).catalog.tables, t.name.OnOneLine := by
    decide +kernel
  have hother : ¬ (Document.ofText "new" ownedText).catalog.LinksPublic := by decide +kernel
  obtain ⟨p, hpatch, hread, hiff⟩ :=
    link?_creation_iff "empty" "patch" "new" ownedText hclean hnames
  exact ⟨p, hpatch, hread, fun h => hother (hiff.1 h)⟩

end Comparison

end SchemaPatch
