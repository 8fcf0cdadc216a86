import SchemaPatch.Proofs.Comparison.ReadBack
import SchemaPatch.Proofs.Patch.Worded

/-!
# Headers of patches

A patch has a line comment in front of the changes to each table, with the text of the name of the
table. A name may contain line feeds, and what of its text is not on the first line is no part of
the comment (`QualifiedName.spill`). Main statement: a patch is lexed to the symbols of its
changes, if nothing but blanks and comments is in what its names spill, and this is just when no
header is lexed to symbols or takes some from what follows (`Comparison.symbols_patch`).
-/

namespace SchemaPatch

namespace Block

/-- **A header is silent just if the name spills nothing but blanks and comments.** -/
theorem header_silent_iff (table : QualifiedName) :
    (∀ rest, symbols ((header table).toList ++ rest) = symbols rest) ↔ symbols table.spill = [] := by
  simp only [symbols_header]
  constructor
  · intro h
    exact symbols_eq_nil_of_append (by rw [h, symbols_nil])
  · intro h rest
    rw [symbols_append rest (by simp [h]), h, List.nil_append]

/-- A text of changes that stand alone is lexed to their symbols. -/
theorem lexesTo_changesSql {table : QualifiedName} {changes : List Change}
    (h : ∀ x ∈ changes, StandsAlone (x.sql table)) : LexesTo (changesSql table changes)
      (changes.flatMap fun x => symbols (x.sql table).toList) := by
  induction changes with
  | nil => exact .empty
  | cons x changes ih =>
    obtain ⟨hx, hchanges⟩ := List.forall_mem_cons.1 h
    have happend := (LexesTo.append hx .lineFeed).append (ih hchanges)
    rwa [List.append_nil] at happend

/-- A block with a silent header is lexed to the symbols of its changes. -/
theorem lexesTo_sql {b : Block} (hspill : symbols b.table.spill = [])
    (h : ∀ x ∈ b.changes, StandsAlone (x.sql b.table)) :
    LexesTo b.sql (b.changes.flatMap fun x => symbols (x.sql b.table).toList) := by
  have hheader : LexesTo (header b.table) [] := (header_silent_iff b.table).2 hspill
  have happend := (hheader.append (lexesTo_changesSql h)).append .lineFeed
  rwa [List.nil_append, List.append_nil] at happend

end Block

theorem Patch.lexesTo_blocksSql {blocks : List Block}
    (h : ∀ b ∈ blocks, LexesTo b.sql (b.changes.flatMap fun x => symbols (x.sql b.table).toList)) :
    LexesTo (blocksSql blocks)
      (blocks.flatMap fun b => b.changes.flatMap fun x => symbols (x.sql b.table).toList) := by
  induction blocks with
  | nil => exact .empty
  | cons b blocks ih =>
    obtain ⟨hb, hblocks⟩ := List.forall_mem_cons.1 h
    exact hb.append (ih hblocks)

/-- A text with symbols that nothing goes on with is lexed to them and the end. -/
theorem LexesTo.map_symbol_toList {text : String} {xs : List Symbol} (h : LexesTo text xs) :
    (TokenStream.ofText text).toList.map Token.symbol = xs ++ [⟨.endOfInput, ""⟩] := by
  have htokens : (TokenStream.ofText text).tokens.map Token.symbol = xs :=
    (symbols_toList text).trans h.symbols_eq
  obtain ⟨line, hstop⟩ := Lexer.exists_drain_eq_eof (Lexer.ofText text)
  have hwhole : ¬ (TokenStream.ofText text).isTruncated := by
    intro htruncated
    obtain ⟨t, ht, hk⟩ := (Option.any_eq_true _ _).1 htruncated
    have hmem : t.symbol ∈ xs := htokens ▸ List.mem_map_of_mem (List.mem_of_getLast? ht)
    exact h.kind_ne _ hmem (by simpa using hk)
  rw [TokenStream.toList, if_neg hwhole, List.map_append, htokens]
  show xs ++ [(Lexer.ofText text).drain.2.symbol] = _
  rw [hstop]
  rfl

namespace Comparison

/-- Each step of a patch of two texts is worded. -/
theorem worded_patch {first second text text' : String} {p : Patch}
    (hp : patch ⟨.ofText first text, .ofText second text'⟩ = .ok p) :
    ∀ b ∈ p.blocks, ∀ x ∈ b.changes, Step.Worded ⟨b.table, x⟩ := by
  have hbetween : p = .between (Document.ofText first text).catalog
      (Document.ofText second text').catalog := by
    rw [patch] at hp
    split at hp
    · exact (Except.ok.inj hp).symm
    · cases hp
  subst hbetween
  intro b hb x hx
  exact Patch.worded_of_mem_blocks (Catalog.build_coherent _)
    (Catalog.build_legible (Document.readable_statements second text')) hb hx

/-- **Headers do not leak** where nothing but blanks and comments is behind the first line of the
names: the patch of two texts without errors is lexed to the symbols of its changes, in order, and
the end. This is just where each header is silent, whatever follows it. -/
theorem symbols_patch {first second text text' : String} {p : Patch}
    (hp : patch ⟨.ofText first text, .ofText second text'⟩ = .ok p) :
    ((∀ b ∈ p.blocks, symbols b.table.spill = []) →
      (TokenStream.ofText p.sql).toList.map Token.symbol =
        (p.blocks.flatMap fun b => b.changes.flatMap fun x =>
          (TokenStream.ofText (x.sql b.table)).tokens.map Token.symbol) ++ [⟨.endOfInput, ""⟩]) ∧
      ∀ b ∈ p.blocks, symbols b.table.spill = [] ↔
        ∀ rest, symbols ((Block.header b.table).toList ++ rest) = symbols rest := by
  refine ⟨fun hspill => ?_, fun b _ => (Block.header_silent_iff b.table).symm⟩
  have hlexes : LexesTo p.sql (p.blocks.flatMap fun b => b.changes.flatMap fun x =>
      symbols (x.sql b.table).toList) :=
    Patch.lexesTo_blocksSql fun b hb => Block.lexesTo_sql (hspill b hb) fun x hx =>
      (worded_patch hp b hb x hx).standsAlone
  exact hlexes.map_symbol_toList

/-- A table whose name has a line feed and, behind it, a comment. -/
def commentedName : String := "CREATE TABLE \"a\n--\" (id bigint);"

theorem symbols_patch_commentedName :
    ∃ p : Patch, patch ⟨.ofText "old" commentedName, .ofText "new" ""⟩ = .ok p ∧
      (∀ b ∈ p.blocks, symbols b.table.spill = []) ∧
      (TokenStream.ofText p.sql).toList.map Token.symbol =
        (p.blocks.flatMap fun b => b.changes.flatMap fun x =>
          (TokenStream.ofText (x.sql b.table)).tokens.map Token.symbol) ++ [⟨.endOfInput, ""⟩] := by
  have hp : patch ⟨.ofText "old" commentedName, .ofText "new" ""⟩ =
      .ok (lenientPatch ⟨.ofText "old" commentedName, .ofText "new" ""⟩) := if_pos (by decide +kernel)
  have hspill : ∀ b ∈ (lenientPatch ⟨.ofText "old" commentedName, .ofText "new" ""⟩).blocks,
      symbols b.table.spill = [] := by decide +kernel
  exact ⟨_, hp, hspill, (symbols_patch hp).1 hspill⟩

end Comparison

end SchemaPatch
