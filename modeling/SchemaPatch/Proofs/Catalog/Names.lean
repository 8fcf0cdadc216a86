import SchemaPatch.Proofs.Catalog.Projection
import SchemaPatch.Proofs.Token.Front

/-!
# Names between quotes

Whatever characters a name has, quotes, points and line feeds included, its text between quotes is one
token of any text that does not go on with a quote, and this token spells the name again. The point
between the quotes of a schema and those of a table cannot be forged from inside of a name either, so a
catalog knows each table by a text that is that of no other (`Catalog.quotedNames_identify`).
-/

namespace SchemaPatch

variable {rest : List Char}

/-- The text of a name is handed out as one token, and lexing goes on behind it. -/
theorem Identifier.next_sql (i : Identifier) (line : Nat) (h : rest.head? ≠ some '"') :
    (Lexer.mk (i.sql.toList ++ rest) line false).next =
      (⟨.identifier, i.sql, line⟩, ⟨rest, line + Lexer.lineFeeds i.sql.toList, false⟩) := by
  have hgap := Gap.read_lexeme (by decide)
    (Gap.opensComment_quote (Quoted.double '"' i.value.toList ++ '"' :: rest))
  have hfeeds : (Lexeme.mk .identifier i.sql.toList rest).lineFeeds = Lexer.lineFeeds i.sql.toList := by
    rw [Lexeme.lineFeeds_of_ne (by simp)]
  rw [i.sql_toList_append, Lexer.next_of_lexeme line hgap (i.read_sql h)]
  simp [hfeeds, Lexer.lineFeeds]

namespace Catalog

/-- A table is found by its own name, and every other name finds what it found before. -/
theorem table?_sql_insert (c : Catalog) (t : Table) (n : QualifiedName) :
    (c.insert t).table? n.sql = if t.name = n then some t else c.table? n.sql := by
  have hkey : t.id = n.sql ↔ t.name = n :=
    ⟨fun h => QualifiedName.sql_injective h, fun h => congrArg QualifiedName.sql h⟩
  simp only [table?_insert, hkey]

/-- The table that a name finds has this name. -/
theorem name_of_table?_build {statements : List Statement} {n : QualifiedName} {t : Table}
    (h : (build statements).table? n.sql = some t) : t.name = n :=
  QualifiedName.sql_injective ((build_coherent statements).id_eq (n.sql, t) (Keyed.mem_of_get? h))

/-- **A name between quotes identifies what it names**, whatever characters it has. Its text is one token
unless a quote follows, from which the name is read off again. The texts of two names of tables, with a
schema or without, are the same only if the names are. So a catalog finds a table by its name and by no
other one. -/
theorem quotedNames_identify :
    (∀ (i : Identifier) (rest : List Char) (line : Nat), rest.head? ≠ some '"' →
      (Lexer.mk (i.sql.toList ++ rest) line false).next =
        (⟨.identifier, i.sql, line⟩, ⟨rest, line + Lexer.lineFeeds i.sql.toList, false⟩)) ∧
    (∀ i : Identifier, Identifier.ofLiteral i.sql = i) ∧
    Function.Injective ObjectName.sql ∧
    (∀ (c : Catalog) (t : Table) (n : QualifiedName),
      (c.insert t).table? n.sql = if t.name = n then some t else c.table? n.sql) ∧
    ∀ (statements : List Statement) (n : QualifiedName) (t : Table),
      (build statements).table? n.sql = some t → t.name = n :=
  ⟨fun i _ line h => i.next_sql line h, Identifier.ofLiteral_sql,
    fun _ _ h => ObjectName.sql_injective h, table?_sql_insert, fun _ _ _ h => name_of_table?_build h⟩

/-- A name of a table that looks like one with its schema, and has a line feed in it. -/
theorem quotedNames_identify_point :
    let i : Identifier := ⟨"a\".\"b\n"⟩
    let t := Table.ofStatement publicSchema ⟨⟨none, i⟩, []⟩
    i.sql = "\"a\"\".\"\"b\n\"" ∧
    (Lexer.mk (i.sql.toList ++ ['.']) 1 false).next = (⟨.identifier, i.sql, 1⟩, ⟨['.'], 2, false⟩) ∧
    Identifier.ofLiteral i.sql = i ∧
    (ObjectName.mk none i).sql ≠ (ObjectName.mk (some ⟨"a"⟩) ⟨"b\n"⟩).sql ∧
    (build [.createTable ⟨⟨none, i⟩, []⟩]).table? (QualifiedName.mk publicSchema i).sql = some t ∧
    t.name = ⟨publicSchema, i⟩ := by
  obtain ⟨hnext, hread, hinj, hinsert, hfound⟩ := quotedNames_identify
  intro i t
  have htext : i.sql = "\"a\"\".\"\"b\n\"" := by decide +kernel
  have hlines : 1 + Lexer.lineFeeds i.sql.toList = 2 := by decide +kernel
  have htoken : (Lexer.mk (i.sql.toList ++ ['.']) 1 false).next =
      (⟨.identifier, i.sql, 1⟩, ⟨['.'], 2, false⟩) := by
    rw [hnext i ['.'] 1 (by decide), hlines]
  have hother : (ObjectName.mk none i).sql ≠ (ObjectName.mk (some ⟨"a"⟩) ⟨"b\n"⟩).sql :=
    hinj.ne (by simp)
  have hbuild : build [.createTable ⟨⟨none, i⟩, []⟩] = empty.insert t := rfl
  have htable : (build [.createTable ⟨⟨none, i⟩, []⟩]).table? (QualifiedName.mk publicSchema i).sql =
      some t := hbuild ▸ (hinsert empty t ⟨publicSchema, i⟩).trans (if_pos rfl)
  exact ⟨htext, htoken, hread i, hother, htable, hfound _ _ _ htable⟩

end Catalog

end SchemaPatch
