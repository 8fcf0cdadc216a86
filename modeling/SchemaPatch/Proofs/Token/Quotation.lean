import SchemaPatch.Sql.ObjectName
import SchemaPatch.Token.Lexeme

/-!
# Quoted names are told apart

The scanner takes a quoted name up to its closing quote and no further, whatever the name has in it
(`Lexeme.quotedName_double`). So a name between double quotes shows where it ends, and the texts of
two qualified names are the same only if the names are (`QualifiedName.sql_injective`).
-/

namespace SchemaPatch

namespace Lexeme

/-- A name with its quotes doubled is taken up to the quote that closes it. -/
theorem quotedName_double (cs : List Char) {rest : List Char} (h : rest.head? ≠ some '"') :
    quotedName (Quoted.double '"' cs ++ '"' :: rest) = some (Quoted.double '"' cs ++ ['"'], rest) := by
  induction cs with
  | nil =>
    cases rest with
    | nil => rfl
    | cons c rest =>
      have hc : c ≠ '"' := fun hc => h (by rw [hc]; rfl)
      simp [Quoted.double, quotedName, hc]
  | cons c cs ih =>
    by_cases hc : c = '"'
    · simp [Quoted.double, hc, quotedName, ih, Split.after]
    · simp [Quoted.double, hc, quotedName, ih, Split.after]

end Lexeme

namespace Quoted

theorem double_injective {q : Char} {cs ds : List Char} (h : double q cs = double q ds) : cs = ds := by
  rw [← undouble_double q cs, h, undouble_double]

/-- Doubling quotes brings in nothing else. -/
theorem mem_double {q c : Char} {cs : List Char} : c ∈ double q cs ↔ c ∈ cs := by
  induction cs with
  | nil => rfl
  | cons d cs ih =>
    by_cases hd : d = q
    · simp [double, hd, ih]
    · simp [double, hd, ih]

/-- Where a quoted name ends is to be seen from what it begins with. -/
theorem quote_append_inj {cs ds rest more : List Char} (hr : rest.head? ≠ some '"')
    (hm : more.head? ≠ some '"') (h : quote '"' cs ++ rest = quote '"' ds ++ more) :
    cs = ds ∧ rest = more := by
  simp only [quote, List.cons_append, List.append_assoc, List.cons.injEq, true_and,
    List.nil_append] at h
  have hscan := Lexeme.quotedName_double cs hr
  rw [h, Lexeme.quotedName_double ds hm] at hscan
  simp only [Option.some.injEq, Prod.mk.injEq, List.append_cancel_right_eq] at hscan
  exact ⟨double_injective hscan.1.symm, hscan.2.symm⟩

end Quoted

theorem Identifier.sql_toList (i : Identifier) : i.sql.toList = Quoted.quote '"' i.value.toList := by
  simp [sql]

/-- The text of a name is one lexeme unless a quote follows. -/
theorem Identifier.read_sql (i : Identifier) {rest : List Char} (h : rest.head? ≠ some '"') :
    Lexeme.read '"' (Quoted.double '"' i.value.toList ++ '"' :: rest) =
      ⟨.identifier, i.sql.toList, rest⟩ := by
  rw [Lexeme.read, Lexeme.quotedName_double i.value.toList h]
  simp [Lexeme.ofScan, Identifier.sql_toList, Quoted.quote]

/-- It begins with a quote. -/
theorem Identifier.sql_toList_append (i : Identifier) (rest : List Char) :
    i.sql.toList ++ rest = '"' :: (Quoted.double '"' i.value.toList ++ '"' :: rest) := by
  simp [Identifier.sql_toList, Quoted.quote]

theorem Identifier.sql_injective {i j : Identifier} (h : i.sql = j.sql) : i = j := by
  rw [← ofLiteral_sql i, h, ofLiteral_sql]

theorem ObjectName.sql_toList_none (n : Identifier) :
    (ObjectName.mk none n).sql.toList = Quoted.quote '"' n.value.toList ++ [] := by
  simp [sql, Identifier.sql_toList]

theorem ObjectName.sql_toList_some (schema n : Identifier) :
    (ObjectName.mk (some schema) n).sql.toList =
      Quoted.quote '"' schema.value.toList ++ '.' :: Quoted.quote '"' n.value.toList := by
  simp [sql, Identifier.sql_toList]

/-- Different names of tables have different texts. -/
theorem ObjectName.sql_injective {m n : ObjectName} (h : m.sql = n.sql) : m = n := by
  obtain ⟨s, a⟩ := m
  obtain ⟨s', b⟩ := n
  have hlist := congrArg String.toList h
  cases s with
  | none =>
    cases s' with
    | none => exact congrArg (ObjectName.mk none) (Identifier.sql_injective h)
    | some s' =>
      rw [sql_toList_none, sql_toList_some] at hlist
      exact nomatch (Quoted.quote_append_inj (by simp) (by simp) hlist).2
  | some s =>
    cases s' with
    | none =>
      rw [sql_toList_none, sql_toList_some] at hlist
      exact nomatch (Quoted.quote_append_inj (by simp) (by simp) hlist).2
    | some s' =>
      rw [sql_toList_some, sql_toList_some] at hlist
      obtain ⟨hs, hrest⟩ := Quoted.quote_append_inj (by simp) (by simp) hlist
      have hname : a.sql = b.sql := by
        rw [← String.toList_inj, Identifier.sql_toList, Identifier.sql_toList]
        exact (List.cons.inj hrest).2
      have hschema : s.sql = s'.sql := by
        rw [← String.toList_inj, Identifier.sql_toList, Identifier.sql_toList, hs]
      rw [Identifier.sql_injective hname, Identifier.sql_injective hschema]

theorem QualifiedName.sql_injective {m n : QualifiedName} (h : m.sql = n.sql) : m = n := by
  have := ObjectName.sql_injective h
  cases m
  cases n
  simp_all [toObjectName]

end SchemaPatch
