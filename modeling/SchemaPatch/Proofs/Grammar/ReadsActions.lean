import SchemaPatch.Proofs.Grammar.ReadsExpression
import SchemaPatch.Proofs.Grammar.SoundStatement
import SchemaPatch.Proofs.Grammar.WrittenActions

/-!
# Reading actions on tables

Each action on a table is read from the tokens that write it, and one that takes no part in a
comparison is passed over exactly up to the comma in front of the next action or the end
(`Rule.oneAction_of_written`). So of the actions of a statement exactly those are read that are kept,
in their order (`Rule.actions_listed`).
-/

namespace SchemaPatch

/-! ### Symbols of actions -/

section Symbols

variable {S : Symbol → Prop} {ts rest : List Token}

theorem Token.names_of_symbol {t : Token} {name : Identifier} (h : t.symbol = .name name) :
    t.Names name := by
  obtain ⟨hkind, hliteral⟩ := Symbol.mk.inj h
  exact ⟨by rw [Token.isIdentifier, hkind], by rw [hliteral, Identifier.ofLiteral_sql]⟩

theorem NamesListed.of_spells {names : List Identifier} (hne : names ≠ [])
    (hs : Spells (Symbol.listed (names.map fun n => [.name n])) ts rest) :
    NamesListed names ts rest := by
  induction names generalizing ts with
  | nil => exact absurd rfl hne
  | cons name names ih =>
    obtain ⟨t, mid, rfl, ht, hmid⟩ : ∃ t mid, ts = t :: mid ∧ t.symbol = .name name ∧
        Spells (Symbol.listed ([] :: names.map fun n => [.name n])) mid rest := by
      cases names <;> exact spells_cons.1 hs
    cases names with
    | nil =>
      rw [spells_nil.1 hmid]
      exact .one (Token.names_of_symbol ht)
    | cons name' names =>
      obtain ⟨u, us, rfl, hu, hus⟩ := spells_cons.1 hmid
      exact .cons (Token.names_of_symbol ht) (congrArg Symbol.kind hu) (ih (by simp) hus)

theorem ConstraintNamed.of_spells {name : Option Identifier}
    (hs : Spells (name.toList.flatMap fun name => [.word .CONSTRAINT, .name name]) ts rest) :
    ConstraintNamed name ts rest := by
  cases name with
  | none =>
    rw [spells_nil.1 hs]
    exact .none
  | some name =>
    obtain ⟨t, mid, rfl, ht, hmid⟩ := spells_cons.1 hs
    obtain ⟨u, mid, rfl, hu, hnil⟩ := spells_cons.1 hmid
    rw [spells_nil.1 hnil]
    exact .some (congrArg Symbol.kind ht) (Token.names_of_symbol hu)

/-- The symbols of an action that can be read write it. -/
theorem AlterAction.Readable.written_of_spells {a : AlterAction} (ha : a.Readable S)
    (hs : Spells a.symbols ts rest) : (Rule.Action.kept a).Written ts rest := by
  cases a with
  | addConstraint c =>
    obtain ⟨t, mid, rfl, ht, hmid⟩ := spells_cons.1 hs
    obtain ⟨mid', hhead, hcols⟩ := spells_append.1 hmid
    obtain ⟨mid, hname, hkind⟩ := spells_append.1 hhead
    obtain ⟨u, us, rfl, hu, hus⟩ := spells_cons.1 hcols
    obtain ⟨mid', hlist, hclose⟩ := spells_append.1 hus
    obtain ⟨v, vs, rfl, hv, hnil⟩ := spells_cons.1 hclose
    rw [spells_nil.1 hnil] at hlist
    exact .addConstraint (congrArg Symbol.kind ht) (.of_spells hname) hkind.forms
      (congrArg Symbol.kind hu) (.of_spells ha hlist) (congrArg Symbol.kind hv)
  | setDefault column value =>
    obtain ⟨t, mid, rfl, ht, hmid⟩ := spells_cons.1 hs
    obtain ⟨w, us, rfl, hw, hus⟩ := spells_cons.1 hmid
    obtain ⟨u, us, rfl, hu, hbehind⟩ := spells_cons.1 hus
    have hcolumn : Forms (if true then [.word .COLUMN] else []) (w :: u :: us) (u :: us) :=
      Spells.forms (spells_cons.2 ⟨w, _, rfl, hw, spells_nil.2 rfl⟩)
    have hwords : Spells ([.word .SET, .word .DEFAULT] ++ value.symbols) us rest := hbehind
    obtain ⟨mid, hset, hvalue⟩ := spells_append.1 hwords
    exact .setDefault (congrArg Symbol.kind ht) hcolumn (Token.names_of_symbol hu) hset.forms
      ha.nested (ha.nested.written_of_spells hvalue)

end Symbols

namespace Rule

variable {β : Type} {ts mid rest : List Token}

/-! ### Names -/

theorem identifier_bind {f : Identifier → Rule β} {t : Token} {name : Identifier}
    (ht : t.Names name) : (identifier >>= f) (t :: ts) = f name ts :=
  bind_of_eq_ok (by rw [identifier, if_pos ht.1, ht.2])

/-- A keyword that may be left out. -/
theorem acceptWord_bind {k : Keyword} {b : Bool} {f : Bool → Rule β}
    (h : Forms (if b then [.word k] else []) ts rest) (hrest : ¬ Begins (.keyword k) rest) :
    (acceptWord k >>= f) ts = f b rest := by
  cases b with
  | false =>
    obtain rfl := forms_nil.1 h
    exact not_accept_bind hrest
  | true =>
    obtain ⟨t, mid, rfl, ht, hnil⟩ := forms_cons.1 h
    obtain rfl := forms_nil.1 hnil
    exact accept_bind ht.1

theorem expectWords_bind {ks : List Keyword} {f : Unit → Rule β}
    (h : Forms (ks.map Symbol.word) ts rest) : (expectWords ks >>= f) ts = f () rest :=
  bind_of_eq_ok (expectWords_eq_ok.2 h)

theorem objectName_of_written {name : ObjectName} (h : name.Written ts rest)
    (hrest : ¬ Begins .dot rest) : objectName ts = .ok (name, rest) := by
  unfold objectName
  cases h with
  | plain ht =>
    rw [identifier_bind ht, not_accept_bind hrest]
    rfl
  | qualified ht hu hv =>
    rw [identifier_bind ht, accept_bind hu, if_pos rfl, identifier_bind hv]
    rfl

theorem commaList_of_namesListed {names : List Identifier} (h : NamesListed names ts rest)
    (hrest : ¬ Begins .comma rest) : commaList identifier ts = .ok (names, rest) := by
  induction h with
  | @one t name rest ht =>
    rw [commaList, identifier, if_pos ht.1, ht.2]
    cases rest with
    | nil => rfl
    | cons u us =>
      rw [begins_cons] at hrest
      simp [hrest]
  | @cons t u name names ts rest ht hu _ ih =>
    have hlt : ts.length < (t :: u :: ts).length := by
      simp only [List.length_cons]
      omega
    rw [commaList, identifier, if_pos ht.1, ht.2]
    simp only [hu, hlt, and_self, if_true, ih hrest]

theorem identifierList_of_namesListed {names : List Identifier} {t u : Token}
    (ht : t.kind = .leftParen) (h : NamesListed names ts (u :: rest)) (hu : u.kind = .rightParen) :
    identifierList (t :: ts) = .ok (names, rest) := by
  have hlist := commaList_of_namesListed h (by simp [hu])
  unfold identifierList
  rw [expect_bind ht, bind_of_eq_ok hlist, expect_bind hu]
  rfl

/-! ### Actions that are kept -/

theorem constraintName_of_named {name : Option Identifier} (h : ConstraintNamed name ts rest)
    (hrest : ¬ Begins (.keyword .CONSTRAINT) rest) : constraintName ts = .ok (name, rest) := by
  unfold constraintName acceptWord
  cases h with
  | none =>
    rw [not_accept_bind hrest]
    rfl
  | some ht hu =>
    rw [accept_bind ht, if_pos rfl, identifier_bind hu]
    rfl

theorem constraintBody_of_written {c : TableConstraint} {u v : Token} {cols : List Token}
    (hkind : Forms c.kind.symbols ts (u :: cols)) (hu : u.kind = .leftParen)
    (hcols : NamesListed c.columns cols (v :: rest)) (hv : v.kind = .rightParen) :
    constraintBody c.name ts = .ok (.kept (.addConstraint c), rest) := by
  have hlist := identifierList_of_namesListed hu hcols hv
  obtain ⟨name, kind, columns⟩ := c
  cases kind with
  | unique =>
    obtain ⟨t, mid, rfl, ht, hnil⟩ := forms_cons.1 hkind
    obtain rfl := forms_nil.1 hnil
    have hk : t.kind = .keyword .UNIQUE := ht.1
    simp [constraintBody, Token.keyword?, hk, Token.Kind.keyword?, beginsIgnored, hlist]
  | primaryKey =>
    obtain ⟨t, mid, rfl, ht, hkey⟩ := forms_cons.1 hkind
    obtain ⟨w, mid, rfl, hw, hnil⟩ := forms_cons.1 hkey
    obtain rfl := forms_nil.1 hnil
    have hk : t.kind = .keyword .PRIMARY := ht.1
    have hread : (do expectWord .KEY; identifierList : Rule (List Identifier)) (w :: u :: cols) =
        .ok (columns, rest) := (expect_bind hw.1).trans hlist
    simp [constraintBody, Token.keyword?, hk, Token.Kind.keyword?, beginsIgnored, hread]

theorem not_begins_constraint {kind : ConstraintKind} (h : Forms kind.symbols ts rest) :
    ¬ Begins (.keyword .CONSTRAINT) ts := by
  cases kind <;>
  · obtain ⟨t, mid, rfl, ht, -⟩ := forms_cons.1 h
    simp [ht.1]

theorem columnDefault_of_written {column : Identifier} {value : Expression} {worded : Bool}
    {u : Token} {behind : List Token}
    (hcolumn : Forms (if worded then [.word .COLUMN] else []) ts (u :: behind))
    (hu : u.Names column) (hwords : Forms ([.SET, .DEFAULT].map Symbol.word) behind mid)
    (hn : value.Nested) (hvalue : value.Written mid rest) (hrest : Follows Token.Kind.isQuiet rest) :
    columnDefault ts = .ok (.kept (.setDefault column value), rest) := by
  have hcol : ¬ Begins (.keyword .COLUMN) (u :: behind) := by
    rw [begins_cons]
    exact hu.kind_ne rfl
  unfold columnDefault
  rw [acceptWord_bind hcolumn hcol, identifier_bind hu, expectWords_bind hwords,
    bind_of_eq_ok (complete_of_nested hn hvalue hrest)]
  rfl

/-! ### Actions that are ignored -/

/-- Balanced tokens are passed over, inside any parentheses if there are commas outside their own. -/
theorem passIgnored_balanced {inside : Bool} {soup : List Token} (h : Balanced inside soup)
    {depth : Nat} (hd : inside → depth ≠ 0) :
    passIgnored depth (soup ++ rest) = passIgnored depth rest := by
  induction h generalizing depth rest with
  | nil => rfl
  | @filler _ t ts ht _ ih =>
    simp only [Token.Kind.isFiller, Bool.and_eq_true, bne_iff_ne, ne_eq] at ht
    obtain ⟨⟨⟨hopen, hclose⟩, hcomma⟩, hterminated⟩ := ht
    have hstep : passIgnored depth (t :: (ts ++ rest)) = passIgnored depth (ts ++ rest) := by
      rw [passIgnored]
      split <;> first | contradiction | rfl
    exact hstep.trans (ih hd)
  | @comma t ts ht _ ih =>
    rw [List.cons_append, passIgnored]
    simp only [ht, hd rfl, if_false]
    exact ih hd
  | @parens _ t u between ts ht _ hu _ ihb ih =>
    rw [List.cons_append, passIgnored]
    simp only [ht]
    rw [List.append_assoc, ihb fun _ => Nat.succ_ne_zero depth, List.cons_append, passIgnored]
    simp only [hu]
    exact ih hd

theorem passIgnored_of_follows (h : Follows (· == .comma) rest) : passIgnored 0 rest = .ok rest := by
  cases rest with
  | nil => rfl
  | cons t ts =>
    have ht : t.kind = .comma := by simpa using h
    simp [passIgnored, ht]

/-! ### All actions -/

/-- An action is read from the tokens that write it, up to a comma or the end. -/
theorem oneAction_of_written {a : Action} (h : a.Written ts rest)
    (hrest : Follows (· == .comma) rest) :
    oneAction ts = (a.ignored?.toList, .ok (a.kept?.toList, rest)) := by
  have hquiet : Follows Token.Kind.isQuiet rest := fun t ht => by
    rw [eq_of_beq (hrest t ht)]
    rfl
  cases h with
  | addConstraint ht hname hkind hu hcols hv =>
    have hread : action _ = _ := (accept_bind ht).trans
      ((bind_of_eq_ok (constraintName_of_named hname (not_begins_constraint hkind))).trans
        (constraintBody_of_written hkind hu hcols hv))
    rw [oneAction, hread]
    rfl
  | setDefault ht hcolumn hu hwords hn hvalue =>
    have hread : action _ = _ := (not_accept_bind (by simp [ht])).trans
      ((accept_bind ht).trans (columnDefault_of_written hcolumn hu hwords hn hvalue hquiet))
    rw [oneAction, hread]
    rfl
  | @ignored name t first ts soup rest ht hname hfirst hsoup =>
    have hconstraint : ¬ Begins (.keyword .CONSTRAINT) (first :: (soup ++ rest)) := by
      rw [begins_cons]
      intro hk
      rw [Token.keyword?, hk] at hfirst
      cases hfirst
    have hbody : constraintBody name (first :: (soup ++ rest)) =
        .ok (.ignored first, first :: (soup ++ rest)) := by
      rw [constraintBody, if_pos hfirst]
    have hread : action _ = _ := (accept_bind ht).trans
      ((bind_of_eq_ok (constraintName_of_named hname hconstraint)).trans hbody)
    have hfiller : first.kind.isFiller := by
      cases hk : first.kind with
      | keyword k => rfl
      | _ => simp [Token.keyword?, Token.Kind.keyword?, hk] at hfirst
    have hall : Balanced false (first :: soup) := .filler hfiller hsoup
    have hpass := (passIgnored_balanced hall (by simp)).trans (passIgnored_of_follows hrest)
    rw [oneAction, hread]
    dsimp only
    rw [← List.cons_append, hpass]
    rfl

/-- **Of the actions of a statement exactly those are read that are kept**, in their order, and all
the tokens are taken. -/
theorem actions_listed (x : Segment) (xs : List Segment) :
    actions (Segment.listed (x :: xs)) =
      ((x :: xs).filterMap (·.action.ignored?), .ok ((x :: xs).filterMap (·.action.kept?), [])) := by
  induction xs generalizing x with
  | nil =>
    have hone := oneAction_of_written x.written (follows_nil _)
    rw [Segment.listed, List.flatMap_nil, List.append_nil, actions, hone]
    cases ha : x.action <;> simp [ha, Action.ignored?, Action.kept?]
  | cons y ys ih =>
    have hlisted : Segment.listed (x :: y :: ys) =
        x.tokens ++ y.comma :: Segment.listed (y :: ys) := by
      simp [Segment.listed]
    have hone := oneAction_of_written (x.written.append ((begins_cons ..).2 y.isComma))
      (by simp [y.isComma] : Follows (· == .comma) (y.comma :: Segment.listed (y :: ys)))
    have hlength : (Segment.listed (y :: ys)).length <
        (x.tokens ++ y.comma :: Segment.listed (y :: ys)).length := by
      simp only [List.length_append, List.length_cons]
      omega
    rw [hlisted, actions, hone]
    simp only [List.nil_append, y.isComma, hlength, and_self, if_true, ih y]
    cases ha : x.action <;> simp [ha, Action.ignored?, Action.kept?, List.filterMap_cons]

end Rule

end SchemaPatch
