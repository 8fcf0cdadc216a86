import SchemaPatch.Comparison.Basic
import SchemaPatch.Proofs.Document.Concatenation
import SchemaPatch.Proofs.Token.Layout

/-!
# Layout makes no difference

Texts that are lexed to the same symbols are read alike: as the same statements, with the same
errors but for the lines they show on (`Document.ofText_congr`). Blanks, comments and line feeds
between tokens are no part of the symbols. In particular a text says what its tokens say on lines
of their own, and two texts are compared as these are (`Document.ofText_relaid`).
-/

namespace SchemaPatch

/-- Tokens that are the same symbol. -/
def Token.Alike (t u : Token) : Prop := t.symbol = u.symbol

theorem Token.keepsSymbols_alike : KeepsSymbols Alike := fun _ _ h => h

theorem Token.forall₂_alike {ts us : List Token} (h : ts.map symbol = us.map symbol) :
    List.Forall₂ Alike ts us := by
  have hsame : List.Forall₂ Eq (ts.map symbol) (us.map symbol) := List.forall₂_eq_eq_eq ▸ h
  rwa [List.forall₂_map_left_iff, List.forall₂_map_right_iff] at hsame

/-- What a message says of a token is its symbol. -/
theorem Fault.Cause.message_alike {t u : Token} (h : t.Alike u) (cause : Fault.Cause) :
    cause.message t = cause.message u := by
  obtain ⟨kind, literal, line⟩ := t
  obtain ⟨kind', literal', line'⟩ := u
  obtain ⟨rfl, rfl⟩ := Symbol.mk.inj h
  cases cause <;> rfl

/-- Errors of the same document that say the same. -/
def SyntaxError.Alike (e f : SyntaxError) : Prop := e.input = f.input ∧ e.message = f.message

namespace Attempt

/-- Attempts that come out alike have the same error, if they have one. -/
theorem error?_alike (name : String) {a b : Attempt} (h : a.outcome.Alike Token.Alike b.outcome) :
    Option.Rel SyntaxError.Alike (a.error? name) (b.error? name) := by
  unfold error?
  generalize a.outcome = x at h ⊢
  generalize b.outcome = y at h ⊢
  cases h with
  | parsed | skipped => exact .none
  | failed cause ht => exact .some ⟨rfl, cause.message_alike ht⟩

end Attempt

theorem forall₂_filterMap {α β : Type} {R : α → α → Prop} {S : β → β → Prop} {f : α → Option β}
    (hf : ∀ a b, R a b → Option.Rel S (f a) (f b)) {l m : List α} (h : List.Forall₂ R l m) :
    List.Forall₂ S (l.filterMap f) (m.filterMap f) := by
  induction h with
  | nil => exact .nil
  | @cons a b l m hab _ ih =>
    rw [List.filterMap_cons, List.filterMap_cons]
    match f a, f b, hf a b hab with
    | _, _, .none => exact ih
    | _, _, .some hS => exact .cons hS ih

namespace TokenStream

/-- Of streams that are alike, both or none are read as if their second token were a stray one. -/
theorem primed_alike {s s' : TokenStream} (h : List.Forall₂ Token.Alike s.tokens s'.tokens)
    (hstop : s.stop.Alike s'.stop) :
    List.Forall₂ Token.Alike s.primed.tokens s'.primed.tokens ∧ s.primed.stop.Alike s'.primed.stop := by
  obtain ⟨ts, stop⟩ := s
  obtain ⟨us, stop'⟩ := s'
  cases h with
  | nil => exact ⟨.nil, hstop⟩
  | cons ht hrest =>
    cases hrest with
    | nil => exact ⟨.cons ht .nil, hstop⟩
    | @cons v w _ _ hv hrest =>
      cases hrest with
      | nil =>
        have hkind : v.kind = w.kind := congrArg Symbol.kind hv
        have hstray : Token.Alike { v with kind := .stray } { w with kind := .stray } :=
          congrArg (Symbol.mk .stray) (congrArg Symbol.literal hv)
        simp only [primed, hkind]
        split
        · exact ⟨.cons ht (.cons hstray .nil), hstop⟩
        · exact ⟨.cons ht (.cons hv .nil), hstop⟩
      | cons hx hrest => exact ⟨.cons ht (.cons hv (.cons hx hrest)), hstop⟩

end TokenStream

namespace Document

/-- **Texts of the same symbols are read alike.** -/
theorem ofText_congr (name : String) {text text' : String}
    (h : symbols text.toList = symbols text'.toList) :
    (ofText name text).statements = (ofText name text').statements ∧
      List.Forall₂ SyntaxError.Alike (ofText name text).errors (ofText name text').errors := by
  have htokens := Token.forall₂_alike ((symbols_toList text).trans (h.trans (symbols_toList text').symm))
  obtain ⟨line, hstop⟩ := Lexer.exists_drain_eq_eof (Lexer.ofText text)
  obtain ⟨line', hstop'⟩ := Lexer.exists_drain_eq_eof (Lexer.ofText text')
  have hends : (TokenStream.ofText text).stop.Alike (TokenStream.ofText text').stop := by
    show (Lexer.ofText text).drain.2.symbol = (Lexer.ofText text').drain.2.symbol
    rw [hstop, hstop']
    rfl
  obtain ⟨hprimed, hprimedStop⟩ := TokenStream.primed_alike htokens hends
  have hattempts := TokenStream.attempts_alike Token.keepsSymbols_alike hprimed hprimedStop
  simp only [statements, errors, ofText_eq]
  exact ⟨filterMap_eq_of_forall₂ (hattempts.imp fun _ _ h => Attempt.statement?_eq h),
    forall₂_filterMap (fun _ _ h => Attempt.error?_alike name h) hattempts⟩

end Document

namespace Comparison

theorem toOption_patch (c : Comparison) :
    c.patch.toOption = if c.isClean then some c.lenientPatch else none := by
  rw [patch]
  split <;> rfl

/-- Documents are compared by what their symbols say. -/
theorem toOption_patch_congr (first second : String) {source source' desired desired' : String}
    (hs : symbols source.toList = symbols source'.toList)
    (hd : symbols desired.toList = symbols desired'.toList) :
    (patch ⟨.ofText first source, .ofText second desired⟩).toOption =
      (patch ⟨.ofText first source', .ofText second desired'⟩).toOption := by
  have hclean : ∀ (name : String) {text text' : String}, symbols text.toList = symbols text'.toList →
      (Document.ofText name text).isClean = (Document.ofText name text').isClean := by
    intro name text text' h
    rw [Document.isClean, Document.isClean]
    match (Document.ofText name text).errors, (Document.ofText name text').errors,
      (Document.ofText_congr name h).2 with
    | _, _, .nil => rfl
    | _, _, .cons _ _ => rfl
  rw [toOption_patch, toOption_patch, isClean, isClean, hclean _ hs, hclean _ hd, lenientPatch,
    lenientPatch, Document.catalog, Document.catalog, (Document.ofText_congr _ hs).1,
    (Document.ofText_congr _ hd).1]
  rfl

end Comparison

/-- **Layout makes no difference.** A text has the same tokens on lines of their own, one by one and
apart from the lines; it is read as the same statements, with the same errors apart from the lines;
and compared with another text laid out anew it gives the same patch, or none. -/
theorem Document.ofText_relaid (name text : String) :
    (TokenStream.ofText (TokenStream.ofText text).relaid).toList.map Token.symbol =
        (TokenStream.ofText text).toList.map Token.symbol ∧
      (ofText name (TokenStream.ofText text).relaid).statements = (ofText name text).statements ∧
      List.Forall₂ SyntaxError.Alike (ofText name (TokenStream.ofText text).relaid).errors
        (ofText name text).errors ∧
      ∀ name' text' : String,
        (Comparison.patch ⟨ofText name (TokenStream.ofText text).relaid,
            ofText name' (TokenStream.ofText text').relaid⟩).toOption =
          (Comparison.patch ⟨ofText name text, ofText name' text'⟩).toOption := by
  have hsame := TokenStream.symbols_relaid text
  obtain ⟨hstatements, herrors⟩ := ofText_congr name hsame
  refine ⟨?_, hstatements, herrors, fun name' text' => ?_⟩
  · rw [TokenStream.map_symbol_toList, TokenStream.map_symbol_toList, hsame]
  · exact Comparison.toOption_patch_congr name name' hsame (TokenStream.symbols_relaid text')

end SchemaPatch
