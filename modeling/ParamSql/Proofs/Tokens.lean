import Mathlib.Data.List.Basic
import ParamSql.Proofs.Segments
import ParamSql.Sql.Token

/-!
# Where tokens start

The rule that tokens follow, said of positions in the whole text, and what it means to write each
token of a text anew.
-/

namespace ParamSql.Sql

namespace TokenKind

/-- A quote has no part in a token, and a mark does not go on with the token before it. -/
structure Lawful (kind : TokenKind) : Prop where
  mark_ne_quote : kind.mark ≠ '\''
  body_mark : kind.body kind.mark = false
  body_quote : kind.body '\'' = false
  /-- The end of a literal is as good as the start of the text. -/
  opens_quote : kind.opensAfter (some '\'') = kind.opensAfter none

variable (kind : TokenKind)

variable {kind} in
theorem Lawful.ne_quote (hkind : kind.Lawful) {c : Char} (hc : kind.body c = true) : c ≠ '\'' := by
  rintro rfl
  rw [hkind.body_quote] at hc
  cases hc

variable {kind} in
theorem Lawful.quote_not_mem (hkind : kind.Lawful) {body : List Char}
    (hbody : ∀ c ∈ body, kind.body c = true) : '\'' ∉ kind.mark :: body := by
  rw [List.mem_cons, not_or]
  exact ⟨hkind.mark_ne_quote.symm, fun hmem => hkind.ne_quote (hbody _ hmem) rfl⟩

/-! ## The rule -/

/-- The longest run of body characters after a position. -/
def bodyAt (text : List Char) (p : Nat) : List Char := (text.drop (p + 1)).takeWhile kind.body

/-- A token starts at a mark outside every literal, if the character before it in the whole text lets
it open and a character of a body follows. -/
def StartsAt (text : List Char) (p : Nat) : Prop :=
  text[p]? = some kind.mark ∧ (literalFlags text)[p]? = some false ∧
    kind.opensAfter (text.take p).getLast? = true ∧ kind.bodyAt text p ≠ []

instance (text : List Char) (p : Nat) : Decidable (kind.StartsAt text p) :=
  inferInstanceAs (Decidable (_ ∧ _ ∧ _ ∧ _))

theorem bodyAt_ne_nil_iff {text : List Char} {p : Nat} :
    kind.bodyAt text p ≠ [] ↔ ∃ c, text[p + 1]? = some c ∧ kind.body c = true := by
  rw [bodyAt, ← List.head?_drop]
  cases text.drop (p + 1) with
  | nil => simp
  | cons c rest => by_cases hc : kind.body c <;> simp [hc]

/-- The positions at which tokens start, in order. -/
def starts (text : List Char) : List Nat :=
  (List.range text.length).filter fun p => kind.StartsAt text p

theorem mem_starts {text : List Char} {p : Nat} : p ∈ kind.starts text ↔ kind.StartsAt text p := by
  rw [starts, List.mem_filter, List.mem_range, decide_eq_true_eq, and_iff_right_iff_imp]
  intro h
  exact (List.getElem?_eq_some_iff.1 h.1).1

/-! ## Writing tokens anew -/

section Substitution

variable {α : Type} (char : Char → List α) (token : Nat → List α)

/-- The text from a position on, where the tokens that start at the given positions are replaced. -/
def spliceFrom (text : List Char) : Nat → List Nat → List α
  | p, [] => (text.drop p).flatMap char
  | p, start :: others =>
    ((text.take start).drop p).flatMap char ++ token start ++
      spliceFrom text (start + 1 + (kind.bodyAt text start).length) others

/-- Each token, with its mark, replaced by what `token` says of its position, and each other
character by what `char` says of it. -/
def substitute (text : List Char) : List α := kind.spliceFrom char token text 0 (kind.starts text)

end Substitution

end TokenKind

end ParamSql.Sql
