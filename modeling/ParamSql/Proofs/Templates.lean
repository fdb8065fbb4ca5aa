import ParamSql.Proofs.Numerals
import ParamSql.Proofs.Positions
import ParamSql.Template

/-!
# What binding a template does

Binding writes each token anew and leaves every other character alone. The rule is said of positions
in the template: where tokens start, and what the tokens before one of them bind.
-/

namespace ParamSql.Template

open Sql TokenKind

theorem lawful_nameKind : nameKind.Lawful :=
  ⟨by decide, by decide, by decide, by decide⟩

/-! ## Tokens and their values -/

def nameAt (text : List Char) (p : Nat) : String := String.ofList (nameKind.bodyAt text p)

/-- What a name binds: nothing if it has no value. -/
def itemsOf (named : Row) (name : String) : List Value :=
  ((named.get? name).map Value.elements).getD []

/-- What the tokens before a position bind, all together. -/
def valuesBefore (named : Row) (text : List Char) (p : Nat) : List Value :=
  ((nameKind.starts text).filter (· < p)).flatMap fun q => itemsOf named (nameAt text q)

section Render

variable {α : Type} (named : Row) (char : Char → List α) (token : Nat → List Value → List α)

/-- A template with its tokens written anew, each by what `token` says of the number of values that
the tokens before it bind and of the values that it binds itself. -/
def render (text : List Char) : List α :=
  nameKind.substitute char
    (fun p => token (valuesBefore named text p).length (itemsOf named (nameAt text p))) text

/-- The same of pieces, where the number of values bound before them is known. -/
def renderFrom : Nat → List Piece → List α
  | _, [] => []
  | bound, .char c :: rest => char c ++ renderFrom bound rest
  | bound, .token name :: rest =>
    token bound (itemsOf named (String.ofList name)) ++
      renderFrom (bound + (itemsOf named (String.ofList name)).length) rest

variable {named}

variable (named) in
theorem valuesBefore_eq {text : List Char} {p : Nat} {pieces : List Piece} {before : List Nat}
    (hstarts : nameKind.starts text = before ++ (tokensFrom p pieces).map Prod.fst)
    (hbefore : ∀ q ∈ before, q < p) :
    valuesBefore named text p = before.flatMap fun q => itemsOf named (nameAt text q) := by
  have hlater : ((tokensFrom p pieces).map Prod.fst).filter (· < p) = [] := by
    rw [List.filter_eq_nil_iff]
    intro q hq
    obtain ⟨found, hfound, rfl⟩ := List.mem_map.1 hq
    have := le_of_mem_tokensFrom hfound
    simp
    omega
  rw [valuesBefore, hstarts, List.filter_append, hlater, List.append_nil,
    List.filter_eq_self.2 fun q hq => by simpa using hbefore q hq]

theorem placeFrom_eq_renderFrom {text : List Char} {p : Nat} {pieces : List Piece}
    {before : List Nat}
    (hstarts : nameKind.starts text = before ++ (tokensFrom p pieces).map Prod.fst)
    (hbefore : ∀ q ∈ before, q < p)
    (hbody : ∀ found ∈ tokensFrom p pieces, nameKind.bodyAt text found.1 = found.2) :
    placeFrom char
        (fun q => token (valuesBefore named text q).length (itemsOf named (nameAt text q))) p pieces =
      renderFrom named char token
        (before.flatMap fun q => itemsOf named (nameAt text q)).length pieces := by
  induction pieces generalizing p before with
  | nil => rfl
  | cons piece rest ih =>
    cases piece with
    | char c =>
      have hbefore' : ∀ q ∈ before, q < p + 1 := fun q hq => Nat.lt_succ_of_lt (hbefore q hq)
      rw [placeFrom, renderFrom, ih hstarts hbefore' hbody]
    | token name =>
      have hat : nameAt text p = String.ofList name :=
        congrArg String.ofList (hbody (p, name) List.mem_cons_self)
      have hvalues := valuesBefore_eq named hstarts hbefore
      have hstarts' : nameKind.starts text =
          (before ++ [p]) ++ (tokensFrom (p + 1 + name.length) rest).map Prod.fst := by
        rw [hstarts, tokensFrom, List.map_cons, List.append_assoc, List.singleton_append]
      have hbefore' : ∀ q ∈ before ++ [p], q < p + 1 + name.length := by
        intro q hq
        rcases List.mem_append.1 hq with hq | hq
        · have := hbefore q hq
          omega
        · rw [List.mem_singleton.1 hq]
          omega
      have hrest := ih hstarts' hbefore' fun found hfound =>
        hbody found (List.mem_cons_of_mem _ hfound)
      rw [placeFrom, renderFrom, hrest, hvalues, List.flatMap_append, List.length_append,
        List.flatMap_singleton, hat]

variable (named) in
theorem render_eq (text : List Char) :
    render named char token text =
      renderFrom named char token 0 (nameKind.piecesOutside text) := by
  have hstarts : nameKind.starts text =
      [] ++ (tokensFrom 0 (nameKind.piecesOutside text)).map Prod.fst :=
    (map_fst_tokensFrom lawful_nameKind text).symm
  rw [render, substitute_eq char _ lawful_nameKind]
  exact placeFrom_eq_renderFrom char token hstarts (by simp) fun _ h =>
    bodyAt_of_mem_tokensFrom lawful_nameKind h

end Render

/-! ## Bound text and bound values -/

theorem tokenText_eq (bound count : Nat) :
    tokenText bound count = numbered "$" (bound + 1) count :=
  intercalate_placeholders (bound + 1) count

/-- Each token replaced by its placeholders, whose numbers go on from those of the tokens before. -/
def boundText (named : Row) (text : List Char) : List Char :=
  render named (fun c => [c])
    (fun bound items => (numbered "$" (bound + 1) items.length).toList) text

def boundValues (named : Row) (text : List Char) : List Value :=
  (nameKind.starts text).flatMap fun p => itemsOf named (nameAt text p)

theorem boundValues_eq (named : Row) (text : List Char) :
    boundValues named text =
      renderFrom named (fun _ => []) (fun _ items => items) 0 (nameKind.piecesOutside text) := by
  rw [← render_eq, render, substitute, spliceFrom_none]
  rfl

theorem bindPieces_of_named {named : Row} (bound : Nat) {pieces : List Piece}
    (h : ∀ name ∈ pieces.filterMap Piece.body?, named.contains (String.ofList name) = true) :
    bindPieces named bound pieces =
      .ok (renderFrom named (fun c => [c])
          (fun bound items => (numbered "$" (bound + 1) items.length).toList) bound pieces,
        renderFrom named (fun _ => []) (fun _ items => items) bound pieces) := by
  induction pieces generalizing bound with
  | nil => rfl
  | cons piece rest ih =>
    cases piece with
    | char c =>
      rw [bindPieces, ih bound h]
      rfl
    | token name =>
      obtain ⟨value, hvalue⟩ := Option.isSome_iff_exists.1 (h name List.mem_cons_self)
      have hitems : itemsOf named (String.ofList name) = value.elements := by
        rw [itemsOf, hvalue]
        rfl
      have hrest := ih (bound + value.elements.length)
        fun other hother => h other (List.mem_cons_of_mem _ hother)
      simp only [bindPieces, hvalue, hrest, renderFrom, hitems, tokenText_eq]
      rfl

theorem bindPieces_of_unnamed {named : Row} (bound : Nat) {pieces : List Piece}
    {before after : List (List Char)} {name : List Char}
    (hnames : pieces.filterMap Piece.body? = before ++ name :: after)
    (hbefore : ∀ other ∈ before, named.contains (String.ofList other) = true)
    (hname : named.contains (String.ofList name) = false) :
    bindPieces named bound pieces = .error (String.ofList name) := by
  induction pieces generalizing bound before with
  | nil => simp at hnames
  | cons piece rest ih =>
    cases piece with
    | char c =>
      rw [bindPieces, ih bound hnames hbefore]
      rfl
    | token body =>
      have hall : body :: rest.filterMap Piece.body? = before ++ name :: after := hnames
      cases before with
      | nil =>
        obtain ⟨rfl, -⟩ := List.cons.inj hall
        have hnone : named.get? (String.ofList body) = none := by
          simpa [Fields.contains] using hname
        rw [bindPieces, hnone]
      | cons other before =>
        obtain ⟨rfl, htail⟩ := List.cons.inj hall
        obtain ⟨value, hvalue⟩ := Option.isSome_iff_exists.1 (hbefore body List.mem_cons_self)
        have hrest := ih (bound + value.elements.length) htail
          fun other hother => hbefore other (List.mem_cons_of_mem _ hother)
        simp only [bindPieces, hvalue, hrest]
        rfl

/-! ## The rule for whole templates -/

theorem mem_starts_iff {text : List Char} {p : Nat} :
    p ∈ nameKind.starts text ↔
      text[p]? = some ':' ∧ (literalFlags text)[p]? = some false ∧
        (∃ c, text[p + 1]? = some c ∧ Text.isWord c = true) ∧
        ∀ c, 0 < p → text[p - 1]? = some c → c ≠ ':' ∧ Text.isWord c = false := by
  rw [mem_starts, StartsAt, bodyAt_ne_nil_iff]
  have hopens : p < text.length → (opensName (text.take p).getLast? = true ↔
      ∀ c, 0 < p → text[p - 1]? = some c → c ≠ ':' ∧ Text.isWord c = false) := by
    intro hlt
    rw [List.getLast?_take]
    rcases Nat.eq_zero_or_pos p with rfl | hpos
    · simp [opensName]
    · have hget : text[p - 1]? = some text[p - 1] := List.getElem?_eq_getElem (by omega)
      simp [Nat.ne_of_gt hpos, hget, hpos, opensName]
  constructor
  · rintro ⟨hc, hflag, hopen, hbody⟩
    exact ⟨hc, hflag, hbody, (hopens (List.getElem?_eq_some_iff.1 hc).1).1 hopen⟩
  · rintro ⟨hc, hflag, hbody, hprevious⟩
    exact ⟨hc, hflag, (hopens (List.getElem?_eq_some_iff.1 hc).1).2 hprevious, hbody⟩

theorem pairwise_starts (kind : TokenKind) (text : List Char) :
    (kind.starts text).Pairwise (· < ·) :=
  List.pairwise_lt_range.filter _

/-- No token before the one at a position lacks a value, but that one does. -/
def FirstUnnamed (named : Row) (text : List Char) (p : Nat) : Prop :=
  p ∈ nameKind.starts text ∧ named.contains (nameAt text p) = false ∧
    ∀ q ∈ nameKind.starts text, q < p → named.contains (nameAt text q) = true

theorem exists_firstUnnamed {named : Row} {text : List Char}
    (h : ¬ ∀ p ∈ nameKind.starts text, named.contains (nameAt text p) = true) :
    ∃ p, FirstUnnamed named text p := by
  have hsome : ((nameKind.starts text).find? fun p => !named.contains (nameAt text p)).isSome := by
    rw [List.find?_isSome]
    simpa using h
  obtain ⟨p, hp⟩ := Option.isSome_iff_exists.1 hsome
  rw [List.find?_eq_some_iff_append] at hp
  obtain ⟨hp, before, after, hstarts, hbefore⟩ := hp
  have hpairwise := pairwise_starts nameKind text
  refine ⟨p, by simp [hstarts], by simpa using hp, fun q hq hlt => ?_⟩
  rw [hstarts, List.pairwise_append, List.pairwise_cons] at hpairwise
  rw [hstarts, List.mem_append, List.mem_cons] at hq
  rcases hq with hq | rfl | hq
  · simpa using hbefore q hq
  · omega
  · have := hpairwise.2.1.1 q hq
    omega

theorem bind_of_named {template : String} {named : Row}
    (h : ∀ p ∈ nameKind.starts template.toList,
      named.contains (nameAt template.toList p) = true) :
    bind template named =
      .ok ⟨String.ofList (boundText named template.toList), boundValues named template.toList⟩ := by
  have hnamed : ∀ name ∈ (nameKind.piecesOutside template.toList).filterMap Piece.body?,
      named.contains (String.ofList name) = true := by
    intro name hname
    rw [bodies_piecesOutside lawful_nameKind] at hname
    obtain ⟨p, hp, rfl⟩ := List.mem_map.1 hname
    exact h p hp
  rw [bind, bindPieces_of_named 0 hnamed, boundText, render_eq, boundValues_eq]

theorem bind_of_firstUnnamed {template : String} {named : Row} {p : Nat}
    (h : FirstUnnamed named template.toList p) :
    bind template named = .error (.unboundParameter (nameAt template.toList p) template) := by
  obtain ⟨hp, hunnamed, hbefore⟩ := h
  obtain ⟨before, after, hstarts⟩ := List.append_of_mem hp
  have hpairwise := pairwise_starts nameKind template.toList
  rw [hstarts, List.pairwise_append] at hpairwise
  have hnames := bodies_piecesOutside lawful_nameKind template.toList
  rw [hstarts, List.map_append, List.map_cons] at hnames
  rw [bind, bindPieces_of_unnamed 0 hnames ?_ hunnamed]
  · rfl
  · intro name hname
    obtain ⟨q, hq, rfl⟩ := List.mem_map.1 hname
    exact hbefore q (by simp [hstarts, hq]) (hpairwise.2.2 q hq p List.mem_cons_self)

theorem named_of_bind {template : String} {named : Row} {query : Query}
    (h : bind template named = .ok query) :
    ∀ p ∈ nameKind.starts template.toList,
      named.contains (nameAt template.toList p) = true := by
  by_contra hnamed
  obtain ⟨p, hp⟩ := exists_firstUnnamed hnamed
  rw [bind_of_firstUnnamed hp] at h
  cases h

theorem eq_of_bind {template : String} {named : Row} {query : Query}
    (h : bind template named = .ok query) :
    query =
      ⟨String.ofList (boundText named template.toList), boundValues named template.toList⟩ := by
  rw [bind_of_named (named_of_bind h)] at h
  exact (Except.ok.inj h).symm

/-- Binding a template replaces its tokens and nothing else, and fails only at the first token that
has no value. -/
theorem bind_exact (template : String) (named : Row) :
    (∀ p, p ∈ nameKind.starts template.toList ↔
      template.toList[p]? = some ':' ∧ (literalFlags template.toList)[p]? = some false ∧
        (∃ c, template.toList[p + 1]? = some c ∧ Text.isWord c = true) ∧
        ∀ c, 0 < p → template.toList[p - 1]? = some c → c ≠ ':' ∧ Text.isWord c = false) ∧
    (∀ query, bind template named = .ok query ↔
      (∀ p ∈ nameKind.starts template.toList,
        named.contains (nameAt template.toList p) = true) ∧
      query =
        ⟨String.ofList (boundText named template.toList), boundValues named template.toList⟩) ∧
    ∀ error, bind template named = .error error ↔
      ∃ p, FirstUnnamed named template.toList p ∧
        error = .unboundParameter (nameAt template.toList p) template := by
  refine ⟨fun p => mem_starts_iff, fun query => ?_, fun error => ?_⟩
  · constructor
    · intro hbind
      exact ⟨named_of_bind hbind, eq_of_bind hbind⟩
    · rintro ⟨hnamed, rfl⟩
      exact bind_of_named hnamed
  · constructor
    · intro hbind
      by_cases hnamed : ∀ p ∈ nameKind.starts template.toList,
          named.contains (nameAt template.toList p) = true
      · rw [bind_of_named hnamed] at hbind
        cases hbind
      · obtain ⟨p, hp⟩ := exists_firstUnnamed hnamed
        rw [bind_of_firstUnnamed hp] at hbind
        exact ⟨p, hp, (Except.error.inj hbind).symm⟩
    · rintro ⟨p, hp, rfl⟩
      exact bind_of_firstUnnamed hp

-- A cast is no token, and nor is what stands in a literal.
example :
    bind "a::int = :a OR ':b' IN (:c)"
        ((Fields.empty.insert "a" (.int 1)).insert "c" (.list [.null, .int 2])) =
      .ok ⟨"a::int = $1 OR ':b' IN ($2, $3)", [.int 1, .null, .int 2]⟩ := rfl

end ParamSql.Template
