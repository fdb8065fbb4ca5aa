import ParamSql.Proofs.Positions

/-!
# Tokens of one kind in place of another

A text with tokens of one kind, in which nothing reads as a token of a second kind, has its tokens
replaced by pieces of the second kind. The result then has those tokens and no others, and the same
characters in literals.
-/

namespace ParamSql.Sql

namespace TokenKind

variable {kind other : TokenKind}

/-! ## Texts without tokens -/

theorem eq_map_char_of_no_tokens {p : Nat} {pieces : List Piece} (h : tokensFrom p pieces = []) :
    pieces = (kind.written pieces).map .char := by
  induction pieces generalizing p with
  | nil => rfl
  | cons piece rest ih =>
    cases piece with
    | char c => rw [written_char, List.map_cons, ← ih h]
    | token body => cases h

theorem reads_map_char (hkind : kind.Lawful) {text : List Char} (h : kind.starts text = []) :
    kind.Reads (kind.opensAfter none) false (text.map .char) := by
  have hpieces : kind.piecesOutside text = text.map .char := by
    conv_rhs => rw [← kind.written_piecesOutside text]
    apply eq_map_char_of_no_tokens (p := 0)
    rw [tokensFrom_piecesOutside hkind, h, List.map_nil]
  rw [← hpieces]
  exact reads_piecesOutside hkind text

theorem reads_map_char_drop (hopens : ∀ previous, kind.opensAfter previous = true)
    {run rest : List Char} (hrun : ∀ c ∈ run, c ≠ '\'')
    (h : kind.Reads true false ((run ++ rest).map .char)) :
    kind.Reads true false (rest.map .char) := by
  induction run with
  | nil => exact h
  | cons c run ih =>
    rw [List.cons_append, List.map_cons, reads_char, hopens,
      openAfter_of_ne (hrun c List.mem_cons_self)] at h
    exact ih (fun d hd => hrun d (List.mem_cons_of_mem _ hd)) h.2

/-! ## Replacing tokens -/

/-- Pieces without quotes that are read as they are, whatever comes next but more of a body. -/
structure Block (kind : TokenKind) (block : List Piece) : Prop where
  quote_not_mem : '\'' ∉ kind.written block
  stops : kind.Stops (kind.written block)
  reads : ∀ rest, kind.Reads true false rest → kind.Stops (kind.written rest) →
    kind.Reads true false (block ++ rest)

/-- The second pieces are the first ones with a block of another kind for each token. -/
inductive Replaces (kind : TokenKind) : List Piece → List Piece → Prop
  | nil : Replaces kind [] []
  | char {c : Char} {old new : List Piece} :
    Replaces kind old new → Replaces kind (.char c :: old) (.char c :: new)
  | token {body : List Char} {block old new : List Piece} :
    kind.Block block → Replaces kind old new → Replaces kind (.token body :: old) (block ++ new)

theorem Replaces.reads (hkind : kind.Lawful) (hopens : ∀ previous, other.opensAfter previous = true)
    (hbody : ∀ c, other.body c = true → kind.body c = true) {old new : List Piece}
    (hreplaces : other.Replaces old new) {free inside : Bool} (hold : kind.Reads free inside old)
    (hplain : other.Reads true inside ((kind.written old).map .char)) :
    other.Reads true inside new ∧ ('\'' ∈ other.written new ↔ '\'' ∈ kind.written old) ∧
      (other.Stops (kind.written old) → other.Stops (other.written new)) := by
  induction hreplaces generalizing free inside with
  | nil => exact ⟨trivial, Iff.rfl, id⟩
  | @char c old new _ ih =>
    rw [written_char, List.map_cons, reads_char, written_map_char, hopens] at hplain
    obtain ⟨hreads, hquote, hstops⟩ := ih hold.2 hplain.2
    refine ⟨?_, by simp [hquote], fun h => other.stops_cons.2 (other.stops_cons.1 h)⟩
    rw [reads_char, hopens, openAfter_congr hquote]
    exact ⟨fun hinside hc hfree => hstops (hplain.1 hinside hc hfree), hreads⟩
  | @token body block old new hblock _ ih =>
    obtain ⟨rfl, -, -, hall, hstop, hold⟩ := hold
    have hsource := hkind.quote_not_mem hall
    have hword : ∀ c ∈ kind.mark :: body, c ≠ '\'' := fun c hc heq => hsource (heq ▸ hc)
    rw [written_token, ← List.cons_append] at hplain
    obtain ⟨hreads, hquote, hstops⟩ := ih hold (reads_map_char_drop hopens hword hplain)
    -- What follows a token of the first kind cannot go on with one of the second.
    have hstop' : other.Stops (kind.written old) := by
      cases hw : kind.written old with
      | nil => exact other.stops_nil
      | cons c rest =>
        rw [hw, stops_cons] at hstop
        rw [stops_cons]
        by_contra h
        rw [hbody c (by simpa using h)] at hstop
        cases hstop
    refine ⟨hblock.reads new hreads (hstops hstop'), ?_, fun _ => ?_⟩
    · rw [written_append, written_token, ← List.cons_append, List.mem_append, List.mem_append,
        hquote]
      exact or_congr_left (iff_of_false hblock.quote_not_mem hsource)
    · rw [written_append]
      exact stops_append hblock.stops (hstops hstop')

theorem Replaces.piecesOutside_eq (hkind : kind.Lawful) (hother : other.Lawful)
    (hopens : ∀ previous, other.opensAfter previous = true)
    (hbody : ∀ c, other.body c = true → kind.body c = true) {text : List Char}
    (hnone : other.starts text = []) {new : List Piece}
    (hreplaces : other.Replaces (kind.piecesOutside text) new) :
    other.piecesOutside (other.written new) = new := by
  have hplain := reads_map_char hother hnone
  have hwritten := kind.written_piecesOutside text
  rw [hopens] at hplain
  have h := hreplaces.reads hkind hopens hbody (reads_piecesOutside hkind text)
    (by rwa [hwritten])
  rw [piecesOutside_eq_iff hother, hopens]
  exact ⟨h.1, rfl⟩

end TokenKind

end ParamSql.Sql
