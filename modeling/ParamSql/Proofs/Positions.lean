import ParamSql.Proofs.Readings

/-!
# Pieces by position

The pieces that a text is cut into have their tokens exactly where the rule says that tokens start,
so that writing the pieces one after the other is writing the tokens of the text anew.
-/

namespace ParamSql.Sql

/-! ## A place in a text -/

/-- A text up to a place and from there on, where `inside` tells whether a literal is open. -/
structure SplitAt (text done : List Char) (inside : Bool) (rest : List Char) : Prop where
  text_eq : text = done ++ rest
  flags_eq : (literalFlags text).drop done.length = (quoteMarks inside rest).map Prod.fst

namespace SplitAt

variable {kind : TokenKind} {text done rest : List Char} {inside : Bool} {c : Char}

theorem start (text : List Char) : SplitAt text [] false text :=
  ⟨rfl, literalFlags_eq text⟩

theorem step (h : SplitAt text done inside (c :: rest)) :
    SplitAt text (done ++ [c]) (openAfter inside c rest) rest := by
  refine ⟨by simp [h.text_eq], ?_⟩
  rw [List.length_append, ← List.drop_drop, h.flags_eq]
  rfl

theorem run {run : List Char} (h : SplitAt text done inside (run ++ rest))
    (hrun : ∀ d ∈ run, d ≠ '\'') : SplitAt text (done ++ run) inside rest := by
  induction run generalizing done with
  | nil => simpa using h
  | cons d run ih =>
    have hstep := h.step
    rw [openAfter_of_ne (hrun d List.mem_cons_self)] at hstep
    have hall := ih hstep fun e he => hrun e (List.mem_cons_of_mem _ he)
    rwa [List.append_assoc, List.singleton_append] at hall

theorem getElem?_eq (h : SplitAt text done inside (c :: rest)) : text[done.length]? = some c := by
  simp [h.text_eq]

theorem flag_eq (h : SplitAt text done inside (c :: rest)) :
    (literalFlags text)[done.length]? = some (inside || openAfter inside c rest) := by
  have hhead := congrArg (·[0]?) h.flags_eq
  simpa [quoteMarks] using hhead

theorem bodyAt_eq (h : SplitAt text done inside (c :: rest)) :
    kind.bodyAt text done.length = rest.takeWhile kind.body := by
  simp [TokenKind.bodyAt, h.text_eq]

theorem startsAt_iff (hkind : kind.Lawful) (h : SplitAt text done inside (c :: rest)) :
    kind.StartsAt text done.length ↔
      c = kind.mark ∧ inside = false ∧ kind.opensAfter done.getLast? = true ∧
        ¬ kind.Stops rest := by
  have htake : text.take done.length = done := by simp [h.text_eq]
  rw [TokenKind.StartsAt, h.getElem?_eq, h.flag_eq, h.bodyAt_eq, htake, Option.some_inj]
  constructor
  · rintro ⟨hc, hflag, hopens, hbody⟩
    rw [Option.some_inj, Bool.or_eq_false_iff] at hflag
    exact ⟨hc, hflag.1, hopens, hbody⟩
  · rintro ⟨rfl, rfl, hopens, hbody⟩
    refine ⟨rfl, ?_, hopens, hbody⟩
    rw [openAfter_of_ne hkind.mark_ne_quote]
    rfl

end SplitAt

namespace TokenKind

variable {kind : TokenKind}

theorem not_startsAt_of_body (hkind : kind.Lawful) {text done body rest : List Char}
    (htext : text = done ++ (body ++ rest)) (hbody : ∀ c ∈ body, kind.body c = true) {p : Nat}
    (hle : done.length ≤ p) (hlt : p < done.length + body.length) : ¬ kind.StartsAt text p := by
  intro hstart
  have hget := hstart.1
  rw [htext, List.getElem?_append_right hle, List.getElem?_append_left (by omega)] at hget
  have := hbody _ (List.mem_of_getElem? hget)
  rw [hkind.body_mark] at this
  cases this

theorem filter_startsAt_body (hkind : kind.Lawful) {text done body rest : List Char}
    (htext : text = done ++ (body ++ rest)) (hbody : ∀ c ∈ body, kind.body c = true) :
    (List.range' done.length body.length).filter (fun p => kind.StartsAt text p) = [] := by
  rw [List.filter_eq_nil_iff]
  intro p hp
  rw [List.mem_range'_1] at hp
  simpa using not_startsAt_of_body hkind htext hbody hp.1 hp.2

/-! ## Tokens -/

/-- The tokens among some pieces, each with its position, where the pieces start at a position. -/
def tokensFrom : Nat → List Piece → List (Nat × List Char)
  | _, [] => []
  | p, .char _ :: rest => tokensFrom (p + 1) rest
  | p, .token body :: rest => (p, body) :: tokensFrom (p + 1 + body.length) rest

theorem le_of_mem_tokensFrom {p : Nat} {pieces : List Piece} {found : Nat × List Char}
    (h : found ∈ tokensFrom p pieces) : p ≤ found.1 := by
  induction pieces generalizing p with
  | nil => cases h
  | cons piece rest ih =>
    cases piece with
    | char c =>
      have := ih h
      omega
    | token body =>
      rcases List.mem_cons.1 h with rfl | h
      · exact Nat.le_refl _
      · have := ih h
        omega

theorem tokensFrom_eq_of_reads (hkind : kind.Lawful) {text done : List Char} {free inside : Bool}
    {pieces : List Piece} (hfree : free = kind.opensAfter done.getLast?)
    (hsplit : SplitAt text done inside (kind.written pieces))
    (hreads : kind.Reads free inside pieces) :
    tokensFrom done.length pieces =
      ((List.range' done.length (kind.written pieces).length).filter fun p =>
        kind.StartsAt text p).map fun p => (p, kind.bodyAt text p) := by
  induction pieces generalizing done free inside with
  | nil => rfl
  | cons piece rest ih =>
    cases piece with
    | char c =>
      rw [written_char] at hsplit
      have hno : ¬ kind.StartsAt text done.length := by
        rw [hsplit.startsAt_iff hkind]
        rintro ⟨hc, hinside, hopens, hbody⟩
        exact hbody (hreads.1 hinside hc (hfree.trans hopens))
      have hrest := ih (by simp) hsplit.step hreads.2
      rw [List.length_append, List.length_singleton] at hrest
      rw [tokensFrom, hrest, written_char, List.length_cons, List.range'_succ,
        List.filter_cons_of_neg (by simpa using hno)]
    | token body =>
      rw [written_token] at hsplit
      obtain ⟨rfl, hopens, hne, hbody, hstop, hreads⟩ := hreads
      have hquote : ∀ d ∈ body, d ≠ '\'' := fun d hd => hkind.ne_quote (hbody d hd)
      have hyes : kind.StartsAt text done.length := by
        rw [hsplit.startsAt_iff hkind, Stops, takeWhile_of_stops hbody hstop]
        exact ⟨rfl, rfl, hfree.symm.trans hopens, hne⟩
      have hat : kind.bodyAt text done.length = body := by
        rw [hsplit.bodyAt_eq, takeWhile_of_stops hbody hstop]
      have hstep := hsplit.step
      rw [openAfter_of_ne hkind.mark_ne_quote] at hstep
      have hlast : kind.opensAfter body.getLast? =
          kind.opensAfter (done ++ [kind.mark] ++ body).getLast? := by
        rw [List.getLast?_append_of_ne_nil _ hne]
      have hrest := ih hlast (hstep.run hquote) hreads
      rw [List.length_append, List.length_append, List.length_singleton] at hrest
      have hnone := filter_startsAt_body hkind hstep.text_eq hbody
      rw [List.length_append, List.length_singleton] at hnone
      rw [tokensFrom, hrest, written_token, List.length_cons, List.range'_succ,
        List.filter_cons_of_pos (by simpa using hyes), List.map_cons, hat, List.length_append,
        ← List.range'_append_1, List.filter_append, hnone, List.nil_append]

/-- The tokens of a text are at the starts, and their bodies are the longest possible. -/
theorem tokensFrom_piecesOutside (hkind : kind.Lawful) (text : List Char) :
    tokensFrom 0 (kind.piecesOutside text) =
      (kind.starts text).map fun p => (p, kind.bodyAt text p) := by
  have hwritten := kind.written_piecesOutside text
  have hsplit : SplitAt text [] false (kind.written (kind.piecesOutside text)) := by
    rw [hwritten]
    exact SplitAt.start text
  have h := tokensFrom_eq_of_reads hkind rfl hsplit (reads_piecesOutside hkind text)
  rwa [hwritten, List.length_nil, ← List.range_eq_range'] at h

theorem map_fst_tokensFrom (hkind : kind.Lawful) (text : List Char) :
    (tokensFrom 0 (kind.piecesOutside text)).map Prod.fst = kind.starts text := by
  rw [tokensFrom_piecesOutside hkind, List.map_map]
  exact List.map_id _

theorem bodyAt_of_mem_tokensFrom (hkind : kind.Lawful) {text : List Char}
    {found : Nat × List Char} (h : found ∈ tokensFrom 0 (kind.piecesOutside text)) :
    kind.bodyAt text found.1 = found.2 := by
  rw [tokensFrom_piecesOutside hkind] at h
  obtain ⟨p, -, rfl⟩ := List.mem_map.1 h
  rfl

theorem map_snd_tokensFrom (p : Nat) (pieces : List Piece) :
    (tokensFrom p pieces).map Prod.snd = pieces.filterMap Piece.body? := by
  induction pieces generalizing p with
  | nil => rfl
  | cons piece rest ih =>
    cases piece with
    | char c => exact ih _
    | token body => exact congrArg (body :: ·) (ih _)

theorem bodies_piecesOutside (hkind : kind.Lawful) (text : List Char) :
    (kind.piecesOutside text).filterMap Piece.body? = (kind.starts text).map (kind.bodyAt text) := by
  rw [← map_snd_tokensFrom 0, tokensFrom_piecesOutside hkind, List.map_map]
  rfl

/-! ## Writing tokens anew -/

section Substitution

variable {α : Type} (char : Char → List α) (token : Nat → List α) (write : List Char → List α)

def placeFrom : Nat → List Piece → List α
  | _, [] => []
  | p, .char c :: rest => char c ++ placeFrom (p + 1) rest
  | p, .token body :: rest => token p ++ placeFrom (p + 1 + body.length) rest

theorem spliceFrom_of_char {text rest : List Char} {c : Char} {p : Nat} {starts : List Nat}
    (htext : text.drop p = c :: rest) (hstarts : ∀ start ∈ starts, p < start) :
    kind.spliceFrom char token text p starts =
      char c ++ kind.spliceFrom char token text (p + 1) starts := by
  have hdrop : text.drop (p + 1) = rest := by rw [← List.drop_drop, htext]; rfl
  cases starts with
  | nil => rw [spliceFrom, spliceFrom, htext, hdrop, List.flatMap_cons]
  | cons start starts =>
    have hlt := hstarts start List.mem_cons_self
    have htake : (text.take start).drop p = c :: (text.take start).drop (p + 1) := by
      rw [List.drop_take, List.drop_take, htext, hdrop, show start - p = start - (p + 1) + 1 by omega,
        List.take_succ_cons]
    rw [spliceFrom, spliceFrom, htake, List.flatMap_cons, List.append_assoc, List.append_assoc,
      List.append_assoc]

theorem spliceFrom_tokensFrom {text : List Char} {p : Nat} {pieces : List Piece}
    (htext : text.drop p = kind.written pieces)
    (hbody : ∀ found ∈ tokensFrom p pieces, kind.bodyAt text found.1 = found.2) :
    kind.spliceFrom char token text p ((tokensFrom p pieces).map Prod.fst) =
      placeFrom char token p pieces := by
  induction pieces generalizing p with
  | nil => rw [tokensFrom, List.map_nil, spliceFrom, htext]; rfl
  | cons piece rest ih =>
    cases piece with
    | char c =>
      have hlt : ∀ start ∈ (tokensFrom (p + 1) rest).map Prod.fst, p < start := by
        intro start hstart
        obtain ⟨found, hfound, rfl⟩ := List.mem_map.1 hstart
        exact le_of_mem_tokensFrom hfound
      have hdrop : text.drop (p + 1) = kind.written rest := by rw [← List.drop_drop, htext]; rfl
      rw [tokensFrom, spliceFrom_of_char char token htext hlt, ih hdrop hbody, placeFrom]
    | token body =>
      have hat := hbody (p, body) List.mem_cons_self
      have hdrop : text.drop (p + 1 + body.length) = kind.written rest := by
        rw [Nat.add_assoc, ← List.drop_drop, htext, written_token, Nat.add_comm,
          List.drop_succ_cons, List.drop_left]
      have hnone : (text.take p).drop p = [] := by simp
      rw [tokensFrom, List.map_cons, spliceFrom, hat, hnone,
        ih hdrop fun found hfound => hbody found (List.mem_cons_of_mem _ hfound), placeFrom]
      rfl

theorem substitute_eq (hkind : kind.Lawful) (text : List Char) :
    kind.substitute char token text = placeFrom char token 0 (kind.piecesOutside text) := by
  rw [substitute, ← map_fst_tokensFrom hkind]
  apply spliceFrom_tokensFrom
  · exact (kind.written_piecesOutside text).symm
  · exact fun found hfound => bodyAt_of_mem_tokensFrom hkind hfound

/-- A piece written anew, a token by its body alone. -/
def writePiece : Piece → List α
  | .char c => char c
  | .token body => write body

theorem placeFrom_of_body {p : Nat} {pieces : List Piece}
    (h : ∀ found ∈ tokensFrom p pieces, token found.1 = write found.2) :
    placeFrom char token p pieces = pieces.flatMap (writePiece char write) := by
  induction pieces generalizing p with
  | nil => rfl
  | cons piece rest ih =>
    cases piece with
    | char c => rw [placeFrom, ih h]; rfl
    | token body =>
      rw [placeFrom, h (p, body) List.mem_cons_self,
        ih fun found hfound => h found (List.mem_cons_of_mem _ hfound)]
      rfl

theorem substitute_of_body (hkind : kind.Lawful) (text : List Char) :
    kind.substitute char (fun p => write (kind.bodyAt text p)) text =
      (kind.piecesOutside text).flatMap (writePiece char write) := by
  rw [substitute_eq char _ hkind]
  apply placeFrom_of_body
  intro found hfound
  rw [bodyAt_of_mem_tokensFrom hkind hfound]

theorem spliceFrom_none (text : List Char) (p : Nat) (starts : List Nat) :
    kind.spliceFrom (fun _ => []) token text p starts = starts.flatMap token := by
  induction starts generalizing p with
  | nil => simp [spliceFrom]
  | cons start starts ih => rw [spliceFrom, ih]; simp

end Substitution

end TokenKind

end ParamSql.Sql
