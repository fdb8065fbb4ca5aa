import Mathlib.Data.Nat.Find
import ParamSql.Proofs.Positions

/-!
# Literals by the parity of quotes

A position belongs to a literal if it holds a quote or an odd number of quotes come before it. If the
quotes of the text do not pair up, this is so only before the last one. The segments of a text are
the longest runs of positions that belong to literals, and of those that do not.
-/

namespace ParamSql.Sql

/-! ## Counting quotes -/

def quotes (text : List Char) : Nat := text.count '\''

def lastQuote (text : List Char) : Nat :=
  Nat.findGreatest (fun p => text[p]? = some '\'') text.length

/-- The position from which on no character belongs to a literal. -/
def literalEnd (text : List Char) : Nat :=
  if quotes text % 2 = 0 then text.length else lastQuote text

def InLiteral (text : List Char) (p : Nat) : Prop :=
  p < literalEnd text ∧ (text[p]? = some '\'' ∨ quotes (text.take p) % 2 = 1)

instance (text : List Char) (p : Nat) : Decidable (InLiteral text p) :=
  inferInstanceAs (Decidable (_ ∧ _))

section Counting

variable {text done rest : List Char} {c : Char}

theorem quotes_append (text rest : List Char) : quotes (text ++ rest) = quotes text + quotes rest :=
  List.count_append

theorem quotes_cons_quote (rest : List Char) : quotes ('\'' :: rest) = quotes rest + 1 :=
  List.count_cons_self

theorem quotes_cons_of_ne (hc : c ≠ '\'') (rest : List Char) : quotes (c :: rest) = quotes rest :=
  List.count_cons_of_ne hc

theorem quotes_pos_iff : 0 < quotes text ↔ '\'' ∈ text := List.count_pos_iff

theorem mem_of_odd (h : quotes text % 2 = 1) : '\'' ∈ text := by
  rw [← quotes_pos_iff]
  omega

theorem lastQuote_of_mem (h : '\'' ∈ text) : text[lastQuote text]? = some '\'' := by
  obtain ⟨p, hp, hget⟩ := List.mem_iff_getElem.1 h
  have hquote : text[p]? = some '\'' := by rw [List.getElem?_eq_getElem hp, hget]
  exact Nat.findGreatest_spec (P := fun p => text[p]? = some '\'') hp.le hquote

theorem le_lastQuote {p : Nat} (h : text[p]? = some '\'') : p ≤ lastQuote text := by
  obtain ⟨hp, -⟩ := List.getElem?_eq_some_iff.1 h
  exact Nat.le_findGreatest hp.le h

theorem lt_lastQuote_iff (p : Nat) : p < lastQuote text ↔ '\'' ∈ text.drop (p + 1) := by
  constructor
  · intro hlt
    have hmem : '\'' ∈ text := by
      by_contra hnone
      have hzero : lastQuote text = 0 := by
        rw [lastQuote, Nat.findGreatest_eq_zero_iff]
        intro q _ _ hquote
        exact hnone (List.mem_of_getElem? hquote)
      omega
    have hlast := lastQuote_of_mem hmem
    obtain ⟨k, hk⟩ : ∃ k, lastQuote text = p + 1 + k := ⟨lastQuote text - (p + 1), by omega⟩
    rw [hk, ← List.getElem?_drop] at hlast
    exact List.mem_of_getElem? hlast
  · intro hmem
    obtain ⟨k, hk⟩ := List.mem_iff_getElem?.1 hmem
    rw [List.getElem?_drop] at hk
    have := le_lastQuote hk
    omega

theorem lt_literalEnd_iff (htext : text = done ++ c :: rest)
    (h : c = '\'' ∨ quotes done % 2 = 1) :
    done.length < literalEnd text ↔ '\'' ∈ rest ∨ (c = '\'' ∧ quotes done % 2 = 1) := by
  have hdrop : text.drop (done.length + 1) = rest := by simp [htext]
  have hlength : done.length < text.length := by simp [htext]
  have hcount : quotes text = quotes done + (if c = '\'' then 1 else 0) + quotes rest := by
    rw [htext, quotes_append]
    split
    · next hc => rw [hc, quotes_cons_quote]; omega
    · next hc => rw [quotes_cons_of_ne hc]; omega
  rw [literalEnd, ← quotes_pos_iff]
  split
  · next heven =>
    refine iff_of_true hlength ?_
    by_cases hc : c = '\''
    · rw [if_pos hc] at hcount
      by_cases hodd : quotes done % 2 = 1
      · exact .inr ⟨hc, hodd⟩
      · exact .inl (by omega)
    · rw [if_neg hc] at hcount
      have hodd := h.resolve_left hc
      exact .inl (by omega)
  · next hodd =>
    rw [lt_lastQuote_iff, hdrop, ← quotes_pos_iff, or_iff_left_of_imp]
    rintro ⟨hc, hdone⟩
    rw [if_pos hc] at hcount
    omega

end Counting

/-! ## Positions in literals -/

theorem exists_splitAt {text : List Char} {p : Nat} (hp : p ≤ text.length) :
    ∃ inside, SplitAt text (text.take p) inside (text.drop p) ∧
      (inside = true ↔ quotes (text.take p) % 2 = 1 ∧ '\'' ∈ text.drop p) := by
  induction p with
  | zero => exact ⟨false, .start text, by simp [quotes]⟩
  | succ p ih =>
    obtain ⟨inside, hsplit, hinside⟩ := ih (by omega)
    rw [List.drop_eq_getElem_cons (by omega)] at hsplit hinside
    have hstep := hsplit.step
    rw [List.take_add_one, List.getElem?_eq_getElem (by omega), Option.toList_some]
    refine ⟨_, hstep, ?_⟩
    generalize text[p] = c at *
    rw [quotes_append]
    by_cases hc : c = '\''
    · subst hc
      have hone : quotes ['\''] = 1 := rfl
      rw [openAfter_quote, hone]
      simp only [List.mem_cons_self, and_true] at hinside
      cases inside with
      | false =>
        simp at hinside
        simp
        intro _
        omega
      | true =>
        simp at hinside
        simp
        omega
    · rw [openAfter_of_ne hc, hinside, quotes_cons_of_ne hc]
      simp [quotes, Ne.symm hc]

theorem flag_iff_inLiteral (text : List Char) (p : Nat) :
    (literalFlags text)[p]? = some true ↔ InLiteral text p := by
  by_cases hp : p < text.length
  · obtain ⟨inside, hsplit, hinside⟩ := exists_splitAt hp.le
    have htake : (text.take p).length = p := List.length_take_of_le hp.le
    rw [List.drop_eq_getElem_cons hp] at hsplit hinside
    have hflag := hsplit.flag_eq
    have hget := hsplit.getElem?_eq
    have hend := lt_literalEnd_iff hsplit.text_eq
    rw [htake] at hflag hget hend
    rw [InLiteral, hflag, hget, Option.some_inj, Option.some_inj, Bool.or_eq_true]
    generalize text[p] = c at *
    by_cases hc : c = '\''
    · subst hc
      rw [openAfter_quote, hend (.inl rfl), hinside]
      by_cases hodd : quotes (text.take p) % 2 = 1
      · simp [hodd]
      · cases inside with
        | false => simp [hodd]
        | true => simp [hodd] at hinside
    · rw [openAfter_of_ne hc, or_self, hinside]
      constructor
      · rintro ⟨hodd, hmem⟩
        rw [hend (.inr hodd)]
        exact ⟨.inl (List.mem_of_ne_of_mem (Ne.symm hc) hmem), .inr hodd⟩
      · rintro ⟨hlt, hodd⟩
        have hodd := hodd.resolve_left hc
        rw [hend (.inr hodd)] at hlt
        exact ⟨hodd, List.mem_cons_of_mem _ (hlt.resolve_right fun h => hc h.1)⟩
  · rw [List.getElem?_eq_none (by rw [length_literalFlags]; omega)]
    refine iff_of_false (by simp) fun ⟨hlt, _⟩ => hp (hlt.trans_le ?_)
    rw [literalEnd]
    split
    · exact Nat.le_refl _
    · exact Nat.findGreatest_le _

/-! ## Maximal runs -/

/-- The parts make up the text, none is empty, neighbours are of different sorts, and the literals
among them hold just the positions that belong to literals. -/
structure MaximalRuns (text : List Char) (parts : List Segment) : Prop where
  text_eq : parts.flatMap Segment.text = text
  ne_nil : ∀ part ∈ parts, part.text ≠ []
  alternate : parts.IsChain fun part next => part.literal ≠ next.literal
  literal_iff : ∀ p, (parts.flatMap Segment.flags)[p]? = some true ↔ InLiteral text p

theorem maximalRuns_segments (text : List Char) : MaximalRuns text (segments text) where
  text_eq := flatMap_text_segments text
  ne_nil := ne_nil_cut 0 text
  alternate := alternate_cut 0 text
  literal_iff := flag_iff_inLiteral text

theorem MaximalRuns.unique {text : List Char} {parts others : List Segment}
    (h : MaximalRuns text parts) (hother : MaximalRuns text others) : parts = others := by
  have hflags : parts.flatMap Segment.flags = others.flatMap Segment.flags := by
    apply List.ext_getElem
    · rw [length_flatMap_flags, length_flatMap_flags, h.text_eq, hother.text_eq]
    · intro p hp hp'
      have hiff := (h.literal_iff p).trans (hother.literal_iff p).symm
      rw [List.getElem?_eq_getElem hp, List.getElem?_eq_getElem hp', Option.some_inj,
        Option.some_inj] at hiff
      exact Bool.eq_iff_iff.2 hiff
  have hmarks : parts.flatMap Segment.marks = others.flatMap Segment.marks := by
    rw [List.zip_of_prod (map_fst_marks parts) (map_snd_marks parts),
      List.zip_of_prod (map_fst_marks others) (map_snd_marks others), hflags, h.text_eq,
      hother.text_eq]
  rw [← segmentsOfMarks_marks h.ne_nil h.alternate, hmarks,
    segmentsOfMarks_marks hother.ne_nil hother.alternate]

theorem inLiteral_of_quote {text : List Char} {p : Nat} (h : text[p]? = some '\'') :
    InLiteral text p ↔ ¬ (quotes text % 2 = 1 ∧ p = lastQuote text) := by
  have hle := le_lastQuote h
  have hlt := (List.getElem?_eq_some_iff.1 h).1
  rw [InLiteral, and_iff_left (.inl h), literalEnd]
  split <;> omega

/-- The segments of a text are the maximal runs that the parity of quotes makes. So no quote lies
outside the literals, unless the quotes do not pair up: then the last one does. -/
theorem segments_by_parity (text : List Char) :
    (∀ parts, segments text = parts ↔ MaximalRuns text parts) ∧
      ∀ p, (text[p]? = some '\'' ∧ (literalFlags text)[p]? = some false) ↔
        (quotes text % 2 = 1 ∧ p = lastQuote text) := by
  constructor
  · intro parts
    constructor
    · rintro rfl
      exact maximalRuns_segments text
    · exact (maximalRuns_segments text).unique
  · intro p
    have hflag := flag_iff_inLiteral text p
    constructor
    · rintro ⟨hquote, hfalse⟩
      rw [hfalse, inLiteral_of_quote hquote] at hflag
      simpa using hflag
    · rintro ⟨hodd, rfl⟩
      have hquote := lastQuote_of_mem (mem_of_odd hodd)
      have hlt := (List.getElem?_eq_some_iff.1 hquote).1
      rw [inLiteral_of_quote hquote] at hflag
      refine ⟨hquote, ?_⟩
      rw [← length_literalFlags] at hlt
      rw [List.getElem?_eq_getElem hlt] at hflag ⊢
      simpa [hodd] using hflag

/-- The last quote opens nothing, and the two before it are a literal. -/
example : segments "a'b'c'd".toList =
    [⟨false, "a".toList⟩, ⟨true, "'b'".toList⟩, ⟨false, "c'd".toList⟩] := by decide

end ParamSql.Sql
