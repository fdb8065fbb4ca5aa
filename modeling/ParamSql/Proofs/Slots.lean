import ParamSql.Proofs.Alignment

/-!
# Placeholders in joined texts

A text that is put together from parts has the placeholders of its parts, as long as no digit comes
right after a placeholder. If they are numbered from one on, one for each value, every driver binds
the values in their order.
-/

namespace ParamSql

open Sql TokenKind

/-! ## Cutting joined texts -/

namespace Sql.TokenKind

variable {kind : TokenKind}

theorem scan_congr {previous other : Option Char}
    (h : kind.opensAfter previous = kind.opensAfter other) (skip : Nat) (text : List Char) :
    kind.scan previous skip text = kind.scan other skip text := by
  cases text with
  | nil => cases skip <;> rfl
  | cons c rest =>
    cases skip with
    | zero => simp only [scan, h]
    | succ skip => rfl

theorem scan_append (previous : Option Char) {skip : Nat} {text rest : List Char}
    (hskip : skip ≤ text.length) (hstop : kind.Stops rest) :
    kind.scan previous skip (text ++ rest) =
      kind.scan previous skip text ++ kind.scan (text.getLast?.or previous) 0 rest := by
  induction text generalizing previous skip with
  | nil =>
    obtain rfl : skip = 0 := by simpa using hskip
    simp [scan]
  | cons c text ih =>
    have hlast : (c :: text).getLast?.or previous = text.getLast?.or (some c) := by
      rw [List.getLast?_cons]
      cases text.getLast? <;> rfl
    rw [hlast, List.cons_append]
    cases skip with
    | succ skip => exact ih _ (by simpa using hskip)
    | zero =>
      have hbody : (text ++ rest).takeWhile kind.body = text.takeWhile kind.body := by
        rw [List.takeWhile_append]
        split
        · rename_i hall
          rw [hstop, List.append_nil]
          exact (List.takeWhile_eq_self_iff.2 (List.takeWhile_eq_self_iff.1
            ((List.takeWhile_prefix _).eq_of_length hall))).symm
        · rfl
      have hle : (text.takeWhile kind.body).length ≤ text.length :=
        (List.takeWhile_prefix _).length_le
      simp only [scan, hbody]
      split
      · rw [ih _ hle, List.cons_append]
      · rw [ih _ (Nat.zero_le _), List.cons_append]

theorem pieces_append (hopens : ∀ previous, kind.opensAfter previous = true) (text : List Char)
    {rest : List Char} (hstop : kind.Stops rest) :
    kind.pieces (text ++ rest) = kind.pieces text ++ kind.pieces rest := by
  have hnone : kind.opensAfter (text.getLast?.or none) = kind.opensAfter none := by
    rw [hopens, hopens]
  rw [pieces, scan_append _ (Nat.zero_le _) hstop, scan_congr hnone, pieces, pieces]

theorem pieces_append_of_not_mem (hopens : ∀ previous, kind.opensAfter previous = true)
    {text : List Char} (h : kind.mark ∉ text) (rest : List Char) :
    kind.pieces (text ++ rest) = text.map .char ++ kind.pieces rest := by
  have hscan : ∀ previous, kind.scan previous 0 (text ++ rest) =
      text.map .char ++ kind.pieces rest := by
    induction text with
    | nil =>
      intro previous
      exact scan_congr (by rw [hopens, hopens]) 0 rest
    | cons c text ih =>
      intro previous
      have hc : ¬ c = kind.mark := fun hc => h (hc ▸ List.mem_cons_self)
      simp only [List.cons_append, scan, hc, false_and, if_false, List.map_cons]
      rw [ih fun hmem => h (List.mem_cons_of_mem _ hmem)]
  exact hscan none

theorem quoteMarks_of_no_quote {text : List Char} (h : '\'' ∉ text) :
    quoteMarks false text = text.map (Prod.mk false) := by
  have hmarks := quoteMarks_append h []
  rwa [quoteMarks, List.append_nil, List.append_nil] at hmarks

theorem piecesOutside_of_no_quote {text : List Char} (h : '\'' ∉ text) :
    kind.piecesOutside text = kind.pieces text := by
  rw [← piecesOfMarks_quoteMarks, quoteMarks_of_no_quote h]
  cases text with
  | nil => rfl
  | cons c text =>
    have hrun : kind.piecesOfMarks ((c :: text).map (Prod.mk false) ++ []) = _ :=
      piecesOfMarks_run (List.cons_ne_nil c text) (by simp)
    rw [List.append_nil] at hrun
    rw [hrun]
    exact List.append_nil _

theorem starts_of_not_mem {text : List Char} (h : kind.mark ∉ text) : kind.starts text = [] := by
  rw [List.eq_nil_iff_forall_not_mem]
  intro p hp
  exact h (List.mem_of_getElem? (kind.mem_starts.1 hp).1)

end Sql.TokenKind

/-! ## Placeholders of a text -/

/-- The digits of each placeholder, in literals too. -/
def slotsIn (text : String) : List (List Char) :=
  (slotKind.pieces text.toList).filterMap Piece.body?

/-- The digits of `count` numbers from `start` on. -/
def numerals (start count : Nat) : List (List Char) :=
  (List.range' start count).map (Nat.toDigits 10)

theorem numerals_append (start count more : Nat) :
    numerals start count ++ numerals (start + count) more = numerals start (count + more) := by
  rw [numerals, numerals, numerals, ← List.map_append, List.range'_append_1]

theorem slotsIn_append (text : String) {rest : String} (hstop : slotKind.Stops rest.toList) :
    slotsIn (text ++ rest) = slotsIn text ++ slotsIn rest := by
  rw [slotsIn, String.toList_append, pieces_append (fun _ => rfl) _ hstop, List.filterMap_append]
  rfl

theorem slotsIn_append_of_not_mem {text : String} (h : '$' ∉ text.toList) (rest : String) :
    slotsIn (text ++ rest) = slotsIn rest := by
  have hchars : (text.toList.map Piece.char).filterMap Piece.body? = [] := by
    simp [Piece.body?]
  rw [slotsIn, String.toList_append, pieces_append_of_not_mem (fun _ => rfl) h,
    List.filterMap_append, hchars]
  rfl

theorem slotsIn_of_not_mem {text : String} (h : '$' ∉ text.toList) : slotsIn text = [] := by
  have hnil := slotsIn_append_of_not_mem h ""
  rw [String.append_empty] at hnil
  exact hnil

theorem stops_append_of_head {text : String} {c : Char} (hc : text.toList.head? = some c)
    (hbody : slotKind.body c = false) (rest : String) : slotKind.Stops (text ++ rest).toList := by
  cases htext : text.toList with
  | nil =>
    rw [htext] at hc
    cases hc
  | cons d chars =>
    rw [htext] at hc
    cases hc
    rw [String.toList_append, htext]
    exact slotKind.stops_cons.2 hbody

theorem slotsIn_returning (text : String) : slotsIn (text ++ " RETURNING *") = slotsIn text := by
  have hstop : slotKind.Stops " RETURNING *".toList := slotKind.stops_cons.2 (by decide)
  have hplain : '$' ∉ " RETURNING *".toList := by decide
  rw [slotsIn_append _ hstop, slotsIn_of_not_mem hplain, List.append_nil]

theorem slotsIn_numbered (start count : Nat) :
    slotsIn (numbered "$" start count) = numerals start count := by
  have hwritten : slotKind.written (Template.slotPieces start count) =
      (numbered "$" start count).toList := Template.written_slotPieces rfl start count
  have hblock := Template.block_slotPieces start count
  have hreads := hblock.reads [] trivial slotKind.stops_nil
  rw [List.append_nil] at hreads
  have hquote := hblock.quote_not_mem
  rw [hwritten] at hquote
  have houtside := (piecesOutside_eq_iff lawful_slotKind).2 ⟨hreads, hwritten⟩
  rw [slotsIn, ← piecesOutside_of_no_quote hquote, houtside, Template.bodies_slotPieces, numerals]

theorem slotsIn_intercalate {separator : String} {c : Char}
    (hhead : separator.toList.head? = some c) (hbody : slotKind.body c = false)
    (hplain : '$' ∉ separator.toList) (texts : List String) :
    slotsIn (separator.intercalate texts) = texts.flatMap slotsIn := by
  induction texts with
  | nil =>
    rw [String.intercalate_nil]
    exact slotsIn_of_not_mem (by decide)
  | cons text texts ih =>
    cases texts with
    | nil => simp
    | cons other texts =>
      rw [String.intercalate_cons_cons, String.append_assoc,
        slotsIn_append _ (stops_append_of_head hhead hbody _), slotsIn_append_of_not_mem hplain, ih]
      rfl

/-! ## Reading a numbered text -/

theorem mapM_slotNumber {numbers : List Nat}
    (h : ∀ n ∈ numbers, (Nat.toDigits 10 n).length ≤ 4300) :
    (numbers.map (Nat.toDigits 10)).mapM slotNumber = .ok numbers := by
  induction numbers with
  | nil => rfl
  | cons n numbers ih =>
    rw [List.map_cons, List.mapM_cons, ih fun m hm => h m (List.mem_cons_of_mem _ hm),
      slotNumber, if_pos (h n List.mem_cons_self), Text.decimalValue_toDigits]
    rfl

theorem placeholderIndices_of_numerals {query : Query}
    (hslots : slotsIn query.text = numerals 1 query.values.length)
    (hlength : (Nat.toDigits 10 query.values.length).length ≤ 4300) :
    query.placeholderIndices = .ok (List.range' 1 query.values.length) := by
  have hquery : query.slots = numerals 1 query.values.length := hslots
  rw [Query.placeholderIndices, hquery, numerals]
  apply mapM_slotNumber
  intro n hn
  have hle := List.mem_range'_1.1 hn
  exact Nat.le_trans (length_toDigits_mono (by omega)) hlength

/-- What a symbol of a statement binds. -/
def Symbol.bound? : Symbol → Option Value
  | .char _ => none
  | .value value? => value?

theorem formatPieces_of_numerals {values params : List Value} {bound : Nat} {pieces : List Piece}
    (hdrop : values.drop bound = params)
    (hbodies : pieces.filterMap Piece.body? = numerals (bound + 1) params.length)
    (hlength : (Nat.toDigits 10 values.length).length ≤ 4300) :
    ∃ sql symbols, formatPieces values pieces = .ok (sql, params) ∧
      readDirectives sql params = some symbols ∧ symbols.filterMap Symbol.bound? = params := by
  induction pieces generalizing bound params with
  | nil =>
    obtain rfl : params = [] := by
      cases params with
      | nil => rfl
      | cons param params => cases hbodies
    exact ⟨[], [], rfl, rfl, rfl⟩
  | cons piece rest ih =>
    cases piece with
    | char c =>
      obtain ⟨sql, symbols, hformat, hread, hbound⟩ := ih hdrop hbodies
      refine ⟨escapePercent c ++ sql, .char c :: symbols, formatPieces_char c hformat, ?_, hbound⟩
      rw [readDirectives_escapePercent, hread]
      rfl
    | token digits =>
      cases params with
      | nil => cases hbodies
      | cons param params =>
        have hnext : values.drop (bound + 1) = params := by
          rw [← List.drop_drop, hdrop]
          rfl
        obtain ⟨rfl, hrest⟩ := List.cons.inj hbodies
        obtain ⟨sql, symbols, hformat, hread, hbound⟩ := ih hnext hrest
        refine ⟨'%' :: 's' :: sql, .value (some param) :: symbols,
          Template.formatPieces_slot hdrop hlength hformat, ?_, ?_⟩
        · rw [readDirectives_param, hread]
          rfl
        · rw [List.filterMap_cons, Symbol.bound?, hbound]

end ParamSql
