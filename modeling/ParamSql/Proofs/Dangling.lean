import ParamSql.Proofs.Styles

/-!
# Dangling placeholders

The numbers of placeholders count from one, and a placeholder dangles if no value has its number. The
`%s` style refuses a query at the first placeholder whose number is too large. It does not refuse the
number zero as long as there are values: it takes it for the number of the last one.
-/

namespace ParamSql

open Sql TokenKind

/-! ## What a number names -/

/-- A position past the greatest one that a list can have is refused before the list is looked at. -/
def danglingError (number : Nat) : Error :=
  if positionLimit < number then .indexTooLarge else .indexOutOfRange

theorem valueAt_of_none {values : List Value} {number : Nat} (h : valueNamed values number = none) :
    valueAt values number = .error (danglingError number) := by
  cases number with
  | zero =>
    rw [valueNamed] at h
    rw [valueAt, h, danglingError, if_neg (Nat.not_lt_zero _)]
  | succ index =>
    rw [valueNamed] at h
    rw [valueAt, h, danglingError]
    simp only [Nat.lt_succ_iff]

theorem valueNamed_eq_none_iff {values : List Value} {number : Nat} :
    valueNamed values number = none ↔
      (number = 0 ∨ values.length < number) ∧ (number = 0 → values = []) := by
  cases number with
  | zero => simp [valueNamed]
  | succ index =>
    simp only [valueNamed, List.getElem?_eq_none_iff, Nat.add_one_ne_zero, false_or,
      Nat.lt_add_one_iff, false_imp_iff, and_true]

/-! ## Pieces -/

theorem formatPieces_of_dangling {values : List Value} {pieces : List Piece}
    {before after : List (List Char)} {digits : List Char}
    (hbodies : pieces.filterMap Piece.body? = before ++ digits :: after)
    (hbefore : ∀ other ∈ before, Bound values other) (hlength : digits.length ≤ 4300)
    (hnone : valueNamed values (Text.decimalValue digits) = none) :
    formatPieces values pieces = .error (danglingError (Text.decimalValue digits)) := by
  induction pieces generalizing before with
  | nil => cases before <;> cases hbodies
  | cons piece rest ih =>
    cases piece with
    | char c =>
      rw [formatPieces, ih hbodies hbefore]
      rfl
    | token first =>
      change first :: rest.filterMap Piece.body? = _ at hbodies
      cases before with
      | nil =>
        obtain ⟨rfl, -⟩ := List.cons.inj hbodies
        rw [formatPieces, slotNumber_of_length hlength]
        show (valueAt values (Text.decimalValue first) >>= _) = _
        rw [valueAt_of_none hnone]
        rfl
      | cons other before =>
        obtain ⟨rfl, hrest⟩ := List.cons.inj hbodies
        obtain ⟨hother, value, hvalue⟩ := hbefore first List.mem_cons_self
        have herror := ih hrest fun other hmem => hbefore other (List.mem_cons_of_mem _ hmem)
        rw [formatPieces, slotNumber_of_length hother]
        show (valueAt values (Text.decimalValue first) >>= _) = _
        rw [valueAt_of_some hvalue, herror]
        rfl

/-! ## Queries -/

namespace Query

variable (query : Query)

/-- The positions of the placeholders outside the literals. -/
def slotStarts : List Nat := slotKind.starts query.text.toList

def slotDigits (p : Nat) : List Char := slotKind.bodyAt query.text.toList p

/-- The number of the placeholder at a position. -/
def indexAt (p : Nat) : Nat := Text.decimalValue (query.slotDigits p)

/-- No number of a placeholder is too long to be read. -/
def Readable : Prop := ∀ p ∈ query.slotStarts, (query.slotDigits p).length ≤ 4300

instance : Decidable query.Readable :=
  inferInstanceAs (Decidable (∀ p ∈ query.slotStarts, _))

/-- No value has the number of the placeholder at a position. -/
def Dangling (p : Nat) : Prop := query.indexAt p = 0 ∨ query.values.length < query.indexAt p

/-- A dangling placeholder, except for a zero where there is a last value. -/
def RefusedAt (p : Nat) : Prop := query.Dangling p ∧ (query.indexAt p = 0 → query.values = [])

/-- The text with the values in it that its placeholders name. -/
def bound : List Symbol :=
  slotKind.substitute (fun c => [.char c]) (fun p => [.value (valueNamed query.values (query.indexAt p))])
    query.text.toList

variable {query}

variable (query) in
theorem bodies_eq :
    (slotKind.piecesOutside query.text.toList).filterMap Piece.body? =
      query.slotStarts.map query.slotDigits :=
  bodies_piecesOutside lawful_slotKind query.text.toList

theorem bound_eq :
    query.bound = (slotKind.piecesOutside query.text.toList).flatMap (readNamed query.values) :=
  substitute_of_body (fun c => [Symbol.char c])
    (fun digits => [.value (valueNamed query.values (Text.decimalValue digits))]) lawful_slotKind
    query.text.toList

theorem refusedAt_iff {p : Nat} :
    query.RefusedAt p ↔ valueNamed query.values (query.indexAt p) = none :=
  valueNamed_eq_none_iff.symm

theorem bound_of_not_refusedAt (hreadable : query.Readable) {p : Nat} (hp : p ∈ query.slotStarts)
    (h : ¬ query.RefusedAt p) : Bound query.values (query.slotDigits p) := by
  rw [refusedAt_iff, ← ne_eq, Option.ne_none_iff_exists'] at h
  exact ⟨hreadable p hp, h⟩

theorem prepare_of_bound (hreadable : query.Readable)
    (h : ∀ p ∈ query.slotStarts, ¬ query.RefusedAt p) :
    ∃ prepared, query.prepare .format = .ok prepared ∧
      readDirectives prepared.sql.toList prepared.params = some query.bound := by
  have hbound : ∀ digits ∈ (slotKind.piecesOutside query.text.toList).filterMap Piece.body?,
      Bound query.values digits := by
    rw [bodies_eq, List.forall_mem_map]
    exact fun p hp => bound_of_not_refusedAt hreadable hp (h p hp)
  obtain ⟨sql, params, hformat, hread⟩ := formatPieces_of_bound hbound
  refine ⟨⟨String.ofList sql, params⟩, ?_, ?_⟩
  · rw [prepare, hformat]
    rfl
  · rw [String.toList_ofList, hread, bound_eq]

theorem prepare_of_refusedAt (hreadable : query.Readable) {before after : List Nat} {p : Nat}
    (hstarts : query.slotStarts = before ++ p :: after)
    (hbefore : ∀ q ∈ before, ¬ query.RefusedAt q) (hp : query.RefusedAt p) :
    query.prepare .format = .error (danglingError (query.indexAt p)) := by
  have hmem : ∀ q ∈ before ++ p :: after, q ∈ query.slotStarts := fun q hq => hstarts ▸ hq
  have hbodies := bodies_eq query
  rw [hstarts, List.map_append, List.map_cons] at hbodies
  have hbound : ∀ digits ∈ before.map query.slotDigits, Bound query.values digits :=
    List.forall_mem_map.2 fun q hq =>
      bound_of_not_refusedAt hreadable (hmem q (List.mem_append_left _ hq)) (hbefore q hq)
  have hlength := hreadable p (hmem p (List.mem_append_right _ List.mem_cons_self))
  rw [prepare, formatPieces_of_dangling hbodies hbound hlength (refusedAt_iff.1 hp)]
  rfl

theorem exists_first_refusedAt (h : ¬ ∀ p ∈ query.slotStarts, ¬ query.RefusedAt p) :
    ∃ before p after, query.slotStarts = before ++ p :: after ∧
      (∀ q ∈ before, ¬ query.RefusedAt q) ∧ query.RefusedAt p := by
  have hsome : (query.slotStarts.find? fun p =>
      (valueNamed query.values (query.indexAt p)).isNone).isSome := by
    rw [List.find?_isSome]
    simpa [refusedAt_iff] using h
  obtain ⟨p, hp⟩ := Option.isSome_iff_exists.1 hsome
  obtain ⟨hnone, before, after, hstarts, hbefore⟩ := List.find?_eq_some_iff_append.1 hp
  refine ⟨before, p, after, hstarts, fun q hq => ?_, ?_⟩
  · simpa [refusedAt_iff, Option.ne_none_iff_isSome] using hbefore q hq
  · simpa [refusedAt_iff] using hnone

theorem prepare_eq_error_iff (hreadable : query.Readable) (error : Error) :
    query.prepare .format = .error error ↔ ∃ before p after,
      query.slotStarts = before ++ p :: after ∧ (∀ q ∈ before, ¬ query.RefusedAt q) ∧
        query.RefusedAt p ∧ error = danglingError (query.indexAt p) := by
  constructor
  · intro herror
    have hrefused : ¬ ∀ p ∈ query.slotStarts, ¬ query.RefusedAt p := by
      intro hall
      obtain ⟨prepared, hprepare, -⟩ := prepare_of_bound hreadable hall
      cases herror.symm.trans hprepare
    obtain ⟨before, p, after, hstarts, hbefore, hp⟩ := exists_first_refusedAt hrefused
    have hprepare := prepare_of_refusedAt hreadable hstarts hbefore hp
    exact ⟨before, p, after, hstarts, hbefore, hp, Except.error.inj (herror.symm.trans hprepare)⟩
  · rintro ⟨before, p, after, hstarts, hbefore, hp, rfl⟩
    exact prepare_of_refusedAt hreadable hstarts hbefore hp

theorem exists_error_iff (hreadable : query.Readable) :
    (∃ error, query.prepare .format = .error error) ↔ ∃ p ∈ query.slotStarts, query.RefusedAt p := by
  constructor
  · rintro ⟨error, herror⟩
    obtain ⟨before, p, after, hstarts, -, hp, -⟩ := (prepare_eq_error_iff hreadable error).1 herror
    exact ⟨p, hstarts ▸ List.mem_append_right before List.mem_cons_self, hp⟩
  · rintro ⟨p, hp, hrefused⟩
    obtain ⟨before, first, after, hstarts, hbefore, hfirst⟩ :=
      exists_first_refusedAt fun hall => hall p hp hrefused
    exact ⟨_, prepare_of_refusedAt hreadable hstarts hbefore hfirst⟩

end Query

/-- If the numbers of a query's placeholders can be read, the `%s` style refuses it just when one of them
dangles, unless that is a zero where there is a last value, and with the error of the first one.
Otherwise each placeholder is bound to the value that it names, a zero to the last value. -/
theorem refused_iff_dangling (query : Query) (h : query.Readable) :
    ((∃ error, query.prepare .format = .error error) ↔
      ∃ p ∈ query.slotStarts, query.Dangling p ∧ (query.indexAt p = 0 → query.values = [])) ∧
    (∀ error, query.prepare .format = .error error ↔ ∃ before p after,
      query.slotStarts = before ++ p :: after ∧ (∀ q ∈ before, ¬ query.RefusedAt q) ∧
        query.RefusedAt p ∧ error = danglingError (query.indexAt p)) ∧
    ∀ prepared, query.prepare .format = .ok prepared →
      readDirectives prepared.sql.toList prepared.params = some query.bound ∧
        ∀ p ∈ query.slotStarts, query.Dangling p → query.indexAt p = 0 ∧ query.values ≠ [] := by
  refine ⟨Query.exists_error_iff h, Query.prepare_eq_error_iff h, fun prepared hprepare => ?_⟩
  have hbound : ∀ p ∈ query.slotStarts, ¬ query.RefusedAt p := by
    intro p hp hrefused
    obtain ⟨error, herror⟩ := (Query.exists_error_iff h).2 ⟨p, hp, hrefused⟩
    cases herror.symm.trans hprepare
  obtain ⟨other, hother, hread⟩ := Query.prepare_of_bound h hbound
  obtain rfl := Except.ok.inj (hprepare.symm.trans hother)
  refine ⟨hread, fun p hp hdangling => ?_⟩
  have hzero := not_and.1 (hbound p hp) hdangling
  rwa [Classical.not_imp] at hzero

theorem refused_iff_dangling_third :
    let query : Query := ⟨"a = '$9' OR b = $2 OR c = $3", [.int 7, .int 8]⟩
    query.Readable ∧ query.slotStarts.map query.indexAt = [2, 3] ∧
      query.prepare .format = .error .indexOutOfRange := by
  intro query
  have hreadable : query.Readable := by decide
  have hstarts : query.slotStarts = [16, 26] := by decide
  have hindices : query.indexAt 16 = 2 ∧ query.indexAt 26 = 3 := by decide
  obtain ⟨-, herror, -⟩ := refused_iff_dangling query hreadable
  refine ⟨hreadable, by simp [hstarts, hindices], (herror _).2 ⟨[16], 26, [], hstarts, ?_, ?_, ?_⟩⟩
  · simp [Query.RefusedAt, Query.Dangling, hindices, query]
  · simp [Query.RefusedAt, Query.Dangling, hindices, query]
  · rw [hindices.2]
    rfl

/-- A placeholder whose number is zero dangles, and is bound to the last value all the same. -/
theorem zero_bound_to_last :
    let query : Query := ⟨"select $0", [.int 6, .int 7]⟩
    query.Readable ∧ (∃ p ∈ query.slotStarts, query.Dangling p) ∧
      query.prepare .format = .ok ⟨"select %s", [.int 7]⟩ := by
  have hprepare : (⟨"select $0", [.int 6, .int 7]⟩ : Query).prepare .format =
      .ok ⟨"select %s", [.int 7]⟩ := by
    rfl
  intro query
  have hstart : 7 ∈ query.slotStarts := by decide
  have hindex : query.indexAt 7 = 0 := by decide
  exact ⟨by decide, ⟨7, hstart, .inl hindex⟩, hprepare⟩

end ParamSql
