import ParamSql.Proofs.Statements

/-!
# Conditions with options

Conditions that are compiled with options of any kind have their placeholders numbered from one past
the offset on, in the order of the values. A number of more than 4300 digits is not written.
-/

namespace ParamSql

open Sql TokenKind

/-! ## The fragments -/

/-- The comparison of a column with a value whose first placeholder has the number `n`. -/
def fragment (column : String) (value : Value) (n : Nat) : String :=
  match value.shape with
  | none => column ++ " = " ++ placeholder n
  | some count => column ++ " IN (" ++ numbered "$" n count ++ ")"

/-- The values that some entries bind, in their order. -/
def elementsOf (entries : List (String × Value)) : List Value :=
  entries.flatMap fun entry => entry.2.elements

/-- The number of the first placeholder of the entry at a position. -/
def numberAt (offset : Nat) (entries : List (String × Value)) (k : Nat) : Nat :=
  offset + 1 + (elementsOf (entries.take k)).length

/-- One fragment for each entry, in their order. -/
def fragments (offset : Nat) (entries : List (String × Value)) : List String :=
  entries.mapIdx fun k entry => fragment entry.1 entry.2 (numberAt offset entries k)

theorem values_ofValue (value : Value) : (Condition.ofValue value).values = value.elements := by
  cases value <;> rfl

theorem boundBy_eq (entries : List (String × Value)) : boundBy entries = elementsOf entries := by
  simp only [boundBy, elementsOf, values_ofValue]

theorem text_ofValue_placeholders (column : String) (value : Value) (n : Nat) :
    (Condition.ofValue value).text column (placeholders n (Condition.ofValue value).values.length) =
      fragment column value n := by
  rw [text_ofValue, values_ofValue, length_elements, fragment]
  cases value.shape with
  | none =>
    rw [Option.getD_none, join_placeholders_one, intercalate_placeholders, numbered_one]
    rfl
  | some count =>
    rw [Option.getD_some, intercalate_placeholders]
    rfl

theorem numberAt_cons (offset : Nat) (entry : String × Value) (rest : List (String × Value))
    (k : Nat) :
    numberAt offset (entry :: rest) (k + 1) = numberAt (offset + entry.2.elements.length) rest k := by
  rw [numberAt, numberAt, List.take_succ_cons, elementsOf, List.flatMap_cons, List.length_append,
    ← elementsOf]
  omega

theorem fragments_cons (offset : Nat) (entry : String × Value) (rest : List (String × Value)) :
    fragments offset (entry :: rest) =
      fragment entry.1 entry.2 (offset + 1) ::
        fragments (offset + entry.2.elements.length) rest := by
  unfold fragments
  rw [List.mapIdx_cons]
  simp only [numberAt_cons]
  rfl

theorem comparisons_eq (offset : Nat) (entries : List (String × Value)) :
    comparisons (offset + 1) entries = fragments offset entries := by
  induction entries generalizing offset with
  | nil => rfl
  | cons entry rest ih =>
    obtain ⟨column, value⟩ := entry
    rw [comparisons, text_ofValue_placeholders, fragments_cons, values_ofValue, Nat.add_right_comm,
      ih]

/-- The filter that conditions write when so many placeholders come before it. -/
def filterAfter (offset : Nat) (conditions : Row) : Query :=
  ⟨" AND ".intercalate (fragments offset conditions.entries), elementsOf conditions.entries⟩

theorem compileConditions_where (properties : Properties) (offset : Nat) (conditions : Row) :
    compileConditions properties
      { ConditionOptions.whereClause with offset := .past offset } conditions =
        pure (filterAfter offset conditions) := by
  have hoffset : (Offset.past offset).start = .ok (offset : Int) := rfl
  rw [compileConditions_of_writes rfl hoffset fun _ _ _ => rfl, comparisons_eq, boundBy_eq]
  rfl

/-! ## Values by their numbers -/

theorem numberAt_sub (offset : Nat) (entries : List (String × Value)) (k i : Nat) :
    numberAt offset entries k + i - offset - 1 = (elementsOf (entries.take k)).length + i := by
  rw [numberAt]
  omega

theorem getElem?_flatMap_take {α β : Type} {f : α → List β} {members : List α} {k i : Nat} {member : α}
    (hmember : members[k]? = some member) (hi : i < (f member).length) :
    (members.flatMap f)[((members.take k).flatMap f).length + i]? = (f member)[i]? := by
  obtain ⟨hk, rfl⟩ := List.getElem?_eq_some_iff.1 hmember
  have hsplit : members.flatMap f = (members.take k).flatMap f ++
      (f members[k] ++ (members.drop (k + 1)).flatMap f) := by
    conv_lhs => rw [← List.take_append_drop k members, List.drop_eq_getElem_cons hk]
    rw [List.flatMap_append, List.flatMap_cons]
  rw [hsplit, List.getElem?_append_right (Nat.le_add_right _ _), Nat.add_sub_cancel_left,
    List.getElem?_append_left hi]

theorem getElem?_elementsOf {entries : List (String × Value)} {k i : Nat} {entry : String × Value}
    (hentry : entries[k]? = some entry) (hi : i < entry.2.elements.length) :
    (elementsOf entries)[(elementsOf (entries.take k)).length + i]? = entry.2.elements[i]? :=
  getElem?_flatMap_take hentry hi

/-! ## Joined fragments -/

theorem slotsIn_fragments {separator : String} {c : Char}
    (hhead : separator.toList.head? = some c) (hbody : slotKind.body c = false)
    (hplain : '$' ∉ separator.toList) {entries : List (String × Value)}
    (hkeys : ∀ entry ∈ entries, '$' ∉ entry.1.toList) (offset : Nat) :
    slotsIn (separator.intercalate (fragments offset entries)) =
      numerals (offset + 1) (elementsOf entries).length := by
  rw [slotsIn_intercalate hhead hbody hplain, ← comparisons_eq, flatMap_slotsIn_comparisons hkeys,
    boundBy_eq]

/-- Options whose joiner neither holds a placeholder nor goes on with one. -/
structure ConditionOptions.Clear (options : ConditionOptions) : Prop where
  mode : options.mode = .placeholder
  plain : '$' ∉ options.separator.toList
  stops : options.spaceBefore = false →
    ∀ c, options.separator.toList.head? = some c → Text.isDigit c = false

namespace ConditionOptions.Clear

variable {options : ConditionOptions}

theorem consulted (h : options.Clear) (properties : Properties) :
    options.mode.consulted properties = Fields.empty := by
  rw [h.mode]
  rfl

theorem joiner_plain (h : options.Clear) : '$' ∉ options.joiner.toList := by
  have hplain := h.plain
  unfold joiner
  cases options.spaceBefore <;> simpa using hplain

theorem joiner_head (h : options.Clear) :
    ∃ c, options.joiner.toList.head? = some c ∧ slotKind.body c = false := by
  have hstops := h.stops
  unfold joiner
  cases hspace : options.spaceBefore with
  | true => exact ⟨' ', by simp, by decide⟩
  | false =>
    cases hchars : options.separator.toList with
    | nil => exact ⟨' ', by simp [hchars], by decide⟩
    | cons c rest => exact ⟨c, by simp [hchars], hstops hspace c (by rw [hchars]; rfl)⟩

theorem slotsIn_intercalate_fragments (h : options.Clear) {entries : List (String × Value)}
    (hkeys : ∀ entry ∈ entries, '$' ∉ entry.1.toList) (offset : Nat) :
    slotsIn (options.joiner.intercalate (fragments offset entries)) =
      numerals (offset + 1) (elementsOf entries).length := by
  obtain ⟨c, hhead, hbody⟩ := h.joiner_head
  exact slotsIn_fragments hhead hbody h.joiner_plain hkeys offset

end ConditionOptions.Clear

/-! ## Numbers that are written -/

theorem placeholder?_eq (n : Nat) :
    placeholder? n = if (Nat.toDigits 10 n).length ≤ 4300 then .ok (placeholder n)
      else .error .unwritableInteger := by
  rw [placeholder?, Int.natAbs_natCast]
  exact if_congr (Nat.length_toDigits_le_iff (by decide) (by decide)).symm rfl rfl

theorem slot_eq_or (offset : Offset) (n : Nat) :
    offset.slot n = .ok (placeholder n) ∨ offset.slot n = .error .unwritableInteger := by
  cases offset with
  | past => exact .inl rfl
  | given value =>
    rw [Offset.slot, placeholder?_eq]
    split
    · exact .inl rfl
    · exact .inr rfl

theorem writes_slot (offset : Offset) {start count : Nat}
    (h : ∀ n, start ≤ n → n < start + count → (Nat.toDigits 10 n).length ≤ 4300) :
    Writes offset.slot start count := by
  intro n hstart hend
  cases offset with
  | past => rfl
  | given value => rw [Offset.slot, placeholder?_eq, if_pos (h n hstart hend)]

section

variable {slot : Int → Except Error String} {error : Error} {start count bad : Nat}

theorem Writes.not_refused (h : Writes slot start count) (hbad : slot bad = .error error)
    (hstart : start ≤ bad) : start + count ≤ bad := by
  by_contra hlt
  rw [h bad hstart (Nat.not_le.1 hlt)] at hbad
  cases hbad

theorem expressions_refused
    (hslot : ∀ n : Nat, slot n = .ok (placeholder n) ∨ slot n = .error error)
    (hnot : ¬ Writes slot start count) (column : String) (source : Row) :
    Properties.expressions Fields.empty slot column source start count =
      Logged.ofExcept (.error error) := by
  induction count generalizing start with
  | zero => exact absurd (fun n hle hlt => absurd hle (Nat.not_le.2 hlt)) hnot
  | succ count ih =>
    unfold Properties.expressions
    rcases hslot start with hfirst | hfirst
    · have hrest : ¬ Writes slot (start + 1) count := by
        intro hrest
        apply hnot
        intro n hle hlt
        rcases Nat.eq_or_lt_of_le hle with rfl | hle
        · exact hfirst
        · exact hrest n hle (by omega)
      rw [hfirst, ← Int.natCast_succ, ih hrest]
      rfl
    · rw [hfirst]
      rfl

theorem compileEntries_refused
    (hslot : ∀ n : Nat, slot n = .ok (placeholder n) ∨ slot n = .error error)
    (hbad : slot bad = .error error) {entries : List (String × Value)} (hstart : start ≤ bad)
    (hend : bad < start + (boundBy entries).length) (source : Row) :
    compileEntries Fields.empty slot source start entries = Logged.ofExcept (.error error) := by
  induction entries generalizing start with
  | nil => exact absurd hend (Nat.not_lt.2 hstart)
  | cons entry rest ih =>
    obtain ⟨column, value⟩ := entry
    rw [boundBy_cons, List.length_append] at hend
    unfold compileEntries
    dsimp only at hend ⊢
    by_cases hfirst : Writes slot start (Condition.ofValue value).values.length
    · rw [expressions_of_writes hfirst, ← Int.natCast_add,
        ih (hfirst.not_refused hbad hstart) (by omega)]
      rfl
    · rw [expressions_refused hslot hfirst]
      rfl

end

/-! ## Compiled conditions -/

section

variable {options : ConditionOptions} {offset : Nat} {conditions : Row}

theorem compileConditions_refused (properties : Properties) (hclear : options.Clear)
    (hoffset : options.offset = .given (.int offset)) (hbound : elementsOf conditions.entries ≠ [])
    (hlarge : 4300 <
      (Nat.toDigits 10 (offset + (elementsOf conditions.entries).length)).length) :
    compileConditions properties options conditions =
      Logged.ofExcept (.error .unwritableInteger) := by
  have hlength := List.length_pos_iff.2 hbound
  have hlast : options.offset.slot ((offset + (elementsOf conditions.entries).length : Nat) : Int) =
      .error .unwritableInteger := by
    rw [hoffset, Offset.slot, placeholder?_eq, if_neg (Nat.not_le.2 hlarge)]
  have hstart : options.offset.start = .ok (offset : Int) := by rw [hoffset, Offset.start]
  rw [← boundBy_eq] at hlength hlast
  rw [compileConditions_of_start (hclear.consulted properties) hstart,
    compileEntries_refused (slot_eq_or options.offset) hlast (by omega) (by omega)]
  rfl

/-- The placeholders of compiled conditions are numbered from one past the offset on, and each number
stands for one element of its column. Numbers of more than 4300 digits are not written. -/
theorem compileConditions_numbers (properties : Properties) (hclear : options.Clear)
    (hoffset : options.offset.start = .ok (offset : Int))
    (hkeys : ∀ name ∈ conditions.keys, '$' ∉ name.toList)
    (hwritten : elementsOf conditions.entries = [] ∨
      (Nat.toDigits 10 (offset + (elementsOf conditions.entries).length)).length ≤ 4300) :
    ∃ query, compileConditions properties options conditions = pure query ∧
      query.text = options.joiner.intercalate (fragments offset conditions.entries) ∧
      query.values = elementsOf conditions.entries ∧
      query.placeholderIndices = .ok (List.range' (offset + 1) query.values.length) ∧
      ∀ k entry, conditions.entries[k]? = some entry → ∀ i, i < entry.2.elements.length →
        query.values[numberAt offset conditions.entries k + i - offset - 1]? =
          entry.2.elements[i]? := by
  have hsmall : ∀ n, offset + 1 ≤ n →
      n < offset + 1 + (elementsOf conditions.entries).length →
        (Nat.toDigits 10 n).length ≤ 4300 := by
    intro n hstart hend
    rcases hwritten with hnil | hlast
    · rw [hnil, List.length_nil] at hend
      omega
    · exact Nat.le_trans (length_toDigits_mono (by omega)) hlast
  have hcompiled := compileConditions_of_writes (hclear.consulted properties) hoffset
    (writes_slot options.offset (by rwa [boundBy_eq]))
  rw [boundBy_eq, comparisons_eq] at hcompiled
  refine ⟨_, hcompiled, rfl, rfl, ?_, fun k entry hentry i hi => ?_⟩
  · have hslots := hclear.slotsIn_intercalate_fragments
      (fun entry hentry => hkeys _ (List.mem_map_of_mem hentry)) offset
    show (slotsIn _).mapM slotNumber = _
    rw [hslots, numerals]
    apply mapM_slotNumber
    intro n hn
    obtain ⟨hstart, hend⟩ := List.mem_range'_1.1 hn
    exact hsmall n hstart hend
  · rw [numberAt_sub]
    exact getElem?_elementsOf hentry hi

end

theorem compileConditions_numbers_or :
    let options : ConditionOptions :=
      { separator := "|", spaceBefore := false, offset := .given (.int 9) }
    let conditions : Row := ((Fields.empty.insert "a" (.list [.int 7, .text "$1"])).insert
      "b" (.tuple [])).insert "3" .null
    ∃ query, compileConditions Fields.empty options conditions = pure query ∧
      query.text = "a IN ($10, $11)| b IN ()| 3 = $12" ∧
      query.values = [.int 7, .text "$1", .null] ∧ query.placeholderIndices = .ok [10, 11, 12] := by
  intro options conditions
  have hclear : options.Clear := ⟨rfl, by decide, by simp [options]; decide⟩
  have hoffset : options.offset.start = .ok ((9 : Nat) : Int) := rfl
  have hkeys : ∀ name ∈ conditions.keys, '$' ∉ name.toList := by decide
  obtain ⟨query, hcompiled, htext, hvalues, hindices, -⟩ :=
    compileConditions_numbers Fields.empty hclear hoffset hkeys (.inr (by decide))
  refine ⟨query, hcompiled, by rw [htext]; decide, hvalues, ?_⟩
  rw [hindices, hvalues]
  rfl

/-- An offset that is written itself may leave no number for a value. -/
theorem compileConditions_out_of_numbers :
    let options : ConditionOptions := { offset := .given (.int (Nat.pow 10 4300 - 1 : Nat)) }
    let conditions : Row := Fields.empty.insert "a" (.int 1)
    options.Clear ∧ (∀ name ∈ conditions.keys, '$' ∉ name.toList) ∧
      (compileConditions Fields.empty options conditions).outcome =
        .error .unwritableInteger := by
  intro options conditions
  have hclear : options.Clear := by
    refine ⟨rfl, by decide, ?_⟩
    intro hspace
    cases hspace
  have hbound : elementsOf conditions.entries = [.int 1] := rfl
  have hne : elementsOf conditions.entries ≠ [] := List.cons_ne_nil _ _
  have hdigits : ∀ digits, 0 < digits → digits <
      (Nat.toDigits 10 (Nat.pow 10 digits - 1 + (elementsOf conditions.entries).length)).length := by
    intro digits hpos
    have hpow : 0 < Nat.pow 10 digits := Nat.pow_pos (by decide)
    rw [hbound, List.length_singleton, Nat.sub_add_cancel hpow, ← Nat.not_le,
      Nat.length_toDigits_le_iff (by decide) hpos]
    exact Nat.lt_irrefl _
  exact ⟨hclear, by decide, congrArg Logged.outcome
    (compileConditions_refused Fields.empty hclear rfl hne (hdigits 4300 (by decide)))⟩

end ParamSql
