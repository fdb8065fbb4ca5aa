import ParamSql.Proofs.PropertyCalls

/-!
# Layout of insertions

The columns of an insertion are the names of its records in the order in which they first appear. The
cells are numbered record by record, without a gap, and the value of each cell stands at its number.
-/

namespace ParamSql

open Sql Properties TokenKind

/-! ## Columns -/

theorem firstSeen_unifiedColumns (records : List Row) :
    FirstSeen (unifiedColumns records) (records.flatMap Fields.keys) :=
  firstSeen_eraseDups _

/-! ## Cells by record and column -/

section

variable {properties : Properties} {columns : List String} {records : List Row}

theorem exists_of_getElem?_insertedCells {k : Nat} {cell : Cell}
    (hcell : (insertedCells columns records)[k]? = some cell) :
    ∃ i j record column, records[i]? = some record ∧ columns[j]? = some column ∧
      k = i * columns.length + j ∧ cell = ⟨column, record, (record.get? column).getD .null⟩ := by
  have hk := (List.getElem?_eq_some_iff.1 hcell).1
  rw [length_insertedCells] at hk
  have hwidth : 0 < columns.length := Nat.pos_of_mul_pos_left (Nat.zero_lt_of_lt hk)
  have hi : k / columns.length < records.length := (Nat.div_lt_iff_lt_mul hwidth).2 hk
  have hj : k % columns.length < columns.length := Nat.mod_lt k hwidth
  have hposition : k = k / columns.length * columns.length + k % columns.length :=
    (Nat.div_add_mod' k columns.length).symm
  have hrecord := List.getElem?_eq_getElem hi
  have hcolumn := List.getElem?_eq_getElem hj
  refine ⟨_, _, _, _, hrecord, hcolumn, hposition, ?_⟩
  rw [hposition, getElem?_insertedCells hrecord hcolumn] at hcell
  exact (Option.some.inj hcell).symm

/-- The expressions of each record and column answer for the cells that are numbered row by row. -/
def AnsweredByRow (properties : Properties) (columns : List String) (records : List Row)
    (expressions : Nat → Nat → String) : Prop :=
  ∀ i j record column, records[i]? = some record → columns[j]? = some column →
    properties.answer ⟨column, record, (record.get? column).getD .null⟩
      (i * columns.length + j + 1) = .ok (expressions i j)

theorem Properties.Answered.byRow {expressions : Nat → String}
    (h : properties.Answered 1 (insertedCells columns records) expressions) :
    AnsweredByRow properties columns records
      fun i j => expressions (i * columns.length + j + 1) := by
  intro i j record column hrecord hcolumn
  have hcell := h _ _ (getElem?_insertedCells hrecord hcolumn)
  rwa [Nat.add_comm 1] at hcell

/-- An expression for each number, from one for each row and column. -/
def numberedByRow (width : Nat) (expressions : Nat → Nat → String) (n : Nat) : String :=
  expressions ((n - 1) / width) ((n - 1) % width)

theorem numberedByRow_eq {width i j : Nat} (hj : j < width) (expressions : Nat → Nat → String) :
    numberedByRow width expressions (i * width + j + 1) = expressions i j := by
  have hwidth : 0 < width := Nat.zero_lt_of_lt hj
  unfold numberedByRow
  rw [Nat.add_sub_cancel, Nat.mul_comm, Nat.mul_add_div hwidth, Nat.div_eq_of_lt hj, Nat.add_zero,
    Nat.mul_add_mod, Nat.mod_eq_of_lt hj]

theorem AnsweredByRow.answered {expressions : Nat → Nat → String}
    (h : AnsweredByRow properties columns records expressions) :
    properties.Answered 1 (insertedCells columns records)
      (numberedByRow columns.length expressions) := by
  intro k cell hcell
  obtain ⟨i, j, record, column, hrecord, hcolumn, rfl, rfl⟩ :=
    exists_of_getElem?_insertedCells hcell
  have hj := (List.getElem?_eq_some_iff.1 hcolumn).1
  rw [Nat.add_comm 1, numberedByRow_eq hj]
  exact h i j record column hrecord hcolumn

end

/-! ## Groups -/

/-- One group for each record, of one expression for each column. -/
def groupsByRow (expressions : Nat → Nat → String) (width count : Nat) : List String :=
  (List.range count).map fun i => "(" ++ ", ".intercalate ((List.range width).map (expressions i)) ++ ")"

theorem groups_eq_groupsByRow (expressions : Nat → String) (width count : Nat) :
    groups expressions 1 width count =
      groupsByRow (fun i j => expressions (i * width + j + 1)) width count := by
  unfold groups groupsByRow group
  simp only [List.range'_eq_map_range, List.map_map, Function.comp_def]
  simp only [Nat.add_comm 1, Nat.add_right_comm]

/-! ## The layout -/

/-- A query that inserts records: a group of expressions for each, and for each cell a value, row by
row. -/
structure InsertLayout (table : Table) (records : List Row) (expressions : Nat → Nat → String)
    (query : Query) : Prop where
  text : query.text = insertText table (unifiedColumns records)
    (groupsByRow expressions (unifiedColumns records).length records.length)
  length : query.values.length = records.length * (unifiedColumns records).length
  values : ∀ i j record column, records[i]? = some record →
    (unifiedColumns records)[j]? = some column →
      query.values[i * (unifiedColumns records).length + j]? =
        some ((record.get? column).getD .null)

theorem insertLayout_written (table : Table) {given : GivenRecords} {records : List Row}
    (hgives : given.Gives records) (expressions : Nat → String) :
    InsertLayout table records
      (fun i j => expressions (i * (unifiedColumns records).length + j + 1))
      ((Statement.insert given).written table expressions) := by
  rw [Statement.written_insert hgives, ← map_value_insertedCells]
  refine ⟨?_, ?_, fun i j record column hrecord hcolumn => ?_⟩
  · rw [groups_eq_groupsByRow]
  · rw [List.length_map, length_insertedCells]
  · rw [List.getElem?_map, getElem?_insertedCells hrecord hcolumn]
    rfl

theorem InsertLayout.congr {table : Table} {records : List Row} {expressions others : Nat → Nat → String}
    {query : Query} (h : InsertLayout table records expressions query)
    (hsame : ∀ i j, j < (unifiedColumns records).length → expressions i j = others i j) :
    InsertLayout table records others query where
  text := by
    have hgroups : groupsByRow expressions (unifiedColumns records).length records.length =
        groupsByRow others (unifiedColumns records).length records.length := by
      unfold groupsByRow
      refine List.map_congr_left fun i _ => ?_
      rw [List.map_congr_left fun j hj => hsame i j (List.mem_range.1 hj)]
    rw [h.text, hgroups]
  length := h.length
  values := h.values

theorem slotsIn_insertText {table : Table} {columns : List String}
    (htable : '$' ∉ table.qualifiedName.toList)
    (hcolumns : ∀ column ∈ columns, '$' ∉ column.toList) (count : Nat) :
    slotsIn (insertText table columns (groupTexts columns.length 1 count)) =
      numerals 1 (count * columns.length) := by
  have hjoined : '$' ∉ (", ".intercalate columns).toList :=
    not_mem_intercalate (by decide) hcolumns
  have hopening : '$' ∉ ("INSERT INTO " ++ table.qualifiedName ++ " (" ++ ", ".intercalate columns
      ++ ") VALUES ").toList := by
    simp only [String.toList_append, List.mem_append, not_or]
    exact ⟨⟨⟨⟨by decide, htable⟩, by decide⟩, hjoined⟩, by decide⟩
  unfold insertText
  rw [slotsIn_returning, slotsIn_append_of_not_mem hopening,
    slotsIn_intercalate rfl (by decide) (by decide), flatMap_slotsIn_groupTexts]

section

variable {properties : Properties} {given : GivenRecords} {records : List Row}

theorem insertLayout_of_outcome {table : Table} (hgives : given.Gives records) (hne : records ≠ [])
    {query : Query}
    (hquery : ((Statement.insert given).query table properties).outcome = .ok query) :
    ∃ expressions, AnsweredByRow properties (unifiedColumns records) records expressions ∧
      InsertLayout table records expressions query := by
  have hpresent : (Statement.insert given).Present := ⟨_, hne, hgives⟩
  have hrenders := Statement.renders table properties hpresent
  obtain ⟨expressions, hall, rfl⟩ := (hrenders.outcome_eq_ok_iff query).1 hquery
  rw [Statement.cells_insert hgives] at hall
  exact ⟨_, hall.byRow, insertLayout_written table hgives expressions⟩

theorem outcome_of_answeredByRow (table : Table) (hgives : given.Gives records)
    (hne : records ≠ []) {expressions : Nat → Nat → String}
    (h : AnsweredByRow properties (unifiedColumns records) records expressions) :
    ∃ query, ((Statement.insert given).query table properties).outcome = .ok query ∧
      InsertLayout table records expressions query := by
  have hpresent : (Statement.insert given).Present := ⟨_, hne, hgives⟩
  have hrenders := Statement.renders table properties hpresent
  have hall := h.answered
  rw [← Statement.cells_insert hgives] at hall
  refine ⟨_, (hrenders.outcome_eq_ok_iff _).2 ⟨_, hall, rfl⟩, ?_⟩
  apply (insertLayout_written table hgives _).congr
  intro i j hj
  exact numberedByRow_eq hj expressions

theorem outcome_of_no_properties (table : Table) (hgives : given.Gives records)
    (hne : records ≠ []) :
    ((Statement.insert given).query table Fields.empty).outcome =
      .ok ⟨insertText table (unifiedColumns records)
        (groupTexts (unifiedColumns records).length 1 records.length),
        records.flatMap (recordValues (unifiedColumns records))⟩ := by
  dsimp only [Statement.query]
  rw [presentRecords_of_gives hgives]
  exact congrArg Logged.outcome (insertQuery_of_no_properties table hne)

end

/-- The columns of an insertion are seen in the order of its records, be it one record or a list. If no
property refuses, there is a group of expressions for each record, in which the `j`-th is made of the
placeholder that is numbered row by row, and the value for it stands at that number. Without
properties, and without a dollar sign in a name, these are the only placeholders. Numbers of more than
4300 digits are not read. An insertion of no records is refused. -/
theorem insertion_layout (table : Table) (properties : Properties) (given : GivenRecords)
    (records : List Row) (hgives : given.Gives records) :
    let statement := Statement.insert given
    let columns := unifiedColumns records
    FirstSeen columns (records.flatMap Fields.keys) ∧
    (records ≠ [] →
      (∀ query, (statement.query table properties).outcome = .ok query →
        ∃ expressions, AnsweredByRow properties columns records expressions ∧
          InsertLayout table records expressions query) ∧
      (∀ expressions, AnsweredByRow properties columns records expressions →
        ∃ query, (statement.query table properties).outcome = .ok query ∧
          InsertLayout table records expressions query) ∧
      ('$' ∉ table.schema.toList → '$' ∉ table.name.toList →
        (∀ column ∈ columns, '$' ∉ column.toList) →
          ∃ query, (statement.query table Fields.empty).outcome = .ok query ∧
            query.slots = numerals 1 (records.length * columns.length) ∧
            ((Nat.toDigits 10 (records.length * columns.length)).length ≤ 4300 →
              query.placeholderIndices =
                .ok (List.range' 1 (records.length * columns.length))))) ∧
    (records = [] →
      statement.query table properties = ⟨[], .error (.emptyInsert table.qualifiedName)⟩) := by
  intro statement columns
  refine ⟨firstSeen_unifiedColumns records, fun hne =>
    ⟨fun query => insertLayout_of_outcome hgives hne,
      fun expressions => outcome_of_answeredByRow table hgives hne,
      fun hschema hname hcolumns => ?_⟩, ?_⟩
  · have hslots := slotsIn_insertText (not_mem_qualifiedName hschema hname (by decide)) hcolumns
      records.length
    have hlength := length_flatMap_recordValues columns records
    refine ⟨_, outcome_of_no_properties table hgives hne, hslots, fun hdigits => ?_⟩
    rw [← hlength] at hslots hdigits ⊢
    exact placeholderIndices_of_numerals hslots hdigits
  · rintro rfl
    dsimp only [statement, Statement.query]
    rw [presentRecords_of_gives hgives]
    rfl

theorem insertion_layout_gaps :
    let records : List Row :=
      [(Fields.empty.insert "b" (.int 1)).insert "a" (.list [.int 2, .int 3]),
        Fields.empty.insert "c" (.text "$9")]
    let table : Table := ⟨"app", "users"⟩
    ∃ query, ((Statement.insert (.list (records.map some))).query table Fields.empty).outcome =
        .ok query ∧
      query.text = "INSERT INTO app.users (b, a, c) VALUES ($1, $2, $3), ($4, $5, $6) RETURNING *" ∧
      query.values = [.int 1, .list [.int 2, .int 3], .null, .null, .null, .text "$9"] ∧
      query.placeholderIndices = .ok [1, 2, 3, 4, 5, 6] := by
  intro records table
  obtain ⟨-, hlayout, -⟩ :=
    insertion_layout table Fields.empty (.list (records.map some)) records rfl
  obtain ⟨-, -, hplain⟩ := hlayout (List.cons_ne_nil _ _)
  obtain ⟨query, hquery, -, hindices⟩ := hplain (by decide) (by decide) (by decide)
  have hcompiled : ((Statement.insert (.list (records.map some))).query table Fields.empty).outcome =
      .ok ⟨"INSERT INTO app.users (b, a, c) VALUES ($1, $2, $3), ($4, $5, $6) RETURNING *",
        [.int 1, .list [.int 2, .int 3], .null, .null, .null, .text "$9"]⟩ := rfl
  obtain rfl := Except.ok.inj (hcompiled.symm.trans hquery)
  exact ⟨_, hquery, rfl, rfl, hindices (by decide)⟩

end ParamSql
