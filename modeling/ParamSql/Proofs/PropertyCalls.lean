import ParamSql.Proofs.Cells
import ParamSql.Proofs.Mappings

/-!
# Calls of properties

An insertion calls the properties record by record and column by column, an update element by element
of its assignments. Nothing else calls one.
-/

namespace ParamSql

open Properties

/-! ## One cell -/

theorem expression_eq (properties : Properties) (cell : Cell) (number : Nat) :
    properties.expression cell.column cell.source (placeholder number) =
      ⟨properties.calls number [cell], properties.answer cell number⟩ := by
  unfold expression answer calls call?
  simp only [List.zipIdx_cons, List.zipIdx_nil, List.filterMap_cons, List.filterMap_nil]
  cases properties.property? cell.column with
  | none => rfl
  | some property => rfl

theorem renders_expression (properties : Properties) (cell : Cell) (number : Nat) :
    Renders properties number [cell]
      (properties.expression cell.column cell.source (placeholder number))
      fun expressions => expressions number where
  answered expressions h := by
    have hcell : properties.answer cell number = .ok (expressions number) := h 0 cell rfl
    rw [expression_eq, hcell]
  refused k error h := by
    obtain ⟨-, refused, hrefused, hanswer⟩ := h
    obtain ⟨rfl, rfl⟩ : k = 0 ∧ cell = refused := by cases k <;> simp_all
    have hcell : properties.answer cell number = .error error := hanswer
    rw [expression_eq, hcell]
    rfl

/-! ## Assignments -/

variable (properties : Properties) {slot : Int → Except Error String}

theorem renders_expressions (hslot : ∀ n : Nat, slot n = .ok (placeholder n)) (column : String)
    (source : Row) (values : List Value) (number : Nat) :
    Renders properties number (values.map fun value => ⟨column, source, value⟩)
      (properties.expressions slot column source number values.length)
      fun expressions => (List.range' number values.length).map expressions := by
  induction values generalizing number with
  | nil => exact .pure []
  | cons value values ih =>
    have hseq := (renders_expression properties ⟨column, source, value⟩ number).seq
      (ih (number + 1)) List.cons
    rw [List.length_cons]
    unfold Properties.expressions
    rw [hslot number, ← Int.natCast_succ]
    exact hseq

/-- The cells that some entries of an update write, one for each element. -/
def assignedCells (source : Row) (entries : List (String × Value)) : List Cell :=
  entries.flatMap fun entry => entry.2.elements.map fun element => ⟨entry.1, source, element⟩

/-- What a column is assigned, where the first of its expressions has the number `n`. -/
def assignment (expressions : Nat → String) (column : String) (value : Value) (n : Nat) : String :=
  match value.shape with
  | none => column ++ " = " ++ expressions n
  | some count =>
    column ++ " IN (" ++ ", ".intercalate ((List.range' n count).map expressions) ++ ")"

/-- One assignment for each entry, in their order. -/
def assignmentTexts (expressions : Nat → String) (offset : Nat) (entries : List (String × Value)) :
    List String :=
  entries.mapIdx fun k entry => assignment expressions entry.1 entry.2 (numberAt offset entries k)

theorem text_ofValue_expressions (expressions : Nat → String) (column : String) (value : Value)
    (n : Nat) :
    (Condition.ofValue value).text column ((List.range' n value.elements.length).map expressions) =
      assignment expressions column value n := by
  rw [text_ofValue, length_elements, assignment]
  cases value.shape with
  | none => simp
  | some count => simp

theorem map_placeholder_range' (n count : Nat) :
    ((List.range' n count).map fun m : Nat => placeholder m) = placeholders n count := by
  unfold placeholders
  simp [List.range'_eq_map_range, Function.comp_def]

theorem assignment_placeholder (column : String) (value : Value) (n : Nat) :
    assignment (fun m : Nat => placeholder m) column value n = fragment column value n := by
  unfold assignment fragment
  cases value.shape with
  | none => rfl
  | some count =>
    dsimp only
    rw [map_placeholder_range', intercalate_placeholders]

theorem assignmentTexts_placeholder (offset : Nat) (entries : List (String × Value)) :
    assignmentTexts (fun n : Nat => placeholder n) offset entries = fragments offset entries := by
  unfold assignmentTexts fragments
  simp only [assignment_placeholder]

theorem assignmentTexts_cons (expressions : Nat → String) (offset : Nat) (entry : String × Value)
    (rest : List (String × Value)) :
    assignmentTexts expressions offset (entry :: rest) =
      assignment expressions entry.1 entry.2 (offset + 1) ::
        assignmentTexts expressions (offset + entry.2.elements.length) rest := by
  unfold assignmentTexts
  rw [List.mapIdx_cons]
  simp only [numberAt_cons]
  rfl

theorem renders_compileEntries (hslot : ∀ n : Nat, slot n = .ok (placeholder n)) (source : Row)
    (entries : List (String × Value)) (offset : Nat) :
    Renders properties (offset + 1) (assignedCells source entries)
      (compileEntries properties slot source (offset + 1 : Nat) entries)
      fun expressions => (assignmentTexts expressions offset entries, elementsOf entries) := by
  induction entries generalizing offset with
  | nil => exact .pure ([], [])
  | cons entry rest ih =>
    obtain ⟨column, value⟩ := entry
    have hfirst := renders_expressions properties hslot column source value.elements
      (offset + 1)
    have hrest := ih (offset + value.elements.length)
    rw [Nat.add_right_comm] at hrest
    have hseq := hfirst.seq (by rwa [List.length_map])
      fun expressions (compiled : List String × List Value) =>
        ((Condition.ofValue value).text column expressions :: compiled.1,
          value.elements ++ compiled.2)
    simp only [text_ofValue_expressions] at hseq
    simp only [assignmentTexts_cons]
    unfold compileEntries
    dsimp only
    rw [values_ofValue, ← Int.natCast_add]
    exact hseq

/-! ## Insertions -/

/-- The cells of one record: null where it lacks a column. -/
def recordCells (columns : List String) (record : Row) : List Cell :=
  columns.map fun column => ⟨column, record, (record.get? column).getD .null⟩

/-- The cells of some records, one record after the other. -/
def insertedCells (columns : List String) (records : List Row) : List Cell :=
  records.flatMap (recordCells columns)

/-- The expressions of `width` numbers from `n` on. -/
def group (expressions : Nat → String) (n width : Nat) : String :=
  "(" ++ ", ".intercalate ((List.range' n width).map expressions) ++ ")"

/-- So many groups, numbered from `n` on without a gap. -/
def groups (expressions : Nat → String) (n width count : Nat) : List String :=
  (List.range count).map fun i => group expressions (n + i * width) width

theorem groups_succ (expressions : Nat → String) (n width count : Nat) :
    groups expressions n width (count + 1) =
      group expressions n width :: groups expressions (n + width) width count := by
  unfold groups
  rw [List.range_succ_eq_map, List.map_cons, List.map_map, Nat.zero_mul, Nat.add_zero]
  congr 1
  apply List.map_congr_left
  intro i _
  rw [Function.comp_apply, Nat.succ_mul, Nat.add_assoc, Nat.add_comm width]

theorem renders_recordExpressions (record : Row) (columns : List String) (number : Nat) :
    Renders properties number (recordCells columns record)
      (recordExpressions properties record number columns)
      fun expressions => (List.range' number columns.length).map expressions := by
  induction columns generalizing number with
  | nil => exact .pure []
  | cons column columns ih =>
    exact (renders_expression properties ⟨column, record, _⟩ number).seq (ih (number + 1)) List.cons

theorem renders_insertGroups (columns : List String) (records : List Row) (number : Nat) :
    Renders properties number (insertedCells columns records)
      (insertGroups properties columns number records)
      fun expressions => groups expressions number columns.length records.length := by
  induction records generalizing number with
  | nil => exact .pure []
  | cons record records ih =>
    have hrest := ih (number + columns.length)
    have hseq := (renders_recordExpressions properties record columns number).seq
      (by rwa [recordCells, List.length_map]) fun expressions groups =>
        ("(" ++ ", ".intercalate expressions ++ ")") :: groups
    simp only [List.length_cons, groups_succ]
    exact hseq

/-! ## Closed forms of statements -/

/-- The records that are not absent. -/
def GivenRecords.rows (given : GivenRecords) : List Row := (given.items?.getD []).reduceOption

namespace Statement

/-- The cells that a statement writes, in the order of their numbers. -/
def cells : Statement → List Cell
  | insert given => insertedCells (unifiedColumns given.rows) given.rows
  | update assignments _ => assignedCells assignments assignments.entries
  | _ => []

/-- An insertion has no conditions. -/
def conditions : Statement → Row
  | select conditions => conditions
  | count conditions => conditions
  | insert _ => Fields.empty
  | update _ conditions => conditions
  | delete conditions => conditions

/-- The text up to the where clause, with the expressions of the cells by their numbers. -/
def opening (table : Table) (expressions : Nat → String) : Statement → String
  | select _ => "SELECT * FROM " ++ table.fromClause
  | count _ => "SELECT COUNT(*) as count FROM " ++ table.fromClause
  | insert given =>
    let columns := unifiedColumns given.rows
    insertText table columns (groups expressions 1 columns.length given.rows.length)
  | update assignments _ => "UPDATE " ++ table.qualifiedName ++ " SET "
    ++ ", ".intercalate (assignmentTexts expressions 0 assignments.entries)
  | delete _ => "DELETE FROM " ++ table.qualifiedName

/-- The text after the where clause. -/
def closing : Statement → String
  | update _ _ => " RETURNING *"
  | delete _ => " RETURNING *"
  | _ => ""

/-- The query of a statement whose cells write these expressions. -/
def written (table : Table) (statement : Statement) (expressions : Nat → String) : Query :=
  let bound := statement.cells.map Cell.value
  let filter := filterAfter bound.length statement.conditions
  ⟨appendWhere (statement.opening table expressions) filter ++ statement.closing,
    bound ++ filter.values⟩

end Statement

theorem map_value_assignedCells (source : Row) (entries : List (String × Value)) :
    (assignedCells source entries).map Cell.value = elementsOf entries := by
  unfold assignedCells elementsOf
  simp [List.map_flatMap, Function.comp_def]

theorem map_value_insertedCells (columns : List String) (records : List Row) :
    (insertedCells columns records).map Cell.value = records.flatMap (recordValues columns) := by
  unfold insertedCells recordCells recordValues
  simp [List.map_flatMap, Function.comp_def]

theorem length_insertedCells (columns : List String) (records : List Row) :
    (insertedCells columns records).length = records.length * columns.length := by
  rw [← List.length_map (f := Cell.value), map_value_insertedCells, length_flatMap_recordValues]

theorem filtered_eq (text : String) (conditions : Row) :
    filtered text conditions =
      pure ⟨appendWhere text (filterAfter 0 conditions), elementsOf conditions.entries⟩ := by
  have hclause := compileConditions_where Fields.empty 0 conditions
  unfold filtered
  rw [show ConditionOptions.whereClause =
    { ConditionOptions.whereClause with offset := .past 0 } from rfl, hclause]
  rfl

theorem renders_setList (properties : Properties) (assignments : Row) :
    Renders properties 1 (assignedCells assignments assignments.entries)
      (compileConditions properties .setList assignments)
      fun expressions => ⟨", ".intercalate (assignmentTexts expressions 0 assignments.entries),
        elementsOf assignments.entries⟩ := by
  have hslot : ∀ n : Nat, (Offset.past 0).slot n = .ok (placeholder n) := fun _ => rfl
  have hentries := renders_compileEntries properties hslot assignments assignments.entries 0
  have hmap := hentries.map fun compiled => (⟨", ".intercalate compiled.1, compiled.2⟩ : Query)
  unfold compileConditions
  split
  · next hempty =>
    have hnil : assignments.entries = [] := List.isEmpty_iff.1 hempty
    rw [hnil] at hmap ⊢
    exact hmap
  · exact hmap

theorem renders_updateQuery (table : Table) (properties : Properties) (assignments conditions : Row) :
    Renders properties 1 (assignedCells assignments assignments.entries)
      (updateQuery table properties assignments conditions)
      ((Statement.update assignments conditions).written table) := by
  have hset := (renders_setList properties assignments).map fun set =>
    let filter := filterAfter set.values.length conditions
    (⟨appendWhere ("UPDATE " ++ table.qualifiedName ++ " SET " ++ set.text) filter ++ " RETURNING *",
      set.values ++ filter.values⟩ : Query)
  have hvalues := map_value_assignedCells assignments assignments.entries
  unfold updateQuery Statement.written Statement.cells
  dsimp only
  simp only [compileConditions_where, hvalues]
  exact hset

theorem renders_insertQuery (table : Table) (properties : Properties) {records : List Row}
    (hne : records ≠ []) :
    let columns := unifiedColumns records
    Renders properties 1 (insertedCells columns records) (insertQuery table properties records)
      fun expressions => ⟨insertText table columns
        (groups expressions 1 columns.length records.length),
        records.flatMap (recordValues columns)⟩ := by
  intro columns
  unfold insertQuery
  rw [if_neg (by simpa using hne)]
  exact (renders_insertGroups properties columns records 1).map fun groups =>
    (⟨insertText table columns groups, records.flatMap (recordValues columns)⟩ : Query)

section Given

variable {given : GivenRecords} {records : List Row}

theorem rows_of_gives (h : given.Gives records) : given.rows = records := by
  unfold GivenRecords.rows
  rw [h, Option.getD_some]
  show (records.map some).filterMap id = records
  rw [List.filterMap_map]
  exact List.filterMap_some

theorem gives_of_presentRecords (h : presentRecords given = .ok records) : given.Gives records := by
  unfold presentRecords at h
  unfold GivenRecords.Gives
  generalize given.items? = items? at h
  rcases items? with _ | items
  · cases h
  have hmapM : items.mapM required = .ok records := h
  clear h
  congr 1
  induction items generalizing records with
  | nil =>
    cases hmapM
    rfl
  | cons record items ih =>
    rw [List.mapM_cons] at hmapM
    rcases record with _ | record
    · cases hmapM
    · cases hrest : items.mapM required with
      | error error =>
        rw [hrest] at hmapM
        cases hmapM
      | ok others =>
        rw [hrest] at hmapM
        cases hmapM
        rw [ih hrest]
        rfl

namespace Statement

theorem cells_insert (h : given.Gives records) :
    (insert given).cells = insertedCells (unifiedColumns records) records := by
  unfold cells
  dsimp only
  rw [rows_of_gives h]

theorem written_insert (h : given.Gives records) (table : Table) (expressions : Nat → String) :
    (insert given).written table expressions =
      ⟨insertText table (unifiedColumns records)
        (groups expressions 1 (unifiedColumns records).length records.length),
        records.flatMap (recordValues (unifiedColumns records))⟩ := by
  unfold written opening
  dsimp only
  rw [cells_insert h, rows_of_gives h, map_value_insertedCells]
  congr 1
  · exact String.append_empty
  · exact List.append_nil _

end Statement

end Given

namespace Statement

theorem renders (table : Table) (properties : Properties) {statement : Statement}
    (hpresent : statement.Present) :
    Renders properties 1 statement.cells (statement.query table properties)
      (statement.written table) := by
  cases statement with
  | select conditions =>
    dsimp only [query]
    rw [filtered_eq, ← String.append_empty (s := appendWhere _ _)]
    exact .pure _
  | count conditions =>
    dsimp only [query]
    rw [filtered_eq, ← String.append_empty (s := appendWhere _ _)]
    exact .pure _
  | insert given =>
    obtain ⟨records, hne, hgives⟩ := hpresent
    have hquery := renders_insertQuery table properties hne
    simp only [← written_insert hgives] at hquery
    rw [cells_insert hgives]
    dsimp only [query]
    rw [presentRecords_of_gives hgives]
    exact hquery
  | update assignments conditions => exact renders_updateQuery table properties assignments conditions
  | delete conditions =>
    dsimp only [query]
    rw [filtered_eq]
    exact .pure _

theorem query_of_no_properties (table : Table) {statement : Statement}
    (hpresent : statement.Present) :
    statement.query table Fields.empty = pure (statement.written table fun n => placeholder n) := by
  rw [(statement.renders table Fields.empty hpresent).answered _ (answered_empty 1 _), calls_empty]
  rfl

theorem refused_of_absent (table : Table) (properties : Properties) {statement : Statement}
    (habsent : ¬ statement.Present) :
    ∃ error, statement.query table properties = ⟨[], .error error⟩ := by
  cases statement with
  | insert given =>
    dsimp only [query]
    cases hrecords : presentRecords given with
    | error error => exact ⟨error, rfl⟩
    | ok records =>
      rcases records with _ | ⟨record, records⟩
      · exact ⟨.emptyInsert table.qualifiedName, rfl⟩
      · exact absurd ⟨_, List.cons_ne_nil record records, gives_of_presentRecords hrecords⟩ habsent
  | _ => exact absurd trivial habsent

end Statement

/-! ## Positions -/

theorem getElem?_insertedCells {columns : List String} {records : List Row} {i j : Nat}
    {record : Row} {column : String} (hrecord : records[i]? = some record)
    (hcolumn : columns[j]? = some column) :
    (insertedCells columns records)[i * columns.length + j]? =
      some ⟨column, record, (record.get? column).getD .null⟩ := by
  have hi := (List.getElem?_eq_some_iff.1 hrecord).1
  have hj := (List.getElem?_eq_some_iff.1 hcolumn).1
  have hwidth : ∀ other, (recordCells columns other).length = columns.length := by
    simp [recordCells]
  have hbefore : ((records.take i).flatMap (recordCells columns)).length = i * columns.length := by
    simp [List.length_flatMap, hwidth, Nat.min_eq_left (Nat.le_of_lt hi)]
  rw [← hbefore, insertedCells, getElem?_flatMap_take hrecord (by rwa [hwidth]), recordCells,
    List.getElem?_map, hcolumn]
  rfl

theorem getElem?_assignedCells {source : Row} {entries : List (String × Value)} {k i : Nat}
    {column : String} {value element : Value} (hentry : entries[k]? = some (column, value))
    (helement : value.elements[i]? = some element) :
    (assignedCells source entries)[numberAt 0 entries k + i - 1]? =
      some ⟨column, source, element⟩ := by
  have hi := (List.getElem?_eq_some_iff.1 helement).1
  have hbefore : ((entries.take k).flatMap fun entry => entry.2.elements.map fun element =>
      (⟨entry.1, source, element⟩ : Cell)).length = (elementsOf (entries.take k)).length := by
    rw [← map_value_assignedCells source, List.length_map]
    rfl
  have hposition := numberAt_sub 0 entries k i
  rw [Nat.sub_zero] at hposition
  rw [hposition, ← hbefore, assignedCells, getElem?_flatMap_take hentry (by simpa using hi),
    List.getElem?_map, helement]
  rfl

/-- Which cell stands at each position. An insertion takes a value from each of its records in turn,
and an update takes the elements of its values one by one. -/
def Statement.Places : Statement → Prop
  | insert given =>
    let columns := unifiedColumns given.rows
    (insert given).cells.length = given.rows.length * columns.length ∧
      ∀ i j record column, given.rows[i]? = some record → columns[j]? = some column →
        (insert given).cells[i * columns.length + j]? =
          some ⟨column, record, (record.get? column).getD .null⟩
  | update assignments conditions =>
    (update assignments conditions).cells.length = (elementsOf assignments.entries).length ∧
      ∀ k i column value element, assignments.entries[k]? = some (column, value) →
        value.elements[i]? = some element → assignments.get? column = some value ∧
          (update assignments conditions).cells[numberAt 0 assignments.entries k + i - 1]? =
            some ⟨column, assignments, element⟩
  | statement => statement.cells = []

theorem Statement.places (statement : Statement) : statement.Places := by
  cases statement with
  | insert given => exact ⟨length_insertedCells _ _, fun _ _ _ _ => getElem?_insertedCells⟩
  | update assignments conditions =>
    refine ⟨?_, fun k i column value element hentry helement => ?_⟩
    · rw [← map_value_assignedCells assignments, List.length_map]
      rfl
    · exact ⟨Fields.get?_of_mem (List.mem_of_getElem? hentry),
        getElem?_assignedCells hentry helement⟩
  | _ => rfl

/-! ## The calls of a statement -/

/-- The properties are called for the cells in the order of their numbers, with the placeholder of
each and the mapping that its value is from. What they return is written for the cells; the first
that refuses is called last, and its error is that of the statement. A statement without
records calls none. The values are those of the cells, before those of the conditions. -/
theorem calls_of_statement (table : Table) (properties : Properties) (statement : Statement) :
    ((∃ expressions, properties.Answered 1 statement.cells expressions ∧
        statement.query table properties =
          ⟨properties.calls 1 statement.cells, .ok (statement.written table expressions)⟩) ∨
      (∃ k error, properties.RefusedAt 1 statement.cells k error ∧
        statement.query table properties =
          ⟨properties.calls 1 (statement.cells.take (k + 1)), .error error⟩) ∨
      ¬ statement.Present ∧ ∃ error, statement.query table properties = ⟨[], .error error⟩) ∧
    statement.Places ∧
    ∀ expressions, (statement.written table expressions).values =
      statement.cells.map Cell.value ++ elementsOf statement.conditions.entries := by
  refine ⟨?_, statement.places, fun expressions => rfl⟩
  by_cases hpresent : statement.Present
  · have hrenders := statement.renders table properties hpresent
    rcases answered_or_refused properties 1 statement.cells with ⟨expressions, h⟩ | ⟨k, error, h⟩
    · exact .inl ⟨expressions, h, hrenders.answered expressions h⟩
    · exact .inr (.inl ⟨k, error, h, hrenders.refused k error h⟩)
  · exact .inr (.inr ⟨hpresent, statement.refused_of_absent table properties hpresent⟩)

/-- The second element of a list is refused, and for the third no property is called. -/
example :
    let property : Property := fun _ slot => if slot = "$2" then .error (.refused "no") else .ok slot
    let properties : Properties := Fields.empty.insert "a" (some property)
    let assignments : Row := Fields.empty.insert "a" (.list [.int 7, .int 8, .int 9])
    (Statement.update assignments Fields.empty).query ⟨"app", "users"⟩ properties =
      ⟨[⟨"a", "$1", assignments⟩, ⟨"a", "$2", assignments⟩], .error (.refused "no")⟩ := by
  rfl

end ParamSql
