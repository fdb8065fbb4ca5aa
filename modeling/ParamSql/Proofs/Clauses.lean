import ParamSql.Proofs.PropertyCalls

/-!
# Clauses of a statement

An update numbers its where clause on from its assignments. Whether a statement has a where clause
depends on the values that its conditions bind: conditions that bind nothing are left out, and the
statement is the one without conditions.
-/

namespace ParamSql

open Sql TokenKind

/-! ## What conditions bind -/

/-- A single value is bound, and so is a list with an element. -/
def Condition.Binds : Condition → Prop
  | scalar _ => True
  | anyOf values => values ≠ []

def Row.Binds (conditions : Row) : Prop :=
  ∃ entry ∈ conditions.entries, (Condition.ofValue entry.2).Binds

theorem Condition.binds_iff (condition : Condition) : condition.Binds ↔ condition.values ≠ [] := by
  cases condition <;> simp [Binds, values]

theorem Row.binds_iff (conditions : Row) :
    Row.Binds conditions ↔ elementsOf conditions.entries ≠ [] := by
  unfold Row.Binds elementsOf
  simp only [Condition.binds_iff, values_ofValue, Ne, List.flatMap_eq_nil_iff]
  push Not
  rfl

/-! ## Where clauses -/

section

variable {text closing : String} {clause : Query}

theorem appendWhere_of_nil (h : clause.values = []) : appendWhere text clause = text := by
  unfold appendWhere
  simp [h]

theorem appendWhere_of_ne_nil (h : clause.values ≠ []) :
    appendWhere text clause = text ++ " WHERE " ++ clause.text := by
  unfold appendWhere
  simp [h]

theorem appendWhere_eq_iff :
    appendWhere text clause ++ closing = text ++ " WHERE " ++ clause.text ++ closing ↔
      clause.values ≠ [] := by
  constructor
  · intro h hnil
    rw [appendWhere_of_nil hnil] at h
    have hlength := congrArg String.length h
    simp only [String.length_append] at hlength
    have hwhere : " WHERE ".length = 7 := rfl
    omega
  · intro h
    rw [appendWhere_of_ne_nil h]

theorem slotsIn_appendWhere (h : clause.values = [] → slotsIn clause.text = []) :
    slotsIn (appendWhere text clause) = slotsIn text ++ slotsIn clause.text := by
  by_cases hnil : clause.values = []
  · rw [appendWhere_of_nil hnil, h hnil, List.append_nil]
  · have hstop : slotKind.Stops (" WHERE " ++ clause.text).toList :=
      stops_append_of_head rfl (by decide) _
    rw [appendWhere_of_ne_nil hnil, String.append_assoc, slotsIn_append _ hstop,
      slotsIn_append_of_not_mem (by decide)]

end

/-! ## Statements without their conditions -/

namespace Statement

def unfiltered : Statement → Statement
  | select _ => select Fields.empty
  | count _ => count Fields.empty
  | insert records => insert records
  | update assignments _ => update assignments Fields.empty
  | delete _ => delete Fields.empty

theorem Present.unfiltered {statement : Statement} (h : statement.Present) :
    statement.unfiltered.Present := by
  cases statement <;> exact h

theorem written_unfiltered (table : Table) (statement : Statement) (expressions : Nat → String) :
    statement.unfiltered.written table expressions =
      ⟨statement.opening table expressions ++ statement.closing,
        statement.cells.map Cell.value⟩ := by
  have hnone : statement.unfiltered.conditions = Fields.empty := by cases statement <;> rfl
  have hfilter : ∀ offset, (filterAfter offset Fields.empty).values = [] := fun _ => rfl
  unfold written
  dsimp only
  rw [hnone, appendWhere_of_nil (hfilter _), hfilter, List.append_nil]
  cases statement <;> rfl

end Statement

/-! ## The clauses of an update -/

/-- An update that is put together from two clauses, of which the second is numbered on from the
first. -/
structure UpdateClauses (table : Table) (assignments conditions : Row) (set clause query : Query) :
    Prop where
  set_compiled : compileConditions Fields.empty .setList assignments = pure set
  clause_compiled : compileConditions Fields.empty
    { ConditionOptions.whereClause with offset := .past set.values.length } conditions = pure clause
  set_values : set.values = elementsOf assignments.entries
  clause_values : clause.values = elementsOf conditions.entries
  text : query.text =
    appendWhere ("UPDATE " ++ table.qualifiedName ++ " SET " ++ set.text) clause ++ " RETURNING *"
  values : query.values = set.values ++ clause.values

/-- The placeholders of both clauses, where the names hide none. -/
structure UpdateSlots (set clause query : Query) : Prop where
  set_slots : set.slots = numerals 1 set.values.length
  clause_slots : clause.slots = numerals (set.values.length + 1) clause.values.length
  query_slots : query.slots = numerals 1 (set.values.length + clause.values.length)

theorem setList_eq (assignments : Row) :
    compileConditions Fields.empty .setList assignments =
      pure ⟨", ".intercalate (fragments 0 assignments.entries), elementsOf assignments.entries⟩ := by
  have hoffset : ConditionOptions.setList.offset = .past 0 := rfl
  rw [compileConditions_past hoffset, comparisons_eq, boundBy_eq]
  rfl

theorem updateClauses (table : Table) (assignments conditions : Row) :
    ∃ set clause query,
      (Statement.update assignments conditions).query table Fields.empty = pure query ∧
        UpdateClauses table assignments conditions set clause query := by
  have hset := setList_eq assignments
  have hpresent : (Statement.update assignments conditions).Present := trivial
  have hquery := Statement.query_of_no_properties table hpresent
  refine ⟨_, _, _, hquery, hset, compileConditions_where _ _ conditions, rfl, rfl, ?_, ?_⟩
  · unfold Statement.written Statement.opening Statement.cells
    simp only [assignmentTexts_placeholder, map_value_assignedCells]
    rfl
  · unfold Statement.written Statement.cells
    simp only [map_value_assignedCells]
    rfl

theorem UpdateClauses.slots {table : Table} {assignments conditions : Row} {set clause query : Query}
    (h : UpdateClauses table assignments conditions set clause query)
    (htable : '$' ∉ table.qualifiedName.toList) (hset : ∀ name ∈ assignments.keys, '$' ∉ name.toList)
    (hnames : ∀ name ∈ conditions.keys, '$' ∉ name.toList) : UpdateSlots set clause query := by
  have hsetSlots : set.slots = numerals 1 set.values.length := by
    obtain rfl := Logged.pure_inj (h.set_compiled.symm.trans (setList_eq assignments))
    exact slotsIn_fragments rfl (by decide) (by decide)
      (fun entry hentry => hset _ (List.mem_map_of_mem hentry)) 0
  have hclauseSlots : clause.slots = numerals (set.values.length + 1) clause.values.length := by
    obtain rfl := Logged.pure_inj (h.clause_compiled.symm.trans (compileConditions_where _ _ _))
    exact slotsIn_fragments rfl (by decide) (by decide)
      (fun entry hentry => hnames _ (List.mem_map_of_mem hentry)) set.values.length
  refine ⟨hsetSlots, hclauseSlots, ?_⟩
  have hopening : '$' ∉ ("UPDATE " ++ table.qualifiedName ++ " SET ").toList := by
    simp only [String.toList_append, List.mem_append, not_or]
    exact ⟨⟨by decide, htable⟩, by decide⟩
  have hnil : clause.values = [] → slotsIn clause.text = [] := by
    intro hnil
    rw [hnil] at hclauseSlots
    exact hclauseSlots
  unfold Query.slots
  rw [h.text]
  show slotsIn _ = _
  rw [slotsIn_returning, slotsIn_appendWhere hnil, slotsIn_append_of_not_mem hopening]
  rw [← numerals_append, Nat.add_comm 1, ← hsetSlots, ← hclauseSlots]
  rfl

/-! ## Statements with and without a clause -/

/-- A statement beside the same one without its conditions. They differ by the where clause of the
compiled conditions, which is there exactly if the conditions bind a value. -/
structure Filtered (table : Table) (statement : Statement) (bare clause query : Query) : Prop where
  compiled : compileConditions Fields.empty
    { ConditionOptions.whereClause with offset := .past bare.values.length }
    statement.conditions = pure clause
  bare_text : bare.text = statement.opening table (fun n => placeholder n) ++ statement.closing
  text_iff : query.text = statement.opening table (fun n => placeholder n) ++ " WHERE " ++ clause.text
    ++ statement.closing ↔ Row.Binds statement.conditions
  values : query.values = bare.values ++ clause.values
  eq_bare : ¬ Row.Binds statement.conditions → query = bare

theorem filtered_written (table : Table) (statement : Statement) :
    ∃ clause, Filtered table statement
      (statement.unfiltered.written table fun n => placeholder n) clause
      (statement.written table fun n => placeholder n) := by
  rw [statement.written_unfiltered]
  refine ⟨_, compileConditions_where _ _ statement.conditions, rfl, ?_, rfl, fun hnone => ?_⟩
  · rw [Row.binds_iff]
    exact appendWhere_eq_iff
  · have hnil : elementsOf statement.conditions.entries = [] := by
      rwa [Row.binds_iff, not_not] at hnone
    have hclause : ∀ offset, (filterAfter offset statement.conditions).values = [] := fun _ => hnil
    unfold Statement.written
    dsimp only
    rw [appendWhere_of_nil (hclause _), hclause, List.append_nil]

/-- An update keeps the placeholders of its two clauses apart, in the order of their values. Any
statement has the whole where clause of its conditions, if one of them is a single value or a list
with an element; or else it is the statement without conditions. -/
theorem clauses_of_statements (table : Table) :
    (∀ assignments conditions : Row, ∃ set clause query,
      (Statement.update assignments conditions).query table Fields.empty = pure query ∧
      UpdateClauses table assignments conditions set clause query ∧
      ('$' ∉ table.schema.toList → '$' ∉ table.name.toList →
        (∀ name ∈ assignments.keys, '$' ∉ name.toList) →
        (∀ name ∈ conditions.keys, '$' ∉ name.toList) → UpdateSlots set clause query)) ∧
    ∀ statement : Statement, statement.Present → ∃ bare clause query,
      statement.unfiltered.query table Fields.empty = pure bare ∧
      statement.query table Fields.empty = pure query ∧
      Filtered table statement bare clause query := by
  refine ⟨fun assignments conditions => ?_, fun statement hpresent => ?_⟩
  · obtain ⟨set, clause, query, hquery, hclauses⟩ := updateClauses table assignments conditions
    refine ⟨set, clause, query, hquery, hclauses, fun hschema hname hset hnames => ?_⟩
    exact hclauses.slots (not_mem_qualifiedName hschema hname (by decide)) hset hnames
  · obtain ⟨clause, hfiltered⟩ := filtered_written table statement
    exact ⟨_, clause, _, Statement.query_of_no_properties table hpresent.unfiltered,
      Statement.query_of_no_properties table hpresent, hfiltered⟩

theorem clauses_of_update :
    let assignments : Row := ((Fields.empty.insert "a" (.list [.int 1, .int 2])).insert
      "b" (.tuple [])).insert "c" (.text "$7")
    let empty : Row := Fields.empty.insert "id" (.list [])
    let conditions : Row := empty.insert "WHERE" .null
    let table : Table := ⟨"app", "users"⟩
    (∃ set clause query,
      (Statement.update assignments conditions).query table Fields.empty = pure query ∧
      query.text = "UPDATE app.users SET a IN ($1, $2), b IN (), c = $3 " ++
        "WHERE id IN () AND WHERE = $4 RETURNING *" ∧
      query.values = [.int 1, .int 2, .text "$7", .null] ∧ UpdateSlots set clause query) ∧
    ∃ bare, (Statement.delete Fields.empty).query table Fields.empty = pure bare ∧
      (Statement.delete empty).query table Fields.empty = pure bare := by
  intro assignments empty conditions table
  obtain ⟨hupdate, hfiltered⟩ := clauses_of_statements table
  constructor
  · obtain ⟨set, clause, query, hquery, -, hslots⟩ := hupdate assignments conditions
    have hcompiled : (Statement.update assignments conditions).query table Fields.empty =
        pure ⟨"UPDATE app.users SET a IN ($1, $2), b IN (), c = $3 " ++
          "WHERE id IN () AND WHERE = $4 RETURNING *", [.int 1, .int 2, .text "$7", .null]⟩ := rfl
    obtain rfl := Logged.pure_inj (hquery.symm.trans hcompiled)
    exact ⟨set, clause, _, hquery, rfl, rfl, hslots (by decide) (by decide) (by decide) (by decide)⟩
  · obtain ⟨bare, clause, query, hbare, hquery, hboth⟩ := hfiltered (.delete empty) trivial
    have hnone : ¬ Row.Binds empty := by
      rw [Row.binds_iff]
      decide
    rw [hboth.eq_bare hnone] at hquery
    exact ⟨bare, hbare, hquery⟩

end ParamSql
