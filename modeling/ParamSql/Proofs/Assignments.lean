import ParamSql.Proofs.Clauses
import ParamSql.Proofs.Filters

/-!
# Assignments and insertions

An insertion binds every value of a record as it is. An update assigns to a column what an insertion
would put there, as long as it is no list or tuple: of these it writes a comparison with the elements,
and binds each of them alone.
-/

namespace ParamSql

/-! ## What an update assigns -/

/-- One assignment of one value for each column, numbered on from an offset. -/
def ordinaryAssignments (offset : Nat) (columns : List String) : List String :=
  columns.mapIdx fun k column => column ++ " = " ++ placeholder (offset + 1 + k : Nat)

/-- No value is a list or a tuple. -/
def Row.Ordinary (assignments : Row) : Prop := ∀ value ∈ assignments.values, value.shape = none

theorem ordinaryAssignments_cons (offset : Nat) (column : String) (columns : List String) :
    ordinaryAssignments offset (column :: columns) =
      (column ++ (" " ++ comparison (offset + 1) none)) ::
        ordinaryAssignments (offset + 1) columns := by
  have hnext : (fun k other => other ++ " = " ++ placeholder (offset + 1 + (k + 1) : Nat)) =
      fun (k : Nat) (other : String) => other ++ " = " ++ placeholder (offset + 1 + 1 + k : Nat) := by
    funext k other
    rw [Nat.add_comm k, ← Nat.add_assoc]
  have hfirst := fragment_eq column .null (offset + 1)
  unfold ordinaryAssignments
  rw [List.mapIdx_cons, hnext]
  exact congrArg (· :: _) hfirst

theorem elements_of_shape_none {value : Value} (h : value.shape = none) : value.elements = [value] := by
  cases value
  case list => cases h
  case tuple => cases h
  all_goals rfl

theorem fragments_of_ordinary {entries : List (String × Value)}
    (h : ∀ entry ∈ entries, entry.2.shape = none) (offset : Nat) :
    fragments offset entries = ordinaryAssignments offset (entries.map Prod.fst) := by
  induction entries generalizing offset with
  | nil => rfl
  | cons entry rest ih =>
    have hentry := h entry List.mem_cons_self
    rw [fragments_cons, fragment_eq, hentry, elements_of_shape_none hentry, List.map_cons,
      ordinaryAssignments_cons, ih fun other hother => h other (List.mem_cons_of_mem _ hother)]
    rfl

theorem ordinary_of_intercalate {offset : Nat} {entries : List (String × Value)}
    (h : ", ".intercalate (fragments offset entries) =
      ", ".intercalate (ordinaryAssignments offset (entries.map Prod.fst))) :
    ∀ entry ∈ entries, entry.2.shape = none := by
  induction entries generalizing offset with
  | nil => exact fun _ hmem => nomatch hmem
  | cons entry rest ih =>
    rw [fragments_cons, fragment_eq, List.map_cons, ordinaryAssignments_cons, intercalate_cons,
      intercalate_cons] at h
    simp only [String.append_assoc] at h
    obtain ⟨hshape, hrest⟩ := comparison_append_inj
      ((String.append_right_inj _).1 ((String.append_right_inj _).1 h))
    rw [elements_of_shape_none hshape] at hrest
    exact List.forall_mem_cons.2 ⟨hshape, ih (intercalate_rest_inj (by decide) hrest)⟩

/-! ## What an update binds -/

theorem sizeOf_append (values others : List Value) :
    sizeOf (values ++ others) + 1 = sizeOf values + sizeOf others := by
  induction values with
  | nil =>
    simp only [List.nil_append, List.nil.sizeOf_spec]
    omega
  | cons value values ih =>
    simp only [List.cons_append, List.cons.sizeOf_spec]
    omega

theorem sizeOf_elements_lt {value : Value} (h : value.shape ≠ none) :
    sizeOf value.elements < sizeOf value := by
  cases value
  case list elements =>
    simp only [Value.elements, Value.list.sizeOf_spec]
    omega
  case tuple elements =>
    simp only [Value.elements, Value.tuple.sizeOf_spec]
    omega
  all_goals exact absurd rfl h

theorem sizeOf_flatMap_elements_le (values : List Value) :
    sizeOf (values.flatMap Value.elements) ≤ sizeOf values := by
  induction values with
  | nil => exact Nat.le_refl _
  | cons value values ih =>
    have happend := sizeOf_append value.elements (values.flatMap Value.elements)
    rw [List.flatMap_cons, List.cons.sizeOf_spec]
    by_cases h : value.shape = none
    · rw [elements_of_shape_none h] at happend ⊢
      simp only [List.cons.sizeOf_spec, List.nil.sizeOf_spec] at happend
      omega
    · have hlt := sizeOf_elements_lt h
      omega

theorem flatMap_elements_eq_iff {values : List Value} :
    values.flatMap Value.elements = values ↔ ∀ value ∈ values, value.shape = none := by
  constructor
  · intro h
    induction values with
    | nil => exact fun _ hmem => nomatch hmem
    | cons value values ih =>
      rw [List.flatMap_cons] at h
      by_cases hshape : value.shape = none
      · rw [elements_of_shape_none hshape, List.singleton_append] at h
        exact List.forall_mem_cons.2 ⟨hshape, ih (List.cons.inj h).2⟩
      · -- What a list is taken apart into is smaller than the list, and the rest does not grow.
        have hsize := congrArg sizeOf h
        have happend := sizeOf_append value.elements (values.flatMap Value.elements)
        have hlt := sizeOf_elements_lt hshape
        have hle := sizeOf_flatMap_elements_le values
        rw [List.cons.sizeOf_spec] at hsize
        omega
  · intro h
    rw [List.flatMap_congr fun value hvalue => elements_of_shape_none (h value hvalue)]
    exact List.flatMap_singleton' values

theorem elementsOf_eq_flatMap (assignments : Row) :
    elementsOf assignments.entries = assignments.values.flatMap Value.elements := by
  rw [elementsOf, Fields.values, List.flatMap_map]

/-! ## What an insertion binds -/

theorem unifiedColumns_singleton (record : Row) : unifiedColumns [record] = record.keys := by
  rw [unifiedColumns, List.flatMap_singleton, eraseDups_of_nodup record.nodup_keys]

theorem recordValues_keys (record : Row) : recordValues record.keys record = record.values := by
  unfold recordValues Fields.keys Fields.values
  rw [List.map_map]
  refine List.map_congr_left fun entry hentry => ?_
  rw [Function.comp_apply, Fields.get?_of_mem hentry, Option.getD_some]

/-! ## Updates beside insertions -/

/-- The assignments of an update beside the values of an insertion of the same record. -/
structure AssignsAsInserts (assignments : Row) (set insertion : Query) : Prop where
  text : set.text = ", ".intercalate (fragments 0 assignments.entries)
  inserted : insertion.values = assignments.values
  text_iff : set.text = ", ".intercalate (ordinaryAssignments 0 assignments.keys) ↔
    Row.Ordinary assignments
  values_iff : set.values = insertion.values ↔ Row.Ordinary assignments
  assigned : ∀ k column value, assignments.entries[k]? = some (column, value) →
    (fragments 0 assignments.entries)[k]? =
      some (fragment column value (numberAt 0 assignments.entries k)) ∧
    (value.shape = none →
      fragment column value (numberAt 0 assignments.entries k) =
        column ++ " = " ++ placeholder (numberAt 0 assignments.entries k) ∧
      set.values[numberAt 0 assignments.entries k - 1]? = some value ∧
      insertion.values[k]? = some value)

theorem insertion_of_record (table : Table) (record : Row) :
    ∃ insertion, (∀ given : GivenRecords, given.Gives [record] →
        (Statement.insert given).query table Fields.empty = pure insertion) ∧
      insertion.values = record.values := by
  have hvalues : [record].flatMap (recordValues (unifiedColumns [record])) = record.values := by
    rw [unifiedColumns_singleton, List.flatMap_singleton, recordValues_keys]
  have hone : GivenRecords.Gives (.one record) [record] := rfl
  have hwritten := Statement.written_insert hone table fun n => placeholder n
  refine ⟨(Statement.insert (.one record)).written table fun n => placeholder n,
    fun given hgives => ?_, ?_⟩
  · have hpresent : (Statement.insert given).Present := ⟨_, List.cons_ne_nil _ _, hgives⟩
    rw [Statement.query_of_no_properties table hpresent, Statement.written_insert hgives, hwritten]
  · rw [hwritten]
    exact hvalues

theorem assigned_of_single {entries : List (String × Value)} {k : Nat} {column : String}
    {value : Value} (hentry : entries[k]? = some (column, value)) (hsingle : value.shape = none) :
    (elementsOf entries)[numberAt 0 entries k - 1]? = some value := by
  have helements := elements_of_shape_none hsingle
  have hlt : 0 < value.elements.length := by
    rw [helements]
    exact Nat.zero_lt_one
  have hnumber : numberAt 0 entries k - 1 = (elementsOf (entries.take k)).length + 0 :=
    numberAt_sub 0 entries k 0
  rw [hnumber, getElem?_elementsOf hentry hlt, helements, List.getElem?_cons_zero]

theorem assignsAsInserts {assignments : Row} {set insertion : Query}
    (hset : set = ⟨", ".intercalate (fragments 0 assignments.entries),
      elementsOf assignments.entries⟩)
    (hinsertion : insertion.values = assignments.values) :
    AssignsAsInserts assignments set insertion := by
  subst hset
  have hsingle : Row.Ordinary assignments ↔ ∀ entry ∈ assignments.entries, entry.2.shape = none := by
    unfold Row.Ordinary Fields.values
    exact List.forall_mem_map
  refine ⟨rfl, hinsertion, ?_, ?_, fun k column value hentry => ⟨?_, fun hshape => ⟨?_, ?_, ?_⟩⟩⟩
  · rw [hsingle]
    refine ⟨ordinary_of_intercalate, fun h => ?_⟩
    rw [fragments_of_ordinary h]
    rfl
  · rw [hinsertion, elementsOf_eq_flatMap]
    exact flatMap_elements_eq_iff
  · unfold fragments
    rw [List.getElem?_mapIdx, hentry, Option.map_some]
  · rw [fragment, hshape]
  · exact assigned_of_single hentry hshape
  · rw [hinsertion, Fields.values, List.getElem?_map, hentry, Option.map_some]

/-- An update writes one assignment of one value for each column, and binds what an insertion of the
same record binds, exactly if no value is a list or a tuple. A single value is assigned and bound as it
is inserted also where other values are lists. -/
theorem assigned_as_inserted_iff (table : Table) (assignments conditions : Row) :
    ∃ set clause update insertion,
      (Statement.update assignments conditions).query table Fields.empty = pure update ∧
      UpdateClauses table assignments conditions set clause update ∧
      (Statement.insert (.one assignments)).query table Fields.empty = pure insertion ∧
      (Statement.insert (.list [some assignments])).query table Fields.empty = pure insertion ∧
      AssignsAsInserts assignments set insertion := by
  obtain ⟨set, clause, update, hupdate, hclauses⟩ := updateClauses table assignments conditions
  obtain ⟨insertion, hinsert, hvalues⟩ := insertion_of_record table assignments
  have hset := Logged.pure_inj (hclauses.set_compiled.symm.trans (setList_eq assignments))
  exact ⟨set, clause, update, insertion, hupdate, hclauses, hinsert _ rfl, hinsert _ rfl,
    assignsAsInserts hset hvalues⟩

/-- A list is inserted as one value, but an update compares its column with the two elements. -/
theorem list_not_assigned :
    let assignments : Row := Fields.empty.insert "tags" (.list [.int 1, .int 2])
    let table : Table := ⟨"app", "users"⟩
    (Statement.update assignments Fields.empty).query table Fields.empty =
        pure ⟨"UPDATE app.users SET tags IN ($1, $2) RETURNING *", [.int 1, .int 2]⟩ ∧
      (Statement.insert (.one assignments)).query table Fields.empty =
        pure ⟨"INSERT INTO app.users (tags) VALUES ($1) RETURNING *", [.list [.int 1, .int 2]]⟩ :=
  ⟨rfl, rfl⟩

end ParamSql
