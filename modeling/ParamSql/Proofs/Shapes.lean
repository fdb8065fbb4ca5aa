import ParamSql.Statement
import ParamSql.Style
import ParamSql.Template

/-!
# Text and the shapes of values

No text is ever made of a value. Two runs whose values differ in nothing but their contents fail with
the same error, or give the same text and as many values.
-/

namespace ParamSql

/-! ## Two runs -/

/-- Two runs fail with the same error, or their results are related. -/
inductive Matched {ε α β : Type} (r : α → β → Prop) : Except ε α → Except ε β → Prop
  | ok {a : α} {b : β} : r a b → Matched r (.ok a) (.ok b)
  | error (e : ε) : Matched r (.error e) (.error e)

namespace Matched

variable {ε α β γ δ : Type} {r : α → β → Prop} {s : γ → δ → Prop}

theorem bind {x : Except ε α} {y : Except ε β} {f : α → Except ε γ} {g : β → Except ε δ}
    (h : Matched r x y) (hnext : ∀ a b, r a b → Matched s (f a) (g b)) :
    Matched s (x >>= f) (y >>= g) := by
  cases h with
  | ok hab => exact hnext _ _ hab
  | error e => exact .error e

theorem bind_outcome {κ : Type} {x : Logged κ α} {y : Logged κ β} {f : α → Logged κ γ}
    {g : β → Logged κ δ} (h : Matched r x.outcome y.outcome)
    (hnext : ∀ a b, r a b → Matched s (f a).outcome (g b).outcome) :
    Matched s (x >>= f).outcome (y >>= g).outcome := by
  generalize hx : x.outcome = first at h
  generalize hy : y.outcome = second at h
  cases h with
  | ok hab =>
    rw [Logged.bind_of_ok hx, Logged.bind_of_ok hy]
    exact hnext _ _ hab
  | error e =>
    rw [Logged.bind_of_error hx, Logged.bind_of_error hy]
    exact .error e

theorem mono {r' : α → β → Prop} {x : Except ε α} {y : Except ε β} (h : Matched r x y)
    (himp : ∀ a b, r a b → r' a b) : Matched r' x y := by
  cases h with
  | ok hab => exact .ok (himp _ _ hab)
  | error e => exact .error e

theorem bind_same (x : Except ε α) {f : α → Except ε γ} {g : α → Except ε δ}
    (hnext : ∀ a, Matched s (f a) (g a)) : Matched s (x >>= f) (x >>= g) := by
  cases x with
  | ok a => exact hnext a
  | error e => exact .error e

theorem bind_outcome_same {κ : Type} (x : Logged κ α) {f : α → Logged κ γ} {g : α → Logged κ δ}
    (hnext : ∀ a, Matched s (f a).outcome (g a).outcome) :
    Matched s (x >>= f).outcome (x >>= g).outcome := by
  cases hx : x.outcome with
  | ok a =>
    rw [Logged.bind_of_ok hx, Logged.bind_of_ok hx]
    exact hnext a
  | error e =>
    rw [Logged.bind_of_error hx, Logged.bind_of_error hx]
    exact .error e

end Matched

/-! ## Shapes -/

/-- The number of elements of a list or a tuple; a scalar has none. -/
def Value.shape : Value → Option Nat
  | list xs => some xs.length
  | tuple xs => some xs.length
  | _ => none

/-- The names of a mapping in their order, each with the shape of its value. -/
def Row.shape (row : Row) : List (String × Option Nat) :=
  row.entries.map fun entry => (entry.1, entry.2.shape)

def GivenRecords.keys (records : GivenRecords) : Option (List (Option (List String))) :=
  records.items?.map (List.map (Option.map Fields.keys))

/-- Statements of one kind whose conditions and assignments have the same shapes. Records need only
have the same names. -/
def Statement.SameShape : Statement → Statement → Prop
  | select conditions, select others => Row.shape conditions = Row.shape others
  | count conditions, count others => Row.shape conditions = Row.shape others
  | insert records, insert others => GivenRecords.keys records = GivenRecords.keys others
  | update assignments conditions, update assignments' conditions' =>
    Row.shape assignments = Row.shape assignments' ∧ Row.shape conditions = Row.shape conditions'
  | delete conditions, delete others => Row.shape conditions = Row.shape others
  | _, _ => False

theorem length_elements (value : Value) : value.elements.length = value.shape.getD 1 := by
  cases value <;> rfl

theorem length_values_ofValue (value : Value) :
    (Condition.ofValue value).values.length = value.shape.getD 1 := by
  cases value <;> rfl

theorem text_ofValue (value : Value) (column : String) (expressions : List String) :
    (Condition.ofValue value).text column expressions =
      if value.shape.isSome then column ++ " IN (" ++ ", ".intercalate expressions ++ ")"
      else column ++ " = " ++ String.join expressions := by
  cases value <;> rfl

theorem shape_get? (row : Row) (name : String) :
    (row.get? name).map Value.shape = (Row.shape row).lookup name := by
  rw [Fields.get?, Row.shape]
  induction row.entries with
  | nil => rfl
  | cons entry entries ih =>
    rw [List.lookup_cons, List.map_cons, List.lookup_cons]
    cases name == entry.1
    · exact ih
    · rfl

/-! ## Outlines -/

def Query.SameText (query other : Query) : Prop :=
  query.text = other.text ∧ query.values.length = other.values.length

def Prepared.SameText (prepared other : Prepared) : Prop :=
  prepared.sql = other.sql ∧ prepared.params.length = other.params.length

def SameOutline {α : Type} (first second : α × List Value) : Prop :=
  first.1 = second.1 ∧ first.2.length = second.2.length

/-! ## Preparing -/

theorem valueAt_matched {values others : List Value} (h : values.length = others.length)
    (number : Nat) : Matched (fun _ _ => True) (valueAt values number) (valueAt others number) := by
  cases number with
  | zero =>
    rcases values with _ | ⟨value, values⟩ <;> rcases others with _ | ⟨other, others⟩
    · exact .error _
    · cases h
    · cases h
    · exact .ok trivial
  | succ index =>
    simp only [valueAt]
    by_cases hlt : index < values.length
    · rw [List.getElem?_eq_getElem hlt, List.getElem?_eq_getElem (h ▸ hlt)]
      exact .ok trivial
    · rw [List.getElem?_eq_none (by omega), List.getElem?_eq_none (by omega)]
      exact .error _

theorem formatPieces_matched {values others : List Value} (h : values.length = others.length)
    (pieces : List Sql.Piece) :
    Matched SameOutline (formatPieces values pieces) (formatPieces others pieces) := by
  induction pieces with
  | nil => exact .ok ⟨rfl, rfl⟩
  | cons piece rest ih =>
    cases piece with
    | char c =>
      refine ih.bind fun first second hrest => ?_
      obtain ⟨hsql, hparams⟩ := hrest
      exact .ok ⟨congrArg (escapePercent c ++ ·) hsql, hparams⟩
    | token digits =>
      refine Matched.bind_same (slotNumber digits) fun number => ?_
      refine (valueAt_matched h number).bind fun value other _ => ih.bind fun first second hrest => ?_
      obtain ⟨hsql, hparams⟩ := hrest
      exact .ok ⟨congrArg (fun sql => '%' :: 's' :: sql) hsql, congrArg (· + 1) hparams⟩

theorem prepare_matched {query other : Query} (h : query.SameText other) (style : Style) :
    Matched Prepared.SameText (query.prepare style) (other.prepare style) := by
  obtain ⟨htext, hlength⟩ := h
  cases style with
  | numeric => exact .ok ⟨htext, hlength⟩
  | qmark => exact .ok ⟨congrArg qmarkText htext, hlength⟩
  | format =>
    unfold Query.prepare
    rw [htext]
    refine (formatPieces_matched hlength _).bind fun first second hformat => ?_
    exact .ok ⟨congrArg String.ofList hformat.1, hformat.2⟩

/-! ## Binding -/

theorem bindPieces_matched {named other : Row}
    (h : ∀ name, (named.get? name).map Value.shape = (other.get? name).map Value.shape)
    (bound : Nat) (pieces : List Sql.Piece) :
    Matched SameOutline (Template.bindPieces named bound pieces)
      (Template.bindPieces other bound pieces) := by
  induction pieces generalizing bound with
  | nil => exact .ok ⟨rfl, rfl⟩
  | cons piece rest ih =>
    cases piece with
    | char c =>
      refine (ih bound).bind fun first second hrest => ?_
      exact .ok ⟨congrArg (c :: ·) hrest.1, hrest.2⟩
    | token name =>
      have hname := h (String.ofList name)
      unfold Template.bindPieces
      generalize named.get? (String.ofList name) = value? at hname
      generalize other.get? (String.ofList name) = other? at hname
      rcases value? with _ | value <;> rcases other? with _ | other
      · exact .error _
      · cases hname
      · cases hname
      · have hshape : value.shape = other.shape := Option.some.inj hname
        have hlength : value.elements.length = other.elements.length := by
          rw [length_elements, length_elements, hshape]
        dsimp only
        rw [hlength]
        refine (ih _).bind fun first second hrest => ?_
        exact .ok ⟨congrArg (_ ++ ·) hrest.1, by simp [hlength, hrest.2]⟩

theorem bind_matched {named other : Row}
    (h : ∀ name, (named.get? name).map Value.shape = (other.get? name).map Value.shape)
    (template : String) :
    Matched Query.SameText (Template.bind template named) (Template.bind template other) := by
  have hpieces := bindPieces_matched h 0 (Template.nameKind.piecesOutside template.toList)
  unfold Template.bind
  generalize Template.bindPieces named 0 _ = first at hpieces
  generalize Template.bindPieces other 0 _ = second at hpieces
  cases hpieces with
  | ok hsame => exact .ok ⟨congrArg String.ofList hsame.1, hsame.2⟩
  | error name => exact .error _

/-! ## Conditions -/

theorem expressions_empty (slot : Int → Except Error String) (column : String)
    (source other : Row) (index : Int) (count : Nat) :
    Properties.expressions Fields.empty slot column source index count =
      Properties.expressions Fields.empty slot column other index count := by
  induction count generalizing index with
  | zero => rfl
  | succ count ih =>
    unfold Properties.expressions
    rw [ih]
    rfl

theorem compileEntries_matched (slot : Int → Except Error String) (source other : Row)
    {entries others : List (String × Value)}
    (h : entries.map (fun entry => (entry.1, entry.2.shape)) =
      others.map fun entry => (entry.1, entry.2.shape)) (index : Int) :
    Matched SameOutline (compileEntries Fields.empty slot source index entries).outcome
      (compileEntries Fields.empty slot other index others).outcome := by
  induction entries generalizing others index with
  | nil =>
    obtain rfl := List.map_eq_nil_iff.1 h.symm
    exact .ok ⟨rfl, rfl⟩
  | cons entry entries ih =>
    rcases others with _ | ⟨⟨column, second⟩, others⟩
    · cases h
    obtain ⟨name, first⟩ := entry
    rw [List.map_cons, List.map_cons, List.cons.injEq, Prod.mk.injEq] at h
    obtain ⟨⟨rfl, hshape⟩, hrest⟩ := h
    have hlength : (Condition.ofValue first).values.length =
        (Condition.ofValue second).values.length := by
      rw [length_values_ofValue, length_values_ofValue, hshape]
    have htext : ∀ expressions, (Condition.ofValue first).text name expressions =
        (Condition.ofValue second).text name expressions := by
      intro expressions
      rw [text_ofValue, text_ofValue, hshape]
    unfold compileEntries
    dsimp only
    rw [expressions_empty slot name source other, hlength]
    refine Matched.bind_outcome_same _ fun expressions => ?_
    refine (ih hrest _).bind_outcome fun texts others hrest => ?_
    exact .ok ⟨by simp [htext, hrest.1], by simp [hlength, hrest.2]⟩

theorem compileConditions_matched (options : ConditionOptions) {conditions others : Row}
    (h : Row.shape conditions = Row.shape others) :
    Matched Query.SameText (compileConditions Fields.empty options conditions).outcome
      (compileConditions Fields.empty options others).outcome := by
  have hempty : conditions.isEmpty = others.isEmpty := by
    have hlength := congrArg List.isEmpty h
    simpa [Row.shape, Fields.isEmpty] using hlength
  have hconsulted : options.mode.consulted Fields.empty = Fields.empty := by
    cases options.mode <;> rfl
  unfold compileConditions
  rw [hempty, hconsulted]
  split
  · exact .ok ⟨rfl, rfl⟩
  · refine Matched.bind_outcome_same _ fun start => ?_
    refine (compileEntries_matched _ conditions others h _).bind_outcome fun first second hsame => ?_
    exact .ok ⟨congrArg options.joiner.intercalate hsame.1, hsame.2⟩

/-! ## Statements -/

theorem appendWhere_congr {text other : String} (htext : text = other) {clause others : Query}
    (h : clause.SameText others) : appendWhere text clause = appendWhere other others := by
  have hempty : clause.values.isEmpty = others.values.isEmpty := by
    rw [Bool.eq_iff_iff, List.isEmpty_iff_length_eq_zero, List.isEmpty_iff_length_eq_zero, h.2]
  unfold appendWhere
  rw [htext, hempty, h.1]

theorem filtered_matched (text : String) {conditions others : Row}
    (h : Row.shape conditions = Row.shape others) :
    Matched Query.SameText (filtered text conditions).outcome (filtered text others).outcome := by
  refine (compileConditions_matched _ h).bind_outcome fun clause other hclause => ?_
  exact .ok ⟨appendWhere_congr rfl hclause, hclause.2⟩

theorem updateQuery_matched (table : Table) {assignments assignments' conditions conditions' : Row}
    (hset : Row.shape assignments = Row.shape assignments')
    (h : Row.shape conditions = Row.shape conditions') :
    Matched Query.SameText (updateQuery table Fields.empty assignments conditions).outcome
      (updateQuery table Fields.empty assignments' conditions').outcome := by
  refine (compileConditions_matched _ hset).bind_outcome fun set set' hset => ?_
  rw [hset.2]
  refine (compileConditions_matched _ h).bind_outcome fun clause clause' hclause => ?_
  exact .ok ⟨by simp [hset.1, appendWhere_congr rfl hclause], by simp [hset.2, hclause.2]⟩

theorem presentRecords_matched {records others : GivenRecords}
    (h : GivenRecords.keys records = GivenRecords.keys others) :
    Matched (fun rows rows' => rows.map Fields.keys = rows'.map Fields.keys)
      (presentRecords records) (presentRecords others) := by
  unfold GivenRecords.keys at h
  unfold presentRecords
  generalize records.items? = records, others.items? = others at h ⊢
  rcases records with _ | records <;> rcases others with _ | others
  · exact .error _
  · cases h
  · cases h
  rw [Option.map_some, Option.map_some, Option.some.injEq] at h
  change Matched _ (records.mapM required) (others.mapM required)
  induction records generalizing others with
  | nil =>
    obtain rfl := List.map_eq_nil_iff.1 h.symm
    exact .ok rfl
  | cons record records ih =>
    rcases others with _ | ⟨other, others⟩
    · cases h
    rw [List.map_cons, List.map_cons, List.cons.injEq] at h
    rw [List.mapM_cons, List.mapM_cons]
    rcases record with _ | record <;> rcases other with _ | other
    · exact .error _
    · cases h.1
    · cases h.1
    · refine (ih others h.2).bind fun rows rows' hrows => ?_
      exact .ok (by rw [List.map_cons, List.map_cons, hrows, Option.some.inj h.1])

theorem recordExpressions_empty (record other : Row) (index : Nat) (columns : List String) :
    recordExpressions Fields.empty record index columns =
      recordExpressions Fields.empty other index columns := by
  induction columns generalizing index with
  | nil => rfl
  | cons column columns ih =>
    unfold recordExpressions
    rw [ih]
    rfl

theorem insertGroups_empty (columns : List String) (index : Nat) {records others : List Row}
    (h : records.length = others.length) :
    insertGroups Fields.empty columns index records =
      insertGroups Fields.empty columns index others := by
  induction records generalizing others index with
  | nil =>
    obtain rfl := List.length_eq_zero_iff.1 h.symm
    rfl
  | cons record records ih =>
    rcases others with _ | ⟨other, others⟩
    · cases h
    unfold insertGroups
    rw [recordExpressions_empty record other, ih _ (Nat.succ.inj h)]

theorem length_flatMap_recordValues (columns : List String) (records : List Row) :
    (records.flatMap (recordValues columns)).length = records.length * columns.length := by
  induction records with
  | nil => simp
  | cons record records ih =>
    rw [List.flatMap_cons, List.length_append, ih, recordValues, List.length_map,
      List.length_cons, Nat.add_one_mul, Nat.add_comm]

theorem insertQuery_matched (table : Table) {records others : List Row}
    (h : records.map Fields.keys = others.map Fields.keys) :
    Matched Query.SameText (insertQuery table Fields.empty records).outcome
      (insertQuery table Fields.empty others).outcome := by
  have hlength : records.length = others.length := by simpa using congrArg List.length h
  have hempty : records.isEmpty = others.isEmpty := by
    rw [Bool.eq_iff_iff, List.isEmpty_iff_length_eq_zero, List.isEmpty_iff_length_eq_zero, hlength]
  have hcolumns : unifiedColumns records = unifiedColumns others := by
    unfold unifiedColumns
    rw [List.flatMap_def, List.flatMap_def, h]
  unfold insertQuery
  rw [hempty, hcolumns]
  split
  · exact .error _
  · dsimp only
    rw [insertGroups_empty _ _ hlength]
    refine Matched.bind_outcome_same _ fun groups => ?_
    exact .ok ⟨rfl, by simp only [length_flatMap_recordValues, hlength]⟩

theorem query_matched (table : Table) {statement other : Statement}
    (h : statement.SameShape other) :
    Matched Query.SameText (statement.query table Fields.empty).outcome
      (other.query table Fields.empty).outcome := by
  cases statement with
  | select conditions =>
    cases other <;> try contradiction
    exact filtered_matched _ h
  | count conditions =>
    cases other <;> try contradiction
    exact filtered_matched _ h
  | insert records =>
    cases other <;> try contradiction
    exact (presentRecords_matched h).bind_outcome fun _ _ hrows => insertQuery_matched table hrows
  | update assignments conditions =>
    cases other <;> try contradiction
    exact updateQuery_matched table h.1 h.2
  | delete conditions =>
    cases other <;> try contradiction
    refine (filtered_matched _ h).bind_outcome fun query other hquery => ?_
    exact .ok ⟨congrArg (· ++ " RETURNING *") hquery.1, hquery.2⟩

/-! ## No text of values -/

/-- Two runs fail with the same error, or give the same text and as many values, and then the same
again in every style. -/
def SameTexts : Except Error Query → Except Error Query → Prop :=
  Matched fun query other => query.SameText other ∧
    ∀ style, Matched Prepared.SameText (query.prepare style) (other.prepare style)

/-- What is written for values of the same shapes is the same: for a template, for conditions with
any options, and for a statement of any kind. -/
theorem text_of_shapes :
    (∀ (template : String) (named other : Row),
      (∀ name, (named.get? name).map Value.shape = (other.get? name).map Value.shape) →
        SameTexts (Template.bind template named) (Template.bind template other)) ∧
    (∀ (options : ConditionOptions) (conditions others : Row),
      Row.shape conditions = Row.shape others →
        SameTexts (compileConditions Fields.empty options conditions).outcome
          (compileConditions Fields.empty options others).outcome) ∧
    ∀ (table : Table) (statement other : Statement), statement.SameShape other →
      SameTexts (statement.query table Fields.empty).outcome
        (other.query table Fields.empty).outcome := by
  have hprepare : ∀ query other : Query, query.SameText other → query.SameText other ∧
      ∀ style, Matched Prepared.SameText (query.prepare style) (other.prepare style) :=
    fun query other h => ⟨h, prepare_matched h⟩
  refine ⟨fun template named other h => ?_, fun options conditions others h => ?_,
    fun table statement other h => ?_⟩
  · exact (bind_matched h template).mono hprepare
  · exact (compileConditions_matched options h).mono hprepare
  · exact (query_matched table h).mono hprepare

theorem text_of_shapes_quote :
    let plain : Row := (Fields.empty.insert "name" (.int 1)).insert "id" (.list [.int 2, .null])
    let quoting : Row :=
      (Fields.empty.insert "name" (.text "' OR '1'='1")).insert "id" (.tuple [.text "--", .int 3])
    let template := "name = :name AND id IN (:id)"
    let table : Table := ⟨"app", "users"⟩
    SameTexts (Template.bind template plain) (Template.bind template quoting) ∧
      SameTexts (compileConditions Fields.empty {} plain).outcome
        (compileConditions Fields.empty {} quoting).outcome ∧
      SameTexts ((Statement.update plain quoting).query table Fields.empty).outcome
        ((Statement.update quoting plain).query table Fields.empty).outcome := by
  intro plain quoting template table
  have hshape : Row.shape plain = Row.shape quoting := by decide
  have hnames : ∀ name,
      (plain.get? name).map Value.shape = (quoting.get? name).map Value.shape := by
    intro name
    rw [shape_get?, shape_get?, hshape]
  obtain ⟨hbind, hconditions, hstatement⟩ := text_of_shapes
  exact ⟨hbind template plain quoting hnames, hconditions {} plain quoting hshape,
    hstatement table (.update plain quoting) (.update quoting plain) ⟨hshape, hshape.symm⟩⟩

end ParamSql
