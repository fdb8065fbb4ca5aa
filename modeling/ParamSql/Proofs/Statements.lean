import ParamSql.Proofs.Shapes
import ParamSql.Proofs.Slots

/-!
# Statements without properties

The placeholders that a statement writes are numbered from one on, one for each value that it binds.
If no name hides a placeholder or a literal, a driver gets the values in that order.
-/

namespace ParamSql

open Sql TokenKind

/-! ## Conditions -/

theorem placeholders_succ (start : Int) (count : Nat) :
    placeholders start (count + 1) = placeholder start :: placeholders (start + 1) count := by
  rw [placeholders, List.range_succ_eq_map, List.map_cons, List.map_map, placeholders]
  congr 1
  · simp
  · apply List.map_congr_left
    intro offset _
    rw [Function.comp_apply]
    congr 1
    omega

/-- The placeholders of `count` numbers from `start` on are all written. -/
def Writes (slot : Int → Except Error String) (start count : Nat) : Prop :=
  ∀ n, start ≤ n → n < start + count → slot n = .ok (placeholder n)

theorem Writes.mono {slot : Int → Except Error String} {start count first some : Nat}
    (h : Writes slot start count) (hstart : start ≤ first) (hend : first + some ≤ start + count) :
    Writes slot first some :=
  fun n hle hlt => h n (by omega) (by omega)

theorem expressions_of_writes {slot : Int → Except Error String} {start count : Nat}
    (h : Writes slot start count) (column : String) (source : Row) :
    Properties.expressions Fields.empty slot column source start count =
      pure (placeholders start count) := by
  induction count generalizing start with
  | zero => rfl
  | succ count ih =>
    have hrest : Writes slot (start + 1) count := h.mono (by omega) (by omega)
    unfold Properties.expressions
    rw [h start (by omega) (by omega), ← Int.natCast_succ, ih hrest, placeholders_succ]
    rfl

/-- One comparison for each entry, with placeholders numbered on from one to the next. -/
def comparisons : Nat → List (String × Value) → List String
  | _, [] => []
  | index, (column, value) :: rest =>
    let condition := Condition.ofValue value
    condition.text column (placeholders index condition.values.length) ::
      comparisons (index + condition.values.length) rest

def boundBy (entries : List (String × Value)) : List Value :=
  entries.flatMap fun entry => (Condition.ofValue entry.2).values

theorem boundBy_cons (entry : String × Value) (rest : List (String × Value)) :
    boundBy (entry :: rest) = (Condition.ofValue entry.2).values ++ boundBy rest :=
  List.flatMap_cons

theorem compileEntries_of_writes {slot : Int → Except Error String} {index : Nat}
    {entries : List (String × Value)} (h : Writes slot index (boundBy entries).length)
    (source : Row) :
    compileEntries Fields.empty slot source index entries =
      pure (comparisons index entries, boundBy entries) := by
  induction entries generalizing index with
  | nil => rfl
  | cons entry rest ih =>
    obtain ⟨column, value⟩ := entry
    rw [boundBy_cons, List.length_append] at h
    unfold compileEntries
    dsimp only at h ⊢
    rw [expressions_of_writes (h.mono (by omega) (by omega)), ← Int.natCast_add,
      ih (h.mono (by omega) (by omega))]
    rfl

theorem compileConditions_of_start {properties : Properties} {options : ConditionOptions}
    {offset : Nat} (hmode : options.mode.consulted properties = Fields.empty)
    (hoffset : options.offset.start = .ok (offset : Int)) (conditions : Row) :
    compileConditions properties options conditions =
      compileEntries Fields.empty options.offset.slot conditions (offset + 1 : Nat)
        conditions.entries >>= fun compiled =>
          pure ⟨options.joiner.intercalate compiled.1, compiled.2⟩ := by
  unfold compileConditions
  rw [hmode, hoffset]
  split
  · next hempty =>
    have hnil : conditions.entries = [] := List.isEmpty_iff.1 hempty
    rw [hnil, compileEntries]
    show _ = pure (⟨options.joiner.intercalate [], []⟩ : Query)
    rw [String.intercalate_nil]
  · rfl

theorem compileConditions_of_writes {properties : Properties} {options : ConditionOptions}
    {offset : Nat} {conditions : Row} (hmode : options.mode.consulted properties = Fields.empty)
    (hoffset : options.offset.start = .ok (offset : Int))
    (h : Writes options.offset.slot (offset + 1) (boundBy conditions.entries).length) :
    compileConditions properties options conditions =
      pure ⟨options.joiner.intercalate (comparisons (offset + 1) conditions.entries),
        boundBy conditions.entries⟩ := by
  rw [compileConditions_of_start hmode hoffset, compileEntries_of_writes h]
  rfl

theorem compileConditions_past {options : ConditionOptions} {offset : Nat}
    (hoffset : options.offset = .past offset) (conditions : Row) :
    compileConditions Fields.empty options conditions =
      pure ⟨options.joiner.intercalate (comparisons (offset + 1) conditions.entries),
        boundBy conditions.entries⟩ := by
  apply compileConditions_of_writes
  · cases options.mode <;> rfl
  · rw [hoffset]
    rfl
  · rw [hoffset]
    exact fun n _ _ => rfl

/-! ## Numbered fragments -/

/-- No literal and no question mark. -/
def Quiet (text : String) : Prop := ∀ c ∈ text.toList, c ≠ '\'' ∧ c ≠ '?'

-- Decided along the list: the instance for all characters tries every one of them.
instance (text : String) : Decidable (Quiet text) := List.decidableBAll _ text.toList

@[simp] theorem quiet_append {text rest : String} :
    Quiet (text ++ rest) ↔ Quiet text ∧ Quiet rest := by
  simp only [Quiet, String.toList_append, List.mem_append, or_imp, forall_and]
  tauto

theorem forall_mem_intercalate {p : Char → Prop} {separator : String}
    (hseparator : ∀ c ∈ separator.toList, p c) {texts : List String}
    (h : ∀ text ∈ texts, ∀ c ∈ text.toList, p c) :
    ∀ c ∈ (separator.intercalate texts).toList, p c := by
  induction texts with
  | nil => simp
  | cons text texts ih =>
    cases texts with
    | nil => simpa using h
    | cons other texts =>
      have hrest := ih fun later hlater => h later (List.mem_cons_of_mem _ hlater)
      rw [String.intercalate_cons_cons, String.toList_append, String.toList_append]
      exact List.forall_mem_append.2
        ⟨List.forall_mem_append.2 ⟨h text List.mem_cons_self, hseparator⟩, hrest⟩

theorem not_mem_intercalate {separator : String} {c : Char} (hseparator : c ∉ separator.toList)
    {texts : List String} (h : ∀ text ∈ texts, c ∉ text.toList) :
    c ∉ (separator.intercalate texts).toList := by
  intro hmem
  refine forall_mem_intercalate (p := (· ≠ c)) (fun d hd heq => hseparator (heq ▸ hd)) ?_ c hmem rfl
  exact fun text htext d hd heq => h text htext (heq ▸ hd)

theorem quiet_intercalate {separator : String} (hseparator : Quiet separator) {texts : List String}
    (h : ∀ text ∈ texts, Quiet text) : Quiet (separator.intercalate texts) :=
  forall_mem_intercalate hseparator h

theorem not_mem_numbered {c : Char} (hdigit : Text.isDigit c = false) (hc : c ∉ "$, ".toList)
    (start count : Nat) : c ∉ (numbered "$" start count).toList := by
  obtain ⟨hdollar, hcomma⟩ : c ∉ "$".toList ∧ c ∉ ", ".toList := by simpa using hc
  refine not_mem_intercalate hcomma fun text htext hd => ?_
  obtain ⟨n, -, rfl⟩ := List.mem_map.1 htext
  rw [String.toList_append, List.mem_append] at hd
  rcases hd with hd | hd
  · exact hdollar hd
  · rw [Text.isDigit_of_mem_toDigits (n := n) (by simpa using hd)] at hdigit
    cases hdigit

theorem quiet_numbered (start count : Nat) : Quiet (numbered "$" start count) := by
  intro c hc
  constructor
  all_goals
    rintro rfl
    exact not_mem_numbered (by decide) (by decide) start count hc

/-- A name in which nothing starts a placeholder, a numbered question mark or a literal. -/
def Unmarked (name : String) : Prop := '$' ∉ name.toList ∧ Quiet name

instance (name : String) : Decidable (Unmarked name) :=
  inferInstanceAs (Decidable (_ ∧ Quiet name))

theorem Unmarked.append {name rest : String} (hname : Unmarked name) (hrest : Unmarked rest) :
    Unmarked (name ++ rest) := by
  refine ⟨?_, quiet_append.2 ⟨hname.2, hrest.2⟩⟩
  rw [String.toList_append, List.mem_append, not_or]
  exact ⟨hname.1, hrest.1⟩

theorem unmarked_intercalate {separator : String} (hseparator : Unmarked separator)
    {names : List String} (h : ∀ name ∈ names, Unmarked name) :
    Unmarked (separator.intercalate names) := by
  exact ⟨not_mem_intercalate hseparator.1 fun name hname => (h name hname).1,
    quiet_intercalate hseparator.2 fun name hname => (h name hname).2⟩

/-- The placeholders of a text are `count` numbers from `start` on, and there is no literal. -/
structure Numbered (text : String) (start count : Nat) : Prop where
  slots : slotsIn text = numerals start count
  quiet : Quiet text

namespace Numbered

variable {text rest : String} {start count more : Nat}

theorem of_unmarked (h : Unmarked text) (start : Nat) : Numbered text start 0 :=
  ⟨slotsIn_of_not_mem h.1, h.2⟩

theorem append (htext : Numbered text start count) (hrest : Numbered rest (start + count) more)
    (hstop : slotKind.Stops rest.toList) : Numbered (text ++ rest) start (count + more) where
  slots := by rw [slotsIn_append _ hstop, htext.slots, hrest.slots, numerals_append]
  quiet := quiet_append.2 ⟨htext.quiet, hrest.quiet⟩

theorem after_unmarked (htext : Unmarked text) (hrest : Numbered rest start count) :
    Numbered (text ++ rest) start count where
  slots := by rw [slotsIn_append_of_not_mem htext.1, hrest.slots]
  quiet := quiet_append.2 ⟨htext.2, hrest.quiet⟩

theorem before_unmarked (htext : Numbered text start count) (hrest : Unmarked rest)
    (hstop : slotKind.Stops rest.toList) : Numbered (text ++ rest) start count :=
  htext.append (of_unmarked hrest _) hstop

theorem returning (h : Numbered text start count) :
    Numbered (text ++ " RETURNING *") start count := by
  have hstop : slotKind.Stops " RETURNING *".toList := slotKind.stops_cons.2 (by decide)
  exact h.before_unmarked (by decide) hstop

theorem intercalate {separator : String} {c : Char} (hhead : separator.toList.head? = some c)
    (hbody : slotKind.body c = false) (hseparator : Unmarked separator) {texts : List String}
    (hslots : texts.flatMap slotsIn = numerals start count) (hquiet : ∀ text ∈ texts, Quiet text) :
    Numbered (separator.intercalate texts) start count where
  slots := by rw [slotsIn_intercalate hhead hbody hseparator.1, hslots]
  quiet := quiet_intercalate hseparator.2 hquiet

end Numbered

theorem join_placeholders_one (index : Int) :
    String.join (placeholders index 1) = ", ".intercalate (placeholders index 1) := by
  rw [placeholders, List.range_one, List.map_singleton, String.intercalate_singleton]
  simp

theorem slotsIn_comparison {column : String} (hcolumn : '$' ∉ column.toList)
    (condition : Condition) (index : Nat) :
    slotsIn (condition.text column (placeholders index condition.values.length)) =
      numerals index condition.values.length := by
  cases condition with
  | scalar value =>
    rw [Condition.text, Condition.values, List.length_singleton, join_placeholders_one,
      intercalate_placeholders, String.append_assoc, slotsIn_append_of_not_mem hcolumn,
      slotsIn_append_of_not_mem (by decide), slotsIn_numbered]
  | anyOf values =>
    have hstop : slotKind.Stops ")".toList := slotKind.stops_cons.2 (by decide)
    rw [Condition.text, Condition.values, intercalate_placeholders, String.append_assoc,
      String.append_assoc, slotsIn_append_of_not_mem hcolumn, slotsIn_append_of_not_mem (by decide),
      slotsIn_append _ hstop, slotsIn_numbered, slotsIn_of_not_mem (by decide), List.append_nil]

theorem quiet_comparison {column : String} (hcolumn : Quiet column) (condition : Condition)
    (index : Nat) :
    Quiet (condition.text column (placeholders index condition.values.length)) := by
  have hnumbered := quiet_numbered index condition.values.length
  rw [← intercalate_placeholders] at hnumbered
  cases condition with
  | scalar value =>
    rw [Condition.values, List.length_singleton] at hnumbered ⊢
    rw [Condition.text, join_placeholders_one, quiet_append, quiet_append]
    exact ⟨⟨hcolumn, by decide⟩, hnumbered⟩
  | anyOf values =>
    rw [Condition.text, quiet_append, quiet_append, quiet_append]
    exact ⟨⟨⟨hcolumn, by decide⟩, hnumbered⟩, by decide⟩

theorem flatMap_slotsIn_comparisons {entries : List (String × Value)}
    (h : ∀ entry ∈ entries, '$' ∉ entry.1.toList) (index : Nat) :
    (comparisons index entries).flatMap slotsIn = numerals index (boundBy entries).length := by
  induction entries generalizing index with
  | nil => rfl
  | cons entry rest ih =>
    obtain ⟨column, value⟩ := entry
    have hrest : ∀ entry ∈ rest, '$' ∉ entry.1.toList :=
      fun entry hentry => h entry (List.mem_cons_of_mem _ hentry)
    rw [comparisons, List.flatMap_cons, ih hrest, slotsIn_comparison (h _ List.mem_cons_self),
      numerals_append, boundBy_cons, List.length_append]

theorem quiet_comparisons {entries : List (String × Value)}
    (h : ∀ entry ∈ entries, Quiet entry.1) (index : Nat) :
    ∀ text ∈ comparisons index entries, Quiet text := by
  induction entries generalizing index with
  | nil => simp [comparisons]
  | cons entry rest ih =>
    obtain ⟨column, value⟩ := entry
    rw [comparisons, List.forall_mem_cons]
    exact ⟨quiet_comparison (h _ List.mem_cons_self) _ index,
      ih (fun entry hentry => h entry (List.mem_cons_of_mem _ hentry)) _⟩

theorem compileConditions_numbered (options : ConditionOptions) {offset : Nat}
    (hoffset : options.offset = .past offset)
    (hjoiner : options.joiner = " AND " ∨ options.joiner = ", ") {conditions : Row}
    (hnames : ∀ name ∈ conditions.keys, Unmarked name) :
    ∃ fragment, compileConditions Fields.empty options conditions = pure fragment ∧
      Numbered fragment.text (offset + 1) fragment.values.length := by
  have hentries : ∀ entry ∈ conditions.entries, Unmarked entry.1 :=
    fun entry hentry => hnames _ (List.mem_map_of_mem hentry)
  have hquiet := quiet_comparisons (fun entry hentry => (hentries entry hentry).2) (offset + 1)
  have hslots := flatMap_slotsIn_comparisons (fun entry hentry => (hentries entry hentry).1)
    (offset + 1)
  refine ⟨_, compileConditions_past hoffset conditions, ?_⟩
  rcases hjoiner with hjoiner | hjoiner
  all_goals
    rw [hjoiner]
    exact .intercalate rfl (by decide) (by decide) hslots hquiet

/-! ## Filters -/

theorem appendWhere_numbered {text : String} {start count : Nat}
    (htext : Numbered text start count) {clause : Query}
    (hclause : Numbered clause.text (start + count) clause.values.length) :
    Numbered (appendWhere text clause) start (count + clause.values.length) := by
  unfold appendWhere
  split
  · rename_i hempty
    rw [List.isEmpty_iff.1 hempty]
    exact htext
  · have hstop : slotKind.Stops (" WHERE " ++ clause.text).toList :=
      stops_append_of_head rfl (by decide) _
    rw [String.append_assoc]
    exact htext.append (.after_unmarked (by decide) hclause) hstop

theorem filtered_numbered {text : String} (htext : Unmarked text) {conditions : Row}
    (hnames : ∀ name ∈ conditions.keys, Unmarked name) :
    ∃ query, filtered text conditions = pure query ∧
      Numbered query.text 1 query.values.length := by
  obtain ⟨clause, hcompile, hclause⟩ :=
    compileConditions_numbered .whereClause rfl (.inl rfl) hnames
  have happend := appendWhere_numbered (.of_unmarked htext 1) hclause
  rw [Nat.zero_add] at happend
  refine ⟨⟨appendWhere text clause, clause.values⟩, ?_, happend⟩
  unfold filtered
  rw [hcompile]
  rfl

theorem not_mem_qualifiedName {table : Table} {c : Char} (hschema : c ∉ table.schema.toList)
    (hname : c ∉ table.name.toList) (hdot : c ≠ '.') : c ∉ table.qualifiedName.toList := by
  unfold Table.qualifiedName
  simp [hschema, hname, hdot]

theorem unmarked_qualifiedName {table : Table} (hschema : Unmarked table.schema)
    (hname : Unmarked table.name) : Unmarked table.qualifiedName :=
  (hschema.append (by decide)).append hname

theorem updateQuery_numbered {table : Table} (htable : Unmarked table.qualifiedName)
    {assignments conditions : Row} (hset : ∀ name ∈ assignments.keys, Unmarked name)
    (hnames : ∀ name ∈ conditions.keys, Unmarked name) :
    ∃ query, updateQuery table Fields.empty assignments conditions = pure query ∧
      Numbered query.text 1 query.values.length := by
  obtain ⟨set, hcompileSet, hset⟩ :=
    compileConditions_numbered .setList rfl (.inr rfl) hset
  obtain ⟨clause, hcompile, hclause⟩ := compileConditions_numbered
    { ConditionOptions.whereClause with offset := .past set.values.length } rfl (.inl rfl) hnames
  have hstart : Unmarked ("UPDATE " ++ table.qualifiedName ++ " SET ") :=
    (Unmarked.append (by decide) htable).append (by decide)
  have htext := appendWhere_numbered (.after_unmarked hstart hset) (Nat.add_comm .. ▸ hclause)
  refine ⟨⟨appendWhere ("UPDATE " ++ table.qualifiedName ++ " SET " ++ set.text) clause ++
    " RETURNING *", set.values ++ clause.values⟩, ?_, ?_⟩
  · unfold updateQuery
    rw [hcompileSet]
    show (do
      let clause ← compileConditions Fields.empty
        { ConditionOptions.whereClause with offset := .past set.values.length } conditions
      return (⟨_, _⟩ : Query) : Rendering Query) = _
    rw [hcompile]
    rfl
  · rw [List.length_append]
    exact htext.returning

/-! ## Insertions -/

theorem recordExpressions_numbered (record : Row) (index : Nat) (columns : List String) :
    recordExpressions Fields.empty record index columns =
      pure (placeholders index columns.length) := by
  induction columns generalizing index with
  | nil => rfl
  | cons column columns ih =>
    unfold recordExpressions
    rw [ih, List.length_cons, placeholders_succ, Int.natCast_add]
    rfl

/-- So many groups of consecutive placeholders, each as wide as the next. -/
def groupTexts (width : Nat) : Nat → Nat → List String
  | _, 0 => []
  | index, count + 1 =>
    ("(" ++ numbered "$" index width ++ ")") :: groupTexts width (index + width) count

theorem insertGroups_numbered (columns : List String) (index : Nat) (records : List Row) :
    insertGroups Fields.empty columns index records =
      pure (groupTexts columns.length index records.length) := by
  induction records generalizing index with
  | nil => rfl
  | cons record records ih =>
    unfold insertGroups
    rw [recordExpressions_numbered, ih, List.length_cons, groupTexts, ← intercalate_placeholders]
    rfl

theorem numbered_group (index width : Nat) :
    Numbered ("(" ++ numbered "$" index width ++ ")") index width := by
  have hstop : slotKind.Stops ")".toList := slotKind.stops_cons.2 (by decide)
  have hnumbered : Numbered (numbered "$" index width) index width :=
    ⟨slotsIn_numbered index width, quiet_numbered index width⟩
  exact (Numbered.after_unmarked (by decide) hnumbered).before_unmarked (by decide) hstop

theorem flatMap_slotsIn_groupTexts (width index count : Nat) :
    (groupTexts width index count).flatMap slotsIn = numerals index (count * width) := by
  induction count generalizing index with
  | zero => rw [Nat.zero_mul]; rfl
  | succ count ih =>
    rw [groupTexts, List.flatMap_cons, (numbered_group index width).slots, ih, numerals_append,
      Nat.add_one_mul, Nat.add_comm width]

theorem quiet_groupTexts (width index count : Nat) :
    ∀ text ∈ groupTexts width index count, Quiet text := by
  induction count generalizing index with
  | zero => simp [groupTexts]
  | succ count ih =>
    rw [groupTexts, List.forall_mem_cons]
    exact ⟨(numbered_group index width).quiet, ih _⟩

theorem mem_unifiedColumns {records : List Row} {column : String} :
    column ∈ unifiedColumns records ↔ ∃ record ∈ records, column ∈ record.keys := by
  rw [unifiedColumns, List.mem_eraseDups, List.mem_flatMap]

theorem insertQuery_of_no_properties (table : Table) {records : List Row} (hne : records ≠ []) :
    insertQuery table Fields.empty records =
      pure ⟨insertText table (unifiedColumns records)
        (groupTexts (unifiedColumns records).length 1 records.length),
        records.flatMap (recordValues (unifiedColumns records))⟩ := by
  unfold insertQuery
  rw [if_neg (by simpa using hne)]
  dsimp only
  rw [insertGroups_numbered]
  rfl

theorem insertQuery_numbered {table : Table} (htable : Unmarked table.qualifiedName)
    {records : List Row} (hne : records ≠ [])
    (hnames : ∀ record ∈ records, ∀ name ∈ record.keys, Unmarked name) :
    ∃ query, insertQuery table Fields.empty records = pure query ∧
      Numbered query.text 1 query.values.length := by
  have hcolumns : Unmarked (", ".intercalate (unifiedColumns records)) := by
    apply unmarked_intercalate (by decide)
    intro column hcolumn
    obtain ⟨record, hrecord, hname⟩ := mem_unifiedColumns.1 hcolumn
    exact hnames record hrecord column hname
  have hstart : Unmarked ("INSERT INTO " ++ table.qualifiedName ++ " (" ++
      ", ".intercalate (unifiedColumns records) ++ ") VALUES ") :=
    (((Unmarked.append (by decide) htable).append (by decide)).append hcolumns).append (by decide)
  have hgroups : Numbered (", ".intercalate (groupTexts (unifiedColumns records).length 1
      records.length)) 1 (records.length * (unifiedColumns records).length) :=
    .intercalate rfl (by decide) (by decide) (flatMap_slotsIn_groupTexts _ _ _)
      (quiet_groupTexts _ _ _)
  refine ⟨_, insertQuery_of_no_properties table hne, ?_⟩
  rw [length_flatMap_recordValues]
  exact (Numbered.after_unmarked hstart hgroups).returning

/-- These are the records that are given, and none is absent. -/
def GivenRecords.Gives (given : GivenRecords) (records : List Row) : Prop :=
  given.items? = some (records.map some)

theorem presentRecords_of_gives {given : GivenRecords} {records : List Row}
    (h : given.Gives records) : presentRecords given = .ok records := by
  have hrequired : presentRecords given = (records.map some).mapM required := by
    unfold presentRecords
    rw [h]
    rfl
  rw [hrequired]
  clear hrequired h
  induction records with
  | nil => rfl
  | cons record records ih =>
    rw [List.map_cons, List.mapM_cons, ih]
    rfl

/-! ## All statements -/

namespace Statement

/-- The names that a statement is given for columns. -/
def names : Statement → List String
  | select conditions => conditions.keys
  | count conditions => conditions.keys
  | insert given =>
    (given.items?.getD []).flatMap fun record => (record.map Fields.keys).getD []
  | update assignments conditions => assignments.keys ++ conditions.keys
  | delete conditions => conditions.keys

/-- There is a record to insert, and none is absent. -/
def Present : Statement → Prop
  | insert given => ∃ records, records ≠ [] ∧ given.Gives records
  | _ => True

theorem query_numbered {table : Table} (hschema : Unmarked table.schema)
    (hname : Unmarked table.name) {statement : Statement} (hpresent : statement.Present)
    (hnames : ∀ name ∈ statement.names, Unmarked name) :
    ∃ query, statement.query table Fields.empty = pure query ∧
      Numbered query.text 1 query.values.length := by
  have htable := unmarked_qualifiedName hschema hname
  have hfrom : Unmarked table.fromClause := (htable.append (by decide)).append hname
  cases statement with
  | select conditions => exact filtered_numbered (Unmarked.append (by decide) hfrom) hnames
  | count conditions => exact filtered_numbered (Unmarked.append (by decide) hfrom) hnames
  | insert given =>
    obtain ⟨records, hne, hgives⟩ := hpresent
    have hrecords : ∀ record ∈ records, ∀ name ∈ record.keys, Unmarked name := by
      intro record hrecord name hname
      refine hnames _ (List.mem_flatMap.2 ⟨some record, ?_, hname⟩)
      rw [hgives]
      exact List.mem_map_of_mem hrecord
    obtain ⟨query, hquery, hnumbered⟩ := insertQuery_numbered htable hne hrecords
    refine ⟨query, ?_, hnumbered⟩
    dsimp only [Statement.query]
    rw [presentRecords_of_gives hgives]
    exact hquery
  | update assignments conditions =>
    exact updateQuery_numbered htable
      (fun name hname => hnames name (List.mem_append_left _ hname))
      fun name hname => hnames name (List.mem_append_right _ hname)
  | delete conditions =>
    have hstart : Unmarked ("DELETE FROM " ++ table.qualifiedName) :=
      Unmarked.append (by decide) htable
    obtain ⟨query, hquery, hnumbered⟩ := filtered_numbered hstart hnames
    refine ⟨⟨query.text ++ " RETURNING *", query.values⟩, ?_, hnumbered.returning⟩
    dsimp only [Statement.query]
    rw [hquery]
    rfl

end Statement

/-! ## From a statement to its driver -/

theorem pieces_of_quiet {text : String} (h : Quiet text) :
    slotKind.piecesOutside text.toList = slotKind.pieces text.toList :=
  piecesOutside_of_no_quote fun hquote => (h _ hquote).1 rfl

theorem starts_question_of_quiet {text : String} (h : Quiet text) :
    questionKind.starts text.toList = [] :=
  starts_of_not_mem fun hquestion => (h _ hquestion).2 rfl

/-- A statement of any kind that is given names without marks can be prepared in every style: its
placeholders are numbered from one on, and each driver gets the values in that order. Numbers of more
than 4300 digits are not read, and no list is so long that its length is one. -/
theorem driver_of_statement (table : Table) (statement : Statement)
    (hschema : Unmarked table.schema) (hname : Unmarked table.name)
    (hpresent : statement.Present) (hnames : ∀ name ∈ statement.names, Unmarked name) :
    ∃ query, (statement.query table Fields.empty).outcome = .ok query ∧
      ((Nat.toDigits 10 query.values.length).length ≤ 4300 →
        query.placeholderIndices = .ok (List.range' 1 query.values.length) ∧
        ∃ sql symbols, query.prepare .format = .ok ⟨sql, query.values⟩ ∧
          readDirectives sql.toList query.values = some symbols ∧
          symbols.filterMap Symbol.bound? = query.values) ∧
      ∃ sql, query.prepare .qmark = .ok ⟨sql, query.values⟩ ∧
        (questionKind.starts sql.toList).map (questionKind.bodyAt sql.toList) =
          (List.range' 1 query.values.length).map (Nat.toDigits 10) := by
  obtain ⟨query, hquery, hslots, hquiet⟩ := Statement.query_numbered hschema hname hpresent hnames
  have hbodies : (slotKind.piecesOutside query.text.toList).filterMap Piece.body? =
      numerals 1 query.values.length := by
    rw [pieces_of_quiet hquiet]
    exact hslots
  refine ⟨query, by rw [hquery]; rfl, fun hlength => ?_, ?_⟩
  · obtain ⟨sql, symbols, hformat, hread, hbound⟩ :=
      formatPieces_of_numerals (List.drop_zero) hbodies hlength
    refine ⟨placeholderIndices_of_numerals hslots hlength, String.ofList sql, symbols, ?_, ?_,
      hbound⟩
    · rw [Query.prepare, hformat]
      rfl
    · rw [String.toList_ofList, hread]
  · refine ⟨qmarkText query.text, rfl, ?_⟩
    rw [qmarkText, ← questionText_eq, String.toList_ofList,
      ← bodies_piecesOutside lawful_questionKind,
      piecesOutside_questionText (starts_question_of_quiet hquiet), hbodies, numerals]

theorem driver_of_statement_update :
    let assignments : Row :=
      (Fields.empty.insert "name" (.text "$9")).insert "50%" (.list [.int 7, .null])
    let conditions : Row := Fields.empty.insert "2%s" (.tuple [.int 8])
    ∃ query, ((Statement.update assignments conditions).query ⟨"app", "users"⟩
        Fields.empty).outcome = .ok query ∧
      query.text = "UPDATE app.users SET name = $1, 50% IN ($2, $3) WHERE 2%s IN ($4) RETURNING *" ∧
      query.placeholderIndices = .ok [1, 2, 3, 4] ∧
      (∃ sql symbols, query.prepare .format = .ok ⟨sql, query.values⟩ ∧
        readDirectives sql.toList query.values = some symbols ∧
        symbols.filterMap Symbol.bound? = [.text "$9", .int 7, .null, .int 8]) ∧
      ∃ sql, query.prepare .qmark = .ok ⟨sql, query.values⟩ ∧
        (questionKind.starts sql.toList).map (questionKind.bodyAt sql.toList) =
          [['1'], ['2'], ['3'], ['4']] := by
  intro assignments conditions
  have hcompiled : ((Statement.update assignments conditions).query ⟨"app", "users"⟩
      Fields.empty).outcome =
        .ok ⟨"UPDATE app.users SET name = $1, 50% IN ($2, $3) WHERE 2%s IN ($4) RETURNING *",
          [.text "$9", .int 7, .null, .int 8]⟩ := rfl
  obtain ⟨query, hquery, hformat, hqmark⟩ :=
    driver_of_statement ⟨"app", "users"⟩ (.update assignments conditions)
      (by decide) (by decide) trivial (by decide)
  obtain rfl := Except.ok.inj (hcompiled.symm.trans hquery)
  obtain ⟨hindices, hformat⟩ := hformat (by decide)
  exact ⟨_, hquery, rfl, hindices, hformat, hqmark⟩

end ParamSql
