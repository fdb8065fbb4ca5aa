import Mathlib.Data.List.Forall2
import ParamSql.Proofs.Executions
import ParamSql.Proofs.Mappings

/-!
# Rows of a result

The rows of a cursor are zipped with its columns, and a key rule then names their cells anew. Both
write a mapping entry by entry: of columns with one name the last cell stays, and of names that become
one the cell of the last.
-/

namespace ParamSql

open Blocking

/-! ## Rows with texts as keys -/

def textEntries (entries : List (String × Value)) : List (Value × Value) :=
  entries.map fun entry => (.text entry.1, entry.2)

/-- A row whose names are given as the texts that they are. -/
def Row.asResult (row : Row) : ResultRow where
  entries := textEntries row.entries
  distinct := by
    refine List.pairwise_map.2 (row.distinct.imp fun {first later} hne => ?_)
    rwa [Value.text_beq_text]

theorem Row.keys_asResult (row : Row) : (Row.asResult row).keys = row.keys.map .text := by
  unfold Row.asResult textEntries Fields.keys
  rw [List.map_map, List.map_map]
  rfl

theorem Row.get?_asResult (row : Row) (name : String) :
    (Row.asResult row).get? (.text name) = row.get? name := by
  show (textEntries row.entries).lookup (.text name) = row.entries.lookup name
  induction row.entries with
  | nil => rfl
  | cons entry rest ih =>
    rw [textEntries, List.map_cons, List.lookup_cons, List.lookup_cons, Value.text_beq_text,
      ← textEntries, ih]

theorem putEntry_textEntries (entries : List (String × Value)) (name : String) (value : Value) :
    putEntry (textEntries entries) (.text name) value = textEntries (putEntry entries name value) := by
  induction entries with
  | nil => rfl
  | cons entry rest ih =>
    rw [textEntries, List.map_cons, putEntry, putEntry, Value.text_beq_text, ← textEntries, ih]
    split <;> rfl

theorem ofList_textEntries (entries : List (String × Value)) :
    Fields.ofList (textEntries entries) = Row.asResult (Fields.ofList entries) := by
  induction entries using List.reverseRecOn with
  | nil => rfl
  | append_singleton entries entry ih =>
    have hlast : Fields.ofList (textEntries (entries ++ [entry])) =
        (Fields.ofList (textEntries entries)).insert (.text entry.1) entry.2 := by
      rw [textEntries, List.map_append]
      exact List.foldl_append
    rw [hlast, ih, Fields.ofList_concat]
    exact Fields.ext (putEntry_textEntries _ _ _)

theorem exists_textEntries {entries : List (Value × Value)}
    (h : ∀ entry ∈ entries, ∃ name, entry.1 = .text name) :
    ∃ named : List (String × Value), textEntries named = entries := by
  induction entries with
  | nil => exact ⟨[], rfl⟩
  | cons entry rest ih =>
    obtain ⟨⟨name, hname⟩, hrest⟩ := List.forall_mem_cons.1 h
    obtain ⟨named, rfl⟩ := ih hrest
    refine ⟨(name, entry.2) :: named, ?_⟩
    rw [textEntries, List.map_cons, ← hname]
    rfl

theorem Row.exists_asResult {row : ResultRow} (h : ∀ key ∈ row.keys, ∃ name, key = .text name) :
    ∃ named : Row, Row.asResult named = row := by
  obtain ⟨named, hnamed⟩ := exists_textEntries fun entry hentry =>
    h entry.1 (List.mem_map_of_mem hentry)
  have hdistinct := row.distinct
  rw [← hnamed, Distinct, textEntries, List.pairwise_map] at hdistinct
  have hnames : Distinct named := hdistinct.imp fun {first later} hne => by
    rwa [Value.text_beq_text] at hne
  exact ⟨⟨named, hnames⟩, Fields.ext hnamed⟩

/-! ## All or nothing -/

section

variable {ε α β : Type} {f : α → Except ε β} {members : List α}

theorem mapM_of_ok {image : α → β} (h : ∀ member ∈ members, f member = .ok (image member)) :
    members.mapM f = .ok (members.map image) := by
  induction members with
  | nil => rfl
  | cons member members ih =>
    rw [List.forall_mem_cons] at h
    rw [List.mapM_cons, h.1, ih h.2]
    rfl

theorem exists_mapM {related : α → β → Prop}
    (h : ∀ member ∈ members, ∃ image, f member = .ok image ∧ related member image) :
    ∃ images, members.mapM f = .ok images ∧ List.Forall₂ related members images := by
  induction members with
  | nil => exact ⟨[], rfl, .nil⟩
  | cons member members ih =>
    obtain ⟨⟨image, hf, hrelated⟩, hrest⟩ := List.forall_mem_cons.1 h
    obtain ⟨images, hmap, hall⟩ := ih hrest
    refine ⟨image :: images, ?_, .cons hrelated hall⟩
    rw [List.mapM_cons, hf, hmap]
    rfl

theorem mapM_of_error {member : α} {error : ε} (hmem : member ∈ members)
    (h : f member = .error error) : ∃ first, members.mapM f = .error first := by
  induction members with
  | nil => cases hmem
  | cons other members ih =>
    rw [List.mapM_cons]
    cases hother : f other with
    | error first => exact ⟨first, rfl⟩
    | ok image =>
      have hlater : member ∈ members := by
        refine (List.mem_cons.1 hmem).resolve_left ?_
        rintro rfl
        rw [hother] at h
        cases h
      obtain ⟨first, hfirst⟩ := ih hlater
      rw [hfirst]
      exact ⟨first, rfl⟩

end

/-! ## Zipping -/

/-- The cells of a row, each under the name of its column. -/
def zipped (columns : List String) (cells : List Value) : Row := Fields.ofList (columns.zip cells)

section

variable {columns : List String} {cells : List Value}

theorem nameCells_of_length (h : cells.length = columns.length) :
    nameCells columns (.cells cells) = .ok (Row.asResult (zipped columns cells)) := by
  have htexts : (columns.map Value.text).zip cells = textEntries (columns.zip cells) := by
    rw [textEntries, List.zip_map_left]
    rfl
  show (if columns.length < cells.length then _ else if cells.length < columns.length then _ else _) = _
  rw [h, if_neg (Nat.lt_irrefl _), if_neg (Nat.lt_irrefl _), htexts, ofList_textEntries]
  rfl

theorem nameCells_of_ne (h : cells.length ≠ columns.length) :
    ∃ error, nameCells columns (.cells cells) = .error error := by
  show ∃ error, (if columns.length < cells.length then _ else
    if cells.length < columns.length then _ else _) = Except.error error
  split
  · exact ⟨_, rfl⟩
  · next hlong =>
    rw [if_pos (Nat.lt_of_le_of_ne (Nat.not_lt.1 hlong) h)]
    exact ⟨_, rfl⟩

end

section

variable {cursor : Cursor} {rows : List (List Value)}

theorem assemble_cells (h : cursor.rows = rows.map .cells) :
    cursor.assemble = rows.mapM fun cells => nameCells cursor.columns (.cells cells) := by
  unfold Cursor.assemble
  rw [h]
  cases rows with
  | nil => rfl
  | cons cells rows => exact List.mapM_map

theorem assemble_of_width (h : cursor.rows = rows.map .cells)
    (hwidth : ∀ cells ∈ rows, cells.length = cursor.columns.length) :
    cursor.assemble = .ok (rows.map fun cells => Row.asResult (zipped cursor.columns cells)) := by
  rw [assemble_cells h]
  exact mapM_of_ok fun cells hcells => nameCells_of_length (hwidth cells hcells)

theorem error_of_width (h : cursor.rows = rows.map .cells)
    (hwidth : ¬ ∀ cells ∈ rows, cells.length = cursor.columns.length) :
    ∃ cause, cursor.assemble = .error cause := by
  push Not at hwidth
  obtain ⟨cells, hmem, hne⟩ := hwidth
  obtain ⟨error, herror⟩ := nameCells_of_ne hne
  rw [assemble_cells h]
  exact mapM_of_error hmem herror

end

/-! ## Naming anew -/

/-- The key rule gives each name one name, or there is none and names stay. -/
def Engine.Names (engine : Engine) (f : String → String) : Prop :=
  match engine.keyRule with
  | none => f = id
  | some rule => ∀ name, rule (.text name) = .ok (f name)

def renamedEntries (f : String → String) (row : Row) : List (String × Value) :=
  row.entries.map fun entry => (f entry.1, entry.2)

/-- A row whose cells have new names. -/
def renamed (f : String → String) (row : Row) : Row := Fields.ofList (renamedEntries f row)

theorem renameEntries_of_names {rule : KeyRule} {f : String → String}
    (h : ∀ name, rule (.text name) = .ok (f name)) (entries : List (String × Value)) :
    rule.renameEntries (textEntries entries) =
      .ok (textEntries (entries.map fun entry => (f entry.1, entry.2))) := by
  induction entries with
  | nil => rfl
  | cons entry rest ih =>
    rw [textEntries, List.map_cons, KeyRule.renameEntries, h, ← textEntries, ih]
    rfl

theorem renameRow_of_names {rule : KeyRule} {f : String → String}
    (h : ∀ name, rule (.text name) = .ok (f name)) (row : Row) :
    rule.renameRow (Row.asResult row) = .ok (Row.asResult (renamed f row)) := by
  have hentries := renameEntries_of_names h row.entries
  unfold KeyRule.renameRow
  show (rule.renameEntries (textEntries row.entries) >>= _) = _
  rw [hentries]
  exact congrArg Except.ok (ofList_textEntries _)

theorem renamed_id (row : Row) : renamed id row = row := by
  have hentries : renamedEntries id row = row.entries := List.map_id row.entries
  apply Fields.ext
  rw [renamed, hentries]
  exact Fields.entries_ofList_of_nodup row.nodup_keys

theorem renameRows_of_names {engine : Engine} {f : String → String} (h : engine.Names f)
    (rows : List Row) :
    renameRows engine.keyRule (rows.map Row.asResult) =
      .ok (rows.map fun row => Row.asResult (renamed f row)) := by
  unfold Engine.Names at h
  cases hrule : engine.keyRule with
  | none =>
    rw [hrule] at h
    dsimp only at h
    subst h
    simp only [renamed_id]
    rfl
  | some rule =>
    rw [hrule] at h
    show (rows.map Row.asResult).mapM rule.renameRow = _
    rw [List.mapM_map]
    exact mapM_of_ok fun row _ => renameRow_of_names h row

/-! ## Rows that are returned -/

/-- A row of a result that has the given names in their order. A name holds the last cell of a column,
the last of those that it is the new name of; and if no two columns get one name, all cells are there
in their order. -/
structure NamedRow (f : String → String) (columns distinct names : List String) (cells : List Value)
    (row : ResultRow) : Prop where
  keys : row.keys = names.map .text
  values : ∀ name ∈ names, ∃ column value,
    LastWith (fun other => f other = name) distinct column ∧
    LastWith (fun cell => cell.1 = column) (columns.zip cells) (column, value) ∧
    row.get? (.text name) = some value
  in_order : (columns.map f).Nodup →
    row.entries = (columns.map fun column => Value.text (f column)).zip cells

section

variable {f : String → String} {columns : List String} {cells : List Value}

theorem map_fst_zip (h : cells.length = columns.length) : (columns.zip cells).map Prod.fst = columns :=
  List.map_fst_zip (Nat.le_of_eq h.symm)

theorem keys_zipped (h : cells.length = columns.length) :
    (zipped columns cells).keys = columns.eraseDups := by
  rw [zipped, Fields.keys_ofList, map_fst_zip h]

theorem map_fst_renamedEntries (f : String → String) (row : Row) :
    (renamedEntries f row).map Prod.fst = row.keys.map f := by
  rw [renamedEntries, Fields.keys, List.map_map, List.map_map]
  rfl

theorem entries_renamed {row : Row} (h : (row.keys.map f).Nodup) :
    (renamed f row).entries = renamedEntries f row := by
  refine Fields.entries_ofList_of_nodup ?_
  rw [map_fst_renamedEntries]
  exact h

theorem keys_renamed (f : String → String) (row : Row) :
    (renamed f row).keys = (row.keys.map f).eraseDups := by
  rw [renamed, Fields.keys_ofList, map_fst_renamedEntries]

theorem value_of_renamed {row : Row} {name : String} (h : name ∈ (renamed f row).keys) :
    ∃ column value, LastWith (fun other => f other = name) row.keys column ∧
      row.get? column = some value ∧ (renamed f row).get? name = some value := by
  obtain ⟨⟨_, value⟩, hentry, rfl⟩ := List.mem_map.1 h
  have hvalue := Fields.get?_of_mem hentry
  obtain ⟨entry, hrenamed, hlast⟩ := lastWith_of_map (Fields.lastWith_of_get?_ofList hvalue)
  obtain ⟨rfl, rfl⟩ := Prod.mk.inj hrenamed
  have hmem : entry ∈ row.entries := by
    obtain ⟨before, after, hsplit, -⟩ := hlast
    rw [hsplit]
    exact List.mem_append_right _ List.mem_cons_self
  exact ⟨entry.1, entry.2, hlast.map, Fields.get?_of_mem hmem, hvalue⟩

theorem namedRow_of_length (h : cells.length = columns.length) :
    NamedRow f columns columns.eraseDups ((columns.eraseDups.map f).eraseDups) cells
      (Row.asResult (renamed f (zipped columns cells))) where
  keys := by rw [Row.keys_asResult, keys_renamed, keys_zipped h]
  values name hname := by
    rw [← keys_zipped h, ← keys_renamed] at hname
    obtain ⟨column, value, hcolumn, hvalue, hrenamed⟩ := value_of_renamed hname
    rw [keys_zipped h] at hcolumn
    refine ⟨column, value, hcolumn, Fields.lastWith_of_get?_ofList hvalue, ?_⟩
    rw [Row.get?_asResult, hrenamed]
  in_order hnodup := by
    have hfirst : (zipped columns cells).entries = columns.zip cells := by
      refine Fields.entries_ofList_of_nodup ?_
      rw [map_fst_zip h]
      exact hnodup.of_map
    have hkeys : ((zipped columns cells).keys.map f).Nodup := by
      rw [Fields.keys, hfirst, map_fst_zip h]
      exact hnodup
    show textEntries (renamed f (zipped columns cells)).entries = _
    rw [entries_renamed hkeys, renamedEntries, hfirst, textEntries, List.map_map, List.zip_map_left]
    rfl

end

/-! ## What a query returns -/

section

variable {engine : Engine} {connection : Nat} {query : Query} {session : Session}
  {statement : Prepared} {cursor : Cursor}

theorem run_executeOn_of_cursor (hprepare : query.prepare engine.backend.style = .ok statement)
    (hanswer : session.wire.answer (.execute connection statement) = .ok (some cursor))
    (hfetch : cursor.failure = none) :
    ((executeOn engine (some connection) query).run session).1 = match cursor.assemble with
      | .ok rows => renameRows engine.keyRule rows
      | .error cause => .error (query.failed cause) := by
  have hrecorded : (session.record (.debug query.executingLine)).wire.answer
      (.execute connection statement) = .ok (some cursor) := hanswer
  have hfetched : ∀ wire : Wire, wire.answer (.fetch connection cursor) = .ok none := by
    intro wire
    rw [Wire.answer, hfetch]
    rfl
  have hrows : ((runQuery engine (some connection) query).run
      (session.record (.debug query.executingLine))).1 = cursor.assemble := by
    unfold runQuery
    simp only [execute, fetch, connectionOf, run_bind, run_done, hprepare, run_call, hrecorded,
      hfetched, Except.mapError]
  rw [run_executeOn]
  show (match ((runQuery engine (some connection) query).run
      (session.record (.debug query.executingLine))).1 with
    | .ok rows => renameRows engine.keyRule rows
    | .error cause => .error (query.failed cause)) = _
  rw [hrows]

variable {rows : List (List Value)} {f : String → String}

theorem returned_of_width (hprepare : query.prepare engine.backend.style = .ok statement)
    (hanswer : session.wire.answer (.execute connection statement) = .ok (some cursor))
    (hfetch : cursor.failure = none) (hrows : cursor.rows = rows.map .cells)
    (hnames : engine.Names f) (hwidth : ∀ cells ∈ rows, cells.length = cursor.columns.length) :
    ((executeOn engine (some connection) query).run session).1 =
      .ok (rows.map fun cells => Row.asResult (renamed f (zipped cursor.columns cells))) := by
  have hrenamed := renameRows_of_names hnames (rows.map (zipped cursor.columns))
  rw [List.map_map, List.map_map] at hrenamed
  rw [run_executeOn_of_cursor hprepare hanswer hfetch, assemble_of_width hrows hwidth]
  exact hrenamed

theorem failed_of_width (hprepare : query.prepare engine.backend.style = .ok statement)
    (hanswer : session.wire.answer (.execute connection statement) = .ok (some cursor))
    (hfetch : cursor.failure = none) (hrows : cursor.rows = rows.map .cells)
    (hwidth : ¬ ∀ cells ∈ rows, cells.length = cursor.columns.length) :
    ∃ cause, ((executeOn engine (some connection) query).run session).1 =
      .error (query.failed cause) := by
  obtain ⟨cause, hcause⟩ := error_of_width hrows hwidth
  refine ⟨cause, ?_⟩
  rw [run_executeOn_of_cursor hprepare hanswer hfetch, hcause]

/-- A query returns rows exactly if each row of its cursor has one cell for each column, and else
fails as a query. The rows come in their order. Each has the new names of the different columns, both
as they are first seen, and with each name the last cell of the last column that it is given to. -/
theorem rows_of_cells (hprepare : query.prepare engine.backend.style = .ok statement)
    (hanswer : session.wire.answer (.execute connection statement) = .ok (some cursor))
    (hfetch : cursor.failure = none) (hrows : cursor.rows = rows.map .cells)
    (hnames : engine.Names f) :
    let outcome := ((executeOn engine (some connection) query).run session).1
    ∃ distinct names, FirstSeen distinct cursor.columns ∧ FirstSeen names (distinct.map f) ∧
      ((∃ result, outcome = .ok result) ↔ ∀ cells ∈ rows, cells.length = cursor.columns.length) ∧
      (∀ error, outcome = .error error → error.kind? = some .queryExecution) ∧
      ∀ result, outcome = .ok result →
        List.Forall₂ (NamedRow f cursor.columns distinct names) rows result := by
  intro outcome
  refine ⟨_, _, firstSeen_eraseDups _, firstSeen_eraseDups _, ?_⟩
  by_cases hwidth : ∀ cells ∈ rows, cells.length = cursor.columns.length
  · have hreturned : outcome = _ :=
      returned_of_width hprepare hanswer hfetch hrows hnames hwidth
    rw [hreturned]
    refine ⟨⟨fun _ => hwidth, fun _ => ⟨_, rfl⟩⟩, fun _ herror => (nomatch herror), ?_⟩
    intro result hresult
    obtain rfl := Except.ok.inj hresult
    rw [List.forall₂_map_right_iff, List.forall₂_same]
    exact fun cells hcells => namedRow_of_length (hwidth cells hcells)
  · obtain ⟨cause, hfailed⟩ := failed_of_width hprepare hanswer hfetch hrows hwidth
    have hraised : outcome = .error (query.failed cause) := hfailed
    rw [hraised]
    refine ⟨⟨fun ⟨_, hresult⟩ => (nomatch hresult), fun h => absurd h hwidth⟩, ?_, ?_⟩
    · intro error herror
      obtain rfl := Except.error.inj herror
      rfl
    · intro result hresult
      cases hresult

end

/-- Three of four columns get one name. It holds the cell of the second and not that of the fourth,
whose own name is that of the first. A short row fails the query. -/
theorem rows_of_cells_renamed :
    let f : String → String := fun name => if name = "n" then "n" else "x"
    let rule : KeyRule := fun key => match key with
      | .text name => .ok (f name)
      | _ => .error (.textExpected key.typeName)
    let engine : Engine := { inMemory 1 with keyRule := some rule }
    let columns := ["id", "ID", "n", "id"]
    let cells : List Value := [.int 1, .int 2, .int 3, .int 4]
    let outcome := fun rows : List (List Value) =>
      let script : Script := ⟨[], [.results ⟨columns, rows.map .cells, none⟩], [], [], []⟩
      ((executeOn engine (some 1) ⟨"select", []⟩).run (Session.start script)).1
    (∃ distinct names row, outcome [cells] = .ok [row] ∧
      row.entries = [(.text "x", .int 2), (.text "n", .int 3)] ∧
      NamedRow f columns distinct names cells row) ∧
    ∃ error, outcome [cells, [.int 5]] = .error error ∧ error.kind? = some .queryExecution := by
  intro f rule engine columns cells outcome
  have hnames : engine.Names f := by
    intro name
    rfl
  have hall := fun rows : List (List Value) =>
    @rows_of_cells engine 1 ⟨"select", []⟩
      (Session.start ⟨[], [.results ⟨columns, rows.map .cells, none⟩], [], [], []⟩)
      ⟨"select", []⟩ ⟨columns, rows.map .cells, none⟩ rows f rfl rfl rfl rfl hnames
  constructor
  · obtain ⟨distinct, names, -, -, -, -, hrows⟩ := hall [cells]
    have hresult : ∃ row, outcome [cells] = .ok [row] ∧
        row.entries = [(.text "x", .int 2), (.text "n", .int 3)] := ⟨_, rfl, rfl⟩
    obtain ⟨row, hrow, hentries⟩ := hresult
    have hnamed := hrows _ hrow
    rw [List.forall₂_cons] at hnamed
    exact ⟨distinct, names, row, hrow, hentries, hnamed.1⟩
  · obtain ⟨-, -, -, -, hreturns, hfails, -⟩ := hall [cells, [.int 5]]
    have hshort : ¬ ∃ result, outcome [cells, [.int 5]] = .ok result := by
      intro hresult
      have hwidth := hreturns.1 hresult [.int 5] (by simp)
      cases hwidth
    cases herror : outcome [cells, [.int 5]] with
    | error error => exact ⟨error, rfl, hfails error herror⟩
    | ok result => exact absurd ⟨result, herror⟩ hshort

end ParamSql
