import ParamSql.Proofs.Conditions

/-!
# Reading conditions back

The text of compiled conditions can be cut into its columns again, as long as no column holds a space:
the first space ends the first column, and what comes after it says how many values the column is
compared with. With the values, it is known which conditions were compiled.
-/

namespace ParamSql

/-! ## Cutting a text -/

theorem append_cons_inj_of_not_mem {c : Char} {first other rest more : List Char}
    (hfirst : c ∉ first) (hother : c ∉ other) (h : first ++ c :: rest = other ++ c :: more) :
    first = other ∧ rest = more := by
  have hlength : first.length = other.length := by
    have hindex := congrArg (List.idxOf c) h
    rw [List.idxOf_append_of_notMem hfirst, List.idxOf_append_of_notMem hother] at hindex
    simpa using hindex
  obtain ⟨rfl, hrest⟩ := List.append_inj h hlength
  exact ⟨rfl, (List.cons.inj hrest).2⟩

theorem append_mark_inj {mark : String} {c : Char} (hmark : mark.toList = [c])
    {first other rest more : String} (hfirst : c ∉ first.toList) (hother : c ∉ other.toList)
    (h : first ++ (mark ++ rest) = other ++ (mark ++ more)) : first = other ∧ rest = more := by
  have hchars := congrArg String.toList h
  simp only [String.toList_append, hmark, List.singleton_append] at hchars
  obtain ⟨hsame, htail⟩ := append_cons_inj_of_not_mem hfirst hother hchars
  exact ⟨String.toList_inj.1 hsame, String.toList_inj.1 htail⟩

/-! ## Comparisons -/

theorem numbered_inj {n count more : Nat} (h : numbered "$" n count = numbered "$" n more) :
    count = more := by
  have hslots := congrArg (fun text => (slotsIn text).length) h
  simpa [slotsIn_numbered, numerals] using hslots

/-- What is written after the name of a column and a space. -/
def comparison (n : Nat) : Option Nat → String
  | none => "= " ++ placeholder n
  | some count => "IN (" ++ numbered "$" n count ++ ")"

theorem fragment_eq (column : String) (value : Value) (n : Nat) :
    fragment column value n = column ++ (" " ++ comparison n value.shape) := by
  unfold fragment comparison
  cases value.shape with
  | none =>
    simp only [String.append_assoc]
    rfl
  | some count =>
    simp only [String.append_assoc]
    rfl

theorem comparison_append_inj {shape other : Option Nat} {n : Nat} {rest more : String}
    (h : comparison n shape ++ rest = comparison n other ++ more) :
    shape = other ∧ rest = more := by
  -- The first character tells a single value from a list.
  have hhead := congrArg (fun text => text.toList.head?) h
  unfold comparison at h hhead
  cases shape with
  | none =>
    cases other with
    | none => exact ⟨rfl, (String.append_right_inj _).1 h⟩
    | some more => simp at hhead
  | some count =>
    cases other with
    | none => simp at hhead
    | some more =>
      simp only [String.append_assoc] at h
      have hparen : ∀ count, ')' ∉ (numbered "$" n count).toList :=
        not_mem_numbered (by decide) (by decide) n
      obtain ⟨hnumbered, hrest⟩ :=
        append_mark_inj rfl (hparen count) (hparen more) ((String.append_right_inj _).1 h)
      exact ⟨congrArg some (numbered_inj hnumbered), hrest⟩

/-! ## Joined fragments -/

theorem intercalate_cons (separator text : String) (texts : List String) :
    separator.intercalate (text :: texts) =
      text ++ if texts = [] then "" else separator ++ separator.intercalate texts := by
  cases texts with
  | nil => simp
  | cons other texts => simp [String.append_assoc]

theorem intercalate_rest_inj {separator : String} (hne : separator ≠ "") {texts others : List String}
    (h : (if texts = [] then "" else separator ++ separator.intercalate texts) =
      if others = [] then "" else separator ++ separator.intercalate others) :
    separator.intercalate texts = separator.intercalate others := by
  split at h <;> split at h
  · next htexts hothers => rw [htexts, hothers]
  · exact absurd (String.append_eq_empty_iff.1 h.symm).1 hne
  · exact absurd (String.append_eq_empty_iff.1 h).1 hne
  · exact (String.append_right_inj _).1 h

theorem intercalate_fragments_cons (offset : Nat) (entry : String × Value) (rest : List (String × Value)) :
    " AND ".intercalate (fragments offset (entry :: rest)) =
      entry.1 ++ (" " ++ (comparison (offset + 1) entry.2.shape ++
        if fragments (offset + entry.2.elements.length) rest = [] then "" else
          " AND " ++ " AND ".intercalate (fragments (offset + entry.2.elements.length) rest))) := by
  rw [fragments_cons, fragment_eq, intercalate_cons]
  simp only [String.append_assoc]

theorem intercalate_fragments_ne_empty (offset : Nat) (entry : String × Value)
    (rest : List (String × Value)) :
    " AND ".intercalate (fragments offset (entry :: rest)) ≠ "" := by
  rw [intercalate_fragments_cons]
  intro h
  have hlength := congrArg String.length h
  simp [String.length_append] at hlength

theorem intercalate_fragments_inj {entry other : String × Value} {rest others : List (String × Value)}
    {offset : Nat} (hcolumn : ' ' ∉ entry.1.toList) (hother : ' ' ∉ other.1.toList)
    (h : " AND ".intercalate (fragments offset (entry :: rest)) =
      " AND ".intercalate (fragments offset (other :: others))) :
    entry.1 = other.1 ∧ entry.2.shape = other.2.shape ∧
      " AND ".intercalate (fragments (offset + entry.2.elements.length) rest) =
        " AND ".intercalate (fragments (offset + other.2.elements.length) others) := by
  rw [intercalate_fragments_cons, intercalate_fragments_cons] at h
  obtain ⟨hcolumns, hcomparisons⟩ := append_mark_inj rfl hcolumn hother h
  obtain ⟨hshape, hrest⟩ := comparison_append_inj hcomparisons
  exact ⟨hcolumns, hshape, intercalate_rest_inj (by decide) hrest⟩

/-! ## Conditions that are compiled -/

theorem ofValue_eq (value : Value) :
    Condition.ofValue value =
      if value.shape.isSome then .anyOf value.elements else .scalar (value.elements.headD .null) := by
  cases value <;> rfl

/-- The conditions that some entries of a mapping give to their columns. -/
def resolved (entries : List (String × Value)) : List (String × Condition) :=
  entries.map fun entry => (entry.1, Condition.ofValue entry.2)

theorem resolved_eq_of_compiled {entries others : List (String × Value)} {offset : Nat}
    (hkeys : ∀ entry ∈ entries, ' ' ∉ entry.1.toList)
    (hothers : ∀ entry ∈ others, ' ' ∉ entry.1.toList)
    (htext : " AND ".intercalate (fragments offset entries) =
      " AND ".intercalate (fragments offset others))
    (hvalues : elementsOf entries = elementsOf others) : resolved entries = resolved others := by
  induction entries generalizing offset others with
  | nil =>
    cases others with
    | nil => rfl
    | cons other others =>
      exact absurd htext.symm (intercalate_fragments_ne_empty offset other others)
  | cons entry rest ih =>
    cases others with
    | nil => exact absurd htext (intercalate_fragments_ne_empty offset entry rest)
    | cons other others =>
      rw [List.forall_mem_cons] at hkeys hothers
      obtain ⟨hcolumns, hshape, hrest⟩ := intercalate_fragments_inj hkeys.1 hothers.1 htext
      -- Both values take as many of those that are bound, so the rest start at the same number.
      have hlength : entry.2.elements.length = other.2.elements.length := by
        rw [length_elements, length_elements, hshape]
      unfold elementsOf at hvalues
      rw [List.flatMap_cons, List.flatMap_cons] at hvalues
      obtain ⟨helements, hbound⟩ := List.append_inj hvalues hlength
      rw [hlength] at hrest
      have hresolved := ih hkeys.2 hothers.2 hrest hbound
      unfold resolved at hresolved ⊢
      rw [List.map_cons, List.map_cons, hresolved, hcolumns, ofValue_eq, hshape, helements,
        ← ofValue_eq]

theorem compiled_eq_of_resolved {entries others : List (String × Value)} (index : Nat)
    (h : resolved entries = resolved others) :
    comparisons index entries = comparisons index others ∧ boundBy entries = boundBy others := by
  induction entries generalizing index others with
  | nil =>
    obtain rfl := List.map_eq_nil_iff.1 h.symm
    exact ⟨rfl, rfl⟩
  | cons entry rest ih =>
    obtain ⟨⟨column', value'⟩, others, rfl, hentry, hothers⟩ := List.map_eq_cons_iff.1 h.symm
    obtain ⟨column, value⟩ := entry
    obtain ⟨rfl, hconditions⟩ := Prod.mk.inj hentry
    obtain ⟨htexts, hvalues⟩ := ih (index + (Condition.ofValue value).values.length) hothers.symm
    rw [boundBy_cons, boundBy_cons, comparisons, comparisons]
    rw [hconditions, htexts, hvalues]
    exact ⟨rfl, rfl⟩

/-- The options of a where clause give the same query to two mappings exactly if they have the same
columns in the same order, and each column the same condition. A list and a tuple are one condition. -/
theorem same_filter_iff (properties properties' : Properties) {conditions others : Row}
    (hkeys : ∀ name ∈ conditions.keys, ' ' ∉ name.toList)
    (hothers : ∀ name ∈ others.keys, ' ' ∉ name.toList) :
    ∃ query other, compileConditions properties .whereClause conditions = pure query ∧
      compileConditions properties' .whereClause others = pure other ∧
      (query.text = other.text ∧ query.values = other.values ↔
        resolved conditions.entries = resolved others.entries) := by
  refine ⟨filterAfter 0 conditions, filterAfter 0 others, compileConditions_where properties 0 _,
    compileConditions_where properties' 0 _, ?_, fun h => ?_⟩
  · rintro ⟨htext, hvalues⟩
    exact resolved_eq_of_compiled (fun entry hentry => hkeys _ (List.mem_map_of_mem hentry))
      (fun entry hentry => hothers _ (List.mem_map_of_mem hentry)) htext hvalues
  · obtain ⟨htexts, hvalues⟩ := compiled_eq_of_resolved (0 + 1) h
    rw [comparisons_eq, comparisons_eq] at htexts
    rw [boundBy_eq, boundBy_eq] at hvalues
    exact ⟨congrArg " AND ".intercalate htexts, hvalues⟩

theorem same_filter_iff_one_value :
    let listed : Row := ((Fields.empty.insert "" (.list [.int 1])).insert "IN" (.tuple [])).insert
      "AND" (.bool true)
    let alone : Row := ((Fields.empty.insert "" (.int 1)).insert "IN" (.tuple [])).insert
      "AND" (.bool true)
    ∃ query other, compileConditions Fields.empty .whereClause listed = pure query ∧
      compileConditions Fields.empty .whereClause alone = pure other ∧
      query.text = " IN ($1) AND IN IN () AND AND = $2" ∧ query.text ≠ other.text ∧
      query.values = other.values := by
  intro listed alone
  have hnames : ∀ name ∈ listed.keys, ' ' ∉ name.toList := by decide
  have hothers : ∀ name ∈ alone.keys, ' ' ∉ name.toList := by decide
  obtain ⟨query, other, hquery, hother, hsame⟩ :=
    same_filter_iff Fields.empty Fields.empty hnames hothers
  have hlisted : compileConditions Fields.empty .whereClause listed =
      pure ⟨" IN ($1) AND IN IN () AND AND = $2", [.int 1, .bool true]⟩ := rfl
  have halone : compileConditions Fields.empty .whereClause alone =
      pure ⟨" = $1 AND IN IN () AND AND = $2", [.int 1, .bool true]⟩ := rfl
  obtain rfl := Logged.pure_inj (hquery.symm.trans hlisted)
  have hvalues := congrArg Query.values (Logged.pure_inj (hother.symm.trans halone))
  refine ⟨_, other, hquery, hother, rfl, fun htext => ?_, hvalues.symm⟩
  have hresolved := hsame.1 ⟨htext, hvalues.symm⟩
  cases hresolved

end ParamSql
