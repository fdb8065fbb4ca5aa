import Mathlib
import ParamSql.Proofs.ResultRows

/-!
# Names in snake case and their camel case

A name in snake case is recovered from its camel case. So no two of them get the same name, and a row
with such names keeps all its cells when they are named anew.
-/

namespace ParamSql

namespace Text

/-! ## Names in snake case -/

/-- A lowercase letter or a digit of ASCII. -/
def isPlain (c : Char) : Bool := c.isLower || c.isDigit

/-- A lowercase letter of ASCII, then lowercase letters and digits. -/
def isSnakeWord : List Char → Bool
  | [] => false
  | first :: rest => first.isLower && rest.all isPlain

def SnakeWords (words : List (List Char)) : Prop := ∀ word ∈ words, isSnakeWord word = true

/-- One word or more, with a single underscore between two. -/
def SnakeName (name : List Char) : Prop :=
  ∃ head tail, SnakeWords (head :: tail) ∧ name = ['_'].intercalate (head :: tail)

/-- An underscore and the lowercase letter for each uppercase letter of ASCII. -/
def snakeCase (image : List Char) : List Char :=
  image.flatMap fun c => if c.isUpper then ['_', c.toLower] else [c]

/-! ## Plain characters -/

section

variable {c : Char}

theorem isPlain_iff :
    isPlain c = true ↔ 97 ≤ c.toNat ∧ c.toNat ≤ 122 ∨ 48 ≤ c.toNat ∧ c.toNat ≤ 57 := by
  simp only [isPlain, Char.isLower, Char.isDigit, Bool.or_eq_true, Bool.and_eq_true,
    decide_eq_true_eq, UInt32.le_iff_toNat_le, ge_iff_le]
  rfl

theorem isPlain_of_isLower (h : c.isLower = true) : isPlain c = true := by
  rw [isPlain, h, Bool.true_or]

theorem not_isUpper_of_isPlain (h : isPlain c = true) : ¬ c.isUpper = true := by
  rw [isPlain_iff] at h
  simp only [Char.isUpper, decide_eq_true_eq, UInt32.le_iff_toNat_le, ge_iff_le]
  change ¬ (65 ≤ c.toNat ∧ c.toNat ≤ 90)
  omega

theorem isAlphanum_of_isPlain (h : isPlain c = true) : c.isAlphanum = true := by
  rw [isPlain, Bool.or_eq_true] at h
  rcases h with h | h <;> simp [Char.isAlphanum, Char.isAlpha, h]

theorem isJoint_of_isPlain (h : isPlain c = true) : isJoint c = false := by
  rw [isPlain_iff] at h
  have hmarks : c ≠ '_' ∧ c ≠ '-' := by
    constructor <;> rintro rfl <;> simp at h
  simp only [isJoint, isGap, isBlank, blankRanges, Ranges.holds, List.any_cons, List.any_nil]
  simp [hmarks]
  omega

theorem lowerChar_of_isPlain (h : isPlain c = true) : lowerChar c = [c] := by
  have hrange := isPlain_iff.1 h
  rw [lowerChar, if_pos (by omega), Char.toLower_eq_of_not_isUpper (not_isUpper_of_isPlain h)]

end

/-! ## Plain texts -/

section

variable {text : List Char}

theorem lowerAfter_of_plain (h : ∀ c ∈ text, isPlain c = true) (before : List Char) :
    lowerAfter before text = text := by
  induction text generalizing before with
  | nil => rfl
  | cons c rest ih =>
    obtain ⟨hc, hrest⟩ := List.forall_mem_cons.1 h
    -- Only a capital sigma asks for what stands before it.
    have hsigma : (c == '\u03a3') = false := by
      rw [beq_eq_false_iff_ne]
      rintro rfl
      simp [isPlain_iff] at hc
    simp only [lowerAfter, hsigma, lowerChar_of_isPlain hc, ih hrest]
    rfl

theorem snakeCase_append (image more : List Char) :
    snakeCase (image ++ more) = snakeCase image ++ snakeCase more :=
  List.flatMap_append

theorem snakeCase_of_plain (h : ∀ c ∈ text, isPlain c = true) : snakeCase text = text := by
  unfold snakeCase
  rw [List.flatMap_congr fun c hc => if_neg (not_isUpper_of_isPlain (h c hc))]
  exact List.flatMap_singleton' text

theorem capitalize_of_plain {first : Char} {rest : List Char} (hfirst : first.isLower = true)
    (hrest : ∀ c ∈ rest, isPlain c = true) : capitalize (first :: rest) = first.toUpper :: rest := by
  have hrange := isPlain_iff.1 (isPlain_of_isLower hfirst)
  rw [capitalize, titleChar, if_pos (by omega), lowerAfter_of_plain hrest]
  rfl

end

/-! ## Single words -/

section

variable {word : List Char}

theorem exists_of_isSnakeWord (h : isSnakeWord word = true) :
    ∃ first rest, word = first :: rest ∧ first.isLower = true ∧ ∀ c ∈ rest, isPlain c = true := by
  cases word with
  | nil => cases h
  | cons first rest =>
    rw [isSnakeWord, Bool.and_eq_true, List.all_eq_true] at h
    exact ⟨first, rest, rfl, h⟩

theorem plain_of_isSnakeWord (h : isSnakeWord word = true) : ∀ c ∈ word, isPlain c = true := by
  obtain ⟨first, rest, rfl, hfirst, hrest⟩ := exists_of_isSnakeWord h
  exact List.forall_mem_cons.2 ⟨isPlain_of_isLower hfirst, hrest⟩

theorem isAlphanum_of_mem_capitalize (h : isSnakeWord word = true) :
    ∀ c ∈ capitalize word, c.isAlphanum = true := by
  obtain ⟨first, rest, rfl, hfirst, hrest⟩ := exists_of_isSnakeWord h
  rw [capitalize_of_plain hfirst hrest, List.forall_mem_cons]
  refine ⟨?_, fun c hc => isAlphanum_of_isPlain (hrest c hc)⟩
  simp [Char.isAlphanum, Char.isAlpha, hfirst]

theorem snakeCase_capitalize (h : isSnakeWord word = true) :
    snakeCase (capitalize word) = '_' :: word := by
  obtain ⟨first, rest, rfl, hfirst, hrest⟩ := exists_of_isSnakeWord h
  have hupper : first.toUpper.isUpper = true := by
    rw [Char.isUpper_toUpper_eq_isAlpha, Char.isAlpha, hfirst, Bool.or_true]
  have hlower : first.toUpper.toLower = first := by
    rw [Char.toLower_toUpper_eq_toLower]
    exact Char.toLower_eq_of_not_isUpper (Char.not_isUpper_of_isLower hfirst)
  have hmark : snakeCase [first.toUpper] = ['_', first] := by
    simp [snakeCase, hupper, hlower]
  rw [capitalize_of_plain hfirst hrest, ← List.singleton_append, snakeCase_append, hmark,
    snakeCase_of_plain hrest]
  rfl

end

/-! ## Words of a name -/

theorem runs_eq_splitOnP (name : List Char) : runs name = name.splitOnP isJoint := by
  induction name with
  | nil => rfl
  | cons c rest ih =>
    rw [runs, List.splitOnP_cons_eq_if_modifyHead, ih]
    cases hrest : rest.splitOnP isJoint with
    | nil => exact absurd hrest (List.splitOnP_ne_nil _ _)
    | cons run others => rfl

section

variable {head : List Char} {tail : List (List Char)}

theorem not_isJoint_of_mem (h : SnakeWords (head :: tail)) : ∀ c ∈ head, isJoint c = false :=
  fun c hc => isJoint_of_isPlain (plain_of_isSnakeWord (h head List.mem_cons_self) c hc)

theorem runs_intercalate (h : SnakeWords (head :: tail)) :
    runs (['_'].intercalate (head :: tail)) = head :: tail := by
  rw [runs_eq_splitOnP]
  induction tail generalizing head with
  | nil =>
    rw [List.intercalate_singleton]
    exact List.splitOnP_eq_singleton (not_isJoint_of_mem h)
  | cons next others ih =>
    have hjoint : isJoint '_' = true := by decide
    rw [List.intercalate_cons_cons, List.append_assoc, List.singleton_append,
      List.splitOnP_append_cons_of_forall_mem (not_isJoint_of_mem h) _ hjoint,
      ih (List.forall_mem_cons.1 h).2]

theorem words_intercalate (h : SnakeWords (head :: tail)) :
    words (['_'].intercalate (head :: tail)) = head :: tail := by
  rw [words, runs_intercalate h, List.filter_eq_self]
  intro word hword
  obtain ⟨first, rest, rfl, -⟩ := exists_of_isSnakeWord (h word hword)
  rfl

/-! ## Camel case and back -/

theorem camelCase_intercalate (h : SnakeWords (head :: tail)) :
    camelCase (['_'].intercalate (head :: tail)) = head ++ tail.flatMap capitalize := by
  rw [camelCase, words_intercalate h]
  show lower head ++ _ = _
  rw [lower, lowerAfter_of_plain (plain_of_isSnakeWord (h head List.mem_cons_self))]

theorem snakeCase_flatMap_capitalize (h : SnakeWords tail) :
    head ++ snakeCase (tail.flatMap capitalize) = ['_'].intercalate (head :: tail) := by
  induction tail generalizing head with
  | nil =>
    rw [List.intercalate_singleton]
    exact List.append_nil head
  | cons next others ih =>
    obtain ⟨hnext, hothers⟩ := List.forall_mem_cons.1 h
    rw [List.flatMap_cons, snakeCase_append, snakeCase_capitalize hnext,
      List.intercalate_cons_cons, ← ih hothers]
    simp

end

section

variable {name : List Char}

theorem snakeCase_camelCase (h : SnakeName name) : snakeCase (camelCase name) = name := by
  obtain ⟨head, tail, hwords, rfl⟩ := h
  obtain ⟨hhead, htail⟩ := List.forall_mem_cons.1 hwords
  rw [camelCase_intercalate hwords, snakeCase_append, snakeCase_of_plain (plain_of_isSnakeWord hhead)]
  exact snakeCase_flatMap_capitalize htail

theorem isAlphanum_of_mem_camelCase (h : SnakeName name) :
    ∀ c ∈ camelCase name, c.isAlphanum = true := by
  obtain ⟨head, tail, hwords, rfl⟩ := h
  obtain ⟨hhead, htail⟩ := List.forall_mem_cons.1 hwords
  rw [camelCase_intercalate hwords, List.forall_mem_append, List.forall_mem_flatMap]
  constructor
  · exact fun c hc => isAlphanum_of_isPlain (plain_of_isSnakeWord hhead c hc)
  · exact fun word hword => isAlphanum_of_mem_capitalize (htail word hword)

theorem snakeName_iff : SnakeName name ↔ (name.splitOn '_').all isSnakeWord = true := by
  rw [List.all_eq_true]
  constructor
  · rintro ⟨head, tail, hwords, rfl⟩
    have hmark : ∀ word ∈ head :: tail, '_' ∉ word := fun word hword hmem =>
      absurd (plain_of_isSnakeWord (hwords word hword) _ hmem) (by decide)
    rw [List.splitOn_intercalate _ hmark (List.cons_ne_nil _ _)]
    exact hwords
  · intro h
    have hname : ['_'].intercalate (name.splitOn '_') = name := List.intercalate_splitOn '_'
    cases hsplit : name.splitOn '_' with
    | nil => exact absurd hsplit (List.splitOnP_ne_nil _ _)
    | cons head tail =>
      rw [hsplit] at h hname
      exact ⟨head, tail, h, hname.symm⟩

instance : DecidablePred SnakeName := fun _ => decidable_of_iff _ snakeName_iff.symm

end

end Text

/-! ## Rows whose keys are such names -/

def camelName (name : String) : String := String.ofList (Text.camelCase name.toList)

/-- All keys are texts, and names in snake case. -/
def ResultRow.Snake (row : ResultRow) : Prop :=
  ∀ key ∈ row.keys, ∃ name : String, key = .text name ∧ Text.SnakeName name.toList

/-- A row with all cells of another in their order, each under the camel case of its key. -/
structure Recased (row recased : ResultRow) : Prop where
  size : recased.entries.length = row.entries.length
  values : recased.values = row.values
  keys : List.Forall₂ (fun key image => ∃ name, KeyRule.camel key = .ok name ∧ image = .text name)
    row.keys recased.keys

theorem camelName_injOn : Set.InjOn camelName {name | Text.SnakeName name.toList} := by
  intro name hname other hother heq
  have himage : Text.camelCase name.toList = Text.camelCase other.toList :=
    String.ofList_injective heq
  have hback := congrArg Text.snakeCase himage
  rw [Text.snakeCase_camelCase hname, Text.snakeCase_camelCase hother] at hback
  exact String.toList_injective hback

theorem recased_renamed {named : Row} (h : (named.keys.map camelName).Nodup) :
    Recased (Row.asResult named) (Row.asResult (renamed camelName named)) := by
  have hentries := entries_renamed h
  have hkeys : (renamed camelName named).keys = named.keys.map camelName := by
    rw [Fields.keys, hentries, map_fst_renamedEntries]
  refine ⟨?_, ?_, ?_⟩
  · show (textEntries (renamed camelName named).entries).length = (textEntries named.entries).length
    rw [hentries]
    simp [textEntries, renamedEntries]
  · show (textEntries (renamed camelName named).entries).map Prod.snd =
      (textEntries named.entries).map Prod.snd
    rw [hentries]
    simp [textEntries, renamedEntries]
  · rw [Row.keys_asResult, Row.keys_asResult, hkeys, List.map_map, List.forall₂_map_left_iff,
      List.forall₂_map_right_iff, List.forall₂_same]
    exact fun name _ => ⟨camelName name, rfl, rfl⟩

theorem recased_of_snake {row : ResultRow} (h : ResultRow.Snake row) :
    ∃ recased, KeyRule.camel.renameRow row = .ok recased ∧ Recased row recased := by
  obtain ⟨named, rfl⟩ := Row.exists_asResult fun key hkey => (h key hkey).imp fun _ => And.left
  have hnames : ∀ name ∈ named.keys, Text.SnakeName name.toList := by
    intro name hname
    rw [ResultRow.Snake, Row.keys_asResult] at h
    obtain ⟨other, heq, hother⟩ := h _ (List.mem_map_of_mem hname)
    cases heq
    exact hother
  have hnodup : (named.keys.map camelName).Nodup :=
    named.nodup_keys.map_on (camelName_injOn.mono hnames)
  exact ⟨_, renameRow_of_names (fun _ => rfl) named, recased_renamed hnodup⟩

/-- A name in snake case is read back from its camel case, which holds letters and digits of ASCII
alone. So different names stay different, and rows with such names keep all their cells. -/
theorem camel_of_snake :
    (∀ name : String, Text.SnakeName name.toList →
      ∃ image, KeyRule.camel (.text name) = .ok image ∧ (∀ c ∈ image.toList, c.isAlphanum = true) ∧
        Text.snakeCase image.toList = name.toList) ∧
    (∀ name other : String, Text.SnakeName name.toList → Text.SnakeName other.toList →
      KeyRule.camel (.text name) = KeyRule.camel (.text other) → name = other) ∧
    ∀ rows : List ResultRow, (∀ row ∈ rows, ResultRow.Snake row) →
      ∃ recased, renameRows (some KeyRule.camel) rows = .ok recased ∧
        List.Forall₂ Recased rows recased := by
  refine ⟨fun name hname => ⟨camelName name, rfl, ?_⟩, fun name other hname hother heq => ?_,
    fun rows hrows => ?_⟩
  · unfold camelName
    rw [String.toList_ofList]
    exact ⟨Text.isAlphanum_of_mem_camelCase hname, Text.snakeCase_camelCase hname⟩
  · exact camelName_injOn hname hother (Except.ok.inj heq)
  · exact exists_mapM fun row hrow => recased_of_snake (hrows row hrow)

theorem camel_of_snake_underscores :
    let names := ["abc", "ab_c", "a_bc", "a_b_c"]
    let row : ResultRow := Row.asResult (Fields.ofList (names.zip [.int 1, .int 2, .int 3, .int 4]))
    (∀ name ∈ names, ∃ image, KeyRule.camel (.text name) = .ok image ∧
      Text.snakeCase image.toList = name.toList) ∧
    KeyRule.camel (.text "ab_c") ≠ KeyRule.camel (.text "a_bc") ∧
    ∃ recased, renameRows (some KeyRule.camel) [row] = .ok [recased] ∧ Recased row recased ∧
      recased.keys = [.text "abc", .text "abC", .text "aBc", .text "aBC"] := by
  intro names row
  have hsnake : ∀ name ∈ names, Text.SnakeName name.toList := by decide +kernel
  have hkeys : row.keys = names.map .text := rfl
  have hrow : ResultRow.Snake row := by
    rw [ResultRow.Snake, hkeys, List.forall_mem_map]
    exact fun name hname => ⟨name, rfl, hsnake name hname⟩
  obtain ⟨hback, hdiffer, hrows⟩ := camel_of_snake
  refine ⟨fun name hname => ?_, fun heq => ?_, ?_⟩
  · obtain ⟨image, himage, -, hname⟩ := hback name (hsnake name hname)
    exact ⟨image, himage, hname⟩
  · have hsame := hdiffer "ab_c" "a_bc" (hsnake _ (by decide)) (hsnake _ (by decide)) heq
    exact absurd hsame (by decide)
  · have hcomputed : ∃ computed : ResultRow, renameRows (some KeyRule.camel) [row] = .ok [computed] ∧
        computed.keys = [.text "abc", .text "abC", .text "aBc", .text "aBC"] := ⟨_, rfl, rfl⟩
    obtain ⟨computed, hcomputes, hnames⟩ := hcomputed
    obtain ⟨recased, hrecased, hall⟩ := hrows [row] (List.forall_mem_singleton.2 hrow)
    obtain rfl := Except.ok.inj (hrecased.symm.trans hcomputes)
    exact ⟨computed, hcomputes, (List.forall₂_cons.1 hall).1, hnames⟩

end ParamSql
