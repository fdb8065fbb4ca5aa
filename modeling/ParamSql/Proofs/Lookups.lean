import Mathlib.Data.Finset.Card
import Mathlib.Data.List.Perm.Subperm
import ParamSql.Catalog
import ParamSql.Proofs.Mappings

/-!
# Looking up in catalogs

A catalog answers for each of its keys with one and the same table, whichever way it is asked. For any
other key every look-up is refused with one error, also where a default or `false` would be the answer.
-/

namespace ParamSql.Catalog

section

variable {catalog other : Catalog} {key : String} {table : Table}

/-! ## Asking for a key -/

theorem find_eq (catalog : Catalog) (key : String) :
    catalog.find key = (catalog.table key).map some := by
  unfold find
  cases catalog.table key <;> rfl

theorem holds_eq (catalog : Catalog) (key : String) :
    catalog.holds key = (catalog.table key).map fun _ => true := by
  unfold holds
  cases catalog.table key <;> rfl

theorem table_of_mem (h : (key, table) ∈ catalog.entries) : catalog.table key = .ok table := by
  rw [Catalog.table, Fields.get?_of_mem h]

theorem table_of_not_mem (h : key ∉ catalog.keys) :
    catalog.table key = .error (.tableNotFound key) := by
  rw [Catalog.table, Fields.get?_eq_none_iff.2 h]

theorem table_eq_ok_iff : catalog.table key = .ok table ↔ (key, table) ∈ catalog.entries := by
  refine ⟨fun h => ?_, table_of_mem⟩
  rw [Catalog.table] at h
  cases hfound : catalog.get? key with
  | none => simp [hfound] at h
  | some found =>
    rw [hfound] at h
    obtain rfl := Except.ok.inj h
    exact Fields.get?_eq_some_iff.1 hfound

theorem exists_entry (h : key ∈ catalog.keys) : ∃ table, (key, table) ∈ catalog.entries := by
  obtain ⟨⟨_, table⟩, hentry, rfl⟩ := List.mem_map.1 h
  exact ⟨table, hentry⟩

/-- How a catalog answers for a key: each question has an answer exactly if the key is there, all name
one table, and a key that is not there is refused. -/
structure Answers (catalog : Catalog) (key : String) : Prop where
  table_iff : (∃ table, catalog.table key = .ok table) ↔ key ∈ catalog.keys
  find_iff : (∃ table, catalog.find key = .ok (some table)) ↔ key ∈ catalog.keys
  holds_iff : catalog.holds key = .ok true ↔ key ∈ catalog.keys
  same_table : ∀ table, (key, table) ∈ catalog.entries →
    catalog.table key = .ok table ∧ catalog.find key = .ok (some table)
  refused : key ∉ catalog.keys →
    catalog.table key = .error (.tableNotFound key) ∧
      catalog.find key = .error (.tableNotFound key) ∧
      catalog.holds key = .error (.tableNotFound key)

theorem answers_of_mem (h : key ∈ catalog.keys) : Answers catalog key := by
  obtain ⟨table, hentry⟩ := exists_entry h
  have htable := table_of_mem hentry
  have hfind : catalog.find key = .ok (some table) := by rw [find_eq, htable]; rfl
  have hholds : catalog.holds key = .ok true := by rw [holds_eq, htable]; rfl
  refine ⟨iff_of_true ⟨table, htable⟩ h, iff_of_true ⟨table, hfind⟩ h, iff_of_true hholds h, ?_,
    fun hnot => absurd h hnot⟩
  intro found hfound
  obtain rfl := Except.ok.inj (htable.symm.trans (table_of_mem hfound))
  exact ⟨htable, hfind⟩

theorem answers_of_not_mem (h : key ∉ catalog.keys) : Answers catalog key := by
  have htable := table_of_not_mem h
  have hfind : catalog.find key = .error (.tableNotFound key) := by rw [find_eq, htable]; rfl
  have hholds : catalog.holds key = .error (.tableNotFound key) := by rw [holds_eq, htable]; rfl
  refine ⟨iff_of_false ?_ h, iff_of_false ?_ h, iff_of_false ?_ h, ?_,
    fun _ => ⟨htable, hfind, hholds⟩⟩
  · simp [htable]
  · simp [hfind]
  · simp [hholds]
  · exact fun found hfound => absurd (List.mem_map_of_mem hfound) h

/-! ## Catalogs beside each other -/

theorem nodup_entries (catalog : Catalog) : catalog.entries.Nodup :=
  List.Nodup.of_map Prod.fst catalog.nodup_keys

theorem same_iff_perm : catalog.same other = true ↔ catalog.entries.Perm other.entries := by
  simp only [same, Bool.and_eq_true, beq_iff_eq, List.all_eq_true, Fields.get?_eq_some_iff]
  constructor
  · rintro ⟨hlength, hsub⟩
    -- Entries do not repeat, so those that are as many and all among the others are the others.
    exact (catalog.nodup_entries.subperm hsub).perm_of_length_le hlength.ge
  · exact fun h => ⟨h.length_eq, fun entry hentry => h.mem_iff.1 hentry⟩

theorem same_iff : catalog.same other = true ↔
    (∀ key, key ∈ catalog.keys ↔ key ∈ other.keys) ∧
      ∀ key ∈ catalog.keys, catalog.table key = other.table key := by
  rw [same_iff_perm]
  constructor
  · intro h
    refine ⟨fun key => (h.map Prod.fst).mem_iff, fun key hkey => ?_⟩
    obtain ⟨table, hentry⟩ := exists_entry hkey
    rw [table_of_mem hentry, table_of_mem (h.mem_iff.1 hentry)]
  · rintro ⟨hkeys, htables⟩
    rw [List.perm_ext_iff_of_nodup catalog.nodup_entries other.nodup_entries]
    -- A key that neither has is refused by both alike.
    have htable : ∀ key, catalog.table key = other.table key := by
      intro key
      by_cases hkey : key ∈ catalog.keys
      · exact htables key hkey
      · rw [table_of_not_mem hkey, table_of_not_mem (mt (hkeys key).2 hkey)]
    rintro ⟨key, table⟩
    rw [← table_eq_ok_iff, ← table_eq_ok_iff, htable key]

end

/-- Every key of a catalog has one table, which all look-ups agree on, and any other key is refused by
all of them. Keys are counted once, and catalogs are the same if they have the same keys and tables. -/
theorem lookups_agree (catalog other : Catalog) :
    (∀ key, Answers catalog key) ∧ catalog.keys.Nodup ∧
      catalog.entries.length = catalog.keys.toFinset.card ∧
      (catalog.same other = true ↔ (∀ key, key ∈ catalog.keys ↔ key ∈ other.keys) ∧
        ∀ key ∈ catalog.keys, catalog.table key = other.table key) := by
  refine ⟨fun key => ?_, catalog.nodup_keys, ?_, same_iff⟩
  · by_cases h : key ∈ catalog.keys
    · exact answers_of_mem h
    · exact answers_of_not_mem h
  · rw [List.toFinset_card_of_nodup catalog.nodup_keys, Fields.keys, List.length_map]

/-- A key that is not there is refused, and not answered with `false` or nothing. -/
theorem absent_refused :
    let catalog : Catalog := Fields.ofList [("articles", ⟨"public", "articles"⟩)]
    "comments" ∉ catalog.keys ∧ catalog.holds "comments" = .error (.tableNotFound "comments") ∧
      catalog.find "comments" = .error (.tableNotFound "comments") :=
  ⟨by decide, rfl, rfl⟩

end ParamSql.Catalog
