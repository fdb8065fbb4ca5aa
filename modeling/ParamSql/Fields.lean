/-!
# Ordered mappings

A mapping that keeps its keys in the order in which they first arrived. Rows, records, conditions,
named values and registries are all of this shape. Keys are told apart by `==`, which for some kinds
of key is coarser than equality: the key that came first is then the one that stays.
-/

namespace ParamSql

variable {κ α : Type} [BEq κ]

/-! ## Entries -/

/-- Writes at the place of a key that is present, else at the end. -/
def putEntry : List (κ × α) → κ → α → List (κ × α)
  | [], key, value => [(key, value)]
  | (k, v) :: rest, key, value =>
    if k == key then (k, value) :: rest else (k, v) :: putEntry rest key value

/-- No key of an entry is the key of a later one. -/
def Distinct (entries : List (κ × α)) : Prop :=
  entries.Pairwise fun first later => (first.1 == later.1) = false

theorem mem_putEntry_fst {entries : List (κ × α)} {key k : κ} {value : α}
    (h : k ∈ (putEntry entries key value).map Prod.fst) : k = key ∨ k ∈ entries.map Prod.fst := by
  induction entries with
  | nil => simpa [putEntry] using h
  | cons entry rest ih =>
    obtain ⟨n, v⟩ := entry
    by_cases hk : n == key
    · exact Or.inr (by simpa [putEntry, hk] using h)
    · rw [putEntry, if_neg hk, List.map_cons, List.mem_cons] at h
      rw [List.map_cons, List.mem_cons]
      rcases h with h | h
      · exact Or.inr (Or.inl h)
      · exact (ih h).imp_right Or.inr

theorem distinct_putEntry {entries : List (κ × α)} (key : κ) (value : α) (h : Distinct entries) :
    Distinct (putEntry entries key value) := by
  induction entries with
  | nil => simp [putEntry, Distinct]
  | cons entry rest ih =>
    obtain ⟨n, v⟩ := entry
    obtain ⟨hn, hrest⟩ := List.pairwise_cons.1 h
    by_cases hk : n == key
    · rw [putEntry, if_pos hk]
      exact List.pairwise_cons.2 ⟨hn, hrest⟩
    · rw [putEntry, if_neg hk]
      refine List.pairwise_cons.2 ⟨fun later hlater => ?_, ih hrest⟩
      rcases mem_putEntry_fst (List.mem_map_of_mem hlater) with hl | hl
      · rw [hl]
        exact Bool.not_eq_true _ ▸ hk
      · obtain ⟨other, hother, heq⟩ := List.mem_map.1 hl
        rw [← heq]
        exact hn other hother

theorem lookup_putEntry_self [LawfulBEq κ] (entries : List (κ × α)) (key : κ) (value : α) :
    (putEntry entries key value).lookup key = some value := by
  induction entries with
  | nil => simp [putEntry]
  | cons entry rest ih =>
    obtain ⟨n, v⟩ := entry
    by_cases hk : n = key
    · simp [putEntry, hk]
    · rw [putEntry, if_neg (by simpa using hk), List.lookup_cons, beq_false_of_ne (Ne.symm hk)]
      exact ih

theorem lookup_putEntry_of_ne [LawfulBEq κ] (entries : List (κ × α)) {key other : κ}
    (value : α) (h : other ≠ key) :
    (putEntry entries key value).lookup other = entries.lookup other := by
  induction entries with
  | nil => simp [putEntry, List.lookup_cons, beq_false_of_ne h]
  | cons entry rest ih =>
    obtain ⟨n, v⟩ := entry
    by_cases hk : n = key
    · subst hk
      simp [putEntry, List.lookup_cons, beq_false_of_ne h]
    · rw [putEntry, if_neg (by simpa using hk), List.lookup_cons, List.lookup_cons, ih]

/-! ## The mapping -/

structure Fields (κ : Type) [BEq κ] (α : Type) where
  entries : List (κ × α)
  distinct : Distinct entries

namespace Fields

@[ext] theorem ext {a b : Fields κ α} (h : a.entries = b.entries) : a = b := by
  cases a; cases b; cases h; rfl

def empty : Fields κ α := ⟨[], List.Pairwise.nil⟩

instance : Inhabited (Fields κ α) := ⟨empty⟩

def keys (fields : Fields κ α) : List κ := fields.entries.map Prod.fst

def values (fields : Fields κ α) : List α := fields.entries.map Prod.snd

def isEmpty (fields : Fields κ α) : Bool := fields.entries.isEmpty

def get? (fields : Fields κ α) (key : κ) : Option α := fields.entries.lookup key

def contains (fields : Fields κ α) (key : κ) : Bool := (fields.get? key).isSome

def insert (fields : Fields κ α) (key : κ) (value : α) : Fields κ α :=
  ⟨putEntry fields.entries key value, distinct_putEntry key value fields.distinct⟩

/-- A repeated key keeps its first place and takes its last value. -/
def ofList (entries : List (κ × α)) : Fields κ α :=
  entries.foldl (fun fields entry => fields.insert entry.1 entry.2) empty

/-- The entries of `more` written after those of `fields`. -/
def update (fields more : Fields κ α) : Fields κ α :=
  more.entries.foldl (fun all entry => all.insert entry.1 entry.2) fields

def map {β : Type} (f : α → β) (fields : Fields κ α) : Fields κ β :=
  ⟨fields.entries.map fun entry => (entry.1, f entry.2), by
    rw [Distinct, List.pairwise_map]; exact fields.distinct⟩

theorem nodup_keys [LawfulBEq κ] (fields : Fields κ α) : fields.keys.Nodup :=
  List.pairwise_map.2 (fields.distinct.imp ne_of_beq_false)

theorem get?_insert_self [LawfulBEq κ] (fields : Fields κ α) (key : κ) (value : α) :
    (fields.insert key value).get? key = some value :=
  lookup_putEntry_self fields.entries key value

theorem get?_insert_of_ne [LawfulBEq κ] (fields : Fields κ α) {key other : κ} (value : α)
    (h : other ≠ key) : (fields.insert key value).get? other = fields.get? other :=
  lookup_putEntry_of_ne fields.entries value h

end Fields

end ParamSql
