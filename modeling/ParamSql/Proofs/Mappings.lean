import Mathlib.Data.List.Induction
import Mathlib.Data.List.Nodup
import ParamSql.Fields

/-!
# Mappings written entry by entry

A mapping that is written entry by entry has its keys in the order in which they are first seen, and to
each key the value that was written last.
-/

namespace ParamSql

/-! ## Names as they are first seen -/

/-- Names without repetition, each in the place where it is first seen. -/
structure FirstSeen (names seen : List String) : Prop where
  nodup : names.Nodup
  mem_iff : ∀ name, name ∈ names ↔ name ∈ seen
  ordered : names.Pairwise fun first later => seen.idxOf first < seen.idxOf later

theorem eraseDups_concat (seen : List String) (name : String) :
    (seen ++ [name]).eraseDups =
      if name ∈ seen then seen.eraseDups else seen.eraseDups ++ [name] := by
  rw [List.eraseDups_append]
  by_cases hname : name ∈ seen <;> simp [List.removeAll, List.eraseDups_cons, hname]

theorem pairwise_eraseDups (seen : List String) :
    seen.eraseDups.Pairwise fun first later => seen.idxOf first < seen.idxOf later := by
  induction seen using List.reverseRecOn with
  | nil => exact .nil
  | append_singleton seen name ih =>
    -- What was seen before keeps its place when one more name is seen.
    have hbefore : seen.eraseDups.Pairwise fun first later =>
        (seen ++ [name]).idxOf first < (seen ++ [name]).idxOf later := by
      refine ih.imp_of_mem fun {first later} hfirst hlater hlt => ?_
      rw [List.idxOf_append_of_mem (List.mem_eraseDups.1 hfirst),
        List.idxOf_append_of_mem (List.mem_eraseDups.1 hlater)]
      exact hlt
    rw [eraseDups_concat]
    split
    · exact hbefore
    · next hnew =>
      refine List.pairwise_append.2 ⟨hbefore, List.pairwise_singleton _ _, ?_⟩
      intro first hfirst later hlater
      have hseen := List.mem_eraseDups.1 hfirst
      obtain rfl := List.mem_singleton.1 hlater
      rw [List.idxOf_append_of_mem hseen, List.idxOf_append_of_notMem hnew]
      exact Nat.lt_of_lt_of_le (List.idxOf_lt_length_iff.2 hseen) (Nat.le_add_right _ _)

theorem eraseDups_of_nodup {names : List String} (h : names.Nodup) : names.eraseDups = names := by
  induction names with
  | nil => rfl
  | cons name names ih =>
    obtain ⟨hname, hnames⟩ := List.nodup_cons.1 h
    have hothers : names.filter (fun other => !other == name) = names := by
      rw [List.filter_eq_self]
      intro other hother
      have hne : other ≠ name := fun heq => hname (heq ▸ hother)
      simpa using hne
    rw [List.eraseDups_cons, hothers, ih hnames]

theorem firstSeen_eraseDups (seen : List String) : FirstSeen seen.eraseDups seen where
  nodup := by
    refine (pairwise_eraseDups seen).imp fun {first later} hlt heq => ?_
    rw [heq] at hlt
    exact Nat.lt_irrefl _ hlt
  mem_iff _ := List.mem_eraseDups
  ordered := pairwise_eraseDups seen

/-! ## The last member with a property -/

/-- The member has the property, and no later one has it. -/
def LastWith {α : Type} (p : α → Prop) (members : List α) (member : α) : Prop :=
  ∃ before after, members = before ++ member :: after ∧ p member ∧ ∀ other ∈ after, ¬ p other

section

variable {α β : Type} {p : β → Prop} {f : α → β} {members : List α}

theorem LastWith.map {member : α} (h : LastWith (fun other => p (f other)) members member) :
    LastWith p (members.map f) (f member) := by
  obtain ⟨before, after, rfl, hmember, hafter⟩ := h
  refine ⟨before.map f, after.map f, ?_, hmember, List.forall_mem_map.2 hafter⟩
  rw [List.map_append, List.map_cons]

theorem lastWith_of_map {image : β} (h : LastWith p (members.map f) image) :
    ∃ member, f member = image ∧ LastWith (fun other => p (f other)) members member := by
  obtain ⟨images, others, hmap, himage, hothers⟩ := h
  obtain ⟨before, rest, rfl, -, hrest⟩ := List.map_eq_append_iff.1 hmap
  obtain ⟨member, after, rfl, rfl, rfl⟩ := List.map_eq_cons_iff.1 hrest
  exact ⟨member, rfl, before, after, rfl, himage, fun other hother =>
    hothers _ (List.mem_map_of_mem hother)⟩

end

/-! ## Writing an entry -/

section

variable {α : Type}

theorem putEntry_of_not_mem {entries : List (String × α)} {key : String}
    (h : key ∉ entries.map Prod.fst) (value : α) :
    putEntry entries key value = entries ++ [(key, value)] := by
  induction entries with
  | nil => rfl
  | cons entry rest ih =>
    obtain ⟨hne, hrest⟩ := not_or.1 (mt List.mem_cons.2 h)
    rw [putEntry, if_neg (by simpa using Ne.symm hne), ih hrest, List.cons_append]

theorem keys_putEntry (entries : List (String × α)) (key : String) (value : α) :
    (putEntry entries key value).map Prod.fst =
      if key ∈ entries.map Prod.fst then entries.map Prod.fst
      else entries.map Prod.fst ++ [key] := by
  split
  · next h =>
    induction entries with
    | nil => cases h
    | cons entry rest ih =>
      rw [putEntry]
      split
      · rfl
      · next hne =>
        have hother : key ≠ entry.1 := fun heq => hne (beq_iff_eq.2 heq.symm)
        rw [List.map_cons, List.map_cons, ih ((List.mem_cons.1 h).resolve_left hother)]
  · next h => rw [putEntry_of_not_mem h, List.map_append, List.map_cons, List.map_nil]

end

/-! ## Writing all entries -/

namespace Fields

variable {α : Type} {entries : List (String × α)}

theorem get?_of_mem {fields : Fields String α} {key : String} {value : α}
    (h : (key, value) ∈ fields.entries) : fields.get? key = some value := by
  obtain ⟨before, after, hentries⟩ := List.append_of_mem h
  have hdistinct := fields.distinct
  rw [hentries] at hdistinct
  rw [Fields.get?, List.lookup_eq_some_iff]
  refine ⟨before, after, hentries, fun entry hentry => ?_⟩
  have hne := (List.pairwise_append.1 hdistinct).2.2 entry hentry _ List.mem_cons_self
  rw [bne_iff_ne]
  exact (ne_of_beq_false hne).symm

theorem get?_eq_some_iff {fields : Fields String α} {key : String} {value : α} :
    fields.get? key = some value ↔ (key, value) ∈ fields.entries := by
  refine ⟨fun h => ?_, get?_of_mem⟩
  obtain ⟨before, after, hentries, -⟩ := List.lookup_eq_some_iff.1 h
  rw [hentries]
  exact List.mem_append_right _ List.mem_cons_self

theorem get?_eq_none_iff {fields : Fields String α} {key : String} :
    fields.get? key = none ↔ key ∉ fields.keys := by
  unfold get? keys
  rw [List.lookup_eq_none_iff, List.mem_map, not_exists]
  refine forall_congr' fun entry => ?_
  rw [not_and, bne_iff_ne, ne_comm]

theorem ofList_concat (entries : List (String × α)) (entry : String × α) :
    ofList (entries ++ [entry]) = (ofList entries).insert entry.1 entry.2 :=
  List.foldl_append

theorem keys_ofList (entries : List (String × α)) :
    (ofList entries).keys = (entries.map Prod.fst).eraseDups := by
  induction entries using List.reverseRecOn with
  | nil => rfl
  | append_singleton entries entry ih =>
    unfold keys at ih ⊢
    rw [ofList_concat, insert, keys_putEntry, ih, List.map_append, List.map_cons, List.map_nil,
      eraseDups_concat]
    exact if_congr List.mem_eraseDups rfl rfl

theorem lastWith_of_get?_ofList {key : String} {value : α}
    (h : (ofList entries).get? key = some value) :
    LastWith (fun entry => entry.1 = key) entries (key, value) := by
  induction entries using List.reverseRecOn with
  | nil => cases h
  | append_singleton entries entry ih =>
    rw [ofList_concat] at h
    by_cases hkey : key = entry.1
    · subst hkey
      rw [get?_insert_self] at h
      obtain rfl := Option.some.inj h
      exact ⟨entries, [], rfl, rfl, fun _ hmem => nomatch hmem⟩
    · rw [get?_insert_of_ne _ _ hkey] at h
      obtain ⟨before, after, rfl, hlast, hafter⟩ := ih h
      refine ⟨before, after ++ [entry], by rw [List.append_assoc]; rfl, hlast, ?_⟩
      exact List.forall_mem_append.2 ⟨hafter, List.forall_mem_singleton.2 (Ne.symm hkey)⟩

theorem entries_ofList_of_nodup (h : (entries.map Prod.fst).Nodup) :
    (ofList entries).entries = entries := by
  induction entries using List.reverseRecOn with
  | nil => rfl
  | append_singleton entries entry ih =>
    rw [List.map_append, List.nodup_append'] at h
    obtain ⟨hnodup, -, hdisjoint⟩ := h
    rw [ofList_concat]
    show putEntry (ofList entries).entries entry.1 entry.2 = _
    rw [ih hnodup]
    exact putEntry_of_not_mem (fun hmem => hdisjoint hmem List.mem_cons_self) entry.2

end Fields

end ParamSql
