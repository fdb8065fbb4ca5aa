import Mathlib.Data.List.Basic
import ParamSql.Query
import ParamSql.Text.Word

/-!
# Numbers in placeholders

The digits that are written for a number are read back as that number.
-/

namespace ParamSql

namespace Text

theorem isDigit_iff {c : Char} : c.isDigit = true ↔ 48 ≤ c.toNat ∧ c.toNat < 58 := by
  simp only [Char.isDigit, Bool.and_eq_true, decide_eq_true_eq, UInt32.le_iff_toNat_le, ge_iff_le]
  change 48 ≤ c.toNat ∧ c.toNat ≤ 57 ↔ _
  omega

theorem digitValue?_of_isDigit {c : Char} (h : c.isDigit = true) :
    digitValue? c = some (c.toNat - '0'.toNat) := by
  rw [isDigit_iff] at h
  rw [digitValue?, zeroDigits, List.findSome?_cons]
  simp [h.1, h.2]

theorem isDigit_of_mem_toDigits {n : Nat} {c : Char} (h : c ∈ Nat.toDigits 10 n) :
    isDigit c = true := by
  rw [isDigit, digitValue?_of_isDigit (Nat.isDigit_of_mem_toDigits (by decide) (by decide) h)]
  rfl

theorem decimalValue_toDigits (n : Nat) : decimalValue (Nat.toDigits 10 n) = n := by
  have hfold : ∀ (digits : List Char) (start : Nat), (∀ c ∈ digits, c.isDigit = true) →
      digits.foldl (fun n c => 10 * n + (digitValue? c).getD 0) start =
        Nat.ofDigitChars 10 digits start := by
    intro digits
    induction digits with
    | nil => intros; rfl
    | cons c digits ih =>
      intro start h
      rw [List.foldl_cons, digitValue?_of_isDigit (h c List.mem_cons_self), Option.getD_some,
        ih _ fun d hd => h d (List.mem_cons_of_mem _ hd), Nat.ofDigitChars_cons]
  rw [decimalValue, hfold _ _ fun c hc => Nat.isDigit_of_mem_toDigits (by decide) (by decide) hc,
    Nat.ofDigitChars_toDigits (by decide) (by decide)]

theorem zeroDigits_inRanges :
    (zeroDigits.drop 1).all (fun first =>
      Nat.ble 128 first && wordRanges.any fun range =>
        Nat.ble range.1 first && Nat.ble (first + 10) (range.2 + 1)) = true := by
  decide +kernel

theorem isWord_of_isDigit {c : Char} (h : isDigit c = true) : isWord c = true := by
  rw [isDigit, digitValue?, List.findSome?_isSome_iff] at h
  obtain ⟨first, hfirst, h⟩ := h
  have hrange : first ≤ c.toNat ∧ c.toNat < first + 10 := by
    by_contra hrange
    rw [if_neg (by simpa using hrange)] at h
    cases h
  rcases List.mem_cons.1 hfirst with rfl | hfirst
  · rw [isWord, if_pos (by omega)]
    simp [Char.isAlphanum, isDigit_iff.2 hrange]
  · have hall := List.all_eq_true.1 zeroDigits_inRanges first hfirst
    simp only [Bool.and_eq_true, Nat.ble_eq, List.any_eq_true] at hall
    obtain ⟨hlarge, range, hmem, hlow, hhigh⟩ := hall
    rw [isWord, if_neg (by omega), Ranges.holds, List.any_eq_true]
    refine ⟨range, hmem, ?_⟩
    simp
    omega

end Text

theorem length_toDigits_mono {m n : Nat} (h : m ≤ n) :
    (Nat.toDigits 10 m).length ≤ (Nat.toDigits 10 n).length := by
  have hpos : 0 < (Nat.toDigits 10 n).length := List.length_pos_iff.2 Nat.toDigits_ne_nil
  have hlt := (Nat.length_toDigits_le_iff (by decide) hpos).1 (Nat.le_refl _)
  exact (Nat.length_toDigits_le_iff (by decide) hpos).2 (Nat.lt_of_le_of_lt h hlt)

/-! ## Numbers in a row -/

/-- Numbers from `start` on, each with a mark in front, as in `$3, $4`. -/
def numbered (mark : String) (start count : Nat) : String :=
  ", ".intercalate ((List.range' start count).map fun n => mark ++ toString n)

theorem numbered_zero (mark : String) (start : Nat) : numbered mark start 0 = "" := by
  rw [numbered, List.range'_zero, List.map_nil, String.intercalate_nil]

theorem numbered_one (mark : String) (start : Nat) :
    numbered mark start 1 = mark ++ toString start := by
  rw [numbered, List.range'_one, List.map_cons, List.map_nil, String.intercalate_singleton]

theorem numbered_add_two (mark : String) (start count : Nat) :
    numbered mark start (count + 2) =
      mark ++ toString start ++ ", " ++ numbered mark (start + 1) (count + 1) := by
  rw [numbered, numbered, List.range'_succ, List.range'_succ, List.map_cons, List.map_cons,
    String.intercalate_cons_cons]

theorem intercalate_placeholders (start count : Nat) :
    ", ".intercalate (placeholders start count) = numbered "$" start count := by
  rw [placeholders, numbered, List.range'_eq_map_range, List.map_map]
  rfl

end ParamSql
