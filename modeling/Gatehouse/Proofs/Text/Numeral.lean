import Gatehouse.Json.Parser
import Gatehouse.Json.Printer
import Gatehouse.Text.Integer
import Mathlib.Data.Nat.Digits.Defs
import Mathlib.Tactic.IntervalCases

/-!
Numerals are read back: decimal integers by `readInteger?`, and hexadecimal digits by `hexValue?`.
-/
namespace Gatehouse.Text

/-- A decimal digit of ASCII. -/
def IsDigit (c : Char) : Prop := '0' ≤ c ∧ c ≤ '9'

theorem IsDigit.bounds {c : Char} (h : IsDigit c) : 48 ≤ c.toNat ∧ c.toNat ≤ 57 := h

theorem isDigit_of_mem_toDigits {n : Nat} {c : Char} (h : c ∈ Nat.toDigits 10 n) : IsDigit c := by
  have hd := Nat.isDigit_of_mem_toDigits (by decide) (by decide) h
  simpa [Char.isDigit, IsDigit, Char.le_def] using hd

theorem digitValue?_of_isDigit {c : Char} (h : IsDigit c) :
    digitValue? c = some (c.toNat - 48) := by
  have hb := h.bounds
  unfold digitValue?
  rw [if_pos (by omega), if_pos (show '0' ≤ c ∧ c ≤ '9' from h)]

theorem digitValues?_of_isDigit {cs : List Char} (hne : cs ≠ []) (h : ∀ c ∈ cs, IsDigit c) :
    digitValues? cs = some (cs.map fun c => c.toNat - 48) := by
  induction cs with
  | nil => exact absurd rfl hne
  | cons c r ih =>
    have hc := digitValue?_of_isDigit (h c (by simp))
    cases r with
    | nil => simp [digitValues?, hc]
    | cons d r =>
      have hd : d ≠ '_' := by
        rintro rfl
        exact absurd (h '_' (by simp)).bounds (by decide)
      have hr := ih (by simp) fun x hx => h x (List.mem_cons_of_mem c hx)
      rw [digitValues?, hc, hr]
      · rfl
      · simp
      · rintro t ht
        exact hd (List.cons.inj ht).1

theorem ofDigitValues_digits (cs : List Char) :
    ofDigitValues (cs.map fun c => c.toNat - 48) = Nat.ofDigitChars 10 cs 0 := by
  simp only [ofDigitValues, Nat.ofDigitChars_eq_foldl, List.foldl_map, Nat.mul_comm]
  rfl

theorem trim_of_ends {p : Char → Bool} {cs : List Char} (h : ∀ c ∈ cs, p c = false) :
    trim p cs = cs := by
  have hdrop {l : List Char} (hl : ∀ c ∈ l, p c = false) : l.dropWhile p = l := by
    cases l with
    | nil => rfl
    | cons c r => simp [List.dropWhile, hl c (by simp)]
  rw [trim, trimEnd, hdrop h, hdrop (by simpa using h), List.reverse_reverse]

theorem isWhiteSpace_of_isDigit {c : Char} (h : IsDigit c) : isWhiteSpace c = false := by
  have hb := h.bounds
  simp only [isWhiteSpace, isBlank, Ranges.contains, blankRanges, List.any_cons, List.any_nil]
  simp
  omega

/-- Digits with or without a minus sign are read as the number that they write. -/
theorem readInteger?_of_isDigit {cs : List Char} (hne : cs ≠ []) (h : ∀ c ∈ cs, IsDigit c)
    (hl : cs.length ≤ integerDigitLimit) :
    readInteger? cs = some (Nat.ofDigitChars 10 cs 0 : Int) ∧
      readInteger? ('-' :: cs) = some (-(Nat.ofDigitChars 10 cs 0 : Int)) := by
  have hw : ∀ c ∈ cs, isWhiteSpace c = false := fun c hc => isWhiteSpace_of_isDigit (h c hc)
  have hminus : ∀ c ∈ '-' :: cs, isWhiteSpace c = false := by
    intro c hc
    rcases List.mem_cons.1 hc with rfl | hc
    · decide
    · exact hw c hc
  have hv := digitValues?_of_isDigit hne h
  have hlen : ¬ integerDigitLimit < cs.length := by omega
  constructor
  · obtain ⟨c, r, rfl⟩ := List.exists_cons_of_ne_nil hne
    have hc := (h c (by simp)).bounds
    have hsign : c ≠ '-' ∧ c ≠ '+' := by
      constructor <;> rintro rfl <;> simp at hc
    unfold readInteger?
    rw [trim_of_ends hw]
    dsimp only
    split
    · next heq => exact absurd (List.cons.inj heq).1 hsign.1
    · next heq => exact absurd (List.cons.inj heq).1 hsign.2
    · rw [hv, ← ofDigitValues_digits]
      simp only [Option.bind_eq_bind, Option.bind_some, List.length_map, if_neg hlen]
      rfl
  · unfold readInteger?
    rw [trim_of_ends hminus]
    simp [hv, hlen, ofDigitValues_digits]

/-- An integer is read back from its decimal numeral, unless that has too many digits. -/
theorem readInteger?_integerChars {i : Int} (h : i.natAbs < 10 ^ integerDigitLimit) :
    readInteger? (Json.integerChars i) = some i := by
  have hl := (Nat.length_toDigits_le_iff (by decide) (by decide)).2 h
  have hr := readInteger?_of_isDigit Nat.toDigits_ne_nil (fun c hc => isDigit_of_mem_toDigits hc) hl
  rw [Nat.ofDigitChars_ten_toDigits] at hr
  unfold Json.integerChars
  split
  · rw [hr.2]
    congr 1
    omega
  · rw [hr.1]
    congr 1
    omega

/-! ### Hexadecimal -/

theorem hexValue?_digitChar {d : Nat} (h : d < 16) : hexValue? d.digitChar = some d := by
  interval_cases d <;> rfl

/-- One more place takes the last digit of the number. -/
theorem hex_succ {width : Nat} (hw : 0 < width) (n : Nat) :
    hex (width + 1) n = hex width (n / 16) ++ [Nat.digitChar (n % 16)] := by
  unfold hex
  by_cases hn : n < 16
  · have hz : List.replicate (width - 1) '0' ++ ['0'] = List.replicate width '0' := by
      rw [← List.replicate_succ', Nat.sub_add_cancel hw]
    simp [Nat.toDigits_of_lt_base hn, Nat.div_eq_of_lt hn, Nat.mod_eq_of_lt hn,
      Nat.toDigits_zero, hz]
  · simp [Nat.toDigits_of_base_le (show 1 < 16 by decide) (Nat.le_of_not_lt hn)]

theorem hex_one {d : Nat} (h : d < 16) : hex 1 d = [Nat.digitChar d] := by
  simp [hex, Nat.toDigits_of_lt_base h]

theorem hex_two {n : Nat} (h : n < 0x100) :
    hex 2 n = [Nat.digitChar (n / 16), Nat.digitChar (n % 16)] := by
  rw [hex_succ (by decide), hex_one (by omega)]
  rfl

theorem hex_four {u : Nat} (h : u < 0x10000) :
    hex 4 u = [Nat.digitChar (u / 16 / 16 / 16), Nat.digitChar (u / 16 / 16 % 16),
      Nat.digitChar (u / 16 % 16), Nat.digitChar (u % 16)] := by
  rw [hex_succ (by decide), hex_succ (by decide), hex_two (by omega)]
  rfl

end Gatehouse.Text
