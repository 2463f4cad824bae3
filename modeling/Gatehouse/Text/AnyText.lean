/-!
Texts of any code points. A `String` holds no surrogate; a text from outside may hold one that has
no partner, and is then kept by its code points.
-/
namespace Gatehouse

namespace Text

def isHighSurrogate (n : Nat) : Bool := 0xd800 ≤ n && n < 0xdc00

def isLowSurrogate (n : Nat) : Bool := 0xdc00 ≤ n && n < 0xe000

/-- No high surrogate stands before a low one: the two would be one character. -/
def noPairs : List Nat → Bool
  | u :: v :: r => !(isHighSurrogate u && isLowSurrogate v) && noPairs (v :: r)
  | _ => true

/-- Code points of a text that no `String` holds. -/
def isUnpaired (codes : List Nat) : Bool :=
  codes.any (fun n => isHighSurrogate n || isLowSurrogate n) && codes.all (· < 0x110000) &&
    noPairs codes

end Text

open Text

inductive AnyText where
  | string (s : String)
  | unpaired (codes : List Nat) (isUnpaired_codes : isUnpaired codes = true)
  deriving DecidableEq, Repr

namespace AnyText

instance : Coe String AnyText := ⟨string⟩

instance : Inhabited AnyText := ⟨string ""⟩

/-- The code points of a text. -/
def codes : AnyText → List Nat
  | string s => s.toList.map Char.toNat
  | unpaired codes _ => codes

/-- The text of code points among which no pair of surrogates is left. -/
def ofCodes (codes : List Nat) : AnyText :=
  if h : isUnpaired codes = true then .unpaired codes h
  else .string (String.ofList (codes.map Char.ofNat))

def string? : AnyText → Option String
  | string s => some s
  | unpaired .. => none

def isEmpty (t : AnyText) : Bool := t.codes.isEmpty

/-- Texts that hold one code point each, in order. -/
def characters (t : AnyText) : List AnyText := t.codes.map fun n => ofCodes [n]

/-- The code point of a character is no surrogate. -/
theorem toNat_bounds (c : Char) : c.toNat < 0xd800 ∨ 0xdfff < c.toNat ∧ c.toNat < 0x110000 :=
  c.valid

theorem surrogate_toNat (c : Char) :
    isHighSurrogate c.toNat = false ∧ isLowSurrogate c.toNat = false := by
  have hc := toNat_bounds c
  simp only [isHighSurrogate, isLowSurrogate, Bool.and_eq_false_iff, decide_eq_false_iff_not]
  omega

theorem isUnpaired_toNat (cs : List Char) : isUnpaired (cs.map Char.toNat) = false := by
  have hany : (cs.map Char.toNat).any (fun n => isHighSurrogate n || isLowSurrogate n) = false := by
    simp [surrogate_toNat]
  rw [isUnpaired, hany, Bool.false_and, Bool.false_and]

theorem noPairs_toNat (cs : List Char) : noPairs (cs.map Char.toNat) = true := by
  induction cs with
  | nil => rfl
  | cons c cs ih =>
    cases cs with
    | nil => rfl
    | cons d cs =>
      rw [List.map_cons] at ih
      simp [noPairs, surrogate_toNat, ih]

theorem ofCodes_toNat (cs : List Char) : ofCodes (cs.map Char.toNat) = String.ofList cs := by
  rw [ofCodes, dif_neg (by rw [isUnpaired_toNat]; decide), List.map_map]
  simp [Function.comp_def]

/-- A text is the text of its code points. -/
theorem ofCodes_codes (t : AnyText) : ofCodes t.codes = t := by
  cases t with
  | string s => exact (ofCodes_toNat s.toList).trans (by rw [String.ofList_toList])
  | unpaired codes h => rw [AnyText.codes, ofCodes, dif_pos h]

theorem noPairs_codes (t : AnyText) : noPairs t.codes = true := by
  cases t with
  | string s => exact noPairs_toNat s.toList
  | unpaired codes h =>
    rw [isUnpaired, Bool.and_eq_true] at h
    exact h.2

theorem lt_of_mem_codes {t : AnyText} {n : Nat} (h : n ∈ t.codes) : n < 0x110000 := by
  cases t with
  | string s =>
    obtain ⟨c, -, rfl⟩ := List.mem_map.1 h
    have hc := toNat_bounds c
    omega
  | unpaired codes hcodes =>
    rw [isUnpaired, Bool.and_eq_true, Bool.and_eq_true] at hcodes
    exact of_decide_eq_true (List.all_eq_true.1 hcodes.1.2 n h)

/-- A code point that is no surrogate is that of its character. -/
theorem toNat_ofNat {n : Nat} (hn : n < 0x110000)
    (h : (isHighSurrogate n || isLowSurrogate n) = false) : (Char.ofNat n).toNat = n := by
  have hvalid : n.isValidChar := by
    simp only [isHighSurrogate, isLowSurrogate, Bool.or_eq_false_iff, Bool.and_eq_false_iff,
      decide_eq_false_iff_not] at h
    simp only [Nat.isValidChar]
    omega
  rw [Char.ofNat, dif_pos hvalid]
  rfl

/-- Code points without a pair are those of their text. -/
theorem codes_ofCodes {codes : List Nat} (hpairs : noPairs codes = true)
    (hcodes : ∀ n ∈ codes, n < 0x110000) : (ofCodes codes).codes = codes := by
  by_cases h : isUnpaired codes = true
  · rw [ofCodes, dif_pos h, AnyText.codes]
  · have hall : codes.all (· < 0x110000) = true := by simpa using hcodes
    rw [ofCodes, dif_neg h, AnyText.codes, String.toList_ofList, List.map_map]
    rw [isUnpaired, hall, hpairs, Bool.and_true, Bool.and_true, List.any_eq_true] at h
    refine (List.map_congr_left fun n hn => ?_).trans (List.map_id codes)
    refine toNat_ofNat (hcodes n hn) ?_
    rw [← Bool.not_eq_true]
    exact fun hsurrogate => h ⟨n, hn, hsurrogate⟩

theorem eq_of_isEmpty {t : AnyText} (h : t.isEmpty = true) : t = .string "" := by
  rw [← ofCodes_codes t, List.isEmpty_iff.1 h]
  decide

end AnyText

end Gatehouse
