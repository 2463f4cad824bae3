import Gatehouse.Proofs.Text.Ascii
import Gatehouse.Proofs.Text.Numeral

/-!
Quoted texts. A character may stand as it is, behind a backslash or as the escapes of its units, and
a surrogate without a partner as an escape: `CodesText` says which quoted texts write a text of
given code points. The text is read from each of them, and what is printed is one of them and pure
ASCII.
-/
namespace Gatehouse.Json
open Text Gatehouse.Json.Parser

/-- What a letter behind a backslash stands for. -/
def shortEscapes : List (Char × Char) :=
  [('"', '"'), ('\\', '\\'), ('/', '/'), ('b', '\x08'), ('f', '\x0c'), ('n', '\n'), ('r', '\r'),
    ('t', '\t')]

/-- The escape of one UTF-16 unit, with digits of either letter case. -/
inductive UnitText : Nat → List Char → Prop
  | mk {a b c d : Char} {w x y z : Nat} : hexValue? a = some w → hexValue? b = some x →
      hexValue? c = some y → hexValue? d = some z →
      UnitText (((w * 16 + x) * 16 + y) * 16 + z) ['\\', 'u', a, b, c, d]

/-- A code point inside a quoted text. -/
inductive CodeText : Nat → List Char → Prop
  | plain {c : Char} : c ≠ '"' → c ≠ '\\' → 0x20 ≤ c.toNat → CodeText c.toNat [c]
  | short {c e : Char} : (e, c) ∈ shortEscapes → CodeText c.toNat ['\\', e]
  | unit {n : Nat} {out : List Char} : UnitText n out → CodeText n out
  | pair {u v : Nat} {high low : List Char} : UnitText u high → UnitText v low →
      0xd800 ≤ u ∧ u < 0xdc00 → 0xdc00 ≤ v ∧ v < 0xe000 →
      CodeText (0x10000 + (u - 0xd800) * 1024 + (v - 0xdc00)) (high ++ low)

inductive CodesText : List Nat → List Char → Prop
  | nil : CodesText [] []
  | cons {n : Nat} {ns : List Nat} {out rest : List Char} : CodeText n out → CodesText ns rest →
      CodesText (n :: ns) (out ++ rest)

variable {n : Nat} {ns : List Nat} {out : List Char}

/-! ### Reading -/

theorem hex4?_unitText {u : Nat} (h : UnitText u out) (tail : List Char) :
    ∃ ds, out = '\\' :: 'u' :: ds ∧ ds.length = 4 ∧ hex4? (ds ++ tail) = some (u, tail) := by
  obtain ⟨ha, hb, hc, hd⟩ := h
  exact ⟨_, rfl, rfl, by simp [hex4?, ha, hb, hc, hd]⟩

theorem codes_escape (opening : List Char) (fuel : Nat) (r : List Char) :
    codes opening (fuel + 1) ('\\' :: 'u' :: r) = (do
      let (n, rest) ← unicodeEscape ('u' :: r) r
      let (ns, rest) ← codes opening fuel rest
      .ok (n :: ns, rest)) := rfl

/-- An escape at the beginning is whole, and not that of a low surrogate. -/
def NoLowStart (rest : List Char) : Prop :=
  ∀ r, rest = '\\' :: 'u' :: r →
    ∃ v tail, hex4? r = some (v, tail) ∧ ¬ (0xdc00 ≤ v ∧ v < 0xe000)

/-- The escape of one unit stands for itself, unless it is the first of a pair. -/
theorem unicodeEscape_unit {ds rest faulty : List Char}
    (hread : hex4? (ds ++ rest) = some (n, rest)) (hrest : rest ≠ [])
    (hlow : isHighSurrogate n = true → NoLowStart rest) :
    unicodeEscape faulty (ds ++ rest) = .ok (n, rest) := by
  obtain ⟨d, r, rfl⟩ := List.exists_cons_of_ne_nil hrest
  simp only [unicodeEscape, hread]
  split
  · next hhigh =>
    have hstart := hlow (by simpa [isHighSurrogate] using hhigh)
    split
    · next tail heq =>
      obtain ⟨v, tail', hnext, hv⟩ := hstart tail heq
      rw [hnext]
      simp only [if_neg hv, ite_self]
    · rfl
  · rfl

/-- One code point of a quoted text, in any of its forms. -/
theorem codes_codeText (opening : List Char) (fuel : Nat) (h : CodeText n out) {tail : List Char}
    (ht : tail ≠ []) (hlow : isHighSurrogate n = true → NoLowStart tail) :
    codes opening (fuel + 1) (out ++ tail) = (do
      let (ns, rest) ← codes opening fuel tail
      .ok (n :: ns, rest)) := by
  cases h with
  | plain hquote hslash hcontrol =>
    simp only [List.singleton_append, codes, if_neg hquote, if_neg hslash]
    rw [if_neg (by omega)]
  | short he =>
    simp only [shortEscapes, List.mem_cons, Prod.mk.injEq, List.not_mem_nil, or_false] at he
    rcases he with ⟨rfl, rfl⟩ | ⟨rfl, rfl⟩ | ⟨rfl, rfl⟩ | ⟨rfl, rfl⟩ | ⟨rfl, rfl⟩ | ⟨rfl, rfl⟩ |
      ⟨rfl, rfl⟩ | ⟨rfl, rfl⟩ <;> rfl
  | unit hunit =>
    obtain ⟨ds, rfl, -, hread⟩ := hex4?_unitText hunit tail
    rw [List.cons_append, List.cons_append, codes_escape, unicodeEscape_unit hread ht hlow]
    rfl
  | @pair u v high low hhigh hsecond hu hv =>
    obtain ⟨d, r, rfl⟩ := List.exists_cons_of_ne_nil ht
    obtain ⟨es, rfl, hlength, hread'⟩ := hex4?_unitText hsecond (d :: r)
    obtain ⟨ds, rfl, -, hread⟩ := hex4?_unitText hhigh ('\\' :: 'u' :: (es ++ d :: r))
    have hmore : ¬ (es ++ d :: r).length < 5 := by
      rw [List.length_append, hlength, List.length_cons]
      omega
    have hescape (faulty : List Char) :
        unicodeEscape faulty (ds ++ '\\' :: 'u' :: (es ++ d :: r)) =
          .ok (0x10000 + (u - 0xd800) * 1024 + (v - 0xdc00), d :: r) := by
      simp only [unicodeEscape, hread]
      rw [if_pos hu, if_neg hmore]
      simp only [hread', if_pos hv]
    rw [List.append_assoc]
    simp only [List.cons_append]
    rw [codes_escape, hescape]
    rfl

theorem codeText_ne_nil (h : CodeText n out) : out ≠ [] := by
  cases h with
  | plain => simp
  | short => simp
  | unit hunit =>
    obtain ⟨ds, rfl, -⟩ := hex4?_unitText hunit []
    simp
  | pair hhigh =>
    obtain ⟨ds, rfl, -⟩ := hex4?_unitText hhigh []
    simp

/-- The text of a code point that is no low surrogate does not start with one. -/
theorem noLowStart_codeText (h : CodeText n out) (hn : isLowSurrogate n = false)
    (tail : List Char) : NoLowStart (out ++ tail) := by
  rintro r heq
  cases h with
  | plain _ hslash => exact absurd (List.cons.inj heq).1 hslash
  | short he =>
    obtain ⟨-, heq⟩ := List.cons.inj heq
    obtain ⟨rfl, -⟩ := List.cons.inj heq
    simp [shortEscapes] at he
  | unit hunit =>
    obtain ⟨ds, rfl, -, hread⟩ := hex4?_unitText hunit tail
    obtain ⟨-, heq⟩ := List.cons.inj heq
    obtain ⟨-, rfl⟩ := List.cons.inj heq
    exact ⟨n, tail, hread, by simpa [isLowSurrogate] using hn⟩
  | @pair u v high low hhigh hlow hu =>
    rw [List.append_assoc] at heq
    obtain ⟨ds, rfl, -, hread⟩ := hex4?_unitText hhigh (low ++ tail)
    obtain ⟨-, heq⟩ := List.cons.inj heq
    obtain ⟨-, rfl⟩ := List.cons.inj heq
    exact ⟨u, _, hread, by omega⟩

theorem noLowStart_codesText (h : CodesText ns out) (hn : ns.head?.all (!isLowSurrogate ·) = true)
    (rest : List Char) : NoLowStart (out ++ '"' :: rest) := by
  cases h with
  | nil =>
    rintro r heq
    exact absurd (List.cons.inj heq).1 (by decide)
  | cons hcode =>
    rw [List.append_assoc]
    exact noLowStart_codeText hcode (by simpa using hn) _

/-- A quoted text is read up to and with its closing quote. -/
theorem codes_codesText (opening rest : List Char) {fuel : Nat} (h : CodesText ns out)
    (hpairs : noPairs ns = true) (hf : out.length < fuel) :
    codes opening fuel (out ++ '"' :: rest) = .ok (ns, rest) := by
  induction h generalizing fuel with
  | nil =>
    obtain ⟨fuel, rfl⟩ := Nat.exists_eq_add_one.2 (Nat.zero_lt_of_lt hf)
    simp [codes]
  | @cons n ns out rest' hcode hcodes ih =>
    obtain ⟨fuel, rfl⟩ := Nat.exists_eq_add_one.2 (Nat.zero_lt_of_lt hf)
    have hpos := List.length_pos_iff.2 (codeText_ne_nil hcode)
    rw [List.length_append] at hf
    obtain ⟨hfirst, hpairs'⟩ :
        (isHighSurrogate n = true → ns.head?.all (!isLowSurrogate ·) = true) ∧
          noPairs ns = true := by
      cases ns with
      | nil => exact ⟨fun _ => rfl, rfl⟩
      | cons m ns =>
        rw [noPairs, Bool.and_eq_true] at hpairs
        exact ⟨fun hhigh => by simpa [hhigh] using hpairs.1, hpairs.2⟩
    rw [List.append_assoc, codes_codeText _ _ hcode (by simp)
      (fun hhigh => noLowStart_codesText hcodes (hfirst hhigh) rest), ih hpairs' (by omega)]
    rfl

/-! ### Writing -/

theorem unitText_unitEscape {u : Nat} (h : u < 0x10000) : UnitText u (unitEscape u) := by
  have hdigits := UnitText.mk (hexValue?_digitChar (show u / 16 / 16 / 16 < 16 by omega))
    (hexValue?_digitChar (show u / 16 / 16 % 16 < 16 by omega))
    (hexValue?_digitChar (show u / 16 % 16 < 16 by omega))
    (hexValue?_digitChar (show u % 16 < 16 by omega))
  rwa [show ((u / 16 / 16 / 16 * 16 + u / 16 / 16 % 16) * 16 + u / 16 % 16) * 16 + u % 16 = u by
    omega, ← hex_four h] at hdigits

theorem codeText_escapeCode (hn : n < 0x110000) : CodeText n (escapeCode n) := by
  have hshort {e d : Char} (hd : n = d.toNat) (he : (e, d) ∈ shortEscapes) :
      CodeText n ['\\', e] := by
    rw [hd]
    exact .short he
  fun_cases escapeCode n with
  | case1 h => exact hshort (d := '"') h (by decide)
  | case2 _ h => exact hshort (d := '\\') h (by decide)
  | case3 _ _ h => exact hshort (d := '\n') h (by decide)
  | case4 _ _ _ h => exact hshort (d := '\r') h (by decide)
  | case5 _ _ _ _ h => exact hshort (d := '\t') h (by decide)
  | case6 _ _ _ _ _ h => exact hshort (d := '\x0c') h (by decide)
  | case7 _ _ _ _ _ _ h => exact hshort (d := '\x08') h (by decide)
  | case8 hquote hslash _ _ _ _ _ h =>
    have hchar : (Char.ofNat n).toNat = n := toNat_ofNat_of_lt (by omega)
    have hplain : CodeText (Char.ofNat n).toNat [Char.ofNat n] := by
      refine .plain ?_ ?_ (by omega)
      · rintro hc
        rw [hc] at hchar
        exact hquote hchar.symm
      · rintro hc
        rw [hc] at hchar
        exact hslash hchar.symm
    rwa [hchar] at hplain
  | case9 => exact .unit (unitText_unitEscape (by omega))
  | case10 =>
    have hpair := CodeText.pair (u := 0xd800 + (n - 0x10000) / 1024)
      (v := 0xdc00 + (n - 0x10000) % 1024) (unitText_unitEscape (by omega))
      (unitText_unitEscape (by omega)) (by omega) (by omega)
    rwa [show 0x10000 + (0xd800 + (n - 0x10000) / 1024 - 0xd800) * 1024 +
      (0xdc00 + (n - 0x10000) % 1024 - 0xdc00) = n by omega] at hpair

theorem codesText_escaped {ns : List Nat} (hns : ∀ n ∈ ns, n < 0x110000) :
    CodesText ns (ns.flatMap escapeCode) := by
  induction ns with
  | nil => exact .nil
  | cons n ns ih =>
    exact .cons (codeText_escapeCode (hns n List.mem_cons_self))
      (ih fun m hm => hns m (List.mem_cons_of_mem n hm))

/-- What is printed is read up to and with its closing quote. -/
theorem codes_quote (t : AnyText) (opening rest : List Char) {fuel : Nat}
    (hf : (t.codes.flatMap escapeCode).length < fuel) :
    codes opening fuel (t.codes.flatMap escapeCode ++ '"' :: rest) = .ok (t.codes, rest) :=
  codes_codesText opening rest (codesText_escaped fun _ => AnyText.lt_of_mem_codes)
    (AnyText.noPairs_codes t) hf

/-! ### The text is ASCII -/

theorem isAscii_digitChar {d : Nat} (h : d < 16) : IsAscii d.digitChar := by
  unfold IsAscii
  interval_cases d <;> decide

theorem isAscii_of_mem_unitEscape {u : Nat} (h : u < 0x10000) {c : Char}
    (hc : c ∈ unitEscape u) : IsAscii c := by
  simp only [unitEscape, hex_four h, List.mem_cons, List.not_mem_nil, or_false] at hc
  rcases hc with rfl | rfl | rfl | rfl | rfl | rfl
  · exact ⟨by decide, by decide⟩
  · exact ⟨by decide, by decide⟩
  · exact isAscii_digitChar (by omega)
  · exact isAscii_digitChar (by omega)
  · exact isAscii_digitChar (by omega)
  · exact isAscii_digitChar (by omega)

theorem isAscii_of_mem_escapeCode {c : Char} (hn : n < 0x110000) (h : c ∈ escapeCode n) :
    IsAscii c := by
  have hpair {a b : Char} (ha : IsAscii a) (hb : IsAscii b) (hc : c ∈ [a, b]) : IsAscii c := by
    simp only [List.mem_cons, List.not_mem_nil, or_false] at hc
    rcases hc with rfl | rfl
    · exact ha
    · exact hb
  have hslash : IsAscii '\\' := ⟨by decide, by decide⟩
  revert h
  fun_cases escapeCode n with
  | case1 => exact hpair hslash ⟨by decide, by decide⟩
  | case2 => exact hpair hslash hslash
  | case3 => exact hpair hslash ⟨by decide, by decide⟩
  | case4 => exact hpair hslash ⟨by decide, by decide⟩
  | case5 => exact hpair hslash ⟨by decide, by decide⟩
  | case6 => exact hpair hslash ⟨by decide, by decide⟩
  | case7 => exact hpair hslash ⟨by decide, by decide⟩
  | case8 =>
    intro h
    have hchar : (Char.ofNat n).toNat = n := toNat_ofNat_of_lt (by omega)
    rw [List.mem_singleton.1 h]
    exact ⟨by omega, by omega⟩
  | case9 => exact isAscii_of_mem_unitEscape (by omega)
  | case10 =>
    obtain ⟨m, hm⟩ : ∃ m, m = n - 0x10000 := ⟨_, rfl⟩
    rw [← hm]
    intro h
    rcases List.mem_append.1 h with h | h
    · exact isAscii_of_mem_unitEscape (by omega) h
    · exact isAscii_of_mem_unitEscape (by omega) h

theorem isAscii_of_mem_quote {t : AnyText} {c : Char} (h : c ∈ quote t) : IsAscii c := by
  have hq : IsAscii '"' := ⟨by decide, by decide⟩
  simp only [quote, quoteCodes, List.mem_cons, List.mem_append, List.mem_flatMap,
    List.not_mem_nil, or_false] at h
  obtain rfl | ⟨n, hn, h⟩ | rfl := h
  · exact hq
  · exact isAscii_of_mem_escapeCode (AnyText.lt_of_mem_codes hn) h
  · exact hq

end Gatehouse.Json
