import Gatehouse.Proofs.Text.Stretch
import Gatehouse.Proofs.Token.RoundTrip

/-!
The header part of a token. In base 64 the text of an object with a first member begins with `eyJ`,
and in the header of a signer these letters do not follow a `-` anywhere, whatever its key is
called: they would stand for a brace and a quotation mark within the header, which only end a text
there, or are escaped.
-/
namespace Gatehouse
open Text

namespace Text.Base64Url
variable {bs : List UInt8} {m n : Nat}

theorem digit_inj (hm : m < 64) (hn : n < 64) (h : digit m = digit n) : m = n := by
  have hvalue := congrArg value? h
  rw [value?_digit hm, value?_digit hn] at hvalue
  exact Option.some.inj hvalue

/-- The letters stand for a brace, a quotation mark and a byte from 0x40 on, as letters are. -/
theorem exists_of_opening (h : ['e', 'y', 'J'] <+: encode bs) :
    ∃ b r, bs = 0x7b :: 0x22 :: b :: r ∧ 0x40 ≤ b.toNat := by
  have he : 'e' = digit 30 := rfl
  have hy : 'y' = digit 50 := rfl
  have hJ : 'J' = digit 9 := rfl
  match bs, h with
  | [a, b], h =>
    have ha := a.toNat_lt
    have hb := b.toNat_lt
    simp only [encode, List.cons_prefix_cons, List.nil_prefix, and_true] at h
    have hthird := digit_inj (by omega) (by omega) (hJ.symm.trans h.2.2)
    omega
  | [a], h => exact absurd h.length_le (by simp [encode])
  | [], h => exact absurd h.length_le (by simp [encode])
  | a :: b :: c :: r, h =>
    have ha := a.toNat_lt
    have hb := b.toNat_lt
    have hc := c.toNat_lt
    simp only [encode, List.cons_prefix_cons, List.nil_prefix, and_true] at h
    have hfirst := digit_inj (by omega) (by omega) (he.symm.trans h.1)
    have hsecond := digit_inj (by omega) (by omega) (hy.symm.trans h.2.1)
    have hthird := digit_inj (by omega) (by omega) (hJ.symm.trans h.2.2)
    have hbrace : a = 0x7b := UInt8.toNat_inj.1 (show a.toNat = 123 by omega)
    have hquote : b = 0x22 := UInt8.toNat_inj.1 (show b.toNat = 34 by omega)
    exact ⟨c, r, by rw [hbrace, hquote], by omega⟩

/-- In the text of ASCII bytes the letters follow a `-` only if those bytes follow another one. A
`-` ends a group of four digits there, so that the letters begin the next group. -/
theorem exists_of_dash_opening (hbs : ∀ b ∈ bs, b.toNat < 0x80)
    (h : ['-', 'e', 'y', 'J'] <:+: encode bs) :
    ∃ a b : UInt8, [a, 0x7b, 0x22, b] <:+: bs ∧ 0x40 ≤ b.toNat := by
  have hdash : '-' = digit 62 := rfl
  fun_induction encode bs with
  | case1 => exact absurd h.length_le (by simp)
  | case2 a => exact absurd h.length_le (by simp)
  | case3 a b => exact absurd h.length_le (by simp)
  | case4 a b c r ih =>
    have ha : a.toNat < 0x80 := hbs a (by simp)
    have hb : b.toNat < 0x80 := hbs b (by simp)
    have hc : c.toNat < 0x80 := hbs c (by simp)
    have hdigit {n : Nat} {l : List Char} (hn : n < 64)
        (h : ['-', 'e', 'y', 'J'] <+: digit n :: l) : 62 = n ∧ ['e', 'y', 'J'] <+: l := by
      rw [List.cons_prefix_cons] at h
      exact ⟨digit_inj (by decide) hn (hdash.symm.trans h.1), h.2⟩
    rcases List.infix_cons_iff.1 h with h | h
    · have := (hdigit (by omega) h).1
      omega
    rcases List.infix_cons_iff.1 h with h | h
    · have := (hdigit (by omega) h).1
      omega
    rcases List.infix_cons_iff.1 h with h | h
    · have := (hdigit (by omega) h).1
      omega
    rcases List.infix_cons_iff.1 h with h | h
    · obtain ⟨d, r', rfl, hd⟩ := exists_of_opening (hdigit (by omega) h).2
      exact ⟨c, d, ⟨[a, b], r', rfl⟩, hd⟩
    · obtain ⟨x, y, hinfix, hy⟩ := ih (fun x hx => hbs x (by simp [hx])) h
      exact ⟨x, y, hinfix.trans ⟨[a, b, c], [], by simp⟩, hy⟩

end Text.Base64Url

namespace Json
variable {rest : List Char} {x c : Char} {n : Nat}

theorem brace_not_mem_unitEscape (h : n < 0x10000) : '\x7b' ∉ unitEscape n := by
  have hdigit {d : Nat} (hd : d < 16) : '\x7b' ≠ d.digitChar := by interval_cases d <;> decide
  simp only [unitEscape, hex_four h, List.mem_cons, List.not_mem_nil, or_false, not_or]
  exact ⟨by decide, by decide, hdigit (by omega), hdigit (by omega), hdigit (by omega),
    hdigit (by omega)⟩

/-- A brace is written as it is, and in no other escape. -/
theorem escapeCode_brace (h : n < 0x110000) :
    escapeCode n = ['\x7b'] ∨ '\x7b' ∉ escapeCode n := by
  fun_cases escapeCode n with
  | case8 =>
    by_cases hbrace : Char.ofNat n = '\x7b'
    · exact .inl (by rw [hbrace])
    · rw [List.mem_singleton]
      exact .inr (Ne.symm hbrace)
  | case9 => exact .inr (brace_not_mem_unitEscape (by omega))
  | case10 =>
    obtain ⟨m, hm⟩ : ∃ m, m = n - 0x10000 := ⟨_, rfl⟩
    rw [← hm, List.mem_append, not_or]
    exact .inr ⟨brace_not_mem_unitEscape (by omega), brace_not_mem_unitEscape (by omega)⟩
  | _ => exact .inr (by decide)

/-- No escape begins with a quotation mark. -/
theorem escapeCode_cons (n : Nat) : ∃ y r, escapeCode n = y :: r ∧ y ≠ '"' := by
  fun_cases escapeCode n with
  | case8 hquote _ _ _ _ _ _ hplain =>
    refine ⟨_, _, rfl, fun h => hquote ?_⟩
    have hcode := congrArg Char.toNat h
    rwa [toNat_ofNat_of_lt (by omega)] at hcode
  | _ => exact ⟨'\\', _, rfl, by decide⟩

/-- A brace and a quotation mark do not stand together within a quoted text, and at its end they are
followed by what follows the text. -/
theorem infix_of_quote {t : AnyText} (hx : 0x40 ≤ x.toNat) (hc : c.toNat < 0x40)
    (h : ['\x7b', '"', x] <:+: quote t ++ c :: rest) : ['\x7b', '"', x] <:+: rest := by
  have hends : '\x7b' ∉ ['"', c] := by
    simp only [List.mem_cons, List.not_mem_nil, or_false, not_or]
    refine ⟨by decide, ?_⟩
    rintro rfl
    exact absurd hc (by decide)
  have hbody : ∀ codes : List Nat, (∀ n ∈ codes, n < 0x110000) → ['\x7b', '"', x] <:+:
      codes.flatMap escapeCode ++ '"' :: c :: rest → ['\x7b', '"', x] <:+: rest := by
    intro codes hcodes h
    induction codes with
    | nil =>
      rw [List.flatMap_nil, List.nil_append] at h
      exact infix_of_not_mem (a := ['"', c]) hends h
    | cons d ds ih =>
      have hds := ih fun n hn => hcodes n (List.mem_cons_of_mem d hn)
      rw [List.flatMap_cons, List.append_assoc] at h
      rcases escapeCode_brace (hcodes d List.mem_cons_self) with hbrace | hnone
      · rw [hbrace, List.singleton_append] at h
        rcases List.infix_cons_iff.1 h with h | h
        · have hnext := (List.cons_prefix_cons.1 h).2
          cases ds with
          | nil =>
            simp only [List.flatMap_nil, List.nil_append, List.cons_prefix_cons,
              List.nil_prefix, and_true, true_and] at hnext
            rw [hnext] at hx
            omega
          | cons e es =>
            obtain ⟨y, r, hy, hquote⟩ := escapeCode_cons e
            rw [List.flatMap_cons, hy] at hnext
            exact absurd (List.cons_prefix_cons.1 hnext).1.symm hquote
        · exact hds h
      · exact hds (infix_of_not_mem hnone h)
  apply hbody t.codes fun n => AnyText.lt_of_mem_codes
  rw [quote, quoteCodes, List.cons_append, List.append_assoc, List.singleton_append] at h
  rcases List.infix_cons_iff.1 h with h | h
  · exact absurd (List.cons_prefix_cons.1 h).1 (by decide)
  · exact h

end Json

namespace Signer
variable (s : Signer)

theorem print_header : Json.print (.object s.header) =
    '\x7b' :: (Json.quote "alg" ++ ':' :: (Json.quote s.algorithm ++ ',' ::
      (Json.quote "kid" ++ ':' :: (Json.quote s.current ++ ',' ::
        (Json.quote "typ" ++ ':' :: (Json.quote "JWT" ++ ['\x7d'])))))) := by
  simp only [header, Json.print, Json.printMembers]

/-- Within the text of the header no brace and quotation mark are followed by a letter. -/
theorem not_infix_header {c x : Char} (hx : 0x40 ≤ x.toNat) :
    ¬ [c, '\x7b', '"', x] <:+: Json.print (.object s.header) := by
  have hmark : ':'.toNat < 0x40 ∧ ','.toNat < 0x40 := by decide
  intro h
  rw [print_header] at h
  have hbehind : ['\x7b', '"', x] <:+: Json.quote "alg" ++ ':' ::
      (Json.quote s.algorithm ++ ',' :: (Json.quote "kid" ++ ':' ::
        (Json.quote s.current ++ ',' ::
          (Json.quote "typ" ++ ':' :: (Json.quote "JWT" ++ ['\x7d']))))) := by
    rcases List.infix_cons_iff.1 h with h | h
    · exact (List.cons_prefix_cons.1 h).2.isInfix
    · exact (List.suffix_cons c _).isInfix.trans h
  have hrest := Json.infix_of_quote hx hmark.1 (Json.infix_of_quote hx hmark.2
    (Json.infix_of_quote hx hmark.1 (Json.infix_of_quote hx hmark.2
      (Json.infix_of_quote hx hmark.1 hbehind))))
  have hnone : '\x7b' ∉ Json.quote "JWT" ++ ['\x7d'] := by decide
  exact hnone (hrest.subset List.mem_cons_self)

/-- The header part begins with `eyJ`, and goes on. -/
theorem exists_part_header : ∃ r, r ≠ [] ∧ Compact.part s.header = "eyJ".toList ++ r := by
  obtain ⟨r, hr⟩ : ∃ r, Json.print (.object s.header) = '\x7b' :: '"' :: 'a' :: r :=
    ⟨_, by rw [print_header]; rfl⟩
  refine ⟨'h' :: Base64Url.encode (Utf8.encode r), List.cons_ne_nil _ _, ?_⟩
  rw [Compact.part, hr]
  rfl

/-- In the header part `eyJ` does not follow a `-`. -/
theorem not_infix_part_header : ¬ ['-', 'e', 'y', 'J'] <:+: Compact.part s.header := by
  have hascii (c : Char) (hc : c ∈ Json.print (.object s.header)) : IsAscii c :=
    Json.isAscii_of_mem_print (regular_header s) hc
  intro h
  rw [Compact.part, Utf8.encode_of_isAscii hascii] at h
  have hbytes : ∀ b ∈ (Json.print (.object s.header)).map fun c => c.toNat.toUInt8,
      b.toNat < 0x80 := by
    intro b hb
    obtain ⟨c, hc, rfl⟩ := List.mem_map.1 hb
    rw [toNat_toUInt8 (hascii c hc)]
    exact (hascii c hc).2
  obtain ⟨a, b, hinfix, hb⟩ := Base64Url.exists_of_dash_opening hbytes h
  obtain ⟨l, hl, hmap⟩ := List.infix_map_iff.1 hinfix
  obtain ⟨c, l, rfl, -, htail⟩ := List.map_eq_cons_iff.1 hmap.symm
  obtain ⟨brace, l, rfl, hbrace, htail⟩ := List.map_eq_cons_iff.1 htail
  obtain ⟨quote, l, rfl, hquote, htail⟩ := List.map_eq_cons_iff.1 htail
  obtain ⟨x, l, rfl, rfl, hend⟩ := List.map_eq_cons_iff.1 htail
  obtain rfl := List.map_eq_nil_iff.1 hend
  have hchar {d e : Char} (hd : d ∈ [c, brace, quote, x]) (he : IsAscii e)
      (h : d.toNat.toUInt8 = e.toNat.toUInt8) : d = e := by
    have hcode := congrArg UInt8.toNat h
    rw [toNat_toUInt8 (hascii d (hl.subset hd)), toNat_toUInt8 he] at hcode
    exact Char.toNat_inj.1 hcode
  obtain rfl := hchar (e := '\x7b') (by simp) ⟨by decide, by decide⟩ hbrace
  obtain rfl := hchar (e := '"') (by simp) ⟨by decide, by decide⟩ hquote
  rw [toNat_toUInt8 (hascii x (hl.subset (by simp)))] at hb
  exact s.not_infix_header hb hl

end Signer

end Gatehouse
