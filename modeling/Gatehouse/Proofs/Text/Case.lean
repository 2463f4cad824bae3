import Gatehouse.Text.Case
import Gatehouse.Text.Split
import Mathlib.Tactic.SplitIfs

/-!
Words in any letter case. Two letters of ASCII are also the lower case of a character beyond ASCII;
a word without these two is found at the start of a lowered text exactly where the text starts with
the word in upper or lower case.
-/
namespace Gatehouse.Text

/-- The character is of ASCII and no lower case of a character beyond it. -/
structure Steady (x : Char) : Prop where
  pos : 0 < x.toNat
  ascii : x.toNat < 0x80
  ne_i : x ≠ 'i'
  ne_k : x ≠ 'k'

instance (x : Char) : Decidable (Steady x) :=
  decidable_of_iff (0 < x.toNat ∧ x.toNat < 0x80 ∧ x ≠ 'i' ∧ x ≠ 'k')
    ⟨fun h => ⟨h.1, h.2.1, h.2.2.1, h.2.2.2⟩, fun h => ⟨h.pos, h.ascii, h.ne_i, h.ne_k⟩⟩

/-- A number that no character has stands for the character 0. -/
theorem toNat_ofNat (n : Nat) : (Char.ofNat n).toNat = n ∨ (Char.ofNat n).toNat = 0 := by
  by_cases h : n.isValidChar
  · exact .inl (congrArg Char.toNat (dif_pos h))
  · exact .inr (congrArg Char.toNat (dif_neg h))

/-- Only the sign for kelvin changes into a character of ASCII. -/
theorem lowerRuns_beyond_ascii : ∀ r ∈ lowerRuns,
    r = (0x212a, 0x212a, 1, -8383) ∨ 0x80 ≤ (r.1 : Int) + r.2.2.2 := by
  decide +kernel

theorem beyond_ascii_of_apply? {n k : Nat} (h : lowerRuns.apply? n = some k) :
    k = 'k'.toNat ∨ 0x80 ≤ k := by
  obtain ⟨r, hfind, rfl⟩ := Option.map_eq_some_iff.1 h
  have hr := List.find?_some hfind
  simp only [Bool.and_eq_true, decide_eq_true_eq] at hr
  obtain ⟨⟨hfirst, hlast⟩, -⟩ := hr
  obtain rfl | hbeyond := lowerRuns_beyond_ascii r (List.mem_of_find?_eq_some hfind)
  · have hn : n = 0x212a := Nat.le_antisymm hlast hfirst
    exact .inl (by rw [hn]; rfl)
  · exact .inr (by omega)

theorem ascii_of_toLower {c : Char} (h : c.toLower.toNat < 0x80) : c.toNat < 0x80 := by
  unfold Char.toLower at h
  split at h
  · next hupper =>
    have : 65 ≤ c.toNat ∧ c.toNat ≤ 90 := hupper
    omega
  · exact h

namespace Steady
variable {x c : Char}

theorem lowerChar_of_toLower (hx : Steady x) (h : c.toLower = x) : lowerChar c = [x] := by
  have hascii : c.toNat < 0x80 := ascii_of_toLower (h ▸ hx.ascii)
  rw [lowerChar, if_pos hascii, h]

theorem mem_lowerChar (hx : Steady x) : x ∈ lowerChar c ↔ c.toLower = x := by
  constructor
  · intro h
    unfold lowerChar at h
    split_ifs at h with hascii hdotted
    · exact (List.mem_singleton.1 h).symm
    · obtain rfl | rfl : x = 'i' ∨ x = Char.ofNat 0x307 := by simpa using h
      · exact absurd rfl hx.ne_i
      · exact absurd hx.ascii (by decide)
    · split at h
      · next k hk =>
        obtain rfl := List.mem_singleton.1 h
        obtain rfl | hbeyond := beyond_ascii_of_apply? hk
        · exact absurd (by decide) hx.ne_k
        · have hpos := hx.pos
          have hless := hx.ascii
          obtain hk | hk := toNat_ofNat k <;> omega
      · obtain rfl := List.mem_singleton.1 h
        exact absurd hx.ascii hascii
  · intro h
    rw [hx.lowerChar_of_toLower h]
    exact List.mem_cons_self ..

end Steady

theorem lowerChar_ne_nil (c : Char) : lowerChar c ≠ [] := by
  unfold lowerChar
  split_ifs
  · simp
  · simp
  · split <;> simp

/-- A lowered text starts with a word exactly if the text starts with the word in some case. -/
theorem isSome_stripPrefix?_lower {word : List Char} (hword : ∀ x ∈ word, Steady x)
    (cs : List Char) : (stripPrefix? word (lower cs)).isSome = true ↔
      ∃ w rest, cs = w ++ rest ∧ w.map Char.toLower = word := by
  induction word generalizing cs with
  | nil =>
    simp only [stripPrefix?, Option.isSome_some, List.map_eq_nil_iff, true_iff]
    exact ⟨[], cs, rfl, rfl⟩
  | cons x word ih =>
    have hx : Steady x := hword x (by simp)
    cases cs with
    | nil => simp [lower, stripPrefix?]
    | cons c cs =>
      have hlower : lower (c :: cs) = lowerChar c ++ lower cs := List.flatMap_cons
      by_cases hc : c.toLower = x
      · rw [hlower, hx.lowerChar_of_toLower hc, List.singleton_append, stripPrefix?, if_pos rfl,
          ih fun y hy => hword y (List.mem_cons_of_mem x hy)]
        constructor
        · rintro ⟨w, rest, rfl, hw⟩
          exact ⟨c :: w, rest, rfl, by rw [List.map_cons, hc, hw]⟩
        · rintro ⟨w, rest, htext, hw⟩
          obtain ⟨d, w, rfl⟩ := List.exists_cons_of_ne_nil (l := w) (by rintro rfl; simp at hw)
          exact ⟨w, rest, (List.cons.inj htext).2, (List.cons.inj hw).2⟩
      · obtain ⟨y, ys, hy⟩ := List.exists_cons_of_ne_nil (lowerChar_ne_nil c)
        have hne : x ≠ y := by
          rintro rfl
          exact hc (hx.mem_lowerChar.1 (hy ▸ List.mem_cons_self ..))
        rw [hlower, hy, List.cons_append, stripPrefix?, if_neg hne]
        simp only [Option.isSome_none, Bool.false_eq_true, false_iff, not_exists, not_and]
        intro w rest htext hw
        obtain ⟨d, w, rfl⟩ := List.exists_cons_of_ne_nil (l := w) (by rintro rfl; simp at hw)
        obtain rfl := (List.cons.inj htext).1
        exact hc (List.cons.inj hw).1

end Gatehouse.Text
