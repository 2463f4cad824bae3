import Gatehouse.Log.Redaction
import Gatehouse.Proofs.Text.Stretch
import Mathlib.Tactic.SplitIfs

/-!
What masking leaves of a text. A stretch of the masked text in which no character of the mask occurs
stands in the text itself, at a place where the pattern does not match; and a stretch that is set
off by characters that no match goes beyond is masked by itself.
-/
namespace Gatehouse.Log
open Text

namespace Pattern
variable {β : Type} {f : Char → β} {p : Pattern} {mask first more t cs : List Char} {mark c : Char}
  {inWord : Bool} {skip n : Nat}

/-- A word character stands before what follows the text. -/
def wordBefore (inWord : Bool) : List Char → Bool
  | [] => inWord
  | c :: r => wordBefore (isWord c) r

theorem wordBefore_append (inWord : Bool) (cs : List Char) (c : Char) :
    wordBefore inWord (cs ++ [c]) = isWord c := by
  induction cs generalizing inWord with
  | nil => rfl
  | cons d r ih => exact ih (isWord d)

/-- The flag is up behind a text exactly if the text ends with a word character. -/
theorem exists_of_wordBefore (h : wordBefore false cs = true) :
    ∃ r w, cs = r ++ [w] ∧ isWord w = true := by
  rcases List.eq_nil_or_concat' cs with rfl | ⟨r, w, rfl⟩
  · cases h
  · rw [wordBefore_append] at h
    exact ⟨r, w, rfl, h⟩

/-! ### What is left of a text -/

/-- Matches begin with this text, as far as `f` can tell. -/
def Spells (p : Pattern) (f : Char → β) (first : List Char) : Prop :=
  ∀ inWord cs n, p inWord cs = some n → first.map f <+: cs.map f

/-- The mask is the beginning of the matches and characters that the stretch avoids. A stretch at
the beginning of the masked text is one of the text then. -/
theorem prefix_of_replaceFrom (hp : p.Spells f first) (hmark : mark ∉ t)
    (h : t <+: replaceFrom p (first ++ mark :: more) 0 inWord cs) : t.map f <+: cs.map f := by
  induction cs generalizing t inWord with
  | nil =>
    obtain rfl := List.prefix_nil.1 h
    exact List.nil_prefix
  | cons c r ih =>
    rw [replaceFrom] at h
    cases hmatch : p inWord (c :: r) with
    | some n =>
      simp only [hmatch, List.append_assoc, List.cons_append] at h
      exact ((prefix_of_append_cons hmark h).map f).trans (hp _ _ _ hmatch)
    | none =>
      simp only [hmatch] at h
      rcases List.prefix_cons_iff.1 h with rfl | ⟨q, rfl, hq⟩
      · exact List.nil_prefix
      · rw [List.map_cons, List.map_cons]
        exact (List.prefix_cons_inj _).2 (ih (fun hm => hmark (List.mem_cons_of_mem c hm)) hq)

/-- So is a stretch anywhere in the masked text; if nothing of the matches is kept, the pattern does
not match where it stands. -/
theorem infix_of_replaceFrom (hp : p.Spells f first) (ht : t ≠ []) (hmark : mark ∉ t)
    (hmore : ∀ x ∈ more, x ∉ t)
    (h : t <:+: replaceFrom p (first ++ mark :: more) skip inWord cs) :
    ∃ pre post, cs = pre ++ post ∧ t.map f <+: post.map f ∧
      (first = [] → p (wordBefore inWord pre) post = none) := by
  induction cs generalizing skip inWord with
  | nil => exact absurd (List.infix_nil.1 h) ht
  | cons c r ih =>
    have hlater (skip : Nat) (h : t <:+: replaceFrom p (first ++ mark :: more) skip (isWord c) r) :
        ∃ pre post, c :: r = pre ++ post ∧ t.map f <+: post.map f ∧
          (first = [] → p (wordBefore inWord pre) post = none) := by
      obtain ⟨pre, post, rfl, hpost, hnone⟩ := ih h
      exact ⟨c :: pre, post, rfl, hpost, hnone⟩
    cases skip with
    | succ skip => exact hlater skip h
    | zero =>
      rw [replaceFrom] at h
      cases hmatch : p inWord (c :: r) with
      | some n =>
        simp only [hmatch, List.append_assoc, List.cons_append] at h
        rcases infix_of_append_cons hmark h with h | h
        · obtain ⟨l, ⟨pre, post, hcs⟩, hl⟩ :=
            List.infix_map_iff.1 ((h.map f).trans (hp _ _ _ hmatch).isInfix)
          refine ⟨pre, l ++ post, by rw [← hcs, List.append_assoc], ?_, ?_⟩
          · rw [hl, List.map_append]
            exact List.prefix_append _ _
          · rintro rfl
            exact absurd (List.infix_nil.1 h) ht
        · obtain ⟨x, l, rfl⟩ := List.exists_cons_of_ne_nil ht
          have hx : x ∉ more := fun hmem => hmore x hmem List.mem_cons_self
          exact hlater (n - 1) (infix_of_not_mem hx h)
      | none =>
        simp only [hmatch] at h
        rcases List.infix_cons_iff.1 h with h | h
        · have hstart : t <+: replaceFrom p (first ++ mark :: more) 0 inWord (c :: r) := by
            rw [replaceFrom]
            simpa only [hmatch] using h
          exact ⟨[], c :: r, rfl, prefix_of_replaceFrom hp hmark hstart, fun _ => hmatch⟩
        · exact hlater 0 h

/-! ### Matches that stop -/

/-- No match goes beyond the character, and none depends on what follows it. -/
structure StopsAt (p : Pattern) (c : Char) : Prop where
  nil : ∀ inWord, p inWord [] = none
  append : ∀ inWord cs rest, p inWord (cs ++ c :: rest) = p inWord cs
  within : ∀ inWord cs n, p inWord cs = some n → n ≤ cs.length

/-- The text before such a character and the text behind it are masked apart. -/
theorem StopsAt.replaceFrom_append (h : p.StopsAt c) (hskip : skip ≤ cs.length)
    (rest : List Char) : replaceFrom p mask skip inWord (cs ++ c :: rest) =
      replaceFrom p mask skip inWord cs ++ c :: replaceFrom p mask 0 (isWord c) rest := by
  induction cs generalizing skip inWord with
  | nil =>
    obtain rfl := Nat.le_zero.1 hskip
    have hnone : p inWord (c :: rest) = none := (h.append inWord [] rest).trans (h.nil inWord)
    simp only [List.nil_append, replaceFrom, hnone]
  | cons d r ih =>
    cases skip with
    | succ skip =>
      rw [List.cons_append, replaceFrom, replaceFrom]
      exact ih (Nat.le_of_succ_le_succ hskip)
    | zero =>
      have hsame := h.append inWord (d :: r) rest
      rw [List.cons_append] at hsame ⊢
      rw [replaceFrom, replaceFrom, hsame]
      cases hmatch : p inWord (d :: r) with
      | some n =>
        have hn := h.within _ _ _ hmatch
        rw [List.length_cons] at hn
        dsimp only
        rw [ih (by omega), List.append_assoc]
      | none =>
        dsimp only
        rw [ih (Nat.zero_le _), List.cons_append]

/-- A text that ends with such a character, if it has any. -/
def Ended (stop : Char → Prop) (cs : List Char) : Prop := cs = [] ∨ ∃ r c, cs = r ++ [c] ∧ stop c

/-- A text that begins with such a character, if it has any. -/
def Begun (stop : Char → Prop) (cs : List Char) : Prop := cs = [] ∨ ∃ c r, cs = c :: r ∧ stop c

/-- A stretch that is set off and has no match in it stays as it is, and set off. -/
theorem replace_of_setOff (mask : List Char) {stop : Char → Prop}
    (hstop : ∀ c, stop c → p.StopsAt c) {pre post : List Char} (hpre : Ended stop pre)
    (hpost : Begun stop post) (hnone : ∀ inWord, p.occursFrom inWord t = false) :
    ∃ pre' post', Ended stop pre' ∧ Begun stop post' ∧
      p.replace mask (pre ++ t ++ post) = pre' ++ t ++ post' := by
  have hkept (inWord : Bool) : ∃ post', Begun stop post' ∧
      replaceFrom p mask 0 inWord (t ++ post) = t ++ post' := by
    obtain rfl | ⟨c, r, rfl, hc⟩ := hpost
    · exact ⟨[], .inl rfl, by simp [replaceFrom_of_not_occursFrom (hnone inWord)]⟩
    · refine ⟨c :: replaceFrom p mask 0 (isWord c) r, .inr ⟨c, _, rfl, hc⟩, ?_⟩
      rw [(hstop c hc).replaceFrom_append (Nat.zero_le _),
        replaceFrom_of_not_occursFrom (hnone inWord)]
  rw [List.append_assoc]
  obtain rfl | ⟨r, c, rfl, hc⟩ := hpre
  · obtain ⟨post', hpost', hreplaced⟩ := hkept false
    exact ⟨[], post', .inl rfl, hpost', by rw [replace, List.nil_append, hreplaced]; rfl⟩
  · obtain ⟨post', hpost', hreplaced⟩ := hkept (isWord c)
    refine ⟨replaceFrom p mask 0 false r ++ [c], post', .inr ⟨_, c, rfl, hc⟩, hpost', ?_⟩
    have hcut : r ++ [c] ++ (t ++ post) = r ++ c :: (t ++ post) := by simp
    rw [replace, hcut, (hstop c hc).replaceFrom_append (Nat.zero_le _), hreplaced]
    simp

/-- A match stands at some place of a text in which the pattern occurs. -/
theorem exists_of_occursFrom (h : p.occursFrom inWord cs = true) :
    ∃ pre post n, cs = pre ++ post ∧ p (wordBefore inWord pre) post = some n := by
  induction cs generalizing inWord with
  | nil => cases h
  | cons c r ih =>
    rw [occursFrom, Bool.or_eq_true] at h
    rcases h with h | h
    · obtain ⟨n, hn⟩ := Option.isSome_iff_exists.1 h
      exact ⟨[], c :: r, n, rfl, hn⟩
    · obtain ⟨pre, post, n, rfl, hn⟩ := ih h
      exact ⟨c :: pre, post, n, rfl, hn⟩

end Pattern

end Gatehouse.Log
