import Mathlib.Data.List.Chain
import Gatehouse.Proofs.Log.Signed

/-!
Masking of texts with unpaired surrogates. Such a text is masked run by run: its code points after
the masking are those of its masked runs with the surrogates between them, and a stretch of
characters that is seen in it stands within one masked run.
-/
namespace Gatehouse.Log
open Text AnyText

/-! ### Code points -/

/-- The two do not stand for one character. -/
def NoPair (u v : Nat) : Prop := ¬ (isHighSurrogate u = true ∧ isLowSurrogate v = true)

theorem noPairs_iff_isChain {codes : List Nat} :
    noPairs codes = true ↔ codes.IsChain NoPair := by
  induction codes with
  | nil => simp [noPairs]
  | cons u r ih =>
    cases r with
    | nil => simp [noPairs]
    | cons v r =>
      rw [noPairs, List.isChain_cons_cons, ← ih, Bool.and_eq_true]
      simp [NoPair, ← Bool.not_eq_true, imp_iff_not_or]

theorem infix_map_toNat {cs ds : List Char} :
    cs.map Char.toNat <:+: ds.map Char.toNat ↔ cs <:+: ds := by
  constructor
  · intro h
    have hinjective : Function.Injective Char.toNat := fun _ _ h => Char.toNat_inj.1 h
    obtain ⟨l, hl, hsame⟩ := List.infix_map_iff.1 h
    rwa [List.map_injective_iff.2 hinjective hsame]
  · exact fun h => h.map Char.toNat

/-! ### Masked runs -/

section
variable {p : Pattern} {mask run cs : List Char} {codes : List Nat} {n : Nat}

theorem Pattern.replace_ne_nil (hmask : mask ≠ []) (h : cs ≠ []) : p.replace mask cs ≠ [] := by
  obtain ⟨c, r, rfl⟩ := List.exists_cons_of_ne_nil h
  rw [Pattern.replace, Pattern.replaceFrom]
  split
  · simp [hmask]
  · exact List.cons_ne_nil _ _

theorem redactChars_ne_nil (h : run ≠ []) : redactChars run ≠ [] :=
  Pattern.replace_ne_nil (by decide) (Pattern.replace_ne_nil (by decide) h)

theorem redactRuns_toNat (run cs : List Char) :
    redactRuns run (cs.map Char.toNat) = (redactChars (run ++ cs)).map Char.toNat := by
  induction cs generalizing run with
  | nil => rw [List.append_nil]; rfl
  | cons c cs ih =>
    rw [List.map_cons, redactRuns, if_neg (by simp [surrogate_toNat]), Char.ofNat_toNat, ih,
      List.append_assoc]
    rfl

/-- A masked run that is not empty begins with a character. -/
theorem head?_maskedRun (hn : isLowSurrogate n = true) (hrun : run ≠ []) (rest : List Nat) :
    ((redactChars run).map Char.toNat ++ rest).head? ≠ some n := by
  obtain ⟨c, cs, hcs⟩ := List.exists_cons_of_ne_nil (redactChars_ne_nil hrun)
  rw [hcs]
  intro h
  obtain rfl := Option.some.inj h
  rw [(surrogate_toNat c).2] at hn
  cases hn

/-- A low surrogate comes first only if it did before the masking. -/
theorem head?_redactRuns (hn : isLowSurrogate n = true)
    (h : (redactRuns run codes).head? = some n) : run = [] ∧ codes.head? = some n := by
  induction codes generalizing run with
  | nil =>
    by_cases hrun : run = []
    · subst hrun
      cases h
    · rw [redactRuns, ← List.append_nil (List.map _ _)] at h
      exact absurd h (head?_maskedRun hn hrun [])
  | cons m r ih =>
    rw [redactRuns] at h
    split at h
    · by_cases hrun : run = []
      · subst hrun
        exact ⟨rfl, h⟩
      · exact absurd h (head?_maskedRun hn hrun _)
    · obtain ⟨hnil, -⟩ := ih h
      simp at hnil

/-- The masking makes no pair of two surrogates. -/
theorem isChain_redactRuns (run : List Char) (h : codes.IsChain NoPair) :
    (redactRuns run codes).IsChain NoPair := by
  have hmasked (run : List Char) : ((redactChars run).map Char.toNat).IsChain NoPair :=
    noPairs_iff_isChain.1 (noPairs_toNat _)
  induction codes generalizing run with
  | nil => exact hmasked run
  | cons m r ih =>
    obtain ⟨hnext, hr⟩ := List.isChain_cons.1 h
    rw [redactRuns]
    split
    · refine List.isChain_append.2 ⟨hmasked run, List.isChain_cons.2 ⟨?_, ih [] hr⟩, ?_⟩
      · rintro v hv ⟨hhigh, hlow⟩
        exact hnext v (head?_redactRuns hlow hv).2 ⟨hhigh, hlow⟩
      · rintro u hu v - ⟨hhigh, -⟩
        obtain ⟨c, -, rfl⟩ := List.mem_map.1 (List.mem_of_mem_getLast? hu)
        rw [(surrogate_toNat c).1] at hhigh
        cases hhigh
    · exact ih _ hr

theorem lt_of_mem_redactRuns (run : List Char) (hcodes : ∀ n ∈ codes, n < 0x110000) :
    ∀ n ∈ redactRuns run codes, n < 0x110000 := by
  have hmasked (run : List Char) : ∀ n ∈ (redactChars run).map Char.toNat, n < 0x110000 :=
    fun n hn => lt_of_mem_codes (t := String.ofList (redactChars run))
      (by rwa [AnyText.codes, String.toList_ofList])
  induction codes generalizing run with
  | nil => exact hmasked run
  | cons m r ih =>
    obtain ⟨hm, hr⟩ := List.forall_mem_cons.1 hcodes
    rw [redactRuns]
    split
    · intro n hn
      rcases List.mem_append.1 hn with hn | hn
      · exact hmasked run n hn
      · rcases List.mem_cons.1 hn with rfl | hn
        · exact hm
        · exact ih [] hr n hn
    · exact ih _ hr

/-- The masked text holds the masked runs and the surrogates between them. -/
theorem codes_redactText (text : AnyText) :
    (redactText text).codes = redactRuns [] text.codes := by
  cases text with
  | string s =>
    rw [redactText, AnyText.codes, AnyText.codes, toList_redact, redactRuns_toNat, List.nil_append]
  | unpaired codes h =>
    have hpairs := noPairs_codes (.unpaired codes h)
    rw [redactText, AnyText.codes]
    refine codes_ofCodes (noPairs_iff_isChain.2 (isChain_redactRuns [] ?_)) ?_
    · exact noPairs_iff_isChain.1 hpairs
    · exact lt_of_mem_redactRuns [] fun n hn => lt_of_mem_codes (t := .unpaired codes h) hn

/-- A stretch of characters that is seen behind the masking is seen in one masked run. -/
theorem exists_run_of_infix {stretch : List Char} (hcodes : ∀ n ∈ codes, n < 0x110000)
    (h : stretch.map Char.toNat <:+: redactRuns run codes) :
    ∃ cs, stretch <:+: redactChars cs ∧ cs.map Char.toNat <:+: run.map Char.toNat ++ codes := by
  induction codes generalizing run with
  | nil => exact ⟨run, infix_map_toNat.1 h, by simp⟩
  | cons n r ih =>
    obtain ⟨hn, hr⟩ := List.forall_mem_cons.1 hcodes
    rw [redactRuns] at h
    split at h
    · next hsurrogate =>
      have hnot : n ∉ stretch.map Char.toNat := by
        intro hmem
        obtain ⟨c, -, rfl⟩ := List.mem_map.1 hmem
        simp [surrogate_toNat] at hsurrogate
      rcases infix_of_append_cons hnot h with h | h
      · exact ⟨run, infix_map_toNat.1 h, (List.prefix_append _ _).isInfix⟩
      · obtain ⟨cs, hseen, hcs⟩ := ih hr h
        exact ⟨cs, hseen, hcs.trans ⟨run.map Char.toNat ++ [n], [], by simp⟩⟩
    · next hplain =>
      obtain ⟨cs, hseen, hcs⟩ := ih hr h
      rw [List.map_append, List.map_singleton, toNat_ofNat hn (by simpa using hplain),
        List.append_assoc] at hcs
      exact ⟨cs, hseen, hcs⟩

end

/-! ### Tokens in texts -/

/-- The token can be read in the text. -/
def ShowsIn (text : AnyText) (token : String) : Prop :=
  token.toList.map Char.toNat <:+: text.codes

/-- The token, in some letter case, stands directly behind a word character of the text. -/
def ExposedIn (text : AnyText) (token : String) : Prop :=
  ∃ pre w spelled post, text.codes = pre ++ (w :: spelled).map Char.toNat ++ post ∧
    isWord w = true ∧ spelled.map Char.toLower = token.toList.map Char.toLower

theorem showsIn_string {message token : String} : ShowsIn message token ↔ Shows message token :=
  infix_map_toNat

/-- A token that is signed with a key is seen in a masked text only if it stood behind a word
character. -/
theorem exposedIn_of_shows [Platform] {s : Signer} {c : Claims} {t : String} (h : s.sign c = .ok t)
    (hkeyed : Algorithm.ofName? s.algorithm ≠ some .unsigned) {text : AnyText}
    (hseen : ShowsIn (redactText text) t) : ExposedIn text t := by
  obtain ⟨first, second, third, hsegments, hunsigned⟩ := exists_segments h
  rw [ShowsIn, codes_redactText] at hseen
  obtain ⟨cs, hseen, a, b, hcodes⟩ := exists_run_of_infix (fun n hn => lt_of_mem_codes hn) hseen
  obtain ⟨pre, w, spelled, post, rfl, hw, hcase⟩ :=
    hsegments.exists_of_infix (fun hthird => hkeyed (hunsigned.1 hthird)) hseen
  refine ⟨a ++ pre.map Char.toNat, w, spelled, post.map Char.toNat ++ b, ?_, hw, hcase⟩
  rw [List.map_nil, List.nil_append] at hcodes
  rw [← hcodes]
  simp

end Gatehouse.Log
