import Gatehouse.Proofs.Log.Masking
import Mathlib.Tactic.IntervalCases

/-!
The two patterns of credentials: what a match of them consists of, and where it stops. A character
that is neither blank nor part of a credential sets off what stands before it from what stands
behind it.
-/
namespace Gatehouse.Log
open Text

section
variable {k : Char → Bool} {cs rest : List Char} {c : Char}

theorem stripPrefix?_eq_some {p : List Char} (h : stripPrefix? p cs = some rest) :
    cs = p ++ rest := by
  induction p generalizing cs with
  | nil => exact Option.some.inj h
  | cons x p ih =>
    cases cs with
    | nil => cases h
    | cons y cs =>
      rw [stripPrefix?] at h
      split_ifs at h with hxy
      rw [hxy, ih h, List.cons_append]

theorem stripPrefix?_append_cons {p : List Char} (hc : c ∉ p) : stripPrefix? p (cs ++ c :: rest) =
    (stripPrefix? p cs).map (· ++ c :: rest) := by
  induction p generalizing cs with
  | nil => rfl
  | cons x p ih =>
    rw [List.mem_cons, not_or] at hc
    cases cs with
    | nil => simp [stripPrefix?, Ne.symm hc.1]
    | cons y cs =>
      rw [List.cons_append, stripPrefix?, stripPrefix?]
      split_ifs
      · exact ih hc.2
      · rfl

/-! ### Runs -/

/-- A run is the longest beginning of the text with characters of the class. -/
theorem exists_run (k : Char → Bool) (cs : List Char) :
    ∃ run rest, cs = run ++ rest ∧ runLength k cs = run.length ∧ (∀ c ∈ run, k c = true) ∧
      Pattern.Begun (k · = false) rest := by
  refine ⟨cs.takeWhile k, cs.dropWhile k, List.takeWhile_append_dropWhile.symm, rfl,
    List.all_eq_true.1 List.all_takeWhile, ?_⟩
  cases hrest : cs.dropWhile k with
  | nil => exact .inl rfl
  | cons c r =>
    refine .inr ⟨c, r, rfl, ?_⟩
    have hhead := List.head_dropWhile_not k (l := cs) (by simp [hrest])
    simpa only [hrest, List.head_cons] using hhead

theorem runLength_le (k : Char → Bool) (cs : List Char) : runLength k cs ≤ cs.length :=
  (List.takeWhile_prefix k).length_le

theorem runLength_append_cons (hc : k c = false) :
    runLength k (cs ++ c :: rest) = runLength k cs := by
  rw [runLength, List.takeWhile_append, List.takeWhile_cons_of_neg (by simp [hc]), List.append_nil]
  split_ifs with hall
  · exact hall.symm
  · rfl

theorem runLength_append {run : List Char} (hrun : ∀ c ∈ run, k c = true) :
    runLength k (run ++ cs) = run.length + runLength k cs := by
  rw [runLength, List.takeWhile_append_of_pos hrun, List.length_append, runLength]

end

/-- Every character but the capital letters is its own lower case. -/
theorem toLower_eq_self_or (c : Char) :
    c.toLower = c ∨ ∃ n, 65 ≤ n ∧ n ≤ 90 ∧ c = Char.ofNat n := by
  by_cases hupper : 65 ≤ c.toNat ∧ c.toNat ≤ 90
  · exact .inr ⟨c.toNat, hupper.1, hupper.2, (Char.ofNat_toNat c).symm⟩
  · exact .inl (dif_neg hupper)

theorem apply_toLower {p : Char → Bool}
    (h : ∀ n ∈ List.range' 65 26, p (Char.ofNat n).toLower = p (Char.ofNat n)) (c : Char) :
    p c.toLower = p c := by
  rcases toLower_eq_self_or c with hsame | ⟨n, hlow, hhigh, rfl⟩
  · rw [hsame]
  · exact h n (List.mem_range'_1.2 ⟨hlow, by omega⟩)

/-- No blank, and no part of a credential. -/
def Apart (c : Char) : Prop := isCredentialChar c = false ∧ isBlank c = false

namespace Apart
variable {c : Char}

theorem not_segmentChar (h : Apart c) : isSegmentChar c = false := by
  have hcredential := h.1
  simp only [isCredentialChar, Bool.or_eq_false_iff] at hcredential
  exact hcredential.1.1.1

theorem ne_dot (h : Apart c) : c ≠ '.' := by
  rintro rfl
  exact absurd h.1 (by decide)

theorem toLower_not_mem (h : Apart c) : c.toLower ∉ "bearer".toList := by
  have hletters : ∀ x ∈ "bearer".toList, isCredentialChar x = true :=
    List.all_eq_true.1 (by decide)
  rcases toLower_eq_self_or c with hsame | ⟨n, hlow, hhigh, rfl⟩
  · intro hmem
    rw [hsame] at hmem
    exact absurd h.1 (by simp [hletters c hmem])
  · have hcredential : isCredentialChar (Char.ofNat n) = true := by interval_cases n <;> decide
    exact absurd h.1 (by simp [hcredential])

end Apart

/-! ### Bearer credentials -/

section
variable {inWord : Bool} {cs : List Char} {n : Nat} {c : Char}

/-- A match consists of the word, blanks and a credential, which it does not leave before its end,
and stands behind no word character. -/
theorem exists_of_bearerPattern (h : bearerPattern inWord cs = some n) : inWord = false ∧
    ∃ word blanks credential rest, cs = word ++ blanks ++ credential ++ rest ∧
      word.map Char.toLower = "bearer".toList ∧ blanks ≠ [] ∧ credential ≠ [] ∧
      n = word.length + blanks.length + credential.length ∧ (∀ c ∈ blanks, isBlank c = true) ∧
      (∀ c ∈ credential, isCredentialChar c = true) ∧
      Pattern.Begun (isCredentialChar · = false) rest := by
  unfold bearerPattern at h
  simp only at h
  split_ifs at h with hword hrun
  simp only [Bool.or_eq_true, bne_iff_ne, not_or, Decidable.not_not, Bool.not_eq_true] at hword
  simp only [Bool.or_eq_true, decide_eq_true_eq, not_or] at hrun
  obtain ⟨hfree, hword⟩ := hword
  have hsix : (cs.take 6).length = 6 := by
    have := congrArg List.length hword
    simpa using this
  obtain ⟨blanks, behind, hbehind, hblanks, hblank, -⟩ := exists_run isBlank (cs.drop 6)
  rw [hblanks, hbehind, List.drop_left] at hrun h
  obtain ⟨credential, rest, rfl, hlength, hcredential, hrest⟩ := exists_run isCredentialChar behind
  rw [hlength] at hrun h
  refine ⟨hfree, cs.take 6, blanks, credential, rest, ?_, hword, ?_, ?_, ?_, hblank, hcredential,
    hrest⟩
  · rw [List.append_assoc, List.append_assoc, ← hbehind, List.take_append_drop]
  · rintro rfl
    exact hrun.1 rfl
  · rintro rfl
    exact hrun.2 rfl
  · rw [hsix]
    exact (Option.some.inj h).symm

theorem bearerPattern_spells :
    bearerPattern.Spells Char.toLower "Bearer".toList := by
  intro inWord cs n h
  obtain ⟨-, word, blanks, credential, rest, rfl, hword, -⟩ := exists_of_bearerPattern h
  show "bearer".toList <+: _
  rw [← hword, List.append_assoc, List.append_assoc]
  exact (List.prefix_append word _).map _

/-- There is no credential without a blank. -/
theorem bearerPattern_of_no_blank (h : ∀ c ∈ cs, isBlank c = false) (inWord : Bool) :
    bearerPattern.occursFrom inWord cs = false := by
  by_contra hoccurs
  rw [Bool.not_eq_false] at hoccurs
  obtain ⟨pre, post, n, rfl, hmatch⟩ := Pattern.exists_of_occursFrom hoccurs
  obtain ⟨-, word, blanks, credential, rest, rfl, -, hne, -, -, hblank, -⟩ :=
    exists_of_bearerPattern hmatch
  obtain ⟨c, blanks, rfl⟩ := List.exists_cons_of_ne_nil hne
  have hcblank := hblank c List.mem_cons_self
  rw [h c (by simp)] at hcblank
  cases hcblank

theorem bearerPattern_stopsAt (hc : Apart c) : bearerPattern.StopsAt c where
  nil inWord := by simp [bearerPattern]
  append inWord cs rest := by
    unfold bearerPattern
    by_cases hlength : 6 ≤ cs.length
    · simp only [List.take_append_of_le_length hlength, List.drop_append_of_le_length hlength,
        runLength_append_cons hc.2, List.drop_append_of_le_length (runLength_le _ _),
        runLength_append_cons hc.1]
    · have hshort : (cs.take 6).map Char.toLower ≠ "bearer".toList := by
        intro h
        have := congrArg List.length h
        simp at this
        omega
      have hcut : ((cs ++ c :: rest).take 6).map Char.toLower ≠ "bearer".toList := by
        intro h
        apply hc.toLower_not_mem
        rw [← h]
        apply List.mem_map_of_mem
        rw [List.take_append]
        apply List.mem_append_right
        obtain ⟨m, hm⟩ : ∃ m, 6 - cs.length = m + 1 := ⟨5 - cs.length, by omega⟩
        rw [hm, List.take_succ_cons]
        exact List.mem_cons_self
      have hno {word : List Char} (h : word ≠ "bearer".toList) :
          (inWord || word != "bearer".toList) = true := by
        rw [Bool.or_eq_true, bne_iff_ne]
        exact .inr h
      rw [if_pos (hno hshort), if_pos (hno hcut)]
  within inWord cs n h := by
    obtain ⟨-, word, blanks, credential, rest, rfl, -, -, -, rfl, -⟩ := exists_of_bearerPattern h
    simp only [List.length_append]
    omega

/-! ### Signed tokens -/

theorem exists_of_dotSegment (h : dotSegment cs = some n) :
    ∃ run rest, cs = '.' :: (run ++ rest) ∧ run ≠ [] ∧ n = run.length + 1 ∧
      (∀ c ∈ run, isSegmentChar c = true) ∧ Pattern.Begun (isSegmentChar · = false) rest := by
  unfold dotSegment at h
  split at h
  · next r =>
    obtain ⟨run, rest, hr, hrun, hchars, hrest⟩ := exists_run isSegmentChar r
    simp only [hrun] at h
    split_ifs at h with hempty
    obtain rfl := Option.some.inj h
    refine ⟨run, rest, by rw [hr], ?_, rfl, hchars, hrest⟩
    rintro rfl
    exact hempty rfl
  · cases h

theorem dotSegment_append_cons (hc : Apart c) (rest : List Char) :
    dotSegment (cs ++ c :: rest) = dotSegment cs := by
  cases cs with
  | nil => simp [dotSegment, hc.ne_dot]
  | cons d r =>
    by_cases hd : d = '.'
    · subst hd
      simp only [List.cons_append, dotSegment, runLength_append_cons hc.not_segmentChar]
    · simp [dotSegment, hd]

/-- A match consists of three segments and the dots between them, does not leave the last segment
before its end, and stands behind no word character. -/
theorem exists_of_tokenPattern (h : tokenPattern inWord cs = some n) : inWord = false ∧
    ∃ first second third rest, cs = "eyJ".toList ++ first ++ '.' :: second ++ '.' :: third ++ rest ∧
      first ≠ [] ∧ second ≠ [] ∧ third ≠ [] ∧
      n = 3 + first.length + (second.length + 1) + (third.length + 1) ∧
      (∀ c ∈ first, isSegmentChar c = true) ∧ (∀ c ∈ second, isSegmentChar c = true) ∧
      (∀ c ∈ third, isSegmentChar c = true) ∧ Pattern.Begun (isSegmentChar · = false) rest := by
  unfold tokenPattern at h
  split at h
  · next r hstrip =>
    obtain rfl := stripPrefix?_eq_some hstrip
    obtain ⟨first, behind, rfl, hfirst, hfirstChars, -⟩ := exists_run isSegmentChar r
    simp only [hfirst, Option.bind_eq_bind] at h
    split_ifs at h with hempty
    simp only [Option.bind_eq_some_iff] at h
    obtain ⟨b, hb, c, hc, h⟩ := h
    rw [List.drop_left] at hb
    obtain ⟨second, behind, rfl, hsecond, rfl, hsecondChars, -⟩ := exists_of_dotSegment hb
    have hcut : first ++ '.' :: (second ++ behind) = (first ++ '.' :: second) ++ behind := by simp
    rw [hcut, List.drop_left' (by simp)] at hc
    obtain ⟨third, rest, rfl, hthird, rfl, hthirdChars, hrest⟩ := exists_of_dotSegment hc
    refine ⟨rfl, first, second, third, rest, by simp, ?_, hsecond, hthird,
      (Option.some.inj h).symm, hfirstChars, hsecondChars, hthirdChars, hrest⟩
    rintro rfl
    exact hempty rfl
  · cases h

/-- Three segments that are not empty make a match. -/
theorem tokenPattern_ne_none {first second third : List Char} (rest : List Char)
    (hfirst : ∀ c ∈ first, isSegmentChar c = true) (hsecond : ∀ c ∈ second, isSegmentChar c = true)
    (hthird : ∀ c ∈ third, isSegmentChar c = true) (hne : first ≠ []) (hne' : second ≠ [])
    (hne'' : third ≠ []) :
    tokenPattern false ("eyJ".toList ++ first ++ '.' :: second ++ '.' :: third ++ rest) ≠ none := by
  have hdot (cs : List Char) : runLength isSegmentChar ('.' :: cs) = 0 := rfl
  have hstrip : stripPrefix? "eyJ".toList
      ("eyJ".toList ++ first ++ '.' :: second ++ '.' :: third ++ rest) =
        some (first ++ '.' :: (second ++ '.' :: (third ++ rest))) := by
    simp only [List.append_assoc, List.cons_append]
    exact stripPrefix?_append _ _
  have hb : dotSegment ('.' :: (second ++ '.' :: (third ++ rest))) = some (second.length + 1) := by
    rw [dotSegment, runLength_append hsecond, hdot]
    simp [hne']
  have hc : dotSegment ('.' :: (third ++ rest)) =
      some (third.length + runLength isSegmentChar rest + 1) := by
    rw [dotSegment, runLength_append hthird]
    simp [hne'']
  have hcut : first ++ '.' :: (second ++ '.' :: (third ++ rest)) =
      (first ++ '.' :: second) ++ '.' :: (third ++ rest) := by simp
  have hrun : runLength isSegmentChar (first ++ '.' :: (second ++ '.' :: (third ++ rest))) =
      first.length := by
    rw [runLength_append hfirst, hdot, Nat.add_zero]
  simp only [tokenPattern, hstrip, hrun, Option.bind_eq_bind]
  rw [if_neg (by simpa using hne), List.drop_left, hb, Option.bind_some, hcut,
    List.drop_left' (by simp), hc]
  simp

theorem tokenPattern_stopsAt (hc : Apart c) : tokenPattern.StopsAt c where
  nil inWord := by cases inWord <;> rfl
  append inWord cs rest := by
    have hcut : c ∉ "eyJ".toList := by
      intro hmem
      have hsegment : ∀ x ∈ "eyJ".toList, isSegmentChar x = true :=
        List.all_eq_true.1 (by decide)
      exact absurd hc.not_segmentChar (by simp [hsegment c hmem])
    cases inWord with
    | true => rfl
    | false =>
      unfold tokenPattern
      rw [stripPrefix?_append_cons hcut]
      cases stripPrefix? "eyJ".toList cs with
      | none => rfl
      | some r =>
        simp only [Option.map_some, runLength_append_cons hc.not_segmentChar]
        rw [List.drop_append_of_le_length (runLength_le _ _), dotSegment_append_cons hc]
        split_ifs
        · rfl
        · cases hsecond : dotSegment (r.drop (runLength isSegmentChar r)) with
          | none => rfl
          | some b =>
            obtain ⟨run, behind, hr, -, rfl, -⟩ := exists_of_dotSegment hsecond
            have hlength := congrArg List.length hr
            simp only [List.length_drop, List.length_cons, List.length_append] at hlength
            simp only [Option.bind_eq_bind, Option.bind_some]
            rw [List.drop_append_of_le_length (by omega), dotSegment_append_cons hc]
  within inWord cs n h := by
    obtain ⟨-, first, second, third, rest, rfl, -, -, -, rfl, -⟩ := exists_of_tokenPattern h
    simp
    omega

end

/-- A text without blanks and tokens that is set off stays in the masked text. -/
theorem infix_redactChars {t pre post : List Char} (hpre : Pattern.Ended Apart pre)
    (hpost : Pattern.Begun Apart post) (hblank : ∀ c ∈ t, isBlank c = false)
    (htoken : ∀ inWord, tokenPattern.occursFrom inWord t = false) :
    t <:+: redactChars (pre ++ t ++ post) := by
  obtain ⟨pre', post', hpre', hpost', hfirst⟩ := Pattern.replace_of_setOff
    "Bearer ***".toList (fun _ => bearerPattern_stopsAt) hpre hpost
    (bearerPattern_of_no_blank hblank)
  obtain ⟨pre'', post'', -, -, hsecond⟩ := Pattern.replace_of_setOff
    "***".toList (fun _ => tokenPattern_stopsAt) hpre' hpost' htoken
  rw [redactChars, hfirst, hsecond]
  exact List.infix_append _ _ _

end Gatehouse.Log
