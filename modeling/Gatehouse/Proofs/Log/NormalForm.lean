import Gatehouse.Proofs.Log.Signed

/-!
What masking leaves has nothing left to mask: no credential begins in a mask, none begins directly
behind a match, since matches are as long as they can be, and one that is made of kept characters
alone stood in the text before. So masking twice is masking once, and a text stays as it is exactly
if it holds no credential.
-/
namespace Gatehouse.Log
open Text

/-! ### What the patterns match -/

/-- Three segments with dots between them, the first of which begins with `eyJ` and holds more. -/
def IsToken (m : List Char) : Prop :=
  ∃ first second third, m = "eyJ".toList ++ first ++ '.' :: second ++ '.' :: third ∧
    first ≠ [] ∧ second ≠ [] ∧ third ≠ [] ∧ (∀ c ∈ first, isSegmentChar c = true) ∧
    (∀ c ∈ second, isSegmentChar c = true) ∧ ∀ c ∈ third, isSegmentChar c = true

/-- The word `bearer` in any case, blanks and a credential. -/
def IsBearer (m : List Char) : Prop :=
  ∃ word blanks credential, m = word ++ blanks ++ credential ∧
    word.map Char.toLower = "bearer".toList ∧ blanks ≠ [] ∧ credential ≠ [] ∧
    (∀ c ∈ blanks, isBlank c = true) ∧ ∀ c ∈ credential, isCredentialChar c = true

section
variable {c : Char}

theorem isCredentialChar_of_segmentChar (h : isSegmentChar c = true) :
    isCredentialChar c = true := by
  simp [isCredentialChar, h]

theorem isBlank_of_credentialChar (h : isCredentialChar c = true) : isBlank c = false := by
  simp only [isCredentialChar, Bool.or_eq_true, beq_iff_eq] at h
  rcases h with ((h | rfl) | rfl) | h
  · exact isBlank_of_segmentChar h
  · decide
  · decide
  · have hcases : c = '\u0130' ∨ c = '\u0131' ∨ c = '\u017f' ∨ c = '\u212a' := by
      simpa [isCaseVariant] using h
    rcases hcases with rfl | rfl | rfl | rfl <;> decide

theorem isCredentialChar_toLower (c : Char) : isCredentialChar c.toLower = isCredentialChar c :=
  apply_toLower (by decide) c

theorem isBlank_toLower (c : Char) : isBlank c.toLower = isBlank c :=
  apply_toLower (by decide) c

theorem isSegmentChar_toLower (c : Char) : isSegmentChar c.toLower = isSegmentChar c :=
  apply_toLower (by decide) c

/-- The letters of the word are no blanks, and part of segments. -/
theorem isSegmentChar_of_word {word : List Char} (h : word.map Char.toLower = "bearer".toList) :
    ∀ c ∈ word, isSegmentChar c = true := by
  have hletters : ∀ c ∈ "bearer".toList, isSegmentChar c = true := List.all_eq_true.1 (by decide)
  intro c hc
  rw [← isSegmentChar_toLower]
  exact hletters _ (h ▸ List.mem_map_of_mem hc)

end

/-- A bearer credential is there if its word, its blanks and its credential are followed by any
text. -/
theorem bearerPattern_ne_none {word blanks credential : List Char} (rest : List Char)
    (hword : word.map Char.toLower = "bearer".toList) (hne : blanks ≠ []) (hne' : credential ≠ [])
    (hblanks : ∀ c ∈ blanks, isBlank c = true)
    (hcredential : ∀ c ∈ credential, isCredentialChar c = true) :
    bearerPattern false (word ++ blanks ++ credential ++ rest) ≠ none := by
  have hsix : word.length = 6 := by simpa using congrArg List.length hword
  obtain ⟨c, credential, rfl⟩ := List.exists_cons_of_ne_nil hne'
  have hstops : runLength isBlank (c :: credential ++ rest) = 0 := by
    have hc := isBlank_of_credentialChar (hcredential c List.mem_cons_self)
    simp [runLength, hc]
  have hrun : runLength isBlank (blanks ++ (c :: credential ++ rest)) = blanks.length := by
    rw [runLength_append hblanks, hstops, Nat.add_zero]
  have hlong : runLength isCredentialChar (c :: (credential ++ rest)) ≠ 0 := by
    rw [← List.cons_append, runLength_append hcredential]
    simp
  rw [List.append_assoc, List.append_assoc]
  simp only [bearerPattern, List.take_left' hsix, List.drop_left' hsix, hrun, List.drop_left,
    hword]
  simp [hne, hlong]

namespace Pattern
variable {p q : Pattern} {kind other : List Char → Prop} {β : Type} {f : Char → β}
  {mask first more cs : List Char} {mark c : Char} {inWord before : Bool} {skip n : Nat}

/-- The pattern matches the stretches of a kind that begin a word, each so far that no segment goes
on behind it. They begin with a character of a segment. -/
structure Matches (p : Pattern) (kind : List Char → Prop) : Prop where
  sound : ∀ inWord cs n, p inWord cs = some n → inWord = false ∧
    ∃ m rest, cs = m ++ rest ∧ kind m ∧ n = m.length ∧ Begun (isSegmentChar · = false) rest
  complete : ∀ m rest, kind m → p false (m ++ rest) ≠ none
  first : ∀ m, kind m → ∃ c r, m = c :: r ∧ isSegmentChar c = true

/-- No match begins where no segment can. -/
theorem Matches.of_begun (h : p.Matches kind) (hcs : Begun (isSegmentChar · = false) cs)
    (inWord : Bool) : p inWord cs = none := by
  rw [Option.eq_none_iff_forall_ne_some]
  intro n hn
  obtain ⟨-, m, rest, rfl, hm, -⟩ := h.sound _ _ _ hn
  obtain ⟨c, r, rfl, hc⟩ := h.first m hm
  obtain hnil | ⟨d, r', hcut, hd⟩ := hcs
  · cases hnil
  · obtain ⟨rfl, -⟩ := List.cons.inj hcut
    rw [hc] at hd
    cases hd

/-- Nor directly behind a match. -/
theorem Matches.behind (h : p.Matches kind) (h' : q.Matches other) {r : List Char}
    (hmatch : p inWord (c :: r) = some n) (before : Bool) : q before (r.drop (n - 1)) = none := by
  obtain ⟨-, m, rest, hcut, hm, rfl, hrest⟩ := h.sound _ _ _ hmatch
  obtain ⟨d, m, rfl, -⟩ := h.first m hm
  obtain rfl : r = m ++ rest := (List.cons.inj hcut).2
  rw [List.length_cons, Nat.add_sub_cancel, List.drop_left]
  exact h'.of_begun hrest before

/-- A place of the text before which no word character stands. -/
theorem ended_of_wordBefore (h : wordBefore false cs = false) : Ended (isWord · = false) cs := by
  rcases List.eq_nil_or_concat' cs with rfl | ⟨r, w, rfl⟩
  · exact .inl rfl
  · rw [wordBefore_append] at h
    exact .inr ⟨r, w, rfl, h⟩

theorem wordBefore_of_ended (h : Ended (isWord · = false) cs) : wordBefore false cs = false := by
  obtain rfl | ⟨r, w, rfl, hw⟩ := h
  · rfl
  · rw [wordBefore_append]
    exact hw

theorem occursFrom_append {post : List Char} (hne : post ≠ []) (pre : List Char)
    (h : p (wordBefore inWord pre) post ≠ none) : p.occursFrom inWord (pre ++ post) = true := by
  induction pre generalizing inWord with
  | nil =>
    obtain ⟨c, r, rfl⟩ := List.exists_cons_of_ne_nil hne
    have hmatch : (p inWord (c :: r)).isSome = true := Option.isSome_iff_ne_none.2 h
    rw [List.nil_append, occursFrom, hmatch, Bool.true_or]
  | cons c pre ih =>
    rw [List.cons_append, occursFrom, ih h, Bool.or_true]

/-- The pattern occurs in a text exactly if a stretch of the kind begins a word of it. -/
theorem Matches.occurs_iff (h : p.Matches kind) : p.occurs cs = true ↔
    ∃ pre m post, cs = pre ++ m ++ post ∧ Ended (isWord · = false) pre ∧ kind m := by
  constructor
  · intro hoccurs
    obtain ⟨pre, post, n, rfl, hmatch⟩ := exists_of_occursFrom hoccurs
    obtain ⟨hfree, m, rest, rfl, hm, -⟩ := h.sound _ _ _ hmatch
    exact ⟨pre, m, rest, by rw [List.append_assoc], ended_of_wordBefore hfree, hm⟩
  · rintro ⟨pre, m, post, rfl, hpre, hm⟩
    obtain ⟨c, r, rfl, -⟩ := h.first m hm
    rw [List.append_assoc]
    apply occursFrom_append (by simp)
    rw [wordBefore_of_ended hpre]
    exact h.complete _ _ hm

/-! ### What is left of a text -/

/-- A match at the beginning of a masked text was there before, for a kind without the mark in it
that does not tell apart what `f` does not. -/
theorem Matches.isSome_of_replaceFrom (h : q.Matches kind) (hp : p.Spells f first)
    (hmark : ∀ m, kind m → mark ∉ m) (hsame : ∀ m l, kind m → m.map f = l.map f → kind l)
    (hmatch : (q before (replaceFrom p (first ++ mark :: more) 0 inWord cs)).isSome = true) :
    (q before cs).isSome = true := by
  obtain ⟨n, hn⟩ := Option.isSome_iff_exists.1 hmatch
  obtain ⟨rfl, m, rest, hcut, hm, -⟩ := h.sound _ _ _ hn
  have hstart := prefix_of_replaceFrom hp (hmark m hm) ⟨rest, hcut.symm⟩
  obtain ⟨l, ⟨rest', rfl⟩, hl⟩ := List.prefix_map_iff.1 hstart
  exact Option.isSome_iff_ne_none.2 (h.complete l rest' (hsame m l hm hl))

/-- A pattern does not occur in what another one leaves: not in a kept place, where its match would
have been one of the text, not directly behind a match, and not in a mask. -/
theorem not_occursFrom_replaceFrom
    (hkept : ∀ before inWord cs, (q before (replaceFrom p mask 0 inWord cs)).isSome = true →
      (q before cs).isSome = true)
    (hbehind : ∀ inWord c r n, p inWord (c :: r) = some n →
      ∀ before, q before (r.drop (n - 1)) = none)
    (hmask : ∀ before rest, q.occursFrom before (mask ++ rest) = q.occursFrom false rest)
    (hfree : ∀ pre post, cs = pre ++ post → p (wordBefore inWord pre) post = none →
      q (wordBefore inWord pre) post = none)
    (hstart : (∀ before, q before (cs.drop skip) = none) ∨ skip = 0 ∧ before = inWord) :
    q.occursFrom before (replaceFrom p mask skip inWord cs) = false := by
  induction cs generalizing skip inWord before with
  | nil => cases skip <;> rfl
  | cons c r ih =>
    have hlater (pre post : List Char) (hr : r = pre ++ post) :
        p (wordBefore (isWord c) pre) post = none → q (wordBefore (isWord c) pre) post = none :=
      hfree (c :: pre) post (by rw [hr, List.cons_append])
    cases skip with
    | succ skip =>
      rw [replaceFrom]
      exact ih hlater (hstart.imp id (fun h => absurd h.1 (Nat.succ_ne_zero skip)))
    | zero =>
      have hfirst := hkept before inWord (c :: r)
      rw [replaceFrom] at hfirst ⊢
      cases hmatch : p inWord (c :: r) with
      | some n =>
        dsimp only
        rw [hmask]
        exact ih hlater (.inl (hbehind _ _ _ _ hmatch))
      | none =>
        simp only [hmatch] at hfirst ⊢
        have hnone : q before (c :: r) = none := by
          rcases hstart with hstart | ⟨-, rfl⟩
          · exact hstart before
          · exact hfree [] (c :: r) rfl hmatch
        rw [hnone] at hfirst
        rw [occursFrom, ih hlater (.inr ⟨rfl, rfl⟩), Bool.or_false]
        exact Bool.eq_false_iff.2 fun h => by simpa using hfirst h

end Pattern

/-! ### The two patterns -/

theorem isToken_first {m : List Char} (h : IsToken m) :
    ∃ c r, m = c :: r ∧ isSegmentChar c = true := by
  obtain ⟨first, second, third, rfl, -⟩ := h
  exact ⟨'e', _, rfl, by decide⟩

theorem tokenPattern_matches : tokenPattern.Matches IsToken where
  sound inWord cs n h := by
    obtain ⟨hfree, first, second, third, rest, rfl, hfirst, hsecond, hthird, rfl, hchars, hchars',
      hchars'', hrest⟩ := exists_of_tokenPattern h
    refine ⟨hfree, _, rest, rfl, ⟨first, second, third, rfl, hfirst, hsecond, hthird, hchars,
      hchars', hchars''⟩, ?_, hrest⟩
    simp
    omega
  complete m rest := by
    rintro ⟨first, second, third, rfl, hfirst, hsecond, hthird, hchars, hchars', hchars''⟩
    exact tokenPattern_ne_none rest hchars hchars' hchars'' hfirst hsecond hthird
  first m h := isToken_first h

theorem bearerPattern_matches : bearerPattern.Matches IsBearer where
  sound inWord cs n h := by
    obtain ⟨hfree, word, blanks, credential, rest, rfl, hword, hne, hne', rfl, hblanks,
      hcredential, hrest⟩ := exists_of_bearerPattern h
    refine ⟨hfree, _, rest, rfl, ⟨word, blanks, credential, rfl, hword, hne, hne', hblanks,
      hcredential⟩, by simp [Nat.add_assoc], ?_⟩
    refine hrest.imp id ?_
    rintro ⟨c, r, rfl, hc⟩
    refine ⟨c, r, rfl, ?_⟩
    by_contra hsegment
    rw [isCredentialChar_of_segmentChar (by simpa using hsegment)] at hc
    cases hc
  complete m rest := by
    rintro ⟨word, blanks, credential, rfl, hword, hne, hne', hblanks, hcredential⟩
    exact bearerPattern_ne_none rest hword hne hne' hblanks hcredential
  first m := by
    rintro ⟨word, blanks, credential, rfl, hword, -⟩
    cases word with
    | nil => cases hword
    | cons c word => exact ⟨c, _, rfl, isSegmentChar_of_word hword c List.mem_cons_self⟩

theorem star_not_mem_token {m : List Char} (h : IsToken m) : '*' ∉ m := by
  obtain ⟨first, second, third, rfl, -, -, -, hfirst, hsecond, hthird⟩ := h
  have hnot {l : List Char} (hl : ∀ c ∈ l, isSegmentChar c = true) : '*' ∉ l :=
    fun hmem => absurd (hl '*' hmem) (by decide)
  simp [hnot hfirst, hnot hsecond, hnot hthird]

theorem star_not_mem_bearer {m : List Char} (h : IsBearer m) : '*' ∉ m := by
  obtain ⟨word, blanks, credential, rfl, hword, -, -, hblanks, hcredential⟩ := h
  simp only [List.mem_append, not_or]
  refine ⟨⟨fun hmem => ?_, fun hmem => ?_⟩, fun hmem => ?_⟩
  · exact absurd (isSegmentChar_of_word hword '*' hmem) (by decide)
  · exact absurd (hblanks '*' hmem) (by decide)
  · exact absurd (hcredential '*' hmem) (by decide)

/-- A text up to what a bearer credential does not tell apart: letter case and kinds of blanks. -/
def foldChar (c : Char) : Char := if isBlank c then ' ' else c.toLower

theorem isBlank_fold (c : Char) : isBlank (foldChar c) = isBlank c := by
  unfold foldChar
  split_ifs with h
  · rw [h]
    decide
  · exact isBlank_toLower c

theorem isCredentialChar_fold (c : Char) : isCredentialChar (foldChar c) = isCredentialChar c := by
  unfold foldChar
  split_ifs with h
  · have hno : isCredentialChar c = false := by
      by_contra hcredential
      rw [isBlank_of_credentialChar (by simpa using hcredential)] at h
      cases h
    rw [hno]
    decide
  · exact isCredentialChar_toLower c

theorem forall_of_fold {k : Char → Bool} {b : Bool} (hk : ∀ c, k (foldChar c) = k c)
    {l l' : List Char} (hsame : l.map foldChar = l'.map foldChar) (h : ∀ c ∈ l, k c = b) :
    ∀ c ∈ l', k c = b := by
  intro c hc
  have hmem : foldChar c ∈ l.map foldChar := hsame ▸ List.mem_map_of_mem hc
  obtain ⟨d, hd, hfold⟩ := List.mem_map.1 hmem
  rw [← hk c, ← hfold, hk d]
  exact h d hd

theorem map_fold {l : List Char} (h : ∀ c ∈ l, isBlank c = false) :
    l.map foldChar = l.map Char.toLower :=
  List.map_congr_left fun c hc => if_neg (by simp [h c hc])

theorem isBlank_of_word {word : List Char} (h : word.map Char.toLower = "bearer".toList) :
    ∀ c ∈ word, isBlank c = false :=
  fun c hc => isBlank_of_segmentChar (isSegmentChar_of_word h c hc)

theorem isBearer_of_fold {m l : List Char} (h : IsBearer m)
    (hsame : m.map foldChar = l.map foldChar) : IsBearer l := by
  obtain ⟨word, blanks, credential, rfl, hword, hne, hne', hblanks, hcredential⟩ := h
  rw [List.map_append, List.map_append, eq_comm, List.map_eq_append_iff] at hsame
  obtain ⟨start, credential', rfl, hstart, hcredential'⟩ := hsame
  obtain ⟨word', blanks', rfl, hword', hblanks'⟩ := List.map_eq_append_iff.1 hstart
  refine ⟨word', blanks', credential', rfl, ?_, ?_, ?_, ?_, ?_⟩
  · rw [← map_fold (forall_of_fold isBlank_fold hword'.symm (isBlank_of_word hword)), hword',
      map_fold (isBlank_of_word hword), hword]
  · rintro rfl
    exact hne (List.map_eq_nil_iff.1 hblanks'.symm)
  · rintro rfl
    exact hne' (List.map_eq_nil_iff.1 hcredential'.symm)
  · exact forall_of_fold isBlank_fold hblanks'.symm hblanks
  · exact forall_of_fold isCredentialChar_fold hcredential'.symm hcredential

theorem bearerPattern_spells_fold : bearerPattern.Spells foldChar "Bearer ".toList := by
  intro inWord cs n h
  obtain ⟨-, word, blanks, credential, rest, rfl, hword, hne, -, -, hblanks, -⟩ :=
    exists_of_bearerPattern h
  obtain ⟨b, blanks, rfl⟩ := List.exists_cons_of_ne_nil hne
  have hb : foldChar b = ' ' := if_pos (hblanks b List.mem_cons_self)
  have hstart : (word ++ [b]).map foldChar = "Bearer ".toList.map foldChar := by
    rw [List.map_append, map_fold (isBlank_of_word hword), hword, List.map_singleton, hb]
    decide
  rw [← hstart]
  exact List.IsPrefix.map foldChar ⟨blanks ++ credential ++ rest, by simp⟩

/-! ### The masks -/

/-- No match begins with a star of a mask, and none is kept from beginning behind it. -/
theorem Pattern.Matches.occursFrom_star {p : Pattern} {kind : List Char → Prop}
    (h : p.Matches kind) (inWord : Bool) (rest : List Char) :
    p.occursFrom inWord ('*' :: rest) = p.occursFrom false rest := by
  have hnone : p inWord ('*' :: rest) = none := h.of_begun (.inr ⟨'*', rest, rfl, by decide⟩) inWord
  have hword : isWord '*' = false := by decide
  rw [Pattern.occursFrom, hnone, hword]
  rfl

theorem Pattern.Matches.occursFrom_stars {p : Pattern} {kind : List Char → Prop}
    (h : p.Matches kind) (inWord : Bool) (rest : List Char) :
    p.occursFrom inWord ("***".toList ++ rest) = p.occursFrom false rest := by
  show p.occursFrom inWord ('*' :: '*' :: '*' :: rest) = _
  rw [h.occursFrom_star, h.occursFrom_star, h.occursFrom_star]

/-- The stars of its mask are no credential. -/
theorem bearerPattern_occursFrom_mask (inWord : Bool) (rest : List Char) :
    bearerPattern.occursFrom inWord ("Bearer ***".toList ++ rest) =
      bearerPattern.occursFrom false rest := by
  have hblank : isBlank ' ' = true ∧ isBlank '*' = false ∧ isCredentialChar '*' = false := by
    decide
  have hstart : bearerPattern inWord ("Bearer ***".toList ++ rest) = none := by
    simp [bearerPattern, runLength, hblank]
  have hinside (cs : List Char) : bearerPattern true cs = none := by simp [bearerPattern]
  have hword : isWord 'B' = true ∧ isWord 'e' = true ∧ isWord 'a' = true ∧ isWord 'r' = true ∧
      isWord ' ' = false := by decide
  have hcut : "Bearer ***".toList ++ rest =
      'B' :: 'e' :: 'a' :: 'r' :: 'e' :: 'r' :: ' ' :: ("***".toList ++ rest) := rfl
  rw [hcut] at hstart ⊢
  simp only [Pattern.occursFrom, hstart, hinside, hword, Option.isSome_none, Bool.false_or]
  exact bearerPattern_matches.occursFrom_stars false rest

/-! ### The normal form -/

/-- A match at the beginning of a text with masked tokens was there before. -/
theorem Pattern.Matches.isSome_of_replaceFrom_token {p : Pattern} {kind : List Char → Prop}
    (h : p.Matches kind) (hstar : ∀ m, kind m → '*' ∉ m) (before inWord : Bool) (cs : List Char)
    (hmatch : (p before (tokenPattern.replaceFrom "***".toList 0 inWord cs)).isSome = true) :
    (p before cs).isSome = true := by
  have hspells : tokenPattern.Spells id [] := fun _ _ _ _ => List.nil_prefix
  refine h.isSome_of_replaceFrom hspells hstar (fun m l hm hsame => ?_) hmatch
  rw [List.map_id, List.map_id] at hsame
  exact hsame ▸ hm

theorem token_not_occurs_replace (cs : List Char) :
    tokenPattern.occurs (tokenPattern.replace "***".toList cs) = false :=
  Pattern.not_occursFrom_replaceFrom
    (tokenPattern_matches.isSome_of_replaceFrom_token fun _ => star_not_mem_token)
    (fun _ _ _ _ hmatch => tokenPattern_matches.behind tokenPattern_matches hmatch)
    tokenPattern_matches.occursFrom_stars (fun _ _ _ hnone => hnone) (.inr ⟨rfl, rfl⟩)

theorem bearer_not_occurs_replace (cs : List Char) :
    bearerPattern.occurs (bearerPattern.replace "Bearer ***".toList cs) = false := by
  have hkept (before inWord : Bool) (cs : List Char) :
      (bearerPattern before (bearerPattern.replaceFrom "Bearer ***".toList 0 inWord cs)).isSome =
        true → (bearerPattern before cs).isSome = true := by
    have hmask : "Bearer ***".toList = "Bearer ".toList ++ '*' :: "**".toList := rfl
    rw [hmask]
    exact bearerPattern_matches.isSome_of_replaceFrom bearerPattern_spells_fold
      (fun m hm => star_not_mem_bearer hm) (fun m l hm hl => isBearer_of_fold hm hl)
  exact Pattern.not_occursFrom_replaceFrom hkept
    (fun _ _ _ _ hmatch => bearerPattern_matches.behind bearerPattern_matches hmatch)
    bearerPattern_occursFrom_mask (fun _ _ _ hnone => hnone) (.inr ⟨rfl, rfl⟩)

/-- Masking tokens brings no bearer credential about. -/
theorem bearer_not_occurs_replace_token {cs : List Char} (h : bearerPattern.occurs cs = false) :
    bearerPattern.occurs (tokenPattern.replace "***".toList cs) = false := by
  refine Pattern.not_occursFrom_replaceFrom
    (bearerPattern_matches.isSome_of_replaceFrom_token fun _ => star_not_mem_bearer)
    (fun _ _ _ _ hmatch => tokenPattern_matches.behind bearerPattern_matches hmatch)
    bearerPattern_matches.occursFrom_stars ?_ (.inr ⟨rfl, rfl⟩)
  rintro pre post rfl -
  by_contra hmatch
  rcases List.eq_nil_or_concat' post with rfl | ⟨r, c, rfl⟩
  · exact hmatch (bearerPattern_matches.of_begun (.inl rfl) _)
  · rw [Pattern.occurs, Pattern.occursFrom_append (by simp) pre hmatch] at h
    cases h

theorem not_occurs_redactChars (cs : List Char) :
    tokenPattern.occurs (redactChars cs) = false ∧ bearerPattern.occurs (redactChars cs) = false :=
  ⟨token_not_occurs_replace _, bearer_not_occurs_replace_token (bearer_not_occurs_replace cs)⟩

/-- What is kept as it is has nothing to mask, since what is masked has nothing to mask. -/
theorem redactChars_eq_self_iff {cs : List Char} : redactChars cs = cs ↔
    tokenPattern.occurs cs = false ∧ bearerPattern.occurs cs = false := by
  constructor
  · intro h
    have hnone := not_occurs_redactChars cs
    rwa [h] at hnone
  · rintro ⟨htoken, hbearer⟩
    rw [redactChars, Pattern.replace_of_not_occurs hbearer, Pattern.replace_of_not_occurs htoken]

/-! ### Messages and records -/

/-- A stretch of the kind begins a word of the message. -/
def Holds (kind : List Char → Prop) (message : String) : Prop :=
  ∃ pre m post, message.toList = pre ++ m ++ post ∧ Pattern.Ended (isWord · = false) pre ∧ kind m

theorem not_holds_iff {p : Pattern} {kind : List Char → Prop} (h : p.Matches kind)
    {message : String} : ¬ Holds kind message ↔ p.occurs message.toList = false := by
  rw [Holds, ← h.occurs_iff, Bool.not_eq_true]

theorem redact_eq_self_iff {message : String} :
    redact message = message ↔ ¬ Holds IsToken message ∧ ¬ Holds IsBearer message := by
  rw [not_holds_iff tokenPattern_matches, not_holds_iff bearerPattern_matches,
    ← redactChars_eq_self_iff, ← toList_redact, String.toList_inj]

theorem not_holds_redact (message : String) :
    ¬ Holds IsToken (redact message) ∧ ¬ Holds IsBearer (redact message) := by
  rw [not_holds_iff tokenPattern_matches, not_holds_iff bearerPattern_matches, toList_redact]
  exact not_occurs_redactChars message.toList

theorem redact_redact (message : String) : redact (redact message) = redact message :=
  redact_eq_self_iff.2 (not_holds_redact message)

namespace Record

theorem redact_bind_render (r : Record) :
    (r.redact >>= fun s => s.render) = Log.redact <$> r.render := by
  cases htext : r.render with
  | error f => simp only [redact, htext, bind, Except.bind, Functor.map, Except.map]
  | ok text =>
    obtain ⟨s, hs, hrender⟩ := exists_redact htext
    rw [hs]
    exact hrender

/-- A masked record has nothing left to mask. -/
theorem redact_bind_redact (r : Record) : (r.redact >>= fun s => s.redact) = r.redact := by
  cases htext : r.render with
  | error f => simp only [redact, htext, bind, Except.bind]
  | ok text =>
    obtain ⟨s, hs, hrender⟩ := exists_redact htext
    rw [hs]
    show s.redact = .ok s
    simp only [redact, hrender, bind, Except.bind, redact_redact, if_true]

end Record

/-- Masking reaches a normal form. A masked text holds neither a token nor a bearer credential, so
that masking it again changes nothing, and a text stays as it is exactly if it holds neither. A
filtered record shows the masked text of what it showed before, or fails as it failed before, and is
not changed by filtering it again. -/
theorem redact_normalForm :
    (∀ message, ¬ Holds IsToken (redact message) ∧ ¬ Holds IsBearer (redact message) ∧
      redact (redact message) = redact message ∧
      (redact message = message ↔ ¬ Holds IsToken message ∧ ¬ Holds IsBearer message)) ∧
    ∀ r : Record, (r.redact >>= fun s => s.render) = redact <$> r.render ∧
      (r.redact >>= fun s => s.redact) = r.redact := by
  refine ⟨fun message => ?_, fun r => ⟨r.redact_bind_render, r.redact_bind_redact⟩⟩
  obtain ⟨htoken, hbearer⟩ := not_holds_redact message
  exact ⟨htoken, hbearer, redact_redact message, redact_eq_self_iff⟩

end Gatehouse.Log
