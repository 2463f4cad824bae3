import Gatehouse.Proofs.Json.Quote

/-!
A value that is printed is read back, whatever follows it in a list or an object. `Regular` names
the values of which this holds; `parse_print` is the round trip of a whole text.
-/
namespace Gatehouse.Json
open Text Gatehouse.Json.Parser

mutual
/-- A value of texts and of integers that are not too long, with distinct names in each object
and at most `depth` lists and objects around a value. -/
def Regular : (depth : Nat) → Json → Prop
  | _, .null => True
  | _, .bool _ => True
  | _, .int i => i.natAbs < 10 ^ digitLimit
  | _, .float _ => False
  | _, .text _ => True
  | 0, .array _ => False
  | depth + 1, .array vs => RegularItems depth vs
  | 0, .object _ => False
  | depth + 1, .object ms => (ms.map (·.1)).Nodup ∧ RegularMembers depth ms
  | _, .foreign => False

def RegularItems : (depth : Nat) → List Json → Prop
  | _, [] => True
  | depth, v :: r => Regular depth v ∧ RegularItems depth r

def RegularMembers : (depth : Nat) → List (AnyText × Json) → Prop
  | _, [] => True
  | depth, (_, v) :: r => Regular depth v ∧ RegularMembers depth r
end

mutual
/-- A value of some depth may also stand where more is allowed. -/
theorem Regular.mono {depth depth' : Nat} (hdepth : depth ≤ depth') :
    ∀ {v : Json}, Regular depth v → Regular depth' v
  | .null, _ => trivial
  | .bool _, _ => trivial
  | .int _, h => h
  | .float _, h => absurd h (by simp [Regular])
  | .text _, _ => trivial
  | .array vs, h => by
    obtain _ | depth := depth
    · exact absurd h (by simp [Regular])
    · obtain ⟨depth', rfl⟩ := Nat.exists_eq_add_of_lt hdepth
      rw [Regular] at h ⊢
      exact RegularItems.mono (Nat.le_add_right _ _) h
  | .object ms, h => by
    obtain _ | depth := depth
    · exact absurd h (by simp [Regular])
    · obtain ⟨depth', rfl⟩ := Nat.exists_eq_add_of_lt hdepth
      rw [Regular] at h ⊢
      exact ⟨h.1, RegularMembers.mono (Nat.le_add_right _ _) h.2⟩
  | .foreign, h => absurd h (by simp [Regular])

theorem RegularItems.mono {depth depth' : Nat} (hdepth : depth ≤ depth') :
    ∀ {vs : List Json}, RegularItems depth vs → RegularItems depth' vs
  | [], _ => trivial
  | v :: vs, h => by
    rw [RegularItems] at h ⊢
    exact ⟨h.1.mono hdepth, RegularItems.mono hdepth h.2⟩

theorem RegularMembers.mono {depth depth' : Nat} (hdepth : depth ≤ depth') :
    ∀ {ms : List (AnyText × Json)}, RegularMembers depth ms → RegularMembers depth' ms
  | [], _ => trivial
  | (_, v) :: ms, h => by
    rw [RegularMembers] at h ⊢
    exact ⟨h.1.mono hdepth, RegularMembers.mono hdepth h.2⟩
end

/-- Every platform reads values of this depth. -/
theorem Regular.of_hundred [Platform] {v : Json} (h : Regular 100 v) :
    Regular Platform.depthLimit v :=
  h.mono Platform.hundred_le_depthLimit

/-- Nothing follows, or what ends a value in a list or an object. -/
def Delimited (rest : List Char) : Prop :=
  ∀ c r, rest = c :: r → c = ',' ∨ c = ']' ∨ c = '\x7d'

theorem delimited_nil : Delimited [] := fun _ _ h => absurd h (by simp)

theorem delimited_cons {c : Char} {r : List Char} (h : c = ',' ∨ c = ']' ∨ c = '\x7d') :
    Delimited (c :: r) := by
  rintro d s hd
  rw [← (List.cons.inj hd).1]
  exact h

/-! ### Numbers -/

theorem isDigit_iff {c : Char} : isDigit c = true ↔ IsDigit c := by
  simp [isDigit, IsDigit]

theorem decimal_eq (ds : List Char) : decimal ds = Nat.ofDigitChars 10 ds 0 := by
  simp only [decimal, Nat.ofDigitChars_eq_foldl, Nat.mul_comm]
  rfl

/-- What ends a value is no digit. -/
theorem span_digits {ds rest : List Char} (hd : ∀ c ∈ ds, IsDigit c) (hr : Delimited rest) :
    (ds ++ rest).takeWhile isDigit = ds ∧ (ds ++ rest).dropWhile isDigit = rest := by
  have hp : ∀ c ∈ ds, isDigit c = true := fun c hc => isDigit_iff.2 (hd c hc)
  rw [List.takeWhile_append_of_pos hp, List.dropWhile_append_of_pos hp]
  cases rest with
  | nil => simp
  | cons c r =>
    have hc : isDigit c = false := by rcases hr c r rfl with rfl | rfl | rfl <;> decide
    simp [hc]

theorem fraction_eq_none {rest : List Char} (h : Delimited rest) : fraction rest = none := by
  unfold fraction
  split
  · exact absurd (h _ _ rfl) (by decide)
  · rfl

theorem exponent_eq_none {rest : List Char} (h : Delimited rest) : exponent rest = none := by
  unfold exponent
  split
  · next e r =>
    rw [if_neg]
    rcases h e r rfl with rfl | rfl | rfl <;> decide
  · rfl

/-- A numeral starts with a zero only when it is the zero. -/
theorem toDigits_cons {n : Nat} (h : 0 < n) {d : Char} {ds : List Char}
    (hd : Nat.toDigits 10 n = d :: ds) : d ≠ '0' := by
  induction n using Nat.strongRecOn generalizing ds with
  | ind n ih =>
    rw [Nat.toDigits_eq_if (by decide)] at hd
    split at hd
    · next hn =>
      obtain ⟨rfl, -⟩ := List.cons.inj hd
      interval_cases n <;> decide
    · next hn =>
      obtain ⟨e, es, he⟩ := List.exists_cons_of_ne_nil (Nat.toDigits_ne_nil (n := n / 10) (b := 10))
      rw [he, List.cons_append] at hd
      rw [(List.cons.inj hd).1] at he
      exact ih (n / 10) (by omega) (by omega) he

theorem integerPart_toDigits (n : Nat) {rest : List Char} (hr : Delimited rest) :
    integerPart (Nat.toDigits 10 n ++ rest) = some (Nat.toDigits 10 n, rest) := by
  have hall : ∀ c ∈ Nat.toDigits 10 n, IsDigit c := fun c hc => isDigit_of_mem_toDigits hc
  obtain rfl | hn := Nat.eq_zero_or_pos n
  · rfl
  · obtain ⟨d, ds, hd⟩ := List.exists_cons_of_ne_nil (Nat.toDigits_ne_nil (n := n) (b := 10))
    have hz := toDigits_cons hn hd
    rw [hd] at hall ⊢
    have hspan := span_digits (fun c hc => hall c (List.mem_cons_of_mem d hc)) hr
    have hdigit := isDigit_iff.2 (hall d (by simp))
    rw [List.cons_append]
    unfold integerPart
    split
    · next heq => exact absurd (List.cons.inj heq).1 hz
    · next heq =>
      obtain ⟨rfl, rfl⟩ := List.cons.inj heq
      rw [if_pos hdigit, hspan.1, hspan.2]
    · next heq => exact absurd heq (by simp)

theorem number_toDigits (start : List Char) (neg : Bool) {n : Nat} (hn : n < 10 ^ digitLimit)
    {rest : List Char} (hr : Delimited rest) :
    number start neg (Nat.toDigits 10 n ++ rest) =
      .ok (.int (if neg then -(n : Int) else n), rest) := by
  have hl := (Nat.length_toDigits_le_iff (by decide) (by decide)).2 hn
  simp only [number, integerPart_toDigits n hr, fraction_eq_none hr, Option.elim_none,
    exponent_eq_none hr]
  rw [if_neg (by omega), decimal_eq, Nat.ofDigitChars_ten_toDigits]

/-- A numeral starts with a digit or a sign. -/
theorem integerChars_cons (i : Int) :
    ∃ c r, integerChars i = c :: r ∧ 45 ≤ c.toNat ∧ c.toNat ≤ 57 := by
  obtain ⟨d, ds, hd⟩ := List.exists_cons_of_ne_nil (Nat.toDigits_ne_nil (n := i.natAbs) (b := 10))
  have hb := (isDigit_of_mem_toDigits (hd ▸ List.mem_cons_self ..)).bounds
  rw [integerChars]
  split
  · exact ⟨_, _, rfl, by decide, by decide⟩
  · exact ⟨d, ds, hd, by omega, hb.2⟩

/-! ### Values -/

/-- The printed text of a value starts a value: it is neither blank nor the end of a list. -/
theorem print_cons {depth : Nat} {v : Json} (h : Regular depth v) :
    ∃ c r, print v = c :: r ∧ isSpace c = false ∧ c ≠ ']' := by
  cases v with
  | null => exact ⟨_, _, rfl, by decide, by decide⟩
  | bool b => cases b <;> exact ⟨_, _, rfl, by decide, by decide⟩
  | int i =>
    obtain ⟨c, r, hp, hb⟩ := integerChars_cons i
    refine ⟨c, r, by rw [print, hp], ?_, ?_⟩
    · simp only [isSpace, Bool.or_eq_false_iff, beq_eq_false_iff_ne]
      refine ⟨⟨⟨?_, ?_⟩, ?_⟩, ?_⟩ <;> rintro rfl <;> simp at hb
    · rintro rfl
      simp at hb
  | float x => exact absurd h (by simp [Regular])
  | text s => exact ⟨_, _, rfl, by decide, by decide⟩
  | array vs => exact ⟨_, _, by rw [print], by decide, by decide⟩
  | object ms => exact ⟨_, _, by rw [print], by decide, by decide⟩
  | «foreign» => exact absurd h (by simp [Regular])

theorem skip_of_not_space {c : Char} {r : List Char} (h : isSpace c = false) :
    skip (c :: r) = c :: r := by
  simp [skip, h]

theorem skip_print {depth : Nat} {v : Json} (h : Regular depth v) (rest : List Char) :
    skip (print v ++ rest) = print v ++ rest := by
  obtain ⟨c, r, hp, hs, -⟩ := print_cons h
  rw [hp, List.cons_append, skip_of_not_space hs]

theorem scalar_int {i : Int} (h : i.natAbs < 10 ^ digitLimit) {rest : List Char}
    (hr : Delimited rest) : scalar (integerChars i ++ rest) = .ok (.int i, rest) := by
  obtain ⟨d, ds, hd⟩ := List.exists_cons_of_ne_nil (Nat.toDigits_ne_nil (n := i.natAbs) (b := 10))
  have hb := (isDigit_of_mem_toDigits (hd ▸ List.mem_cons_self ..)).bounds
  have hne (c : Char) (r : List Char) (hc : c.toNat < 48 ∨ 57 < c.toNat) :
      d :: ds ++ rest ≠ c :: r := by
    rintro heq
    rw [(List.cons.inj heq).1] at hb
    omega
  have hnum (start : List Char) (neg : Bool) := number_toDigits start neg h hr
  rw [integerChars]
  split
  · next hi =>
    have hi' : (if true then -(i.natAbs : Int) else i.natAbs) = i := by
      rw [if_pos rfl]
      omega
    rw [List.cons_append, hd, scalar, ← hd, hnum, hi']
    exact fun r => hne _ _ (by decide)
  · next hi =>
    have hi' : (if false then -(i.natAbs : Int) else i.natAbs) = i := by
      rw [if_neg Bool.false_ne_true]
      omega
    rw [hd]
    unfold scalar
    split
    case h_9 => rw [← hd, hnum, hi']
    -- no other form of a value starts with a digit
    all_goals exact absurd ‹_› (hne _ _ (by decide))

theorem scalar_text (t : AnyText) (rest : List Char) :
    scalar (print (.text t) ++ rest) = .ok (.text t, rest) := by
  rw [print, quote, quoteCodes, List.cons_append, List.append_assoc, List.singleton_append, scalar,
    codes_quote _ _ _ (by rw [List.length_append]; omega)]
  simp only [bind, Except.bind, AnyText.ofCodes_codes]

/-- A value that is neither a list nor an object is read as such. -/
theorem value_of_scalar {fuel depth : Nat} {cs : List Char} {c : Char} {r : List Char}
    (h : cs = c :: r) (ha : c ≠ '[') (ho : c ≠ '\x7b') :
    value (fuel + 1) depth cs = scalar cs := by
  subst h
  rw [value]
  · rintro s heq
    exact ha (List.cons.inj heq).1
  · rintro s heq
    exact ho (List.cons.inj heq).1

/-! ### Lists and objects -/

theorem value_array {fuel depth : Nat} {cs rest : List Char} {vs : List Json} {c : Char}
    {r : List Char} (hcs : cs = c :: r) (hs : isSpace c = false) (hc : c ≠ ']')
    (h : items fuel depth cs = .ok (vs, rest)) :
    value (fuel + 1) (depth + 1) ('[' :: cs) = .ok (.array vs, rest) := by
  subst hcs
  rw [value]
  simp only [skip_of_not_space hs]
  split
  · next heq => exact absurd (List.cons.inj heq).1 hc
  · simp only [h, bind, Except.bind]

theorem value_object {fuel depth : Nat} {cs rest : List Char} {ps : List (AnyText × Json)}
    {r : List Char} (hcs : cs = '"' :: r) (h : members fuel depth cs = .ok (ps, rest)) :
    value (fuel + 1) (depth + 1) ('\x7b' :: cs) = .ok (.object (Table.ofPairs ps), rest) := by
  subst hcs
  rw [value]
  simp only [skip_of_not_space (show isSpace '"' = false by decide)]
  split
  · next heq => exact absurd (List.cons.inj heq).1 (by decide)
  · simp only [h, bind, Except.bind]

theorem foldl_set_of_nodup (t : Members) {ps : List (AnyText × Json)}
    (h : ((t ++ ps).map (·.1)).Nodup) :
    ps.foldl (fun t p => Table.set t p.1 p.2) t = t ++ ps := by
  induction ps generalizing t with
  | nil => simp
  | cons p ps ih =>
    have hp : p.1 ∉ t.map (·.1) := by
      rw [List.map_append, List.map_cons, List.nodup_append] at h
      exact fun hm => h.2.2 _ hm _ (List.mem_cons_self ..) rfl
    rw [List.foldl_cons, Table.set_of_not_mem hp, ih _ (by simpa using h), List.append_assoc,
      List.singleton_append]

theorem ofPairs_of_nodup {ps : List (AnyText × Json)} (h : (ps.map (·.1)).Nodup) :
    Table.ofPairs ps = ps := foldl_set_of_nodup [] h

theorem items_last {fuel depth : Nat} {cs rest : List Char} {v : Json}
    (h : value fuel depth cs = .ok (v, ']' :: rest)) :
    items (fuel + 1) depth cs = .ok ([v], rest) := by
  simp only [items, h, bind, Except.bind, skip_of_not_space (show isSpace ']' = false by decide)]

theorem items_more {fuel depth : Nat} {cs tail rest : List Char} {v : Json} {vs : List Json}
    (h : value fuel depth cs = .ok (v, ',' :: tail)) (hs : skip tail = tail)
    (ht : items fuel depth tail = .ok (vs, rest)) :
    items (fuel + 1) depth cs = .ok (v :: vs, rest) := by
  simp only [items, h, bind, Except.bind, skip_of_not_space (show isSpace ',' = false by decide),
    hs, ht]

theorem members_last {fuel depth : Nat} (k : AnyText) {cs rest : List Char} {v : Json}
    (hs : skip cs = cs) (h : value fuel depth cs = .ok (v, '\x7d' :: rest)) :
    members (fuel + 1) depth (quote k ++ ':' :: cs) = .ok ([(k, v)], rest) := by
  have hcolon : skip (':' :: cs) = ':' :: cs := skip_of_not_space (by decide)
  have hend : skip ('\x7d' :: rest) = '\x7d' :: rest := skip_of_not_space (by decide)
  rw [quote, quoteCodes, List.cons_append, List.append_assoc, List.singleton_append, members,
    codes_quote _ _ _ (by rw [List.length_append]; omega)]
  simp only [bind, Except.bind, hcolon, hs, h, hend, AnyText.ofCodes_codes]

theorem members_more {fuel depth : Nat} (k : AnyText) {cs tail rest : List Char} {v : Json}
    {ps : List (AnyText × Json)} (hs : skip cs = cs)
    (h : value fuel depth cs = .ok (v, ',' :: tail))
    (hps : members fuel depth (skip tail) = .ok (ps, rest)) :
    members (fuel + 1) depth (quote k ++ ':' :: cs) = .ok ((k, v) :: ps, rest) := by
  have hcolon : skip (':' :: cs) = ':' :: cs := skip_of_not_space (by decide)
  have hcomma : skip (',' :: tail) = ',' :: tail := skip_of_not_space (by decide)
  rw [quote, quoteCodes, List.cons_append, List.append_assoc, List.singleton_append, members,
    codes_quote _ _ _ (by rw [List.length_append]; omega)]
  simp only [bind, Except.bind, hcolon, hs, h, hcomma, hps, AnyText.ofCodes_codes]

/-- The first item of a printed list is no blank and no end. -/
theorem printItems_cons {depth : Nat} {v : Json} (h : Regular depth v) (vs : List Json)
    (rest : List Char) :
    ∃ c r, printItems (v :: vs) ++ rest = c :: r ∧ isSpace c = false ∧ c ≠ ']' := by
  obtain ⟨c, r, hp, hs, hc⟩ := print_cons h
  cases vs with
  | nil => exact ⟨c, _, by rw [printItems, hp]; rfl, hs, hc⟩
  | cons w vs => exact ⟨c, _, by rw [printItems, hp]; rfl, hs, hc⟩

theorem printMembers_cons (p : AnyText × Json) (ps : List (AnyText × Json)) (rest : List Char) :
    ∃ r, printMembers (p :: ps) ++ rest = '"' :: r := by
  cases ps with
  | nil => exact ⟨_, rfl⟩
  | cons q ps => exact ⟨_, rfl⟩

mutual
/-- A regular value is read back from its text. -/
theorem value_print {fuel depth : Nat} {rest : List Char} : ∀ {v : Json}, Regular depth v →
    (print v).length < fuel → Delimited rest →
      value fuel depth (print v ++ rest) = .ok (v, rest)
  | v, h, hf, hr => by
    obtain ⟨fuel, rfl⟩ := Nat.exists_eq_add_one.2 (Nat.zero_lt_of_lt hf)
    cases v with
    | null => exact (value_of_scalar rfl (by decide) (by decide)).trans rfl
    | bool b => cases b <;> exact (value_of_scalar rfl (by decide) (by decide)).trans rfl
    | int i =>
      rw [Regular] at h
      obtain ⟨c, r, hp, hb⟩ := integerChars_cons i
      rw [print, value_of_scalar (by rw [hp]; rfl) ?_ ?_, scalar_int h hr]
      · rintro rfl
        simp at hb
      · rintro rfl
        simp at hb
    | text s =>
      exact (value_of_scalar rfl (by decide) (by decide)).trans (scalar_text s rest)
    | array vs =>
      cases depth with
      | zero => exact absurd h (by simp [Regular])
      | succ depth =>
        rw [print, List.length_cons] at hf
        cases vs with
        | nil => rfl
        | cons v vs =>
          rw [Regular] at h
          rw [RegularItems] at h
          obtain ⟨c, r, hp, hs, hc⟩ := printItems_cons h.1 vs rest
          exact value_array hp hs hc (items_printItems ⟨h.1, h.2⟩ (Nat.lt_of_add_lt_add_right hf))
    | object ms =>
      cases depth with
      | zero => exact absurd h (by simp [Regular])
      | succ depth =>
        rw [print, List.length_cons] at hf
        cases ms with
        | nil => rfl
        | cons p ps =>
          rw [Regular] at h
          obtain ⟨r, hp⟩ := printMembers_cons p ps rest
          have hv := value_object hp (members_printMembers h.2 (Nat.lt_of_add_lt_add_right hf))
          rwa [ofPairs_of_nodup h.1] at hv
    | float x => exact absurd h (by simp [Regular])
      | «foreign» => exact absurd h (by simp [Regular])

theorem items_printItems {fuel depth : Nat} {rest : List Char} : ∀ {v : Json} {vs : List Json},
    RegularItems depth (v :: vs) → (printItems (v :: vs)).length < fuel →
      items fuel depth (printItems (v :: vs) ++ rest) = .ok (v :: vs, rest)
  | v, [], h, hf => by
    obtain ⟨fuel, rfl⟩ := Nat.exists_eq_add_one.2 (Nat.zero_lt_of_lt hf)
    rw [RegularItems] at h
    rw [printItems, List.length_append, List.length_singleton] at hf
    rw [printItems, List.append_assoc]
    exact items_last (value_print h.1 (by omega) (delimited_cons (by simp)))
  | v, w :: vs, h, hf => by
    obtain ⟨fuel, rfl⟩ := Nat.exists_eq_add_one.2 (Nat.zero_lt_of_lt hf)
    rw [RegularItems] at h
    rw [printItems, List.length_append, List.length_cons] at hf
    rw [printItems, List.append_assoc, List.cons_append]
    obtain ⟨c, r, hp, hs, -⟩ := printItems_cons h.2.1 vs rest
    exact items_more (value_print h.1 (by omega) (delimited_cons (by simp)))
      (by rw [hp, skip_of_not_space hs]) (items_printItems h.2 (by omega))

theorem members_printMembers {fuel depth : Nat} {rest : List Char} :
    ∀ {p : AnyText × Json} {ps : List (AnyText × Json)}, RegularMembers depth (p :: ps) →
      (printMembers (p :: ps)).length < fuel →
        members fuel depth (printMembers (p :: ps) ++ rest) = .ok (p :: ps, rest)
  | (k, v), [], h, hf => by
    obtain ⟨fuel, rfl⟩ := Nat.exists_eq_add_one.2 (Nat.zero_lt_of_lt hf)
    rw [RegularMembers] at h
    simp only [printMembers, List.length_append, List.length_cons, List.length_nil] at hf
    have hv : value fuel depth (print v ++ '\x7d' :: rest) = .ok (v, '\x7d' :: rest) :=
      value_print h.1 (by omega) (delimited_cons (by simp))
    simp only [printMembers, List.append_assoc, List.cons_append, List.nil_append]
    exact members_last k (skip_print h.1 _) hv
  | (k, v), p :: ps, h, hf => by
    obtain ⟨fuel, rfl⟩ := Nat.exists_eq_add_one.2 (Nat.zero_lt_of_lt hf)
    rw [RegularMembers] at h
    simp only [printMembers, List.length_append, List.length_cons] at hf
    have hv : value fuel depth (print v ++ ',' :: (printMembers (p :: ps) ++ rest)) =
        .ok (v, ',' :: (printMembers (p :: ps) ++ rest)) :=
      value_print h.1 (by omega) (delimited_cons (by simp))
    have hps : members fuel depth (printMembers (p :: ps) ++ rest) = .ok (p :: ps, rest) :=
      members_printMembers h.2 (by omega)
    obtain ⟨r, hp⟩ := printMembers_cons p ps rest
    have hskip : skip (printMembers (p :: ps) ++ rest) = printMembers (p :: ps) ++ rest := by
      rw [hp, skip_of_not_space (by decide)]
    simp only [printMembers, List.append_assoc, List.cons_append]
    exact members_more k (skip_print h.1 _) hv (by rw [hskip, hps])
end

/-! ### Whole texts -/

theorem isAscii_of_isDigit {c : Char} (h : IsDigit c) : IsAscii c := by
  have hb := h.bounds
  exact ⟨by omega, by omega⟩

theorem isAscii_of_mem_integerChars {i : Int} {c : Char} (h : c ∈ integerChars i) : IsAscii c := by
  rw [integerChars] at h
  split at h
  · rcases List.mem_cons.1 h with rfl | h
    · exact ⟨by decide, by decide⟩
    · exact isAscii_of_isDigit (isDigit_of_mem_toDigits h)
  · exact isAscii_of_isDigit (isDigit_of_mem_toDigits h)

/-- A mark of the grammar, or a character of one of the two parts around it. -/
theorem isAscii_of_mem_append_cons {m c : Char} {l r : List Char} (hm : IsAscii m)
    (hl : c ∈ l → IsAscii c) (hr : c ∈ r → IsAscii c) (h : c ∈ l ++ m :: r) : IsAscii c := by
  rcases List.mem_append.1 h with h | h
  · exact hl h
  · rcases List.mem_cons.1 h with rfl | h
    · exact hm
    · exact hr h

mutual
/-- The text of a regular value is ASCII. -/
theorem isAscii_of_mem_print {depth : Nat} {c : Char} :
    ∀ {v : Json}, Regular depth v → c ∈ print v → IsAscii c
  | v, h, hc => by
    cases v with
    | null =>
      simp only [print, List.mem_cons, List.not_mem_nil, or_false] at hc
      rcases hc with rfl | rfl | rfl | rfl <;> exact ⟨by decide, by decide⟩
    | bool b =>
      cases b <;> simp [print] at hc <;> rcases hc with rfl | rfl | rfl | rfl | rfl <;>
        exact ⟨by decide, by decide⟩
    | int i => exact isAscii_of_mem_integerChars (by rwa [print] at hc)
    | text s => exact isAscii_of_mem_quote (by rwa [print] at hc)
    | array vs =>
      cases depth with
      | zero => exact absurd h (by simp [Regular])
      | succ depth =>
        rw [Regular] at h
        rw [print] at hc
        exact isAscii_of_mem_append_cons (l := []) ⟨by decide, by decide⟩ (by simp)
          (isAscii_of_mem_printItems h) hc
    | object ms =>
      cases depth with
      | zero => exact absurd h (by simp [Regular])
      | succ depth =>
        rw [Regular] at h
        rw [print] at hc
        exact isAscii_of_mem_append_cons (l := []) ⟨by decide, by decide⟩ (by simp)
          (isAscii_of_mem_printMembers h.2) hc
    | float x => exact absurd h (by simp [Regular])
      | «foreign» => exact absurd h (by simp [Regular])

theorem isAscii_of_mem_printItems {depth : Nat} {c : Char} :
    ∀ {vs : List Json}, RegularItems depth vs → c ∈ printItems vs → IsAscii c
  | [], _, hc => isAscii_of_mem_append_cons (l := []) (m := ']') (r := [])
      ⟨by decide, by decide⟩ (by simp) (by simp) hc
  | [v], h, hc => by
    rw [RegularItems] at h
    exact isAscii_of_mem_append_cons (m := ']') (r := []) ⟨by decide, by decide⟩
      (isAscii_of_mem_print h.1) (by simp) hc
  | v :: w :: vs, h, hc => by
    rw [RegularItems] at h
    rw [printItems] at hc
    exact isAscii_of_mem_append_cons ⟨by decide, by decide⟩ (isAscii_of_mem_print h.1)
      (isAscii_of_mem_printItems h.2) hc

theorem isAscii_of_mem_printMembers {depth : Nat} {c : Char} :
    ∀ {ms : List (AnyText × Json)}, RegularMembers depth ms → c ∈ printMembers ms → IsAscii c
  | [], _, hc => isAscii_of_mem_append_cons (l := []) (m := '\x7d') (r := [])
      ⟨by decide, by decide⟩ (by simp) (by simp) hc
  | [(k, v)], h, hc => by
    rw [RegularMembers] at h
    rw [printMembers] at hc
    exact isAscii_of_mem_append_cons ⟨by decide, by decide⟩ isAscii_of_mem_quote
      (isAscii_of_mem_append_cons (m := '\x7d') (r := []) ⟨by decide, by decide⟩
        (isAscii_of_mem_print h.1) (by simp)) hc
  | (k, v) :: p :: ps, h, hc => by
    rw [RegularMembers] at h
    rw [printMembers] at hc
    exact isAscii_of_mem_append_cons ⟨by decide, by decide⟩ isAscii_of_mem_quote
      (isAscii_of_mem_append_cons ⟨by decide, by decide⟩ (isAscii_of_mem_print h.1)
        (isAscii_of_mem_printMembers h.2)) hc
end

theorem parseUpTo_print {depth : Nat} {v : Json} (h : Regular depth v) :
    parseUpTo depth (print v) = .ok v := by
  obtain ⟨c, r, hp, hs, -⟩ := print_cons h
  have hv : value ((print v).length + 1) depth (print v ++ []) = .ok (v, []) :=
    value_print h (Nat.lt_succ_self _) delimited_nil
  have hbom : ∀ s, print v ≠ '\ufeff' :: s := by
    rintro s hs
    have hc := isAscii_of_mem_print h (hs ▸ List.mem_cons_self ..)
    exact absurd hc.2 (by decide)
  rw [List.append_nil] at hv
  unfold parseUpTo
  split
  · next s heq => exact absurd heq (hbom s)
  · simp only [hp, skip_of_not_space hs]
    rw [← hp, hv]
    rfl

/-- A regular value of bounded depth is what its own text tells. -/
theorem parse_print [Platform] {v : Json} (h : Regular Platform.depthLimit v) :
    parse (print v) = .ok v :=
  parseUpTo_print h

/-! ### The form of a value -/

mutual
/-- A regular value has a JSON form. -/
theorem Regular.storable {depth : Nat} : ∀ {v : Json}, Regular depth v → v.storable = true
  | .null, _ => rfl
  | .bool _, _ => rfl
  | .int _, _ => rfl
  | .float _, _ => rfl
  | .text _, _ => rfl
  | .array vs, h => by
    cases depth with
    | zero => exact absurd h (by simp [Regular])
    | succ depth =>
      rw [Regular] at h
      exact RegularItems.storable h
  | .object ms, h => by
    cases depth with
    | zero => exact absurd h (by simp [Regular])
    | succ depth =>
      rw [Regular] at h
      exact RegularMembers.storable h.2
  | .foreign, h => absurd h (by simp [Regular])

theorem RegularItems.storable {depth : Nat} :
    ∀ {vs : List Json}, RegularItems depth vs → storableItems vs = true
  | [], _ => rfl
  | v :: vs, h => by
    rw [RegularItems] at h
    rw [storableItems, h.1.storable, RegularItems.storable h.2, Bool.and_self]

theorem RegularMembers.storable {depth : Nat} :
    ∀ {ms : List (AnyText × Json)}, RegularMembers depth ms → storableMembers ms = true
  | [], _ => rfl
  | (_, v) :: ms, h => by
    rw [RegularMembers] at h
    rw [storableMembers, h.1.storable, RegularMembers.storable h.2, Bool.and_self]
end

end Gatehouse.Json
