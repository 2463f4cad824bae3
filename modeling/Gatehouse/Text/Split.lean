/-!
Cutting texts at separators: at every one, at the first or at the last, and joining the pieces.
-/
namespace Gatehouse.Text

/-- The pieces between the occurrences of `sep`; there is always at least one. -/
def splitOn (sep : Char) : List Char → List (List Char)
  | [] => [[]]
  | c :: r =>
    match splitOn sep r with
    | [] => [[]]
    | p :: ps => if c = sep then [] :: p :: ps else (c :: p) :: ps

/-- The pieces with `sep` between them. -/
def joinWith (sep : List Char) : List (List Char) → List Char
  | [] => []
  | [p] => p
  | p :: q :: ps => p ++ sep ++ joinWith sep (q :: ps)

theorem splitOn_ne_nil (sep : Char) (cs : List Char) : splitOn sep cs ≠ [] := by
  cases cs with
  | nil => simp [splitOn]
  | cons c r =>
    rw [splitOn]
    split
    · simp
    · split <;> simp

theorem joinWith_cons {sep : List Char} {p : List Char} {ps : List (List Char)} (h : ps ≠ []) :
    joinWith sep (p :: ps) = p ++ sep ++ joinWith sep ps := by
  cases ps with
  | nil => exact absurd rfl h
  | cons q qs => rfl

theorem splitOn_of_not_mem {sep : Char} {p : List Char} (h : sep ∉ p) : splitOn sep p = [p] := by
  induction p with
  | nil => rfl
  | cons c r ih =>
    simp only [List.mem_cons, not_or] at h
    simp [splitOn, ih h.2, Ne.symm h.1]

theorem splitOn_append {sep : Char} {p cs : List Char} (h : sep ∉ p) :
    splitOn sep (p ++ sep :: cs) = p :: splitOn sep cs := by
  induction p with
  | nil =>
    rw [List.nil_append, splitOn]
    split
    · next he => exact absurd he (splitOn_ne_nil sep cs)
    · next he => simp [he]
  | cons c r ih =>
    simp only [List.mem_cons, not_or] at h
    simp [splitOn, ih h.2, Ne.symm h.1]

/-- The parts before and after the first `sep`. -/
def cutFirst (sep : Char) : List Char → Option (List Char × List Char)
  | [] => none
  | c :: r =>
    if c = sep then some ([], r) else (cutFirst sep r).map fun (a, b) => (c :: a, b)

/-- The parts before and after the last `sep`. -/
def cutLast (sep : Char) : List Char → Option (List Char × List Char)
  | [] => none
  | c :: r =>
    match cutLast sep r with
    | some (a, b) => some (c :: a, b)
    | none => if c = sep then some ([], r) else none

theorem eq_append_of_cutFirst {sep : Char} {cs a b : List Char}
    (h : cutFirst sep cs = some (a, b)) : cs = a ++ sep :: b ∧ sep ∉ a := by
  induction cs generalizing a b with
  | nil => simp [cutFirst] at h
  | cons c r ih =>
    rw [cutFirst] at h
    split at h
    · next hc =>
      obtain ⟨rfl, rfl⟩ := Prod.mk.inj (Option.some.inj h)
      simp [hc]
    · next hc =>
      obtain ⟨⟨a', b'⟩, h', e⟩ := Option.map_eq_some_iff.1 h
      obtain ⟨rfl, rfl⟩ := Prod.mk.inj e
      obtain ⟨e', hn⟩ := ih h'
      refine ⟨by rw [e']; rfl, ?_⟩
      simpa [List.mem_cons, not_or] using ⟨fun h => hc h.symm, hn⟩

theorem cutLast_eq_none {sep : Char} {cs : List Char} (h : cutLast sep cs = none) :
    sep ∉ cs := by
  induction cs with
  | nil => simp
  | cons c r ih =>
    rw [cutLast] at h
    split at h
    · simp at h
    · next hr =>
      split at h
      · simp at h
      · next hc => simpa [List.mem_cons, not_or] using ⟨fun h => hc h.symm, ih hr⟩

theorem eq_append_of_cutLast {sep : Char} {cs a b : List Char}
    (h : cutLast sep cs = some (a, b)) : cs = a ++ sep :: b ∧ sep ∉ b := by
  induction cs generalizing a with
  | nil => simp [cutLast] at h
  | cons c r ih =>
    rw [cutLast] at h
    split at h
    · next hr =>
      obtain ⟨rfl, rfl⟩ := Prod.mk.inj (Option.some.inj h)
      obtain ⟨e, hn⟩ := ih hr
      exact ⟨by rw [e]; rfl, hn⟩
    · next hr =>
      split at h
      · next hc =>
        obtain ⟨rfl, rfl⟩ := Prod.mk.inj (Option.some.inj h)
        exact ⟨by simp [hc], cutLast_eq_none hr⟩
      · simp at h

/-- The text without the characters of a class at its end. -/
def trimEnd (p : Char → Bool) (cs : List Char) : List Char :=
  (cs.reverse.dropWhile p).reverse

/-- The text without the characters of a class at either end. -/
def trim (p : Char → Bool) (cs : List Char) : List Char := trimEnd p (cs.dropWhile p)

/-- The maximal runs of characters outside a class. -/
def words (p : Char → Bool) (cs : List Char) : List (List Char) :=
  let (done, current) := cs.foldr
    (fun c (done, current) =>
      if p c then (if current.isEmpty then done else current :: done, []) else (done, c :: current))
    (([], []) : List (List Char) × List Char)
  if current.isEmpty then done else current :: done

/-- What follows a given beginning. -/
def stripPrefix? : List Char → List Char → Option (List Char)
  | [], cs => some cs
  | _ :: _, [] => none
  | p :: ps, c :: cs => if p = c then stripPrefix? ps cs else none

theorem stripPrefix?_append (p cs : List Char) : stripPrefix? p (p ++ cs) = some cs := by
  induction p with
  | nil => cases cs <;> rfl
  | cons c p ih => rw [List.cons_append, stripPrefix?, if_pos rfl, ih]

/-- Digits of a number below `16 ^ width` in lower-case hexadecimal. -/
def hex (width n : Nat) : List Char :=
  let ds := Nat.toDigits 16 n
  List.replicate (width - ds.length) '0' ++ ds

/-- A number in decimal with at least `width` digits. -/
def padded (width n : Nat) : List Char :=
  let ds := Nat.toDigits 10 n
  List.replicate (width - ds.length) '0' ++ ds

def hexValue? (c : Char) : Option Nat :=
  if '0' ≤ c ∧ c ≤ '9' then some (c.toNat - 0x30)
  else if 'a' ≤ c ∧ c ≤ 'f' then some (c.toNat - 0x61 + 10)
  else if 'A' ≤ c ∧ c ≤ 'F' then some (c.toNat - 0x41 + 10)
  else none

end Gatehouse.Text
