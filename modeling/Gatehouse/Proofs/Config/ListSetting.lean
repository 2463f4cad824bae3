import Gatehouse.Config.ListSetting
import Gatehouse.Proofs.Json.Spelling
import Gatehouse.Token.Key
import Mathlib.Data.List.TakeWhile

/-!
The spellings of a list setting. A list of texts is read from its JSON text in any form, and from
its items with commas or with semicolons between them, whatever blanks stand around the items and
however many separators stand between them.
-/
namespace Gatehouse

namespace Text
variable {p : Char → Bool} {b m b' : List Char}

theorem trim_of_all (hb : ∀ c ∈ b, p c = true) : trim p b = [] := by
  rw [trim, List.dropWhile_eq_nil_iff.2 hb]
  rfl

/-- Trimming takes off what stands around a text that neither begins nor ends with it. -/
theorem trim_append (hb : ∀ c ∈ b, p c = true) (hb' : ∀ c ∈ b', p c = true) (hm : m ≠ [])
    (hfirst : ∀ c, m.head? = some c → p c = false)
    (hlast : ∀ c, m.getLast? = some c → p c = false) : trim p (b ++ m ++ b') = m := by
  have hstop {l : List Char} (h : ∀ c, l.head? = some c → p c = false) : l.dropWhile p = l := by
    cases l with
    | nil => rfl
    | cons c r => simp [h c rfl]
  have hstart : (b ++ m ++ b').dropWhile p = m ++ b' := by
    rw [List.append_assoc, List.dropWhile_append_of_pos hb, hstop]
    obtain ⟨d, r, rfl⟩ := List.exists_cons_of_ne_nil hm
    exact hfirst
  have hend : (m ++ b').reverse.dropWhile p = m.reverse := by
    rw [List.reverse_append, List.dropWhile_append_of_pos (by simpa using hb'), hstop]
    rwa [List.head?_reverse]
  rw [trim, trimEnd, hstart, hend, List.reverse_reverse]

end Text

namespace ListSetting
open Text
variable {sep : Char} {s : String} {ss : List String} {cs b : List Char}

/-- An item that separators and blanks leave as it is. -/
structure Item (s : String) : Prop where
  nonempty : s.toList ≠ []
  first : ∀ c, s.toList.head? = some c → isBlank c = false
  last : ∀ c, s.toList.getLast? = some c → isBlank c = false
  comma : ',' ∉ s.toList
  semicolon : ';' ∉ s.toList

def Blanks (b : List Char) : Prop := ∀ c ∈ b, isBlank c = true

/-- What stands between two separators: an item with blanks around it, or blanks alone. -/
inductive Piece : List String → List Char → Prop
  | empty {b : List Char} : Blanks b → Piece [] b
  | item {s : String} {b b' : List Char} : Item s → Blanks b → Blanks b' →
      Piece [s] (b ++ s.toList ++ b')

/-- Items with separators between them, of which there may be more than needed. -/
inductive Separated (sep : Char) : List String → List Char → Prop
  | last {ss : List String} {cs : List Char} : Piece ss cs → Separated sep ss cs
  | more {ss ss' : List String} {cs cs' : List Char} : Piece ss cs → Separated sep ss' cs' →
      Separated sep (ss ++ ss') (cs ++ sep :: cs')

/-- The items of the pieces between separators. -/
def kept (pieces : List (List Char)) : List String :=
  (pieces.map (trim isBlank)).filterMap fun item =>
    if item.isEmpty then none else some (String.ofList item)

theorem kept_cons (piece : List Char) (pieces : List (List Char)) :
    kept (piece :: pieces) = kept [piece] ++ kept pieces := by
  rw [kept, kept, kept, ← List.filterMap_append, ← List.map_append, List.singleton_append]

theorem kept_piece (h : Piece ss cs) : kept [cs] = ss := by
  cases h with
  | empty hb => simp [kept, trim_of_all hb]
  | @item s b b' hs hb hb' =>
    have htrim := trim_append hb hb' hs.nonempty hs.first hs.last
    rw [kept, List.map_singleton, htrim]
    simp [hs.nonempty]

theorem Blanks.not_mem (hb : Blanks b) : ',' ∉ b ∧ ';' ∉ b := by
  constructor
  · intro h
    exact absurd (hb _ h) (by decide)
  · intro h
    exact absurd (hb _ h) (by decide)

theorem Piece.not_mem (h : Piece ss cs) : ',' ∉ cs ∧ ';' ∉ cs := by
  cases h with
  | empty hb => exact hb.not_mem
  | item hs hb hb' =>
    simp [hb.not_mem, hb'.not_mem, hs.comma, hs.semicolon]

theorem Piece.sep_not_mem (h : Piece ss cs) (hsep : sep = ',' ∨ sep = ';') : sep ∉ cs := by
  rcases hsep with rfl | rfl
  · exact h.not_mem.1
  · exact h.not_mem.2

/-- The pieces between the separators hold the items. -/
theorem kept_splitOn (hsep : sep = ',' ∨ sep = ';') (h : Separated sep ss cs) :
    kept (splitOn sep cs) = ss := by
  induction h with
  | last hpiece => rw [splitOn_of_not_mem (hpiece.sep_not_mem hsep), kept_piece hpiece]
  | more hpiece _ ih =>
    rw [splitOn_append (hpiece.sep_not_mem hsep), kept_cons, kept_piece hpiece, ih]

theorem comma_not_mem (h : Separated ';' ss cs) : ',' ∉ cs := by
  induction h with
  | last hpiece => exact hpiece.not_mem.1
  | more hpiece _ ih => simp [hpiece.not_mem.1, ih]

/-- Without a comma, items with commas between them are one piece at most. -/
theorem separated_of_comma_not_mem (h : Separated ',' ss cs) (hcomma : ',' ∉ cs) :
    Separated ';' ss cs := by
  cases h with
  | last hpiece => exact .last hpiece
  | more => simp at hcomma

/-- The separator of a text is found, unless there is none. -/
theorem separated_eq (hsep : sep = ',' ∨ sep = ';') (h : Separated sep ss cs) :
    separated cs = ss := by
  show kept (splitOn (if cs.contains ',' then ',' else ';') cs) = ss
  by_cases hcomma : ',' ∈ cs
  · rw [if_pos (List.contains_iff_mem.2 hcomma)]
    rcases hsep with rfl | rfl
    · exact kept_splitOn (.inl rfl) h
    · exact absurd hcomma (comma_not_mem h)
  · rw [if_neg (mt List.contains_iff_mem.1 hcomma)]
    rcases hsep with rfl | rfl
    · exact kept_splitOn (.inr rfl) (separated_of_comma_not_mem h hcomma)
    · exact kept_splitOn (.inr rfl) h

theorem items_texts (i : Nat) (ss : List String) :
    Schema.items item i (ss.map fun s : String => .text s) = .accepted ss := by
  induction ss generalizing i with
  | nil => rfl
  | cons s ss ih =>
    have hitem : item (.text s) = .accepted s := rfl
    simp only [List.map_cons, Schema.items, hitem, ih]
    rfl

theorem isBlank_of_isSpace {c : Char} (h : Json.Parser.isSpace c = true) : isBlank c = true := by
  simp only [Json.Parser.isSpace, Bool.or_eq_true, beq_iff_eq] at h
  rcases h with ((rfl | rfl) | rfl) | rfl <;> decide

theorem bracketed_listText (h : Json.ListText ss cs) : bracketed cs = true := by
  obtain ⟨b, m, b', hb, hb', rfl⟩ := Json.listText_ends h
  have htrim : trim isBlank (b ++ '[' :: (m ++ [']']) ++ b') = '[' :: (m ++ [']']) := by
    refine trim_append (fun c hc => isBlank_of_isSpace (hb c hc))
      (fun c hc => isBlank_of_isSpace (hb' c hc)) (List.cons_ne_nil _ _) ?_ ?_
    · rintro c ⟨⟩
      decide
    · intro c hc
      rw [← List.cons_append, List.getLast?_concat] at hc
      cases hc
      decide
  have hcut : b ++ '[' :: (m ++ ']' :: b') = b ++ '[' :: (m ++ [']']) ++ b' := by simp
  rw [hcut, bracketed, htrim, ← List.cons_append, List.getLast?_concat]
  rfl

theorem read_of_listText [Platform] (h : Json.ListText ss s.toList) :
    read (.text s) = .ok (.accepted ss) := by
  simp only [read, bracketed_listText h, if_true, Json.parse_listText h, items_texts]

/-- A text with separators is read by them also if it looks like a JSON list, but is none. -/
theorem read_of_separated [Platform] (hsep : sep = ',' ∨ sep = ';') (h : Separated sep ss s.toList)
    (hlist : bracketed s.toList = true → ∃ n, Json.parse s.toList = .error (.malformed n)) :
    read (.text s) = .ok (.accepted ss) := by
  simp only [read, separated_eq hsep h]
  split
  · next hbracketed =>
    obtain ⟨n, hparse⟩ := hlist hbracketed
    rw [hparse]
  · rfl

/-- A list of texts is read from every text that writes it in JSON, among them its compact text with
blanks around it, and from its items with commas or with semicolons between them, blanks around them
and separators to spare, unless that text begins and ends like a JSON list. -/
theorem read_spelled [Platform] (ss : List String) (s : String) :
    (Json.ListText ss s.toList → read (.text s) = .ok (.accepted ss)) ∧
    (∀ b b', Json.Blanks b → Json.Blanks b' →
      s.toList = b ++ Json.print (.array (ss.map fun s : String => .text s)) ++ b' →
      read (.text s) = .ok (.accepted ss)) ∧
    (∀ sep, sep = ',' ∨ sep = ';' → Separated sep ss s.toList → bracketed s.toList = false →
      read (.text s) = .ok (.accepted ss)) := by
  refine ⟨read_of_listText, fun b b' hb hb' hprint => ?_, fun sep hsep h hopen => ?_⟩
  · exact read_of_listText (hprint ▸ Json.listText_print ss hb hb')
  · exact read_of_separated hsep h fun hbracketed => by simp [hopen] at hbracketed

/-- Two items, the first outside ASCII and the second half of a bracketed text. -/
def sampleItems : List String := ["é", "[x"]

theorem item_sample : Item "é" ∧ Item "[x" := by
  constructor
  · exact ⟨by decide, by rintro c ⟨⟩; decide, by rintro c ⟨⟩; decide, by decide, by decide⟩
  · exact ⟨by decide, by rintro c ⟨⟩; decide, by rintro c ⟨⟩; decide, by decide, by decide⟩

/-- One item as an escape with capitals and one as it is, with blanks in all places. -/
theorem listText_sample : Json.ListText sampleItems "\t[ \"\\u00E9\" ,\n\"[x\"] ".toList := by
  have hunit : Json.UnitText 'é'.toNat ['\\', 'u', '0', '0', 'E', '9'] :=
    .mk (w := 0) (x := 0) (y := 14) (z := 9) rfl rfl rfl rfl
  have hescaped : Json.CodesText ("é".toList.map Char.toNat)
      (['\\', 'u', '0', '0', 'E', '9'] ++ []) :=
    .cons (.unit hunit) .nil
  have hplain : Json.CodesText ("[x".toList.map Char.toNat) ['[', 'x'] :=
    Json.codesText_escaped (by decide)
  have hblanks (b : List Char) (hb : b.all Json.Parser.isSpace = true) : Json.Blanks b :=
    List.all_eq_true.1 hb
  exact .items (hblanks ['\t'] rfl)
    (.more (.mk (hblanks [' '] rfl) hescaped (hblanks [' '] rfl))
      (.last (.mk (hblanks ['\n'] rfl) hplain Json.blanks_nil))) (hblanks [' '] rfl)

/-- The same items between semicolons, with one to spare in each place. -/
theorem separated_sample : Separated ';' sampleItems "; é ;;[x;".toList := by
  have hblanks (b : List Char) (hb : b.all isBlank = true) : Blanks b := List.all_eq_true.1 hb
  have hempty := Piece.empty (hblanks [] rfl)
  exact .more hempty
    (.more (.item item_sample.1 (hblanks [' '] rfl) (hblanks [' '] rfl))
      (.more hempty
        (.more (.item item_sample.2 (hblanks [] rfl) (hblanks [] rfl))
          (.last hempty))))

section
attribute [local instance] Platform.standard

theorem read_spelled_sample :
    read (.text "\t[ \"\\u00E9\" ,\n\"[x\"] ") = .ok (.accepted sampleItems) ∧
    read (.text "[\"\\u00e9\",\"[x\"]\n") = .ok (.accepted sampleItems) ∧
    read (.text "; é ;;[x;") = .ok (.accepted sampleItems) :=
  ⟨(read_spelled _ _).1 listText_sample,
    (read_spelled _ _).2.1 [] ['\n'] Json.blanks_nil (List.all_eq_true.1 rfl) (by decide),
    (read_spelled _ _).2.2 ';' (.inr rfl) separated_sample (by decide)⟩

end

end ListSetting

end Gatehouse
