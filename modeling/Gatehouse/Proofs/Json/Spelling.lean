import Gatehouse.Proofs.Json.RoundTrip

/-!
The ways to write a list of texts. Every item may be written in all the ways of quoted texts, and
blanks may stand around every item and the whole: `ListText` says which texts write a list. The list
is read from each of them (`parse_listText`), and the compact text is one of them
(`listText_print`).
-/
namespace Gatehouse.Json
open Text Gatehouse.Json.Parser

/-- Spaces, tabs and line breaks. -/
def Blanks (b : List Char) : Prop := ∀ c ∈ b, isSpace c = true

/-- A quoted text with blanks around it. -/
inductive ItemText : String → List Char → Prop
  | mk {s : String} {b out b' : List Char} : Blanks b →
      CodesText (s.toList.map Char.toNat) out → Blanks b' →
        ItemText s (b ++ '"' :: (out ++ '"' :: b'))

/-- Items with commas between them, up to and with the closing bracket. -/
inductive ItemsText : List String → List Char → Prop
  | last {s : String} {t : List Char} : ItemText s t → ItemsText [s] (t ++ [']'])
  | more {s : String} {ss : List String} {t rest : List Char} : ItemText s t →
      ItemsText ss rest → ItemsText (s :: ss) (t ++ ',' :: rest)

/-- A list of texts with blanks around it. -/
inductive ListText : List String → List Char → Prop
  | empty {b m b' : List Char} : Blanks b → Blanks m → Blanks b' →
      ListText [] (b ++ '[' :: (m ++ ']' :: b'))
  | items {ss : List String} {b out b' : List Char} : Blanks b → ItemsText ss out → Blanks b' →
      ListText ss (b ++ '[' :: (out ++ b'))

variable {s : String} {ss : List String} {cs out t b : List Char}

/-! ### Reading -/

theorem skip_append (hb : Blanks b) (rest : List Char) : skip (b ++ rest) = skip rest :=
  List.dropWhile_append_of_pos hb

/-- Behind its blanks an item begins with a quote, and before its blanks it is read. -/
theorem value_itemText (fuel depth : Nat) (h : ItemText s t) (rest : List Char) :
    ∃ r left, skip (t ++ rest) = '"' :: r ∧
      value (fuel + 1) depth ('"' :: r) = .ok (.text s, left) ∧ skip left = skip rest := by
  cases h with | @mk b out b' hb hcodes hb' =>
  refine ⟨out ++ '"' :: (b' ++ rest), b' ++ rest, ?_, ?_, skip_append hb' rest⟩
  · simp only [List.append_assoc, List.cons_append, skip_append hb]
    exact skip_of_not_space (by decide)
  · rw [value_of_scalar rfl (by decide) (by decide), scalar,
      codes_codesText _ _ hcodes (AnyText.noPairs_toNat _) (by rw [List.length_append]; omega)]
    simp only [bind, Except.bind, AnyText.ofCodes_toNat, String.ofList_toList]

theorem length_itemText (h : ItemText s t) : 0 < t.length := by
  cases h
  simp

/-- Items are read up to and with the closing bracket. -/
theorem items_itemsText {fuel : Nat} (depth : Nat) (h : ItemsText ss out) (rest : List Char)
    (hf : out.length < fuel) : ∃ r, skip (out ++ rest) = '"' :: r ∧
      items fuel depth ('"' :: r) = .ok (ss.map fun s : String => .text s, rest) := by
  induction h generalizing fuel with
  | @last s t hitem =>
    have hpos := length_itemText hitem
    rw [List.length_append] at hf
    obtain ⟨fuel, rfl⟩ := Nat.exists_eq_add_of_lt (show 1 < fuel by omega)
    obtain ⟨r, left, hstart, hvalue, hleft⟩ := value_itemText fuel depth hitem (']' :: rest)
    rw [skip_of_not_space (by decide)] at hleft
    refine ⟨r, by rwa [List.append_assoc], ?_⟩
    rw [Nat.add_comm 1, items]
    simp only [hvalue, bind, Except.bind, hleft, List.map_cons, List.map_nil]
  | @more s ss t out hitem _ ih =>
    have hpos := length_itemText hitem
    rw [List.length_append, List.length_cons] at hf
    obtain ⟨fuel, rfl⟩ := Nat.exists_eq_add_of_lt (show 1 < fuel by omega)
    obtain ⟨r, left, hstart, hvalue, hleft⟩ :=
      value_itemText fuel depth hitem (',' :: (out ++ rest))
    obtain ⟨r', hstart', hitems⟩ := ih (show out.length < fuel + 1 by omega)
    rw [skip_of_not_space (by decide)] at hleft
    refine ⟨r, by rwa [List.append_assoc], ?_⟩
    rw [Nat.add_comm 1, items]
    simp only [hvalue, bind, Except.bind, hleft, hstart', hitems, List.map_cons]

theorem itemsText_ends (h : ItemsText ss out) : ∃ m, out = m ++ [']'] := by
  induction h with
  | last => exact ⟨_, rfl⟩
  | more _ _ ih =>
    obtain ⟨m, rfl⟩ := ih
    exact ⟨_, (List.append_assoc _ (_ :: m) _).symm⟩

/-- A written list of texts stands between brackets. -/
theorem listText_ends (h : ListText ss cs) :
    ∃ b m b', Blanks b ∧ Blanks b' ∧ cs = b ++ '[' :: (m ++ ']' :: b') := by
  cases h with
  | empty hb _ hb' => exact ⟨_, _, _, hb, hb', rfl⟩
  | @items _ b out b' hb hitems hb' =>
    obtain ⟨m, rfl⟩ := itemsText_ends hitems
    exact ⟨b, m, b', hb, hb', by rw [List.append_assoc]; rfl⟩

theorem value_listText {fuel : Nat} (depth : Nat) (h : ListText ss cs) (hf : cs.length ≤ fuel) :
    ∃ left, value (fuel + 1) (depth + 1) (skip cs) =
      .ok (.array (ss.map fun s : String => .text s), left) ∧ skip left = [] := by
  have hopen (r : List Char) : skip ('[' :: r) = '[' :: r := skip_of_not_space (by decide)
  have hend {b : List Char} (hb : Blanks b) : skip b = [] := by
    rw [← List.append_nil b, skip_append hb]
    rfl
  cases h with
  | @empty b m b' hb hm hb' =>
    refine ⟨b', ?_, hend hb'⟩
    rw [skip_append hb, hopen, value]
    simp only [skip_append hm, skip_of_not_space (show isSpace ']' = false by decide)]
    rfl
  | @items _ b out b' hb hitems hb' =>
    refine ⟨b', ?_, hend hb'⟩
    rw [List.length_append, List.length_cons, List.length_append] at hf
    obtain ⟨r, hstart, hread⟩ :=
      items_itemsText depth hitems b' (show out.length < fuel by omega)
    rw [skip_append hb, hopen, value]
    simp only [hstart]
    split
    · next heq => exact absurd (List.cons.inj heq).1 (by decide)
    · simp only [hread, bind, Except.bind]

/-- The list is read from each text that writes it. -/
theorem parse_listText [Platform] (h : ListText ss cs) :
    parse cs = .ok (.array (ss.map fun s : String => .text s)) := by
  have hbom : ∀ r, cs ≠ '\ufeff' :: r := by
    obtain ⟨b, m, b', hb, -, rfl⟩ := listText_ends h
    intro r heq
    cases b with
    | nil => exact absurd (List.cons.inj heq).1 (by decide)
    | cons c b =>
      have hspace := hb c (List.mem_cons_self ..)
      rw [(List.cons.inj heq).1] at hspace
      exact absurd hspace (by decide)
  have hlimit := Platform.hundred_le_depthLimit
  obtain ⟨depth, hdepth⟩ := Nat.exists_eq_add_one.2 (show 0 < Platform.depthLimit by omega)
  obtain ⟨left, hvalue, hleft⟩ := value_listText depth h (Nat.le_refl _)
  rw [parse, hdepth]
  unfold parseUpTo
  split
  · next r heq => exact absurd rfl (hbom _)
  · simp only [hvalue, hleft]

/-! ### Writing -/

theorem blanks_nil : Blanks [] := by simp [Blanks]

theorem itemText_print (s : String) : ItemText s (print (.text s)) := by
  have hcodes := codesText_escaped fun _ => AnyText.lt_of_mem_codes (t := s)
  have hitem := ItemText.mk blanks_nil hcodes blanks_nil
  rwa [List.nil_append] at hitem

theorem itemsText_printItems (s : String) (ss : List String) :
    ItemsText (s :: ss) (printItems ((s :: ss).map fun s : String => .text s)) := by
  induction ss generalizing s with
  | nil => exact .last (itemText_print s)
  | cons s' ss ih => exact .more (itemText_print s) (ih s')

/-- The compact text of a list writes it, with blanks around it too. -/
theorem listText_print {b' : List Char} (ss : List String) (hb : Blanks b) (hb' : Blanks b') :
    ListText ss (b ++ print (.array (ss.map fun s : String => .text s)) ++ b') := by
  rw [List.append_assoc, print]
  cases ss with
  | nil => exact .empty hb blanks_nil hb'
  | cons s ss => exact .items hb (itemsText_printItems s ss) hb'

end Gatehouse.Json
