import Gatehouse.Proofs.Calendar.HeaderDate
import Gatehouse.Proofs.Calendar.Reckoning
import Gatehouse.Proofs.Token.RoundTrip
import Gatehouse.Session.Cookie
import Gatehouse.Table
import Mathlib.Data.List.Nodup

/-!
The browser's side of cookies. A browser keeps what a `Set-Cookie` header says until the time that
it names, and sends back what it still keeps. A cookie of plain characters makes this way
unchanged: `SetCookie.read_of_write` is the way to the browser and `Cookie.read_sent` the way back.
-/
namespace Gatehouse
open Text

/-- A cookie in a browser, and when the browser drops it. -/
structure Kept where
  value : String
  ends : DateTime
  deriving DecidableEq, Repr

namespace SetCookie

/-- What stands before the date in the attribute that tells when a cookie ends. -/
def expiresLabel : List Char := " expires=".toList

def expires? (part : List Char) : Option DateTime :=
  (stripPrefix? expiresLabel part).bind DateTime.parseHeader?

/-- The cookie that a `Set-Cookie` header sets. -/
def read (header : String) : Option (String × Kept) :=
  match splitOn ';' header.toList with
  | [] => none
  | cookie :: attributes => do
    let (name, value) ← cutFirst '=' cookie
    let ends ← attributes.findSome? expires?
    some (String.ofList name, ⟨String.ofList value, ends⟩)

end SetCookie

/-- The cookies of a browser by name. -/
abbrev Jar := Table String Kept

namespace Jar

/-- The browser sets the cookies of the headers that it is sent. -/
def receive (jar : Jar) (headers : List String) : Jar :=
  (headers.filterMap SetCookie.read).foldl (fun jar p => jar.set p.1 p.2) jar

/-- The cookies that have not ended. -/
def live (jar : Jar) (now : DateTime) : List (String × String) :=
  (jar.filter fun p => now.instant < p.2.ends.instant).map fun p => (p.1, p.2.value)

/-- The `Cookie` header of a request, if a cookie is left. -/
def sent (jar : Jar) (now : DateTime) : List String :=
  match jar.live now with
  | [] => []
  | ps => [String.ofList (joinWith "; ".toList (ps.map fun p => p.1.toList ++ '=' :: p.2.toList))]

end Jar

namespace Cookie

theorem bounds_of_isPlain {c : Char} (h : isPlain c = true) : 33 ≤ c.toNat ∧ c.toNat < 127 := by
  have hmarks : ∀ x ∈ "!#$%&'*+-.^_`|~:".toList, 33 ≤ x.toNat ∧ x.toNat < 127 := by simp
  rw [isPlain, Bool.or_eq_true, List.contains_iff_mem] at h
  rcases h with h | h
  · have := bounds_of_isAlphanum h
    omega
  · exact hmarks c h

theorem isBlank_of_isPlain {c : Char} (h : isPlain c = true) : isBlank c = false := by
  have hb := bounds_of_isPlain h
  simp only [isBlank, Ranges.contains, blankRanges, List.any_cons, List.any_nil]
  simp
  omega

/-- A text that a cookie can hold without quotes. -/
structure PlainText (s : String) : Prop where
  ne_empty : s.toList ≠ []
  plain : ∀ c ∈ s.toList, isPlain c = true

namespace PlainText
variable {s : String} {c : Char}

theorem not_mem (h : PlainText s) (hc : isPlain c = false) : c ∉ s.toList := by
  intro hmem
  rw [h.plain c hmem] at hc
  cases hc

theorem ascii (h : PlainText s) (c : Char) (hc : c ∈ s.toList) : c.toNat < 0x80 := by
  have := bounds_of_isPlain (h.plain c hc)
  omega

theorem trim (h : PlainText s) : trim isBlank s.toList = s.toList :=
  trim_of_ends fun c hc => isBlank_of_isPlain (h.plain c hc)

theorem quoteValue (h : PlainText s) : quoteValue s.toList = s.toList := by
  have hne : s.toList.isEmpty = false := List.isEmpty_eq_false_iff.2 h.ne_empty
  have hall : s.toList.all isPlain = true := List.all_eq_true.2 h.plain
  rw [Cookie.quoteValue, hne, hall]
  rfl

theorem unquote (h : PlainText s) : unquote s.toList = s.toList := by
  have hquote := h.not_mem (c := '"') (by decide)
  unfold Cookie.unquote
  split
  · next r hr =>
    rw [hr] at hquote
    exact absurd (List.mem_cons_self ..) hquote
  · rfl

end PlainText

theorem plainText_of_validName {name : String} (h : validName name = true) : PlainText name := by
  simp only [validName, Bool.and_eq_true, Bool.not_eq_true', List.all_eq_true] at h
  obtain ⟨⟨hne, hall⟩, -⟩ := h
  refine ⟨?_, hall⟩
  intro hempty
  obtain rfl : name = "" := String.toList_eq_nil_iff.1 hempty
  exact absurd hne (by decide)

theorem isPlain_digit {n : Nat} (h : n < 64) : isPlain (Base64Url.digit n) = true := by
  interval_cases n <;> decide

/-- A signed token goes into a cookie as it is. -/
theorem plainText_of_sign [Platform] {s : Signer} {c : Claims} {t : String} (h : s.sign c = .ok t) :
    PlainText t := by
  constructor
  · obtain ⟨payload, -, hsigned⟩ := bind_eq_ok.1 h
    obtain ⟨sig, -, rfl⟩ := Signer.write_of_signPayload hsigned
    simp [Compact.write]
  · intro c hc
    obtain rfl | ⟨n, hn, rfl⟩ := Signer.exists_digit_of_mem_sign h hc
    · decide
    · exact isPlain_digit hn

/-! ### To the browser -/

section
variable {name value header : String} {e : DateTime} {secure : Bool}

/-- The end of a `Set-Cookie` header. -/
def closing (secure : Bool) : List Char :=
  "; HttpOnly; Path=/; SameSite=strict".toList ++ (if secure then "; Secure".toList else [])

/-- A `Set-Cookie` header with a value that needs no quotes and an end on the clock of UTC. -/
def line (name value : String) (e : DateTime) (secure : Bool) : List Char :=
  name.toList ++ '=' :: (value.toList ++ "; expires=".toList ++ e.headerText ++ closing secure)

theorem ascii_of_mem_closing {c : Char} (h : c ∈ closing secure) : c.toNat < 0x80 := by
  have hall : (closing secure).all (fun x => x.toNat < 0x80) = true := by
    cases secure <;> decide +kernel
  simpa using List.all_eq_true.1 hall c h

theorem ascii_of_mem_line (hname : PlainText name) (hvalue : ∀ c ∈ value.toList, c.toNat < 0x80)
    {c : Char} (h : c ∈ line name value e secure) : c.toNat < 0x80 := by
  have hexpires : ∀ x ∈ "; expires=".toList, x.toNat < 0x80 := by simp
  simp only [line, List.mem_append, List.mem_cons] at h
  rcases h with h | rfl | ((h | h) | h) | h
  · exact hname.ascii c h
  · decide
  · exact hvalue c h
  · exact hexpires c h
  · exact (DateTime.ascii_of_mem_headerText h).1
  · exact ascii_of_mem_closing h

/-- A cookie is written with the value as it is quoted, if the name is one and the end is a time of
UTC. -/
theorem write_eq_ok (hvalue : ∀ c ∈ quoteValue value.toList, c.toNat < 0x80) :
    write name value e secure = .ok header ↔
      DateTime.inRange e.instant = true ∧ validName name = true ∧ header =
        String.ofList (line name (String.ofList (quoteValue value.toList)) ⟨e.instant, some 0⟩
          secure) := by
  obtain ⟨written, hwritten⟩ : ∃ written, String.ofList (quoteValue value.toList) = written :=
    ⟨_, rfl⟩
  have hquoted : quoteValue value.toList = written.toList := by
    rw [← hwritten, String.toList_ofList]
  rw [hquoted] at hvalue
  rw [hwritten]
  have hline (u : DateTime) : name.toList ++ '=' :: (quoteValue value.toList ++
      "; expires=".toList ++ u.headerText ++ "; HttpOnly; Path=/; SameSite=strict".toList ++
      (if secure then "; Secure".toList else [])) = line name written u secure := by
    rw [hquoted, List.append_assoc (_ ++ _ ++ _)]
    rfl
  have hascii (hname : validName name = true) (u : DateTime) :
      (line name written u secure).all (fun c => c.toNat < 256) = true := by
    rw [List.all_eq_true]
    intro c hc
    have hlt := ascii_of_mem_line (plainText_of_validName hname) hvalue hc
    exact decide_eq_true (by omega)
  unfold write
  simp only [bind_eq_ok, DateTime.toUtc_eq_ok]
  constructor
  · rintro ⟨u, ⟨hrange, rfl⟩, h⟩
    split at h
    · cases h
    · next hname =>
      have hvalid : validName name = true := by simpa using hname
      rw [hline, if_pos (hascii hvalid _)] at h
      exact ⟨hrange, hvalid, (Except.ok.inj h).symm⟩
  · rintro ⟨hrange, hvalid, rfl⟩
    refine ⟨_, ⟨hrange, rfl⟩, ?_⟩
    rw [if_neg (by simp [hvalid]), hline, if_pos (hascii hvalid _)]

/-- A plain value is written as it is. -/
theorem write_of_plainText (hvalue : PlainText value) :
    write name value e secure = .ok header ↔
      DateTime.inRange e.instant = true ∧ validName name = true ∧
      header = String.ofList (line name value ⟨e.instant, some 0⟩ secure) := by
  have hquoted := hvalue.quoteValue
  rw [write_eq_ok (by rw [hquoted]; exact hvalue.ascii), hquoted, String.ofList_toList]

theorem exists_write (hvalue : PlainText value) (hname : validName name = true)
    (hrange : DateTime.inRange e.instant = true) (secure : Bool) :
    ∃ header, write name value e secure = .ok header :=
  ⟨_, (write_of_plainText hvalue).2 ⟨hrange, hname, rfl⟩⟩

/-- The browser reads the name and the written value, with the end to the second. -/
theorem read_line (hname : PlainText name) (hvalue : ';' ∉ value.toList)
    (hrange : DateTime.inRange e.instant = true) (secure : Bool) :
    SetCookie.read (String.ofList (line name value ⟨e.instant, some 0⟩ secure)) =
      some (name, ⟨value, ⟨e.instant / second * second, some 0⟩⟩) := by
  generalize hu : (⟨e.instant, some 0⟩ : DateTime) = u
  have hdate : DateTime.parseHeader? u.headerText = some ⟨e.instant / second * second, some 0⟩ := by
    subst hu
    exact DateTime.parseHeader?_headerText hrange
  have hcookie : ';' ∉ name.toList ++ '=' :: value.toList := by
    simp only [List.mem_append, List.mem_cons, not_or]
    exact ⟨hname.not_mem (by decide), by decide, hvalue⟩
  have hexpires : ';' ∉ SetCookie.expiresLabel ++ u.headerText := by
    simp only [List.mem_append, not_or]
    exact ⟨by decide, fun hmem => (DateTime.ascii_of_mem_headerText hmem).2 rfl⟩
  obtain ⟨rest, hrest⟩ : ∃ rest, closing secure = ';' :: rest := ⟨_, rfl⟩
  have hline : line name value u secure = (name.toList ++ '=' :: value.toList) ++
      ';' :: ((SetCookie.expiresLabel ++ u.headerText) ++ ';' :: rest) := by
    have hlabel : "; expires=".toList = ';' :: SetCookie.expiresLabel := by decide
    rw [line, hrest, hlabel]
    simp only [List.append_assoc, List.cons_append]
  have hcut : cutFirst '=' (name.toList ++ '=' :: value.toList) =
      some (name.toList, value.toList) :=
    cutFirst_append (hname.not_mem (by decide))
  have hend : SetCookie.expires? (SetCookie.expiresLabel ++ u.headerText) =
      some ⟨e.instant / second * second, some 0⟩ := by
    rw [SetCookie.expires?, stripPrefix?_append, Option.bind_some, hdate]
  rw [SetCookie.read, String.toList_ofList, hline, splitOn_append hcookie, splitOn_append hexpires]
  simp only [hcut, List.findSome?_cons, hend, Option.bind_eq_bind, Option.bind_some,
    String.ofList_toList]

/-- The browser reads back what was written, with the end to the second. -/
theorem read_of_write (hvalue : PlainText value) (h : write name value e secure = .ok header) :
    SetCookie.read header = some (name, ⟨value, ⟨e.instant / second * second, some 0⟩⟩) := by
  obtain ⟨hrange, hvalid, rfl⟩ := (write_of_plainText hvalue).1 h
  exact read_line (plainText_of_validName hvalid) (hvalue.not_mem (by decide)) hrange secure

/-- An empty value reaches the browser as two quotes. -/
theorem read_of_write_empty (h : write name "" e secure = .ok header) :
    SetCookie.read header = some (name, ⟨"\"\"", ⟨e.instant / second * second, some 0⟩⟩) := by
  obtain ⟨hrange, hvalid, rfl⟩ := (write_eq_ok (by simp [quoteValue])).1 h
  exact read_line (plainText_of_validName hvalid) (by decide) hrange secure

end

/-! ### From the browser -/

section
variable {name value : String}

/-- A name and a value as a part of a `Cookie` header. -/
def part (p : String × String) : List Char := p.1.toList ++ '=' :: p.2.toList

theorem pair_part {p : String × String} (hname : PlainText p.1) (hvalue : PlainText p.2) :
    pair (part p) = some p ∧ pair (' ' :: part p) = some p := by
  have hequals : '=' ∉ p.1.toList := hname.not_mem (by decide)
  have hspaced : '=' ∉ ' ' :: p.1.toList := by simpa using hequals
  have hcut : cutFirst '=' (part p) = some (p.1.toList, p.2.toList) := cutFirst_append hequals
  have hcut' : cutFirst '=' (' ' :: part p) = some (' ' :: p.1.toList, p.2.toList) :=
    cutFirst_append hspaced
  have htrim : trim isBlank (' ' :: p.1.toList) = trim isBlank p.1.toList := rfl
  have hne : p.1.toList.isEmpty = false := List.isEmpty_eq_false_iff.2 hname.ne_empty
  constructor
  · simp only [pair, hcut, Option.getD_some, hname.trim, hvalue.trim, hne, Bool.false_and,
      Bool.false_eq_true, if_false, hvalue.unquote, String.ofList_toList]
  · simp only [pair, hcut', htrim, Option.getD_some, hname.trim, hvalue.trim, hne, Bool.false_and,
      Bool.false_eq_true, if_false, hvalue.unquote, String.ofList_toList]

/-- A `Cookie` header falls apart at its semicolons, each but the first with a space after it. -/
theorem splitOn_joinWith_space {p : List Char} {ps : List (List Char)} (hp : ';' ∉ p)
    (hps : ∀ q ∈ ps, ';' ∉ q) :
    splitOn ';' (joinWith [';', ' '] (p :: ps)) = p :: ps.map (' ' :: ·) := by
  induction ps generalizing p with
  | nil => exact splitOn_of_not_mem hp
  | cons q qs ih =>
    have hq : ';' ∉ ' ' :: q := by simpa using hps q (by simp)
    have hmove : ' ' :: joinWith [';', ' '] (q :: qs) = joinWith [';', ' '] ((' ' :: q) :: qs) := by
      cases qs <;> rfl
    have hrest := ih hq fun x hx => hps x (List.mem_cons_of_mem q hx)
    rw [joinWith_cons (by simp), List.append_assoc, List.cons_append, List.singleton_append,
      splitOn_append hp, hmove, hrest, List.map_cons]

theorem filterMap_pair {ps : List (String × String)}
    (h : ∀ p ∈ ps, PlainText p.1 ∧ PlainText p.2) :
    (ps.map fun p => ' ' :: part p).filterMap pair = ps := by
  induction ps with
  | nil => rfl
  | cons p ps ih =>
    have hp := h p (by simp)
    have hps := ih fun q hq => h q (List.mem_cons_of_mem p hq)
    rw [List.map_cons, List.filterMap_cons_some (pair_part hp.1 hp.2).2, hps]

theorem readAll_joined {ps : List (String × String)} (hne : ps ≠ [])
    (h : ∀ p ∈ ps, PlainText p.1 ∧ PlainText p.2) :
    readAll [String.ofList (joinWith [';', ' '] (ps.map part))] = ps.reverse := by
  have hpart : ∀ p ∈ ps, ';' ∉ part p := by
    intro p hp
    simp only [part, List.mem_append, List.mem_cons, not_or]
    exact ⟨(h p hp).1.not_mem (by decide), by decide, (h p hp).2.not_mem (by decide)⟩
  obtain ⟨p, r, rfl⟩ := List.exists_cons_of_ne_nil hne
  have hfirst := (pair_part (h p (by simp)).1 (h p (by simp)).2).1
  have hsplit : splitOn ';' (joinWith [';', ' '] (part p :: r.map part)) =
      part p :: (r.map part).map (' ' :: ·) := by
    apply splitOn_joinWith_space (hpart p (by simp))
    intro cs hcs
    obtain ⟨q, hq, rfl⟩ := List.mem_map.1 hcs
    exact hpart q (List.mem_cons_of_mem p hq)
  have hothers := filterMap_pair fun q hq => h q (List.mem_cons_of_mem p hq)
  rw [readAll, List.flatMap_singleton, String.toList_ofList, List.map_cons, hsplit,
    List.filterMap_cons_some hfirst, List.map_map]
  exact congrArg (fun r => (p :: r).reverse) hothers

/-- A cookie that the browser still keeps is read from the request with its value. -/
theorem read_sent {jar : Jar} {now : DateTime} {kept : Kept}
    (hplain : ∀ p ∈ jar, PlainText p.1 ∧ PlainText p.2.value) (hnames : (jar.map (·.1)).Nodup)
    (hkept : (name, kept) ∈ jar) (hlive : now.instant < kept.ends.instant) :
    read (jar.sent now) name = some kept.value := by
  have hmem : (name, kept.value) ∈ jar.live now := by
    simp only [Jar.live, List.mem_map, List.mem_filter, decide_eq_true_eq]
    exact ⟨(name, kept), ⟨hkept, hlive⟩, rfl⟩
  have hall : ∀ p ∈ jar.live now, PlainText p.1 ∧ PlainText p.2 := by
    intro p hp
    simp only [Jar.live, List.mem_map, List.mem_filter] at hp
    obtain ⟨q, ⟨hq, -⟩, rfl⟩ := hp
    exact hplain q hq
  have hdistinct : ((jar.live now).map (·.1)).Nodup := by
    rw [Jar.live, List.map_map]
    exact hnames.sublist (List.filter_sublist.map _)
  have hsent : jar.sent now =
      [String.ofList (joinWith [';', ' '] ((jar.live now).map part))] := by
    unfold Jar.sent
    split
    · next hnil =>
      rw [hnil] at hmem
      cases hmem
    · rfl
  rw [read, hsent, readAll_joined (List.ne_nil_of_mem hmem) hall]
  obtain ⟨later, earlier, hlist⟩ := List.append_of_mem (List.mem_reverse.2 hmem)
  have hkeys := List.nodup_reverse.2 hdistinct
  rw [← List.map_reverse, hlist, List.map_append, List.map_cons] at hkeys
  have hother : ∀ p ∈ later, p.1 ≠ name := by
    intro p hp
    exact (List.nodup_append.1 hkeys).2.2 p.1 (List.mem_map_of_mem hp) name (by simp)
  rw [List.lookup_eq_some_iff]
  refine ⟨later, earlier, hlist, fun p hp => ?_⟩
  simpa using (hother p hp).symm

end

end Cookie
end Gatehouse
