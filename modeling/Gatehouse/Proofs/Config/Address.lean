import Gatehouse.Config.Sections
import Gatehouse.Proofs.Text.Numeral
import Gatehouse.Proofs.Text.PercentEncoding
import Gatehouse.Proofs.Token.Compact
import Mathlib.Data.Bool.AllAny
import Mathlib.Data.List.TakeWhile

/-!
What a connection string says. `Address.read?` takes it apart by the general rules for addresses;
the configured address comes back exactly if no text of it holds a character that ends the part
where it stands, nor the user or the password an escape. Reading does not make a text longer, so
what lost a part to another place cannot have it back.
-/
namespace Gatehouse
open Text

/-- Where a store is, and who opens it. -/
structure Address where
  user : String
  password : String
  host : String
  port : Int
  database : String
  deriving DecidableEq

def StoreConfig.address (c : StoreConfig) : Address :=
  { c with user := "" }

def DatabaseConfig.address (c : DatabaseConfig) : Address :=
  { c with }

namespace Address

/-! ### The general rules -/

/-- The number that decimal digits write. -/
def natural? (cs : List Char) : Option Nat :=
  if cs ≠ [] ∧ cs.all Char.isDigit then some (Nat.ofDigitChars 10 cs 0) else none

def integer? : List Char → Option Int
  | '-' :: r => (natural? r).map fun n : Nat => -(n : Int)
  | r => (natural? r).map fun n : Nat => (n : Int)

def inAuthority (c : Char) : Bool := c != '/' && c != '?' && c != '#'

/-- The authority goes on up to a slash, a question mark or a number sign. -/
def authorityOf (rest : List Char) : List Char := rest.takeWhile inAuthority

/-- User information and place, which the last at sign of the authority separates. -/
def sides (authority : List Char) : List Char × List Char :=
  (cutLast '@' authority).getD ([], authority)

/-- User and password, which the first colon of the user information separates. -/
def credentials (authority : List Char) : List Char × List Char :=
  (cutFirst ':' (sides authority).1).getD ((sides authority).1, [])

/-- The database is the path without its slash, up to a query or a fragment. -/
def databaseOf : List Char → List Char
  | '/' :: r => r.takeWhile fun c => c != '?' && c != '#'
  | _ => []

/-- What a text with a scheme and an authority says. -/
def read? (text : List Char) : Option Address := do
  let (_, rest) ← cutFirst ':' text
  let rest ← stripPrefix? "//".toList rest
  let authority := authorityOf rest
  let (host, port) ← cutLast ':' (sides authority).2
  let port ← integer? port
  some {
    user := .ofList (Percent.decode (credentials authority).1)
    password := .ofList (Percent.decode (credentials authority).2)
    host := .ofList host
    port := port
    database := .ofList (databaseOf (rest.dropWhile inAuthority)) }

/-- A host name holds no character that is a mark around it. -/
def HostName (host : String) : Prop := ∀ c ∈ host.toList, inAuthority c = true ∧ c ≠ '@'

/-- No text of the address holds a character that ends the part where it stands, nor do the user
and the password hold an escape. -/
structure Plain (a : Address) : Prop where
  user : ∀ c ∈ a.user.toList, inAuthority c = true ∧ c ≠ ':'
  password : ∀ c ∈ a.password.toList, inAuthority c = true
  user_escape : ¬ Percent.HoldsEscape a.user.toList
  password_escape : ¬ Percent.HoldsEscape a.password.toList
  database : ∀ c ∈ a.database.toList, c ≠ '?' ∧ c ≠ '#'

/-- No text of the address holds a mark that could be taken for the end of a part or for an
escape. -/
def looksPlain (a : Address) : Bool :=
  (a.user.toList.all fun c => inAuthority c && c != ':' && c != '%') &&
    (a.password.toList.all fun c => inAuthority c && c != '%') &&
    a.database.toList.all fun c => c != '?' && c != '#'

theorem plain_of_looksPlain {a : Address} (h : a.looksPlain = true) : a.Plain := by
  simp only [looksPlain, Bool.and_eq_true, List.all_eq_true, bne_iff_ne] at h
  obtain ⟨⟨huser, hpassword⟩, hdatabase⟩ := h
  constructor
  · exact fun c hc => (huser c hc).1
  · exact fun c hc => (hpassword c hc).1
  · exact Percent.not_holdsEscape_of_not_mem fun hmem => (huser '%' hmem).2 rfl
  · exact Percent.not_holdsEscape_of_not_mem fun hmem => (hpassword '%' hmem).2 rfl
  · exact hdatabase

/-! ### The texts of an address -/

def authorityText (a : Address) : List Char :=
  a.user.toList ++ ':' :: a.password.toList ++ '@' :: a.host.toList ++
    ':' :: Json.integerChars a.port

/-- The text of an address with its parts as they are. -/
def text (scheme : List Char) (a : Address) : List Char :=
  scheme ++ ':' :: ("//".toList ++ (a.authorityText ++ '/' :: a.database.toList))

theorem toList_toString_int (i : Int) : (toString i).toList = Json.integerChars i := by
  cases i with
  | ofNat n =>
    show (Nat.repr n).toList = _
    simp [Json.integerChars, Nat.repr]
  | negSucc n =>
    show ("-" ++ Nat.repr (n + 1)).toList = _
    simp [Json.integerChars, Nat.repr]

theorem toList_storeDsn (c : StoreConfig) : c.dsn.toList = c.address.text "redis".toList := by
  have hdsn : c.dsn.toList = "redis://:".toList ++ c.password.toList ++ "@".toList ++
      c.host.toList ++ ":".toList ++ (toString c.port).toList ++ "/".toList ++
      c.database.toList := by
    simp only [← String.toList_append]
    rfl
  have hscheme : "redis://:".toList =
      "redis".toList ++ ':' :: ("//".toList ++ ("".toList ++ [':'])) := rfl
  rw [hdsn, toList_toString_int, hscheme]
  simp only [text, authorityText, List.append_assoc, List.cons_append]
  rfl

theorem toList_databaseDsn (c : DatabaseConfig) :
    c.dsn.toList = c.address.text "postgresql+asyncpg".toList := by
  have hdsn : c.dsn.toList = "postgresql+asyncpg://".toList ++ c.user.toList ++ ":".toList ++
      c.password.toList ++ "@".toList ++ c.host.toList ++ ":".toList ++ (toString c.port).toList ++
      "/".toList ++ c.database.toList := by
    simp only [← String.toList_append]
    rfl
  have hscheme : "postgresql+asyncpg://".toList =
      "postgresql+asyncpg".toList ++ ':' :: "//".toList := rfl
  rw [hdsn, toList_toString_int, hscheme]
  simp only [text, authorityText, List.append_assoc, List.cons_append]
  rfl

variable {cs rest : List Char} {a b : Address} {scheme : List Char}

theorem natural?_toDigits (n : Nat) : natural? (Nat.toDigits 10 n) = some n := by
  have hall : (Nat.toDigits 10 n).all Char.isDigit = true :=
    List.all_eq_true.2 fun c hc => Nat.isDigit_of_mem_toDigits (by decide) (by decide) hc
  rw [natural?, if_pos ⟨Nat.toDigits_ne_nil, hall⟩, Nat.ofDigitChars_ten_toDigits]

theorem integer?_integerChars (i : Int) : integer? (Json.integerChars i) = some i := by
  unfold Json.integerChars
  split
  · rw [integer?, natural?_toDigits, Option.map_some]
    congr 1
    omega
  · have hnot (r : List Char) : Nat.toDigits 10 i.natAbs ≠ '-' :: r := by
      intro hcut
      have hdigit : IsDigit '-' := isDigit_of_mem_toDigits (hcut ▸ List.mem_cons_self)
      exact absurd hdigit.bounds.1 (by decide)
    unfold integer?
    split
    · next hcut => exact absurd hcut (hnot _)
    · rw [natural?_toDigits, Option.map_some]
      congr 1
      omega

theorem inAuthority_of_mem_integerChars {i : Int} {c : Char} (h : c ∈ Json.integerChars i) :
    inAuthority c = true ∧ c ≠ '@' ∧ c ≠ ':' := by
  have hdigit {c : Char} (hc : IsDigit c) : inAuthority c = true ∧ c ≠ '@' ∧ c ≠ ':' := by
    have hb := hc.bounds
    refine ⟨?_, ?_, ?_⟩
    · have hne {d : Char} (hd : ¬ (48 ≤ d.toNat ∧ d.toNat ≤ 57)) : c ≠ d := by
        rintro rfl
        exact hd hb
      simp [inAuthority, hne (show ¬ (48 ≤ '/'.toNat ∧ '/'.toNat ≤ 57) by decide),
        hne (show ¬ (48 ≤ '?'.toNat ∧ '?'.toNat ≤ 57) by decide),
        hne (show ¬ (48 ≤ '#'.toNat ∧ '#'.toNat ≤ 57) by decide)]
    · rintro rfl
      exact absurd hb (by decide)
    · rintro rfl
      exact absurd hb (by decide)
  unfold Json.integerChars at h
  split at h
  · rcases List.mem_cons.1 h with rfl | h
    · decide
    · exact hdigit (isDigit_of_mem_toDigits h)
  · exact hdigit (isDigit_of_mem_toDigits h)

/-! ### What is read back -/

/-- An authority ends before a mark. -/
theorem length_authorityOf_lt {c : Char} (hc : c ∈ cs) (hmark : inAuthority c = false) :
    (authorityOf (cs ++ rest)).length < cs.length := by
  unfold authorityOf
  induction cs with
  | nil => cases hc
  | cons d r ih =>
    rw [List.cons_append, List.takeWhile_cons]
    split
    · next hd =>
      have hr : c ∈ r := by
        rcases List.mem_cons.1 hc with rfl | hr
        · rw [hd] at hmark
          cases hmark
        · exact hr
      exact Nat.succ_lt_succ (ih hr)
    · exact Nat.succ_pos _

theorem sides_authorityText (hhost : HostName a.host) : sides a.authorityText =
    (a.user.toList ++ ':' :: a.password.toList,
      a.host.toList ++ ':' :: Json.integerChars a.port) := by
  have hat : '@' ∉ a.host.toList ++ ':' :: Json.integerChars a.port := by
    rw [List.mem_append, List.mem_cons, not_or, not_or]
    exact ⟨fun hmem => (hhost _ hmem).2 rfl, by decide,
      fun hmem => (inAuthority_of_mem_integerChars hmem).2.1 rfl⟩
  have hcut : a.authorityText = a.user.toList ++ ':' :: a.password.toList ++
      '@' :: (a.host.toList ++ ':' :: Json.integerChars a.port) := by
    simp [authorityText]
  rw [sides, hcut, cutLast_append hat, Option.getD_some]

theorem length_sides_le (cs : List Char) : (sides cs).1.length ≤ cs.length := by
  unfold sides
  cases hcut : cutLast '@' cs with
  | none => exact Nat.zero_le _
  | some parts =>
    have hlength := congrArg List.length (eq_append_of_cutLast hcut).1
    rw [List.length_append] at hlength
    rw [Option.getD_some]
    omega

/-- A user and a password take up no more than the authority, with the colon if there is a
password. -/
theorem length_credentials (cs : List Char) :
    (credentials cs).1.length ≤ cs.length ∧ ((credentials cs).2 = [] ∨
      (credentials cs).1.length + 1 + (credentials cs).2.length ≤ cs.length) := by
  have hinfo := length_sides_le cs
  unfold credentials
  cases hcut : cutFirst ':' (sides cs).1 with
  | none => exact ⟨hinfo, .inl rfl⟩
  | some parts =>
    have hlength := congrArg List.length (eq_append_of_cutFirst hcut).1
    rw [List.length_append, List.length_cons] at hlength
    rw [Option.getD_some]
    exact ⟨by omega, .inr (by omega)⟩

theorem credentials_of_read? (hscheme : ':' ∉ scheme) (h : read? (a.text scheme) = some b) :
    b.user.toList = Percent.decode
      (credentials (authorityOf (a.authorityText ++ '/' :: a.database.toList))).1 ∧
    b.password.toList = Percent.decode
      (credentials (authorityOf (a.authorityText ++ '/' :: a.database.toList))).2 := by
  rw [read?, text, cutFirst_append hscheme] at h
  simp only [Option.bind_eq_bind, Option.bind_some, stripPrefix?_append] at h
  obtain ⟨⟨host, port⟩, -, h⟩ := Option.bind_eq_some_iff.1 h
  obtain ⟨port, -, h⟩ := Option.bind_eq_some_iff.1 h
  rw [← Option.some.inj h]
  simp

/-- Without marks in the user and the password, every part is read where it was written. -/
theorem read?_text_of_marks (hscheme : ':' ∉ scheme) (hhost : HostName a.host)
    (huser : ∀ c ∈ a.user.toList, inAuthority c = true)
    (hpassword : ∀ c ∈ a.password.toList, inAuthority c = true) :
    read? (a.text scheme) = some {
      user := .ofList (Percent.decode (credentials a.authorityText).1)
      password := .ofList (Percent.decode (credentials a.authorityText).2)
      host := a.host
      port := a.port
      database := .ofList (databaseOf ('/' :: a.database.toList)) } := by
  have hall : ∀ c ∈ a.authorityText, inAuthority c = true := by
    intro c hc
    simp only [authorityText, List.mem_append, List.mem_cons] at hc
    rcases hc with ((hc | rfl | hc) | rfl | hc) | rfl | hc
    · exact huser c hc
    · decide
    · exact hpassword c hc
    · decide
    · exact (hhost c hc).1
    · decide
    · exact (inAuthority_of_mem_integerChars hc).1
  have hcolon : ':' ∉ Json.integerChars a.port :=
    fun hmem => (inAuthority_of_mem_integerChars hmem).2.2 rfl
  have hslash : ¬ inAuthority '/' = true := by decide
  rw [read?, text, cutFirst_append hscheme]
  simp only [Option.bind_eq_bind, Option.bind_some, stripPrefix?_append, authorityOf,
    List.takeWhile_append_of_pos hall, List.dropWhile_append_of_pos hall,
    List.takeWhile_cons_of_neg hslash, List.dropWhile_cons_of_neg hslash, List.append_nil,
    sides_authorityText hhost, cutLast_append hcolon, integer?_integerChars,
    String.ofList_toList]

/-- An authority that ends within the user or the password is too short to hold both. -/
theorem inAuthority_of_read? (hscheme : ':' ∉ scheme) (h : read? (a.text scheme) = some a) :
    (∀ c ∈ a.user.toList, inAuthority c = true) ∧
      ∀ c ∈ a.password.toList, inAuthority c = true := by
  obtain ⟨huser, hpassword⟩ := credentials_of_read? hscheme h
  generalize hauthority : authorityOf (a.authorityText ++ '/' :: a.database.toList) = authority
    at huser hpassword
  have hshort (pre post : List Char) {c : Char}
      (hcut : a.authorityText ++ '/' :: a.database.toList = pre ++ post) (hc : c ∈ pre)
      (hmark : ¬ inAuthority c = true) : authority.length < pre.length := by
    rw [← hauthority, hcut]
    exact length_authorityOf_lt hc (by simpa using hmark)
  have hlength := (congrArg List.length huser).le.trans (Percent.length_decode_le _)
  have hlength' := (congrArg List.length hpassword).le.trans (Percent.length_decode_le _)
  obtain ⟨hle, hboth⟩ := length_credentials authority
  constructor
  · intro c hc
    by_contra hmark
    have hcut := hshort a.user.toList _ (by simp [authorityText]; rfl) hc hmark
    omega
  · intro c hc
    by_contra hmark
    have hsome : 0 < a.password.toList.length := List.length_pos_of_mem hc
    have hcut := hshort (a.user.toList ++ ':' :: a.password.toList) _
      (by simp [authorityText]; rfl) (by simp [hc]) hmark
    rw [List.length_append, List.length_cons] at hcut
    rcases hboth with hnil | hboth
    · rw [hnil, List.length_nil] at hlength'
      omega
    · omega

theorem colon_not_mem_user (hhost : HostName a.host)
    (huser : a.user.toList = Percent.decode (credentials a.authorityText).1) :
    ':' ∉ a.user.toList := by
  intro hmem
  obtain ⟨name, more, hname, hcolon⟩ := List.eq_append_cons_of_mem hmem
  have hlength := (congrArg List.length huser).le.trans (Percent.length_decode_le _)
  rw [credentials, sides_authorityText hhost, hname, List.append_assoc, List.cons_append,
    cutFirst_append hcolon] at hlength
  simp at hlength

/-- An address is read back exactly if its texts are plain: reading does not lengthen a user or a
password that lost a part. -/
theorem read?_text_iff (hscheme : ':' ∉ scheme) (hhost : HostName a.host) :
    read? (a.text scheme) = some a ↔ a.Plain := by
  constructor
  · intro h
    obtain ⟨hmarks, hmarks'⟩ := inAuthority_of_read? hscheme h
    rw [read?_text_of_marks hscheme hhost hmarks hmarks', Option.some.injEq] at h
    have huser := congrArg (fun b : Address => b.user.toList) h
    have hpassword := congrArg (fun b : Address => b.password.toList) h
    have hdatabase := congrArg (fun b : Address => b.database.toList) h
    simp only [String.toList_ofList] at huser hpassword hdatabase
    have hcolon := colon_not_mem_user hhost huser.symm
    rw [credentials, sides_authorityText hhost, cutFirst_append hcolon] at huser hpassword
    rw [databaseOf, List.takeWhile_eq_self_iff] at hdatabase
    exact {
      user := fun c hc => ⟨hmarks c hc, fun he => hcolon (he ▸ hc)⟩
      password := hmarks'
      user_escape := Percent.decode_eq_self_iff.1 huser
      password_escape := Percent.decode_eq_self_iff.1 hpassword
      database := fun c hc => by simpa using hdatabase c hc }
  · intro h
    have hcolon : ':' ∉ a.user.toList := fun hmem => (h.user _ hmem).2 rfl
    have hdatabase : databaseOf ('/' :: a.database.toList) = a.database.toList := by
      rw [databaseOf, List.takeWhile_eq_self_iff]
      intro c hc
      simpa using h.database c hc
    rw [read?_text_of_marks hscheme hhost (fun c hc => (h.user c hc).1) h.password,
      credentials, sides_authorityText hhost, cutFirst_append hcolon, Option.getD_some, hdatabase]
    simp only [Percent.decode_eq_self h.user_escape, Percent.decode_eq_self h.password_escape,
      String.ofList_toList]

end Address

theorem read?_storeDsn_iff {c : StoreConfig} (hhost : Address.HostName c.host) :
    Address.read? c.dsn.toList = some c.address ↔ c.address.Plain := by
  rw [Address.toList_storeDsn]
  exact Address.read?_text_iff (by decide) hhost

theorem read?_databaseDsn_iff {c : DatabaseConfig} (hhost : Address.HostName c.host) :
    Address.read? c.dsn.toList = some c.address ↔ c.address.Plain := by
  rw [Address.toList_databaseDsn]
  exact Address.read?_text_iff (by decide) hhost

/-- A connection string gives the configuration back, for every host name and port, exactly if the
user holds no colon, slash, question mark, number sign or escape, the password no slash, question
mark, number sign or escape, and the database no question mark or number sign. So two such
configurations with one connection string name the same address. -/
theorem dsn_read_iff {c c' : StoreConfig} {d d' : DatabaseConfig}
    (hc : Address.HostName c.host) (hc' : Address.HostName c'.host)
    (hd : Address.HostName d.host) (hd' : Address.HostName d'.host) :
    (Address.read? c.dsn.toList = some c.address ↔ c.address.Plain) ∧
    (Address.read? d.dsn.toList = some d.address ↔ d.address.Plain) ∧
    (c.address.Plain → c'.address.Plain → c.dsn = c'.dsn → c.address = c'.address) ∧
    (d.address.Plain → d'.address.Plain → d.dsn = d'.dsn → d.address = d'.address) := by
  refine ⟨read?_storeDsn_iff hc, read?_databaseDsn_iff hd, fun hplain hplain' hsame => ?_,
    fun hplain hplain' hsame => ?_⟩
  · have hread := (read?_storeDsn_iff hc).2 hplain
    rw [hsame, (read?_storeDsn_iff hc').2 hplain'] at hread
    exact (Option.some.inj hread).symm
  · have hread := (read?_databaseDsn_iff hd).2 hplain
    rw [hsame, (read?_databaseDsn_iff hd').2 hplain'] at hread
    exact (Option.some.inj hread).symm

/-- A store whose password holds a colon and an at sign. -/
def StoreConfig.sample : StoreConfig :=
  { host := "localhost", port := 6379, password := "s3:cr@t", database := "0" }

def DatabaseConfig.sample : DatabaseConfig :=
  { echo := false, user := "gate@keeper", password := "s3:cr@t", host := "localhost", port := 5432,
    database := "authcore" }

theorem Address.hostName_localhost : Address.HostName "localhost" :=
  List.all_iff_forall_prop.1 (by decide)

/-- Whether the database echoes its statements is no part of its address. -/
theorem dsn_read_iff_sample :
    Address.read? StoreConfig.sample.dsn.toList = some StoreConfig.sample.address ∧
    Address.read? DatabaseConfig.sample.dsn.toList = some DatabaseConfig.sample.address ∧
    DatabaseConfig.sample.address = { DatabaseConfig.sample with echo := true }.address := by
  have hstore : Address.HostName StoreConfig.sample.host := Address.hostName_localhost
  have hdatabase : Address.HostName DatabaseConfig.sample.host := Address.hostName_localhost
  have hechoing : Address.HostName { DatabaseConfig.sample with echo := true }.host := hdatabase
  obtain ⟨hreads, hreads', -, hsame⟩ := dsn_read_iff hstore hstore hdatabase hechoing
  have hplain : StoreConfig.sample.address.Plain := Address.plain_of_looksPlain (by decide)
  have hplain' : DatabaseConfig.sample.address.Plain := Address.plain_of_looksPlain (by decide)
  exact ⟨hreads.2 hplain, hreads'.2 hplain', hsame hplain' hplain' rfl⟩

/-- A slash in a password is not read back, and a password can hold what another configuration has
as its host, port and database. -/
theorem dsn_not_read :
    Address.HostName "localhost" ∧
    Address.read? (StoreConfig.mk "localhost" 6379 "p/w" "0").dsn.toList = none ∧
    (StoreConfig.mk "k" 2 "x@h:1/y" "z").dsn = (StoreConfig.mk "h" 1 "x" "y@k:2/z").dsn ∧
    (StoreConfig.mk "k" 2 "x@h:1/y" "z").address ≠
      (StoreConfig.mk "h" 1 "x" "y@k:2/z").address :=
  ⟨Address.hostName_localhost, by decide, by decide, by decide⟩

end Gatehouse
