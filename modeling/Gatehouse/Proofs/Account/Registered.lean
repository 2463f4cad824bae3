import Gatehouse.Account.Accounts
import Gatehouse.Proofs.Hash.Length
import Gatehouse.Proofs.Text.Numeral
import Mathlib.Data.List.Nodup

/-!
Registered accounts. A registration that succeeds adds one row behind the others, under a user name
and an id that no other row has, and one that fails adds none. So every account is found under both
from then on. Which rows fit and which ids new rows get is up to the database. A password fits the
digest that SHA-256 makes of it.
-/
namespace Gatehouse
open Text Hash

/-! ### Passwords by SHA-256 -/

namespace Password

/-- A password fits what is made of it, whatever salt went into that. -/
def Scheme.Takes (k : Scheme) (hash : String → Except Fault String) : Prop :=
  ∀ password digest, hash password = .ok digest → k.verify password digest = .ok true

/-- Bytes are written with the digits of hexadecimal, two for a byte. -/
theorem flatMap_hex_spec (bs : List UInt8) :
    (bs.flatMap fun b => hex 2 b.toNat).length = 2 * bs.length ∧
      ∀ c ∈ bs.flatMap fun b => hex 2 b.toNat, ∃ d < 16, c = Nat.digitChar d := by
  induction bs with
  | nil => simp
  | cons b bs ih =>
    obtain ⟨hlength, hdigits⟩ := ih
    rw [List.flatMap_cons, hex_two b.toNat_lt]
    refine ⟨by simp [hlength]; omega, ?_⟩
    intro c hc
    rcases List.mem_append.1 hc with hc | hc
    · have hb : b.toNat < 256 := b.toNat_lt
      rcases List.mem_pair.1 hc with rfl | rfl
      · exact ⟨_, by omega, rfl⟩
      · exact ⟨_, Nat.mod_lt _ (by decide), rfl⟩
    · exact hdigits c hc

theorem digest_spec (password : String) : (digest password).length = 64 ∧
    ∀ c ∈ (digest password).toList, ∃ d < 16, c = Nat.digitChar d := by
  obtain ⟨hlength, hdigits⟩ := flatMap_hex_spec (sha256 (Utf8.encode password.toList))
  rw [length_sha256] at hlength
  rw [digest, String.length_ofList, String.toList_ofList]
  exact ⟨hlength, hdigits⟩

theorem toLower_digitChar {d : Nat} (h : d < 16) : d.digitChar.toLower = d.digitChar := by
  interval_cases d <;> rfl

/-- A password fits the digest that is made of it. -/
theorem verify_hash {password stored : String} (h : hash password = .ok stored) :
    verify password stored = .ok true := by
  have hstored : digest password = stored := by
    unfold hash at h
    split at h
    · cases h
    · exact Except.ok.inj h
  obtain ⟨hlength, hdigits⟩ := digest_spec password
  rw [hstored] at hlength hdigits
  have hdigest : isDigest stored = true := by
    rw [isDigest, hlength, beq_self_eq_true, Bool.true_and, List.all_eq_true]
    intro c hc
    obtain ⟨d, hd, rfl⟩ := hdigits c hc
    rw [hexValue?_digitChar hd]
    rfl
  have hlower : ∀ c ∈ stored.toList, c.toLower = id c := by
    intro c hc
    obtain ⟨d, hd, rfl⟩ := hdigits c hc
    exact toLower_digitChar hd
  rw [verify, h]
  show (if isDigest stored then _ else _) = _
  rw [if_pos hdigest, List.map_congr_left hlower, List.map_id, String.ofList_toList,
    beq_self_eq_true]

theorem Scheme.takes_sha256 : Scheme.sha256.Takes Password.hash := fun _ _ h => verify_hash h

end Password

/-! ### Rows by a key -/

theorem find?_of_nodup {α κ : Type} [DecidableEq κ] (key : α → κ) {l : List α} {a : α}
    (hl : (l.map key).Nodup) (ha : a ∈ l) : l.find? (fun x => key x = key a) = some a := by
  cases h : l.find? (fun x => key x = key a) with
  | none => simpa using List.find?_eq_none.1 h a ha
  | some b =>
    have hkey : key b = key a := by simpa using List.find?_some h
    rw [List.inj_on_of_nodup_map hl (List.mem_of_find?_eq_some h) ha hkey]

namespace Directory

/-- A user with a new id comes behind the others. -/
theorem insert_of_forall_ne {u : User} {us : List User} (h : ∀ v ∈ us, v.id ≠ u.id) :
    insert u us = us ++ [u] := by
  induction us with
  | nil => rfl
  | cons v us ih =>
    rw [insert, if_neg (h v List.mem_cons_self), ih fun w hw => h w (List.mem_cons_of_mem v hw),
      List.cons_append]

theorem foldl_add_of_nodup {us known : List User} (h : ((known ++ us).map User.id).Nodup) :
    us.foldl add ⟨known, none⟩ = ⟨known ++ us, none⟩ := by
  induction us generalizing known with
  | nil => rw [List.append_nil, List.foldl_nil]
  | cons u us ih =>
    have hnew : ∀ v ∈ known, v.id ≠ u.id := by
      intro v hv hid
      rw [List.map_append, List.nodup_append] at h
      exact h.2.2 v.id (List.mem_map_of_mem hv) u.id (List.mem_map_of_mem List.mem_cons_self) hid
    have hadd : add ⟨known, none⟩ u = ⟨known ++ [u], none⟩ := by
      rw [add, insert_of_forall_ne hnew]
    rw [List.append_cons] at h
    rw [List.foldl_cons, hadd, ih h, ← List.append_cons]

theorem ofList_of_nodup {us : List User} (h : (us.map User.id).Nodup) : ofList us = ⟨us, none⟩ :=
  foldl_add_of_nodup h

end Directory

namespace Accounts

/-- One call of the registration. -/
structure Registration where
  username : String
  password : String
  role : Role
  nickname : String
  /-- How the digest of the password is made; each call may have a salt of its own. -/
  hash : String → Except Fault String

/-- The account that is made of a registration, an id and a digest. -/
def Registration.account (c : Registration) (id : Int) (digest : String) : Account :=
  ⟨id, c.username, if c.nickname = "" then c.username else c.nickname, c.role, true, digest⟩

/-- The call on a table: what it gives, and the table after it. -/
def Registration.on (c : Registration) (db : Database) (t : Accounts) :
    Except Fault Account × Accounts :=
  match t.register db c.hash c.username c.password c.role c.nickname with
  | .ok (a, t') => (.ok a, t')
  | .error f => (.error f, t)

/-- The table after some calls. -/
def after (t : Accounts) (db : Database) (calls : List Registration) : Accounts :=
  calls.foldl (fun t c => (c.on db t).2) t

/-- The database takes the row: its id can be used and is free, and its values fit their columns. -/
structure Admits (t : Accounts) (db : Database) (a : Account) : Prop where
  usable : db.checkId a.id = .ok ()
  fits : db.checkRow a = .ok ()
  free : ∀ b ∈ t.rows, b.id ≠ a.id

variable {t : Accounts} {db : Database} {c : Registration} {a : Account}

/-- What a registration under a new user name inserts. -/
theorem insert_of_new (hnew : ∀ b ∈ t.rows, b.username ≠ c.username) {digest : String}
    {t' : Accounts} :
    t.insert db ⟨.absent, .value c.username,
        .value (if c.nickname = "" then c.username else c.nickname), .value c.role, .value true,
        .value digest⟩ = .ok (a, t') ↔
      t.Admits db (c.account (db.newId t.rows) digest) ∧
        a = c.account (db.newId t.rows) digest ∧ t' = ⟨t.rows ++ [a]⟩ := by
  have hinsert : t.insert db ⟨.absent, .value c.username,
      .value (if c.nickname = "" then c.username else c.nickname), .value c.role, .value true,
      .value digest⟩ = (do
        db.checkId (db.newId t.rows)
        let a := c.account (db.newId t.rows) digest
        db.checkRow a
        if t.rows.any fun b => b.id = a.id || b.username = a.username then .error .integrity
        else .ok (a, ⟨t.rows ++ [a]⟩)) := rfl
  -- The user name was looked up, so that only the id can be in use.
  have hfree : ¬ (t.rows.any fun b => b.id = (c.account (db.newId t.rows) digest).id ||
      b.username = (c.account (db.newId t.rows) digest).username) = true ↔
      ∀ b ∈ t.rows, b.id ≠ (c.account (db.newId t.rows) digest).id := by
    rw [Bool.not_eq_true, List.any_eq_false]
    refine forall₂_congr fun b hb => ?_
    have hother : b.username ≠ (c.account (db.newId t.rows) digest).username := hnew b hb
    simp [hother]
  rw [hinsert]
  simp only [bind_eq_ok]
  constructor
  · rintro ⟨⟨⟩, hid, ⟨⟩, hrow, h⟩
    split at h
    · cases h
    · next hnone =>
      obtain ⟨rfl, rfl⟩ := Prod.mk.inj (Except.ok.inj h)
      exact ⟨⟨hid, hrow, hfree.1 hnone⟩, rfl, rfl⟩
  · rintro ⟨⟨hid, hrow, hnone⟩, rfl, rfl⟩
    exact ⟨(), hid, (), hrow, if_neg (hfree.2 hnone)⟩

/-- A registration succeeds exactly if its user name is new, its digest can be made and the database
takes the row; it adds this row. -/
theorem register_eq_ok {t' : Accounts} :
    t.register db c.hash c.username c.password c.role c.nickname = .ok (a, t') ↔
      (∀ b ∈ t.rows, b.username ≠ c.username) ∧ ∃ digest, c.hash c.password = .ok digest ∧
        t.Admits db (c.account (db.newId t.rows) digest) ∧
        a = c.account (db.newId t.rows) digest ∧ t' = ⟨t.rows ++ [a]⟩ := by
  have hfound : t.byUsername? c.username = none ↔ ∀ b ∈ t.rows, b.username ≠ c.username := by
    simp [byUsername?, List.find?_eq_none]
  rw [← hfound, register]
  cases hname : t.byUsername? c.username with
  | some b => simp
  | none => simp only [bind_eq_ok, insert_of_new (hfound.1 hname), true_and]

theorem on_eq_ok (h : (c.on db t).1 = .ok a) :
    (∀ b ∈ t.rows, b.username ≠ c.username) ∧ ∃ digest, c.hash c.password = .ok digest ∧
      t.Admits db (c.account (db.newId t.rows) digest) ∧
      a = c.account (db.newId t.rows) digest ∧ (c.on db t).2 = ⟨t.rows ++ [a]⟩ := by
  unfold Registration.on at h ⊢
  cases hr : t.register db c.hash c.username c.password c.role c.nickname with
  | error f =>
    rw [hr] at h
    cases h
  | ok p =>
    obtain ⟨b, t'⟩ := p
    rw [hr] at h
    obtain rfl := Except.ok.inj h
    exact register_eq_ok.1 hr

theorem exists_on : (∃ a, (c.on db t).1 = .ok a) ↔ (∀ b ∈ t.rows, b.username ≠ c.username) ∧
    ∃ digest, c.hash c.password = .ok digest ∧
      t.Admits db (c.account (db.newId t.rows) digest) := by
  constructor
  · rintro ⟨a, ha⟩
    obtain ⟨hnew, digest, hdigest, hadmits, -⟩ := on_eq_ok ha
    exact ⟨hnew, digest, hdigest, hadmits⟩
  · rintro ⟨hnew, digest, hdigest, hadmits⟩
    refine ⟨c.account (db.newId t.rows) digest, ?_⟩
    rw [Registration.on, register_eq_ok.2 ⟨hnew, digest, hdigest, hadmits, rfl, rfl⟩]

theorem on_of_error {f : Fault} (h : (c.on db t).1 = .error f) : (c.on db t).2 = t := by
  unfold Registration.on at h ⊢
  split at h
  · cases h
  · rfl

/-! ### Tables of registered accounts -/

/-- Each id and each user name stands for one account, and the ids can be used with the database. -/
structure Sound (t : Accounts) (db : Database) : Prop where
  ids : (t.rows.map (·.id)).Nodup
  usernames : (t.rows.map (·.username)).Nodup
  usable : ∀ a ∈ t.rows, db.checkId a.id = .ok ()

theorem sound_empty : empty.Sound db := ⟨List.nodup_nil, List.nodup_nil, by simp [empty]⟩

/-- A registration keeps the table sound. -/
theorem Sound.on (h : t.Sound db) (c : Registration) : (c.on db t).2.Sound db := by
  cases hout : (c.on db t).1 with
  | error f => rwa [on_of_error hout]
  | ok a =>
    obtain ⟨hnew, digest, -, hadmits, rfl, htable⟩ := on_eq_ok hout
    rw [htable]
    refine ⟨?_, ?_, ?_⟩
    · rw [List.map_append, List.nodup_append]
      refine ⟨h.ids, List.nodup_singleton _, ?_⟩
      simpa using hadmits.free
    · rw [List.map_append, List.nodup_append]
      refine ⟨h.usernames, List.nodup_singleton _, ?_⟩
      simpa [Registration.account] using hnew
    · intro b hb
      rcases List.mem_append.1 hb with hb | hb
      · exact h.usable b hb
      · rw [List.mem_singleton.1 hb]
        exact hadmits.usable

theorem Sound.after (h : t.Sound db) (calls : List Registration) : (t.after db calls).Sound db := by
  induction calls generalizing t with
  | nil => exact h
  | cons c calls ih => exact ih (h.on c)

/-- No call touches the rows that are there. -/
theorem rows_prefix_after (t : Accounts) (db : Database) (calls : List Registration) :
    t.rows <+: (t.after db calls).rows := by
  induction calls generalizing t with
  | nil => exact List.prefix_refl _
  | cons c calls ih =>
    refine List.IsPrefix.trans ?_ (ih (c.on db t).2)
    cases hout : (c.on db t).1 with
    | error f => simp [on_of_error hout]
    | ok a =>
      obtain ⟨-, digest, -, -, -, htable⟩ := on_eq_ok hout
      rw [htable]
      exact List.prefix_append _ _

/-! ### Look-ups -/

/-- Every look-up by the id of the account and by its user name gives the account. -/
structure Finds (t : Accounts) (db : Database) (a : Account) : Prop where
  byId : t.byId? a.id = some a
  byUsername : t.byUsername? a.username = some a
  find_id : t.find db [("id", .int a.id)] = .ok (some a)
  find_username : t.find db [("username", .text a.username)] = .ok (some a)
  userById : t.userById db a.id = .ok a.toUser
  userByUsername : t.toDirectory.byUsername a.username = .ok a.toUser

theorem filterM_ok {α : Type} (p : α → Bool) (l : List α) :
    l.filterM (fun a => (.ok (p a) : Except Fault Bool)) = .ok (l.filter p) := by
  have haux (l kept : List α) : l.filterAuxM (fun a => (.ok (p a) : Except Fault Bool)) kept =
      .ok ((l.filter p).reverse ++ kept) := by
    induction l generalizing kept with
    | nil => rfl
    | cons a l ih =>
      rw [List.filterAuxM]
      cases hp : p a <;> simp [hp, ih, bind, Except.bind]
  simp [List.filterM, haux, bind, Except.bind, pure, Except.pure]

theorem toDirectory_eq (h : t.Sound db) : t.toDirectory = ⟨t.rows.map Account.toUser, none⟩ := by
  apply Directory.ofList_of_nodup
  rw [List.map_map]
  exact h.ids

/-- A filter by a key that stands for one account finds this account. -/
theorem find_of_key {κ : Type} [DecidableEq κ] (key : Account → κ) (hkeys : (t.rows.map key).Nodup)
    (ha : a ∈ t.rows) {name : AnyText} {v : Json} (hname : Draft.columns.contains name = true)
    (hcheck : checkFilter db name v = .ok ())
    (hmatches : ∀ b, matchesColumn b name v = .ok (key b = key a)) :
    t.find db [(name, v)] = .ok (some a) := by
  have hsorted := List.mergeSort_perm t.rows fun a b => a.id ≤ b.id
  have hfound := find?_of_nodup key ((hsorted.map key).nodup_iff.2 hkeys) (hsorted.mem_iff.2 ha)
  have hfilter := filterM_ok (fun b => decide (key b = key a))
    (t.rows.mergeSort fun a b => a.id ≤ b.id)
  rw [← List.head?_filter] at hfound
  have hall (b : Account) : [(name, v)].allM (fun p => matchesColumn b p.1 p.2) =
      .ok (decide (key b = key a)) := by
    simp only [List.allM, hmatches, bind, Except.bind]
    cases decide (key b = key a) <;> rfl
  have hchecks : [(name, v)].forM (fun p => checkFilter db p.1 p.2) = .ok () := by
    show (checkFilter db name v >>= fun _ => .ok ()) = _
    rw [hcheck]
    rfl
  simp only [find, List.any_cons, List.any_nil, hname, Bool.not_true, Bool.or_false,
    Bool.false_eq_true, if_false, hchecks, hall, hfilter, hfound, bind, Except.bind]

theorem find?_toUser {κ : Type} [DecidableEq κ] (key : User → κ)
    (hkeys : (t.rows.map fun b => key b.toUser).Nodup) (ha : a ∈ t.rows) :
    (t.rows.map Account.toUser).find? (fun u => key u = key a.toUser) = some a.toUser := by
  have hnodup : ((t.rows.map Account.toUser).map key).Nodup := by rwa [List.map_map]
  exact find?_of_nodup key hnodup (List.mem_map_of_mem ha)

/-- In the directory too, a key that stands for one account finds this account. -/
theorem found_of_key {κ : Type} [DecidableEq κ] (key : User → κ)
    (hkeys : (t.rows.map fun b => key b.toUser).Nodup) (ha : a ∈ t.rows) (missing : Fault) :
    Directory.found ⟨t.rows.map Account.toUser, none⟩
      ((t.rows.map Account.toUser).find? fun u => key u = key a.toUser) missing = .ok a.toUser := by
  rw [find?_toUser key hkeys ha]
  rfl

theorem Sound.finds (h : t.Sound db) (ha : a ∈ t.rows) : t.Finds db a where
  byId := find?_of_nodup Account.id h.ids ha
  byUsername := find?_of_nodup Account.username h.usernames ha
  find_id := find_of_key Account.id h.ids ha rfl (h.usable a ha) fun b => rfl
  find_username := find_of_key Account.username h.usernames ha rfl rfl fun b => by
    simp [matchesColumn]
  userById := by
    rw [Accounts.userById, h.usable a ha, toDirectory_eq h]
    exact found_of_key User.id h.ids ha _
  userByUsername := by
    rw [toDirectory_eq h]
    exact found_of_key User.username h.usernames ha _

end Accounts

end Gatehouse
