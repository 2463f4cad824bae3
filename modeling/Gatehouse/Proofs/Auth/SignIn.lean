import Gatehouse.Auth.SignIn
import Gatehouse.Proofs.Session.Renewal
import Gatehouse.Proofs.Session.SetCookies

/-!
Signing in. A session is started exactly for the password of an active user, and then for this user;
every other sign-in writes no cookie. What the refusal tells depends on the password alone: while it
does not fit, a user who is known, blocked or not, is refused like one who is not. `signIn_grants`.
-/
namespace Gatehouse
open Hash

namespace Password.Scheme

/-- The digest that stands in can be made, and a check that fails says that one of the two texts
cannot be checked. -/
structure Answers (k : Scheme) : Prop where
  exists_dummy : ∃ digest, k.dummy = .ok digest
  isBadValue : ∀ password stored f, k.verify password stored = .error f → f.isBadValue = true

/-- A digest is stored, and the password passes the check against it. -/
def Accepts (k : Scheme) (password : String) (stored : Option String) : Prop :=
  ∃ digest, stored = some digest ∧ k.verify password digest = .ok true

variable {k : Scheme} (hk : k.Answers) (password : String)
include hk

theorem exists_fits (stored : String) :
    ∃ b, k.fits password stored = .ok b ∧ (b = true ↔ k.verify password stored = .ok true) := by
  unfold fits
  cases hverify : k.verify password stored with
  | ok b => exact ⟨b, rfl, by simp⟩
  | error f =>
    have hbad := hk.isBadValue password stored f hverify
    refine ⟨false, ?_, by simp⟩
    dsimp only
    rw [if_pos hbad]

/-- A check against what is stored, be it anything, nothing or no digest at all, has an answer. -/
theorem exists_fitsStored (stored : Option String) :
    ∃ b, k.fitsStored password stored = .ok b ∧ (b = true ↔ k.Accepts password stored) := by
  cases stored with
  | none =>
    obtain ⟨digest, hdummy⟩ := hk.exists_dummy
    obtain ⟨b, hfits, -⟩ := exists_fits hk password digest
    refine ⟨false, bind_eq_ok.2 ⟨digest, hdummy, bind_eq_ok.2 ⟨b, hfits, rfl⟩⟩, ?_⟩
    simp [Accepts]
  | some s =>
    obtain ⟨b, hfits, hiff⟩ := exists_fits hk password s
    refine ⟨b, hfits, hiff.trans ?_⟩
    simp [Accepts]

end Password.Scheme

/-! ### Profiles -/

/-- The row holds what its columns guarantee: a number that can be told, a nickname and a role that
is known. -/
structure User.Proper (u : User) : Prop where
  id : Claims.IsSubject (.int u.id)
  nickname : ∃ nickname, u.nickname = some nickname
  role : ∃ role : Role, u.role = some role.name

/-- The profile is that of the row. -/
structure Profile.Tells (p : Profile) (u : User) : Prop where
  id : p.id = u.id
  username : p.username = u.username
  nickname : ∃ nickname, u.nickname = some nickname ∧ p.nickname = .string nickname
  role : u.role = some p.role.name

/-- A proper row has a profile. -/
theorem User.Proper.exists_profile {u : User} (h : u.Proper) :
    ∃ p, Profile.ofUser u = .ok p ∧ p.Tells u := by
  obtain ⟨nickname, hnickname⟩ := h.nickname
  obtain ⟨role, hrole⟩ := h.role
  refine ⟨⟨u.id, u.username, nickname, role⟩, ?_, ⟨rfl, rfl, ⟨nickname, hnickname, rfl⟩, hrole⟩⟩
  unfold Profile.ofUser
  rw [hnickname, hrole]
  cases role <;> rfl

/-! ### The password -/

section
variable {k : Password.Scheme} {users : List User} {form : SignInForm} {u : User}

/-- A row of the table is found under the name, and the password fits it. -/
structure SignInForm.Fits (form : SignInForm) (k : Password.Scheme) (users : List User) (u : User) :
    Prop where
  found : users.find? (·.username = form.username) = some u
  accepts : k.Accepts form.password u.passwordHash

theorem not_fits_of_unknown (h : users.find? (·.username = form.username) = none) :
    ¬ form.Fits k users u := by
  intro hfits
  cases h.symm.trans hfits.found

theorem knownUser_eq (users : List User) (name : String) :
    knownUser ⟨users, none⟩ name = .ok (users.find? (·.username = name)) := by
  unfold knownUser Directory.byUsername Directory.found
  cases users.find? (·.username = name) with
  | none => rfl
  | some u => rfl

variable (hk : k.Answers)
include hk

theorem checkPassword_of_fits (h : form.Fits k users u) :
    checkPassword k ⟨users, none⟩ form =
      if u.isActive then .ok u else .error blockedUser := by
  obtain ⟨b, hfits, hiff⟩ :=
    Password.Scheme.exists_fitsStored hk form.password u.passwordHash
  obtain rfl := hiff.2 h.accepts
  simp only [checkPassword, knownUser_eq, h.found, Option.bind_some, hfits, bind, Except.bind]

/-- Whoever is found under the name, and whether anybody is, a password that does not fit is refused
in one way. -/
theorem checkPassword_of_not_fits (h : ∀ u, ¬ form.Fits k users u) :
    checkPassword k ⟨users, none⟩ form = .error wrongCredentials := by
  obtain ⟨b, hfits, hiff⟩ := Password.Scheme.exists_fitsStored hk form.password
    ((users.find? (·.username = form.username)).bind (·.passwordHash))
  simp only [checkPassword, knownUser_eq, hfits, bind, Except.bind]
  cases hfound : users.find? (·.username = form.username) with
  | none => simp
  | some u =>
    rw [hfound] at hiff
    have hb : b = false := by
      rw [← Bool.not_eq_true, hiff]
      exact fun haccepts => h u ⟨hfound, haccepts⟩
    simp [hb]

end

/-! ### Sessions -/

section
variable [Platform]

/-- The manager can issue tokens and write both cookies now. -/
structure SessionManager.Ready (m : SessionManager) (now : DateTime) : Prop where
  keyed : ∃ d, Algorithm.ofName? m.signer.algorithm = some (.keyed d)
  usable : Platform.usableSecret m.signer.secret = true
  accessName : Cookie.validName m.cookies.accessName = true
  refreshName : Cookie.validName m.cookies.refreshName = true
  reaches : ∀ span ∈ m.spans, now.Reaches span

section
variable {k : Password.Scheme} {m : SessionManager} {now : DateTime} {users : List User}
  {form : SignInForm} {u : User} (hk : k.Answers)
include hk

theorem signIn_of_active (hready : m.Ready now) (hproper : u.Proper)
    (h : form.Fits k users u) (hactive : u.isActive = true) :
    ∃ p, (signIn k m ⟨users, none⟩ form now).outcome = .ok p ∧ p.Tells u ∧
      m.Starts u now (signIn k m ⟨users, none⟩ form now).headers := by
  obtain ⟨d, halg⟩ := hready.keyed
  obtain ⟨p, hprofile, htells⟩ := hproper.exists_profile
  obtain ⟨tokens, headers, hestablish⟩ := SessionManager.exists_establish
    (.inl ⟨d, halg, hready.usable⟩) hready.accessName hready.refreshName u.username hproper.id
    hready.reaches
  have hcheck : checkPassword k ⟨users, none⟩ form = .ok u := by
    rw [checkPassword_of_fits hk h, if_pos hactive]
  have hwritten : signIn k m ⟨users, none⟩ form now = ⟨.ok p, headers ++ []⟩ := by
    rw [signIn, Written.lift_bind_of_ok hcheck, hestablish, Written.ok_bind]
    show (⟨Profile.ofUser u, headers ++ []⟩ : Written Profile) = _
    rw [hprofile]
  rw [hwritten, List.append_nil]
  exact ⟨p, rfl, htells, SessionManager.starts_of_establish hestablish⟩

theorem signIn_of_blocked (h : form.Fits k users u) (hblocked : u.isActive = false) :
    signIn k m ⟨users, none⟩ form now = ⟨.error blockedUser, []⟩ := by
  have hcheck : checkPassword k ⟨users, none⟩ form = .error blockedUser := by
    rw [checkPassword_of_fits hk h, hblocked, if_neg Bool.false_ne_true]
  rw [signIn, Written.lift_bind_of_error hcheck]

theorem signIn_of_not_fits (h : ∀ u, ¬ form.Fits k users u) :
    signIn k m ⟨users, none⟩ form now = ⟨.error wrongCredentials, []⟩ := by
  rw [signIn, Written.lift_bind_of_error (checkPassword_of_not_fits hk h)]

/-- A sign-in for no active user is refused, and writes no cookie. -/
theorem exists_refusal_of_inactive (m : SessionManager) (now : DateTime)
    (h : ∀ u, form.Fits k users u → u.isActive = false) :
    ∃ e, signIn k m ⟨users, none⟩ form now = ⟨.error (.service e), []⟩ := by
  by_cases hfits : ∃ u, form.Fits k users u
  · obtain ⟨u, hu⟩ := hfits
    exact ⟨_, signIn_of_blocked hk hu (h u hu)⟩
  · exact ⟨_, signIn_of_not_fits hk fun u hu => hfits ⟨u, hu⟩⟩

/-- A password that does not fit is refused like a user who is not known, in whatever other table
and at whatever other time. -/
theorem signIn_eq_of_unknown {m' : SessionManager} {now' : DateTime} {users' : List User}
    {form' : SignInForm} (hunknown : users'.find? (·.username = form'.username) = none)
    (h : ∀ u, ¬ form.Fits k users u) :
    signIn k m ⟨users, none⟩ form now = signIn k m' ⟨users', none⟩ form' now' := by
  rw [signIn_of_not_fits hk h, signIn_of_not_fits hk fun _ => not_fits_of_unknown hunknown]

/-- A blocked user differs from one who is not known by the right password alone. -/
theorem signIn_ne_iff_of_blocked {users' : List User}
    (hfound : users.find? (·.username = form.username) = some u) (hblocked : u.isActive = false)
    (hunknown : users'.find? (·.username = form.username) = none) :
    signIn k m ⟨users, none⟩ form now ≠ signIn k m ⟨users', none⟩ form now ↔
      k.Accepts form.password u.passwordHash := by
  constructor
  · intro hdiffers
    by_contra haccepts
    apply hdiffers
    apply signIn_eq_of_unknown hk hunknown
    intro v hv
    obtain rfl := Option.some.inj (hfound.symm.trans hv.found)
    exact haccepts hv.accepts
  · intro haccepts
    rw [signIn_of_blocked hk ⟨hfound, haccepts⟩ hblocked,
      signIn_of_not_fits hk fun _ => not_fits_of_unknown hunknown]
    intro heq
    cases (Written.mk.inj heq).1

end

/-- Signing in starts a session exactly if the password fits the row that is found and this row is
active: it answers with the profile of the row, and writes the two cookies of a session of its own.
Every other sign-in is refused and writes none. While the password does not fit, the refusal is the
one of a user who is not known, for whatever table, password and time; so a blocked user differs
from one who is not known exactly by the right password. -/
theorem signIn_grants {k : Password.Scheme} (hk : k.Answers) (m : SessionManager) (now : DateTime)
    (users : List User) (form : SignInForm) :
    (m.Ready now → (∀ u ∈ users, u.Proper) →
      ((∃ p, (signIn k m ⟨users, none⟩ form now).outcome = .ok p) ↔
        ∃ u, form.Fits k users u ∧ u.isActive = true) ∧
      ∀ u, form.Fits k users u → u.isActive = true →
        ∃ p, (signIn k m ⟨users, none⟩ form now).outcome = .ok p ∧ p.Tells u ∧
          m.Starts u now (signIn k m ⟨users, none⟩ form now).headers) ∧
    ((∀ u, form.Fits k users u → u.isActive = false) →
      ∃ e, signIn k m ⟨users, none⟩ form now = ⟨.error (.service e), []⟩) ∧
    (∀ (m' : SessionManager) (now' : DateTime) (users' : List User) (form' : SignInForm),
      users'.find? (·.username = form'.username) = none → (∀ u, ¬ form.Fits k users u) →
        signIn k m ⟨users, none⟩ form now = signIn k m' ⟨users', none⟩ form' now') ∧
    ∀ u users', users.find? (·.username = form.username) = some u → u.isActive = false →
      users'.find? (·.username = form.username) = none →
        (signIn k m ⟨users, none⟩ form now ≠ signIn k m ⟨users', none⟩ form now ↔
          k.Accepts form.password u.passwordHash) := by
  refine ⟨?_, exists_refusal_of_inactive hk m now, ?_, ?_⟩
  · intro hready hproper
    have hgranted (u : User) (hu : form.Fits k users u) (hactive : u.isActive = true) :=
      signIn_of_active hk hready (hproper u (List.mem_of_find?_eq_some hu.found)) hu hactive
    refine ⟨⟨?_, ?_⟩, hgranted⟩
    · rintro ⟨p, hp⟩
      by_contra hnone
      have hinactive : ∀ u, form.Fits k users u → u.isActive = false := by
        intro u hu
        rw [← Bool.not_eq_true]
        exact fun hactive => hnone ⟨u, hu, hactive⟩
      obtain ⟨e, he⟩ := exists_refusal_of_inactive hk m now hinactive
      rw [he] at hp
      cases hp
    · rintro ⟨u, hu, hactive⟩
      obtain ⟨p, hp, -⟩ := hgranted u hu hactive
      exact ⟨p, hp⟩
  · intro m' now' users' form' hunknown hnot
    exact signIn_eq_of_unknown hk hunknown hnot
  · intro u users' hfound hblocked hunknown
    exact signIn_ne_iff_of_blocked hk hfound hblocked hunknown

end

/-! ### Passwords by SHA-256 -/

theorem Password.Scheme.answers_sha256 : Scheme.sha256.Answers := by
  have hdummy : Password.hash "dummy-password" = .ok (digest "dummy-password") := by
    apply if_neg
    decide
  refine ⟨⟨_, hdummy⟩, ?_⟩
  intro password stored f h
  rcases bind_eq_error.1 h with hhash | ⟨digest, -, h⟩
  · unfold Password.hash at hhash
    split at hhash
    · obtain rfl := Except.error.inj hhash
      rfl
    · cases hhash
  · split at h
    · cases h
    · obtain rfl := Except.error.inj h
      rfl

def sampleDigest : String := "2bb80d537b1da3e38bd30361aa855686bde0eacd7162fef6a25fe97bf527a25b"

/-- The row of a user with the password of this digest. -/
def sampleRow : User := ⟨7, "ann", some "Ann", some "user", true, some sampleDigest⟩

theorem proper_sampleRow : sampleRow.Proper where
  id := .inr ⟨7, rfl, Claims.hasLongInteger_int.1 (by decide +kernel)⟩
  nickname := ⟨"Ann", rfl⟩
  role := ⟨.user, rfl⟩

theorem fits_sampleRow : (⟨"ann", "secret"⟩ : SignInForm).Fits .sha256 [sampleRow] sampleRow := by
  refine ⟨rfl, sampleDigest, rfl, ?_⟩
  have hdigest : Password.digest "secret" = sampleDigest := by decide +kernel
  have hhash : Password.hash "secret" = .ok sampleDigest := by
    rw [← hdigest]
    exact if_neg (by decide)
  have hstored : Password.isDigest sampleDigest = true := by decide +kernel
  have hlower : String.ofList (sampleDigest.toList.map Char.toLower) = sampleDigest := by
    decide +kernel
  show Password.verify "secret" sampleDigest = .ok true
  simp only [Password.verify, hhash, hstored, hlower, bind, Except.bind, if_true, beq_self_eq_true]

section
attribute [local instance] Platform.standard

theorem ready_sample : SessionManager.sample.Ready ⟨0, some 0⟩ where
  keyed := ⟨.sha256, rfl⟩
  usable := SessionManager.usable_sample
  accessName := by decide
  refreshName := by decide
  reaches := by decide

/-- The user is signed in with the right password, and once blocked differs by it from nobody. -/
theorem signIn_grants_sample :
    (∃ p, (signIn .sha256 .sample ⟨[sampleRow], none⟩ ⟨"ann", "secret"⟩ ⟨0, some 0⟩).outcome =
        .ok p ∧ p.Tells sampleRow) ∧
      signIn .sha256 .sample ⟨[{ sampleRow with isActive := false }], none⟩ ⟨"ann", "secret"⟩
          ⟨0, some 0⟩ ≠
        signIn .sha256 .sample ⟨[], none⟩ ⟨"ann", "secret"⟩ ⟨0, some 0⟩ := by
  constructor
  · obtain ⟨hgranted, -⟩ := signIn_grants Password.Scheme.answers_sha256 .sample ⟨0, some 0⟩
      [sampleRow] ⟨"ann", "secret"⟩
    obtain ⟨-, hstarts⟩ := hgranted ready_sample (by simp [proper_sampleRow])
    obtain ⟨p, hp, htells, -⟩ := hstarts sampleRow fits_sampleRow rfl
    exact ⟨p, hp, htells⟩
  · obtain ⟨-, -, -, hblocked⟩ := signIn_grants Password.Scheme.answers_sha256 .sample ⟨0, some 0⟩
      [{ sampleRow with isActive := false }] ⟨"ann", "secret"⟩
    exact (hblocked _ [] rfl rfl rfl).2 fits_sampleRow.accepts

end

end Gatehouse
