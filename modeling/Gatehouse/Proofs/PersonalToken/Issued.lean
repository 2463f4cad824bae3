import Gatehouse.PersonalToken.Registry
import Gatehouse.Proofs.Token.Genuine

/-!
Tokens as they are issued. A token that was prepared for a user verifies, whatever the clock of
the machine shows, as long as it has not expired, and tells the number of that user.
-/
namespace Gatehouse
open Text Hash

namespace Claims

/-- The claims of a personal token that is issued now, to the second. -/
def personal (issuer : String) (username : AnyText) (id : Int) (expiresAt : Option DateTime)
    (now : DateTime) : Claims :=
  ⟨username, Json.plainText (.int id), .personalAccess, issuer, now.floorSecond,
    expiresAt.map DateTime.floorSecond⟩

theorem eq_personal {issuer : String} {username : AnyText} {id : Int}
    {expiresAt e : Option DateTime} {now : DateTime} {c : Claims}
    (h : build ⟨.text username, .int id, .text Audience.personalAccess.name, .text issuer, now, e⟩ =
      .ok c)
    (he : e = expiresAt.map DateTime.floorSecond) :
    c = personal issuer username id expiresAt now := by
  obtain ⟨-, hissued, hexpires, hname, hsubject, hissuer, haudience⟩ := build_eq_ok.1 h
  obtain ⟨principal, subject, audience, issuer', issuedAt, expiresAt'⟩ := c
  obtain rfl := Json.text.inj hname
  obtain rfl := Json.text.inj hissuer
  obtain rfl := Audience.name_injective (AnyText.string.inj (Json.text.inj haudience))
  obtain rfl := hsubject
  obtain rfl := DateTime.eq_floorSecond hissued
  have hexpiry : expiresAt' = expiresAt.map DateTime.floorSecond := by
    subst he
    cases expiresAt with
    | none => exact (Except.ok.inj hexpires).symm
    | some d =>
      obtain ⟨floor, hfloor, rfl⟩ := map_eq_ok.1 hexpires
      rw [DateTime.eq_floorSecond hfloor, DateTime.floorSecond_floorSecond]
      rfl
  rw [hexpiry]
  rfl

end Claims

namespace Signer

/-- The signer on a machine whose clock shows another time. -/
def onMachine (s : Signer) (t : Int) : Signer := { s with machineTime := t }

variable [Platform]

/-- The token verifies exactly until it expires, for the user with this number. -/
def Vouches (s : Signer) (id : Int) (token : AnyText) (expiresAt : Option DateTime) : Prop :=
  ∃ c : Claims, c.userId = .ok id ∧ c.expiresAt = expiresAt ∧ ∀ t now c',
    (s.onMachine t).verify (.text token) (some .personalAccess) now = .ok c' ↔
      c' = c ∧ c.LiveAt now

/-- A signer with a usable key made the token from these claims of a personal token. -/
structure Personal (s : Signer) (token : AnyText) (c : Claims) : Prop where
  signed : ∃ t : String, token = t ∧ s.Signed t c
  audience_eq : c.audience = .personalAccess
  keyed : ∃ d, Algorithm.ofName? s.algorithm = some (.keyed d) ∧
    Platform.usableSecret s.secret = true

section
variable {s : Signer} {c c' : Claims} {token : AnyText} {now : DateTime}

/-- A signed token that was once verified has a key. -/
theorem Signed.keyed {t : String} {audience : Option Audience} (h : s.Signed t c)
    (hv : s.verify (.text t) audience now = .ok c') :
    ∃ d, Algorithm.ofName? s.algorithm = some (.keyed d) ∧
      Platform.usableSecret s.secret = true := by
  rcases h.signs with hkeyed | ⟨halg, hempty⟩
  · exact hkeyed
  · rw [h.verify_of_unsigned halg hempty] at hv
    cases hv

theorem Personal.verify_iff (h : s.Personal token c) (t : Int) :
    (s.onMachine t).verify (.text token) (some .personalAccess) now = .ok c' ↔
      c' = c ∧ c.LiveAt now := by
  obtain ⟨d, halg, hsecret⟩ := h.keyed
  obtain ⟨token, rfl, hsigned⟩ := h.signed
  have hiff : (s.onMachine t).verify (.text token) (some c.audience) now = .ok c' ↔
      c' = c ∧ c.LiveAt now :=
    verify_signed_iff (s := s.onMachine t) halg hsecret hsigned.whole hsigned.issuer hsigned.sign
  rwa [h.audience_eq] at hiff

/-- The signer's tokens do not depend on the clock of the machine. -/
theorem Personal.of_onMachine {t : Int} (h : (s.onMachine t).Personal token c) :
    s.Personal token c := by
  obtain ⟨token, rfl, hsigned⟩ := h.signed
  exact ⟨⟨token, rfl, hsigned.whole, hsigned.issuer, hsigned.sign⟩, h.audience_eq, h.keyed⟩

theorem Personal.vouches (h : s.Personal token c) {id : Int} (hid : c.userId = .ok id) :
    s.Vouches id token c.expiresAt :=
  ⟨c, hid, rfl, fun t _ _ => h.verify_iff t⟩

end

omit [Platform] in
theorem isBlank_digit {n : Nat} (h : n < 64) : isBlank (Base64Url.digit n) = false := by
  interval_cases n <;> decide

/-- A signed token has no white space, so it is sent as it is. -/
theorem trim_of_sign {s : Signer} {c : Claims} {t : String} (h : s.sign c = .ok t) :
    trim isBlank t.toList = t.toList := by
  apply trim_of_ends
  intro x hx
  obtain rfl | ⟨n, hn, rfl⟩ := exists_digit_of_mem_sign h hx
  · decide
  · exact isBlank_digit hn

end Signer

namespace TokenRegistry

/-- The registry on a machine whose clock shows another time. -/
def onMachine (r : TokenRegistry) (t : Int) : TokenRegistry :=
  { r with issuer := { r.issuer with signer := r.issuer.signer.onMachine t } }

/-- A record is made of every text, and of no other description. -/
theorem record_eq_ok {token : String} {description : Json} {kept : TokenRecord} :
    record token description = .ok kept ↔
      ∃ text : AnyText, description = .text text ∧ kept = ⟨token, text⟩ := by
  constructor
  · intro h
    have hread : TokenRecord.read (.object [("token", .text token), ("description", description)]) =
        Checked.seq (.accepted (TokenRecord.mk token))
          fun _ => (Schema.text description).under (.name "description") := rfl
    have hr := Checked.toExcept_ok h
    rw [hread, Checked.seq_accepted] at hr
    cases description with
    | text text => exact ⟨text, rfl, (Checked.accepted.inj hr).symm⟩
    | _ => cases hr
  · rintro ⟨text, rfl, rfl⟩
    rfl

theorem token_of_record {token : String} {description : Json} {kept : TokenRecord}
    (h : record token description = .ok kept) : kept.token = token := by
  obtain ⟨text, -, rfl⟩ := record_eq_ok.1 h
  rfl

/-- The expiry is kept to the second. -/
theorem checkedExpiry_eq_ok {owner : Json} {expiresAt e : Option DateTime} {now : DateTime}
    (h : checkedExpiry owner expiresAt now = .ok e) : e = expiresAt.map DateTime.floorSecond := by
  unfold checkedExpiry at h
  split at h
  · exact (Except.ok.inj h).symm
  · split at h
    · cases h
    · cases h
    · next floor hfloor =>
      obtain ⟨past, -, h⟩ := bind_eq_ok.1 h
      cases past with
      | true => cases h
      | false =>
        rw [← Except.ok.inj h, DateTime.eq_floorSecond hfloor]
        rfl

variable [Platform]

section
variable {r : TokenRegistry} {username : AnyText} {id : Int} {description : Json}
  {expiresAt : Option DateTime} {now : DateTime} {kept : TokenRecord} {view : TokenView}

/-- A prepared token is signed for the claims of its user, and its record tells what its view
tells. -/
theorem personal_of_prepare (h : r.prepare (.text username) (.int id) description expiresAt now =
      .ok (kept, view)) :
    kept = ⟨view.token, view.description⟩ ∧ ∃ c, c = Claims.personal r.signer.issuer username id
        expiresAt now ∧ r.signer.Personal view.token c ∧ c.userId = .ok id ∧
      c.expiresAt = view.expiresAt := by
  obtain ⟨e, hexpiry, h⟩ := bind_eq_ok.1 h
  obtain ⟨token, hissue, h⟩ := bind_eq_ok.1 h
  obtain ⟨record, hrecord, h⟩ := bind_eq_ok.1 h
  obtain ⟨view', hview, h⟩ := bind_eq_ok.1 h
  obtain ⟨rfl, rfl⟩ := Prod.mk.inj (Except.ok.inj h)
  obtain ⟨c, hbuild, hsign⟩ := bind_eq_ok.1 hissue
  obtain ⟨c', hverify, hview⟩ := bind_eq_ok.1 hview
  obtain rfl := Except.ok.inj hview
  have htoken := token_of_record hrecord
  have hclaims := Claims.eq_personal hbuild (checkedExpiry_eq_ok hexpiry)
  have hwhole := Claims.wholeSeconds_build hbuild
  have hsigned : r.signer.Signed token c := ⟨hwhole, by rw [hclaims]; rfl, hsign⟩
  have hkeyed := hsigned.keyed (htoken ▸ hverify)
  have hpersonal : r.signer.Personal record.token c :=
    ⟨⟨token, htoken, hsigned⟩, by rw [hclaims]; rfl, hkeyed⟩
  obtain ⟨rfl, -⟩ := (hpersonal.verify_iff r.signer.machineTime).1 hverify
  exact ⟨rfl, c', hclaims, hpersonal, Claims.userId_build hbuild rfl, rfl⟩

/-- A keyed registry prepares a token for every user name, number and description, while the times
stay in years 1 to 9999 and the expiry, cut to the second, lies ahead. -/
theorem exists_prepare {d : Digest}
    (halg : Algorithm.ofName? r.signer.algorithm = some (.keyed d))
    (hsecret : Platform.usableSecret r.signer.secret = true) (username description : AnyText)
    {id : Int} (hid : id.natAbs < 10 ^ integerDigitLimit) (haware : now.offset.isSome = true)
    (hnow : DateTime.inRange now.instant = true)
    (hexpires : ∀ e, expiresAt = some e →
      DateTime.inRange e.instant = true ∧ now.instant < e.floorSecond.instant) :
    ∃ kept view, r.prepare (.text username) (.int id) (.text description) expiresAt now =
      .ok (kept, view) ∧ view.description = description := by
  have hchecked : checkedExpiry (.int id) expiresAt now =
      .ok (expiresAt.map DateTime.floorSecond) := by
    cases expiresAt with
    | none => rfl
    | some e =>
      obtain ⟨hrange, hlater⟩ := hexpires e rfl
      have hfloor : e.truncateToSeconds = .ok e.floorSecond :=
        DateTime.truncateToSeconds_eq_ok.2 ⟨hrange, rfl⟩
      have hpast : e.floorSecond.notAfter now = .ok false := by
        rw [DateTime.notAfter_of_aware rfl haware, decide_eq_false (by omega)]
      simp only [checkedExpiry, hfloor, hpast, bind, Except.bind]
      rfl
  have hranges : ∀ e, expiresAt.map DateTime.floorSecond = some e →
      DateTime.inRange e.instant = true := by
    rintro e he
    obtain ⟨e, rfl, rfl⟩ := Option.map_eq_some_iff.1 he
    exact (DateTime.wholeSecond_floorSecond (hexpires e rfl).1).inRange_instant
  obtain ⟨c, hbuild, -⟩ := Claims.exists_build username r.signer.issuer (.inr ⟨id, rfl, hid⟩)
    .personalAccess hnow hranges
  obtain ⟨t, hsign⟩ := Signer.exists_sign halg hsecret (Claims.wholeSeconds_build hbuild)
  have hclaims := Claims.eq_personal hbuild rfl
  have hverify : r.signer.verify (.text t) (some .personalAccess) now = .ok c := by
    apply Signer.verify_of_sign halg hsecret (Claims.wholeSeconds_build hbuild)
    · rw [hclaims]
      rfl
    · exact hsign
    · rw [hclaims]
      simp [Claims.personal]
    · rw [hclaims]
      intro e he
      obtain ⟨e, rfl, rfl⟩ := Option.map_eq_some_iff.1 he
      exact ⟨haware, (hexpires e rfl).2⟩
  refine ⟨⟨t, description⟩, ⟨t, description, c.issuedAt, c.expiresAt⟩, ?_, rfl⟩
  refine bind_eq_ok.2 ⟨_, hchecked, bind_eq_ok.2 ⟨t, bind_eq_ok.2 ⟨c, hbuild, hsign⟩, ?_⟩⟩
  exact bind_eq_ok.2 ⟨⟨t, description⟩, rfl, bind_eq_ok.2 ⟨_, bind_eq_ok.2 ⟨c, hverify, rfl⟩, rfl⟩⟩

/-- A prepared token is vouched for by the signer. -/
theorem vouches_of_prepare (h : r.prepare (.text username) (.int id) description expiresAt now =
      .ok (kept, view)) :
    kept.token = view.token ∧ r.signer.Vouches id view.token view.expiresAt := by
  obtain ⟨rfl, c, -, hpersonal, hid, hexpiry⟩ := personal_of_prepare h
  exact ⟨rfl, hexpiry ▸ hpersonal.vouches hid⟩

/-- The view is that of the record, and it tells the description that was given. -/
theorem view_of_prepare {username owner description : Json}
    (h : r.prepare username owner description expiresAt now = .ok (kept, view)) :
    description = .text view.description ∧ r.view kept now = .ok view := by
  obtain ⟨e, -, h⟩ := bind_eq_ok.1 h
  obtain ⟨token, -, h⟩ := bind_eq_ok.1 h
  obtain ⟨record, hrecord, h⟩ := bind_eq_ok.1 h
  obtain ⟨v, hview, h⟩ := bind_eq_ok.1 h
  obtain ⟨rfl, rfl⟩ := Prod.mk.inj (Except.ok.inj h)
  obtain ⟨text, rfl, rfl⟩ := record_eq_ok.1 hrecord
  obtain ⟨c, -, hclaims⟩ := bind_eq_ok.1 hview
  refine ⟨?_, hview⟩
  rw [← Except.ok.inj hclaims]

/-- A creation succeeds with a view that was prepared for it. -/
theorem prepare_of_create {s : KeyValue} {username owner description : Json}
    (h : (r.create s username owner description expiresAt now).1 = .ok view) :
    ∃ kept, r.prepare username owner description expiresAt now = .ok (kept, view) := by
  unfold create at h
  split at h
  · cases h
  · next kept prepared hprepare =>
    refine ⟨kept, ?_⟩
    dsimp only at h
    generalize (r.settings.updateTokens s owner fun records => .ok (records ++ [kept])).outcome =
      outcome at h
    cases outcome with
    | error f => cases h
    | ok records =>
      obtain rfl := Except.ok.inj h
      exact hprepare

end

end TokenRegistry

end Gatehouse
