import Gatehouse.Proofs.PersonalToken.Issued

/-!
Failures that are no authentication failures. The registry checks tokens in two places: those that
it keeps, where a failed check is told and passed over, and the one that it has just issued, which
passes its check. So it never fails as an authentication: `neverRefuses_create` and its companions.
-/
namespace Gatehouse

/-- Whatever the outcome fails with, it is no authentication failure. -/
def NeverRefuses {α : Type} (x : Except Fault α) : Prop :=
  ∀ f, x = .error f → f.isUnauthorized = false

namespace NeverRefuses
variable {α β : Type} {f : Fault} {x : Except Fault α}

theorem ok (a : α) : NeverRefuses (.ok a) := nofun

theorem error (h : f.isUnauthorized = false) : NeverRefuses (.error f : Except Fault α) := by
  rintro _ ⟨⟩
  exact h

theorem bind (hx : NeverRefuses x) {g : α → Except Fault β}
    (hg : ∀ a, x = .ok a → NeverRefuses (g a)) : NeverRefuses (x >>= g) := by
  intro f hf
  obtain hf | ⟨a, ha, hf⟩ := bind_eq_error.1 hf
  · exact hx f hf
  · exact hg a ha f hf

theorem map (hx : NeverRefuses x) (g : α → β) : NeverRefuses (g <$> x) :=
  fun f hf => hx f (map_eq_error.1 hf)

theorem toExcept (x : Checked α) : NeverRefuses x.toExcept := by
  cases x with
  | accepted a => exact .ok a
  | rejected errors => exact .error rfl

end NeverRefuses

/-! ### Issuing -/

namespace DateTime
variable (d e : DateTime)

theorem neverRefuses_toUtc : NeverRefuses d.toUtc := by
  unfold toUtc ofReading
  split
  · exact .ok _
  · exact .error rfl

theorem neverRefuses_truncateToSeconds : NeverRefuses d.truncateToSeconds :=
  d.neverRefuses_toUtc.bind fun _ _ => .ok _

theorem neverRefuses_toNumericDate : NeverRefuses d.toNumericDate :=
  d.neverRefuses_toUtc.bind fun _ _ => .ok _

theorem neverRefuses_notAfter : NeverRefuses (d.notAfter e) := by
  refine .map ?_ _
  unfold since
  split
  · exact .ok _
  · exact .error rfl

end DateTime

namespace Claims

theorem neverRefuses_ofFields (principal subject issuer : Except FieldError AnyText)
    (audience : Except FieldError Audience) (issuedAt : DateTime) (expiresAt : Option DateTime) :
    NeverRefuses (ofFields principal subject issuer audience issuedAt expiresAt) := by
  unfold ofFields
  split
  · exact .ok _
  · exact .error rfl

theorem neverRefuses_build (r : ClaimsRequest) : NeverRefuses (build r) := by
  have hexpiry : NeverRefuses (truncateExpiry r.expiresAt) := by
    unfold truncateExpiry
    split
    · exact .ok _
    · next e _ => exact e.neverRefuses_truncateToSeconds.map _
  unfold build
  split
  · exact .error rfl
  · exact r.issuedAt.neverRefuses_truncateToSeconds.bind fun _ _ => hexpiry.bind fun _ _ =>
      neverRefuses_ofFields _ _ _ _ _ _

theorem neverRefuses_toPayload (c : Claims) : NeverRefuses c.toPayload := by
  refine c.issuedAt.neverRefuses_toNumericDate.bind fun iat _ => ?_
  dsimp only
  split
  · exact .ok _
  · next e _ => exact e.neverRefuses_toNumericDate.bind fun _ _ => .ok _

end Claims

namespace Signer
open Hash
variable [Platform] {s : Signer}

theorem neverRefuses_signature (algorithm secret : String) (signed : List Char) :
    NeverRefuses (signature algorithm secret signed) := by
  unfold signature
  split
  · exact .error rfl
  · split
    · exact .ok _
    · exact .error rfl
  · split
    · exact .ok _
    · exact .error rfl

theorem neverRefuses_sign (s : Signer) (c : Claims) : NeverRefuses (s.sign c) := by
  refine c.neverRefuses_toPayload.bind fun payload _ => ?_
  unfold signPayload
  split
  · exact (neverRefuses_signature _ _ _).bind fun _ _ => .ok _
  · exact .error rfl

/-- A signer that accepts a token has a keyed hash. -/
theorem exists_digest_of_verify {token : Json} {audience : Option Audience} {now : DateTime}
    {c : Claims} (h : s.verify token audience now = .ok c) :
    ∃ d, Algorithm.ofName? s.algorithm = some (.keyed d) := by
  obtain ⟨t, k, secret, payload, -, -, -, hsigned, -⟩ := verify_eq_ok.1 h
  obtain ⟨-, -, d, halg, -⟩ := checkSignature_eq_ok.1 hsigned
  exact ⟨d, halg⟩

end Signer

namespace TokenRegistry
open Hash
variable {r : TokenRegistry} {s : KeyValue} {owner description : Json} {now : DateTime}

theorem neverRefuses_checkedExpiry (owner : Json) (expiresAt : Option DateTime) (now : DateTime) :
    NeverRefuses (checkedExpiry owner expiresAt now) := by
  unfold checkedExpiry
  split
  · exact .ok _
  · next e =>
    split
    · exact .error rfl
    · next f _ hf => exact .error (e.neverRefuses_truncateToSeconds f hf)
    · refine (DateTime.neverRefuses_notAfter _ _).bind fun past _ => ?_
      split
      · exact .error rfl
      · exact .ok _

/-- An expiry that was checked lies ahead. -/
theorem ahead_of_checkedExpiry {expiresAt : Option DateTime} {e : DateTime}
    (h : checkedExpiry owner expiresAt now = .ok (some e)) :
    now.offset.isSome = true ∧ now.instant < e.instant := by
  unfold checkedExpiry at h
  split at h
  · cases h
  · split at h
    · cases h
    · cases h
    · next floor hfloor =>
      obtain ⟨past, hpast, h⟩ := bind_eq_ok.1 h
      cases past with
      | true => cases h
      | false =>
        obtain rfl := Option.some.inj (Except.ok.inj h)
        have hwhole := DateTime.wholeSecond_truncateToSeconds hfloor
        cases haware : now.offset.isSome with
        | true =>
          rw [DateTime.notAfter_of_aware hwhole.aware haware] at hpast
          have hnot := of_decide_eq_false (Except.ok.inj hpast)
          exact ⟨rfl, by omega⟩
        | false => simp [DateTime.notAfter, DateTime.since, hwhole.aware, haware, Functor.map,
            Except.map] at hpast

variable (hkeyed : ∃ d, Algorithm.ofName? r.signer.algorithm = some (.keyed d))
include hkeyed

variable [Platform]

/-- A token that was just issued passes its check. -/
theorem exists_view_of_issue {username : AnyText} {id : Int} {expiresAt e : Option DateTime}
    {token : String} {kept : TokenRecord} (he : checkedExpiry (.int id) expiresAt now = .ok e)
    (hissue : r.issuer.personalAccess (.text username) (.int id) e now = .ok token)
    (hkept : record token description = .ok kept) : ∃ view, r.view kept now = .ok view := by
  obtain ⟨c, hbuild, hsign⟩ := bind_eq_ok.1 hissue
  have hclaims := Claims.eq_personal hbuild (checkedExpiry_eq_ok he)
  have hexpiry : c.expiresAt = e := by rw [hclaims, checkedExpiry_eq_ok he]; rfl
  have hsigned : r.signer.Signed token c :=
    ⟨Claims.wholeSeconds_build hbuild, by rw [hclaims]; rfl, hsign⟩
  have hlive : c.LiveAt now := by
    intro x hx
    rw [hexpiry] at hx
    exact ahead_of_checkedExpiry (he.trans (congrArg Except.ok hx))
  have hverify : r.signer.verify (.text token) (some .personalAccess) now = .ok c := by
    obtain ⟨d, halg, hsecret⟩ | ⟨hunsigned, -⟩ := hsigned.signs
    · refine Signer.verify_of_sign halg hsecret hsigned.whole hsigned.issuer hsign ?_ hlive
      rw [hclaims]
      rintro _ ⟨⟩
      rfl
    · obtain ⟨d, halg⟩ := hkeyed
      cases halg.symm.trans hunsigned
  rw [← token_of_record hkept] at hverify
  exact ⟨_, bind_eq_ok.2 ⟨c, hverify, rfl⟩⟩

theorem neverRefuses_prepare (username : AnyText) (id : Int) (description : Json)
    (expiresAt : Option DateTime) (now : DateTime) :
    NeverRefuses (r.prepare (.text username) (.int id) description expiresAt now) := by
  refine (neverRefuses_checkedExpiry _ _ _).bind fun e he => ?_
  have hissue : NeverRefuses (r.issuer.personalAccess (.text username) (.int id) e now) :=
    (Claims.neverRefuses_build _).bind fun c _ => Signer.neverRefuses_sign _ c
  refine hissue.bind fun token htoken => ?_
  have hrecord : NeverRefuses (record token description) := .toExcept _
  refine hrecord.bind fun kept hkept => ?_
  obtain ⟨view, hview⟩ := exists_view_of_issue hkeyed he htoken hkept
  rw [hview]
  exact .ok _

end TokenRegistry

/-! ### The store -/

namespace Settings
variable [Platform] (st : Settings) (s : KeyValue) (owner : Json) (name : String)

theorem neverRefuses_decode (k : String) (text : Option String) :
    NeverRefuses (decode k text) := by
  unfold decode
  split
  · exact .ok _
  · split
    · exact .ok _
    · exact .error rfl
    · exact .error rfl

omit [Platform] in
theorem neverRefuses_tokensOf (value : Json) : NeverRefuses (tokensOf owner value) := by
  unfold tokensOf
  split
  · exact .ok _
  · split
    · exact .ok _
    · exact .error rfl

theorem neverRefuses_getTokens : NeverRefuses (getTokens s owner) := by
  have hget : NeverRefuses (get s owner tokensName) := by
    unfold get
    split
    · exact neverRefuses_decode _ _
    · exact .error rfl
  exact hget.bind fun value _ => neverRefuses_tokensOf owner value

omit [Platform] in
theorem neverRefuses_encode (v : Json) : NeverRefuses (encode v) := by
  unfold encode
  split
  · exact .ok _
  · exact .error rfl

variable {s owner name} {change : Json → Except Fault Json} (hchange : ∀ v, NeverRefuses (change v))
include hchange

/-- An attempt fails with a fault of its change, or with one of the store. -/
theorem neverRefuses_attempt {f : Fault} {s' : KeyValue} {seen : List Json}
    (h : attempt s owner name change = (.failed f, s', seen)) : f.isUnauthorized = false := by
  have hfault {e : StoreFault} (he : attemptFault owner name e = .failed f) :
      f.isUnauthorized = false := by
    cases e <;> cases he <;> rfl
  unfold attempt at h
  dsimp only at h
  split at h
  · exact hfault (Prod.mk.inj h).1
  · split at h
    · next hdecode =>
      obtain rfl := Attempt.failed.inj (Prod.mk.inj h).1
      exact neverRefuses_decode _ _ _ hdecode
    · next current _ =>
      split at h
      · next hupdated =>
        obtain rfl := Attempt.failed.inj (Prod.mk.inj h).1
        exact (hchange current).bind (fun v _ => (neverRefuses_encode v).bind fun _ _ => .ok _) _
          hupdated
      · split at h
        · cases (Prod.mk.inj h).1
        · exact hfault (Prod.mk.inj h).1

theorem neverRefuses_updateUpTo (left : Nat) (s : KeyValue) :
    NeverRefuses (updateUpTo st owner name change left s).outcome := by
  induction left generalizing s with
  | zero => exact .error rfl
  | succ left ih =>
    unfold updateUpTo
    split
    · exact .ok _
    · next h => exact .error (neverRefuses_attempt hchange h)
    · exact ih _

end Settings

namespace Settings
variable [Platform]

theorem neverRefuses_updateTokens (st : Settings) (s : KeyValue) (owner : Json)
    {change : List TokenRecord → Except Fault (List TokenRecord)}
    (hchange : ∀ records, NeverRefuses (change records)) :
    NeverRefuses (st.updateTokens s owner change).outcome := by
  have hsetting (v : Json) : NeverRefuses (changeSetting owner change v) :=
    (neverRefuses_tokensOf owner v).bind fun records _ => (hchange records).bind fun _ _ => .ok _
  have hupdate : NeverRefuses (st.update s owner tokensName (changeSetting owner change)).outcome :=
    neverRefuses_updateUpTo st hsetting st.attempts s
  exact hupdate.bind fun v _ => neverRefuses_tokensOf owner v

end Settings

/-! ### The registry -/

namespace TokenRegistry
open Hash
variable [Platform] {r : TokenRegistry} (s : KeyValue) (now : DateTime)

/-- A kept token that fails its check as an authentication is passed over. -/
theorem neverRefuses_verifyEach (records : List TokenRecord) :
    NeverRefuses (r.verifyEach now records) := by
  induction records with
  | nil => exact .ok _
  | cons record rest ih =>
    unfold verifyEach
    split
    · exact ih.map _
    · next e _ =>
      split
      · exact ih.map _
      · next he =>
        have hkind : e.kind.isUnauthorized = false := by simpa using he
        exact .error hkind
    · next f hf _ =>
      cases f with
      | service e => exact absurd rfl (hf e)
      | _ => exact .error rfl

theorem neverRefuses_list (owner : Json) : NeverRefuses (r.list s owner now) :=
  (Settings.neverRefuses_getTokens s owner).bind fun records _ =>
    (neverRefuses_verifyEach now records).bind fun _ _ => .ok _

theorem neverRefuses_revoke (owner : Json) (token : AnyText) :
    NeverRefuses (r.revoke s owner token).1 :=
  (Settings.neverRefuses_updateTokens _ _ _ fun _ => .ok _).map _

theorem neverRefuses_prune (owner : Json) : NeverRefuses (r.prune s owner now).1 :=
  (Settings.neverRefuses_updateTokens _ _ _ fun records =>
    (neverRefuses_verifyEach now records).bind fun _ _ => .ok _).map _

theorem neverRefuses_create (hkeyed : ∃ d, Algorithm.ofName? r.signer.algorithm = some (.keyed d))
    (username : AnyText) (id : Int) (description : Json) (expiresAt : Option DateTime) :
    NeverRefuses (r.create s (.text username) (.int id) description expiresAt now).1 := by
  unfold create
  split
  · next f hf => exact .error (neverRefuses_prepare hkeyed _ _ _ _ _ f hf)
  · exact (Settings.neverRefuses_updateTokens _ _ _ fun _ => .ok _).map _

end TokenRegistry
end Gatehouse
