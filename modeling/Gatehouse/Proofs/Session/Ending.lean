import Gatehouse.Proofs.Session.Browsing

/-!
The end of a session. Once its refresh token has expired nothing is renewed, and an access token of
the session is accepted only while it lasts itself: `ends_with_refresh` says so of the first one
and of every renewed one.
-/
namespace Gatehouse.SessionManager
open Hash Signer TokenLife

section
variable [Platform] {m : SessionManager} {tokens : SessionTokens} {headers : List String}

/-- The access tokens of a session: the first one, and every one that was issued when an earlier one
was to be renewed, at whatever time and on whatever machine. -/
inductive AccessToken (m : SessionManager) (tokens : SessionTokens) : String → Prop where
  | first : AccessToken m tokens tokens.access
  | renewed {access token : String} {machineTime : Int} {now later : DateTime} {c : Claims}
      {headers : List String} (held : AccessToken m tokens access)
      (verdict : (m.onMachine machineTime).evaluate (.text access) (.text tokens.refresh) now =
        .ok (.renew c))
      (issued : m.renew c later = ⟨.ok token, headers⟩) : AccessToken m tokens token

/-- Each of them was signed for a session access token that expires. -/
theorem AccessToken.signed {username userId : Json} {start : DateTime}
    (h : m.establish username userId start = ⟨.ok tokens, headers⟩) {token : String}
    (ht : m.AccessToken tokens token) :
    ∃ a x, m.signer.Signed token a ∧ a.audience = .sessionAccess ∧ a.expiresAt = some x := by
  cases ht with
  | first =>
    obtain ⟨a, ha⟩ := Issuer.issued_of_sessionAccess (establish_eq_ok.1 h).1
    exact ⟨a, _, ha.signed, ha.audience_eq, ha.expiresAt⟩
  | renewed held verdict issued =>
    obtain ⟨a, ha⟩ := Issuer.issued_of_sessionAccess (renew_eq_ok.1 issued).1
    exact ⟨a, _, ha.signed, ha.audience_eq, ha.expiresAt⟩

/-- Without a keyed hash the signer's own tokens end every session. -/
theorem evaluate_of_unsigned {token : String} {a : Claims} (ha : m.signer.Signed token a)
    (halg : Algorithm.ofName? m.signer.algorithm = some .unsigned) (hempty : m.signer.secret = "")
    (refresh : Json) (now : DateTime) :
    ∃ reason, m.evaluate (.text token) refresh now = .ok (.invalid reason) := by
  have hv := ha.verify_of_unsigned halg hempty (some .sessionAccess) now
  rw [evaluate]
  split
  · exact ⟨_, rfl⟩
  · rw [hv]
    exact ⟨_, rfl⟩

/-- After the refresh token has expired, every access token of the session ends it, unless the token
itself still lasts beyond the threshold: then it is used as it is, and is not renewed. -/
theorem ends_with_refresh {username userId : Json} {start : DateTime}
    (h : m.establish username userId start = ⟨.ok tokens, headers⟩) :
    ∃ r e, m.signer.Signed tokens.refresh r ∧ r.expiresAt = some e ∧
      ∀ token, m.AccessToken tokens token → ∃ a x, m.signer.Signed token a ∧
        a.expiresAt = some x ∧ ∀ (machineTime : Int) (now : DateTime),
          now.offset.isSome = true → e.instant ≤ now.instant →
          (∃ reason, (m.onMachine machineTime).evaluate (.text token) (.text tokens.refresh) now =
            .ok (.invalid reason)) ∨
          now.instant < x.instant ∧ now.instant + m.threshold < x.instant ∧
            (m.onMachine machineTime).evaluate (.text token) (.text tokens.refresh) now =
              .ok (.valid a) := by
  obtain ⟨r, hr⟩ := Issuer.issued_of_sessionRefresh (establish_eq_ok.1 h).2.1
  refine ⟨r, _, hr.signed, hr.expiresAt, fun token htoken => ?_⟩
  obtain ⟨a, x, ha, haudience, hx⟩ := htoken.signed h
  refine ⟨a, x, ha, hx, fun machineTime now hnow hended => ?_⟩
  obtain ⟨d, halg, hsecret⟩ | ⟨halg, hempty⟩ := ha.signs
  · have hA := genuine_onMachine halg hsecret ha machineTime
    have hR := genuine_onMachine halg hsecret hr.signed machineTime
    have hrefresh (held : Option Claims) := evaluateRefresh_of_ended hR hr.audience_eq held hnow
      hr.expiresAt hended
    by_cases hlive : now.instant < x.instant
    · have hliveAt : a.LiveAt now := (Claims.liveAt_iff hx).2 ⟨hnow, hlive⟩
      by_cases hlasts : now.instant + m.threshold < x.instant
      · have hlastsAt : (m.onMachine machineTime).Lasts a now := (lasts_iff hx).2 hlasts
        exact .inr ⟨hlive, hlasts, evaluate_of_lasts hA haudience hnow hliveAt hlastsAt⟩
      · have hsoon : ¬ (m.onMachine machineTime).Lasts a now := fun h => hlasts ((lasts_iff hx).1 h)
        exact .inl ⟨_, (evaluate_of_not_lasts hA haudience hnow hliveAt hsoon).trans (hrefresh _)⟩
    · exact .inl ⟨_, (evaluate_of_ended hA haudience hnow hx (Int.not_lt.1 hlive)).trans
        (hrefresh _)⟩
  · exact .inl (evaluate_of_unsigned (signed_onMachine ha machineTime) halg hempty _ now)

end

section
attribute [local instance] Platform.standard

/-- A session of the sample manager, renewed two minutes before its refresh token expires. -/
theorem exists_renewed_sample : ∃ tokens headers token r a,
    sample.establish (.text "ann") (.int 7) ⟨0, some 0⟩ = ⟨.ok tokens, headers⟩ ∧
    sample.AccessToken tokens token ∧
    sample.signer.Signed tokens.refresh r ∧ r.expiresAt = some ⟨604800 * second, some 0⟩ ∧
    sample.signer.Signed token a ∧ a.audience = .sessionAccess ∧
    a.expiresAt = some ⟨691080 * second, some 0⟩ := by
  have hreaches : ∀ span ∈ sample.spans, (⟨0, some 0⟩ : DateTime).Reaches span := by decide
  obtain ⟨tokens, headers, h⟩ := exists_establish_sample hreaches
  obtain ⟨a, ha⟩ := Issuer.issued_of_sessionAccess (establish_eq_ok.1 h).1
  obtain ⟨r, hr⟩ := Issuer.issued_of_sessionRefresh (establish_eq_ok.1 h).2.1
  obtain ⟨r', -, hs, -, -⟩ := carries_establish (u := sampleUser) (by decide) (k := 60) rfl h
  obtain rfl := hs.signed.unique hr.signed
  obtain ⟨token, -, header, hrenew, -⟩ := hs.exists_renew (d := .sha256) rfl usable_sample
    ⟨604680 * second, some 0⟩ rfl (by decide) (by decide)
  obtain ⟨late, hlate⟩ := Issuer.issued_of_sessionAccess (renew_eq_ok.1 hrenew).1
  have hrenewable : sample.Renewable r' ⟨604680 * second, some 0⟩ :=
    (renewable_iff hr.expiresAt).2 ⟨⟨604740 * second, some 0⟩, rfl, by decide⟩
  have hverdict : (sample.onMachine 0).evaluate (.text tokens.access) (.text tokens.refresh)
      ⟨604680 * second, some 0⟩ = .ok (.renew r') :=
    renew_of_ended (ha.signed.genuine (d := .sha256) rfl usable_sample) ha.audience_eq
      (hr.signed.genuine (d := .sha256) rfl usable_sample) hr.audience_eq rfl ha.expiresAt
      (by decide) hrenewable
  have htoken : sample.AccessToken tokens token := .renewed .first hverdict hrenew
  exact ⟨tokens, headers, token, r', late, h, htoken, hr.signed, hr.expiresAt, hlate.signed,
    hlate.audience_eq, hlate.expiresAt⟩

/-- The access token of a late renewal is used as it is when the refresh token has expired. -/
theorem valid_after_refresh_ended : ∃ tokens headers token r a,
    sample.establish (.text "ann") (.int 7) ⟨0, some 0⟩ = ⟨.ok tokens, headers⟩ ∧
    sample.AccessToken tokens token ∧
    sample.signer.Signed tokens.refresh r ∧ r.expiresAt = some ⟨604800 * second, some 0⟩ ∧
    sample.evaluate (.text token) (.text tokens.refresh) ⟨604800 * second, some 0⟩ =
      .ok (.valid a) := by
  obtain ⟨tokens, headers, token, r, a, h, htoken, hr, he, ha, haudience, hx⟩ :=
    exists_renewed_sample
  refine ⟨tokens, headers, token, r, a, h, htoken, hr, he, ?_⟩
  have hgenuine := ha.genuine (d := .sha256) rfl usable_sample
  have hlive : a.LiveAt ⟨604800 * second, some 0⟩ :=
    (Claims.liveAt_iff hx).2 ⟨rfl, by decide⟩
  have hlasts : sample.Lasts a ⟨604800 * second, some 0⟩ := (lasts_iff hx).2 (by decide)
  exact evaluate_of_lasts hgenuine haudience rfl hlive hlasts

/-- It ends the session an hour before its own end, when only a renewal could go on with it. -/
theorem ends_with_refresh_sample : ∃ tokens headers token,
    sample.establish (.text "ann") (.int 7) ⟨0, some 0⟩ = ⟨.ok tokens, headers⟩ ∧
    sample.AccessToken tokens token ∧
    ∃ reason, sample.evaluate (.text token) (.text tokens.refresh) ⟨687480 * second, some 0⟩ =
      .ok (.invalid reason) := by
  obtain ⟨tokens, headers, token, r, a, h, htoken, hr, he, ha, -, hx⟩ := exists_renewed_sample
  obtain ⟨r', e', hr', he', hall⟩ := ends_with_refresh h
  obtain ⟨a', x', ha', hx', hends⟩ := hall token htoken
  obtain rfl := hr.unique hr'
  obtain rfl := ha.unique ha'
  obtain rfl := Option.some.inj (he.symm.trans he')
  obtain rfl := Option.some.inj (hx.symm.trans hx')
  refine ⟨tokens, headers, token, h, htoken, ?_⟩
  obtain hinvalid | ⟨-, hlasts, -⟩ := hends 0 ⟨687480 * second, some 0⟩ rfl (by decide)
  · exact hinvalid
  · exact absurd hlasts (by decide)

end

end Gatehouse.SessionManager
