import Gatehouse.Proofs.PersonalToken.Issued
import Gatehouse.Proofs.Session.Issue
import Gatehouse.Proofs.Session.Verdict

/-!
What a renewal looks at. An access token that still lives is held against the subject of the
refresh token, an expired one is not; and an access token that lasts is used as it is, also after
the refresh token of its session has expired.
-/
namespace Gatehouse.SessionManager
open Signer Hash

section
variable [Platform] {m : SessionManager}

/-- The manager on a machine whose clock shows another time. -/
def onMachine (m : SessionManager) (t : Int) : SessionManager :=
  { m with issuer := { m.issuer with signer := m.issuer.signer.onMachine t } }

/-- The signer's tokens do not depend on the clock of a machine. -/
theorem signed_onMachine {t : String} {c : Claims} (h : m.signer.Signed t c) (k : Int) :
    (m.onMachine k).signer.Signed t c := ⟨h.whole, h.issuer, h.sign⟩

theorem genuine_onMachine {d : Digest}
    (halg : Algorithm.ofName? m.signer.algorithm = some (.keyed d))
    (hsecret : Platform.usableSecret m.signer.secret = true) {t : String} {c : Claims}
    (h : m.signer.Signed t c) (k : Int) : (m.onMachine k).signer.Genuine (.text t) c :=
  Signed.genuine (s := (m.onMachine k).signer) halg hsecret (signed_onMachine h k)

/-! ### Tokens of two subjects -/

/-- Tokens of two subjects are renewed exactly when the access token has expired and the cookies of
the refresh token have not ended, and then as the subject of the refresh token. -/
theorem renew_mismatched_iff {d : Digest}
    (halg : Algorithm.ofName? m.signer.algorithm = some (.keyed d))
    (hsecret : Platform.usableSecret m.signer.secret = true) :
    (∀ (c : Claims) (t : String), c.Obtained → c.issuer = m.signer.issuer →
      m.signer.sign c = .ok t → m.signer.Genuine (.text t) c) ∧
    ∀ (access refresh : Json) (a r c : Claims) (now : DateTime),
      m.signer.Genuine access a → a.audience = .sessionAccess →
      m.signer.Genuine refresh r → r.audience = .sessionRefresh → a.subject ≠ r.subject →
      now.offset.isSome = true →
      (m.evaluate access refresh now = .ok (.renew c) ↔
        c = r ∧ (∃ e, a.expiresAt = some e ∧ e.instant ≤ now.instant) ∧ m.Renewable r now) := by
  constructor
  · intro c t hc hissuer hsign
    exact Signed.genuine halg hsecret ⟨hc.wholeSeconds, hissuer, hsign⟩
  · intro access refresh a r c now ha haudA hr haudR hne hnow
    rw [evaluate_eq_renew ha haudA hr haudR hnow]
    have hended : (a.LiveAt now → ¬ m.Lasts a now ∧ a.subject = r.subject) ↔
        ∃ e, a.expiresAt = some e ∧ e.instant ≤ now.instant := by
      constructor
      · intro h
        exact Claims.ended_of_not_liveAt hnow fun hlive => hne (h hlive).2
      · rintro ⟨e, he, hle⟩ hlive
        have hlt := (hlive e he).2
        omega
    rw [hended]

end

section
attribute [local instance] Platform.standard

/-- A manager of sessions for a week, whose access tokens live a day. -/
def sample : SessionManager :=
  ⟨⟨.sample, 86400 * second, 604800 * second⟩, 3600 * second, 60 * second, {}, by decide⟩

theorem usable_sample : Platform.usableSecret sample.signer.secret = true := by decide +kernel

theorem exists_establish_sample {now : DateTime} (h : ∀ span ∈ sample.spans, now.Reaches span) :
    ∃ tokens headers, sample.establish (.text "ann") (.int 7) now = ⟨.ok tokens, headers⟩ := by
  have hsubject : Claims.IsSubject (.int 7) :=
    .inr ⟨7, rfl, Claims.hasLongInteger_int.1 (by decide +kernel)⟩
  exact exists_establish (m := sample) (.inl ⟨.sha256, rfl, usable_sample⟩) (by decide)
    (by decide) "ann" hsubject h

/-- Claims of a session for the user with number 7, which end after a second. -/
def sampleAccess : Claims :=
  ⟨"ann", "7", .sessionAccess, "gatehouse", ⟨0, some 0⟩, some ⟨second, some 0⟩⟩

/-- Claims of a session for another user, which end after a week. -/
def sampleRefresh : Claims :=
  ⟨"bob", "8", .sessionRefresh, "gatehouse", ⟨0, some 0⟩, some ⟨604800 * second, some 0⟩⟩

theorem obtained_sampleAccess : sampleAccess.Obtained :=
  .inl ⟨⟨.text "ann", .text "7", .text "session-access", .text "gatehouse", ⟨0, some 0⟩,
    some ⟨second, some 0⟩⟩, rfl⟩

theorem obtained_sampleRefresh : sampleRefresh.Obtained :=
  .inl ⟨⟨.text "bob", .text "8", .text "session-refresh", .text "gatehouse", ⟨0, some 0⟩,
    some ⟨604800 * second, some 0⟩⟩, rfl⟩

/-- Both sample tokens are signed. -/
theorem exists_sign_sample : ∃ access refresh,
    sample.signer.sign sampleAccess = .ok access ∧
      sample.signer.sign sampleRefresh = .ok refresh := by
  obtain ⟨access, haccess⟩ := exists_sign (s := sample.signer) (d := .sha256) rfl usable_sample
    obtained_sampleAccess.wholeSeconds
  obtain ⟨refresh, hrefresh⟩ := exists_sign (s := sample.signer) (d := .sha256) rfl usable_sample
    obtained_sampleRefresh.wholeSeconds
  exact ⟨access, refresh, haccess, hrefresh⟩

theorem renewable_sampleRefresh {now : DateTime} (h : now.instant < 604740 * second) :
    sample.Renewable sampleRefresh now := by
  have hlast : (⟨604740 * second, some 0⟩ : DateTime).instant = 604740 * second := by decide
  exact (renewable_iff rfl).2 ⟨_, rfl, h.trans_eq hlast.symm⟩

/-- With the sample tokens the user changes after a second, and not before. -/
theorem renew_mismatched_iff_sample : ∃ access refresh,
    sample.signer.sign sampleAccess = .ok access ∧ sample.signer.sign sampleRefresh = .ok refresh ∧
    sample.evaluate (.text access) (.text refresh) ⟨second, some 0⟩ = .ok (.renew sampleRefresh) ∧
    ∀ c, sample.evaluate (.text access) (.text refresh) ⟨second - 1, some 0⟩ ≠ .ok (.renew c) := by
  obtain ⟨access, refresh, haccess, hrefresh⟩ := exists_sign_sample
  obtain ⟨hgenuine, hiff⟩ := renew_mismatched_iff (m := sample) (d := .sha256) rfl usable_sample
  have ha := hgenuine sampleAccess access obtained_sampleAccess rfl haccess
  have hr := hgenuine sampleRefresh refresh obtained_sampleRefresh rfl hrefresh
  refine ⟨access, refresh, haccess, hrefresh, ?_, ?_⟩
  · exact (hiff _ _ _ _ _ _ ha rfl hr rfl (by decide) rfl).2
      ⟨rfl, ⟨_, rfl, Int.le_refl _⟩, renewable_sampleRefresh (by decide)⟩
  · intro c hc
    obtain ⟨-, ⟨e, he, hle⟩, -⟩ := (hiff _ _ _ _ _ _ ha rfl hr rfl (by decide) rfl).1 hc
    obtain rfl := Option.some.inj he
    exact absurd hle (by decide)

/-- A pair of tokens of two users that continues as the user of the refresh token. -/
theorem renew_as_other_user : ∃ access refresh,
    sample.signer.sign sampleAccess = .ok access ∧ sample.signer.sign sampleRefresh = .ok refresh ∧
    sampleAccess.subject ≠ sampleRefresh.subject ∧
    sample.evaluate (.text access) (.text refresh) ⟨2 * second, some 0⟩ =
      .ok (.renew sampleRefresh) := by
  obtain ⟨access, refresh, haccess, hrefresh⟩ := exists_sign_sample
  have ha : sample.signer.Genuine (.text access) sampleAccess :=
    Signed.genuine (d := .sha256) rfl usable_sample
      ⟨obtained_sampleAccess.wholeSeconds, rfl, haccess⟩
  have hr : sample.signer.Genuine (.text refresh) sampleRefresh :=
    Signed.genuine (d := .sha256) rfl usable_sample
      ⟨obtained_sampleRefresh.wholeSeconds, rfl, hrefresh⟩
  refine ⟨access, refresh, haccess, hrefresh, by decide, ?_⟩
  exact renew_of_ended ha rfl hr rfl rfl rfl (by decide) (renewable_sampleRefresh (by decide))

end

end Gatehouse.SessionManager
