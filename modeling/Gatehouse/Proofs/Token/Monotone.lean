import Gatehouse.Proofs.Token.Lapse

/-!
Verification is monotone in time. What a token tells does not depend on the time, so that two
verifications of it differ only if its expiry falls between them, and then the later one fails as
expired: `verify_monotone`.
-/
namespace Gatehouse.Signer

section
variable [Platform] {s : Signer} {token : Json} {audience : Option Audience} {c : Claims}
  {now later : DateTime} {f : Fault}

/-! ### What is told, held against the time -/

theorem verify_of_told (h : s.told token audience = .ok c) (now : DateTime) :
    s.verify token audience now = (fun _ => c) <$> checkExpiry c now := by
  rw [verify_eq, h]
  rfl

theorem verify_of_untold (h : s.told token audience = .error f) (now : DateTime) :
    s.verify token audience now = .error f := by
  rw [verify_eq, h]
  rfl

theorem verify_of_live (h : s.told token audience = .ok c) (hlive : c.LiveAt now) :
    s.verify token audience now = .ok c := by
  rw [verify_of_told h, (wholeSeconds_of_told h).checkExpiry.2 hlive]
  rfl

theorem verify_of_ended (h : s.told token audience = .ok c) (hnow : now.offset.isSome = true)
    {e : DateTime} (he : c.expiresAt = some e) (hle : e.instant ≤ now.instant) :
    s.verify token audience now = .error (expired c) := by
  rw [verify_of_told h, checkExpiry_of_ended (wholeSeconds_of_told h) hnow he hle]
  rfl

/-- An accepted token tells its claims, and they are in time. -/
theorem told_of_verify (h : s.verify token audience now = .ok c) :
    s.told token audience = .ok c ∧ c.LiveAt now := by
  rw [verify_eq] at h
  obtain ⟨c', htold, h⟩ := bind_eq_ok.1 h
  obtain ⟨⟨⟩, hexpiry, rfl⟩ := map_eq_ok.1 h
  exact ⟨htold, (wholeSeconds_of_told htold).checkExpiry.1 hexpiry⟩

/-! ### Members that a payload does not have -/

/-- No payload that can be read from the token has a member of this name. -/
def Omits (token : Json) (name : String) : Prop :=
  ∀ (t : String) k payload, token = .text t → Compact.read t.toList = .ok k →
    Compact.object k.payload = .ok payload → payload.get? name = none

/-- Without a start time a token has the same outcome on every machine. -/
theorem Omits.verify_onMachine (h : Omits token "nbf") (s : Signer) (machineTime : Int)
    (audience : Option Audience) (now : DateTime) :
    (s.onMachine machineTime).verify token audience now = s.verify token audience now := by
  cases token with
  | text t =>
    exact Signer.verify_onMachine (fun t' k payload ht => h t' k payload (congrArg _ ht)) s _ _ _
  | _ => rfl

/-- Without an expiry in the payload the claims have none. -/
theorem Omits.expiresAt (h : Omits token "exp") (htold : s.told token audience = .ok c) :
    c.expiresAt = none := by
  obtain ⟨header, -, htold⟩ := bind_eq_ok.1 htold
  obtain ⟨secret, -, htold⟩ := bind_eq_ok.1 htold
  obtain ⟨payload, hdecode, hclaims⟩ := bind_eq_ok.1 htold
  obtain ⟨t, k, rfl, hread, -, hobject, -⟩ := decode_eq_ok.1 hdecode
  obtain ⟨-, -, -, -, -, hexpiry⟩ := Claims.ofPayload_eq_ok.1 (claimsOf_eq_ok.1 hclaims)
  rw [Claims.expiryOf, h t k payload rfl hread hobject] at hexpiry
  exact (Except.ok.inj hexpiry).symm

/-! ### Two verifications -/

/-- Of two verifications, the later one accepts only if the earlier one does. -/
theorem verify_of_later (hnow : now.offset.isSome = true) (hle : now.instant ≤ later.instant)
    (h : s.verify token audience later = .ok c) : s.verify token audience now = .ok c := by
  obtain ⟨htold, hlive⟩ := told_of_verify h
  apply verify_of_live htold
  intro e he
  have hlater := (hlive e he).2
  exact ⟨hnow, by omega⟩

/-- Two verifications differ only if what is told expires between them. -/
theorem expires_of_ne (hnow : now.offset.isSome = true) (hlater : later.offset.isSome = true)
    (hne : s.verify token audience now ≠ s.verify token audience later)
    (hle : now.instant ≤ later.instant) :
    ∃ c e, s.verify token audience now = .ok c ∧ c.expiresAt = some e ∧
      now.instant < e.instant ∧ e.instant ≤ later.instant ∧
      s.verify token audience later = .error (expired c) := by
  cases hverify : s.verify token audience now with
  | error f => exact absurd (hverify.trans (verify_of_error hnow hlater hle hverify).symm) hne
  | ok c =>
    obtain ⟨htold, hlive⟩ := told_of_verify hverify
    have hended : ¬ c.LiveAt later :=
      fun hstill => hne (hverify.trans (verify_of_live htold hstill).symm)
    obtain ⟨e, he, hpast⟩ := Claims.ended_of_not_liveAt hlater hended
    exact ⟨c, e, rfl, he, (hlive e he).2, hpast, verify_of_ended htold hlater he hpast⟩

/-- Claims without an expiry are told at every time. -/
theorem verify_of_endless (h : Omits token "exp") (s : Signer) (audience : Option Audience)
    (now later : DateTime) : s.verify token audience now = s.verify token audience later := by
  cases htold : s.told token audience with
  | error f => rw [verify_of_untold htold, verify_of_untold htold]
  | ok c =>
    have hendless (time : DateTime) : c.LiveAt time := by
      intro e he
      rw [h.expiresAt htold] at he
      cases he
    rw [verify_of_live htold (hendless now), verify_of_live htold (hendless later)]

/-- As time goes on, a token that tells no start time keeps failing in the way it fails once, and
what is accepted was accepted with the same claims before. Two outcomes differ only if the claims
expire between the two times, and then the later outcome is that the token has expired. A token that
tells no expiry has the same outcome at all times. The machines on which the token is verified, and
so their clocks, may differ. -/
theorem verify_monotone (s : Signer) {token : Json} (hstart : Omits token "nbf")
    (audience : Option Audience) (machineTime machineLater : Int) {now later : DateTime}
    (hnow : now.offset.isSome = true) (hlater : later.offset.isSome = true) :
    (now.instant ≤ later.instant →
      (∀ f, (s.onMachine machineTime).verify token audience now = .error f →
        (s.onMachine machineLater).verify token audience later = .error f) ∧
      (∀ c, (s.onMachine machineLater).verify token audience later = .ok c →
        (s.onMachine machineTime).verify token audience now = .ok c) ∧
      ((s.onMachine machineTime).verify token audience now ≠
          (s.onMachine machineLater).verify token audience later →
        ∃ c e, (s.onMachine machineTime).verify token audience now = .ok c ∧
          c.expiresAt = some e ∧ now.instant < e.instant ∧ e.instant ≤ later.instant ∧
          (s.onMachine machineLater).verify token audience later = .error (expired c)) ∧
      (∀ c e, (s.onMachine machineTime).verify token audience now = .ok c →
        c.expiresAt = some e → e.instant ≤ later.instant →
          (s.onMachine machineLater).verify token audience later = .error (expired c))) ∧
    (Omits token "exp" → (s.onMachine machineTime).verify token audience now =
      (s.onMachine machineLater).verify token audience later) := by
  simp only [hstart.verify_onMachine]
  refine ⟨fun hle => ⟨?_, ?_, ?_, ?_⟩, ?_⟩
  · intro f h
    exact verify_of_error hnow hlater hle h
  · intro c h
    exact verify_of_later hnow hle h
  · intro hne
    exact expires_of_ne hnow hlater hne hle
  · intro c e h he hpast
    exact verify_of_ended (told_of_verify h).1 hlater he hpast
  · intro h
    exact verify_of_endless h s audience now later

end

section
attribute [local instance] Platform.standard

/-- A session token of the sample signer expires with the second second, and stays expired. -/
theorem verify_monotone_session : ∃ t c,
    sample.sign ⟨"ann", "7", .sessionAccess, "gatehouse", ⟨0, some 0⟩, some ⟨2 * second, some 0⟩⟩ =
      .ok t ∧
    (sample.onMachine 0).verify (.text t) (some .sessionAccess) ⟨second, some 0⟩ = .ok c ∧
    (sample.onMachine 1).verify (.text t) (some .sessionAccess) ⟨2 * second, some 0⟩ =
      .error (expired c) ∧
    (sample.onMachine 2).verify (.text t) (some .sessionAccess) ⟨3 * second, some 0⟩ =
      .error (expired c) := by
  have hsecret : Platform.usableSecret sample.secret = true := by decide +kernel
  have hc : Claims.WholeSeconds ⟨"ann", "7", .sessionAccess, "gatehouse", ⟨0, some 0⟩,
      some ⟨2 * second, some 0⟩⟩ := by
    refine ⟨⟨0, rfl, by decide⟩, ?_⟩
    rintro e ⟨⟩
    exact ⟨2, rfl, by decide⟩
  obtain ⟨t, ht⟩ := exists_sign (s := sample) (d := .sha256) rfl hsecret hc
  have hstart : Omits (.text t) "nbf" := by
    rintro t' k payload ⟨⟩
    exact startless_of_sign hc ht _ k payload rfl
  have hfirst : (sample.onMachine 0).verify (.text t) (some .sessionAccess) ⟨second, some 0⟩ =
      .ok ⟨"ann", "7", .sessionAccess, "gatehouse", ⟨0, some 0⟩, some ⟨2 * second, some 0⟩⟩ := by
    refine verify_of_sign (d := .sha256) rfl hsecret hc rfl ht (by simp) ?_
    rintro e ⟨⟩
    exact ⟨rfl, by decide⟩
  have hsecondAware : (⟨2 * second, some 0⟩ : DateTime).offset.isSome = true := rfl
  obtain ⟨-, -, -, hexpires⟩ := (verify_monotone sample hstart (some .sessionAccess) 0 1
    (rfl : (⟨second, some 0⟩ : DateTime).offset.isSome = true) hsecondAware).1 (by decide)
  have hsecond := hexpires _ _ hfirst rfl (by decide)
  obtain ⟨hstays, -⟩ := (verify_monotone sample hstart (some .sessionAccess) 1 2
    hsecondAware (rfl : (⟨3 * second, some 0⟩ : DateTime).offset.isSome = true)).1 (by decide)
  exact ⟨t, _, ht, hfirst, hsecond, hstays _ hsecond⟩

end

end Gatehouse.Signer
