import Gatehouse.Proofs.PersonalToken.Issued

/-!
A token as time goes on. Of all its checks only the last one looks at the time, and only the one of
a start time looks at the clock of the machine. So a token that fails once fails in the same way
ever after, and the clock of the machine matters only to a payload that tells a start time.
-/
namespace Gatehouse

namespace Claims
variable {c : Claims} {now later : DateTime} {f : Fault}

/-- Claims fail as expired from the end of their life on. -/
theorem checkExpiry_eq_error (hc : c.WholeSeconds) (hnow : now.offset.isSome = true) :
    Signer.checkExpiry c now = .error f ↔
      f = Signer.expired c ∧ ∃ e, c.expiresAt = some e ∧ e.instant ≤ now.instant := by
  constructor
  · intro h
    have hended : ¬ c.LiveAt now := by
      intro hlive
      rw [hc.checkExpiry.2 hlive] at h
      cases h
    obtain ⟨e, he, hle⟩ := ended_of_not_liveAt hnow hended
    rw [Signer.checkExpiry_of_ended hc hnow he hle] at h
    exact ⟨(Except.error.inj h).symm, e, he, hle⟩
  · rintro ⟨rfl, e, he, hle⟩
    exact Signer.checkExpiry_of_ended hc hnow he hle

end Claims

namespace Signer

/-- A start time that has come stays in the past. -/
theorem startOk_of_le {payload : Members} {earlier machineTime : Int} (hle : earlier ≤ machineTime)
    (h : startOk payload earlier = true) : startOk payload machineTime = true := by
  unfold startOk at h ⊢
  split
  · rfl
  · next v hv =>
    simp only [hv] at h
    split
    · next n hn =>
      simp only [hn, decide_eq_true_eq] at h ⊢
      omega
    · next f hf =>
      simp only [hf] at h
      cases h

variable [Platform] {s : Signer} {token : Json} {audience : Option Audience} {c : Claims}
  {now later : DateTime} {f : Fault}

/-- The claims of a token that passes every check but that of the time. -/
def told (s : Signer) (token : Json) (audience : Option Audience) : Except Fault Claims := do
  let header ← readHeader token
  let secret ← s.keyFor header
  let payload ← s.decode secret token audience
  claimsOf payload

/-- What a token tells is held against the time alone. -/
theorem verify_eq (s : Signer) (token : Json) (audience : Option Audience) (now : DateTime) :
    s.verify token audience now =
      s.told token audience >>= fun c => (fun _ => c) <$> checkExpiry c now := by
  unfold verify told
  cases readHeader token with
  | error f => rfl
  | ok header =>
    simp only [bind, Except.bind]
    cases s.keyFor header with
    | error f => rfl
    | ok secret =>
      dsimp only
      cases s.decode secret token audience with
      | error f => rfl
      | ok payload =>
        dsimp only
        cases claimsOf payload with
        | error f => rfl
        | ok c => cases checkExpiry c now <;> rfl

theorem wholeSeconds_of_told (h : s.told token audience = .ok c) : c.WholeSeconds := by
  obtain ⟨header, -, h⟩ := bind_eq_ok.1 h
  obtain ⟨secret, -, h⟩ := bind_eq_ok.1 h
  obtain ⟨payload, -, h⟩ := bind_eq_ok.1 h
  exact Claims.wholeSeconds_ofPayload (claimsOf_eq_ok.1 h)

/-- A token that fails at one time fails in the same way at every later time. -/
theorem verify_of_error (hnow : now.offset.isSome = true) (hlater : later.offset.isSome = true)
    (hle : now.instant ≤ later.instant) (h : s.verify token audience now = .error f) :
    s.verify token audience later = .error f := by
  rw [verify_eq] at h ⊢
  rcases bind_eq_error.1 h with h | ⟨c, hc, h⟩
  · rw [h]
    rfl
  · have hwhole := wholeSeconds_of_told hc
    obtain ⟨rfl, e, he, hended⟩ :=
      (Claims.checkExpiry_eq_error hwhole hnow).1 (map_eq_error.1 h)
    have hstill : checkExpiry c later = .error (expired c) :=
      (Claims.checkExpiry_eq_error hwhole hlater).2 ⟨rfl, e, he, by omega⟩
    exact bind_eq_error.2 (.inr ⟨c, hc, map_eq_error.2 hstill⟩)

/-- A token that is accepted is later accepted or expired. -/
theorem verify_of_ok (hlater : later.offset.isSome = true)
    (h : s.verify token audience now = .ok c) :
    s.verify token audience later = .ok c ∨ s.verify token audience later = .error (expired c) := by
  have hwhole := Claims.wholeSeconds_of_verify h
  rw [verify_of_verify h]
  cases hexpiry : checkExpiry c later with
  | ok => exact .inl rfl
  | error f =>
    obtain ⟨rfl, -⟩ := (Claims.checkExpiry_eq_error hwhole hlater).1 hexpiry
    exact .inr rfl

/-! ### The clock of the machine -/

/-- No payload that can be read from the text tells a start time. -/
def Startless (t : AnyText) : Prop :=
  ∀ (s : String) k payload, t = s → Compact.read s.toList = .ok k →
    Compact.object k.payload = .ok payload → payload.get? "nbf" = none

/-- The tokens that a signer makes have no start time. -/
theorem startless_of_sign {t : String} (hc : c.WholeSeconds) (h : s.sign c = .ok t) :
    Startless t := by
  intro t' k payload ht hread hobject
  obtain rfl := AnyText.string.inj ht
  obtain ⟨payload', htold, hsigned⟩ := sign_eq_ok hc h
  obtain ⟨sig, -, hread'⟩ := read_signPayload hsigned
  obtain rfl := Except.ok.inj (hread'.symm.trans hread)
  obtain rfl := Except.ok.inj ((Compact.object_print htold.regular).symm.trans hobject)
  exact htold.start

/-- Without a start time a token is accepted or refused on every machine alike. -/
theorem verify_onMachine {t : AnyText} (h : Startless t) (s : Signer) (machineTime : Int)
    (audience : Option Audience) (now : DateTime) :
    (s.onMachine machineTime).verify (.text t) audience now = s.verify (.text t) audience now := by
  cases hheader : readHeader (.text t) with
  | error f => simp only [verify, hheader, bind, Except.bind]
  | ok header =>
    obtain ⟨t', k, ht, hread, rfl⟩ := readHeader_eq_ok.1 hheader
    obtain rfl := Json.text.inj ht
    cases hkey : s.keyFor k.header with
    | error f =>
      have hkey' : (s.onMachine machineTime).keyFor k.header = .error f := hkey
      simp only [verify, hheader, hkey, hkey', bind, Except.bind]
    | ok secret =>
      rw [verify_of_read hread hkey, verify_of_read (s := s.onMachine machineTime) hread hkey]
      have hsignature : (s.onMachine machineTime).checkSignature secret k =
        s.checkSignature secret k := rfl
      rw [hsignature]
      cases hpayload : payloadOf k with
      | error f => rfl
      | ok payload =>
        have hstart := h t' k payload rfl hread (payloadOf_eq_ok.1 hpayload)
        have hstarted (machineTime : Int) : startOk payload machineTime = true := by
          rw [startOk, hstart]
        have hchecked : (s.onMachine machineTime).checkPayload payload audience =
            s.checkPayload payload audience := by
          simp only [checkPayload, hstarted]
          rfl
        simp only [bind, Except.bind, hchecked]

/-- A token whose start has come stays accepted as the clock of the machine goes on. -/
theorem verify_onMachine_of_ok {machineTime : Int} (hle : s.machineTime ≤ machineTime)
    (h : s.verify token audience now = .ok c) :
    (s.onMachine machineTime).verify token audience now = .ok c := by
  obtain ⟨t, k, secret, payload, rfl, hread, hkey, hsigned, hobject, hchecked, hclaims, hexpiry⟩ :=
    verify_eq_ok.1 h
  obtain ⟨hrequired, hstart, hrest⟩ := checkPayload_eq_ok.1 hchecked
  exact verify_eq_ok.2 ⟨t, k, secret, payload, rfl, hread, hkey, hsigned, hobject,
    checkPayload_eq_ok.2 ⟨hrequired, startOk_of_le hle hstart, hrest⟩, hclaims, hexpiry⟩

end Signer
end Gatehouse
