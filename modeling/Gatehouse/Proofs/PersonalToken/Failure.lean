import Gatehouse.Proofs.PersonalToken.Life
import Gatehouse.Proofs.Token.Failure

/-!
Stored tokens that cannot be checked. A record whose token fails to authenticate is passed over, but
a token in one of the gaps of the check blocks every other token of its user:
`fails_untyped_iff` says when listing and pruning go through.
-/
namespace Gatehouse

namespace TokenRegistry
open Hash Signer

section
variable [Platform] {r : TokenRegistry} {s : KeyValue} {owner : Json} {records : List TokenRecord}
  {now : DateTime}

theorem view_eq_error {x : TokenRecord} {f : Fault} : r.view x now = .error f ↔
    r.signer.verify (.text x.token) (some .personalAccess) now = .error f := by
  simp [view, bind_eq_error]

/-- A record whose view fails with an authentication failure, or not at all, is passed. -/
theorem exists_verifyEach_cons {x : TokenRecord}
    (h : ∀ f, r.view x now = .error f → f.isUnauthorized = true) :
    (∃ verified, r.verifyEach now (x :: records) = .ok verified) ↔
      ∃ verified, r.verifyEach now records = .ok verified := by
  have hmap {first : Except ServiceError TokenView} :
      (∃ verified, (first :: ·) <$> r.verifyEach now records = .ok verified) ↔
        ∃ verified, r.verifyEach now records = .ok verified := by
    simp [map_eq_ok]
  cases hview : r.view x now with
  | ok v => simpa only [verifyEach, hview] using hmap
  | error f =>
    cases f with
    | service e =>
      have he : e.kind.isUnauthorized = true := h _ hview
      simpa only [verifyEach, hview, he, if_true] using hmap
    | _ => cases h _ hview

/-- All records are looked at when none fails with something else than an authentication failure. -/
theorem exists_verifyEach : (∃ verified, r.verifyEach now records = .ok verified) ↔
    ∀ x ∈ records, ∀ f, r.view x now = .error f → f.isUnauthorized = true := by
  induction records with
  | nil => simp [verifyEach]
  | cons x rest ih =>
    by_cases hx : ∀ f, r.view x now = .error f → f.isUnauthorized = true
    · rw [exists_verifyEach_cons hx, ih]
      simp only [List.forall_mem_cons]
      exact (and_iff_right hx).symm
    · have hall : ¬ ∀ y ∈ x :: rest, ∀ f, r.view y now = .error f → f.isUnauthorized = true :=
        fun h => hx (h x (by simp))
      simp only [hall, iff_false, not_exists]
      intro verified hverified
      apply hx
      intro f hf
      rw [verifyEach, hf] at hverified
      cases f with
      | service e =>
        dsimp only at hverified
        split at hverified
        · assumption
        · cases hverified
      | _ => cases hverified

theorem exists_list (h : Settings.getTokens s owner = .ok records) :
    (∃ views, r.list s owner now = .ok views) ↔
      ∃ verified, r.verifyEach now records = .ok verified := by
  simp [list, h, bind_eq_ok]

theorem exists_prune (hs : s.Quiet) (h : Settings.getTokens s owner = .ok records) :
    (∃ n, (r.prune s owner now).1 = .ok n) ↔
      ∃ verified, r.verifyEach now records = .ok verified := by
  have hout := Settings.outcome_updateTokens r.settings hs h (r.live now)
  simp only [prune, hout, live]
  cases r.verifyEach now records with
  | error f => simp [bind, Except.bind, Except.map]
  | ok verified => simp [bind, Except.bind, Except.map]

/-- With usable keys, checking a token fails with something else than an authentication failure
exactly in the gaps, and listing or pruning readable records fails exactly when one of their tokens
is in a gap. -/
theorem fails_untyped_iff {d : Digest}
    (halg : Algorithm.ofName? r.signer.algorithm = some (.keyed d))
    (hring : ∀ kid secret, r.signer.keys.lookup kid = some secret →
      Platform.usableSecret secret = true) :
    (∀ (token : Json) (audience : Option Audience) (now : DateTime) (f : Fault),
      now.offset.isSome = true →
      (r.signer.verify token audience now = .error f ∧ f.isUnauthorized = false ↔
        r.signer.Gap audience token f)) ∧
    ∀ (s : KeyValue) (owner : Json) (records : List TokenRecord) (now : DateTime),
      s.Quiet → Settings.getTokens s owner = .ok records → now.offset.isSome = true →
      ((∃ views, r.list s owner now = .ok views) ↔
        ∀ x ∈ records, ∀ f, ¬ r.signer.Gap (some .personalAccess) (.text x.token) f) ∧
      ((∃ n, (r.prune s owner now).1 = .ok n) ↔
        ∀ x ∈ records, ∀ f, ¬ r.signer.Gap (some .personalAccess) (.text x.token) f) := by
  have hverify {token : Json} {audience : Option Audience} {now : DateTime} {f : Fault}
      (hnow : now.offset.isSome = true) :
      r.signer.verify token audience now = .error f ∧ f.isUnauthorized = false ↔
        r.signer.Gap audience token f :=
    ⟨fun h => gap_of_verify halg hring hnow h.1 h.2,
      fun h => ⟨h.verify_eq now, h.not_isUnauthorized⟩⟩
  refine ⟨fun token audience now f hnow => hverify hnow, ?_⟩
  intro s owner records now hs hget hnow
  have hgaps : (∃ verified, r.verifyEach now records = .ok verified) ↔
      ∀ x ∈ records, ∀ f, ¬ r.signer.Gap (some .personalAccess) (.text x.token) f := by
    rw [exists_verifyEach]
    refine forall₂_congr fun x _ => forall_congr' fun f => ?_
    rw [view_eq_error, ← hverify hnow, not_and, Bool.not_eq_false]
  exact ⟨(exists_list hget).trans hgaps, (exists_prune hs hget).trans hgaps⟩

end

/-! ### A signed token that cannot be checked -/

section
attribute [local instance] Platform.standard

/-- Claims whose expiry is beyond 64 bits. -/
def outsizedPayload : Members :=
  [("name", .text "ann"), ("sub", .text "7"), ("aud", .text "personal-access"),
    ("iss", .text "gatehouse"), ("iat", .int 0), ("exp", .int 100000000000000000000)]

/-- A store with records of these tokens for the user with number 7. -/
def sampleStore (tokens : List String) : KeyValue :=
  .shared [(Settings.key (.int 7) Settings.tokensName,
    String.ofList (Json.print
      (TokenRecord.setting (tokens.map fun t : String => ⟨t, "laptop"⟩))))] []

theorem getTokens_sampleStore (tokens : List String) :
    Settings.getTokens (sampleStore tokens) (.int 7) =
      .ok (tokens.map fun t : String => ⟨t, "laptop"⟩) := by
  have hholds : Settings.Holds (sampleStore tokens) (.int 7)
      (tokens.map fun t : String => ⟨t, "laptop"⟩) :=
    .inr (by simp [sampleStore, KeyValue.shared, KeyValue.text?, Table.get?])
  exact hholds.getTokens (KeyValue.shared_quiet _ _)

theorem exists_gap_outsized : ∃ t, Signer.sample.signPayload outsizedPayload = .ok t ∧
    Signer.sample.Gap (some .personalAccess) (.text t) .outOfRange := by
  have hsecret : Platform.usableSecret Signer.sample.secret = true := by decide +kernel
  obtain ⟨t, ht⟩ := exists_signPayload (s := .sample) (.inl ⟨.sha256, rfl, hsecret⟩)
    (show writable outsizedPayload = true from rfl)
  have hsmall : 100000000000000000000 < 10 ^ Json.digitLimit :=
    (show 100000000000000000000 < 10 ^ 21 by decide).trans_le
      (Nat.pow_le_pow_right (by decide) (by decide))
  have hregular : Json.Regular Platform.depthLimit (.object outsizedPayload) := by
    apply Json.Regular.of_hundred
    simpa [Json.Regular, Json.RegularMembers, outsizedPayload] using hsmall
  obtain ⟨k, hread, hkey, hsigned, hobject⟩ :=
    accepts_signPayload (s := .sample) (d := .sha256) rfl hsecret hregular ht
  have hchecked : Signer.sample.checkPayload outsizedPayload (some .personalAccess) = .ok () :=
    checkPayload_eq_ok.2 ⟨by decide, rfl, rfl, rfl, rfl, rfl⟩
  have haud : outsizedPayload.get? "aud" = some (.text Audience.personalAccess.name) := rfl
  have htimes : Claims.Mistimed outsizedPayload .outOfRange :=
    .expires haud rfl rfl rfl (.wide rfl (by decide))
  exact ⟨t, ht, .times ⟨hread, _, hkey, hsigned⟩ hobject hchecked htimes⟩

/-- Its failure is no authentication failure, and the tokens of its user cannot be listed. -/
theorem outsized_expiry_blocks_list : ∃ t, Signer.sample.signPayload outsizedPayload = .ok t ∧
    Signer.sample.verify (.text t) (some .personalAccess) ⟨0, some 0⟩ = .error .outOfRange ∧
    Fault.outOfRange.isUnauthorized = false ∧
    TokenLife.sampleRegistry.list (sampleStore [t]) (.int 7) ⟨0, some 0⟩ = .error .outOfRange := by
  obtain ⟨t, ht, hgap⟩ := exists_gap_outsized
  have hverify := hgap.verify_eq ⟨0, some 0⟩
  have hview : TokenLife.sampleRegistry.view ⟨t, "laptop"⟩ ⟨0, some 0⟩ = .error .outOfRange :=
    view_eq_error.2 hverify
  refine ⟨t, ht, hverify, rfl, ?_⟩
  simp only [list, getTokens_sampleStore, List.map_cons, List.map_nil, verifyEach, hview, bind,
    Except.bind]

/-- A text that is no token is passed over, the outsized token beside it is not. -/
theorem fails_untyped_iff_sample : ∃ t, Signer.sample.signPayload outsizedPayload = .ok t ∧
    (∃ views, TokenLife.sampleRegistry.list (sampleStore ["junk"]) (.int 7) ⟨0, some 0⟩ =
      .ok views) ∧
    ¬ ∃ n, (TokenLife.sampleRegistry.prune (sampleStore ["junk", t]) (.int 7) ⟨0, some 0⟩).1 =
      .ok n := by
  obtain ⟨t, ht, hgap⟩ := exists_gap_outsized
  have hring : ∀ kid secret, Signer.sample.keys.lookup kid = some secret →
      Platform.usableSecret secret = true := by
    intro kid secret h
    have hsecret : secret = "a secret" := by
      simp only [Signer.sample, List.lookup_cons, List.lookup_nil] at h
      split at h
      · exact (Option.some.inj h).symm
      · cases h
    rw [hsecret]
    decide +kernel
  have hjunk (f : Fault) : ¬ Signer.sample.Gap (some .personalAccess) (.text "junk") f := by
    have hnoDot : Text.cutLast '.' "junk".toList = none := by decide +kernel
    have hread : Compact.read "junk".toList = .error .malformed := by rw [Compact.read, hnoDot]
    intro h
    cases h with
    | header hdeep => cases hread.symm.trans hdeep
    | payload h => cases hread.symm.trans h.read
    | times h => cases hread.symm.trans h.read
  obtain ⟨-, hstored⟩ := fails_untyped_iff (r := TokenLife.sampleRegistry) (d := .sha256) rfl hring
  have hlist := (hstored (sampleStore ["junk"]) (.int 7) _ ⟨0, some 0⟩ (KeyValue.shared_quiet _ _)
    (getTokens_sampleStore _) rfl).1
  have hprune := (hstored (sampleStore ["junk", t]) (.int 7) _ ⟨0, some 0⟩
    (KeyValue.shared_quiet _ _) (getTokens_sampleStore _) rfl).2
  refine ⟨t, ht, hlist.2 ?_, ?_⟩
  · intro x hx f
    obtain rfl := List.mem_singleton.1 hx
    exact hjunk f
  · rw [hprune]
    intro h
    exact h ⟨t, "laptop"⟩ (by simp) .outOfRange hgap

end

end TokenRegistry
end Gatehouse
