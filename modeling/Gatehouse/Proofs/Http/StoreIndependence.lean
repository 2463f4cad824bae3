import Gatehouse.Proofs.Http.Secrecy
import Gatehouse.Proofs.Http.SessionCookies

/-!
What the settings store has to do with sessions. Signing in, signing out and asking for the profile
by cookies never read it, so its contents and its failures make no difference, as
`response_of_session` says. Whether it is connected makes none to signing in and out either. The
profile is refused without a connection, since every request that a user must be found for sets up
the registry of tokens.
-/
namespace Gatehouse.Http
open Number

/-- The request starts a session, ends one, or shows no more than the cookies of one to find out
whose it is. -/
inductive Request.OfSession (r : Request) : Prop where
  | starts (hasks : r.Asks .signIn)
  | ends (hasks : r.Asks .signOut)
  | shows (hasks : r.Asks .showProfile)
      (hheader : (Service.credentials r).authorization.getD "" = "")

section
variable [Platform]

namespace Service

/-- The same service with another settings store, which may be connected or not. -/
def withStore (s : Service) (store : KeyValue) (connected : Bool) : Service :=
  { s with store := store, connected := connected }

section
variable {s : Service} {r : Request} {now : DateTime} {store : KeyValue} {connected : Bool}

/-! ### The same connection -/

theorem caller_withStore (hheader : (credentials r).authorization.getD "" = "") :
    (s.withStore store s.connected).caller r now = s.caller r now := by
  simp only [caller, authenticate_of_empty hheader]
  rfl

/-- What a request of a session gives depends on the store at most by its connection. -/
theorem run_withStore (s : Service) (now : DateTime) (store : KeyValue) (h : r.OfSession)
    {a : Action} (hasks : r.Asks a) (hconnected : connected = s.connected ∨ a ≠ .showProfile) :
    ((s.withStore store connected).run r now a).1 = (s.run r now a).1 := by
  have hgiven : (s.withStore store connected).givenBody a r = s.givenBody a r := rfl
  rw [run_eq, run_eq, hgiven]
  split
  · rfl
  · cases h with
    | starts hsignIn =>
      obtain rfl := hasks.unique hsignIn
      rfl
    | ends hsignOut =>
      obtain rfl := hasks.unique hsignOut
      rfl
    | shows hshows hheader =>
      obtain rfl := hasks.unique hshows
      obtain rfl | hne := hconnected
      · show (s.withStore store s.connected).showProfile r now = s.showProfile r now
        rw [showProfile, caller_withStore hheader, showProfile]
      · exact absurd rfl hne

/-! ### No connection -/

/-- The fault is one of a configuration that no service can be set up with. -/
def Unusable (f : Fault) : Prop := f = .outOfRange ∨ ∃ message, f = .misconfigured message

omit [Platform] in
theorem unusable_of_ofMinutes {n : Int} {f : Fault} (h : Span.ofMinutes n = .error f) :
    Unusable f := by
  unfold Span.ofMinutes Span.check at h
  split at h
  · cases h
  · exact .inl (Except.error.inj h).symm

omit [Platform] in
/-- A manager fails for its configuration only. -/
theorem unusable_of_manager {f : Fault} (h : s.manager = .error f) : Unusable f := by
  obtain hissuer | ⟨issuer, -, h⟩ := bind_eq_error.1 h
  · obtain hsigner | ⟨signer, -, hissuer⟩ := bind_eq_error.1 hissuer
    · unfold Signer.ofConfig Signer.build at hsigner
      split at hsigner
      · cases hsigner
      · exact .inr ⟨_, (Except.error.inj hsigner).symm⟩
    · obtain haccess | ⟨access, -, hissuer⟩ := bind_eq_error.1 hissuer
      · exact unusable_of_ofMinutes haccess
      · obtain hrefresh | ⟨refresh, -, hissuer⟩ := bind_eq_error.1 hissuer
        · exact unusable_of_ofMinutes hrefresh
        · cases hissuer
  · obtain hthreshold | ⟨threshold, -, h⟩ := bind_eq_error.1 h
    · exact unusable_of_ofMinutes hthreshold
    · obtain hmargin | ⟨margin, -, h⟩ := bind_eq_error.1 h
      · exact unusable_of_ofMinutes hmargin
      · unfold SessionManager.build at h
        split at h
        · cases h
        · exact .inr ⟨_, (Except.error.inj h).symm⟩

omit [Platform] in
theorem registry_of_unconnected (h : s.connected = false) :
    s.registry = .error Connection.notConnected := by
  unfold registry Connection.require
  rw [h]
  rfl

/-- Without a connection no user is found, and no header written. -/
theorem run_of_unconnected (h : s.connected = false) (r : Request) (now : DateTime) :
    (∃ m, s.manager = .ok m) ∧
        (s.run r now .showProfile).1 = ⟨.error Connection.notConnected, []⟩ ∨
      ∃ f, Unusable f ∧ s.manager = .error f ∧
        (s.run r now .showProfile).1 = ⟨.error f, []⟩ := by
  have hrun : (s.run r now .showProfile).1 = s.showProfile r now := rfl
  rw [hrun, showProfile, caller]
  cases hm : s.manager with
  | ok m =>
    refine .inl ⟨⟨m, rfl⟩, ?_⟩
    rw [Written.lift_bind_of_ok rfl, Written.lift_bind_of_error (registry_of_unconnected h)]
    rfl
  | error f => exact .inr ⟨f, unusable_of_manager hm, rfl, rfl⟩

end
end Service

section
variable {s : Service} {r : Request}

/-- Without a connection to the store every request for the profile fails in the same way. -/
theorem refused_of_unconnected (h : s.connected = false) (hasks : r.Asks .showProfile)
    (now : DateTime) (elapsed : Binary64) :
    ∃ response, (exchange s r now elapsed).1.response = .ok response ∧ response.status = 500 ∧
      response.cookies = [] ∧ ∀ m path, s.manager = .ok m →
        s.framework.addressPath r = .ok path → response.content = .json
          (errorBody "Infrastructure error" (some "User settings store is not connected")) := by
  obtain ⟨route, hfound⟩ := hasks
  obtain ⟨response, hresponse, hdelivers⟩ := delivers_exchange s r now elapsed
  rw [hfound] at hdelivers
  refine ⟨response, hresponse, ?_⟩
  have hends := Service.run_of_unconnected h r now
  cases hdelivers with
  | question hmethod => exact absurd hmethod (ne_options_of_resolve hfound)
  | passed hinner _ hcarries =>
    rcases hends with ⟨-, hrun⟩ | ⟨f, hunusable, -, hrun⟩
    · rw [answerRoute_of_error (congrArg Written.outcome hrun)] at hinner
      obtain rfl := Except.ok.inj hinner
      exact ⟨hcarries.status, hcarries.cookies, fun _ _ _ _ => hcarries.content⟩
    · rw [answerRoute_of_error (congrArg Written.outcome hrun)] at hinner
      rcases hunusable with rfl | ⟨message, rfl⟩ <;> cases hinner
  | unexpected hf hexcuses =>
    refine ⟨hexcuses.status, hexcuses.cookies, fun m path hm hpath => ?_⟩
    rcases hends with ⟨-, hrun⟩ | ⟨f, -, hm', -⟩
    · rw [answerRoute_of_error (congrArg Written.outcome hrun)] at hf
      obtain hf | hf := hf
      · cases hf
      · cases hpath.symm.trans hf
    · cases hm'.symm.trans hm

theorem exchange_withStore {store : KeyValue} {connected : Bool} (h : r.OfSession)
    (hconnected : connected = s.connected ∨ ¬ r.Asks .showProfile) (now : DateTime)
    (elapsed : Binary64) :
    (exchange (s.withStore store connected) r now elapsed).1 = (exchange s r now elapsed).1 := by
  have hasks : ∃ a, r.Asks a ∧ (connected = s.connected ∨ a ≠ .showProfile) := by
    cases h with
    | starts hasks => exact ⟨.signIn, hasks, .inr (by decide)⟩
    | ends hasks => exact ⟨.signOut, hasks, .inr (by decide)⟩
    | shows hasks => exact ⟨.showProfile, hasks, .inl (hconnected.resolve_right (not_not.2 hasks))⟩
  obtain ⟨a, ⟨route, hfound⟩, hsame⟩ := hasks
  have hrun := Service.run_withStore s now store h ⟨route, hfound⟩ hsame
  exact exchange_congr hfound rfl rfl hrun

end

/-- The contents and the failures of the settings store make no difference to a request of a
session, and to one that starts or ends a session neither does its connection. Without a connection
the profile is not told to anybody: the request fails in one way, whatever its cookies, and leaves
them alone. The answer tells why, if sessions can be set up and the address has a path. -/
theorem response_of_session {r : Request} (h : r.OfSession) (s : Service) (now : DateTime)
    (elapsed : Binary64) (store : KeyValue) (connected : Bool) :
    (connected = s.connected ∨ ¬ r.Asks .showProfile →
      (exchange (s.withStore store connected) r now elapsed).1 = (exchange s r now elapsed).1) ∧
    (connected = false → r.Asks .showProfile → ∃ response,
      (exchange (s.withStore store connected) r now elapsed).1.response = .ok response ∧
        response.status = 500 ∧ response.cookies = [] ∧
        ∀ m path, s.manager = .ok m → s.framework.addressPath r = .ok path →
          response.content = .json
            (errorBody "Infrastructure error" (some "User settings store is not connected"))) := by
  constructor
  · intro hconnected
    exact exchange_withStore h hconnected now elapsed
  · intro hunconnected hasks
    apply refused_of_unconnected _ hasks
    exact hunconnected

end

/-! ### A visitor -/

section
attribute [local instance] Platform.standard

/-- A request for the profile without any cookie. -/
def sampleVisit : Request := ⟨"GET", "/v1/auth/me", [], [], []⟩

/-- A store that does not answer in time. -/
def sampleSilence : KeyValue := { KeyValue.empty with failure := some .timeout }

/-- A visitor is told the same by a service whose store does not answer, and by one whose store is
not connected that the store is not. -/
theorem response_of_session_sample :
    (exchange ((sampleWorld "" [] []).withStore sampleSilence true) sampleVisit ⟨0, some 0⟩
        (.ofInt 0)).1 =
      (exchange (sampleWorld "" [] []) sampleVisit ⟨0, some 0⟩ (.ofInt 0)).1 ∧
    ∃ response, (exchange ((sampleWorld "" [] []).withStore sampleSilence false) sampleVisit
        ⟨0, some 0⟩ (.ofInt 0)).1.response = .ok response ∧ response.status = 500 ∧
      response.content = .json
        (errorBody "Infrastructure error" (some "User settings store is not connected")) := by
  have hasks : sampleVisit.Asks .showProfile := by decide +kernel
  have hsession : sampleVisit.OfSession := .shows hasks rfl
  obtain ⟨hsame, -⟩ := response_of_session hsession (sampleWorld "" [] []) ⟨0, some 0⟩ (.ofInt 0)
    sampleSilence true
  obtain ⟨-, hrefused⟩ := response_of_session hsession (sampleWorld "" [] []) ⟨0, some 0⟩
    (.ofInt 0) sampleSilence false
  obtain ⟨response, hresponse, hstatus, -, hcontent⟩ := hrefused rfl hasks
  have hmanager := manager_sampleWorld "" [] []
  exact ⟨hsame (.inl rfl), response, hresponse, hstatus, hcontent _ _ hmanager rfl⟩

/-- With a store the visitor is unknown, and without a connection to it something has failed. -/
theorem connection_shows :
    (∃ response, (exchange (sampleWorld "" [] []) sampleVisit ⟨0, some 0⟩
        (.ofInt 0)).1.response = .ok response ∧ response.status = 401) ∧
      ∃ response, (exchange ((sampleWorld "" [] []).withStore (sampleWorld "" [] []).store false)
        sampleVisit ⟨0, some 0⟩ (.ofInt 0)).1.response = .ok response ∧ response.status = 500 := by
  constructor
  · apply exists_of_status
    decide +kernel
  · apply exists_of_status
    decide +kernel

end

end Gatehouse.Http
