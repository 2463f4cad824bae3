import Gatehouse.Proofs.Auth.Identity
import Gatehouse.Proofs.PersonalToken.Ledger

/-!
Whose tokens are on record. Every record of a user was added by a creation for this user, in the
order of these creations, and its token names this user and authenticates nobody else:
`records_owned`, for every run of the registry whatever befalls it.
-/
namespace Gatehouse
open Text Hash

namespace TokenLife

section
variable [Platform]

/-- A creation that was answered with a view: for whom, what was asked for, and when. -/
structure Creation where
  user : User
  description : Json
  expiresAt : Option DateTime
  now : DateTime
  view : TokenView

namespace Creation

/-- The claims that its token makes. -/
def claims (k : Creation) (issuer : String) : Claims :=
  .personal issuer k.user.username k.user.id k.expiresAt k.now

/-- The record that it adds. -/
def record (k : Creation) : TokenRecord := ⟨k.view.token, k.view.description⟩

end Creation

/-- The entry is this creation. -/
structure Entry.Made (x : Entry) (k : Creation) : Prop where
  request : x.event.request = .create k.user k.description k.expiresAt
  now : x.event.now = k.now
  answer : x.answer = .created (.ok k.view)

omit [Platform] in
/-- Records are added by creations only. -/
theorem record?_eq_some {x : Entry} {id : Int} {kept : TokenRecord} :
    x.record? id = some kept ↔ ∃ k, x.Made k ∧ k.user.id = id ∧ k.record = kept := by
  obtain ⟨⟨request, now, t⟩, answer⟩ := x
  constructor
  · intro h
    unfold Entry.record? at h
    split at h
    · next user description expiresAt view hrequest hanswer =>
      split at h
      · next hid =>
        obtain rfl := Option.some.inj h
        exact ⟨⟨user, description, expiresAt, now, view⟩, ⟨hrequest, rfl, hanswer⟩, hid, rfl⟩
      · cases h
    · cases h
  · rintro ⟨k, ⟨rfl, rfl, rfl⟩, rfl, rfl⟩
    simp [Entry.record?, Creation.record]

section
variable {r : TokenRegistry} {incidents : List Incident} {x : Entry} {k : Creation}

/-- Every entry of a run was answered by the registry on some store. -/
theorem exists_answer_of_mem (hx : x ∈ (course r incidents).history) :
    ∃ s, x.answer = (x.event.request.answer (r.onMachine x.event.machineTime) s x.event.now).1 := by
  induction incidents using List.reverseRecOn with
  | nil => cases hx
  | append_singleton incidents i ih =>
    rw [course_concat] at hx
    cases i with
    | asked e =>
      rcases List.mem_append.1 hx with hx | hx
      · exact ih hx
      · obtain rfl := List.mem_singleton.1 hx
        exact ⟨_, rfl⟩
    | losing n => exact ih hx
    | failing f => exact ih hx

/-- The token of a creation is signed for the claims of its user. -/
theorem personal_of_made (hx : x ∈ (course r incidents).history) (h : x.Made k) :
    r.signer.Personal k.view.token (k.claims r.signer.issuer) ∧
      (k.claims r.signer.issuer).userId = .ok k.user.id := by
  obtain ⟨s, hs⟩ := exists_answer_of_mem hx
  rw [h.answer, h.request, h.now] at hs
  have hcreate := (Answer.created.inj hs).symm
  obtain ⟨kept, hprepare⟩ := TokenRegistry.prepare_of_create hcreate
  obtain ⟨-, c, rfl, hpersonal, hid, -⟩ := TokenRegistry.personal_of_prepare hprepare
  exact ⟨hpersonal.of_onMachine, hid⟩

end

/-! ### The order of records -/

/-- The records that creations for the user added, in the order in which these succeeded. -/
def created (id : Int) (history : List Entry) : List TokenRecord :=
  history.filterMap fun x => x.record? id

/-- The ledger drops records and never moves one. -/
theorem ledger_sublist (r : TokenRegistry) (id : Int) (history : List Entry) :
    (ledger r id history).Sublist (created id history) := by
  induction history using List.reverseRecOn with
  | nil => exact List.Sublist.refl []
  | append_singleton history x ih =>
    have hcreated : created id (history ++ [x]) = created id history ++ (x.record? id).toList := by
      rw [created, List.filterMap_append]
      cases h : x.record? id <;> simp [h, created]
    rw [ledger_concat, hcreated]
    exact (List.filter_sublist.trans ih).append (List.Sublist.refl _)

theorem exists_made_of_mem {r : TokenRegistry} {id : Int} {history : List Entry}
    {kept : TokenRecord} (h : kept ∈ ledger r id history) :
    ∃ x ∈ history, ∃ k, x.Made k ∧ k.user.id = id ∧ k.record = kept := by
  obtain ⟨x, hx, hrecord⟩ := List.mem_filterMap.1 ((ledger_sublist r id history).subset h)
  exact ⟨x, hx, record?_eq_some.1 hrecord⟩

/-! ### The owner of a token -/

/-- The token verifies exactly until it expires, as a personal token of the signer for the user with
this number, and authenticates nobody else. -/
structure Owned (r : TokenRegistry) (id : Int) (token : AnyText) (c : Claims) : Prop where
  audience_eq : c.audience = .personalAccess
  issuer_eq : c.issuer = r.signer.issuer
  subject_eq : c.subject = Json.plainText (.int id)
  verify_iff : ∀ t now c', (r.onMachine t).signer.verify (.text token) (some .personalAccess) now =
    .ok c' ↔ c' = c ∧ c.LiveAt now
  authenticates : ∀ m t d s header shown cookies now u, header ≠ "" → Shows header shown →
    token = .string shown →
    (authenticate m (r.onMachine t) d s ⟨some header, cookies⟩ now).outcome = .ok u → u.id = id

theorem owned_of_personal {r : TokenRegistry} {k : Creation}
    (h : r.signer.Personal k.view.token (k.claims r.signer.issuer))
    (hid : (k.claims r.signer.issuer).userId = .ok k.user.id) :
    Owned r k.user.id k.view.token (k.claims r.signer.issuer) := by
  refine ⟨rfl, rfl, rfl, fun t _ _ => h.verify_iff t, ?_⟩
  intro m t d s header shown cookies now u hne hshows htoken hu
  rw [authenticate_of_header rfl hne] at hu
  obtain ⟨c, id, hverify, huser, -, hknown, -⟩ := authenticateToken_eq_ok.1 hu
  rw [← shows_iff.1 hshows, ← htoken] at hverify
  obtain ⟨rfl, -⟩ := (h.verify_iff t).1 hverify
  rw [(Directory.of_byId hknown).2]
  exact Except.ok.inj (huser.symm.trans hid)

/-- After every run the text of a user stands for records that successful creations for this user
added, in their order, and every token among them is this user's and nobody else's. -/
theorem records_owned (r : TokenRegistry) (incidents : List Incident) (id : Int) :
    ∃ records, Settings.Holds (course r incidents).store (.int id) records ∧
      ((course r incidents).store.failure = none →
        Settings.getTokens (course r incidents).store (.int id) = .ok records) ∧
      records.Sublist (created id (course r incidents).history) ∧
      ∀ kept ∈ records, ∃ x ∈ (course r incidents).history, ∃ k, x.Made k ∧ k.user.id = id ∧
        k.record = kept ∧ Owned r id kept.token (k.claims r.signer.issuer) := by
  have hholds := (tallies_course r incidents).holds id
  refine ⟨_, hholds, fun hreachable => hholds.getTokens_of_failure hreachable,
    ledger_sublist r id _, ?_⟩
  intro kept hkept
  obtain ⟨x, hx, k, hmade, rfl, rfl⟩ := exists_made_of_mem hkept
  obtain ⟨hpersonal, hid⟩ := personal_of_made hx hmade
  exact ⟨x, hx, k, hmade, rfl, rfl, owned_of_personal hpersonal hid⟩

end

section
attribute [local instance] Platform.standard

/-- The store cannot be reached for a while before a token is created. -/
def sampleOutage : List Incident := [.failing (some .timeout), .failing none]

/-- The sample user owns the one record then. -/
theorem records_owned_sample : ∃ (view : TokenView) (c : Claims),
    Settings.getTokens (course sampleRegistry (sampleOutage ++ [.asked sampleCreation])).store
      (.int 7) = .ok [⟨view.token, view.description⟩] ∧ Owned sampleRegistry 7 view.token c := by
  obtain ⟨kept, view, hprepare, -⟩ := prepare_sample
  obtain ⟨rfl, -⟩ := TokenRegistry.personal_of_prepare hprepare
  have hquiet : (course sampleRegistry sampleOutage).store.Quiet := ⟨rfl, rfl, Int.le_refl 0⟩
  have hempty : Settings.Holds (course sampleRegistry sampleOutage).store (.int sampleUser.id) [] :=
    .inl ⟨rfl, rfl⟩
  obtain ⟨-, hsettled, htokens⟩ := course_create (t := 0) hquiet hempty hprepare
  rw [← sampleCreation] at hsettled htokens
  obtain ⟨records, hholds, hread, -, howned⟩ :=
    records_owned sampleRegistry (sampleOutage ++ [.asked sampleCreation]) 7
  obtain rfl := Settings.Holds.eq_of_getTokens htokens (hholds.getTokens hsettled)
  obtain ⟨x, -, k, -, -, -, hk⟩ := howned ⟨view.token, view.description⟩ (by simp)
  exact ⟨view, _, hread hsettled.failure, hk⟩

end

end TokenLife
end Gatehouse
