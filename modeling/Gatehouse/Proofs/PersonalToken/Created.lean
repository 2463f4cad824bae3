import Gatehouse.Proofs.PersonalToken.Amended
import Gatehouse.Proofs.PersonalToken.Failure
import Gatehouse.Proofs.PersonalToken.Listed
import Gatehouse.Proofs.PersonalToken.Unrefused

/-!
A creation from beginning to end. `Creatable` is all that it needs beside a store that it reaches;
its record comes behind those that the last intruding client left, and the next list shows it in its
place among theirs. A creation that fails leaves what the other clients leave.
-/
namespace Gatehouse

namespace TokenRegistry
open Hash

/-- What a creation needs beside a store: texts, a number that can be shown, and times that UTC can
tell, of which the expiry, cut to the second, lies ahead. -/
structure Creatable (username description : Json) (id : Int) (expiresAt : Option DateTime)
    (now : DateTime) : Prop where
  named : ∃ name : AnyText, username = .text name
  described : ∃ text : AnyText, description = .text text
  numbered : id.natAbs < 10 ^ Text.integerDigitLimit
  timed : DateTime.inRange now.instant = true
  ahead : ∀ e, expiresAt = some e →
    DateTime.inRange e.instant = true ∧ now.instant < e.floorSecond.instant

theorem inRange_of_checkedExpiry {owner : Json} {now e : DateTime} {x : Option DateTime}
    (h : checkedExpiry owner (some e) now = .ok x) : DateTime.inRange e.instant = true := by
  cases hfloor : e.truncateToSeconds with
  | ok floor => exact (DateTime.truncateToSeconds_eq_ok.1 hfloor).1
  | error f => cases f <;> simp [checkedExpiry, hfloor] at h

section
variable [Platform]

section
variable {r : TokenRegistry} {username description : Json} {id : Int} {now : DateTime}
  {expiresAt : Option DateTime} {kept : TokenRecord} {view : TokenView}

theorem creatable_of_prepare
    (h : r.prepare username (.int id) description expiresAt now = .ok (kept, view)) :
    Creatable username description id expiresAt now := by
  obtain ⟨e, hexpiry, h⟩ := bind_eq_ok.1 h
  obtain ⟨token, hissue, h⟩ := bind_eq_ok.1 h
  obtain ⟨record, hrecord, -⟩ := bind_eq_ok.1 h
  obtain ⟨c, hbuild, -⟩ := bind_eq_ok.1 hissue
  obtain ⟨hid, hissued, -, hname, -⟩ := Claims.build_eq_ok.1 hbuild
  obtain ⟨text, htext, -⟩ := record_eq_ok.1 hrecord
  refine ⟨⟨_, hname⟩, ⟨text, htext⟩, Claims.hasLongInteger_int.1 hid,
    (DateTime.truncateToSeconds_eq_ok.1 hissued).1, ?_⟩
  rintro e rfl
  refine ⟨inRange_of_checkedExpiry hexpiry, ?_⟩
  rw [checkedExpiry_eq_ok hexpiry] at hexpiry
  exact (ahead_of_checkedExpiry hexpiry).2

theorem exists_prepare_iff {d : Digest}
    (halg : Algorithm.ofName? r.signer.algorithm = some (.keyed d))
    (hsecret : Platform.usableSecret r.signer.secret = true) (haware : now.offset.isSome = true) :
    (∃ p, r.prepare username (.int id) description expiresAt now = .ok p) ↔
      Creatable username description id expiresAt now := by
  constructor
  · rintro ⟨p, hp⟩
    exact creatable_of_prepare hp
  · rintro ⟨⟨name, rfl⟩, ⟨text, rfl⟩, hid, hnow, hexpiry⟩
    obtain ⟨kept, view, hp, -⟩ := exists_prepare halg hsecret name text hid haware hnow hexpiry
    exact ⟨_, hp⟩

/-- What a creation returns: the token that it signed for the user, the description as it was given,
and times to the second. -/
structure Returns (r : TokenRegistry) (username description : Json) (id : Int)
    (expiresAt : Option DateTime) (now : DateTime) (view : TokenView) : Prop where
  token : ∃ name : AnyText, username = .text name ∧
    r.signer.Personal view.token (Claims.personal r.signer.issuer name id expiresAt now)
  description : description = .text view.description
  issuedAt : view.issuedAt = now.floorSecond
  expiresAt : view.expiresAt = expiresAt.map DateTime.floorSecond

theorem returns_of_prepare
    (h : r.prepare username (.int id) description expiresAt now = .ok (kept, view)) :
    kept = ⟨view.token, view.description⟩ ∧
      r.Returns username description id expiresAt now view := by
  obtain ⟨⟨name, rfl⟩, -⟩ := creatable_of_prepare h
  obtain ⟨hkept, c, rfl, hpersonal, -, -⟩ := personal_of_prepare h
  obtain ⟨hdescription, hview⟩ := view_of_prepare h
  obtain ⟨c, hverify, hview⟩ := bind_eq_ok.1 hview
  obtain rfl := Except.ok.inj hview
  obtain ⟨rfl, -⟩ := (hpersonal.verify_iff r.signer.machineTime).1 hverify
  exact ⟨hkept, ⟨name, rfl, hpersonal⟩, hdescription, rfl, rfl⟩

end

theorem entries_append (r : TokenRegistry) (now : DateTime) (records records' : List TokenRecord) :
    r.entries now (records ++ records') = r.entries now records ++ r.entries now records' :=
  List.filterMap_append

/-- A record that comes behind those of a list that is shown takes its place by its time. -/
theorem list_append {r : TokenRegistry} {s s' : KeyValue} {owner : Json} {now : DateTime}
    {records : List TokenRecord} {kept : TokenRecord} {view : TokenView} {views : List TokenView}
    (hget : Settings.getTokens s owner = .ok records)
    (hget' : Settings.getTokens s' owner = .ok (records ++ [kept]))
    (hview : r.view kept now = .ok view) (h : r.list s owner now = .ok views) :
    r.list s' owner now = .ok (sortBy (·.issuedAt.instant) (views ++ [view])) := by
  obtain ⟨records', hrecords, rfl⟩ := list_eq_ok h
  obtain rfl := Except.ok.inj (hget.symm.trans hrecords)
  have hpassed := exists_verifyEach_iff_passes.1 ((exists_list hget).1 ⟨_, h⟩)
  have hall : r.Passes now (records ++ [kept]) := by
    intro x hx f hf
    rcases List.mem_append.1 hx with hx | hx
    · exact hpassed x hx f hf
    · rw [List.mem_singleton.1 hx, ← view_eq_error, hview] at hf
      cases hf
  have hlast : r.entries now [kept] = [view] := by
    rw [entries, List.filterMap_cons_some (by rw [hview]; rfl), List.filterMap_nil]
  rw [list_of_passes hget' hall, entries_append, hlast, sortBy_append]

/-- What was prepared is kept, behind the records that the intrusions left. -/
theorem create_of_prepare {r : TokenRegistry} {s : KeyValue} {username owner description : Json}
    {expiresAt : Option DateTime} {now : DateTime} {kept : TokenRecord} {view : TokenView}
    (hprepare : r.prepare username owner description expiresAt now = .ok (kept, view))
    (hs : s.failure = none)
    (hleft : s.overtakings (Settings.key owner Settings.tokensName) < r.settings.attempts)
    (hreads : ∀ i ≤ s.overtakings (Settings.key owner Settings.tokensName), ∃ records,
      Settings.Reads (s.contested (Settings.key owner Settings.tokensName) i) owner records) :
    let left := s.contested (Settings.key owner Settings.tokensName)
      (s.overtakings (Settings.key owner Settings.tokensName) + 1)
    let made := r.create s username owner description expiresAt now
    made.1 = .ok view ∧ made.2.failure = none ∧ ∃ records, Settings.Reads left owner records ∧
      Settings.Rewritten left made.2 owner (records ++ [kept]) := by
  have hamendable : Settings.Amendable s owner (fun rs => .ok (rs ++ [kept]))
      (s.overtakings (Settings.key owner Settings.tokensName)) := by
    intro i hi
    obtain ⟨records, hrecords⟩ := hreads i hi
    exact ⟨records, _, hrecords, rfl⟩
  obtain ⟨records, updated, hlast, hc, hout, -, hrewritten, hfailure⟩ :=
    Settings.updateTokens_of_left r.settings hs hleft hamendable
  obtain rfl := Except.ok.inj hc
  simp only [create, hprepare, hout]
  exact ⟨rfl, hfailure, records, hlast, hrewritten⟩

/-- A creation for a user whose records can be read, with attempts left, succeeds exactly for what
is creatable. It puts its record behind those that the other clients left, and what it returns takes
its place in the list. A creation that fails leaves what the other clients leave. -/
theorem create_settled (r : TokenRegistry) {d : Digest}
    (halg : Algorithm.ofName? r.signer.algorithm = some (.keyed d))
    (hsecret : Platform.usableSecret r.signer.secret = true) (s : KeyValue)
    (username description : Json) (id : Int) (expiresAt : Option DateTime) (now : DateTime)
    (haware : now.offset.isSome = true) :
    let owner := Json.int id
    let k := Settings.key owner Settings.tokensName
    let m := s.overtakings k
    let left := s.contested k (m + 1)
    let made := r.create s username owner description expiresAt now
    (s.failure = none → m < r.settings.attempts →
      (∀ i ≤ m, ∃ records, Settings.Reads (s.contested k i) owner records) →
        ((∃ view, made.1 = .ok view) ↔ Creatable username description id expiresAt now) ∧
        ∀ view, made.1 = .ok view → r.Returns username description id expiresAt now view ∧
          (∃ records, Settings.Reads left owner records ∧
            Settings.Rewritten left made.2 owner (records ++ [⟨view.token, view.description⟩])) ∧
          ∀ views, r.list left owner now = .ok views →
            r.list made.2 owner now = .ok (sortBy (·.issuedAt.instant) (views ++ [view]))) ∧
      ∀ f, made.1 = .error f → made.2.texts = (s.othersUntil made.2).texts := by
  intro owner k m left made
  refine ⟨fun hs hleft hreads => ?_, fun f hf => ?_⟩
  · have hiff : (∃ p, r.prepare username owner description expiresAt now = .ok p) ↔ _ :=
      exists_prepare_iff halg hsecret haware
    cases hprepare : r.prepare username owner description expiresAt now with
    | error f =>
      have hmade : made = (.error f, s) := create_of_error hprepare
      rw [hmade, ← hiff, hprepare]
      simp
    | ok p =>
      obtain ⟨kept, view⟩ := p
      obtain ⟨hkept, hreturns⟩ := returns_of_prepare hprepare
      obtain ⟨hok, hfailure, records, hlast, hrewritten⟩ :=
        create_of_prepare hprepare hs hleft hreads
      have hone (v : TokenView) (hv : made.1 = .ok v) : v = view :=
        Except.ok.inj (hv.symm.trans hok)
      refine ⟨⟨fun _ => creatable_of_prepare hprepare, fun _ => ⟨view, hok⟩⟩, ?_⟩
      intro v hv
      obtain rfl := hone v hv
      refine ⟨hreturns, ⟨records, hlast, hkept ▸ hrewritten⟩, fun views hviews => ?_⟩
      exact list_append (hlast.getTokens ((KeyValue.failure_contested s k (m + 1)).trans hs))
        (hrewritten.holds.getTokens_of_failure hfailure) (view_of_prepare hprepare).2 hviews
  · obtain ⟨n, helapsed, hends⟩ := amends_create r s owner now username description expiresAt
    rw [hf] at hends
    cases hends with
    | untouched ht => rw [helapsed.othersUntil, ht]

end

open TokenLife (sampleRegistry sampleUser)

/-- The sample registry with one more attempt. -/
def sampleRetrying : TokenRegistry := { sampleRegistry with settings := ⟨2, Nat.two_pos⟩ }

def sampleConflict : KeyValue := { KeyValue.empty with conflicts := 1 }

section
attribute [local instance] Platform.standard

/-- A creation that is overtaken once succeeds, and its token is then the only one of the list. -/
theorem create_settled_sample : ∃ view,
    let made := sampleRetrying.create sampleConflict (.text "ann") (.int 7) (.text "laptop")
      (some ⟨2 * second + 1, none⟩) ⟨second, some 0⟩
    made.1 = .ok view ∧ view.issuedAt = ⟨second, some 0⟩ ∧
      view.expiresAt = some ⟨2 * second, some 0⟩ ∧
      sampleRetrying.list made.2 (.int 7) ⟨second, some 0⟩ = .ok [view] := by
  have hsecret : Platform.usableSecret Signer.sample.secret = true := by decide +kernel
  have hreads (i : Nat) (hi : i ≤ 1) : ∃ records,
      Settings.Reads (sampleConflict.contested (Settings.key (.int 7) Settings.tokensName) i)
        (.int 7) records := by
    match i, hi with
    | 0, _ => exact ⟨[], .null, rfl, rfl⟩
    | 1, _ => exact ⟨[], .null, rfl, rfl⟩
  obtain ⟨hsettles, -⟩ := create_settled sampleRetrying (d := .sha256) rfl hsecret sampleConflict
    (.text "ann") (.text "laptop") 7 (some ⟨2 * second + 1, none⟩) ⟨second, some 0⟩ rfl
  obtain ⟨hiff, hall⟩ := hsettles rfl (by decide +kernel) hreads
  have hid : Json.hasLongInteger (.int 7) = false := by decide +kernel
  have hahead : ∀ e, some (⟨2 * second + 1, none⟩ : DateTime) = some e →
      DateTime.inRange e.instant = true ∧
        (⟨second, some 0⟩ : DateTime).instant < e.floorSecond.instant := by
    rintro e ⟨⟩
    decide
  obtain ⟨view, hview⟩ := hiff.2 ⟨⟨_, rfl⟩, ⟨_, rfl⟩, Claims.hasLongInteger_int.1 hid, by decide,
    hahead⟩
  obtain ⟨hreturns, -, hlists⟩ := hall view hview
  have hlist := hlists [] (bind_eq_ok.2 ⟨[], rfl, bind_eq_ok.2 ⟨[], rfl,
    congrArg Except.ok List.mergeSort_nil⟩⟩)
  rw [sortBy, List.nil_append, List.mergeSort_singleton] at hlist
  exact ⟨view, hview, hreturns.issuedAt, hreturns.expiresAt, hlist⟩

/-- Without an expiry a creation can fail: a token cannot tell such a time of issue. -/
theorem create_at_earlyClock : Platform.usableSecret sampleRegistry.signer.secret = true ∧
    DateTime.earlyClock.offset.isSome = true ∧
    Settings.getTokens .empty (.int sampleUser.id) = .ok [] ∧
    KeyValue.empty.overtakings (Settings.key (.int sampleUser.id) Settings.tokensName) = 0 ∧
    sampleRegistry.create .empty (.text sampleUser.username) (.int sampleUser.id) (.text "laptop")
      none .earlyClock = (.error .outOfRange, .empty) := by
  have hbuild : Claims.build ⟨.text sampleUser.username, .int sampleUser.id,
      .text Audience.personalAccess.name, .text Signer.sample.issuer, .earlyClock, none⟩ =
      .error .outOfRange := by
    have hid : Json.hasLongInteger (.int 7) = false := by decide +kernel
    exact Claims.build_of_untold hid DateTime.truncateToSeconds_earlyClock
  have hissue : sampleRegistry.issuer.personalAccess (.text sampleUser.username)
      (.int sampleUser.id) none .earlyClock = .error .outOfRange :=
    bind_eq_error.2 (.inl hbuild)
  have hprepare : sampleRegistry.prepare (.text sampleUser.username) (.int sampleUser.id)
      (.text "laptop") none .earlyClock = .error .outOfRange :=
    bind_eq_error.2 (.inr ⟨none, rfl, bind_eq_error.2 (.inl hissue)⟩)
  exact ⟨by decide +kernel, rfl, rfl, rfl, create_of_error hprepare⟩

end

end TokenRegistry

end Gatehouse
