import Gatehouse.Proofs.PersonalToken.Ownership

/-!
What a revocation reaches. A token is its claims, and these tell time to the second; so creations
for one user in one second may be given one token, and a revocation reaches all of them. It reaches
no other creation, and no other creation undoes it: `revocation_reaches`.
-/
namespace Gatehouse
open Text Hash

/-! ### Requests on two stores -/

section
variable {s s' : KeyValue} {records records' : List TokenRecord}

/-- Whether a token is on record depends on the records of this token only. -/
theorem contains_congr [Platform] {owner : Json} {token : AnyText}
    (h : Settings.Holds s owner records) (h' : Settings.Holds s' owner records')
    (hf : s'.failure = s.failure)
    (ht : records'.filter (·.token = token) = records.filter (·.token = token)) :
    TokenRegistry.contains s' owner token = TokenRegistry.contains s owner token := by
  cases hfailure : s.failure with
  | some f =>
    simp only [TokenRegistry.contains, Settings.getTokens, Settings.get, KeyValue.get, hf, hfailure,
      bind, Except.bind]
  | none =>
    have hany (l : List TokenRecord) :
        l.any (·.token == token) = !(l.filter (·.token = token)).isEmpty := by
      induction l with
      | nil => rfl
      | cons kept rest ih =>
        by_cases hkept : kept.token = token
        · simp [hkept]
        · simp [hkept, ih]
    simp only [TokenRegistry.contains, h.getTokens_of_failure hfailure,
      h'.getTokens_of_failure (hf.trans hfailure), bind, Except.bind, hany, ht]

theorem authenticate_congr [Platform] {m : SessionManager} {r : TokenRegistry} {d : Directory}
    {header token : String} {cookies : List String} {now : DateTime} (hne : header ≠ "")
    (hshows : Shows header token) (h : ∀ id : Int,
      TokenRegistry.contains s' (.int id) token = TokenRegistry.contains s (.int id) token) :
    authenticate m r d s' ⟨some header, cookies⟩ now =
      authenticate m r d s ⟨some header, cookies⟩ now := by
  obtain rfl := shows_iff.1 hshows
  rw [authenticate_of_header rfl hne, authenticate_of_header rfl hne]
  simp only [authenticateToken, h]

end

namespace TokenLife

section
variable [Platform]

/-! ### Creations of one token -/

/-- The creations are for one user and in one second, with expiries in one second or without. -/
structure Creation.Alike (k l : Creation) : Prop where
  username : k.user.username = l.user.username
  id : k.user.id = l.user.id
  now : k.now.floorSecond = l.now.floorSecond
  expiresAt : k.expiresAt.map DateTime.floorSecond = l.expiresAt.map DateTime.floorSecond

omit [Platform] in
theorem alike_iff {k l : Creation} {issuer : String} :
    k.Alike l ↔ k.claims issuer = l.claims issuer := by
  constructor
  · rintro ⟨husername, hid, hnow, hexpires⟩
    simp only [Creation.claims, Claims.personal, husername, hid, hnow, hexpires]
  · intro h
    obtain ⟨husername, hsubject, -, -, hnow, hexpires⟩ := Claims.mk.inj h
    refine ⟨AnyText.string.inj husername, ?_, hnow, hexpires⟩
    exact Json.integerChars_injective (String.ofList_injective (AnyText.string.inj hsubject))

section
variable {r : TokenRegistry} {incidents : List Incident} {x y : Entry} {k l : Creation}

theorem token_eq_iff (hx : x ∈ (course r incidents).history) (hk : x.Made k)
    (hy : y ∈ (course r incidents).history) (hl : y.Made l) :
    k.view.token = l.view.token ↔ k.Alike l := by
  obtain ⟨t, htoken, hsignedK⟩ := (personal_of_made hx hk).1.signed
  obtain ⟨t', htoken', hsignedL⟩ := (personal_of_made hy hl).1.signed
  have halike : k.Alike l ↔ k.claims r.signer.issuer = l.claims r.signer.issuer := alike_iff
  rw [halike, htoken, htoken', AnyText.string.injEq]
  constructor
  · rintro rfl
    exact hsignedK.unique hsignedL
  · intro h
    have hsign := hsignedK.sign
    rw [h] at hsign
    exact Except.ok.inj (hsign.symm.trans hsignedL.sign)

/-! ### The records of other tokens -/

/-- A revocation adds no record and drops none of another token. -/
theorem amend_of_revoke {owner id : Int} {token other : AnyText} {records : List TokenRecord}
    (hx : x.event.request = .revoke owner token) (hne : other ≠ token) :
    (x.amend r id records).filter (·.token = other) = records.filter (·.token = other) := by
  have hrecord : x.record? id = none := by
    unfold Entry.record?
    rw [hx]
  have hspared (kept : TokenRecord) (hkept : kept.token = other) : x.drops r id kept = false := by
    unfold Entry.drops
    rw [hx]
    split
    · next owner' token' hrequest _ =>
      obtain ⟨rfl, rfl⟩ := Request.revoke.inj hrequest
      simp [hkept, hne]
    · next hrequest _ => cases hrequest
    · rfl
  rw [Entry.amend, hrecord, Option.toList_none, List.append_nil, List.filter_filter]
  refine List.filter_congr fun kept _ => ?_
  by_cases hkept : kept.token = other
  · simp [hkept, hspared kept hkept]
  · simp [hkept]

/-- No revocation of a token reaches the other token: its records stay for every user, and requests
that show it are answered as before. -/
structure Untouched (r : TokenRegistry) (w : World) (token other : AnyText) : Prop where
  records : ∀ owner revoked t id, ∃ records records', Settings.Holds w.store (.int id) records ∧
    Settings.Holds (w.step r ⟨.revoke owner token, revoked, t⟩).store (.int id) records' ∧
    records'.filter (·.token = other) = records.filter (·.token = other)
  answers : ∀ owner revoked t m r' d header shown cookies now, header ≠ "" → Shows header shown →
    other = .string shown →
    authenticate m r' d (w.step r ⟨.revoke owner token, revoked, t⟩).store
        ⟨some header, cookies⟩ now =
      authenticate m r' d w.store ⟨some header, cookies⟩ now

theorem untouched_of_ne {token other : AnyText} (hne : other ≠ token) :
    Untouched r (course r incidents) token other := by
  have htallies := tallies_course r incidents
  have hkept (owner : Int) (revoked : DateTime) (t id : Int) :
      (ledger r id ((course r incidents).step r ⟨.revoke owner token, revoked, t⟩).history).filter
          (·.token = other) =
        (ledger r id (course r incidents).history).filter (·.token = other) :=
    (congrArg _ (ledger_concat _ _)).trans (amend_of_revoke rfl hne)
  constructor
  · intro owner revoked t id
    exact ⟨_, _, htallies.holds id, (htallies.step _).holds id, hkept owner revoked t id⟩
  · rintro owner revoked t m r' d header shown cookies now hheader hshows rfl
    obtain ⟨n, helapsed, -⟩ :=
      (r.onMachine t).amends_revoke (course r incidents).store (.int owner) token
    apply authenticate_congr hheader hshows
    intro id
    exact contains_congr (htallies.holds id) ((htallies.step _).holds id) helapsed.failure
      (hkept owner revoked t id)

/-! ### The records of a revoked token -/

/-- A token that is not on record is only brought there by a creation. -/
theorem ne_of_mem_foldl {id : Int} {token : AnyText} {later : List Entry}
    (hlater : ∀ y ∈ later, ∀ kept, y.record? id = some kept → kept.token ≠ token)
    {records : List TokenRecord} (h : ∀ kept ∈ records, kept.token ≠ token) :
    ∀ kept ∈ later.foldl (Entry.amend r id) records, kept.token ≠ token := by
  induction later generalizing records with
  | nil => exact h
  | cons y later ih =>
    rw [List.foldl_cons]
    refine ih (fun z hz => hlater z (List.mem_cons_of_mem y hz)) fun kept hkept => ?_
    rcases List.mem_append.1 hkept with hkept | hkept
    · exact h kept (List.mem_filter.1 hkept).1
    · exact hlater y (List.mem_cons_self ..) kept (Option.mem_toList.1 hkept)

/-- A revocation that succeeds leaves no record of its token. -/
theorem ne_of_mem_revoked {id : Int} {token : AnyText} (hx : x.Revokes id token)
    (hanswer : x.answer = .revoked (.ok ())) {records : List TokenRecord} :
    ∀ kept ∈ x.amend r id records, kept.token ≠ token := by
  intro kept hkept hsame
  have hrequest : x.event.request = .revoke id token := hx
  rcases List.mem_append.1 hkept with hkept | hkept
  · have hdrops := (List.mem_filter.1 hkept).2
    simp [Entry.drops, hrequest, hanswer, hsame] at hdrops
  · simp [Entry.record?, hrequest] at hkept

/-- The token authenticates nobody. -/
def Void (r : TokenRegistry) (s : KeyValue) (token : AnyText) : Prop :=
  ∀ m t d header shown cookies now u, header ≠ "" → Shows header shown → token = .string shown →
    (authenticate m (r.onMachine t) d s ⟨some header, cookies⟩ now).outcome ≠ .ok u

/-- A token that was revoked for its user authenticates nobody, unless a creation like its own gave
it out again. -/
theorem void_of_revoked {before behind : List Entry} {z : Entry}
    (hsplit : (course r incidents).history = before ++ z :: behind)
    (hx : x ∈ (course r incidents).history) (hk : x.Made k)
    (hz : z.Revokes k.user.id k.view.token) (hanswer : z.answer = .revoked (.ok ()))
    (hbehind : ∀ y ∈ behind, ∀ l, y.Made l → ¬ k.Alike l) :
    Void r (course r incidents).store k.view.token := by
  intro m t d header shown cookies now u hheader hshows htoken hu
  obtain ⟨hpersonal, hid⟩ := personal_of_made hx hk
  rw [authenticate_of_header rfl hheader] at hu
  obtain ⟨c, id, hverify, huser, hcontains, -⟩ := authenticateToken_eq_ok.1 hu
  rw [← shows_iff.1 hshows, ← htoken] at hverify hcontains
  obtain ⟨rfl, -⟩ := (hpersonal.verify_iff t).1 hverify
  obtain rfl := Except.ok.inj (huser.symm.trans hid)
  obtain ⟨records, hrecords, kept, hkept, hsame⟩ := contains_eq_ok_true.1 hcontains
  have hledger : records = behind.foldl (Entry.amend r k.user.id)
      (z.amend r k.user.id (ledger r k.user.id before)) := by
    rw [((tallies_course r incidents).holds k.user.id).eq_of_getTokens hrecords, hsplit, ledger,
      List.foldl_append, List.foldl_cons, ledger]
  rw [hledger] at hkept
  refine ne_of_mem_foldl ?_ (ne_of_mem_revoked hz hanswer) kept hkept hsame
  -- A creation that gives the token out again is one like the first.
  intro y hy added hadded hsame
  obtain ⟨l, hl, -, rfl⟩ := record?_eq_some.1 hadded
  have hmem : y ∈ (course r incidents).history := by
    rw [hsplit]
    exact List.mem_append_right _ (List.mem_cons_of_mem z hy)
  exact hbehind y hy l hl ((token_eq_iff hx hk hmem hl).1 hsame.symm)

end

/-- Creations get one token exactly if they are alike. A revocation does not reach the tokens of
other creations; and the token of a creation that was revoked for its user stays without effect, as
long as no creation like it follows. -/
theorem revocation_reaches (r : TokenRegistry) (incidents : List Incident) :
    (∀ x ∈ (course r incidents).history, ∀ y ∈ (course r incidents).history,
      ∀ k l, x.Made k → y.Made l → (k.view.token = l.view.token ↔ k.Alike l) ∧
        (¬ k.Alike l → Untouched r (course r incidents) k.view.token l.view.token)) ∧
    ∀ x ∈ (course r incidents).history, ∀ k, x.Made k → ∀ before z behind,
      (course r incidents).history = before ++ z :: behind →
      z.Revokes k.user.id k.view.token → z.answer = .revoked (.ok ()) →
      (∀ y ∈ behind, ∀ l, y.Made l → ¬ k.Alike l) →
      Void r (course r incidents).store k.view.token := by
  constructor
  · intro x hx y hy k l hk hl
    have htoken := token_eq_iff hx hk hy hl
    refine ⟨htoken, fun hne => ?_⟩
    apply untouched_of_ne
    intro hsame
    exact hne (htoken.1 hsame.symm)
  · intro x hx k hk before z behind hsplit hz hanswer hbehind
    exact void_of_revoked hsplit hx hk hz hanswer hbehind

end

/-! ### Two creations -/

section
attribute [local instance] Platform.standard

/-- A revocation that reaches a quiet store succeeds. -/
theorem step_revoke {r : TokenRegistry} {w : World} (hs : w.store.Quiet) {owner : Int}
    {records : List TokenRecord} (h : Settings.Holds w.store (.int owner) records)
    (token : AnyText) (now : DateTime) (t : Int) :
    (w.step r ⟨.revoke owner token, now, t⟩).history =
      w.history ++ [⟨⟨.revoke owner token, now, t⟩, .revoked (.ok ())⟩] := by
  have hout := TokenRegistry.outcome_revoke (r := r.onMachine t) hs h token
  simp only [World.step, Request.answer, Prod.map, hout]

/-- A creation for the sample user at this microsecond. -/
def sampleCreate (description : String) (n : Int) : Event :=
  ⟨.create sampleUser (.text description) none, ⟨n, some 0⟩, 0⟩

/-- The sample user is given two tokens, the second one after so many microseconds. -/
def sampleTwice (n : Int) : List Incident :=
  [.asked (sampleCreate "laptop" 0), .asked (sampleCreate "phone" n)]

/-- Then one of the tokens is revoked. -/
def sampleThrice (n : Int) (token : String) : List Incident :=
  sampleTwice n ++ [.asked (sampleRevocation token)]

/-- Whom a request with the token is taken for after these incidents. -/
def sampleReply (incidents : List Incident) (token : String) : Except Fault User :=
  (authenticate .sample sampleRegistry ⟨[sampleUser], none⟩ (course sampleRegistry incidents).store
    (sampleCredentials token) ⟨2 * second, some 0⟩).outcome

/-- What the two creations of the sample user give. -/
structure SampleViews (n : Int) (view view' : TokenView) (token token' : String) : Prop where
  text : view.token = token
  text' : view'.token = token'
  shows : Shows ("BEARER " ++ token) token
  shows' : Shows ("BEARER " ++ token') token'
  description : view.description = "laptop"
  description' : view'.description = "phone"
  history : (course sampleRegistry (sampleTwice n)).history =
    [⟨sampleCreate "laptop" 0, .created (.ok view)⟩, ⟨sampleCreate "phone" n, .created (.ok view')⟩]
  quiet : (course sampleRegistry (sampleTwice n)).store.Quiet
  holds : Settings.Holds (course sampleRegistry (sampleTwice n)).store (.int 7)
    [⟨view.token, "laptop"⟩, ⟨view'.token, "phone"⟩]

namespace SampleViews
variable {n : Int} {view view' : TokenView} {token token' : String}

theorem exists_views (hn : DateTime.inRange n = true) :
    ∃ view view' token token', SampleViews n view view' token token' := by
  obtain ⟨kept, view, hp, hdescription, c, -, hpersonal, -⟩ :=
    exists_prepare_sample "laptop" (n := 0) (by decide)
  obtain ⟨kept', view', hp', hdescription', c', -, hpersonal', -⟩ :=
    exists_prepare_sample "phone" hn
  obtain ⟨token, htoken, hsigned⟩ := hpersonal.signed
  obtain ⟨token', htoken', hsigned'⟩ := hpersonal'.signed
  obtain ⟨rfl, -⟩ := TokenRegistry.personal_of_prepare hp
  obtain ⟨rfl, -⟩ := TokenRegistry.personal_of_prepare hp'
  have hquiet : (course sampleRegistry []).store.Quiet := ⟨rfl, rfl, Int.le_refl 0⟩
  have hempty : Settings.Holds (course sampleRegistry []).store (.int sampleUser.id) [] :=
    .inl ⟨rfl, rfl⟩
  obtain ⟨hfirst, hquiet, hholds⟩ := course_create (t := 0) hquiet hempty hp
  obtain ⟨hsecond, hquiet, hholds⟩ := course_create (t := 0) hquiet hholds hp'
  rw [hfirst] at hsecond
  rw [hdescription, hdescription'] at hholds
  exact ⟨view, view', token, token', htoken, htoken', shows_sampleCredentials hsigned,
    shows_sampleCredentials hsigned', hdescription, hdescription', hsecond, hquiet, hholds⟩

section
variable (h : SampleViews n view view' token token')
include h

theorem exists_first : ∃ x ∈ (course sampleRegistry (sampleTwice n)).history,
    x.Made ⟨sampleUser, .text "laptop", none, ⟨0, some 0⟩, view⟩ := by
  refine ⟨⟨sampleCreate "laptop" 0, .created (.ok view)⟩, ?_, rfl, rfl, rfl⟩
  rw [h.history]
  exact List.mem_cons_self ..

theorem exists_second : ∃ y ∈ (course sampleRegistry (sampleTwice n)).history,
    y.Made ⟨sampleUser, .text "phone", none, ⟨n, some 0⟩, view'⟩ := by
  refine ⟨⟨sampleCreate "phone" n, .created (.ok view')⟩, ?_, rfl, rfl, rfl⟩
  rw [h.history]
  exact List.mem_cons_of_mem _ (List.mem_cons_self ..)

/-- The second token is good before anything is revoked. -/
theorem reply_second : sampleReply (sampleTwice n) token' = .ok sampleUser := by
  obtain ⟨y, hy, hmade⟩ := h.exists_second
  obtain ⟨hpersonal, hid⟩ := personal_of_made hy hmade
  replace hpersonal : sampleRegistry.signer.Personal token' _ := h.text' ▸ hpersonal
  apply (outcome_of_header rfl (sampleCredentials_ne_empty token')).2
  refine .token rfl (sampleCredentials_ne_empty _) h.shows'
    ((hpersonal.verify_iff 0).2 ⟨rfl, ?_⟩) hid (h.holds.getTokens h.quiet)
    ⟨⟨view'.token, "phone"⟩, by simp, h.text'⟩ rfl rfl
  intro e he
  cases he

/-- A revocation of the first token succeeds. -/
theorem history_sampleThrice (t : String) :
    (course sampleRegistry (sampleThrice n t)).history =
      (course sampleRegistry (sampleTwice n)).history ++
        [⟨sampleRevocation t, .revoked (.ok ())⟩] := by
  rw [sampleThrice, course_concat]
  exact step_revoke h.quiet h.holds t _ _

end
end SampleViews

/-- One token for two creations in one second, and one revocation for both of them. -/
theorem revocation_of_twin : ∃ view view' token, SampleViews 5 view view' token token ∧
    sampleReply (sampleTwice 5) token = .ok sampleUser ∧
    ∀ u, sampleReply (sampleThrice 5 token) token ≠ .ok u := by
  obtain ⟨view, view', token, token', h⟩ := SampleViews.exists_views (n := 5) (by decide)
  obtain ⟨x, hx, hk⟩ := h.exists_first
  obtain ⟨y, hy, hl⟩ := h.exists_second
  have htoken : view.token = view'.token := (token_eq_iff hx hk hy hl).2 ⟨rfl, rfl, rfl, rfl⟩
  obtain rfl : token = token' :=
    AnyText.string.inj ((h.text.symm.trans htoken).trans h.text')
  refine ⟨view, view', token, h, h.reply_second, fun u => ?_⟩
  have hhistory := h.history_sampleThrice token
  have hmem : x ∈ (course sampleRegistry (sampleThrice 5 token)).history := by
    rw [hhistory]
    exact List.mem_append_left _ hx
  have hvoid := void_of_revoked hhistory hmem hk (congrArg _ h.text.symm) rfl (by simp)
  exact hvoid .sample 0 ⟨[sampleUser], none⟩ _ token [] ⟨2 * second, some 0⟩ u
    (sampleCredentials_ne_empty _) h.shows h.text

/-- A second later there is another token, which the revocation of the first one leaves. -/
theorem revocation_reaches_sample : ∃ view view' token token',
    SampleViews second view view' token token' ∧ token' ≠ token ∧
    sampleReply (sampleThrice second token) token' = .ok sampleUser ∧
    ∀ u, sampleReply (sampleThrice second token) token ≠ .ok u := by
  obtain ⟨view, view', token, token', h⟩ := SampleViews.exists_views (n := second) (by decide)
  obtain ⟨x, hx, hk⟩ := h.exists_first
  obtain ⟨y, hy, hl⟩ := h.exists_second
  have hhistory := h.history_sampleThrice token
  obtain ⟨hpair, -⟩ := revocation_reaches sampleRegistry (sampleTwice second)
  obtain ⟨-, hgone⟩ := revocation_reaches sampleRegistry (sampleThrice second token)
  obtain ⟨htoken, hspares⟩ := hpair x hx y hy _ _ hk hl
  have hunlike : ¬ Creation.Alike ⟨sampleUser, .text "laptop", none, ⟨0, some 0⟩, view⟩
      ⟨sampleUser, .text "phone", none, ⟨second, some 0⟩, view'⟩ := by
    intro halike
    have hnow : DateTime.floorSecond ⟨0, some 0⟩ ≠ DateTime.floorSecond ⟨second, some 0⟩ := by
      decide
    exact hnow halike.now
  refine ⟨view, view', token, token', h, ?_, ?_, fun u => ?_⟩
  · rintro rfl
    exact hunlike (htoken.1 (h.text.trans h.text'.symm))
  · have hreply := (hspares hunlike).answers 7 ⟨second, some 0⟩ 4 .sample sampleRegistry
      ⟨[sampleUser], none⟩ _ token' [] ⟨2 * second, some 0⟩ (sampleCredentials_ne_empty token')
      h.shows' h.text'
    dsimp only at hreply
    rw [h.text] at hreply
    rw [sampleReply, sampleThrice, course_concat]
    exact (congrArg Written.outcome hreply).trans h.reply_second
  · have hmem : x ∈ (course sampleRegistry (sampleThrice second token)).history := by
      rw [hhistory]
      exact List.mem_append_left _ hx
    have hvoid := hgone x hmem _ hk _ _ [] hhistory (congrArg _ h.text.symm) rfl (by simp)
    exact hvoid .sample 0 ⟨[sampleUser], none⟩ _ token [] ⟨2 * second, some 0⟩ u
      (sampleCredentials_ne_empty _) h.shows h.text

end

end TokenLife
end Gatehouse
