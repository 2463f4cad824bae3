import Gatehouse.Proofs.Auth.Authenticate
import Gatehouse.Proofs.PersonalToken.Issued
import Gatehouse.Proofs.PersonalToken.Stored
import Mathlib.Data.List.Induction

/-!
The life of a personal access token over a run of the registry. `Inv` ties the history of a run to
the records in the store; `authenticate_iff` is what it means for a request that shows a token.
-/
namespace Gatehouse.TokenLife
open Text

/-- What is asked of the registry. -/
inductive Request where
  | create (user : User) (description : Json) (expiresAt : Option DateTime)
  | revoke (owner : Int) (token : AnyText)
  | prune (owner : Int)
  | list (owner : Int)

/-- The number of the user whom a request is about. -/
def Request.owner : Request → Int
  | .create user _ _ => user.id
  | .revoke owner _ => owner
  | .prune owner => owner
  | .list owner => owner

/-- What the registry answers. -/
inductive Answer where
  | created (outcome : Except Fault TokenView)
  | revoked (outcome : Except Fault Unit)
  | pruned (outcome : Except Fault Nat)
  | listed (outcome : Except Fault (List TokenView))

/-- A request, with the time that the clock shows then and the seconds that the machine counts. -/
structure Event where
  request : Request
  now : DateTime
  machineTime : Int

structure Entry where
  event : Event
  answer : Answer

/-- The entry is a creation for the user with this number that returned this view. -/
def Entry.Creates (x : Entry) (id : Int) (view : TokenView) : Prop :=
  ∃ user description expiresAt, x.event.request = .create user description expiresAt ∧
    user.id = id ∧ x.answer = .created (.ok view)

/-- The entry is a revocation of this token of the user with this number. -/
def Entry.Revokes (x : Entry) (id : Int) (token : AnyText) : Prop :=
  x.event.request = .revoke id token

/-- A creation for the user returned this view, and its token was not revoked afterwards. -/
def Standing (history : List Entry) (id : Int) (view : TokenView) : Prop :=
  ∃ before x behind, history = before ++ x :: behind ∧ x.Creates id view ∧
    ∀ y ∈ behind, ¬ y.Revokes id view.token

/-- The clock never goes back on the way to a time, and always tells its offset. -/
structure Clocked (events : List Event) (now : DateTime) : Prop where
  aware : now.offset.isSome = true ∧ ∀ e ∈ events, e.now.offset.isSome = true
  ordered : events.Pairwise fun a b => a.now.instant ≤ b.now.instant
  past : ∀ e ∈ events, e.now.instant ≤ now.instant

/-! ### What one entry does to the history -/

theorem standing_concat {history : List Entry} {x : Entry} {id : Int} {view : TokenView} :
    Standing (history ++ [x]) id view ↔
      x.Creates id view ∨ Standing history id view ∧ ¬ x.Revokes id view.token := by
  constructor
  · rintro ⟨before, y, behind, he, hc, hr⟩
    obtain rfl | ⟨rest, z, rfl⟩ := List.eq_nil_or_concat behind
    · obtain ⟨-, hy⟩ := List.append_inj' he rfl
      obtain rfl := (List.cons.inj hy).1
      exact .inl hc
    · rw [List.concat_eq_append, ← List.cons_append, ← List.append_assoc] at he
      obtain ⟨rfl, hz⟩ := List.append_inj' he rfl
      obtain rfl := (List.cons.inj hz).1
      refine .inr ⟨⟨before, y, rest, rfl, hc, ?_⟩, ?_⟩
      · intro w hw
        exact hr w (by simp [hw])
      · exact hr x (by simp)
  · rintro (hc | ⟨⟨before, y, behind, rfl, hc, hr⟩, hx⟩)
    · exact ⟨history, x, [], rfl, hc, by simp⟩
    · refine ⟨before, y, behind ++ [x], by simp, hc, ?_⟩
      intro w hw
      rcases List.mem_append.1 hw with hw | hw
      · exact hr w hw
      · rw [List.mem_singleton.1 hw]
        exact hx

theorem not_standing_nil (id : Int) (view : TokenView) : ¬ Standing [] id view := by
  rintro ⟨before, x, behind, he, -⟩
  simp at he

/-- The entry is about no token of the user with this number. -/
def Entry.Spares (x : Entry) (id : Int) : Prop :=
  (∀ view, ¬ x.Creates id view) ∧ ∀ token, ¬ x.Revokes id token

theorem spares_of_ne {x : Entry} {id : Int} (h : id ≠ x.event.request.owner) : x.Spares id := by
  constructor
  · rintro view ⟨user, description, expiresAt, hreq, rfl, -⟩
    rw [hreq] at h
    exact h rfl
  · intro token hreq
    rw [hreq] at h
    exact h rfl

/-- Only a creation that succeeds and a revocation are about a token. -/
theorem spares_of_request {x : Entry} (hc : ∀ view, x.answer ≠ .created (.ok view))
    (hr : ∀ owner token, x.event.request ≠ .revoke owner token) (id : Int) : x.Spares id := by
  constructor
  · rintro view ⟨_, _, _, -, -, ha⟩
    exact hc view ha
  · intro token
    exact hr id token

theorem standing_of_spares {history : List Entry} {x : Entry} {id : Int} (h : x.Spares id)
    {view : TokenView} : Standing (history ++ [x]) id view ↔ Standing history id view := by
  rw [standing_concat]
  have hc := h.1 view
  have hr := h.2 view.token
  tauto

theorem standing_of_revoke {history : List Entry} {x : Entry} {owner : Int} {token : AnyText}
    (h : x.event.request = .revoke owner token) {id : Int} {view : TokenView} :
    Standing (history ++ [x]) id view ↔
      Standing history id view ∧ ¬ (owner = id ∧ token = view.token) := by
  have hc : ¬ x.Creates id view := by
    rintro ⟨_, _, _, hreq, -⟩
    rw [h] at hreq
    cases hreq
  rw [standing_concat, Entry.Revokes, h, Request.revoke.injEq]
  tauto

theorem Clocked.init {events : List Event} {e : Event} {now : DateTime}
    (h : Clocked (events ++ [e]) now) : Clocked events e.now := by
  obtain ⟨⟨-, haware⟩, hordered, -⟩ := h
  obtain ⟨hordered, -, hlast⟩ := List.pairwise_append.1 hordered
  refine ⟨⟨haware e (by simp), fun a ha => haware a (by simp [ha])⟩, hordered, ?_⟩
  intro a ha
  exact hlast a ha e (by simp)

/-! ### Runs -/

section
variable [Platform]

/-- The registry answers one request. -/
def Request.answer (r : TokenRegistry) (s : KeyValue) (now : DateTime) :
    Request → Answer × KeyValue
  | .create user description expiresAt =>
    (r.create s (.text user.username) (.int user.id) description expiresAt now).map .created id
  | .revoke owner token => (r.revoke s (.int owner) token).map .revoked id
  | .prune owner => (r.prune s (.int owner) now).map .pruned id
  | .list owner => (.listed (r.list s (.int owner) now), s)

/-- The history so far and the store after it. -/
structure World where
  history : List Entry
  store : KeyValue

def World.step (r : TokenRegistry) (w : World) (e : Event) : World :=
  let a := e.request.answer (r.onMachine e.machineTime) w.store e.now
  ⟨w.history ++ [⟨e, a.1⟩], a.2⟩

/-- A run from the empty store. -/
def run (r : TokenRegistry) (events : List Event) : World :=
  events.foldl (World.step r) ⟨[], .empty⟩

/-! ### The invariant -/

/-- The records are those of tokens that stand, and hold every one that has not expired. -/
structure Matches (history : List Entry) (clock : Int) (id : Int) (records : List TokenRecord) :
    Prop where
  sound : ∀ kept ∈ records, ∃ view, Standing history id view ∧ view.token = kept.token
  complete : ∀ view, Standing history id view →
    (∀ e, view.expiresAt = some e → clock < e.instant) → ∃ kept ∈ records, kept.token = view.token

/-- What holds of a run at a time on its clock. -/
structure Inv (r : TokenRegistry) (w : World) (clock : Int) : Prop where
  quiet : w.store.Quiet
  vouched : ∀ id view, Standing w.history id view →
    r.signer.Vouches id view.token view.expiresAt
  records : ∀ id, ∃ records, Settings.Holds w.store (.int id) records ∧
    Matches w.history clock id records

variable {r : TokenRegistry} {w : World} {clock : Int}

theorem inv_empty (r : TokenRegistry) (clock : Int) : Inv r ⟨[], .empty⟩ clock := by
  refine ⟨⟨rfl, rfl, Int.le_refl 0⟩, ?_, ?_⟩
  · intro id view h
    exact absurd h (not_standing_nil id view)
  · intro id
    refine ⟨[], .inl ⟨rfl, rfl⟩, by simp, ?_⟩
    intro view h
    exact absurd h (not_standing_nil id view)

/-- As time goes on fewer tokens have to be kept. -/
theorem Inv.mono (h : Inv r w clock) {later : Int} (hle : clock ≤ later) : Inv r w later := by
  refine ⟨h.quiet, h.vouched, fun id => ?_⟩
  obtain ⟨records, hholds, hm⟩ := h.records id
  refine ⟨records, hholds, hm.sound, ?_⟩
  intro view hs hlive
  exact hm.complete view hs fun e he => Int.lt_of_le_of_lt hle (hlive e he)

/-- An entry that is about no token and leaves the store alone changes nothing. -/
theorem Inv.idle (h : Inv r w clock) {x : Entry} (hx : ∀ id, x.Spares id) :
    Inv r ⟨w.history ++ [x], w.store⟩ clock := by
  refine ⟨h.quiet, ?_, fun id => ?_⟩
  · intro id view hs
    exact h.vouched id view ((standing_of_spares (hx id)).1 hs)
  · obtain ⟨records, hholds, hm⟩ := h.records id
    refine ⟨records, hholds, ?_, ?_⟩
    · intro kept hk
      obtain ⟨view, hs, ht⟩ := hm.sound kept hk
      exact ⟨view, (standing_of_spares (hx id)).2 hs, ht⟩
    · intro view hs
      exact hm.complete view ((standing_of_spares (hx id)).1 hs)

/-- An entry about one user that replaces the records of that user. -/
theorem Inv.replaced (h : Inv r w clock) {x : Entry} {s : KeyValue} {owner : Int}
    {records : List TokenRecord} (hs : Settings.Replaced w.store s (.int owner) records)
    (hx : ∀ id, id ≠ owner → x.Spares id)
    (hv : ∀ view, x.Creates owner view → r.signer.Vouches owner view.token view.expiresAt)
    (hm : Matches (w.history ++ [x]) clock owner records) :
    Inv r ⟨w.history ++ [x], s⟩ clock := by
  refine ⟨hs.quiet, ?_, fun id => ?_⟩
  · intro id view hstand
    by_cases hid : id = owner
    · subst hid
      rcases standing_concat.1 hstand with hc | ⟨hstand, -⟩
      · exact hv view hc
      · exact h.vouched id view hstand
    · exact h.vouched id view ((standing_of_spares (hx id hid)).1 hstand)
  · by_cases hid : id = owner
    · subst hid
      exact ⟨records, hs.holds, hm⟩
    · have hspares := hx id hid
      have hkey : Settings.key (.int id) Settings.tokensName ≠
          Settings.key (.int owner) Settings.tokensName :=
        fun he => hid (Settings.key_int_injective he)
      obtain ⟨others, hholds, hmo⟩ := h.records id
      refine ⟨others, hholds.of_text (hs.frame _ hkey), ?_, ?_⟩
      · intro kept hk
        obtain ⟨view, hstand, ht⟩ := hmo.sound kept hk
        exact ⟨view, (standing_of_spares hspares).2 hstand, ht⟩
      · intro view hstand
        exact hmo.complete view ((standing_of_spares hspares).1 hstand)

/-! ### The steps -/

/-- A creation that is prepared on a quiet store succeeds, and adds its record behind the others. -/
theorem step_create (hs : w.store.Quiet) {user : User} {records : List TokenRecord}
    (hholds : Settings.Holds w.store (.int user.id) records) {description : Json}
    {expiresAt : Option DateTime} {now : DateTime} {t : Int} {kept : TokenRecord}
    {view : TokenView} (hp : (r.onMachine t).prepare (.text user.username) (.int user.id)
      description expiresAt now = .ok (kept, view)) :
    ∃ s, w.step r ⟨.create user description expiresAt, now, t⟩ =
        ⟨w.history ++ [⟨⟨.create user description expiresAt, now, t⟩, .created (.ok view)⟩], s⟩ ∧
      Settings.Replaced w.store s (.int user.id) (records ++ [kept]) := by
  obtain ⟨hout, hrep⟩ := TokenRegistry.create_of_ok hs hholds hp
  refine ⟨_, ?_, hrep⟩
  simp only [World.step, Request.answer, Prod.map, hout, id]

section
variable (h : Inv r w clock) (t : Int) (now : DateTime)
include h

theorem inv_create (user : User) (description : Json) (expiresAt : Option DateTime) :
    Inv r (w.step r ⟨.create user description expiresAt, now, t⟩) clock := by
  obtain ⟨records, hholds, hm⟩ := h.records user.id
  cases hp : (r.onMachine t).prepare (.text user.username) (.int user.id) description expiresAt
      now with
  | error f =>
    have ha : Request.answer (r.onMachine t) w.store now (.create user description expiresAt) =
        (.created (.error f), w.store) := by
      simp only [Request.answer, TokenRegistry.create_of_error hp, Prod.map, id]
    simp only [World.step, ha]
    refine h.idle (spares_of_request ?_ ?_)
    · intro view hv
      cases hv
    · intro owner token hr
      cases hr
  | ok p =>
    obtain ⟨kept, view⟩ := p
    obtain ⟨htoken, hvouch⟩ := TokenRegistry.vouches_of_prepare hp
    obtain ⟨s, hstep, hrep⟩ := step_create h.quiet hholds hp
    obtain ⟨x, hx⟩ : ∃ x : Entry, x = ⟨⟨.create user description expiresAt, now, t⟩,
        .created (.ok view)⟩ := ⟨_, rfl⟩
    rw [← hx] at hstep
    have hcreates : x.Creates user.id view :=
      ⟨user, description, expiresAt, by rw [hx], rfl, by rw [hx]⟩
    have hview {v : TokenView} (hc : x.Creates user.id v) : v = view := by
      obtain ⟨_, _, _, -, -, ha⟩ := hc
      rw [hx] at ha
      exact (Except.ok.inj (Answer.created.inj ha)).symm
    have hkeeps (token : AnyText) : ¬ x.Revokes user.id token := by
      intro hr
      rw [hx] at hr
      cases hr
    rw [hstep]
    refine h.replaced hrep ?_ ?_ ⟨?_, ?_⟩
    · intro id hid
      exact spares_of_ne (by rwa [hx])
    · intro v hc
      rw [hview hc]
      exact hvouch
    · intro k hk
      rcases List.mem_append.1 hk with hk | hk
      · obtain ⟨v, hs, hv⟩ := hm.sound k hk
        exact ⟨v, standing_concat.2 (.inr ⟨hs, hkeeps _⟩), hv⟩
      · rw [List.mem_singleton.1 hk]
        exact ⟨view, standing_concat.2 (.inl hcreates), htoken.symm⟩
    · intro v hs hlive
      rcases standing_concat.1 hs with hc | ⟨hs, -⟩
      · rw [hview hc]
        exact ⟨kept, by simp, htoken⟩
      · obtain ⟨k, hk, hv⟩ := hm.complete v hs hlive
        exact ⟨k, List.mem_append_left _ hk, hv⟩

theorem standing_create {user : User} {description : Json} {expiresAt : Option DateTime}
    {kept : TokenRecord} {view : TokenView} (hp : (r.onMachine t).prepare (.text user.username)
      (.int user.id) description expiresAt now = .ok (kept, view)) :
    Standing (w.step r ⟨.create user description expiresAt, now, t⟩).history user.id view := by
  obtain ⟨records, hholds, -⟩ := h.records user.id
  obtain ⟨s, hstep, -⟩ := step_create h.quiet hholds hp
  rw [hstep]
  exact standing_concat.2 (.inl ⟨user, description, expiresAt, rfl, rfl, rfl⟩)

theorem inv_revoke (owner : Int) (token : AnyText) :
    Inv r (w.step r ⟨.revoke owner token, now, t⟩) clock := by
  obtain ⟨records, hholds, hm⟩ := h.records owner
  refine h.replaced (TokenRegistry.revoke_replaced h.quiet hholds token) ?_ ?_ ⟨?_, ?_⟩
  · intro id hid
    exact spares_of_ne hid
  · rintro view ⟨_, _, _, hreq, -⟩
    cases hreq
  · intro k hk
    obtain ⟨hk, hne⟩ := List.mem_filter.1 hk
    obtain ⟨view, hs, hv⟩ := hm.sound k hk
    refine ⟨view, (standing_of_revoke rfl).2 ⟨hs, ?_⟩, hv⟩
    rintro ⟨-, rfl⟩
    simp [hv] at hne
  · intro view hs hlive
    obtain ⟨hs, hr⟩ := (standing_of_revoke rfl).1 hs
    obtain ⟨k, hk, hv⟩ := hm.complete view hs hlive
    refine ⟨k, List.mem_filter.2 ⟨hk, ?_⟩, hv⟩
    simp only [ne_eq, decide_eq_true_eq]
    intro he
    exact hr ⟨rfl, he.symm.trans hv⟩

/-- A token that stands and has not expired verifies. -/
theorem exists_view {id : Int} {view : TokenView} (hs : Standing w.history id view)
    (hnow : now.offset.isSome = true)
    (hlive : ∀ e, view.expiresAt = some e → now.instant < e.instant) {k : TokenRecord}
    (hk : k.token = view.token) : ∃ v, (r.onMachine t).view k now = .ok v := by
  obtain ⟨c, -, hexp, hiff⟩ := h.vouched id view hs
  have hv := (hiff t now c).2 ⟨rfl, fun e he => ⟨hnow, hlive e (hexp ▸ he)⟩⟩
  rw [← hk] at hv
  exact ⟨_, bind_eq_ok.2 ⟨c, hv, rfl⟩⟩

theorem inv_prune (hnow : now.offset.isSome = true) (hclock : now.instant = clock) (owner : Int) :
    Inv r (w.step r ⟨.prune owner, now, t⟩) clock := by
  obtain ⟨records, hholds, hm⟩ := h.records owner
  have hidle (outcome : Except Fault Nat) :
      ∀ id, Entry.Spares ⟨⟨.prune owner, now, t⟩, .pruned outcome⟩ id := by
    apply spares_of_request
    · intro view hv
      cases hv
    · intro owner token hr
      cases hr
  cases hl : (r.onMachine t).live now records with
  | error f =>
    have hstore := TokenRegistry.prune_of_error h.quiet hholds hl
    simp only [World.step, Request.answer, Prod.map, id, hstore]
    exact h.idle (hidle _)
  | ok kept =>
    obtain ⟨hsub, hall⟩ := TokenRegistry.mem_live hl
    refine h.replaced (TokenRegistry.prune_replaced h.quiet hholds hl) ?_ ?_ ⟨?_, ?_⟩
    · intro id _
      exact hidle _ id
    · intro view hc
      exact absurd hc ((hidle _ owner).1 view)
    · intro k hk
      obtain ⟨view, hs, hv⟩ := hm.sound k (hsub k hk)
      exact ⟨view, (standing_of_spares (hidle _ owner)).2 hs, hv⟩
    · intro view hs hlive
      have hs := (standing_of_spares (hidle _ owner)).1 hs
      obtain ⟨k, hk, hv⟩ := hm.complete view hs hlive
      obtain ⟨v, hview⟩ := exists_view h t now hs hnow (by rwa [hclock]) hv
      exact ⟨k, hall k hk v hview, hv⟩

theorem inv_list (owner : Int) : Inv r (w.step r ⟨.list owner, now, t⟩) clock := by
  refine h.idle (spares_of_request ?_ ?_)
  · intro view hv
    cases hv
  · intro owner token hr
    cases hr

end

/-- One request keeps the invariant at the time at which it is made. -/
theorem Inv.step {e : Event} (h : Inv r w e.now.instant) (haware : e.now.offset.isSome = true) :
    Inv r (w.step r e) e.now.instant := by
  obtain ⟨request, now, t⟩ := e
  cases request with
  | create user description expiresAt => exact inv_create h t now user description expiresAt
  | revoke owner token => exact inv_revoke h t now owner token
  | prune owner => exact inv_prune h t now haware rfl owner
  | list owner => exact inv_list h t now owner

theorem run_concat (r : TokenRegistry) (events : List Event) (e : Event) :
    run r (events ++ [e]) = (run r events).step r e := by
  simp [run]

theorem history_concat (r : TokenRegistry) (events : List Event) (e : Event) :
    (run r (events ++ [e])).history = (run r events).history ++
      [⟨e, (e.request.answer (r.onMachine e.machineTime) (run r events).store e.now).1⟩] := by
  rw [run_concat]
  rfl

/-- The invariant holds after every run whose clock never goes back. -/
theorem inv_run {events : List Event} {now : DateTime} (h : Clocked events now) :
    Inv r (run r events) now.instant := by
  induction events using List.reverseRecOn generalizing now with
  | nil => exact inv_empty r _
  | append_singleton events e ih =>
    rw [run_concat]
    exact ((ih h.init).step h.init.aware.1).mono (h.past e (by simp))

/-! ### Requests that show a token -/

theorem contains_eq_true {s : KeyValue} {id : Int} {token : AnyText} {records : List TokenRecord}
    (hs : s.Quiet) (h : Settings.Holds s (.int id) records) :
    TokenRegistry.contains s (.int id) token = .ok true ↔ ∃ k ∈ records, k.token = token := by
  rw [TokenRegistry.contains_eq hs h]
  simp

/-- A token verifies and is on record for the user that it names exactly when it stands for that
user and has not expired. -/
theorem Inv.verified_and_kept_iff {now : DateTime} (h : Inv r w now.instant)
    (hnow : now.offset.isSome = true) (t : Int) (token : AnyText) (id : Int) :
    (∃ c, (r.onMachine t).signer.verify (.text token) (some .personalAccess) now = .ok c ∧
      c.userId = .ok id ∧ TokenRegistry.contains w.store (.int id) token = .ok true) ↔
      ∃ view, Standing w.history id view ∧ view.token = token ∧
        ∀ e, view.expiresAt = some e → now.instant < e.instant := by
  obtain ⟨records, hholds, hm⟩ := h.records id
  rw [contains_eq_true h.quiet hholds]
  constructor
  · rintro ⟨c, hc, -, k, hk, rfl⟩
    obtain ⟨view, hs, hv⟩ := hm.sound k hk
    obtain ⟨c', -, hexp, hiff⟩ := h.vouched id view hs
    rw [hv] at hiff
    obtain ⟨rfl, hlive⟩ := (hiff t now c).1 hc
    exact ⟨view, hs, hv, fun e he => (hlive e (hexp.trans he)).2⟩
  · rintro ⟨view, hs, rfl, hlive⟩
    obtain ⟨c, hid, hexp, hiff⟩ := h.vouched id view hs
    exact ⟨c, (hiff t now c).2 ⟨rfl, fun e he => ⟨hnow, hlive e (hexp ▸ he)⟩⟩, hid,
      hm.complete view hs hlive⟩

/-- A request that shows a token is the user's exactly when the token was created for that user
and not revoked since, has not expired, and the user exists and is active. -/
theorem authenticate_iff (m : SessionManager) (r : TokenRegistry) (d : Directory)
    {events : List Event} {now : DateTime} (hclock : Clocked events now) {token : String}
    (htrim : trim isBlank token.toList = token.toList) (cookies : List String) (t : Int)
    (u : User) :
    (authenticate m (r.onMachine t) d (run r events).store ⟨some ("Bearer " ++ token), cookies⟩
        now).outcome = .ok u ↔
      (∃ view, Standing (run r events).history u.id view ∧ view.token = token ∧
        ∀ e, view.expiresAt = some e → now.instant < e.instant) ∧
      d.byId u.id = .ok u ∧ u.isActive = true := by
  have hinv := inv_run (r := r) hclock
  have hkept := hinv.verified_and_kept_iff hclock.aware.1 t token
  rw [authenticate_bearer, authenticateToken_eq_ok, bearerToken_bearer htrim, ← hkept]
  constructor
  · rintro ⟨c, id, hc, hid, hcontains, hu, hactive⟩
    obtain ⟨-, rfl⟩ := Directory.of_byId hu
    exact ⟨⟨c, hc, hid, hcontains⟩, hu, hactive⟩
  · rintro ⟨⟨c, hc, hid, hcontains⟩, hu, hactive⟩
    exact ⟨c, u.id, hc, hid, hcontains, hu, hactive⟩

end

/-! ### A token until it is revoked -/

section
attribute [local instance] Platform.standard

def sampleUser : User := ⟨7, "ann", none, none, true, none⟩

def sampleRegistry : TokenRegistry := ⟨⟨.sample, 0, 0⟩, ⟨1, by decide⟩⟩

/-- A creation that the sample registry answers. -/
def sampleCreation : Event := ⟨.create sampleUser (.text "laptop") none, ⟨0, some 0⟩, 0⟩

/-- The sample registry prepares tokens without an end for its user. -/
theorem exists_prepare_sample (description : AnyText) {n : Int}
    (hn : DateTime.inRange n = true) : ∃ kept view,
    sampleRegistry.prepare (.text sampleUser.username) (.int sampleUser.id) (.text description)
      none ⟨n, some 0⟩ = .ok (kept, view) ∧ view.description = description ∧
    ∃ c, c = Claims.personal "gatehouse" "ann" 7 none ⟨n, some 0⟩ ∧
      Signer.sample.Personal view.token c ∧ c.userId = .ok 7 ∧ c.expiresAt = view.expiresAt := by
  have hsecret : Platform.usableSecret Signer.sample.secret = true := by decide +kernel
  have hid : Json.hasLongInteger (.int 7) = false := by decide +kernel
  have hnow : DateTime.inRange (⟨n, some 0⟩ : DateTime).instant = true := by
    simpa using hn
  have hexpires : ∀ e, (none : Option DateTime) = some e → DateTime.inRange e.instant = true ∧
      (⟨n, some 0⟩ : DateTime).instant < e.floorSecond.instant := by simp
  obtain ⟨kept, view, hprepare, hdescription⟩ := TokenRegistry.exists_prepare (r := sampleRegistry)
    (d := .sha256) rfl hsecret sampleUser.username description (Claims.hasLongInteger_int.1 hid) rfl
    hnow hexpires
  obtain ⟨-, hpersonal⟩ := TokenRegistry.personal_of_prepare hprepare
  exact ⟨kept, view, hprepare, hdescription, hpersonal⟩

theorem prepare_sample : ∃ kept view,
    (sampleRegistry.onMachine 0).prepare (.text sampleUser.username) (.int sampleUser.id)
      (.text "laptop") none ⟨0, some 0⟩ = .ok (kept, view) ∧ view.expiresAt = none ∧
    ∃ token : String, view.token = token ∧ trim isBlank token.toList = token.toList := by
  obtain ⟨kept, view, hprepare, -, c, rfl, hpersonal, -, hexpiry⟩ :=
    exists_prepare_sample "laptop" (n := 0) (by decide)
  obtain ⟨token, htoken, hsigned⟩ := hpersonal.signed
  exact ⟨kept, view, hprepare, hexpiry.symm, token, htoken, Signer.trim_of_sign hsigned.sign⟩

def samplePruning : Event := ⟨.prune 7, ⟨second, some 0⟩, 3⟩

def sampleRevocation (token : String) : Event := ⟨.revoke 7 token, ⟨second, some 0⟩, 4⟩

/-- Whom the sample registry takes for the sender of a token two seconds after the creation. -/
def sampleSender (events : List Event) (token : String) : Except Fault User :=
  (authenticate ⟨sampleRegistry.issuer, 0, 1, {}, by decide⟩ (sampleRegistry.onMachine 9)
    ⟨[sampleUser], none⟩ (run sampleRegistry events).store ⟨some ("Bearer " ++ token), []⟩
    ⟨2 * second, some 0⟩).outcome

/-- The token of the sample creation is good after a pruning, and not after its revocation. -/
theorem authenticate_iff_sample : ∃ token,
    sampleSender [sampleCreation, samplePruning] token = .ok sampleUser ∧
      sampleSender [sampleCreation, samplePruning, sampleRevocation token] token ≠
        .ok sampleUser := by
  obtain ⟨kept, view, hp, hexp, token, htoken, htrim⟩ := prepare_sample
  have hsecond : (run sampleRegistry [sampleCreation, samplePruning]).history = _ :=
    history_concat sampleRegistry [sampleCreation] samplePruning
  have hthird : (run sampleRegistry [sampleCreation, samplePruning,
      sampleRevocation token]).history = _ :=
    history_concat sampleRegistry [sampleCreation, samplePruning] (sampleRevocation token)
  have hcreated : Standing (run sampleRegistry [sampleCreation]).history 7 view :=
    standing_create (inv_empty sampleRegistry 0) 0 ⟨0, some 0⟩ hp
  have hpruned : Standing (run sampleRegistry [sampleCreation, samplePruning]).history 7 view := by
    rw [hsecond]
    refine standing_concat.2 (.inr ⟨hcreated, ?_⟩)
    intro hr
    cases hr
  refine ⟨token, ?_, ?_⟩
  · have hclock : Clocked [sampleCreation, samplePruning] ⟨2 * second, some 0⟩ := by
      refine ⟨?_, ?_, ?_⟩ <;> simp [sampleCreation, samplePruning, DateTime.instant, second]
    exact (authenticate_iff _ sampleRegistry _ hclock htrim [] 9 sampleUser).2
      ⟨⟨view, hpruned, htoken, by simp [hexp]⟩, rfl, rfl⟩
  · have hclock : Clocked [sampleCreation, samplePruning, sampleRevocation token]
        ⟨2 * second, some 0⟩ := by
      refine ⟨?_, ?_, ?_⟩ <;>
        simp [sampleCreation, samplePruning, sampleRevocation, DateTime.instant, second]
    intro hok
    obtain ⟨⟨v, hs, hv, -⟩, -⟩ :=
      (authenticate_iff _ sampleRegistry _ hclock htrim [] 9 sampleUser).1 hok
    rw [hthird] at hs
    exact ((standing_of_revoke rfl).1 hs).2 ⟨rfl, hv.symm⟩

end

end Gatehouse.TokenLife
