import Gatehouse.Proofs.PersonalToken.Contended
import Gatehouse.Proofs.PersonalToken.Life

/-!
The records as a ledger of the operations that were answered. Operations may be overtaken, may not
reach the store, or may fail by themselves; whatever befalls the registry, the text under the key of
a user stands for what the operations that succeeded make of the records, and the others make
nothing of them: `tallies_course`.
-/
namespace Gatehouse

namespace Settings
variable [Platform] {s s' : KeyValue} {owner : Json} {records : List TokenRecord}

/-- An update of records stores what the change makes of them, or it fails and stores nothing. -/
theorem updateTokens_cases (st : Settings) (hs : s.rivals = []) (h : Holds s owner records)
    (change : List TokenRecord → Except Fault (List TokenRecord)) :
    (st.updateTokens s owner change).store.rivals = [] ∧
      ((∃ updated, change records = .ok updated ∧
          (st.updateTokens s owner change).outcome = .ok updated ∧
          Rewritten s (st.updateTokens s owner change).store owner updated) ∨
        (∃ f, (st.updateTokens s owner change).outcome = .error f) ∧
          (st.updateTokens s owner change).store.texts = s.texts) := by
  obtain ⟨n, helapsed, hsettles⟩ := settles_updateTokens st s owner change
  have hothers := KeyValue.others_of_rivals hs n
  have htext : (s.others n).text? (key owner tokensName) = s.text? (key owner tokensName) := by
    rw [KeyValue.text?, hothers, KeyValue.text?]
  refine ⟨helapsed.rivals_eq_nil hs, ?_⟩
  obtain ⟨records', updated, hreads, hchange, hout, ht⟩ | ⟨hout, ht⟩ := hsettles
  · obtain rfl := (h.of_text htext).eq_of_reads hreads
    refine .inl ⟨updated, hchange, hout, ?_⟩
    rwa [Rewritten, hothers] at ht
  · exact .inr ⟨hout, ht.trans hothers⟩

end Settings

/-! ### What the operations make of the records -/

namespace TokenRegistry
variable [Platform] {r : TokenRegistry} {s : KeyValue} {owner : Json} {records : List TokenRecord}

section
variable (hs : s.rivals = []) (h : Settings.Holds s owner records)
include hs h

theorem create_cases (username description : Json) (expiresAt : Option DateTime)
    (now : DateTime) :
    (r.create s username owner description expiresAt now).2.rivals = [] ∧
      ((∃ kept view, r.prepare username owner description expiresAt now = .ok (kept, view) ∧
          (r.create s username owner description expiresAt now).1 = .ok view ∧
          Settings.Rewritten s (r.create s username owner description expiresAt now).2 owner
            (records ++ [kept])) ∨
        (∃ f, (r.create s username owner description expiresAt now).1 = .error f) ∧
          (r.create s username owner description expiresAt now).2.texts = s.texts) := by
  unfold create
  cases hp : r.prepare username owner description expiresAt now with
  | error f => exact ⟨hs, .inr ⟨⟨f, rfl⟩, rfl⟩⟩
  | ok p =>
    obtain ⟨kept, view⟩ := p
    obtain ⟨hrivals, ⟨updated, hchange, hout, hrewritten⟩ | ⟨⟨f, hout⟩, htexts⟩⟩ :=
      Settings.updateTokens_cases r.settings hs h fun records => .ok (records ++ [kept])
    · obtain rfl := Except.ok.inj hchange
      dsimp only
      rw [hout]
      exact ⟨hrivals, .inl ⟨kept, view, rfl, rfl, hrewritten⟩⟩
    · dsimp only
      rw [hout]
      exact ⟨hrivals, .inr ⟨⟨f, rfl⟩, htexts⟩⟩

/-- An operation that filters the records of a user stores those that are left, or it fails and
stores nothing. -/
theorem filter_cases {α : Type} {change : List TokenRecord → Except Fault (List TokenRecord)}
    {p : TokenRecord → Bool}
    (hchange : ∀ updated, change records = .ok updated → updated = records.filter p)
    (answer : List TokenRecord → α) :
    (r.settings.updateTokens s owner change).store.rivals = [] ∧
      ((∃ a, (r.settings.updateTokens s owner change).outcome.map answer = .ok a) ∧
          Settings.Rewritten s (r.settings.updateTokens s owner change).store owner
            (records.filter p) ∨
        (∃ f, (r.settings.updateTokens s owner change).outcome.map answer = .error f) ∧
          (r.settings.updateTokens s owner change).store.texts = s.texts) := by
  obtain ⟨hrivals, ⟨updated, hupdated, hout, hrewritten⟩ | ⟨⟨f, hout⟩, htexts⟩⟩ :=
    Settings.updateTokens_cases r.settings hs h change
  · rw [hchange updated hupdated] at hrewritten
    exact ⟨hrivals, .inl ⟨⟨_, by rw [hout]; rfl⟩, hrewritten⟩⟩
  · exact ⟨hrivals, .inr ⟨⟨f, by rw [hout]; rfl⟩, htexts⟩⟩

end
end TokenRegistry

namespace TokenLife
variable [Platform]

/-! ### The ledger of a history -/

section
variable (r : TokenRegistry) (id : Int)

/-- The record that a successful creation adds for the user. -/
def Entry.record? (x : Entry) (id : Int) : Option TokenRecord :=
  match x.event.request, x.answer with
  | .create user _ _, .created (.ok view) =>
    if user.id = id then some ⟨view.token, view.description⟩ else none
  | _, _ => none

/-- A successful revocation drops the records of the user that hold its token, and a successful
pruning those whose tokens do not verify then. -/
def Entry.drops (x : Entry) (kept : TokenRecord) : Bool :=
  match x.event.request, x.answer with
  | .revoke owner token, .revoked (.ok ()) => owner = id && kept.token = token
  | .prune owner, .pruned (.ok _) =>
    owner = id && !(r.onMachine x.event.machineTime).verifies x.event.now kept
  | _, _ => false

/-- What an entry makes of the records of the user. -/
def Entry.amend (records : List TokenRecord) (x : Entry) : List TokenRecord :=
  records.filter (fun kept => !x.drops r id kept) ++ (x.record? id).toList

/-- The records of the user as the history tells them. -/
def ledger (history : List Entry) : List TokenRecord := history.foldl (Entry.amend r id) []

end

section
variable {r : TokenRegistry} {id : Int} {records : List TokenRecord} {x : Entry}

theorem ledger_concat (history : List Entry) (x : Entry) :
    ledger r id (history ++ [x]) = x.amend r id (ledger r id history) := by
  simp [ledger]

theorem amend_of_idle (hdrops : ∀ kept, x.drops r id kept = false)
    (hrecord : x.record? id = none) : x.amend r id records = records := by
  simp [Entry.amend, hdrops, hrecord]

/-- An entry leaves the records of all users but one. -/
theorem amend_of_ne (h : id ≠ x.event.request.owner) : x.amend r id records = records := by
  obtain ⟨⟨request, now, t⟩, answer⟩ := x
  have hother {owner : Int} (howner : owner = request.owner) : owner ≠ id := by
    rintro rfl
    exact h howner
  apply amend_of_idle
  · intro kept
    unfold Entry.drops
    split
    · next owner token hrevoke _ =>
      have hne : owner ≠ id := hother (congrArg Request.owner hrevoke).symm
      simp [hne]
    · next owner n hprune _ =>
      have hne : owner ≠ id := hother (congrArg Request.owner hprune).symm
      simp [hne]
    · rfl
  · unfold Entry.record?
    split
    · next hcreate _ => exact if_neg (hother (congrArg Request.owner hcreate).symm)
    · rfl

end

/-! ### Whatever befalls the registry -/

/-- What befalls the registry: it is asked for something, its store loses executions to clients that
change nothing, or its store cannot be reached from now on, or can again. -/
inductive Incident where
  | asked (event : Event)
  | losing (count : Int)
  | failing (failure : Option StoreFault)

def World.meet (r : TokenRegistry) (w : World) : Incident → World
  | .asked e => w.step r e
  | .losing n => ⟨w.history, { w.store with conflicts := n }⟩
  | .failing f => ⟨w.history, { w.store with failure := f }⟩

/-- A run from the empty store on which anything may befall the registry. -/
def course (r : TokenRegistry) (incidents : List Incident) : World :=
  incidents.foldl (World.meet r) ⟨[], .empty⟩

theorem course_concat (r : TokenRegistry) (incidents : List Incident) (i : Incident) :
    course r (incidents ++ [i]) = (course r incidents).meet r i := by
  simp [course]

/-- The store has no queued writers, and its texts stand for the ledgers of the history. -/
structure Tallies (r : TokenRegistry) (w : World) : Prop where
  rivals : w.store.rivals = []
  holds : ∀ id, Settings.Holds w.store (.int id) (ledger r id w.history)

namespace Tallies
variable {r : TokenRegistry} {w : World} {s : KeyValue} {x : Entry}

/-- An entry that leaves all records and all texts. -/
theorem unchanged (h : Tallies r w) (hs : s.rivals = []) (ht : s.texts = w.store.texts)
    (hx : ∀ id records, x.amend r id records = records) : Tallies r ⟨w.history ++ [x], s⟩ := by
  refine ⟨hs, fun id => ?_⟩
  rw [ledger_concat, hx]
  exact (h.holds id).of_text (by rw [KeyValue.text?, ht, KeyValue.text?])

/-- An entry that rewrites the records of its user. -/
theorem rewritten (h : Tallies r w) (hs : s.rivals = []) {records : List TokenRecord}
    (hw : Settings.Rewritten w.store s (.int x.event.request.owner) records)
    (hx : x.amend r x.event.request.owner (ledger r x.event.request.owner w.history) = records) :
    Tallies r ⟨w.history ++ [x], s⟩ := by
  refine ⟨hs, fun id => ?_⟩
  rw [ledger_concat]
  by_cases hid : id = x.event.request.owner
  · rw [hid, hx]
    exact hw.holds
  · rw [amend_of_ne hid]
    exact (h.holds id).of_text (hw.text?_of_ne fun he => hid (Settings.key_int_injective he))

section
variable (h : Tallies r w) (t : Int) (now : DateTime)
include h

theorem create (user : User) (description : Json) (expiresAt : Option DateTime) :
    Tallies r (w.step r ⟨.create user description expiresAt, now, t⟩) := by
  obtain ⟨hrivals, ⟨kept, view, hprepare, hout, hwritten⟩ | ⟨⟨f, hout⟩, htexts⟩⟩ :=
    TokenRegistry.create_cases (r := r.onMachine t) h.rivals (h.holds user.id)
      (.text user.username) description expiresAt now
  · obtain ⟨rfl, -⟩ := TokenRegistry.personal_of_prepare hprepare
    refine h.rewritten hrivals hwritten ?_
    simp only [Entry.amend, Entry.drops, Entry.record?, Request.answer, Request.owner, Prod.map,
      hout]
    simp
  · refine h.unchanged hrivals htexts fun id records => ?_
    simp only [Request.answer, Prod.map, hout]
    exact amend_of_idle (fun _ => rfl) rfl

/-- An entry that makes no record, and drops what its operation has filtered out. -/
theorem filtered {α : Type} (outcome : Except Fault α) {p : TokenRecord → Bool}
    (hcases : s.rivals = [] ∧
      ((∃ a, outcome = .ok a) ∧ Settings.Rewritten w.store s (.int x.event.request.owner)
          ((ledger r x.event.request.owner w.history).filter p) ∨
        (∃ f, outcome = .error f) ∧ s.texts = w.store.texts))
    (hrecord : ∀ id, x.record? id = none)
    (hok : ∀ a, outcome = .ok a → ∀ kept, x.drops r x.event.request.owner kept = !p kept)
    (herror : ∀ f, outcome = .error f → ∀ id kept, x.drops r id kept = false) :
    Tallies r ⟨w.history ++ [x], s⟩ := by
  obtain ⟨hrivals, ⟨⟨a, ha⟩, hwritten⟩ | ⟨⟨f, hf⟩, htexts⟩⟩ := hcases
  · refine h.rewritten hrivals hwritten ?_
    simp [Entry.amend, hok a ha, hrecord]
  · exact h.unchanged hrivals htexts fun id _ => amend_of_idle (herror f hf id) (hrecord id)

theorem revoke (owner : Int) (token : AnyText) :
    Tallies r (w.step r ⟨.revoke owner token, now, t⟩) := by
  refine h.filtered ((r.onMachine t).revoke w.store (.int owner) token).1
    (TokenRegistry.filter_cases (p := fun kept => kept.token ≠ token) h.rivals (h.holds owner) ?_ _)
    (fun _ => rfl) ?_ ?_
  · rintro _ ⟨⟩
    rfl
  · intro a hout kept
    simp [Entry.drops, Request.answer, Request.owner, hout]
  · intro f hout id kept
    simp [Entry.drops, Request.answer, hout]

theorem prune (owner : Int) : Tallies r (w.step r ⟨.prune owner, now, t⟩) := by
  refine h.filtered ((r.onMachine t).prune w.store (.int owner) now).1
    (TokenRegistry.filter_cases h.rivals (h.holds owner) (fun _ => TokenRegistry.live_eq_filter) _)
    (fun _ => rfl) ?_ ?_
  · intro a hout kept
    simp [Entry.drops, Request.answer, Request.owner, hout]
  · intro f hout id kept
    simp [Entry.drops, Request.answer, hout]

end

/-- Every request, answered or not, keeps the ledgers. -/
theorem step (h : Tallies r w) (e : Event) : Tallies r (w.step r e) := by
  obtain ⟨request, now, t⟩ := e
  cases request with
  | create user description expiresAt => exact h.create t now user description expiresAt
  | revoke owner token => exact h.revoke t now owner token
  | prune owner => exact h.prune t now owner
  | list owner => exact h.unchanged h.rivals rfl fun id records => amend_of_idle (fun _ => rfl) rfl

theorem meet (h : Tallies r w) (i : Incident) : Tallies r (w.meet r i) := by
  cases i with
  | asked e => exact h.step e
  | losing n => exact ⟨h.rivals, h.holds⟩
  | failing f => exact ⟨h.rivals, h.holds⟩

end Tallies

/-- The texts of every run stand for the ledgers of its history. -/
theorem tallies_course (r : TokenRegistry) (incidents : List Incident) :
    Tallies r (course r incidents) := by
  induction incidents using List.reverseRecOn with
  | nil => exact ⟨rfl, fun id => .inl ⟨rfl, rfl⟩⟩
  | append_singleton incidents i ih =>
    rw [course_concat]
    exact ih.meet i

/-- On a quiet store a creation is answered with the token that is prepared for it. -/
theorem course_create {r : TokenRegistry} {incidents : List Incident} {user : User}
    {records : List TokenRecord} (hs : (course r incidents).store.Quiet)
    (hholds : Settings.Holds (course r incidents).store (.int user.id) records)
    {description : Json} {expiresAt : Option DateTime} {now : DateTime} {t : Int}
    {kept : TokenRecord} {view : TokenView} (hp : (r.onMachine t).prepare (.text user.username)
      (.int user.id) description expiresAt now = .ok (kept, view)) :
    (course r (incidents ++ [.asked ⟨.create user description expiresAt, now, t⟩])).history =
        (course r incidents).history ++
          [⟨⟨.create user description expiresAt, now, t⟩, .created (.ok view)⟩] ∧
      (course r (incidents ++ [.asked ⟨.create user description expiresAt, now, t⟩])).store.Quiet ∧
      Settings.Holds
        (course r (incidents ++ [.asked ⟨.create user description expiresAt, now, t⟩])).store
        (.int user.id) (records ++ [kept]) := by
  obtain ⟨s, hstep, hreplaced⟩ := step_create hs hholds hp
  rw [course_concat, World.meet, hstep]
  exact ⟨rfl, hreplaced.quiet, hreplaced.holds⟩

end TokenLife
end Gatehouse
