import Gatehouse.Store.Settings
import Gatehouse.Proofs.Store.Quiet
import Mathlib.Logic.Function.Basic

/-!
Clients that share one setting. A client makes one call, an update or a plain write, in atomic
steps on the store, and a schedule lets the clients step in any order; a client that makes
several calls one after the other counts as several. Every step leaves an event behind.
-/
namespace Gatehouse.SharedSetting

/-- What a client does to the setting. -/
inductive Call where
  | update (settings : Settings) (change : Json → Except Fault Json)
  | put (value : Json)

/-- Where a client stands between two of its steps. -/
inductive Phase where
  /-- An attempt is due, with `left` more behind it. -/
  | waiting (left : Nat)
  | watching (left noted : Nat)
  | changed (left noted : Nat) (value : Json) (text : String)
  | returned (value : Json)
  | raised (fault : Fault)

inductive Act where
  | rested
  | watched
  | read
  | stored (text : String)
  | committed (value : Json) (text : String)
  | overtaken
  | failed (fault : Fault)

/-- What the call returns after a step that wrote; a plain write returns nothing. -/
def Act.result? : Act → Option Json
  | .stored _ => some .null
  | .committed v _ => some v
  | _ => none

/-- A step of a client, with the text of the setting before and after it. -/
structure Event (ι : Type) where
  client : ι
  act : Act
  before : Option String
  after : Option String

structure World (ι : Type) where
  store : KeyValue
  phase : ι → Phase

section
variable [Platform] (owner : Json) (name : String)

/-- The value and the text that a change makes of a stored text. -/
def changedText (change : Json → Except Fault Json) (raw : Option String) :
    Except Fault (Json × String) := do
  let current ← Settings.decode (Settings.key owner name) raw
  let updated ← change current
  let text ← Settings.encode updated
  .ok (updated, text)

/-- Where a client stands after an overtaken attempt. -/
def retry (st : Settings) : (left : Nat) → Phase
  | 0 => .raised (Settings.accessFault "User setting was modified concurrently" owner name
      [("attempts", .int st.attempts)])
  | left + 1 => .waiting left

/-- Where a client stands after an attempt. -/
def settle (st : Settings) (left : Nat) : Attempt → Phase
  | .committed v => .returned v
  | .overtaken => retry owner name st left
  | .failed f => .raised f

def startPhase : Call → Phase
  | .update st _ => retry owner name st st.attempts
  | .put _ => .waiting 0

/-- One atomic step of a client: what it did, where it stands and the store after it. -/
def perform (call : Call) (phase : Phase) (s : KeyValue) : Act × Phase × KeyValue :=
  let k := Settings.key owner name
  match call, phase with
  | .put value, .waiting _ =>
    match Settings.encode value with
    | .error f => (.failed f, .raised f, s)
    | .ok text =>
      match s.set k text with
      | .ok s => (.stored text, .returned .null, s)
      | .error _ =>
        let f := Settings.accessFault "Failed to write user setting" owner name
        (.failed f, .raised f, s)
  | .update _ _, .waiting left => (.watched, .watching left (s.version k), s)
  | .update st change, .watching left noted =>
    match s.get k with
    | .error f => (.read, settle owner name st left (Settings.attemptFault owner name f), s)
    | .ok raw =>
      match changedText owner name change raw with
      | .error f => (.failed f, .raised f, s)
      | .ok (v, text) => (.read, .changed left noted v text, s)
  | .update st _, .changed left noted v text =>
    match s.execute k noted text with
    | (.ok (), s) => (.committed v text, .returned v, s)
    | (.error .watch, s) => (.overtaken, retry owner name st left, s)
    | (.error f, s) =>
      (.read, settle owner name st left (Settings.attemptFault owner name f), s)
  | _, phase => (.rested, phase, s)

variable {ι : Type} [DecidableEq ι] (call : ι → Call)

def World.start (s : KeyValue) : World ι := ⟨s, fun i => startPhase owner name (call i)⟩

def World.step (w : World ι) (i : ι) : Event ι × World ι :=
  let k := Settings.key owner name
  let p := perform owner name (call i) (w.phase i) w.store
  (⟨i, p.1, w.store.text? k, p.2.2.text? k⟩, ⟨p.2.2, Function.update w.phase i p.2.1⟩)

def World.run (w : World ι) : (schedule : List ι) → World ι
  | [] => w
  | i :: rest => World.run (w.step owner name call i).2 rest

/-- The events of a schedule in order. -/
def World.trace (w : World ι) : (schedule : List ι) → List (Event ι)
  | [] => []
  | i :: rest => (w.step owner name call i).1 :: World.trace (w.step owner name call i).2 rest

end

/-- The clients that wrote, in the order of their writes, with what their calls return. -/
def results {ι : Type} (t : List (Event ι)) : List (ι × Json) :=
  t.filterMap fun e => e.act.result?.map (e.client, ·)

/-- What one client wrote. -/
def resultsOf {ι : Type} [DecidableEq ι] (i : ι) (t : List (Event ι)) : List Json :=
  (results t).filterMap fun r => if r.1 = i then some r.2 else none

/-- The call made alone: what it gives and the store after it. -/
def Call.alone [Platform] (owner : Json) (name : String) (call : Call) (s : KeyValue) :
    Except Fault Json × KeyValue :=
  match call with
  | .update st change =>
    let u := st.update s owner name change
    (u.outcome, u.store)
  | .put value =>
    match Settings.put s owner name value with
    | .ok s' => (.ok .null, s')
    | .error f => (.error f, s)

/-- Calls made alone, one after the other, with what they return. -/
inductive Serial [Platform] {ι : Type} (owner : Json) (name : String) (call : ι → Call) :
    KeyValue → List (ι × Json) → KeyValue → Prop where
  | nil (s : KeyValue) : Serial owner name call s [] s
  | snoc {s s' s'' : KeyValue} {rs : List (ι × Json)} {i : ι} {v : Json} :
    Serial owner name call s rs s' → (call i).alone owner name s' = (.ok v, s'') →
      Serial owner name call s (rs ++ [(i, v)]) s''

section
variable [Platform] (owner : Json) (name : String) {ι : Type} [DecidableEq ι] {call : ι → Call}

/-- An attempt is a read, a change and an execution under the version that was read. -/
theorem attempt_eq (s : KeyValue) (change : Json → Except Fault Json) :
    let k := Settings.key owner name
    let a := Settings.attempt s owner name change
    (a.1, a.2.1) = match s.get k with
      | .error f => (Settings.attemptFault owner name f, s)
      | .ok raw => match changedText owner name change raw with
        | .error f => (.failed f, s)
        | .ok (v, text) => match s.execute k (s.version k) text with
          | (.ok (), s') => (.committed v, s')
          | (.error f, s') => (Settings.attemptFault owner name f, s') := by
  intro k a
  unfold a Settings.attempt changedText
  cases hg : s.get k with
  | error f => simp [k, hg]
  | ok raw =>
    cases hd : Settings.decode k raw with
    | error f => simp [k, hg, hd, Bind.bind, Except.bind]
    | ok current =>
      cases hc : change current with
      | error f => simp [k, hg, hd, hc, Bind.bind, Except.bind]
      | ok updated =>
        cases he : Settings.encode updated with
        | error f => simp [k, hg, hd, hc, he, Bind.bind, Except.bind]
        | ok text =>
          rcases hx : s.execute k (s.version k) text with ⟨r, s'⟩
          cases r <;> simp [k, hg, hd, hc, he, hx, Bind.bind, Except.bind]

/-- Where a client stands when its call has ended. -/
def ended : Except Fault Json → Phase
  | .ok v => .returned v
  | .error f => .raised f

/-- An attempt of a client that nobody interrupts ends as the attempt of the update. -/
theorem run_attempt (w : World ι) (i : ι) {st : Settings} {change : Json → Except Fault Json}
    (hc : call i = .update st change) {left : Nat} (hp : w.phase i = .waiting left) :
    let a := Settings.attempt w.store owner name change
    ∃ n, ((w.run owner name call (List.replicate n i)).phase i,
      (w.run owner name call (List.replicate n i)).store) =
        (settle owner name st left a.1, a.2.1) := by
  intro a
  have ha := attempt_eq owner name w.store change
  dsimp only at ha
  cases hg : w.store.get (Settings.key owner name) with
  | error f =>
    refine ⟨2, ?_⟩
    simp only [hg, Prod.mk.injEq] at ha
    simp [World.run, World.step, perform, hc, hp, hg, a, ha]
  | ok raw =>
    cases ht : changedText owner name change raw with
    | error f =>
      refine ⟨2, ?_⟩
      simp only [hg, ht, Prod.mk.injEq] at ha
      simp [World.run, World.step, perform, hc, hp, hg, ht, a, ha, settle]
    | ok p =>
      obtain ⟨v, text⟩ := p
      refine ⟨3, ?_⟩
      rcases hx : w.store.execute (Settings.key owner name)
        (w.store.version (Settings.key owner name)) text with ⟨r, s'⟩
      simp only [hg, ht, hx] at ha
      match r with
      | .ok () =>
        simp only [Prod.mk.injEq] at ha
        simp [World.run, World.step, perform, hc, hp, hg, ht, hx, a, ha, settle]
      | .error f =>
        simp only [Prod.mk.injEq] at ha
        cases f <;>
          simp [World.run, World.step, perform, hc, hp, hg, ht, hx, a, ha, settle,
            Settings.attemptFault]

theorem run_append (w : World ι) (p q : List ι) :
    w.run owner name call (p ++ q) = (w.run owner name call p).run owner name call q := by
  induction p generalizing w with
  | nil => rfl
  | cons i p ih => exact ih _

theorem run_updateUpTo (i : ι) {st : Settings} {change : Json → Except Fault Json}
    (hc : call i = .update st change) (left : Nat) (w : World ι)
    (hw : w.phase i = retry owner name st left) :
    let u := st.updateUpTo owner name change left w.store
    ∃ n, ((w.run owner name call (List.replicate n i)).phase i,
      (w.run owner name call (List.replicate n i)).store) = (ended u.outcome, u.store) := by
  induction left generalizing w with
  | zero => exact ⟨0, by simp [World.run, hw, retry, Settings.updateUpTo, ended]⟩
  | succ left ih =>
    obtain ⟨n, hn⟩ := run_attempt owner name w i hc (hw : w.phase i = .waiting left)
    rcases ha : Settings.attempt w.store owner name change with ⟨r, s', seen⟩
    simp only [ha, Prod.mk.injEq] at hn
    cases r with
    | committed v => exact ⟨n, by simp [hn, settle, Settings.updateUpTo, ha, ended]⟩
    | failed f => exact ⟨n, by simp [hn, settle, Settings.updateUpTo, ha, ended]⟩
    | overtaken =>
      obtain ⟨m, hm⟩ := ih (w.run owner name call (List.replicate n i)) hn.1
      refine ⟨n + m, ?_⟩
      rw [← List.replicate_append_replicate, run_append, hm, hn.2]
      simp [Settings.updateUpTo, ha]

/-- A client that nobody interrupts makes the update: it ends with the outcome and the store
that the update gives, also when queued writes of the store itself get in between. -/
theorem run_update (w : World ι) (i : ι) {st : Settings} {change : Json → Except Fault Json}
    (hc : call i = .update st change) (hp : w.phase i = startPhase owner name (call i)) :
    let u := st.update w.store owner name change
    ∃ n, ((w.run owner name call (List.replicate n i)).phase i,
      (w.run owner name call (List.replicate n i)).store) = (ended u.outcome, u.store) :=
  run_updateUpTo owner name i hc st.attempts w (by rw [hp, hc]; rfl)

/-- A plain write is one step. -/
theorem run_put (w : World ι) (i : ι) {value : Json} (hc : call i = .put value) {left : Nat}
    (hp : w.phase i = .waiting left) :
    let p := (Call.put value).alone owner name w.store
    ((w.run owner name call [i]).phase i, (w.run owner name call [i]).store) =
      (ended p.1, p.2) := by
  simp only [World.run, World.step, perform, hc, hp, Call.alone, Settings.put]
  cases he : Settings.encode value with
  | error f => simp [Bind.bind, Except.bind, ended]
  | ok text =>
    cases hs : w.store.set (Settings.key owner name) text with
    | error f => simp [Bind.bind, Except.bind, ended, hs]
    | ok s => simp [Bind.bind, Except.bind, ended, hs]

/-- A client that nobody interrupts makes its call: it ends as the call alone ends. -/
theorem run_alone (w : World ι) (i : ι) (hp : w.phase i = startPhase owner name (call i)) :
    let p := (call i).alone owner name w.store
    ∃ n, ((w.run owner name call (List.replicate n i)).phase i,
      (w.run owner name call (List.replicate n i)).store) = (ended p.1, p.2) := by
  cases hc : call i with
  | update st change => exact run_update owner name w i hc hp
  | put value =>
    rw [hc] at hp
    exact ⟨1, run_put owner name w i hc hp⟩

end

end Gatehouse.SharedSetting
