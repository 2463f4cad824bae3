import Gatehouse.Proofs.Store.Interleaving
import Gatehouse.Token.Key

/-!
Optimistic updates are serializable. Whatever the schedule, the setting ends as if the calls that
wrote had been made alone, one after the other, in the order of their writes. An update changes
the very text that it replaces, a call that raises wrote nothing, and an attempt is overtaken
only by a write of another client.
-/
namespace Gatehouse.SharedSetting
variable {owner : Json} {name : String} {ι : Type}

section
variable [Platform]

/-- What a step of a client can do on a quiet store. -/
inductive Move (owner : Json) (name : String) (s : KeyValue) :
    Call → Phase → Act → Phase → KeyValue → Prop where
  | rest (c : Call) (p : Phase) : Move owner name s c p .rested p s
  | store {value : Json} {text : String} {left : Nat} (h : Settings.encode value = .ok text) :
    Move owner name s (.put value) (.waiting left) (.stored text) (.returned .null)
      (s.write (Settings.key owner name) text)
  | refuse {value : Json} {left : Nat} {f : Fault} (h : Settings.encode value = .error f) :
    Move owner name s (.put value) (.waiting left) (.failed f) (.raised f) s
  | watch (st : Settings) (change : Json → Except Fault Json) (left : Nat) :
    Move owner name s (.update st change) (.waiting left) .watched
      (.watching left (s.version (Settings.key owner name))) s
  | read (st : Settings) {change : Json → Except Fault Json} {left noted : Nat} {v : Json}
      {text : String}
      (h : changedText owner name change (s.text? (Settings.key owner name)) = .ok (v, text)) :
    Move owner name s (.update st change) (.watching left noted) .read
      (.changed left noted v text) s
  | fail (st : Settings) {change : Json → Except Fault Json} {left noted : Nat} {f : Fault}
      (h : changedText owner name change (s.text? (Settings.key owner name)) = .error f) :
    Move owner name s (.update st change) (.watching left noted) (.failed f) (.raised f) s
  | commit (st : Settings) (change : Json → Except Fault Json) (left : Nat) {noted : Nat}
      (v : Json) (text : String) (h : s.version (Settings.key owner name) = noted) :
    Move owner name s (.update st change) (.changed left noted v text) (.committed v text)
      (.returned v) (s.counted.write (Settings.key owner name) text)
  | lose (st : Settings) (change : Json → Except Fault Json) (left : Nat) {noted : Nat}
      (v : Json) (text : String) (h : s.version (Settings.key owner name) ≠ noted) :
    Move owner name s (.update st change) (.changed left noted v text) .overtaken
      (retry owner name st left) s.counted

theorem perform_move (owner : Json) (name : String) {s : KeyValue} (hs : s.Quiet) (c : Call)
    (p : Phase) :
    let r := perform owner name c p s
    Move owner name s c p r.1 r.2.1 r.2.2 := by
  cases c with
  | put value =>
    cases p with
    | waiting left =>
      cases he : Settings.encode value with
      | error f => simpa [perform, he] using Move.refuse he
      | ok text => simpa [perform, he, hs.set] using Move.store he
    | _ => exact .rest _ _
  | update st change =>
    cases p with
    | waiting left => exact .watch st change left
    | watching left noted =>
      cases ht : changedText owner name change (s.text? (Settings.key owner name)) with
      | error f => simpa [perform, hs.get, ht] using Move.fail st ht
      | ok r => simpa [perform, hs.get, ht] using Move.read st ht
    | changed left noted v text =>
      by_cases hv : s.version (Settings.key owner name) = noted
      · simpa [perform, hs.execute, hv] using Move.commit st change left v text hv
      · simpa [perform, hs.execute, hv] using Move.lose st change left v text hv
    | _ => exact .rest _ _

section
variable {s s' : KeyValue} {c : Call} {p p' : Phase} {a : Act}

theorem Move.quiet (h : Move owner name s c p a p' s') (hs : s.Quiet) : s'.Quiet := by
  cases h with
  | store => exact hs.write _ _
  | commit => exact hs.counted.write _ _
  | lose => exact hs.counted
  | _ => exact hs

/-- A step without a result leaves all texts as they are. -/
theorem Move.unwritten (h : Move owner name s c p a p' s') (ha : a.result? = none) :
    s.Agrees s' := by
  cases h with
  | store | commit => simp [Act.result?] at ha
  | _ => exact ⟨rfl, rfl⟩

theorem Move.stored {text : String} (h : Move owner name s c p a p' s')
    (ha : a = .stored text) :
    (∃ value, c = .put value ∧ Settings.encode value = .ok text) ∧
      s'.text? (Settings.key owner name) = some text := by
  cases h with
  | store he =>
    obtain rfl := Act.stored.inj ha
    exact ⟨⟨_, rfl, he⟩, KeyValue.text?_write_self _ _ _⟩
  | _ => cases ha

/-- A step with a result ends the call and gives the setting a new version. -/
theorem Move.written {v : Json} (h : Move owner name s c p a p' s') (ha : a.result? = some v) :
    p' = .returned v ∧
      s'.version (Settings.key owner name) = s.version (Settings.key owner name) + 1 := by
  cases h <;> simp_all [Act.result?, KeyValue.version_write_self]

end

/-- An update alone on a quiet store writes what its change makes of the stored text. -/
theorem alone_update {s : KeyValue} (hs : s.Quiet) (st : Settings)
    {change : Json → Except Fault Json} {v : Json} {text : String}
    (h : changedText owner name change (s.text? (Settings.key owner name)) = .ok (v, text)) :
    (Call.update st change).alone owner name s =
      (.ok v, s.counted.write (Settings.key owner name) text) := by
  have ha := attempt_eq owner name s change
  simp only [hs.get, h, hs.execute, if_pos, Prod.mk.injEq] at ha
  obtain ⟨left, hl⟩ := Nat.exists_eq_add_one.2 st.attempts_pos
  rcases hr : Settings.attempt s owner name change with ⟨r, s', seen⟩
  simp only [hr] at ha
  simp [Call.alone, Settings.update, hl, Settings.updateUpTo, hr, ha]

theorem alone_put {s : KeyValue} (hs : s.Quiet) {value : Json} {text : String}
    (h : Settings.encode value = .ok text) :
    (Call.put value).alone owner name s =
      (.ok .null, s.write (Settings.key owner name) text) := by
  simp [Call.alone, Settings.put, h, hs.set, Bind.bind, Except.bind]

end

/-! ### Events -/

@[simp] theorem results_append (t u : List (Event ι)) :
    results (t ++ u) = results t ++ results u := List.filterMap_append ..

theorem results_of_none {e : Event ι} (h : e.act.result? = none) : results [e] = [] := by
  simp [results, h]

theorem results_of_some {e : Event ι} {v : Json} (h : e.act.result? = some v) :
    results [e] = [(e.client, v)] := by
  simp [results, h]

section
variable [DecidableEq ι]

theorem resultsOf_snoc (i : ι) (t : List (Event ι)) (e : Event ι) :
    resultsOf i (t ++ [e]) =
      resultsOf i t ++ if e.client = i then e.act.result?.toList else [] := by
  cases h : e.act.result? with
  | none => simp [resultsOf, results_of_none h]
  | some v => by_cases hi : e.client = i <;> simp [resultsOf, results_of_some h, hi]

theorem resultsOf_snoc_of_ne {i : ι} {e : Event ι} (h : e.client ≠ i) :
    resultsOf i (t ++ [e]) = resultsOf i t := by
  rw [resultsOf_snoc, if_neg h, List.append_nil]

theorem result_of_resultsOf_nil {i : ι} {e : Event ι} (h : resultsOf i t = []) (he : e ∈ t)
    (hi : e.client = i) : e.act.result? = none := by
  cases hres : e.act.result? with
  | none => rfl
  | some v =>
    have hr : (i, v) ∈ results t := List.mem_filterMap.2 ⟨e, he, by simp [hres, hi]⟩
    have hv : v ∈ resultsOf i t := List.mem_filterMap.2 ⟨(i, v), hr, by simp⟩
    simp [h] at hv

end

/-- A step that neither watches nor writes. -/
def Act.passive (a : Act) : Prop := a ≠ .watched ∧ a.result? = none

/-- The client noted the version that the setting had when it last watched it, and has not
written since. -/
def Noted (owner : Json) (name : String) (s : KeyValue) (t : List (Event ι)) (i : ι)
    (noted : Nat) : Prop :=
  ∃ a e b, t = a ++ e :: b ∧ e.client = i ∧ e.act = .watched ∧
    noted = s.version (Settings.key owner name) + (results a).length ∧
    ∀ x ∈ b, x.client = i → x.act.passive

/-- Another client wrote after the client last watched the setting. -/
def Raced (t : List (Event ι)) (i : ι) : Prop :=
  ∃ a e b, t = a ++ e :: b ∧ e.client = i ∧ e.act = .watched ∧
    (∀ x ∈ b, x.client = i → x.act.passive) ∧
    ∃ x ∈ b, x.client ≠ i ∧ x.act.result?.isSome

section
variable {s : KeyValue} {t : List (Event ι)} {i : ι} {noted : Nat}

theorem Noted.snoc (h : Noted owner name s t i noted) {e : Event ι}
    (he : e.client = i → e.act.passive) : Noted owner name s (t ++ [e]) i noted := by
  obtain ⟨a, w, b, rfl, hw, hact, hn, hb⟩ := h
  refine ⟨a, w, b ++ [e], by simp, hw, hact, hn, ?_⟩
  intro x hx hxi
  rcases List.mem_append.1 hx with hx | hx
  · exact hb x hx hxi
  · obtain rfl := List.mem_singleton.1 hx
    exact he hxi

theorem noted_watch (s : KeyValue) (t : List (Event ι)) {e : Event ι} (he : e.act = .watched) :
    Noted owner name s (t ++ [e]) e.client
      (s.version (Settings.key owner name) + (results t).length) :=
  ⟨t, e, [], by simp, rfl, he, rfl, by simp⟩

/-- The versions since the watch count the writes since the watch. -/
theorem Noted.version (h : Noted owner name s t i noted) :
    ∃ a e b, t = a ++ e :: b ∧ e.client = i ∧ e.act = .watched ∧
      (∀ x ∈ b, x.client = i → x.act.passive) ∧
      s.version (Settings.key owner name) + (results t).length = noted + (results b).length := by
  obtain ⟨a, e, b, rfl, hi, hact, rfl, hb⟩ := h
  refine ⟨a, e, b, rfl, hi, hact, hb, ?_⟩
  have he : results [e] = [] := results_of_none (by simp [hact, Act.result?])
  rw [← List.singleton_append, results_append, results_append, he]
  simp
  omega

theorem Noted.le (h : Noted owner name s t i noted) :
    noted ≤ s.version (Settings.key owner name) + (results t).length := by
  obtain ⟨_, _, b, _, _, _, _, hv⟩ := h.version
  omega

theorem Noted.raced (h : Noted owner name s t i noted)
    (hne : s.version (Settings.key owner name) + (results t).length ≠ noted) : Raced t i := by
  obtain ⟨a, e, b, ht, hi, hact, hb, hv⟩ := h.version
  have hlen : results b ≠ [] := by
    intro hnil
    rw [hnil] at hv
    exact hne hv
  obtain ⟨r, hr⟩ := List.exists_mem_of_ne_nil _ hlen
  obtain ⟨x, hx, hxr⟩ := List.mem_filterMap.1 hr
  have hsome : x.act.result?.isSome := by
    cases hres : x.act.result? <;> simp_all
  refine ⟨a, e, b, ht, hi, hact, hb, x, hx, ?_, hsome⟩
  intro hxi
  simp [(hb x hx hxi).2] at hsome

end

/-! ### The invariant of a run -/

section
variable [Platform]

/-- What the events say of a client, by where it stands. -/
def Stands (owner : Json) (name : String) [DecidableEq ι] (s₀ s : KeyValue) (t : List (Event ι))
    (c : Call) (i : ι) : Phase → Prop
  | .waiting _ | .raised _ => resultsOf i t = []
  | .watching _ noted => resultsOf i t = [] ∧ Noted owner name s₀ t i noted
  | .changed _ noted v text => resultsOf i t = [] ∧ Noted owner name s₀ t i noted ∧
      ∃ st change, c = .update st change ∧ (s.version (Settings.key owner name) = noted →
        changedText owner name change (s.text? (Settings.key owner name)) = .ok (v, text))
  | .returned v => resultsOf i t = [v]

/-- A committed text is what the change makes of the text right before. -/
def Fresh (owner : Json) (name : String) (call : ι → Call) (e : Event ι) : Prop :=
  ∀ v text, e.act = .committed v text → ∃ st change current,
    call e.client = .update st change ∧
    Settings.decode (Settings.key owner name) e.before = .ok current ∧
    change current = .ok v ∧ Settings.encode v = .ok text ∧ e.after = some text

/-- A stored text is that of the value of a plain write. -/
def Plain (call : ι → Call) (e : Event ι) : Prop :=
  ∀ text, e.act = .stored text → ∃ value,
    call e.client = .put value ∧ Settings.encode value = .ok text ∧ e.after = some text

structure Inv [DecidableEq ι] (owner : Json) (name : String) (call : ι → Call) (s₀ : KeyValue)
    (t : List (Event ι)) (w : World ι) : Prop where
  quiet : w.store.Quiet
  version : w.store.version (Settings.key owner name) =
    s₀.version (Settings.key owner name) + (results t).length
  stands : ∀ i, Stands owner name s₀ w.store t (call i) i (w.phase i)
  fresh : ∀ e ∈ t, Fresh owner name call e
  plain : ∀ e ∈ t, Plain call e
  still : ∀ e ∈ t, e.act.result? = none → e.after = e.before
  raced : ∀ a e b, t = a ++ e :: b → e.act = .overtaken → Raced a e.client
  serial : ∃ s', Serial owner name call s₀ (results t) s' ∧ s'.Quiet ∧ s'.Agrees w.store

theorem changedText_ok {change : Json → Except Fault Json} {raw : Option String} {v : Json}
    {text : String} (h : changedText owner name change raw = .ok (v, text)) :
    ∃ current, Settings.decode (Settings.key owner name) raw = .ok current ∧
      change current = .ok v ∧ Settings.encode v = .ok text := by
  obtain ⟨current, hd, h⟩ := bind_eq_ok.1 h
  obtain ⟨updated, hc, h⟩ := bind_eq_ok.1 h
  obtain ⟨written, he, h⟩ := bind_eq_ok.1 h
  obtain ⟨rfl, rfl⟩ := Prod.mk.inj (Except.ok.inj h)
  exact ⟨current, hd, hc, he⟩

section
variable [DecidableEq ι] {call : ι → Call} {s₀ : KeyValue} {t : List (Event ι)} {w : World ι}

theorem Inv.start (owner : Json) (name : String) (call : ι → Call) (hs : s₀.Quiet) :
    Inv owner name call s₀ [] (World.start owner name call s₀) where
  quiet := hs
  version := rfl
  stands i := by
    cases hc : call i with
    | put value => simp [World.start, startPhase, hc, Stands, resultsOf, results]
    | update st change =>
      obtain ⟨left, hl⟩ := Nat.exists_eq_add_one.2 st.attempts_pos
      simp [World.start, startPhase, hc, hl, retry, Stands, resultsOf, results]
  fresh := by simp
  plain := by simp
  still := by simp
  raced := by simp
  serial := ⟨s₀, .nil s₀, hs, rfl, rfl⟩

/-- What is known of a client stays known when another client steps. -/
theorem Stands.of_ne {s s' : KeyValue} {c c' : Call} {i : ι} {p q q' : Phase} {e : Event ι}
    (h : Stands owner name s₀ s t c i p) (hne : e.client ≠ i)
    (hm : Move owner name s c' q e.act q' s')
    (hv : s.version (Settings.key owner name) =
      s₀.version (Settings.key owner name) + (results t).length) :
    Stands owner name s₀ s' (t ++ [e]) c i p := by
  cases p with
  | waiting left => simpa [Stands, resultsOf_snoc_of_ne hne] using h
  | raised f => simpa [Stands, resultsOf_snoc_of_ne hne] using h
  | returned v => simpa [Stands, resultsOf_snoc_of_ne hne] using h
  | watching left noted =>
    obtain ⟨hr, hn⟩ := h
    exact ⟨by rw [resultsOf_snoc_of_ne hne, hr], hn.snoc fun he => absurd he hne⟩
  | changed left noted v text =>
    obtain ⟨hr, hn, st, change, hc, hcur⟩ := h
    refine ⟨by rw [resultsOf_snoc_of_ne hne, hr], hn.snoc fun he => absurd he hne,
      st, change, hc, ?_⟩
    intro hver
    cases hres : e.act.result? with
    | none =>
      have hag := hm.unwritten hres
      rw [← hag.text?]
      exact hcur (by rw [hag.version, hver])
    | some r =>
      -- a write of another client makes the noted version a past one
      have hle := hn.le
      have hv' := (hm.written hres).2
      omega

/-- What is known of a client after its own step. -/
theorem Stands.self {s s' : KeyValue} {c : Call} {p p' : Phase} {e : Event ι}
    (h : Stands owner name s₀ s t c e.client p) (hm : Move owner name s c p e.act p' s')
    (hv : s.version (Settings.key owner name) =
      s₀.version (Settings.key owner name) + (results t).length) :
    Stands owner name s₀ s' (t ++ [e]) c e.client p' := by
  have hkeep (hres : e.act.result? = none) :
      resultsOf e.client (t ++ [e]) = resultsOf e.client t := by
    rw [resultsOf_snoc, hres]
    simp
  obtain ⟨i, act, before, after⟩ := e
  cases hm with
  | rest =>
    have hr := hkeep rfl
    have hsnoc {noted : Nat} (hn : Noted owner name s₀ t i noted) :=
      hn.snoc (e := ⟨i, .rested, before, after⟩) fun _ => by simp [Act.passive, Act.result?]
    cases p with
    | watching left noted => exact ⟨hr.trans h.1, hsnoc h.2⟩
    | changed left noted v text => exact ⟨hr.trans h.1, hsnoc h.2.1, h.2.2⟩
    | _ => exact hr.trans h
  | store => simpa [Stands, resultsOf_snoc, Act.result?] using h
  | refuse => exact (hkeep rfl).trans h
  | watch => exact ⟨(hkeep rfl).trans h, hv ▸ noted_watch s₀ t rfl⟩
  | read st hch =>
    refine ⟨(hkeep rfl).trans h.1, h.2.snoc fun _ => ?_, st, _, rfl, fun _ => hch⟩
    simp [Act.passive, Act.result?]
  | fail => exact (hkeep rfl).trans h.1
  | commit st change left v text =>
    have hr : resultsOf i t = [] := h.1
    simp [Stands, resultsOf_snoc, Act.result?, hr]
  | lose st change left =>
    have hr := (hkeep rfl).trans h.1
    cases left <;> exact hr

/-- A step that wrote is its call made alone on a store that agrees. -/
theorem Move.alone {s s' r : KeyValue} {c : Call} {i : ι} {p p' : Phase} {a : Act} {v : Json}
    (hm : Move owner name s c p a p' s') (ha : a.result? = some v)
    (hst : Stands owner name s₀ s t c i p) (hr : r.Quiet) (hag : r.Agrees s) :
    ∃ r', c.alone owner name r = (.ok v, r') ∧ r'.Quiet ∧ r'.Agrees s' := by
  cases hm with
  | store he =>
    obtain rfl : Json.null = v := by simpa [Act.result?] using ha
    exact ⟨_, alone_put hr he, hr.write _ _, hag.write _ _⟩
  | commit st change left v' text hver =>
    obtain rfl : v' = v := by simpa [Act.result?] using ha
    obtain ⟨-, -, st', change', hc, hcur⟩ := hst
    obtain ⟨rfl, rfl⟩ := Call.update.inj hc
    have htext := hcur hver
    rw [← hag.text?] at htext
    exact ⟨_, alone_update hr st htext, hr.counted.write _ _, hag.counted.write _ _⟩
  | _ => simp [Act.result?] at ha

theorem Move.committed {s s' : KeyValue} {c : Call} {i : ι} {p p' : Phase} {a : Act} {v : Json}
    {text : String} (hm : Move owner name s c p a p' s') (ha : a = .committed v text)
    (hst : Stands owner name s₀ s t c i p) :
    (∃ st change, c = .update st change ∧
      changedText owner name change (s.text? (Settings.key owner name)) = .ok (v, text)) ∧
    s'.text? (Settings.key owner name) = some text := by
  cases hm with
  | commit st change left v' text' hver =>
    obtain ⟨rfl, rfl⟩ := Act.committed.inj ha
    obtain ⟨-, -, st', change', hc, hcur⟩ := hst
    exact ⟨⟨st', change', hc, hcur hver⟩, KeyValue.text?_write_self _ _ _⟩
  | _ => cases ha

theorem Move.overtaken {s s' : KeyValue} {c : Call} {i : ι} {p p' : Phase} {a : Act}
    (hm : Move owner name s c p a p' s') (ha : a = .overtaken)
    (hst : Stands owner name s₀ s t c i p)
    (hv : s.version (Settings.key owner name) =
      s₀.version (Settings.key owner name) + (results t).length) : Raced t i := by
  cases hm with
  | lose st change left v text hver =>
    obtain ⟨-, hn, -⟩ := hst
    exact hn.raced (hv ▸ hver)
  | _ => cases ha

/-- A step of a client as an event between two worlds. -/
structure Step (owner : Json) (name : String) (call : ι → Call) (w : World ι) (e : Event ι)
    (w' : World ι) : Prop where
  move : Move owner name w.store (call e.client) (w.phase e.client) e.act
    (w'.phase e.client) w'.store
  others : ∀ j, j ≠ e.client → w'.phase j = w.phase j
  before : e.before = w.store.text? (Settings.key owner name)
  after : e.after = w'.store.text? (Settings.key owner name)

theorem step_step (owner : Json) (name : String) (call : ι → Call) (hw : w.store.Quiet) (i : ι) :
    Step owner name call w (w.step owner name call i).1 (w.step owner name call i).2 where
  move := by simpa [World.step] using perform_move owner name hw (call i) (w.phase i)
  others j hj := Function.update_of_ne hj _ _
  before := rfl
  after := rfl

section
variable {w' : World ι} {e : Event ι}

theorem Step.fresh (hs : Step owner name call w e w') (h : Inv owner name call s₀ t w) :
    Fresh owner name call e := by
  intro v text hact
  obtain ⟨⟨st, change, hc, hch⟩, htext⟩ := hs.move.committed hact (h.stands e.client)
  obtain ⟨current, hd, hv, he⟩ := changedText_ok hch
  exact ⟨st, change, current, hc, by rw [hs.before, hd], hv, he, by rw [hs.after, htext]⟩

omit [DecidableEq ι] in
theorem Step.plain (hs : Step owner name call w e w') : Plain call e := by
  intro text hact
  obtain ⟨⟨value, hc, he⟩, htext⟩ := hs.move.stored hact
  exact ⟨value, hc, he, by rw [hs.after, htext]⟩

omit [DecidableEq ι] in
theorem Step.still (hs : Step owner name call w e w') (hres : e.act.result? = none) :
    e.after = e.before := by
  rw [hs.after, hs.before, (hs.move.unwritten hres).text?]

theorem Step.serial (hs : Step owner name call w e w') (h : Inv owner name call s₀ t w) :
    ∃ s', Serial owner name call s₀ (results (t ++ [e])) s' ∧ s'.Quiet ∧
      s'.Agrees w'.store := by
  obtain ⟨r, hserial, hr, hag⟩ := h.serial
  rw [results_append]
  cases hres : e.act.result? with
  | none =>
    exact ⟨r, by simpa [results_of_none hres] using hserial, hr,
      hag.trans (hs.move.unwritten hres)⟩
  | some v =>
    obtain ⟨r', hal, hr', hag'⟩ := hs.move.alone hres (h.stands e.client) hr hag
    rw [results_of_some hres]
    exact ⟨r', hserial.snoc hal, hr', hag'⟩

/-- The invariant survives every step. -/
theorem Inv.step (h : Inv owner name call s₀ t w) (hs : Step owner name call w e w') :
    Inv owner name call s₀ (t ++ [e]) w' := by
  have hlast {P : Event ι → Prop} (ht : ∀ x ∈ t, P x) (hx : P e) : ∀ x ∈ t ++ [e], P x := by
    intro x hmem
    rcases List.mem_append.1 hmem with hmem | hmem
    · exact ht x hmem
    · exact (List.mem_singleton.1 hmem) ▸ hx
  refine ⟨hs.move.quiet h.quiet, ?_, ?_, hlast h.fresh (hs.fresh h), hlast h.plain hs.plain,
    hlast h.still hs.still, ?_, hs.serial h⟩
  · rw [results_append, List.length_append, ← Nat.add_assoc, ← h.version]
    cases hres : e.act.result? with
    | none => simp [results_of_none hres, (hs.move.unwritten hres).version]
    | some v => simp [results_of_some hres, (hs.move.written hres).2]
  · intro j
    by_cases hj : j = e.client
    · subst hj
      exact (h.stands e.client).self hs.move h.version
    · rw [hs.others j hj]
      exact (h.stands j).of_ne (Ne.symm hj) hs.move h.version
  · intro a x b heq hact
    rcases List.eq_nil_or_concat b with rfl | ⟨b', y, rfl⟩
    · obtain ⟨rfl, hx⟩ := List.append_inj' heq rfl
      obtain rfl : e = x := by simpa using hx
      exact hs.move.overtaken hact (h.stands e.client) h.version
    · rw [List.concat_eq_append, ← List.cons_append, ← List.append_assoc] at heq
      exact h.raced a x b' (List.append_inj' heq rfl).1 hact

theorem Inv.run (h : Inv owner name call s₀ t w) (schedule : List ι) :
    Inv owner name call s₀ (t ++ w.trace owner name call schedule)
      (w.run owner name call schedule) := by
  induction schedule generalizing t w with
  | nil => simpa [World.trace, World.run] using h
  | cons i rest ih =>
    have hi := ih (h.step (step_step owner name call h.quiet i))
    simpa [World.trace, World.run] using hi

end
end

/-- What holds of the events and of the end of a run. -/
structure Serializable [DecidableEq ι] (owner : Json) (name : String) (call : ι → Call)
    (s : KeyValue) (t : List (Event ι)) (w : World ι) : Prop where
  /-- An update commits what its change makes of the text right before. -/
  fresh : ∀ e ∈ t, Fresh owner name call e
  /-- A plain write stores its value. -/
  plain : ∀ e ∈ t, Plain call e
  /-- A call writes at most once, and just if it returns what it wrote. -/
  once : ∀ i, (resultsOf i t).length ≤ 1 ∧ ∀ v, w.phase i = .returned v ↔ resultsOf i t = [v]
  /-- A call that raises wrote nothing. -/
  clean : ∀ i f, w.phase i = .raised f →
    resultsOf i t = [] ∧ ∀ e ∈ t, e.client = i → e.after = e.before
  /-- An attempt is overtaken only by a write of another client since its watch. -/
  raced : ∀ a e b, t = a ++ e :: b → e.act = .overtaken → Raced a e.client
  /-- The calls that wrote, made alone in the order of their writes, return the same and end
  with the same texts and versions. -/
  serial : ∃ s', Serial owner name call s (results t) s' ∧ s'.Agrees w.store
  /-- A client that has not begun, and that nobody interrupts from here on, ends as its call made
  alone ends. -/
  alone : ∀ i, w.phase i = startPhase owner name (call i) →
    let p := (call i).alone owner name w.store
    ∃ n, ((w.run owner name call (List.replicate n i)).phase i,
      (w.run owner name call (List.replicate n i)).store) = (ended p.1, p.2)

theorem Inv.serializable [DecidableEq ι] {call : ι → Call} {s₀ : KeyValue}
    {t : List (Event ι)} {w : World ι} (h : Inv owner name call s₀ t w) :
    Serializable owner name call s₀ t w where
  fresh := h.fresh
  plain := h.plain
  once i := by
    have hi := h.stands i
    cases hp : w.phase i <;> simp_all [Stands]
  clean i f hp := by
    have hi := h.stands i
    have hr : resultsOf i t = [] := by simpa [Stands, hp] using hi
    exact ⟨hr, fun e he hei => h.still e he (result_of_resultsOf_nil hr he hei)⟩
  raced := h.raced
  serial := by
    obtain ⟨s', hs, -, hag⟩ := h.serial
    exact ⟨s', hs, hag⟩
  alone := run_alone owner name w

/-- Clients that update one setting, or write it, in any interleaving of their steps. -/
theorem run_serializable [DecidableEq ι] (owner : Json) (name : String) (call : ι → Call)
    (texts : Table String String) (versions : Table String Nat) (schedule : List ι) :
    let s := KeyValue.shared texts versions
    let w := World.start owner name call s
    Serializable owner name call s (w.trace owner name call schedule)
      (w.run owner name call schedule) := by
  intro s w
  have h := (Inv.start owner name call (KeyValue.shared_quiet texts versions)).run schedule
  rw [List.nil_append] at h
  exact h.serializable

end

section
attribute [local instance] Platform.standard

/-- Counts up from what is there, and from 0 if nothing is. -/
def sampleCount : Json → Except Fault Json
  | .int n => .ok (.int (n + 1))
  | _ => .ok (.int 0)

/-- Two clients count, and a third one writes `5`. -/
def sampleCalls : Fin 3 → Call
  | 0 | 1 => .update ⟨2, by decide⟩ sampleCount
  | 2 => .put (.int 5)

/-- The first two watch and read together. Then the first one commits, the second one is overtaken,
and it counts on from what the third one has put in between. -/
theorem run_serializable_sample :
    let s := KeyValue.shared [] []
    let w := World.start (.int 1) "limits" sampleCalls s
    let schedule := [0, 1, 0, 1, 0, 1, 2, 1, 1, 1]
    let t := w.trace (.int 1) "limits" sampleCalls schedule
    results t = [(0, .int 0), (2, .null), (1, .int 6)] ∧
      (t.map (·.act))[5]? = some .overtaken ∧
      Serializable (.int 1) "limits" sampleCalls s t
        (w.run (.int 1) "limits" sampleCalls schedule) :=
  ⟨rfl, rfl, run_serializable (.int 1) "limits" sampleCalls [] [] _⟩

end

end Gatehouse.SharedSetting
