import Gatehouse.Proofs.Store.Contention
import Gatehouse.Proofs.Store.Interleaving
import Gatehouse.Token.Key

/-!
The attempts of an update, one by one. Other clients intrude on executions in an order that the
store knows: the queued writes first, then the conflicts. An update is overtaken by as many of the
leading intrusions as touch its key, and each of its attempts starts from the text that those before
it left. How an update ends, what it leaves and what it passes to its change follow from this.
-/
namespace Gatehouse

/-- What another client does just before an execution: it writes a text, or it only gives a new
version to the key that the execution watches. -/
inductive Intrusion where
  | write (key text : String)
  | conflict
  deriving DecidableEq, Repr

namespace Intrusion

/-- It gives this key a new version, if an execution watches the key. -/
def touches (k : String) : Intrusion → Bool
  | .write key _ => key = k
  | .conflict => true

/-- The texts after it. -/
def texts (t : Table String String) : Intrusion → Table String String
  | .write key text => t.set key text
  | .conflict => t

end Intrusion

namespace KeyValue
variable {s : KeyValue} {k : String} {n : Nat}

/-- What other clients do just before each of the next executions. -/
def intrusions (s : KeyValue) : List Intrusion :=
  s.rivals.map (fun w => .write w.1 w.2) ++ List.replicate s.conflicts.toNat .conflict

/-- The texts after the first of these intrusions. -/
def textsAfter (s : KeyValue) (n : Nat) : Table String String :=
  (s.intrusions.take n).foldl Intrusion.texts s.texts

/-- The text under a key after the first of these intrusions. -/
def textAfter (s : KeyValue) (k : String) (n : Nat) : Option String := (s.textsAfter n).get? k

/-- How many of the next intrusions touch a key before the first one that does not. -/
def overtakings (s : KeyValue) (k : String) : Nat :=
  (s.intrusions.takeWhile (·.touches k)).length

/-- The store after executions under a key that wrote nothing. -/
def contested (s : KeyValue) (k : String) : Nat → KeyValue
  | 0 => s
  | n + 1 => contested (s.counted.interfere k) k n

/-! ### One intrusion -/

theorem version_write_of_ne {key text : String} (h : k ≠ key) :
    (s.write key text).version k = s.version k := by
  simp [write, touch, version, Table.get?_set_of_ne h]

theorem version_touch_self (s : KeyValue) (k : String) :
    (s.touch k).version k = s.version k + 1 := by
  simp [touch, version]

theorem interfere_of_nil (h : s.intrusions = []) : s.counted.interfere k = s.counted := by
  obtain ⟨hrivals, hconflicts⟩ := List.append_eq_nil_iff.1 h
  have hnone : s.counted.rivals = [] := List.map_eq_nil_iff.1 hrivals
  have hcalm : ¬ 0 < s.counted.conflicts := by
    have hzero : s.conflicts.toNat = 0 := (List.replicate_eq_nil_iff _).1 hconflicts
    show ¬ 0 < s.conflicts
    omega
  unfold interfere
  rw [hnone]
  exact if_neg hcalm

/-- The first intrusion happens, and those behind it are left. -/
theorem interfere_of_cons {e : Intrusion} {rest : List Intrusion} (h : s.intrusions = e :: rest) :
    (s.counted.interfere k).intrusions = rest ∧
      (s.counted.interfere k).texts = e.texts s.texts ∧
      ((s.counted.interfere k).version k = s.version k ↔ e.touches k = false) := by
  cases hrivals : s.rivals with
  | cons w ws =>
    rw [intrusions, hrivals, List.map_cons, List.cons_append] at h
    obtain ⟨rfl, rfl⟩ := List.cons.inj h
    have hwritten : s.counted.interfere k = { s.counted with rivals := ws }.write w.1 w.2 := by
      simp only [interfere, counted, hrivals]
    rw [hwritten]
    refine ⟨rfl, rfl, ?_⟩
    by_cases hkey : k = w.1
    · subst hkey
      have hversion : ({ s.counted with rivals := ws } : KeyValue).version w.1 = s.version w.1 :=
        rfl
      simp [version_write_self, hversion, Intrusion.touches]
    · have hversion : ({ s.counted with rivals := ws } : KeyValue).version k = s.version k := rfl
      simp [version_write_of_ne hkey, hversion, Intrusion.touches, Ne.symm hkey]
  | nil =>
    rw [intrusions, hrivals, List.map_nil, List.nil_append] at h
    obtain ⟨m, hm⟩ : ∃ m, s.conflicts.toNat = m + 1 := by
      apply Nat.exists_eq_succ_of_ne_zero
      intro hzero
      rw [hzero] at h
      cases h
    rw [hm, List.replicate_succ] at h
    obtain ⟨rfl, rfl⟩ := List.cons.inj h
    have hlosing : 0 < s.conflicts := by omega
    have hlost : s.counted.interfere k =
        { s.counted with conflicts := s.conflicts - 1 }.touch k := by
      simp only [interfere, counted, hrivals, if_pos hlosing]
    have hleft : (s.conflicts - 1).toNat = m := by omega
    have hversion : ({ s.counted with conflicts := s.conflicts - 1 } : KeyValue).version k =
        s.version k := rfl
    rw [hlost]
    refine ⟨?_, rfl, ?_⟩
    · simp only [intrusions, touch, counted, hrivals, hleft, List.map_nil, List.nil_append]
    · simp [version_touch_self, hversion, Intrusion.touches]

theorem intrusions_interfere (s : KeyValue) (k : String) :
    (s.counted.interfere k).intrusions = s.intrusions.tail := by
  cases h : s.intrusions with
  | nil =>
    rw [interfere_of_nil h]
    exact h
  | cons e rest => exact (interfere_of_cons h).1

theorem textsAfter_interfere (s : KeyValue) (k : String) (n : Nat) :
    (s.counted.interfere k).textsAfter n = s.textsAfter (n + 1) := by
  rw [textsAfter, intrusions_interfere, textsAfter]
  cases h : s.intrusions with
  | nil =>
    rw [interfere_of_nil h]
    simp [counted]
  | cons e rest => simp [(interfere_of_cons h).2.1]

/-- The watched key keeps its version exactly if the first intrusion does not touch it. -/
theorem version_interfere (s : KeyValue) (k : String) :
    (s.counted.interfere k).version k = s.version k ↔ s.overtakings k = 0 := by
  rw [overtakings]
  cases h : s.intrusions with
  | nil => simp [interfere_of_nil h]
  | cons e rest =>
    rw [(interfere_of_cons h).2.2, List.takeWhile_cons]
    cases e.touches k <;> simp

theorem overtakings_interfere (h : s.overtakings k = n + 1) :
    (s.counted.interfere k).overtakings k = n := by
  rw [overtakings] at h ⊢
  rw [intrusions_interfere]
  cases hs : s.intrusions with
  | nil => simp [hs] at h
  | cons e rest =>
    rw [hs, List.takeWhile_cons] at h
    cases he : e.touches k with
    | false => simp [he] at h
    | true => simpa [he] using h

/-! ### The store after intrusions -/

theorem textsAfter_contested (s : KeyValue) (k : String) (m n : Nat) :
    (s.contested k m).textsAfter n = s.textsAfter (m + n) := by
  induction m generalizing s with
  | zero => rw [contested, Nat.zero_add]
  | succ m ih => rw [contested, ih, textsAfter_interfere, Nat.add_right_comm]

theorem textAfter_contested (s : KeyValue) (k : String) (m n : Nat) :
    (s.contested k m).textAfter k n = s.textAfter k (m + n) := by
  rw [textAfter, textsAfter_contested, textAfter]

/-- Executions that write nothing leave what the first intrusions leave. -/
theorem texts_contested (s : KeyValue) (k : String) (n : Nat) :
    (s.contested k n).texts = s.textsAfter n :=
  textsAfter_contested s k n 0

theorem contested_add (s : KeyValue) (k : String) (m n : Nat) :
    s.contested k (m + n) = (s.contested k m).contested k n := by
  induction m generalizing s with
  | zero => rw [contested, Nat.zero_add]
  | succ m ih => rw [Nat.add_right_comm, contested, ih, contested]

theorem failure_contested (s : KeyValue) (k : String) (n : Nat) :
    (s.contested k n).failure = s.failure := by
  induction n generalizing s with
  | zero => rfl
  | succ n ih => exact (ih _).trans (elapsed_interfere s k).1.failure

theorem overtakings_contested (h : n ≤ s.overtakings k) :
    (s.contested k n).overtakings k = s.overtakings k - n := by
  induction n generalizing s with
  | zero => rfl
  | succ n ih =>
    obtain ⟨m, hm⟩ : ∃ m, s.overtakings k = m + 1 := ⟨s.overtakings k - 1, by omega⟩
    have hnext := overtakings_interfere hm
    rw [contested, ih (by omega), hnext]
    omega

theorem text?_contested (s : KeyValue) (k : String) (n : Nat) :
    (s.contested k n).text? k = s.textAfter k n :=
  textAfter_contested s k n 0

/-- The first intrusion that does not touch the key leaves its text alone. -/
theorem textAfter_overtakings (s : KeyValue) (k : String) :
    s.textAfter k (s.overtakings k + 1) = s.textAfter k (s.overtakings k) := by
  obtain ⟨later, hlater⟩ : ∃ later, later = s.contested k (s.overtakings k) := ⟨_, rfl⟩
  have hfree : later.overtakings k = 0 := by
    rw [hlater, overtakings_contested (Nat.le_refl _), Nat.sub_self]
  obtain ⟨-, htexts, hkeeps⟩ := elapsed_interfere later k
  have hkept := hkeeps ((version_interfere later k).2 hfree)
  calc
    s.textAfter k (s.overtakings k + 1) = later.textAfter k 1 := by
      rw [hlater, textAfter_contested]
    _ = (later.counted.interfere k).text? k := by
      rw [← text?_contested]
      rfl
    _ = later.text? k := by rw [text?, htexts, ← hkept, text?]
    _ = s.textAfter k (s.overtakings k) := by rw [hlater, text?_contested]

end KeyValue

namespace Settings
open SharedSetting (changedText)

/-- An execution writes exactly if no intrusion touches its key. -/
theorem execute_of_reachable {s : KeyValue} (hs : s.failure = none) (k text : String) :
    s.execute k (s.version k) text =
      if s.overtakings k = 0 then (.ok (), (s.contested k 1).write k text)
      else (.error .watch, s.contested k 1) := by
  have hversion := KeyValue.version_interfere s k
  have hset : (s.contested k 1).set k text = .ok ((s.contested k 1).write k text) := by
    simp only [KeyValue.set, KeyValue.failure_contested, hs]
  have hnext : KeyValue.interfere { s with executions := s.executions + 1 } k = s.contested k 1 :=
    rfl
  simp only [KeyValue.execute, hnext]
  split
  · next hne =>
    rw [if_neg fun h => hne (hversion.2 h)]
  · next heq =>
    rw [if_pos (hversion.1 (not_not.1 heq)), hset]

section
variable [Platform]

/-- The values that the first attempts pass to the change. -/
def passed (s : KeyValue) (k : String) (n : Nat) : List Json :=
  (List.range n).filterMap fun i => (decode k (s.textAfter k i)).toOption

theorem passed_one (s : KeyValue) (k : String) :
    passed s k 1 = (decode k (s.text? k)).toOption.toList := by
  have htext : s.textAfter k 0 = s.text? k := rfl
  simp only [passed, List.range_one, List.filterMap_cons, List.filterMap_nil, htext]
  cases decode k (s.text? k) <;> rfl

theorem passed_add (s : KeyValue) (k : String) (m n : Nat) :
    passed s k (m + n) = passed s k m ++ passed (s.contested k m) k n := by
  simp only [passed, KeyValue.textAfter_contested]
  rw [List.range_add, List.filterMap_append, List.filterMap_map]
  rfl

section
variable {s : KeyValue} {owner : Json} {name : String} {change : Json → Except Fault Json}

/-- An attempt on a store that can be reached passes the value that it reads to the change. -/
theorem seen_attempt (hs : s.failure = none) :
    (attempt s owner name change).2.2 = passed s (key owner name) 1 := by
  have hget : s.get (key owner name) = .ok (s.text? (key owner name)) := by
    simp only [KeyValue.get, hs]
  rw [passed_one]
  unfold attempt
  simp only [hget]
  cases hd : decode (key owner name) (s.text? (key owner name)) with
  | error f => rfl
  | ok v =>
    dsimp only
    split
    · rfl
    · split <;> rfl

/-- While the store can be reached, an attempt fails by itself before its execution, which commits
unless an intrusion touches the key. -/
theorem attempt_of_reachable (hs : s.failure = none) : attempt s owner name change =
    match changedText owner name change (s.textAfter (key owner name) 0) with
    | .error f => (.failed f, s, passed s (key owner name) 1)
    | .ok (w, text) =>
      if s.overtakings (key owner name) = 0 then
        (.committed w, (s.contested (key owner name) 1).write (key owner name) text,
          passed s (key owner name) 1)
      else (.overtaken, s.contested (key owner name) 1, passed s (key owner name) 1) := by
  have hget : s.get (key owner name) = .ok (s.textAfter (key owner name) 0) := by
    simp only [KeyValue.get, hs]
    rfl
  have hends := SharedSetting.attempt_eq owner name s change
  have hseen : (attempt s owner name change).2.2 = _ := seen_attempt hs
  obtain ⟨⟨result, later, seen⟩, hattempt⟩ : ∃ r, r = attempt s owner name change := ⟨_, rfl⟩
  simp only [← hattempt, hget] at hends hseen ⊢
  subst hseen
  cases hc : changedText owner name change (s.textAfter (key owner name) 0) with
  | error f =>
    rw [hc] at hends
    obtain ⟨rfl, rfl⟩ := Prod.mk.inj hends
    rfl
  | ok p =>
    obtain ⟨w, text⟩ := p
    simp only [hc, execute_of_reachable hs] at hends
    by_cases hfree : s.overtakings (key owner name) = 0
    · simp only [if_pos hfree] at hends ⊢
      obtain ⟨rfl, rfl⟩ := Prod.mk.inj hends
      rfl
    · simp only [if_neg hfree] at hends ⊢
      obtain ⟨rfl, rfl⟩ := Prod.mk.inj hends
      rfl

end

section
variable {s : KeyValue} {owner : Json} {name : String} {change : Json → Except Fault Json} {n : Nat}

/-- The first attempts make a text each, from what the intrusions before them leave. -/
def Computes (s : KeyValue) (owner : Json) (name : String) (change : Json → Except Fault Json)
    (n : Nat) : Prop :=
  ∀ i < n, ∃ r, changedText owner name change (s.textAfter (key owner name) i) = .ok r

theorem Computes.decodes (h : Computes s owner name change n) :
    (passed s (key owner name) n).map Except.ok =
      (List.range n).map fun i => decode (key owner name) (s.textAfter (key owner name) i) := by
  have hvalue (i : Nat) (hi : i ∈ List.range n) :
      ∃ v, decode (key owner name) (s.textAfter (key owner name) i) = .ok v := by
    obtain ⟨r, hr⟩ := h i (List.mem_range.1 hi)
    obtain ⟨v, hv, -⟩ := bind_eq_ok.1 hr
    exact ⟨v, hv⟩
  rw [passed]
  generalize List.range n = is at hvalue ⊢
  induction is with
  | nil => rfl
  | cons i is ih =>
    obtain ⟨v, hv⟩ := hvalue i List.mem_cons_self
    rw [List.filterMap_cons_some (by rw [hv]; rfl), List.map_cons, List.map_cons, hv,
      ih fun j hj => hvalue j (List.mem_cons_of_mem i hj)]

/-- Attempts that are all overtaken only pass the time: the next ones start from what the
intrusions left. -/
theorem updateUpTo_contested (st : Settings) (hs : s.failure = none)
    (hn : n ≤ s.overtakings (key owner name)) (hcomputes : Computes s owner name change n)
    (left : Nat) : st.updateUpTo owner name change (n + left) s =
      let u := st.updateUpTo owner name change left (s.contested (key owner name) n)
      { u with seen := passed s (key owner name) n ++ u.seen } := by
  induction n generalizing s with
  | zero =>
    rw [Nat.zero_add]
    rfl
  | succ n ih =>
    obtain ⟨m, hm⟩ : ∃ m, s.overtakings (key owner name) = m + 1 :=
      Nat.exists_eq_succ_of_ne_zero (by omega)
    obtain ⟨⟨w, text⟩, hfirst⟩ := hcomputes 0 n.succ_pos
    have hovertaken : attempt s owner name change =
        (.overtaken, s.contested (key owner name) 1, passed s (key owner name) 1) := by
      rw [attempt_of_reachable hs, hfirst]
      exact if_neg (by omega)
    have hlater : Computes (s.contested (key owner name) 1) owner name change n := by
      intro i hi
      rw [KeyValue.textAfter_contested]
      exact hcomputes (1 + i) (by omega)
    have hrest := ih ((KeyValue.failure_contested s (key owner name) 1).trans hs)
      (by rw [KeyValue.overtakings_contested (by omega)]; omega) hlater
    have hpassed := passed_add s (key owner name) 1 n
    rw [Nat.add_comm 1 n] at hpassed
    rw [hpassed, Nat.add_right_comm, updateUpTo, hovertaken]
    simp only [hrest, List.append_assoc]
    rfl

variable (st : Settings) (hs : s.failure = none) (hcomputes : Computes s owner name change n)
include hs hcomputes

/-- An update fails as its first attempt that cannot make a text. -/
theorem update_of_failing {f : Fault} (hn : n ≤ s.overtakings (key owner name))
    (hleft : n < st.attempts)
    (hfails : changedText owner name change (s.textAfter (key owner name) n) = .error f) :
    st.update s owner name change =
      ⟨.error f, s.contested (key owner name) n, passed s (key owner name) (n + 1)⟩ := by
  obtain ⟨left, hattempts⟩ : ∃ left, st.attempts = n + (left + 1) :=
    ⟨st.attempts - n - 1, by omega⟩
  have hlast : attempt (s.contested (key owner name) n) owner name change =
      (.failed f, s.contested (key owner name) n,
        passed (s.contested (key owner name) n) (key owner name) 1) := by
    rw [attempt_of_reachable ((KeyValue.failure_contested s _ n).trans hs),
      KeyValue.textAfter_contested, Nat.add_zero, hfails]
  rw [update, hattempts, updateUpTo_contested st hs hn hcomputes, updateUpTo, hlast, passed_add]

/-- An update commits with its first attempt that no intrusion overtakes. -/
theorem update_of_left {w : Json} {text : String} (hn : n = s.overtakings (key owner name))
    (hleft : n < st.attempts)
    (hlast : changedText owner name change (s.textAfter (key owner name) n) = .ok (w, text)) :
    st.update s owner name change =
      ⟨.ok w, (s.contested (key owner name) (n + 1)).write (key owner name) text,
        passed s (key owner name) (n + 1)⟩ := by
  obtain ⟨left, hattempts⟩ : ∃ left, st.attempts = n + (left + 1) :=
    ⟨st.attempts - n - 1, by omega⟩
  have hfree : (s.contested (key owner name) n).overtakings (key owner name) = 0 := by
    rw [KeyValue.overtakings_contested (Nat.le_of_eq hn)]
    omega
  have hcommits : attempt (s.contested (key owner name) n) owner name change =
      (.committed w, (s.contested (key owner name) (n + 1)).write (key owner name) text,
        passed (s.contested (key owner name) n) (key owner name) 1) := by
    rw [attempt_of_reachable ((KeyValue.failure_contested s _ n).trans hs),
      KeyValue.textAfter_contested, Nat.add_zero, hlast, KeyValue.contested_add]
    exact if_pos hfree
  rw [update, hattempts, updateUpTo_contested st hs (Nat.le_of_eq hn) hcomputes, updateUpTo,
    hcommits,
    passed_add]

/-- An update of which every attempt is overtaken gives up. -/
theorem update_of_overtaken (hn : n = st.attempts) (hlost : n ≤ s.overtakings (key owner name)) :
    st.update s owner name change =
      ⟨.error (accessFault "User setting was modified concurrently" owner name
          [("attempts", .int n)]),
        s.contested (key owner name) n, passed s (key owner name) n⟩ := by
  have hends := updateUpTo_contested st hs hlost hcomputes 0
  rw [Nat.add_zero] at hends
  rw [update, ← hn, hends, updateUpTo, ← hn]
  simp only [List.append_nil]

end

/-- How an update ends among the intrusions of other clients. It evaluates the texts that the
intrusions on its key leave, in their order, and ends as the first of them that fails; it commits
as soon as no further intrusion overtakes it, and otherwise gives up after the last attempt. -/
theorem update_settled (st : Settings) (s : KeyValue) (owner : Json) (name : String)
    (change : Json → Except Fault Json) (hs : s.failure = none) :
    let k := key owner name
    let m := s.overtakings k
    let u := st.update s owner name change
    (∀ i f, i ≤ m → i < st.attempts → Computes s owner name change i →
        changedText owner name change (s.textAfter k i) = .error f →
      u = ⟨.error f, s.contested k i, passed s k (i + 1)⟩) ∧
      (m < st.attempts → Computes s owner name change m →
        ∀ w text, changedText owner name change (s.textAfter k m) = .ok (w, text) →
          u.outcome = .ok w ∧ u.store = (s.contested k (m + 1)).write k text ∧
            u.seen.map Except.ok =
              (List.range (m + 1)).map fun i => decode k (s.textAfter k i)) ∧
      (st.attempts ≤ m → Computes s owner name change st.attempts →
        u.outcome = .error (accessFault "User setting was modified concurrently" owner name
            [("attempts", .int st.attempts)]) ∧
          u.store = s.contested k st.attempts ∧
            u.seen.map Except.ok =
              (List.range st.attempts).map fun i => decode k (s.textAfter k i)) ∧
      ∀ n, (s.contested k n).texts = s.textsAfter n := by
  intro k m u
  refine ⟨fun i f hi hleft hcomputes hfails => ?_, fun hleft hcomputes w text hlast => ?_,
    fun hlost hcomputes => ?_, KeyValue.texts_contested s k⟩
  · exact update_of_failing st hs hcomputes hi hleft hfails
  · have hu : u = _ := update_of_left st hs hcomputes rfl hleft hlast
    have hall : Computes s owner name change (m + 1) := by
      intro i hi
      rcases Nat.lt_succ_iff_lt_or_eq.1 hi with hlt | rfl
      · exact hcomputes i hlt
      · exact ⟨_, hlast⟩
    rw [hu]
    exact ⟨rfl, rfl, hall.decodes⟩
  · have hu : u = _ := update_of_overtaken st hs hcomputes rfl hlost
    rw [hu]
    exact ⟨rfl, rfl, hcomputes.decodes⟩

end

section
attribute [local instance] Platform.standard

/-- A rival writes `1`, and two conflicts follow. -/
def sampleContested : KeyValue :=
  { KeyValue.empty with rivals := [("user_setting:1:limits", "1")], conflicts := 2 }

/-- Puts a value into a list, except numbers above 1. -/
def sampleWrap : Json → Except Fault Json
  | .int n => if n ≤ 1 then .ok (.array [.int n]) else .error .wrongType
  | v => .ok (.array [v])

/-- The fourth attempt would commit; a change that cannot wrap what the rival wrote fails in the
second. -/
theorem update_settled_sample :
    (update ⟨4, by decide⟩ sampleContested (.int 1) "limits" sampleWrap).outcome =
        .ok (.array [.int 1]) ∧
      (update ⟨3, by decide⟩ sampleContested (.int 1) "limits" sampleWrap).outcome =
        .error (accessFault "User setting was modified concurrently" (.int 1) "limits"
          [("attempts", .int 3)]) ∧
      (update ⟨3, by decide⟩ { sampleContested with rivals := [("user_setting:1:limits", "2")] }
        (.int 1) "limits" sampleWrap).outcome = .error .wrongType := by
  have hwrapped (i : Nat) (hi : i < 4) : ∃ r, changedText (.int 1) "limits" sampleWrap
      (sampleContested.textAfter (key (.int 1) "limits") i) = .ok r := by
    match i, hi with
    | 0, _ => exact ⟨(.array [.null], "[null]"), rfl⟩
    | 1, _ => exact ⟨(.array [.int 1], "[1]"), rfl⟩
    | 2, _ => exact ⟨(.array [.int 1], "[1]"), rfl⟩
    | 3, _ => exact ⟨(.array [.int 1], "[1]"), rfl⟩
  refine ⟨?_, ?_, ?_⟩
  · obtain ⟨-, hcommits, -⟩ := update_settled ⟨4, by decide⟩ sampleContested (.int 1) "limits"
      sampleWrap rfl
    exact (hcommits (by decide +kernel) (fun i hi => hwrapped i (Nat.lt_succ_of_lt hi)) _ "[1]"
      rfl).1
  · obtain ⟨-, -, hgivesUp, -⟩ := update_settled ⟨3, by decide⟩ sampleContested (.int 1) "limits"
      sampleWrap rfl
    exact (hgivesUp (by decide +kernel) fun i hi => hwrapped i (Nat.lt_succ_of_lt hi)).1
  · obtain ⟨hfails, -⟩ := update_settled ⟨3, by decide⟩
      { sampleContested with rivals := [("user_setting:1:limits", "2")] } (.int 1) "limits"
      sampleWrap rfl
    have hfirst : Computes { sampleContested with rivals := [("user_setting:1:limits", "2")] }
        (.int 1) "limits" sampleWrap 1 := by
      intro i hi
      obtain rfl := Nat.lt_one_iff.1 hi
      exact ⟨(.array [.null], "[null]"), rfl⟩
    rw [hfails 1 .wrongType (by decide +kernel) (by decide) hfirst rfl]

end

end Settings
end Gatehouse
