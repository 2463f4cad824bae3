import Gatehouse.Proofs.Store.Quiet
import Gatehouse.Store.Settings

/-!
A store with queued clients, of which one writes just before each execution. `KeyValue.others` is
the store as these clients alone leave it. An update that fails, however often it was attempted,
leaves just that; one that succeeds has changed the text that they left under its key, and has put
the new text over it: `settles_attempt` is one attempt, and `settles_updateUpTo` all of them.
-/
namespace Gatehouse

namespace KeyValue
variable {s s' s'' : KeyValue} {m n : Nat}

/-- The store as its queued clients alone leave it after a number of executions. -/
def others (s : KeyValue) (n : Nat) : KeyValue :=
  { s with texts := (s.rivals.take n).foldl (fun t w => t.set w.1 w.2) s.texts
           rivals := s.rivals.drop n }

theorem others_of_rivals (h : s.rivals = []) (n : Nat) : (s.others n).texts = s.texts := by
  simp only [others, h, List.take_nil, List.foldl_nil]

/-- The later store is further by some executions, and fails as the earlier one does. -/
structure Elapsed (s s' : KeyValue) (n : Nat) : Prop where
  executions : s'.executions = s.executions + n
  rivals : s'.rivals = s.rivals.drop n
  failure : s'.failure = s.failure

theorem Elapsed.refl (s : KeyValue) : Elapsed s s 0 := ⟨rfl, rfl, rfl⟩

theorem Elapsed.trans (h : Elapsed s s' m) (h' : Elapsed s' s'' n) : Elapsed s s'' (m + n) where
  executions := by rw [h'.executions, h.executions, Nat.add_assoc]
  rivals := by rw [h'.rivals, h.rivals, List.drop_drop]
  failure := h'.failure.trans h.failure

theorem Elapsed.write (h : Elapsed s s' n) (k text : String) : Elapsed s (s'.write k text) n :=
  ⟨h.executions, h.rivals, h.failure⟩

theorem Elapsed.rivals_eq_nil (h : Elapsed s s' n) (hs : s.rivals = []) : s'.rivals = [] := by
  rw [h.rivals, hs, List.drop_nil]

theorem others_others (s : KeyValue) (m n : Nat) :
    ((s.others m).others n).texts = (s.others (m + n)).texts := by
  simp only [others, List.take_add, List.foldl_append]

/-- What the queued clients leave under a key depends on the text under this key alone. -/
theorem text?_others_congr {k : String} (hrivals : s'.rivals = s.rivals)
    (htext : s'.text? k = s.text? k) (n : Nat) : (s'.others n).text? k = (s.others n).text? k := by
  have hfold (ws : List (String × String)) (t t' : Table String String) (h : t'.get? k = t.get? k) :
      (ws.foldl (fun t w => t.set w.1 w.2) t').get? k =
        (ws.foldl (fun t w => t.set w.1 w.2) t).get? k := by
    induction ws generalizing t t' with
    | nil => exact h
    | cons w ws ih =>
      apply ih
      by_cases hk : k = w.1
      · rw [hk, Table.get?_set_self, Table.get?_set_self]
      · rw [Table.get?_set_of_ne hk, Table.get?_set_of_ne hk, h]
  simp only [text?, others, hrivals]
  exact hfold _ _ _ htext

/-- The clients that are left over in the later store do what was still due in the earlier one. -/
theorem Elapsed.text?_others {k : String} (h : Elapsed s s' m)
    (htext : s'.text? k = (s.others m).text? k) (n : Nat) :
    (s'.others n).text? k = (s.others (m + n)).text? k := by
  rw [text?_others_congr (s := s.others m) h.rivals htext, text?, others_others, text?]

/-- A client that comes in between writes what is due. If the watched key keeps its version, it
keeps its text as well. -/
theorem elapsed_interfere (s : KeyValue) (k : String) :
    Elapsed s (s.counted.interfere k) 1 ∧
      (s.counted.interfere k).texts = (s.others 1).texts ∧
      ((s.counted.interfere k).version k = s.version k →
        (s.others 1).text? k = s.text? k) := by
  have hcounted : s.counted.rivals = s.rivals := rfl
  cases hrivals : s.rivals with
  | nil =>
    have htexts := others_of_rivals hrivals 1
    have htext : (s.others 1).text? k = s.text? k := by rw [text?, htexts, text?]
    unfold interfere
    rw [hcounted, hrivals]
    dsimp only
    split
    · exact ⟨⟨rfl, by simp [counted, touch, hrivals], rfl⟩, htexts.symm, fun _ => htext⟩
    · exact ⟨⟨rfl, by simp [counted, hrivals], rfl⟩, htexts.symm, fun _ => htext⟩
  | cons w rest =>
    obtain ⟨key, text⟩ := w
    have htexts : (s.others 1).texts = s.texts.set key text := by simp [others, hrivals]
    unfold interfere
    rw [hcounted, hrivals]
    dsimp only
    refine ⟨⟨rfl, by simp [write, touch, hrivals], rfl⟩, htexts.symm, fun hversion => ?_⟩
    by_cases hkey : k = key
    · subst hkey
      rw [version_write_self] at hversion
      exact absurd hversion (Nat.succ_ne_self _)
    · rw [text?, htexts, Table.get?_set_of_ne hkey, text?]

/-- An execution writes over what the other clients leave, or fails and writes nothing. If it
writes under the current version, these clients have left its key alone. -/
theorem elapsed_execute (s : KeyValue) (k : String) (noted : Nat) (text : String) :
    Elapsed s (s.execute k noted text).2 1 ∧
      ((s.execute k noted text).1 = .ok () ∧
          (noted = s.version k → (s.others 1).text? k = s.text? k) ∧
          (s.execute k noted text).2.texts = (s.others 1).texts.set k text ∨
        (∃ f, (s.execute k noted text).1 = .error f) ∧
          (s.execute k noted text).2.texts = (s.others 1).texts) := by
  obtain ⟨helapsed, htexts, hkeeps⟩ := elapsed_interfere s k
  obtain ⟨later, hlater⟩ : ∃ later, later = s.counted.interfere k := ⟨_, rfl⟩
  rw [← hlater] at helapsed htexts hkeeps
  unfold counted at hlater
  simp only [execute, ← hlater]
  split
  · exact ⟨helapsed, .inr ⟨⟨_, rfl⟩, htexts⟩⟩
  · next hversion =>
    have hnoted : later.version k = noted := not_not.1 hversion
    cases hfailure : later.failure with
    | some f =>
      have hset : later.set k text = .error f := by simp only [KeyValue.set, hfailure]
      rw [hset]
      exact ⟨helapsed, .inr ⟨⟨f, rfl⟩, htexts⟩⟩
    | none =>
      have hset : later.set k text = .ok (later.write k text) := by
        simp only [KeyValue.set, hfailure]
      rw [hset]
      refine ⟨helapsed.write k text, .inl ⟨rfl, fun h => hkeeps (hnoted.trans h), ?_⟩⟩
      show later.texts.set k text = (s.others 1).texts.set k text
      rw [htexts]

/-- The store as its queued clients alone leave it by the time of a later store. -/
def othersUntil (s later : KeyValue) : KeyValue := s.others (later.executions - s.executions)

theorem Elapsed.othersUntil (h : Elapsed s s' n) : s.othersUntil s' = s.others n := by
  rw [KeyValue.othersUntil, h.executions, Nat.add_sub_cancel_left]

/-- Between two stores, all texts but one are as the queued clients alone leave them, and so is that
one if the operation in between failed. -/
structure Confined (s s' : KeyValue) (k : String) (failed : Prop) : Prop where
  elapsed : ∃ n, Elapsed s s' n
  text? : ∀ other, other ≠ k ∨ failed → s'.text? other = (s.othersUntil s').text? other

theorem Confined.refl (s : KeyValue) (k : String) (failed : Prop) : Confined s s k failed :=
  ⟨⟨0, .refl s⟩, fun _ _ => by rw [(Elapsed.refl s).othersUntil]; rfl⟩

theorem Confined.mono {k : String} {failed failed' : Prop} (h : Confined s s' k failed)
    (hfailed : failed' → failed) : Confined s s' k failed' :=
  ⟨h.elapsed, fun other hother => h.text? other (hother.imp_right hfailed)⟩

end KeyValue

/-- The value that an attempt committed. -/
def Attempt.value? : Attempt → Option Json
  | .committed v => some v
  | _ => none

namespace Settings

/-- How an update of the text under a key ends among other clients: with the changed value, which
is then stored, or with none, and the texts that the other clients leave. -/
inductive Settles [Platform] (s : KeyValue) (k : String) (change : Json → Except Fault Json)
    (n : Nat) (s' : KeyValue) : Option Json → Prop where
  | written {v w : Json} {text : String} (hd : decode k ((s.others n).text? k) = .ok v)
      (hc : change v = .ok w) (he : encode w = .ok text)
      (ht : s'.texts = (s.others n).texts.set k text) : Settles s k change n s' (some w)
  | untouched (ht : s'.texts = (s.others n).texts) : Settles s k change n s' none

theorem value?_attemptFault (owner : Json) (name : String) (f : StoreFault) :
    (attemptFault owner name f).value? = none := by
  cases f <;> rfl

/-- What is settled after some executions in vain is settled from the start. -/
theorem Settles.of_elapsed [Platform] {s later s' : KeyValue} {k : String}
    {change : Json → Except Fault Json} {m n : Nat} {value : Option Json}
    (h : Settles later k change n s' value) (helapsed : s.Elapsed later m) (ht : later.texts = (s.others m).texts) :
    Settles s k change (m + n) s' value := by
  have hothers : (later.others n).texts = (s.others (m + n)).texts := by
    rw [← KeyValue.others_others, KeyValue.others, ht, helapsed.rivals]
    rfl
  have htext : (later.others n).text? k = (s.others (m + n)).text? k := by
    rw [KeyValue.text?, hothers, KeyValue.text?]
  cases h with
  | written hd hc he hwritten => exact .written (htext ▸ hd) hc he (by rw [hwritten, hothers])
  | untouched hsame => exact .untouched (hsame.trans hothers)

theorem Settles.confined [Platform] {s s' : KeyValue} {k : String}
    {change : Json → Except Fault Json} {n : Nat} {value : Option Json}
    (h : Settles s k change n s' value) (helapsed : s.Elapsed s' n) : s.Confined s' k (value = none) := by
  refine ⟨⟨n, helapsed⟩, fun other hother => ?_⟩
  rw [helapsed.othersUntil]
  cases h with
  | written _ _ _ ht =>
    have hne : other ≠ k := hother.resolve_right (by simp)
    rw [KeyValue.text?, ht, Table.get?_set_of_ne hne, KeyValue.text?]
  | untouched ht => rw [KeyValue.text?, ht, KeyValue.text?]

section
variable [Platform] (s : KeyValue) (owner : Json) (name : String)
  (change : Json → Except Fault Json)

/-- An attempt fails before its execution, or is settled by it. -/
theorem settles_attempt : ∃ n, s.Elapsed (attempt s owner name change).2.1 n ∧
    Settles s (key owner name) change n (attempt s owner name change).2.1
      (attempt s owner name change).1.value? := by
  unfold attempt
  dsimp only
  split
  · rw [value?_attemptFault]
    exact ⟨0, .refl s, .untouched rfl⟩
  · next raw hget =>
    have hraw : raw = s.text? (key owner name) := by
      unfold KeyValue.get at hget
      split at hget
      · cases hget
      · exact (Except.ok.inj hget).symm
    split
    · exact ⟨0, .refl s, .untouched rfl⟩
    · next v hd =>
      split
      · exact ⟨0, .refl s, .untouched rfl⟩
      · next w text hchange =>
        obtain ⟨w', hc, hchange⟩ := bind_eq_ok.1 hchange
        obtain ⟨text', he, hchange⟩ := bind_eq_ok.1 hchange
        obtain ⟨rfl, rfl⟩ := Prod.mk.inj (Except.ok.inj hchange)
        obtain ⟨helapsed, hends⟩ := KeyValue.elapsed_execute s (key owner name)
          (s.version (key owner name)) text'
        split
        · next later hexecute =>
          rw [hexecute] at helapsed hends
          obtain ⟨-, hkept, ht⟩ | ⟨⟨f, hf⟩, -⟩ := hends
          · rw [hraw, ← hkept rfl] at hd
            exact ⟨1, helapsed, .written hd hc he ht⟩
          · cases hf
        · next f later hexecute =>
          rw [hexecute] at helapsed hends
          obtain ⟨hf, -⟩ | ⟨-, ht⟩ := hends
          · cases hf
          · rw [value?_attemptFault]
            exact ⟨1, helapsed, .untouched ht⟩

/-- What holds of one attempt holds of any number of them: an overtaken one writes nothing. -/
theorem settles_updateUpTo (st : Settings) (left : Nat) :
    ∃ n, s.Elapsed (st.updateUpTo owner name change left s).store n ∧
      Settles s (key owner name) change n (st.updateUpTo owner name change left s).store
        (st.updateUpTo owner name change left s).outcome.toOption := by
  induction left generalizing s with
  | zero => exact ⟨0, .refl s, .untouched rfl⟩
  | succ left ih =>
    obtain ⟨n, helapsed, hsettles⟩ := settles_attempt s owner name change
    rw [updateUpTo]
    split
    · next v later seen hattempt =>
      rw [hattempt] at helapsed hsettles
      exact ⟨n, helapsed, hsettles⟩
    · next f later seen hattempt =>
      rw [hattempt] at helapsed hsettles
      exact ⟨n, helapsed, hsettles⟩
    · next later seen hattempt =>
      rw [hattempt] at helapsed hsettles
      obtain ⟨m, hlast, hsettles'⟩ := ih later
      cases hsettles with
      | untouched ht => exact ⟨n + m, helapsed.trans hlast, hsettles'.of_elapsed helapsed ht⟩

end

end Settings
end Gatehouse
