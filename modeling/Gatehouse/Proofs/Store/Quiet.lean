import Gatehouse.Store.KeyValue
import Mathlib.Tactic.Common
import Mathlib.Tactic.SplitIfs

/-!
A quiet store: it can be reached, and nobody writes to it between the operations that are looked
at. There every operation succeeds and touches no more than its own key.
-/
namespace Gatehouse.KeyValue
variable {s s' : KeyValue}

/-- The store can be reached, and no queued client writes to it. -/
structure Quiet (s : KeyValue) : Prop where
  failure : s.failure = none
  rivals : s.rivals = []
  conflicts : s.conflicts ≤ 0

/-- A quiet store with given texts and versions. -/
def shared (texts : Table String String) (versions : Table String Nat) : KeyValue :=
  ⟨texts, versions, [], 0, none, 0⟩

theorem shared_quiet (texts : Table String String) (versions : Table String Nat) :
    (shared texts versions).Quiet := ⟨rfl, rfl, Int.le_refl 0⟩

/-- The store after one more execution. -/
def counted (s : KeyValue) : KeyValue := { s with executions := s.executions + 1 }

@[simp] theorem counted_text? (s : KeyValue) (k : String) : s.counted.text? k = s.text? k := rfl
@[simp] theorem counted_version (s : KeyValue) (k : String) :
    s.counted.version k = s.version k := rfl

theorem Quiet.counted (h : s.Quiet) : s.counted.Quiet := ⟨h.failure, h.rivals, h.conflicts⟩

theorem Quiet.write (h : s.Quiet) (k text : String) : (s.write k text).Quiet :=
  ⟨h.failure, h.rivals, h.conflicts⟩

theorem Quiet.get (h : s.Quiet) (k : String) : s.get k = .ok (s.text? k) := by
  simp [KeyValue.get, h.failure]

theorem Quiet.set (h : s.Quiet) (k text : String) : s.set k text = .ok (s.write k text) := by
  simp [KeyValue.set, h.failure]

theorem Quiet.interfere (h : s.Quiet) (k : String) : s.interfere k = s := by
  have hc := h.conflicts
  simp only [KeyValue.interfere, h.rivals]
  rw [if_neg (by omega)]

/-- Without queued clients an execution writes exactly if the noted version is current. -/
theorem Quiet.execute (h : s.Quiet) (k : String) (noted : Nat) (text : String) :
    s.execute k noted text =
      if s.version k = noted then (.ok (), s.counted.write k text)
      else (.error .watch, s.counted) := by
  have hi : KeyValue.interfere { s with executions := s.executions + 1 } k = s.counted :=
    h.counted.interfere k
  simp only [KeyValue.execute, hi, counted_version, h.counted.set k text]
  split_ifs <;> simp_all

/-- The stores hold the same texts under the same versions. -/
def Agrees (s s' : KeyValue) : Prop := s.texts = s'.texts ∧ s.versions = s'.versions

theorem Agrees.text? (h : s.Agrees s') (k : String) : s.text? k = s'.text? k := by
  simp [KeyValue.text?, h.1]

theorem Agrees.version (h : s.Agrees s') (k : String) : s.version k = s'.version k := by
  simp [KeyValue.version, h.2]

theorem Agrees.trans {r : KeyValue} (h : r.Agrees s) (h' : s.Agrees s') : r.Agrees s' :=
  ⟨h.1.trans h'.1, h.2.trans h'.2⟩

theorem Agrees.write (h : s.Agrees s') (k text : String) :
    (s.write k text).Agrees (s'.write k text) := by
  obtain ⟨ht, hv⟩ := h
  simp [Agrees, KeyValue.write, touch, KeyValue.version, ht, hv]

theorem Agrees.counted (h : s.Agrees s') : s.counted.Agrees s'.counted := h

end Gatehouse.KeyValue
