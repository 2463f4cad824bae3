import Gatehouse.Config.Sections
import Mathlib.Tactic.Common

/-!
What an accepted configuration keeps to. A section is accepted when every field is, and when the
test of the whole section is passed; so the spans of an accepted section of tokens are positive, and
cookies that end a margin early still live for some time.
-/
namespace Gatehouse

namespace Checked
variable {α β : Type} {x : Checked α} {a : α} {b : β}

theorem map_eq_accepted {f : α → β} : f <$> x = accepted b ↔ ∃ a, x = accepted a ∧ f a = b := by
  cases x <;> simp [Functor.map, map]

theorem seq_eq_accepted {f : Checked (α → β)} :
    f <*> x = accepted b ↔ ∃ g a, f = accepted g ∧ x = accepted a ∧ g a = b := by
  cases f <;> cases x <;> simp [Seq.seq, seq]

theorem under_eq_accepted {step : PathStep} : x.under step = accepted a ↔ x = accepted a := by
  cases x <;> simp [under]

theorem ensure_eq_accepted {test : α → Bool} {problem : FieldProblem} {input : Json} :
    x.ensure test problem input = accepted a ↔ x = accepted a ∧ test a = true := by
  cases x with
  | rejected es => simp [ensure]
  | accepted b =>
    simp only [ensure, fault, accepted.injEq]
    split
    · next hb =>
      rw [accepted.injEq, iff_self_and]
      rintro rfl
      exact hb
    · next hb =>
      simp only [reduceCtorEq, false_iff, not_and]
      rintro rfl
      exact hb

end Checked

namespace Schema

theorem pos_of_positive {v : Json} {n : Int} (h : positive v = .accepted n) : 0 < n :=
  of_decide_eq_true (Checked.ensure_eq_accepted.1 h).2

/-- A field of positive numbers with a positive default is positive. -/
theorem pos_of_optional {ms : Members} {name : String} {default n : Int} (hdefault : 0 < default)
    (h : optional ms name default positive = .accepted n) : 0 < n := by
  unfold optional at h
  split at h
  · exact pos_of_positive (Checked.under_eq_accepted.1 h)
  · cases h
    exact hdefault

end Schema

namespace TokenConfig

/-- What every accepted section of tokens keeps to. -/
structure Accepted (c : TokenConfig) : Prop where
  access_pos : 0 < c.accessMinutes
  refresh_pos : 0 < c.refreshMinutes
  threshold_pos : 0 < c.thresholdMinutes
  margin_pos : 0 < c.marginMinutes
  margin_lt : c.marginMinutes < c.refreshMinutes

theorem accepted_of_read {ms : Members} {c : TokenConfig} (h : read ms = .ok c) : c.Accepted := by
  obtain ⟨hsection, hfits⟩ := Checked.ensure_eq_accepted.1 (Checked.toExcept_ok h)
  simp only [Checked.seq_eq_accepted] at hsection
  obtain ⟨_, margin, ⟨_, threshold, ⟨_, refresh, ⟨_, access, hnames, haccess, rfl⟩, hrefresh, rfl⟩,
    hthreshold, rfl⟩, hmargin, rfl⟩ := hsection
  obtain ⟨_, issuer, ⟨_, keyId, ⟨_, algorithm, hsecret, -, rfl⟩, -, rfl⟩, -, rfl⟩ := hnames
  obtain ⟨secretKey, -, rfl⟩ := Checked.map_eq_accepted.1 hsecret
  exact ⟨Schema.pos_of_optional (by decide) haccess, Schema.pos_of_optional (by decide) hrefresh,
    Schema.pos_of_optional (by decide) hthreshold, Schema.pos_of_optional (by decide) hmargin,
    of_decide_eq_true hfits⟩

end TokenConfig

end Gatehouse
