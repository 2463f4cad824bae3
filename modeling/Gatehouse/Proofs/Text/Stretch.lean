import Mathlib.Data.List.Infix

/-!
Stretches of a list that avoid one of its elements: they stand wholly before it or wholly behind it.
-/
namespace Gatehouse.Text
variable {α : Type} {t a b : List α} {x : α}

theorem prefix_of_append_cons (hx : x ∉ t) (h : t <+: a ++ x :: b) : t <+: a := by
  rcases List.prefix_or_prefix_of_prefix h (List.prefix_append a (x :: b)) with h' | ⟨rest, rfl⟩
  · exact h'
  · rcases List.prefix_cons_iff.1 ((List.prefix_append_right_inj a).1 h) with rfl | ⟨q, rfl, -⟩
    · rw [List.append_nil]
    · simp at hx

theorem infix_of_append_cons (hx : x ∉ t) (h : t <:+: a ++ x :: b) : t <:+: a ∨ t <:+: b := by
  rcases List.infix_append_iff.1 h with h | h | ⟨p, q, rfl, hp, hq⟩
  · exact .inl h
  · rcases List.infix_cons_iff.1 h with h | h
    · rcases List.prefix_cons_iff.1 h with rfl | ⟨q, rfl, -⟩
      · exact .inl List.nil_infix
      · simp at hx
    · exact .inr h
  · rcases List.prefix_cons_iff.1 hq with rfl | ⟨r, rfl, -⟩
    · rw [List.append_nil]
      exact .inl hp.isInfix
    · simp at hx

/-- A stretch is found behind a list that does not have its first element. -/
theorem infix_of_not_mem (hx : x ∉ a) (h : x :: t <:+: a ++ b) : x :: t <:+: b := by
  induction a with
  | nil => exact h
  | cons y a ih =>
    rw [List.mem_cons, not_or] at hx
    rcases List.infix_cons_iff.1 h with h | h
    · exact absurd (List.cons_prefix_cons.1 h).1 hx.1
    · exact ih hx.2 h

end Gatehouse.Text
