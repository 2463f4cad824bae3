import Gatehouse.Fault

/-!
Operations that write `Set-Cookie` headers. A header that was written before a fault stays
written, so an operation tells its headers whether it succeeds or not.
-/
namespace Gatehouse

/-- What an operation gave, and the `Set-Cookie` headers that it wrote, in order. -/
structure Written (α : Type) where
  outcome : Except Fault α
  headers : List String

namespace Written
variable {α β : Type}

/-- An operation that writes no header. -/
def ofExcept (outcome : Except Fault α) : Written α := ⟨outcome, []⟩

def bind (x : Written α) (f : α → Written β) : Written β :=
  match x.outcome with
  | .ok a => ⟨(f a).outcome, x.headers ++ (f a).headers⟩
  | .error e => ⟨.error e, x.headers⟩

instance : Monad Written where
  pure a := ofExcept (.ok a)
  bind := bind

instance : MonadLift (Except Fault) Written := ⟨ofExcept⟩

def header (h : Except Fault String) : Written Unit :=
  match h with
  | .ok s => ⟨.ok (), [s]⟩
  | .error e => ⟨.error e, []⟩

variable {hs : List String} {b : β}

@[simp] theorem outcome_pure (a : α) : (pure a : Written α).outcome = .ok a := rfl

@[simp] theorem outcome_liftM (x : Except Fault α) : (liftM x : Written α).outcome = x := rfl
@[simp] theorem headers_liftM (x : Except Fault α) : (liftM x : Written α).headers = [] := rfl

@[simp] theorem outcome_bind (x : Written α) (f : α → Written β) :
    (x >>= f).outcome = x.outcome >>= fun a => (f a).outcome := by
  change (bind x f).outcome = _
  unfold bind
  cases h : x.outcome <;> rfl

theorem ok_bind (a : α) (hs : List String) (f : α → Written β) :
    (⟨.ok a, hs⟩ >>= f : Written β) = ⟨(f a).outcome, hs ++ (f a).headers⟩ := rfl

/-- What follows a step that succeeds matters for its value only. -/
theorem bind_congr_of_ok {x : Written α} {a : α} (h : x.outcome = .ok a) {f g : α → Written β}
    (hfg : f a = g a) : x >>= f = x >>= g := by
  change bind x f = bind x g
  unfold bind
  rw [h]
  simp only [hfg]

/-- What follows writes no header, however it goes. -/
theorem headers_bind_of_nil (x : Written α) {f : α → Written β} (h : ∀ a, (f a).headers = []) :
    (x >>= f).headers = x.headers := by
  change (bind x f).headers = _
  unfold bind
  split
  · rw [h, List.append_nil]
  · rfl

/-- A first step without headers that succeeds leaves the rest. -/
theorem lift_bind_of_ok {x : Except Fault α} {a : α} (h : x = .ok a) (f : α → Written β) :
    (liftM x >>= f : Written β) = f a := by
  subst h
  rfl

theorem lift_bind_of_error {x : Except Fault α} {e : Fault} (h : x = .error e)
    (f : α → Written β) : (liftM x >>= f : Written β) = ⟨.error e, []⟩ := by
  subst h
  rfl

/-- An operation that starts with a step without headers succeeds when both succeed. -/
theorem lift_bind_eq_ok {x : Except Fault α} {f : α → Written β} :
    (liftM x >>= f : Written β) = ⟨.ok b, hs⟩ ↔ ∃ a, x = .ok a ∧ f a = ⟨.ok b, hs⟩ := by
  change bind (ofExcept x) f = _ ↔ _
  cases x with
  | error e => simp [ofExcept, bind]
  | ok a =>
    cases hf : f a
    simp [ofExcept, bind, hf]

/-- Two operations in a row succeed when both succeed, and write the headers of both. -/
theorem seq_eq_ok {x : Written α} {f : α → Written β} :
    x >>= f = ⟨.ok b, hs⟩ ↔
      ∃ a first rest, x = ⟨.ok a, first⟩ ∧ f a = ⟨.ok b, rest⟩ ∧ hs = first ++ rest := by
  change bind x f = _ ↔ _
  obtain ⟨outcome, headers⟩ := x
  cases outcome with
  | error e => simp [bind]
  | ok a =>
    cases hf : f a
    simp [bind, hf, and_assoc, eq_comm]

/-- An operation that starts with writing a header succeeds when both succeed. -/
theorem header_bind_eq_ok {h : Except Fault String} {f : Unit → Written β} :
    (header h >>= f : Written β) = ⟨.ok b, hs⟩ ↔
      ∃ s rest, h = .ok s ∧ f () = ⟨.ok b, rest⟩ ∧ hs = s :: rest := by
  change bind (header h) f = _ ↔ _
  cases h with
  | error e => simp [header, bind]
  | ok s =>
    cases hf : f ()
    simp [header, bind, hf, and_assoc, eq_comm]

theorem header_eq_ok {h : Except Fault String} {u : Unit} :
    header h = ⟨.ok u, hs⟩ ↔ ∃ s, h = .ok s ∧ hs = [s] := by
  cases h <;> simp [header, eq_comm]

theorem pure_eq_ok {a : β} : (pure a : Written β) = ⟨.ok b, hs⟩ ↔ a = b ∧ hs = [] := by
  change ofExcept (.ok a) = _ ↔ _
  simp [ofExcept, eq_comm]

end Written

end Gatehouse
