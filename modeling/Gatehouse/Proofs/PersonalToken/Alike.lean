import Gatehouse.Proofs.PersonalToken.Frame

/-!
Two stores that hold the same text under one key, and anything under all others. An operation on the
setting with this key gives the same on both, and they hold the same text under the key afterwards:
`alike_answer` for the registry.
-/
namespace Gatehouse

/-- Two quiet stores that hold the same text under a key. -/
structure KeyValue.Alike (s s' : KeyValue) (k : String) : Prop where
  left : s.Quiet
  right : s'.Quiet
  text : s'.text? k = s.text? k

theorem KeyValue.Alike.write {s s' : KeyValue} {k : String} (h : s.Alike s' k) (text : String) :
    (s.counted.write k text).Alike (s'.counted.write k text) k where
  left := h.left.counted.write k text
  right := h.right.counted.write k text
  text := by rw [text?_write_self, text?_write_self]

namespace Settings
variable [Platform] {s s' : KeyValue} {owner : Json} {name : String}

theorem alike_attempt (h : s.Alike s' (key owner name)) (change : Json → Except Fault Json) :
    ∃ a t t' seen, attempt s owner name change = (a, t, seen) ∧
      attempt s' owner name change = (a, t', seen) ∧ t.Alike t' (key owner name) ∧
      a ≠ .overtaken := by
  rw [attempt_of_quiet h.left, attempt_of_quiet h.right, h.text]
  split
  · exact ⟨_, _, _, _, rfl, rfl, h, nofun⟩
  · split
    · exact ⟨_, _, _, _, rfl, rfl, h, nofun⟩
    · exact ⟨_, _, _, _, rfl, rfl, h.write _, nofun⟩

theorem alike_update (st : Settings) (h : s.Alike s' (key owner name))
    (change : Json → Except Fault Json) :
    ∃ outcome t t' seen, st.update s owner name change = ⟨outcome, t, seen⟩ ∧
      st.update s' owner name change = ⟨outcome, t', seen⟩ ∧ t.Alike t' (key owner name) := by
  obtain ⟨n, hn⟩ := Nat.exists_eq_add_one.2 st.attempts_pos
  obtain ⟨a, t, t', seen, hleft, hright, halike, hne⟩ := alike_attempt h change
  simp only [update, hn, updateUpTo, hleft, hright]
  cases a with
  | committed v => exact ⟨_, _, _, _, rfl, rfl, halike⟩
  | failed f => exact ⟨_, _, _, _, rfl, rfl, halike⟩
  | overtaken => exact absurd rfl hne

theorem alike_updateTokens (st : Settings) (h : s.Alike s' (key owner tokensName))
    (change : List TokenRecord → Except Fault (List TokenRecord)) :
    ∃ outcome t t' seen, st.updateTokens s owner change = ⟨outcome, t, seen⟩ ∧
      st.updateTokens s' owner change = ⟨outcome, t', seen⟩ ∧
      t.Alike t' (key owner tokensName) := by
  obtain ⟨outcome, t, t', seen, hleft, hright, halike⟩ :=
    alike_update st h (changeSetting owner change)
  simp only [updateTokens, hleft, hright]
  exact ⟨_, _, _, _, rfl, rfl, halike⟩

theorem alike_getTokens (h : s.Alike s' (key owner tokensName)) :
    getTokens s' owner = getTokens s owner := by
  simp only [getTokens, get, h.left.get, h.right.get, h.text]

end Settings

open Settings

/-- The registry answers for a user by the record of this user alone. -/
theorem TokenLife.Request.alike_answer [Platform] (q : Request) (r : TokenRegistry)
    {s s' : KeyValue} (h : s.Alike s' (key (.int q.owner) tokensName)) (now : DateTime) :
    ∃ x t t', q.answer r s now = (x, t) ∧ q.answer r s' now = (x, t') ∧
      t.Alike t' (key (.int q.owner) tokensName) := by
  cases q with
  | create user description expiresAt =>
    replace h : s.Alike s' (key (.int user.id) tokensName) := h
    simp only [answer, TokenRegistry.create]
    cases r.prepare (.text user.username) (.int user.id) description expiresAt now with
    | error f => exact ⟨_, _, _, rfl, rfl, h⟩
    | ok p =>
      obtain ⟨outcome, t, t', seen, hleft, hright, halike⟩ :=
        alike_updateTokens r.settings h fun records => .ok (records ++ [p.1])
      simp only [hleft, hright]
      exact ⟨_, _, _, rfl, rfl, halike⟩
  | revoke owner token =>
    replace h : s.Alike s' (key (.int owner) tokensName) := h
    obtain ⟨outcome, t, t', seen, hleft, hright, halike⟩ :=
      alike_updateTokens r.settings h fun records => .ok (records.filter (·.token ≠ token))
    simp only [answer, TokenRegistry.revoke, hleft, hright]
    exact ⟨_, _, _, rfl, rfl, halike⟩
  | prune owner =>
    replace h : s.Alike s' (key (.int owner) tokensName) := h
    obtain ⟨outcome, t, t', seen, hleft, hright, halike⟩ :=
      alike_updateTokens r.settings h (r.live now)
    simp only [answer, TokenRegistry.prune, hleft, hright]
    exact ⟨_, _, _, rfl, rfl, halike⟩
  | list owner =>
    replace h : s.Alike s' (key (.int owner) tokensName) := h
    refine ⟨_, _, _, rfl, ?_, h⟩
    simp only [answer, TokenRegistry.list, alike_getTokens h]

end Gatehouse
