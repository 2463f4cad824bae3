import Gatehouse.Proofs.PersonalToken.Contended
import Gatehouse.Proofs.PersonalToken.Life

/-!
Settings that operations leave alone. An operation on a setting of a user changes the text under the
key of that setting at most, and different settings have different keys, whatever their names are.
So a run of operations on other settings leaves a setting to the other clients of the store:
`spared_run`.
-/
namespace Gatehouse

namespace Settings
variable [Platform] {s s' s'' : KeyValue} {owner : Json} {name k : String} {failed : Prop}

/-- A setting is as the queued clients alone leave it, and so is what is read of it. -/
structure Spared (s s' : KeyValue) (owner : Json) (name : String) : Prop where
  elapsed : ∃ n, s.Elapsed s' n
  text : s'.text? (key owner name) = (s.othersUntil s').text? (key owner name)
  get : get s' owner name = get (s.othersUntil s') owner name

theorem spared_of_text (helapsed : ∃ n, s.Elapsed s' n)
    (htext : s'.text? (key owner name) = (s.othersUntil s').text? (key owner name)) :
    Spared s s' owner name := by
  refine ⟨helapsed, htext, ?_⟩
  obtain ⟨n, helapsed⟩ := helapsed
  have hfailure : s'.failure = (s.othersUntil s').failure := helapsed.failure
  simp only [Settings.get, KeyValue.get, hfailure, htext]

theorem Spared.refl (s : KeyValue) (owner : Json) (name : String) : Spared s s owner name :=
  spared_of_text ⟨0, .refl s⟩ (by rw [(KeyValue.Elapsed.refl s).othersUntil]; rfl)

theorem Spared.trans (h : Spared s s' owner name) (h' : Spared s' s'' owner name) :
    Spared s s'' owner name := by
  obtain ⟨m, hm⟩ := h.elapsed
  obtain ⟨n, hn⟩ := h'.elapsed
  have htext := h.text
  have htext' := h'.text
  rw [hm.othersUntil] at htext
  rw [hn.othersUntil, hm.text?_others htext] at htext'
  exact spared_of_text ⟨m + n, hm.trans hn⟩ (by rw [(hm.trans hn).othersUntil, htext'])

theorem spared_of_confined (h : s.Confined s' k failed) (hne : key owner name ≠ k) :
    Spared s s' owner name :=
  spared_of_text h.elapsed (h.text? _ (.inl hne))

end Settings

open Settings

/-- What is done with the settings of users, one at a time or by the registry of tokens. -/
inductive Operation where
  | get (owner : Int) (name : String)
  | put (owner : Int) (name : String) (value : Json)
  | update (settings : Settings) (owner : Int) (name : String)
      (change : Json → Except Fault Json)
  | updateTokens (settings : Settings) (owner : Int)
      (change : List TokenRecord → Except Fault (List TokenRecord))
  | request (registry : TokenRegistry) (now : DateTime) (q : TokenLife.Request)

namespace Operation
variable [Platform]

/-- The user and the setting that an operation is on. -/
def setting : Operation → Int × String
  | .get owner name => (owner, name)
  | .put owner name _ => (owner, name)
  | .update _ owner name _ => (owner, name)
  | .updateTokens _ owner _ => (owner, tokensName)
  | .request _ _ q => (q.owner, tokensName)

/-- The store after an operation, whether it succeeds or fails. -/
def after (s : KeyValue) : Operation → KeyValue
  | .get _ _ => s
  | .put owner name value => (Settings.put s (.int owner) name value).toOption.getD s
  | .update settings owner name change => (settings.update s (.int owner) name change).store
  | .updateTokens settings owner change => (settings.updateTokens s (.int owner) change).store
  | .request registry now q => (q.answer registry s now).2

/-- The store after operations, one after the other. -/
def run (s : KeyValue) (ops : List Operation) : KeyValue := ops.foldl after s

end Operation

namespace TokenLife
variable [Platform]

/-- The answer is a fault. -/
def Answer.Fails : Answer → Prop
  | .created outcome => ∃ f, outcome = .error f
  | .revoked outcome => ∃ f, outcome = .error f
  | .pruned outcome => ∃ f, outcome = .error f
  | .listed outcome => ∃ f, outcome = .error f

/-- The registry changes the records of one user at most, and nothing where it fails. -/
theorem Request.confined_answer (q : Request) (r : TokenRegistry) (s : KeyValue) (now : DateTime) :
    s.Confined (q.answer r s now).2 (key (.int q.owner) tokensName) (q.answer r s now).1.Fails := by
  cases q with
  | create user description expiresAt =>
    obtain ⟨n, helapsed, h⟩ := r.amends_create s (.int user.id) now (.text user.username)
      description expiresAt
    exact h.confined helapsed
  | revoke owner token =>
    obtain ⟨n, helapsed, h⟩ := r.amends_revoke s (.int owner) token
    exact h.confined helapsed
  | prune owner =>
    obtain ⟨n, helapsed, h⟩ := r.amends_prune s (.int owner) now
    exact h.confined helapsed
  | list owner => exact .refl s _ _

end TokenLife

/-! ### One operation, and a run of them -/

theorem Settings.confined_put (s : KeyValue) (owner : Json) (name : String) (value : Json) :
    s.Confined ((put s owner name value).toOption.getD s) (key owner name) False := by
  cases hput : put s owner name value with
  | error f => exact .refl s _ _
  | ok s' =>
    obtain ⟨text, -, hset⟩ := bind_eq_ok.1 hput
    unfold KeyValue.set at hset
    cases hfailure : s.failure with
    | some f =>
      rw [hfailure] at hset
      cases hset
    | none =>
      rw [hfailure] at hset
      obtain rfl := Except.ok.inj hset
      have helapsed := (KeyValue.Elapsed.refl s).write (key owner name) text
      refine ⟨⟨0, helapsed⟩, fun other hother => ?_⟩
      show (s.write (key owner name) text).text? other =
        (s.othersUntil (s.write (key owner name) text)).text? other
      rw [helapsed.othersUntil, KeyValue.text?_write_of_ne (hother.resolve_right id)]
      rfl

namespace Operation
variable [Platform]

/-- An operation changes the text of its own setting at most. -/
theorem confined_after (op : Operation) (s : KeyValue) :
    s.Confined (op.after s) (key (.int op.setting.1) op.setting.2) False := by
  cases op with
  | get owner name => exact .refl s _ _
  | put owner name value => exact confined_put s (.int owner) name value
  | update settings owner name change =>
    obtain ⟨n, helapsed, h⟩ :=
      settles_updateUpTo s (.int owner) name change settings settings.attempts
    exact (h.confined helapsed).mono False.elim
  | updateTokens settings owner change =>
    obtain ⟨n, helapsed, h⟩ := settles_updateUpTo s (.int owner) tokensName
      (changeSetting (.int owner) change) settings settings.attempts
    exact (h.confined helapsed).mono False.elim
  | request registry now q => exact (q.confined_answer registry s now).mono False.elim

/-- A setting of a user is spared by every run of operations on other settings. -/
theorem spared_run (ops : List Operation) (s : KeyValue) {v : Int} {k : String}
    (h : ∀ op ∈ ops, op.setting ≠ (v, k)) : Spared s (run s ops) (.int v) k := by
  induction ops generalizing s with
  | nil => exact .refl s _ _
  | cons op ops ih =>
    have hop : key (.int v) k ≠ key (.int op.setting.1) op.setting.2 := by
      intro hkey
      obtain ⟨rfl, rfl⟩ := key_int_inj.1 hkey
      exact h op (List.mem_cons_self ..) rfl
    have hrest := ih (op.after s) fun x hx => h x (List.mem_cons_of_mem op hx)
    exact (spared_of_confined (op.confined_after s) hop).trans hrest

end Operation

end Gatehouse
