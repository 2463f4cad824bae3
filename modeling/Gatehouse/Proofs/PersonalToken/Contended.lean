import Gatehouse.Proofs.PersonalToken.Stored
import Gatehouse.Proofs.Store.Contention

/-!
The records of a user among other clients. Whatever is stored and whoever else writes, an operation
of the registry that fails leaves what the other clients leave, and one that succeeds has changed
the records that they left and stored the result. `Amends` says so of one operation.
-/
namespace Gatehouse

namespace Settings
variable {s s' : KeyValue} {owner : Json} {records : List TokenRecord}

/-- The text of these records is stored for a user, and all other texts are as before. -/
def Rewritten (s s' : KeyValue) (owner : Json) (records : List TokenRecord) : Prop :=
  s'.texts = s.texts.set (key owner tokensName)
    (String.ofList (Json.print (TokenRecord.setting records)))

theorem Rewritten.text?_self (h : Rewritten s s' owner records) :
    s'.text? (key owner tokensName) =
      some (String.ofList (Json.print (TokenRecord.setting records))) := by
  rw [KeyValue.text?, h, Table.get?_set_self]

theorem Rewritten.holds (h : Rewritten s s' owner records) : Holds s' owner records :=
  .inr h.text?_self

theorem Rewritten.text?_of_ne (h : Rewritten s s' owner records) {k : String}
    (hne : k ≠ key owner tokensName) : s'.text? k = s.text? k := by
  rw [KeyValue.text?, h, Table.get?_set_of_ne hne, KeyValue.text?]

variable [Platform]

/-- The text under the key of a user can be read as these records. -/
def Reads (s : KeyValue) (owner : Json) (records : List TokenRecord) : Prop :=
  ∃ v, decode (key owner tokensName) (s.text? (key owner tokensName)) = .ok v ∧
    tokensOf owner v = .ok records

theorem Holds.eq_of_reads {records' : List TokenRecord} (h : Holds s owner records)
    (hreads : Reads s owner records') : records = records' := by
  obtain ⟨v, hd, ht⟩ := h.decode
  obtain ⟨v', hd', ht'⟩ := hreads
  obtain rfl := Except.ok.inj (hd.symm.trans hd')
  exact Except.ok.inj (ht.symm.trans ht')

/-- An update of records stores what its change makes of the records that the other clients left,
or it fails and stores nothing. -/
theorem settles_updateTokens (st : Settings) (s : KeyValue) (owner : Json)
    (change : List TokenRecord → Except Fault (List TokenRecord)) :
    ∃ n, s.Elapsed (st.updateTokens s owner change).store n ∧
      ((∃ records updated, Reads (s.others n) owner records ∧ change records = .ok updated ∧
          (st.updateTokens s owner change).outcome = .ok updated ∧
          Rewritten (s.others n) (st.updateTokens s owner change).store owner updated) ∨
        (∃ f, (st.updateTokens s owner change).outcome = .error f) ∧
          (st.updateTokens s owner change).store.texts = (s.others n).texts) := by
  obtain ⟨n, helapsed, hsettles⟩ :=
    settles_updateUpTo s owner tokensName (changeSetting owner change) st st.attempts
  simp only [updateTokens, update]
  refine ⟨n, helapsed, ?_⟩
  generalize st.updateUpTo owner tokensName (changeSetting owner change) st.attempts s = u at *
  obtain ⟨outcome, later, seen⟩ := u
  cases outcome with
  | error f =>
    cases hsettles with
    | untouched ht => exact .inr ⟨⟨f, rfl⟩, ht⟩
  | ok w =>
    cases hsettles with
    | written hd hc he ht =>
      obtain ⟨records, htokens, hc⟩ := bind_eq_ok.1 hc
      obtain ⟨updated, hupdated, hw⟩ := bind_eq_ok.1 hc
      obtain rfl := Except.ok.inj hw
      rw [TokenRecord.encode_setting] at he
      obtain rfl := Except.ok.inj he
      exact .inl ⟨records, updated, ⟨_, hd, htokens⟩, hupdated, tokensOf_setting owner updated, ht⟩

/-- How an operation that changes the records of a user ends among other clients. -/
inductive Amends (s : KeyValue) (owner : Json)
    (change : List TokenRecord → Except Fault (List TokenRecord)) (n : Nat) (s' : KeyValue)
    {α : Type} : Except Fault α → Prop where
  | rewritten {a : α} {records updated : List TokenRecord}
      (hreads : Reads (s.others n) owner records) (hchange : change records = .ok updated)
      (ht : Rewritten (s.others n) s' owner updated) : Amends s owner change n s' (.ok a)
  | untouched {f : Fault} (ht : s'.texts = (s.others n).texts) :
      Amends s owner change n s' (.error f)

section
variable {change : List TokenRecord → Except Fault (List TokenRecord)} {n : Nat} {α : Type}
  {outcome : Except Fault α}

theorem Amends.confined (h : Amends s owner change n s' outcome) (helapsed : s.Elapsed s' n) :
    s.Confined s' (key owner tokensName) (∃ f, outcome = .error f) := by
  refine ⟨⟨n, helapsed⟩, fun other hother => ?_⟩
  rw [helapsed.othersUntil]
  cases h with
  | rewritten _ _ ht => exact ht.text?_of_ne (hother.resolve_right (by simp))
  | untouched ht => rw [KeyValue.text?, ht, KeyValue.text?]

theorem amends_updateTokens (st : Settings) (s : KeyValue) (owner : Json)
    (change : List TokenRecord → Except Fault (List TokenRecord)) (f : List TokenRecord → α) :
    ∃ n, s.Elapsed (st.updateTokens s owner change).store n ∧
      Amends s owner change n (st.updateTokens s owner change).store
        ((st.updateTokens s owner change).outcome.map f) := by
  obtain ⟨n, helapsed, ⟨records, updated, hreads, hchange, hout, ht⟩ | ⟨⟨e, hout⟩, ht⟩⟩ :=
    settles_updateTokens st s owner change
  · rw [hout]
    exact ⟨n, helapsed, .rewritten hreads hchange ht⟩
  · rw [hout]
    exact ⟨n, helapsed, .untouched ht⟩

end

end Settings

namespace TokenRegistry
open Settings
variable [Platform]

section
variable (r : TokenRegistry) (s : KeyValue) (owner : Json) (now : DateTime)

/-- A creation adds the record that was prepared for it. -/
theorem amends_create (username description : Json) (expiresAt : Option DateTime) :
    ∃ n, s.Elapsed (r.create s username owner description expiresAt now).2 n ∧
      Amends s owner
        (fun records => (fun p => records ++ [p.1]) <$>
          r.prepare username owner description expiresAt now) n
        (r.create s username owner description expiresAt now).2
        (r.create s username owner description expiresAt now).1 := by
  unfold create
  cases hprepare : r.prepare username owner description expiresAt now with
  | error f => exact ⟨0, .refl s, .untouched rfl⟩
  | ok p =>
    obtain ⟨kept, view⟩ := p
    exact amends_updateTokens r.settings s owner (fun records => .ok (records ++ [kept]))
      fun _ => view

theorem amends_revoke (token : AnyText) :
    ∃ n, s.Elapsed (r.revoke s owner token).2 n ∧
      Amends s owner (fun records => .ok (records.filter (·.token ≠ token))) n
        (r.revoke s owner token).2 (r.revoke s owner token).1 :=
  amends_updateTokens r.settings s owner _ _

theorem amends_prune :
    ∃ n, s.Elapsed (r.prune s owner now).2 n ∧
      Amends s owner (r.live now) n (r.prune s owner now).2 (r.prune s owner now).1 :=
  amends_updateTokens r.settings s owner _ _

end
end TokenRegistry

end Gatehouse
