import Gatehouse.Proofs.PersonalToken.Contended
import Gatehouse.Proofs.Store.Attempts

/-!
An update of records among the intrusions of other clients. Each of its attempts reads the records
that the intrusions before it left, and `Amendable` says that all of them can change what they read.
Then, with attempts left, the update stores what its change makes of the last of these records; and
`exists_updateTokens_iff` says that there is no other way for it to succeed.
-/
namespace Gatehouse.Settings
open SharedSetting (changedText)
variable [Platform] {s : KeyValue} {owner : Json} {records : List TokenRecord}
  {change : List TokenRecord → Except Fault (List TokenRecord)} {n : Nat}

/-- Every attempt up to this one reads records that it can change. -/
def Amendable (s : KeyValue) (owner : Json)
    (change : List TokenRecord → Except Fault (List TokenRecord)) (n : Nat) : Prop :=
  ∀ i ≤ n, ∃ records updated,
    Reads (s.contested (key owner tokensName) i) owner records ∧ change records = .ok updated

/-- An attempt makes a text exactly of records that it can read and change. -/
theorem changedText_eq_ok {r : Json × String} :
    changedText owner tokensName (changeSetting owner change)
        (s.textAfter (key owner tokensName) n) = .ok r ↔
      ∃ records updated, Reads (s.contested (key owner tokensName) n) owner records ∧
        change records = .ok updated ∧ r = (TokenRecord.setting updated,
          String.ofList (Json.print (TokenRecord.setting updated))) := by
  simp only [changedText, bind_eq_ok, Reads, KeyValue.text?_contested, changeSetting]
  constructor
  · rintro ⟨v, hd, w, ⟨records, htokens, updated, hc, hw⟩, text, he, hr⟩
    obtain rfl := Except.ok.inj hw
    rw [TokenRecord.encode_setting] at he
    obtain rfl := Except.ok.inj he
    exact ⟨records, updated, ⟨v, hd, htokens⟩, hc, (Except.ok.inj hr).symm⟩
  · rintro ⟨records, updated, ⟨v, hd, htokens⟩, hc, rfl⟩
    exact ⟨v, hd, _, ⟨records, htokens, updated, hc, rfl⟩, _, TokenRecord.encode_setting _, rfl⟩

theorem Amendable.computes (h : Amendable s owner change n) :
    Computes s owner tokensName (changeSetting owner change) n := by
  intro i hi
  obtain ⟨records, updated, hreads, hc⟩ := h i (Nat.le_of_lt hi)
  exact ⟨_, changedText_eq_ok.2 ⟨records, updated, hreads, hc, rfl⟩⟩

/-- The records after the intrusions that overtake an update are those that it changes. -/
theorem reads_of_overtakings
    (h : Reads (s.contested (key owner tokensName) (s.overtakings (key owner tokensName))) owner
      records) :
    Reads (s.contested (key owner tokensName) (s.overtakings (key owner tokensName) + 1)) owner
      records := by
  unfold Reads at h ⊢
  rwa [KeyValue.text?_contested, KeyValue.textAfter_overtakings, ← KeyValue.text?_contested]

theorem Reads.getTokens (hs : s.failure = none) (h : Reads s owner records) :
    getTokens s owner = .ok records := by
  obtain ⟨v, hd, ht⟩ := h
  simp only [Settings.getTokens, Settings.get, KeyValue.get, hs, hd, ht, bind, Except.bind]

/-- The last of the values that the attempts pass on stands for the records that are changed. -/
theorem getLast?_passed (h : Reads (s.contested (key owner tokensName) n) owner records) :
    ((passed s (key owner tokensName) (n + 1)).filterMap fun v =>
      (tokensOf owner v).toOption).getLast? = some records := by
  obtain ⟨v, hd, ht⟩ := h
  rw [passed_add, passed_one, hd, List.filterMap_append]
  have hlast : (Except.ok v : Except Fault Json).toOption.toList.filterMap
      (fun v => (tokensOf owner v).toOption) = [records] := by
    show [v].filterMap _ = _
    rw [List.filterMap_cons_some (by rw [ht]; rfl), List.filterMap_nil]
  rw [hlast, List.getLast?_append, List.getLast?_singleton, Option.some_or]

/-- With attempts left, an update changes the records that the intrusions leave. -/
theorem updateTokens_of_left (st : Settings) (hs : s.failure = none)
    (hleft : s.overtakings (key owner tokensName) < st.attempts)
    (h : Amendable s owner change (s.overtakings (key owner tokensName))) :
    ∃ records updated,
      Reads (s.contested (key owner tokensName) (s.overtakings (key owner tokensName) + 1)) owner
        records ∧ change records = .ok updated ∧
      (st.updateTokens s owner change).outcome = .ok updated ∧
      (st.updateTokens s owner change).seen.getLast? = some records ∧
      Rewritten (s.contested (key owner tokensName) (s.overtakings (key owner tokensName) + 1))
        (st.updateTokens s owner change).store owner updated ∧
      (st.updateTokens s owner change).store.failure = none := by
  obtain ⟨records, updated, hlast, hc⟩ := h _ (Nat.le_refl _)
  have hupdate := update_of_left st hs h.computes rfl hleft
    (changedText_eq_ok.2 ⟨records, updated, hlast, hc, rfl⟩)
  refine ⟨records, updated, reads_of_overtakings hlast, hc, ?_⟩
  simp only [updateTokens, hupdate]
  exact ⟨tokensOf_setting owner _, getLast?_passed hlast, rfl,
    (KeyValue.failure_contested s _ _).trans hs⟩

/-! ### When an update succeeds -/

theorem exists_error_of_failure (st : Settings) {name : String} {f : StoreFault}
    (hs : s.failure = some f) (change : Json → Except Fault Json) (left : Nat) :
    ∃ g, (st.updateUpTo owner name change left s).outcome = .error g := by
  have hget : s.get (key owner name) = .error f := by simp only [KeyValue.get, hs]
  have hattempt : attempt s owner name change = (attemptFault owner name f, s, []) := by
    simp only [attempt, hget]
  induction left with
  | zero => exact ⟨_, rfl⟩
  | succ left ih =>
    rw [updateUpTo, hattempt]
    cases f with
    | watch => exact ih
    | _ => exact ⟨_, rfl⟩

theorem outcome_updateTokens_of_error (st : Settings) {f : Fault}
    (h : (st.update s owner tokensName (changeSetting owner change)).outcome = .error f) :
    (st.updateTokens s owner change).outcome = .error f := by
  simp only [updateTokens, h]
  rfl

section
variable {st : Settings} {updated : List TokenRecord} (hs : s.failure = none)
  (h : (st.updateTokens s owner change).outcome = .ok updated)
include hs h

/-- No attempt of an update that succeeds has failed by itself. -/
theorem exists_changedText (i : Nat) (hi : i ≤ s.overtakings (key owner tokensName))
    (hleft : i < st.attempts) : ∃ r, changedText owner tokensName (changeSetting owner change)
      (s.textAfter (key owner tokensName) i) = .ok r := by
  induction i using Nat.strong_induction_on with
  | _ i ih =>
    have hcomputes : Computes s owner tokensName (changeSetting owner change) i :=
      fun j hj => ih j hj (by omega) (by omega)
    cases hc : changedText owner tokensName (changeSetting owner change)
        (s.textAfter (key owner tokensName) i) with
    | ok r => exact ⟨r, rfl⟩
    | error f =>
      have hfails := update_of_failing st hs hcomputes hi hleft hc
      rw [outcome_updateTokens_of_error st (congrArg Update.outcome hfails)] at h
      cases h

theorem lt_attempts_of_ok : s.overtakings (key owner tokensName) < st.attempts := by
  by_contra hlost
  have hlost := Nat.not_lt.1 hlost
  have hcomputes : Computes s owner tokensName (changeSetting owner change) st.attempts :=
    fun i hi => exists_changedText hs h i (by omega) hi
  have hgivesUp := update_of_overtaken st hs hcomputes rfl hlost
  rw [outcome_updateTokens_of_error st (congrArg Update.outcome hgivesUp)] at h
  cases h

end

/-- An update of records succeeds exactly if it reaches the store, has attempts left, and can change
the records of each attempt. -/
theorem exists_updateTokens_iff (st : Settings) :
    (∃ updated, (st.updateTokens s owner change).outcome = .ok updated) ↔
      s.failure = none ∧ s.overtakings (key owner tokensName) < st.attempts ∧
        Amendable s owner change (s.overtakings (key owner tokensName)) := by
  constructor
  · rintro ⟨updated, h⟩
    have hs : s.failure = none := by
      cases hfailure : s.failure with
      | none => rfl
      | some f =>
        obtain ⟨g, hg⟩ : ∃ g, (st.update s owner tokensName
            (changeSetting owner change)).outcome = .error g :=
          exists_error_of_failure st hfailure _ st.attempts
        rw [outcome_updateTokens_of_error st hg] at h
        cases h
    have hleft := lt_attempts_of_ok hs h
    refine ⟨hs, hleft, fun i hi => ?_⟩
    obtain ⟨r, hr⟩ := exists_changedText hs h i hi (by omega)
    obtain ⟨records, updated, hreads, hc, -⟩ := changedText_eq_ok.1 hr
    exact ⟨records, updated, hreads, hc⟩
  · rintro ⟨hs, hleft, hamendable⟩
    obtain ⟨records, updated, -, -, hout, -⟩ := updateTokens_of_left st hs hleft hamendable
    exact ⟨updated, hout⟩

end Gatehouse.Settings
