import Gatehouse.Proofs.Json.RoundTrip
import Gatehouse.Proofs.Store.Attempts

/-!
Settings that are put are read back. The text of a setting is printed JSON, so whoever reads it
next, be it a read or an update, gets the value itself, and two values never share a text:
`put_get`.
-/
namespace Gatehouse.Settings
open Text

section
variable [Platform] {s s' : KeyValue} {owner : Json} {name k : String} {v w : Json}

/-! ### The text of a value -/

theorem encode_of_regular (h : Json.Regular Platform.depthLimit v) :
    encode v = .ok (String.ofList (Json.print v)) := by
  simp only [encode, Json.encode?, h.storable, if_true]

/-- The text of a value is read back as the value. -/
theorem decode_print (k : String) (h : Json.Regular Platform.depthLimit v) :
    decode k (some (String.ofList (Json.print v))) = .ok v := by
  simp only [decode, String.toList_ofList, Json.parse_print h]

/-- Values with one text are one value. -/
theorem eq_of_print_eq (hv : Json.Regular Platform.depthLimit v)
    (hw : Json.Regular Platform.depthLimit w)
    (h : Json.print v = Json.print w) : v = w := by
  have hread := Json.parse_print hw
  rw [← h, Json.parse_print hv] at hread
  exact Except.ok.inj hread

/-! ### A store with the text of a value -/

/-- The store can be reached and has the text of the value. -/
structure Keeps (s : KeyValue) (k : String) (v : Json) : Prop where
  failure : s.failure = none
  text : s.text? k = some (String.ofList (Json.print v))

theorem put_eq_ok (h : Json.Regular Platform.depthLimit v) : put s owner name v = .ok s' ↔
    s.failure = none ∧ s' = s.write (key owner name) (String.ofList (Json.print v)) := by
  simp only [put, encode_of_regular h, bind, Except.bind, KeyValue.set]
  cases s.failure <;> simp [eq_comm]

theorem keeps_of_put (h : Json.Regular Platform.depthLimit v) (hput : put s owner name v = .ok s') :
    Keeps s' (key owner name) v := by
  obtain ⟨hs, rfl⟩ := (put_eq_ok h).1 hput
  exact ⟨hs, KeyValue.text?_write_self _ _ _⟩

theorem Keeps.get (h : Keeps s (key owner name) v)
    (hv : Json.Regular Platform.depthLimit v) : get s owner name = .ok v := by
  simp only [Settings.get, KeyValue.get, h.failure, h.text, decode_print _ hv]

/-- An attempt starts from the value. -/
theorem Keeps.seen_attempt (h : Keeps s (key owner name) v)
    (hv : Json.Regular Platform.depthLimit v) (change : Json → Except Fault Json) :
    (attempt s owner name change).2.2 = [v] := by
  rw [Settings.seen_attempt h.failure, passed_one, h.text, decode_print _ hv]
  rfl

/-- The first attempt of an update starts from the value. -/
theorem Keeps.seen_update (h : Keeps s (key owner name) v)
    (hv : Json.Regular Platform.depthLimit v) (st : Settings) (change : Json → Except Fault Json) :
    ∃ later, (st.update s owner name change).seen = v :: later := by
  obtain ⟨left, hleft⟩ := Nat.exists_eq_add_one.2 st.attempts_pos
  have hseen := h.seen_attempt hv change
  rw [update, hleft, updateUpTo]
  obtain ⟨⟨result, next, seen⟩, hattempt⟩ : ∃ r, attempt s owner name change = r := ⟨_, rfl⟩
  rw [hattempt] at hseen ⊢
  subst hseen
  cases result with
  | committed w => exact ⟨[], rfl⟩
  | failed f => exact ⟨[], rfl⟩
  | overtaken => exact ⟨_, rfl⟩

/-- No client that is due writes under the key. -/
def Unrivalled (s : KeyValue) (k : String) : Prop := ∀ p ∈ s.rivals, p.1 ≠ k

omit [Platform] in
/-- What the other clients do leaves the text alone. -/
theorem Keeps.contested (h : Keeps s k v) (hrivals : Unrivalled s k) :
    Keeps (s.contested k 1) k v ∧ Unrivalled (s.contested k 1) k := by
  obtain ⟨helapsed, htexts, -⟩ := KeyValue.elapsed_interfere s k
  have htext : (s.others 1).text? k = s.text? k := by
    cases hqueue : s.rivals with
    | nil => rw [KeyValue.text?, KeyValue.others_of_rivals hqueue, KeyValue.text?]
    | cons p rest =>
      have hother : k ≠ p.1 := (hrivals p (hqueue ▸ List.mem_cons_self)).symm
      simp [KeyValue.text?, KeyValue.others, hqueue, Table.get?_set_of_ne hother]
  refine ⟨⟨helapsed.failure.trans h.failure, ?_⟩, ?_⟩
  · calc
      (s.contested k 1).text? k = (s.others 1).text? k := by
        rw [KeyValue.text?, KeyValue.text?, ← htexts]
        rfl
      _ = _ := htext.trans h.text
  · intro p hp
    apply hrivals p
    apply List.mem_of_mem_drop (i := 1)
    rwa [← helapsed.rivals]

/-- Every attempt of an update starts from the value then. -/
theorem Keeps.eq_of_mem_seen (h : Keeps s (key owner name) v)
    (hv : Json.Regular Platform.depthLimit v) (hrivals : Unrivalled s (key owner name))
    (st : Settings) (change : Json → Except Fault Json) {left : Nat} {x : Json}
    (hx : x ∈ (st.updateUpTo owner name change left s).seen) : x = v := by
  induction left generalizing s with
  | zero => cases hx
  | succ left ih =>
    have hseen := h.seen_attempt hv change
    obtain ⟨hnext, hdue⟩ := h.contested hrivals
    rw [updateUpTo] at hx
    rw [attempt_of_reachable h.failure] at hseen hx
    cases hchanged : SharedSetting.changedText owner name change
        (s.textAfter (key owner name) 0) with
    | error f =>
      simp only [hchanged] at hseen hx
      simpa [hseen] using hx
    | ok p =>
      by_cases hfree : s.overtakings (key owner name) = 0
      · simp only [hchanged, if_pos hfree] at hseen hx
        simpa [hseen] using hx
      · simp only [hchanged, if_neg hfree] at hseen hx
        rw [hseen, List.singleton_append] at hx
        rcases List.mem_cons.1 hx with rfl | hlater
        · rfl
        · exact ih hnext hdue hlater

/-! ### The round trip -/

/-- A setting of a user is put whenever the store can be reached. Then the value is read back as it
was, an update of the setting starts from it, each further attempt of which does so too unless
another client has written to the setting, and its text is ASCII. No other value that is put, for
any user and under any name, has that text. -/
theorem put_get (user : Int) (name : String) (h : Json.Regular Platform.depthLimit v)
    (s : KeyValue) :
    (s.failure = none → ∃ s', put s (.int user) name v = .ok s') ∧
    ∀ s', put s (.int user) name v = .ok s' →
      get s' (.int user) name = .ok v ∧
      (∀ (st : Settings) change,
        (∃ later, (st.update s' (.int user) name change).seen = v :: later) ∧
        (Unrivalled s' (key (.int user) name) →
          ∀ x ∈ (st.update s' (.int user) name change).seen, x = v)) ∧
      ∃ text, s'.text? (key (.int user) name) = some text ∧ (∀ c ∈ text.toList, IsAscii c) ∧
        ∀ w r r' other name', Json.Regular Platform.depthLimit w →
          put r (.int other) name' w = .ok r' → r'.text? (key (.int other) name') = some text →
            w = v := by
  refine ⟨fun hs => ⟨_, (put_eq_ok h).2 ⟨hs, rfl⟩⟩, fun s' hput => ?_⟩
  have hkeeps := keeps_of_put h hput
  refine ⟨hkeeps.get h, fun st change => ⟨hkeeps.seen_update h st change, ?_⟩, _, hkeeps.text,
    ?_, ?_⟩
  · intro hrivals x hx
    exact hkeeps.eq_of_mem_seen h hrivals st change hx
  · intro c hc
    rw [String.toList_ofList] at hc
    exact Json.isAscii_of_mem_print h hc
  · intro w r r' other name' hw hput' htext
    have hprint := congrArg String.toList
      (Option.some.inj ((keeps_of_put hw hput').text.symm.trans htext))
    rw [String.toList_ofList, String.toList_ofList] at hprint
    exact eq_of_print_eq hw h hprint

end

section
attribute [local instance] Platform.standard

/-- Nested values, a member without a name, and texts outside ASCII, one of them half of a pair. -/
def sampleSetting : Json :=
  .object [("größe", .array [.int (-5), .text "€\n😀", .text (.ofCodes [0xd83d]), .null]),
    ("", .object [])]

theorem regular_sampleSetting : Json.Regular Secret.standardDepth sampleSetting := by
  have hfive : 5 < 10 ^ Json.digitLimit :=
    Nat.lt_of_lt_of_le (by decide : 5 < 10 ^ 1) (Nat.pow_le_pow_right (by decide) (by decide))
  rw [sampleSetting, Secret.standardDepth, Json.Regular]
  simpa [Json.RegularMembers, Json.RegularItems, Json.Regular] using hfive

/-- The sample value is put into an empty store and read back. -/
theorem put_get_sample : ∃ s', put .empty (.int 7) "limits" sampleSetting = .ok s' ∧
    get s' (.int 7) "limits" = .ok sampleSetting ∧
    ∃ later, (update ⟨3, by decide⟩ s' (.int 7) "limits" .ok).seen = sampleSetting :: later := by
  obtain ⟨hputs, hreads⟩ := put_get 7 "limits" regular_sampleSetting .empty
  obtain ⟨s', hs'⟩ := hputs rfl
  obtain ⟨hget, hupdate, -⟩ := hreads s' hs'
  exact ⟨s', hs', hget, (hupdate ⟨3, by decide⟩ .ok).1⟩

end

end Gatehouse.Settings
