import Gatehouse.PersonalToken.Registry
import Gatehouse.Proofs.Store.RoundTrip
import Gatehouse.Proofs.Token.Compact

/-!
The records of a user in the store. `Holds` says which records the text under the key of a user
stands for; an update of these records on a quiet store is the change itself, and records of
other users stay as they are. So every operation of the registry has one lemma that tells what it
makes of the records.
-/
namespace Gatehouse
open Text

namespace Json

theorem toDigits_injective {m n : Nat} (h : Nat.toDigits 10 m = Nat.toDigits 10 n) : m = n := by
  rw [← Nat.ofDigitChars_ten_toDigits (n := m), h, Nat.ofDigitChars_ten_toDigits]

/-- Different integers have different numerals. -/
theorem integerChars_injective {i j : Int} (h : integerChars i = integerChars j) : i = j := by
  have hsign (m n : Nat) (cs : List Char) : Nat.toDigits 10 m ≠ '-' :: cs := by
    intro he
    have hb := (isDigit_of_mem_toDigits (he ▸ List.mem_cons_self ..)).bounds
    exact absurd hb.1 (by decide)
  unfold integerChars at h
  split at h
  · split at h
    · have := toDigits_injective (List.cons.inj h).2
      omega
    · exact absurd h.symm (hsign _ 0 _)
  · split at h
    · exact absurd h (hsign _ 0 _)
    · have := toDigits_injective h
      omega

theorem colon_not_mem_integerChars (i : Int) : ':' ∉ integerChars i := by
  intro h
  rw [integerChars] at h
  have hdigits : ':' ∉ Nat.toDigits 10 i.natAbs := by
    intro hmem
    exact absurd (isDigit_of_mem_toDigits hmem).bounds.2 (by decide)
  split at h
  · exact hdigits ((List.mem_cons.1 h).resolve_left (by decide))
  · exact hdigits h

end Json

namespace Settings

theorem toList_key (owner : Json) (name : String) : (key owner name).toList =
    "user_setting:".toList ++ (owner.plain ++ ':' :: name.toList) := by
  have howner : (String.ofList owner.plain).toList = owner.plain := String.toList_ofList ..
  have hcolon : ":".toList = [':'] := rfl
  show ("user_setting:" ++ String.ofList owner.plain ++ ":" ++ name).toList = _
  rw [String.toList_append, String.toList_append, String.toList_append, howner, hcolon,
    List.append_assoc, List.append_assoc, List.singleton_append]

/-- Numerals have no colon, so a key tells the user and the setting, whatever the name of it. -/
theorem key_int_inj {i j : Int} {m n : String} :
    key (.int i) m = key (.int j) n ↔ i = j ∧ m = n := by
  constructor
  · intro h
    have hl := congrArg String.toList h
    rw [toList_key, toList_key] at hl
    have hcut (k : Int) (name : String) :
        cutFirst ':' ((Json.int k).plain ++ ':' :: name.toList) =
          some ((Json.int k).plain, name.toList) :=
      cutFirst_append (Json.colon_not_mem_integerChars k)
    have hpair := congrArg (cutFirst ':') (List.append_cancel_left hl)
    rw [hcut, hcut] at hpair
    obtain ⟨howner, hname⟩ := Prod.mk.inj (Option.some.inj hpair)
    exact ⟨Json.integerChars_injective howner, String.toList_injective hname⟩
  · rintro ⟨rfl, rfl⟩
    rfl

theorem key_int_injective {name : String} {i j : Int}
    (h : key (.int i) name = key (.int j) name) : i = j :=
  (key_int_inj.1 h).1

variable [Platform]

/-- On a quiet store an attempt is one read, one change and one write: it is never overtaken, and
depends on the text of its setting only. -/
theorem attempt_of_quiet {s : KeyValue} (hs : s.Quiet) (owner : Json) (name : String)
    (change : Json → Except Fault Json) : attempt s owner name change =
      match decode (key owner name) (s.text? (key owner name)) with
      | .error f => (.failed f, s, [])
      | .ok v =>
        match (do let w ← change v; let text ← encode w; .ok (w, text) : Except Fault _) with
        | .error f => (.failed f, s, [v])
        | .ok (w, text) => (.committed w, s.counted.write (key owner name) text, [v]) := by
  unfold attempt
  simp only [hs.get]
  cases decode (key owner name) (s.text? (key owner name)) with
  | error f => rfl
  | ok v =>
    dsimp only
    cases (do let w ← change v; let text ← encode w; .ok (w, text) : Except Fault _) with
    | error f => rfl
    | ok p =>
      obtain ⟨w, text⟩ := p
      simp only [hs.execute, if_true]

theorem attempt_of_ok {s : KeyValue} (hs : s.Quiet) {owner : Json} {name : String}
    {change : Json → Except Fault Json} {v w : Json} {text : String}
    (hd : decode (key owner name) (s.text? (key owner name)) = .ok v) (hc : change v = .ok w)
    (he : encode w = .ok text) :
    attempt s owner name change = (.committed w, s.counted.write (key owner name) text, [v]) := by
  simp only [attempt_of_quiet hs, hd, hc, he, bind, Except.bind]

theorem attempt_of_error {s : KeyValue} (hs : s.Quiet) {owner : Json} {name : String}
    {change : Json → Except Fault Json} {v : Json} {f : Fault}
    (hd : decode (key owner name) (s.text? (key owner name)) = .ok v) (hc : change v = .error f) :
    attempt s owner name change = (.failed f, s, [v]) := by
  simp only [attempt_of_quiet hs, hd, hc, bind, Except.bind]

theorem update_of_ok (st : Settings) {s : KeyValue} (hs : s.Quiet) {owner : Json} {name : String}
    {change : Json → Except Fault Json} {v w : Json} {text : String}
    (hd : decode (key owner name) (s.text? (key owner name)) = .ok v) (hc : change v = .ok w)
    (he : encode w = .ok text) :
    st.update s owner name change = ⟨.ok w, s.counted.write (key owner name) text, [v]⟩ := by
  obtain ⟨n, hn⟩ := Nat.exists_eq_add_one.2 st.attempts_pos
  simp only [update, hn, updateUpTo, attempt_of_ok hs hd hc he]

theorem update_of_error (st : Settings) {s : KeyValue} (hs : s.Quiet) {owner : Json}
    {name : String} {change : Json → Except Fault Json} {v : Json} {f : Fault}
    (hd : decode (key owner name) (s.text? (key owner name)) = .ok v) (hc : change v = .error f) :
    st.update s owner name change = ⟨.error f, s, [v]⟩ := by
  obtain ⟨n, hn⟩ := Nat.exists_eq_add_one.2 st.attempts_pos
  simp only [update, hn, updateUpTo, attempt_of_error hs hd hc]

end Settings

/-! ### Records as a setting -/

namespace TokenRecord

theorem read_toJson (record : TokenRecord) : read record.toJson = .accepted record := rfl

theorem items_read (records : List TokenRecord) (i : Nat) :
    Schema.items read i (records.map toJson) = .accepted records := by
  induction records generalizing i with
  | nil => rfl
  | cons record rest ih =>
    rw [List.map_cons, Schema.items, read_toJson, ih]
    rfl

theorem readSetting_setting (records : List TokenRecord) :
    readSetting (setting records) = .accepted records := by
  have hitems := items_read records 0
  simp only [readSetting, setting, Schema.openObject, Schema.optional, Table.get?, if_true,
    Schema.list, hitems, Checked.under]

theorem regular_toJson (record : TokenRecord) (depth : Nat) :
    Json.Regular (depth + 1) record.toJson := by
  rw [toJson, Json.Regular]
  simp [Json.RegularMembers, Json.Regular]

theorem regularItems (records : List TokenRecord) (depth : Nat) :
    Json.RegularItems (depth + 1) (records.map toJson) := by
  induction records with
  | nil => exact trivial
  | cons record rest ih => exact ⟨regular_toJson record depth, ih⟩

variable [Platform]

theorem regular_setting (records : List TokenRecord) :
    Json.Regular Platform.depthLimit (setting records) := by
  apply Json.Regular.of_hundred
  rw [setting, Json.Regular]
  refine ⟨by simp, ?_⟩
  rw [Json.RegularMembers, Json.Regular]
  exact ⟨regularItems records _, trivial⟩

theorem encode_setting (records : List TokenRecord) :
    Settings.encode (setting records) = .ok (String.ofList (Json.print (setting records))) :=
  Settings.encode_of_regular (regular_setting records)

end TokenRecord

namespace Settings

theorem tokensOf_setting (owner : Json) (records : List TokenRecord) :
    tokensOf owner (TokenRecord.setting records) = .ok records := by
  have hread := TokenRecord.readSetting_setting records
  simp only [tokensOf, TokenRecord.setting] at hread ⊢
  rw [hread]

/-- The text under the key of a user stands for these records. -/
def Holds (s : KeyValue) (owner : Json) (records : List TokenRecord) : Prop :=
  (s.text? (key owner tokensName) = none ∧ records = []) ∨
    s.text? (key owner tokensName) =
      some (String.ofList (Json.print (TokenRecord.setting records)))

variable [Platform]

theorem Holds.decode {s : KeyValue} {owner : Json} {records : List TokenRecord}
    (h : Holds s owner records) :
    ∃ v, decode (key owner tokensName) (s.text? (key owner tokensName)) = .ok v ∧
      tokensOf owner v = .ok records := by
  obtain ⟨hnone, rfl⟩ | hsome := h
  · exact ⟨.null, by rw [hnone]; rfl, rfl⟩
  · refine ⟨_, ?_, tokensOf_setting owner records⟩
    rw [hsome, decode_print _ (TokenRecord.regular_setting records)]

/-- The records are read back from any store that can be reached. -/
theorem Holds.getTokens_of_failure {s : KeyValue} (hs : s.failure = none) {owner : Json}
    {records : List TokenRecord} (h : Holds s owner records) :
    getTokens s owner = .ok records := by
  obtain ⟨v, hd, ht⟩ := h.decode
  simp only [Settings.getTokens, Settings.get, KeyValue.get, hs, hd, ht, bind, Except.bind]

theorem Holds.eq_of_getTokens {s : KeyValue} {owner : Json} {records records' : List TokenRecord}
    (h : Holds s owner records) (hget : getTokens s owner = .ok records') : records' = records := by
  cases hfailure : s.failure with
  | some f =>
    simp [Settings.getTokens, Settings.get, KeyValue.get, hfailure, bind, Except.bind] at hget
  | none => exact Except.ok.inj (hget.symm.trans (h.getTokens_of_failure hfailure))

theorem Holds.getTokens {s : KeyValue} (hs : s.Quiet) {owner : Json} {records : List TokenRecord}
    (h : Holds s owner records) : getTokens s owner = .ok records :=
  h.getTokens_of_failure hs.failure

/-- A quiet store that holds new records of a user, and all else as before. -/
structure Replaced (s s' : KeyValue) (owner : Json) (records : List TokenRecord) : Prop where
  quiet : s'.Quiet
  holds : Holds s' owner records
  frame : ∀ other, key other tokensName ≠ key owner tokensName →
    s'.text? (key other tokensName) = s.text? (key other tokensName)

omit [Platform] in
theorem Holds.of_text {s s' : KeyValue} {owner : Json} {records : List TokenRecord}
    (h : Holds s owner records)
    (ht : s'.text? (key owner tokensName) = s.text? (key owner tokensName)) :
    Holds s' owner records := by
  unfold Holds
  rwa [ht]

omit [Platform] in
theorem changeSetting_eq {owner v : Json} {records : List TokenRecord}
    (h : tokensOf owner v = .ok records)
    (change : List TokenRecord → Except Fault (List TokenRecord)) :
    changeSetting owner change v = TokenRecord.setting <$> change records := by
  simp only [changeSetting, h, bind, Except.bind]
  cases change records <;> rfl

/-- On a quiet store an update of readable records ends as the change of them does. -/
theorem outcome_updateTokens (st : Settings) {s : KeyValue} (hs : s.Quiet) {owner : Json}
    {records : List TokenRecord} (h : getTokens s owner = .ok records)
    (change : List TokenRecord → Except Fault (List TokenRecord)) :
    (st.updateTokens s owner change).outcome = change records := by
  obtain ⟨v, hget, ht⟩ := bind_eq_ok.1 h
  rw [Settings.get, hs.get] at hget
  have hchange := changeSetting_eq ht change
  cases hc : change records with
  | error f =>
    rw [hc] at hchange
    simp only [updateTokens, update_of_error st hs hget hchange]
    rfl
  | ok updated =>
    rw [hc] at hchange
    simp only [updateTokens,
      update_of_ok st hs hget hchange (TokenRecord.encode_setting updated)]
    exact tokensOf_setting owner updated

/-- A change of the records that succeeds is stored. -/
theorem updateTokens_of_ok (st : Settings) {s : KeyValue} (hs : s.Quiet) {owner : Json}
    {records updated : List TokenRecord} (h : Holds s owner records)
    (change : List TokenRecord → Except Fault (List TokenRecord))
    (hc : change records = .ok updated) :
    (st.updateTokens s owner change).outcome = .ok updated ∧
      Replaced s (st.updateTokens s owner change).store owner updated := by
  refine ⟨(outcome_updateTokens st hs (h.getTokens hs) change).trans hc, ?_⟩
  obtain ⟨v, hd, ht⟩ := h.decode
  have hchange := changeSetting_eq ht change
  rw [hc] at hchange
  simp only [updateTokens, update_of_ok st hs hd hchange (TokenRecord.encode_setting updated)]
  refine ⟨hs.counted.write _ _, .inr ?_, ?_⟩
  · exact KeyValue.text?_write_self _ _ _
  · intro other hne
    exact KeyValue.text?_write_of_ne hne

/-- A change of the records that fails changes nothing. -/
theorem updateTokens_of_error (st : Settings) {s : KeyValue} (hs : s.Quiet) {owner : Json}
    {records : List TokenRecord} (h : Holds s owner records)
    (change : List TokenRecord → Except Fault (List TokenRecord)) {f : Fault}
    (hc : change records = .error f) :
    (st.updateTokens s owner change).outcome = .error f ∧
      (st.updateTokens s owner change).store = s := by
  refine ⟨(outcome_updateTokens st hs (h.getTokens hs) change).trans hc, ?_⟩
  obtain ⟨v, hd, ht⟩ := h.decode
  have hchange := changeSetting_eq ht change
  rw [hc] at hchange
  simp only [updateTokens, update_of_error st hs hd hchange]

end Settings

/-! ### Operations of the registry -/

namespace TokenRegistry
variable [Platform] {r : TokenRegistry} {s : KeyValue} {owner : Json} {records : List TokenRecord}

theorem create_of_error {username description : Json} {expiresAt : Option DateTime}
    {now : DateTime} {f : Fault}
    (hp : r.prepare username owner description expiresAt now = .error f) :
    r.create s username owner description expiresAt now = (.error f, s) := by
  simp only [create, hp]

/-- A creation adds one record behind the others. -/
theorem create_of_ok (hs : s.Quiet) (h : Settings.Holds s owner records)
    {username description : Json} {expiresAt : Option DateTime} {now : DateTime}
    {kept : TokenRecord} {view : TokenView}
    (hp : r.prepare username owner description expiresAt now = .ok (kept, view)) :
    (r.create s username owner description expiresAt now).1 = .ok view ∧
      Settings.Replaced s (r.create s username owner description expiresAt now).2 owner
        (records ++ [kept]) := by
  obtain ⟨hout, hrep⟩ :=
    Settings.updateTokens_of_ok r.settings hs h (fun records => .ok (records ++ [kept])) rfl
  simp only [create, hp, hout]
  exact ⟨rfl, hrep⟩

/-- A revocation drops the records of one token. -/
theorem revoke_replaced (hs : s.Quiet) (h : Settings.Holds s owner records) (token : AnyText) :
    Settings.Replaced s (r.revoke s owner token).2 owner (records.filter (·.token ≠ token)) :=
  (Settings.updateTokens_of_ok r.settings hs h
    (fun records => .ok (records.filter (·.token ≠ token))) rfl).2

theorem outcome_revoke (hs : s.Quiet) (h : Settings.Holds s owner records) (token : AnyText) :
    (r.revoke s owner token).1 = .ok () := by
  obtain ⟨hout, -⟩ := Settings.updateTokens_of_ok r.settings hs h
    (fun records => .ok (records.filter (·.token ≠ token))) rfl
  simp only [revoke, hout]
  rfl

theorem prune_of_error (hs : s.Quiet) (h : Settings.Holds s owner records) {now : DateTime}
    {f : Fault} (hl : r.live now records = .error f) : (r.prune s owner now).2 = s :=
  (Settings.updateTokens_of_error r.settings hs h (r.live now) hl).2

theorem prune_replaced (hs : s.Quiet) (h : Settings.Holds s owner records) {now : DateTime}
    {kept : List TokenRecord} (hl : r.live now records = .ok kept) :
    Settings.Replaced s (r.prune s owner now).2 owner kept :=
  (Settings.updateTokens_of_ok r.settings hs h (r.live now) hl).2

/-- The token of a record verifies. -/
def verifies (r : TokenRegistry) (now : DateTime) (x : TokenRecord) : Bool :=
  (r.view x now).toOption.isSome

/-- There is one result for each record, which is its view where it verifies. -/
theorem verifyEach_cons {now : DateTime} {x : TokenRecord}
    {verified : List (Except ServiceError TokenView)}
    (h : r.verifyEach now (x :: records) = .ok verified) :
    ∃ first others, verified = first :: others ∧ r.verifyEach now records = .ok others ∧
      first.toOption = (r.view x now).toOption := by
  rw [verifyEach] at h
  split at h
  · next v hview =>
    obtain ⟨others, hrest, rfl⟩ := map_eq_ok.1 h
    exact ⟨.ok v, others, rfl, hrest, by rw [hview]; rfl⟩
  · next e hview =>
    split at h
    · obtain ⟨others, hrest, rfl⟩ := map_eq_ok.1 h
      exact ⟨.error e, others, rfl, hrest, by rw [hview]; rfl⟩
    · cases h
  · cases h

/-- The live records are those whose tokens verify, in the order in which they are kept. -/
theorem live_eq_filter {now : DateTime} {kept : List TokenRecord}
    (h : r.live now records = .ok kept) : kept = records.filter (r.verifies now) := by
  obtain ⟨verified, hverified, hkept⟩ := bind_eq_ok.1 h
  obtain rfl := Except.ok.inj hkept
  clear h hkept
  induction records generalizing verified with
  | nil => simp
  | cons x rest ih =>
    obtain ⟨first, others, rfl, hrest, hfirst⟩ := verifyEach_cons hverified
    rw [List.zip_cons_cons, List.filterMap_cons, ih others hrest, List.filter_cons, verifies,
      ← hfirst]
    cases first <;> rfl

/-- The live records are some of the records, and among them all that verify. -/
theorem mem_live {now : DateTime} {kept : List TokenRecord} (h : r.live now records = .ok kept) :
    (∀ x ∈ kept, x ∈ records) ∧ ∀ x ∈ records, ∀ v, r.view x now = .ok v → x ∈ kept := by
  obtain rfl := live_eq_filter h
  constructor
  · intro x hx
    exact (List.mem_filter.1 hx).1
  · intro x hx v hv
    exact List.mem_filter.2 ⟨hx, by rw [verifies, hv]; rfl⟩

theorem contains_eq (hs : s.Quiet) (h : Settings.Holds s owner records) (token : AnyText) :
    contains s owner token = .ok (records.any (·.token == token)) := by
  simp only [contains, h.getTokens hs, bind, Except.bind]

end TokenRegistry

end Gatehouse
