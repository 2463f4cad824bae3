import Gatehouse.Proofs.PersonalToken.Pruned

/-!
Revocations beside the other changes of a user's records, on a quiet store. Whatever text stood for
the records before, an operation stores the text of the records that it leaves: so two orders of
operations store one text as soon as they leave one list of records. A revocation is a filter of
records, and commutes with the other operations because filters do.
-/
namespace Gatehouse

/-- Of two values set under one name the second one stays, in the place of the first. -/
theorem Table.set_set {κ α : Type} [DecidableEq κ] (t : Table κ α) (name : κ) (first second : α) :
    (t.set name first).set name second = t.set name second := by
  induction t with
  | nil => simp [Table.set]
  | cons p rest ih =>
    obtain ⟨k, v⟩ := p
    by_cases h : k = name
    · simp [Table.set, h]
    · simp [Table.set, h, ih]

namespace Settings
variable {s s' s'' : KeyValue} {owner : Json} {records records' updated : List TokenRecord}

/-- A quiet store that has the text of these records, and all else as before. -/
structure Revised (s s' : KeyValue) (owner : Json) (records : List TokenRecord) : Prop where
  quiet : s'.Quiet
  rewritten : Rewritten s s' owner records

theorem Revised.trans (h : Revised s s' owner records) (h' : Revised s' s'' owner records') :
    Revised s s'' owner records' := by
  refine ⟨h'.quiet, ?_⟩
  have htexts := h.rewritten
  have htexts' := h'.rewritten
  unfold Rewritten at htexts htexts' ⊢
  rw [htexts', htexts, Table.set_set]

/-- Two orders of changes that leave one list of records leave the same texts. -/
theorem Revised.texts_eq (h : Revised s s' owner records) (h' : Revised s s'' owner records')
    (heq : records = records') : s'.texts = s''.texts := by
  subst heq
  exact h.rewritten.trans h'.rewritten.symm

variable [Platform]

theorem Revised.getTokens (h : Revised s s' owner records) :
    getTokens s' owner = .ok records :=
  h.rewritten.holds.getTokens h.quiet

/-- A change of records that can be read is stored, whatever text stood for them. -/
theorem revised_updateTokens (st : Settings) (hs : s.Quiet) (h : getTokens s owner = .ok records)
    (change : List TokenRecord → Except Fault (List TokenRecord))
    (hc : change records = .ok updated) :
    (st.updateTokens s owner change).outcome = .ok updated ∧
      Revised s (st.updateTokens s owner change).store owner updated := by
  refine ⟨(outcome_updateTokens st hs h change).trans hc, ?_⟩
  obtain ⟨v, hget, ht⟩ := bind_eq_ok.1 h
  rw [Settings.get, hs.get] at hget
  have hchange := changeSetting_eq ht change
  rw [hc] at hchange
  simp only [updateTokens, update_of_ok st hs hget hchange (TokenRecord.encode_setting updated)]
  exact ⟨hs.counted.write _ _, rfl⟩

/-- On a quiet store from which these records are read, the operation stores others for them. -/
def Turns (op : KeyValue → KeyValue) (owner : Json) (records updated : List TokenRecord) : Prop :=
  ∀ s : KeyValue, s.Quiet → getTokens s owner = .ok records → Revised s (op s) owner updated

section
variable {f g : KeyValue → KeyValue} {first second last last' : List TokenRecord} (hs : s.Quiet)
  (h : getTokens s owner = .ok records)
include hs h

theorem Turns.comp (hf : Turns f owner records first) (hg : Turns g owner first last) :
    Revised s (g (f s)) owner last := by
  have hrevised := hf s hs h
  exact hrevised.trans (hg (f s) hrevised.quiet hrevised.getTokens)

/-- Two operations commute if both orders of them leave one list of records. -/
theorem Turns.commute (hf : Turns f owner records first) (hg : Turns g owner records second)
    (hfg : Turns g owner first last) (hgf : Turns f owner second last') (heq : last' = last) :
    (f (g s)).texts = (g (f s)).texts :=
  (hg.comp hs h hgf).texts_eq (hf.comp hs h hfg) heq

/-- An operation that leaves the records of its result alone can be repeated. -/
theorem Turns.again (hf : Turns f owner records first) (hff : Turns f owner first last)
    (heq : last = first) : (f (f s)).texts = (f s).texts :=
  (hf.comp hs h hff).texts_eq (hf s hs h) heq

end

end Settings

namespace TokenRegistry
open Settings (Turns getTokens)

/-- A token is among the records of other tokens exactly if it is another one that was there. -/
theorem any_filter_ne (records : List TokenRecord) (token other : AnyText) :
    (records.filter (·.token ≠ token)).any (·.token == other) =
      (decide (other ≠ token) && records.any (·.token == other)) := by
  rw [Bool.eq_iff_iff]
  simp only [List.any_eq_true, List.mem_filter, Bool.and_eq_true, decide_eq_true_eq, beq_iff_eq]
  constructor
  · rintro ⟨x, ⟨hx, hne⟩, rfl⟩
    exact ⟨hne, x, hx, rfl⟩
  · rintro ⟨hne, x, hx, rfl⟩
    exact ⟨x, ⟨hx, hne⟩, rfl⟩

section
variable [Platform] {r : TokenRegistry} {s : KeyValue} {owner : Json} {records : List TokenRecord}

/-- Puts a record behind those of a user, as a creation does. -/
def keep (r : TokenRegistry) (s : KeyValue) (owner : Json) (record : TokenRecord) : KeyValue :=
  (r.settings.updateTokens s owner fun records => .ok (records ++ [record])).store

theorem create_eq_keep {username description : Json} {expiresAt : Option DateTime}
    {now : DateTime} {record : TokenRecord} {view : TokenView}
    (h : r.prepare username owner description expiresAt now = .ok (record, view)) :
    (r.create s username owner description expiresAt now).2 = r.keep s owner record := by
  simp only [create, h, keep]

theorem turns_revoke (r : TokenRegistry) (owner : Json) (token : AnyText)
    (records : List TokenRecord) : Turns (fun s => (r.revoke s owner token).2) owner records
      (records.filter (·.token ≠ token)) :=
  fun _ hs h => (Settings.revised_updateTokens r.settings hs h
    (fun records => .ok (records.filter (·.token ≠ token))) rfl).2

theorem turns_keep (r : TokenRegistry) (owner : Json) (record : TokenRecord)
    (records : List TokenRecord) :
    Turns (fun s => r.keep s owner record) owner records (records ++ [record]) :=
  fun _ hs h => (Settings.revised_updateTokens r.settings hs h
    (fun records => .ok (records ++ [record])) rfl).2

/-- Where no token blocks a pruning, it keeps the records that verify. -/
theorem turns_prune {now : DateTime} (hpasses : r.Passes now records) :
    Turns (fun s => (r.prune s owner now).2) owner records (records.filter (r.verifies now)) :=
  fun _ hs h => (Settings.revised_updateTokens r.settings hs h (r.live now)
    (live_eq_ok.2 ⟨hpasses, rfl⟩)).2

theorem exists_prune_of_passes {now : DateTime} (hs : s.Quiet)
    (h : getTokens s owner = .ok records) :
    (∃ n, (r.prune s owner now).1 = .ok n) ↔ r.Passes now records :=
  (exists_prune hs h).trans exists_verifyEach_iff_passes

theorem revoke_of_getTokens (hs : s.Quiet) (h : getTokens s owner = .ok records)
    (token : AnyText) : (r.revoke s owner token).1 = .ok () := by
  have hout := Settings.outcome_updateTokens r.settings hs h
    fun records => .ok (records.filter (·.token ≠ token))
  simp only [revoke, hout]
  rfl

theorem contains_of_getTokens (h : getTokens s owner = .ok records) (token : AnyText) :
    contains s owner token = .ok (records.any (·.token == token)) := by
  simp only [contains, h, bind, Except.bind]

/-- A revocation leaves exactly the records of other tokens, whatever text stood for the records
before. To repeat it stores the same texts, and so do both orders of it and another revocation, a
pruning that returns, or the creation of another token. -/
theorem revoke_algebra (r : TokenRegistry) {s : KeyValue} (hs : s.Quiet) {owner : Json}
    {records : List TokenRecord} (h : getTokens s owner = .ok records) (token : AnyText) :
    let revoked := r.revoke s owner token
    (revoked.1 = .ok () ∧
      Settings.Rewritten s revoked.2 owner (records.filter (·.token ≠ token)) ∧
      getTokens revoked.2 owner = .ok (records.filter (·.token ≠ token)) ∧
      contains revoked.2 owner token = .ok false ∧
      ∀ other, other ≠ token → contains revoked.2 owner other = contains s owner other) ∧
    ((r.revoke revoked.2 owner token).1 = .ok () ∧
      (r.revoke revoked.2 owner token).2.texts = revoked.2.texts) ∧
    (∀ other, (r.revoke (r.revoke s owner other).2 owner token).2.texts =
      (r.revoke revoked.2 owner other).2.texts) ∧
    (∀ now n, (r.prune s owner now).1 = .ok n →
      (∃ n', (r.prune revoked.2 owner now).1 = .ok n') ∧
      (r.revoke (r.prune s owner now).2 owner token).2.texts =
        (r.prune revoked.2 owner now).2.texts) ∧
    (∀ record : TokenRecord, record.token ≠ token →
      (r.revoke (r.keep s owner record) owner token).2.texts =
        (r.keep revoked.2 owner record).texts) ∧
    ∀ username description expiresAt now record view,
      r.prepare username owner description expiresAt now = .ok (record, view) →
      (r.create s username owner description expiresAt now).2 = r.keep s owner record ∧
        (r.create revoked.2 username owner description expiresAt now).2 =
          r.keep revoked.2 owner record := by
  intro revoked
  have hrevoke := turns_revoke r owner token
  have hrevised := hrevoke records s hs h
  have hquiet := hrevised.quiet
  have hget := hrevised.getTokens
  refine ⟨⟨revoke_of_getTokens hs h token, hrevised.rewritten, hget, ?_, ?_⟩,
    ⟨revoke_of_getTokens hquiet hget token, ?_⟩, ?_, ?_, ?_, ?_⟩
  · rw [contains_of_getTokens hget, any_filter_ne]
    simp
  · intro other hother
    rw [contains_of_getTokens hget, any_filter_ne, contains_of_getTokens h]
    simp [hother]
  · apply (hrevoke records).again hs h (hrevoke _)
    rw [List.filter_filter]
    simp only [Bool.and_self]
  · intro other
    have hother := turns_revoke r owner other
    apply (hrevoke records).commute hs h (hother records) (hother _) (hrevoke _)
    exact List.filter_comm ..
  · intro now n hn
    have hpasses : r.Passes now records := (exists_prune_of_passes hs h).1 ⟨n, hn⟩
    have hleft : r.Passes now (records.filter (·.token ≠ token)) :=
      fun x hx => hpasses x (List.mem_filter.1 hx).1
    refine ⟨(exists_prune_of_passes hquiet hget).2 hleft, ?_⟩
    apply (hrevoke records).commute hs h (turns_prune hpasses) (turns_prune hleft) (hrevoke _)
    exact List.filter_comm ..
  · intro record hrecord
    have hkeep := turns_keep r owner record
    apply (hrevoke records).commute hs h (hkeep records) (hkeep _) (hrevoke _)
    rw [List.filter_append]
    simp [hrecord]
  · intro username description expiresAt now record view hprepare
    exact ⟨create_eq_keep hprepare, create_eq_keep hprepare⟩

end

section
attribute [local instance] Platform.standard

/-- A setting as another program may have left it: with more members than records have, and without
a description. -/
def sampleForeign : Json :=
  .object [("since", .null), ("access_tokens", .array [
    .object [("by", .text "ann"), ("token", .text "junk")],
    .object [("description", .text "desk"), ("token", .text "scrap")],
    .object [("token", .text "junk"), ("description", .text "phone")]])]

def sampleForeignStore : KeyValue :=
  .shared [(Settings.key (.int 7) Settings.tokensName,
    String.ofList (Json.print sampleForeign))] []

theorem getTokens_sampleForeignStore : getTokens sampleForeignStore (.int 7) =
    .ok [⟨"junk", ""⟩, ⟨"scrap", "desk"⟩, ⟨"junk", "phone"⟩] := by
  have hregular : Json.Regular Platform.depthLimit sampleForeign := by
    apply Json.Regular.of_hundred
    simp [sampleForeign, Json.Regular, Json.RegularMembers, Json.RegularItems]
  have htext : sampleForeignStore.text? (Settings.key (.int 7) Settings.tokensName) =
      some (String.ofList (Json.print sampleForeign)) := by
    simp [sampleForeignStore, KeyValue.shared, KeyValue.text?, Table.get?]
  have hget : Settings.get sampleForeignStore (.int 7) Settings.tokensName = .ok sampleForeign := by
    have hquiet : sampleForeignStore.Quiet := KeyValue.shared_quiet _ _
    rw [Settings.get, hquiet.get, htext]
    exact Settings.decode_print _ hregular
  exact bind_eq_ok.2 ⟨sampleForeign, hget, rfl⟩

/-- Both records of what is revoked go, and the other one stays; with a pruning in either order
nothing is left of the three. -/
theorem revoke_algebra_sample :
    let revoked := TokenLife.sampleRegistry.revoke sampleForeignStore (.int 7) "junk"
    revoked.1 = .ok () ∧ getTokens revoked.2 (.int 7) = .ok [⟨"scrap", "desk"⟩] ∧
      contains revoked.2 (.int 7) "junk" = .ok false ∧
      contains revoked.2 (.int 7) "scrap" = contains sampleForeignStore (.int 7) "scrap" ∧
      (TokenLife.sampleRegistry.revoke (TokenLife.sampleRegistry.prune sampleForeignStore (.int 7)
          ⟨0, some 0⟩).2 (.int 7) "junk").2.texts =
        (TokenLife.sampleRegistry.prune revoked.2 (.int 7) ⟨0, some 0⟩).2.texts := by
  have hquiet : sampleForeignStore.Quiet := KeyValue.shared_quiet _ _
  obtain ⟨⟨hout, -, hget, hgone, hother⟩, -, -, hprune, -⟩ :=
    revoke_algebra TokenLife.sampleRegistry hquiet getTokens_sampleForeignStore "junk"
  have hpasses : TokenLife.sampleRegistry.Passes ⟨0, some 0⟩
      [⟨"junk", ""⟩, ⟨"scrap", "desk"⟩, ⟨"junk", "phone"⟩] := by
    intro x hx f hf
    simp only [List.mem_cons, List.not_mem_nil, or_false] at hx
    rcases hx with rfl | rfl | rfl <;> cases hf <;> rfl
  obtain ⟨n, hn⟩ := (exists_prune_of_passes hquiet getTokens_sampleForeignStore).2 hpasses
  exact ⟨hout, hget, hgone, hother "scrap" (by decide), (hprune _ n hn).2⟩

end

end TokenRegistry
end Gatehouse
