import Gatehouse.Proofs.PersonalToken.Created
import Gatehouse.Proofs.Token.Lapse

/-!
A pruning from beginning to end. It drops what its user will never see again: a token that fails at
one time fails ever after, so the list of a later time is the same with the pruning and without it,
and a second pruning finds nothing to drop.
-/
namespace Gatehouse

namespace Settings
variable [Platform] {s : KeyValue} {owner : Json} {records records' : List TokenRecord}

theorem Reads.unique (h : Reads s owner records) (h' : Reads s owner records') :
    records = records' := by
  obtain ⟨v, hd, ht⟩ := h
  obtain ⟨v', hd', ht'⟩ := h'
  obtain rfl := Except.ok.inj (hd.symm.trans hd')
  exact Except.ok.inj (ht.symm.trans ht')

theorem Holds.reads (h : Holds s owner records) : Reads s owner records := h.decode

end Settings

namespace TokenRegistry

section
variable [Platform] {r : TokenRegistry} {s : KeyValue} {owner : Json} {now later : DateTime}
  {records : List TokenRecord} {x : TokenRecord}

theorem verifies_eq_false : r.verifies now x = false ↔
    ∃ f, r.signer.verify (.text x.token) (some .personalAccess) now = .error f := by
  rw [← Bool.not_eq_true, verifies_iff]
  cases r.signer.verify (.text x.token) (some .personalAccess) now <;> simp

theorem live_eq_ok {kept : List TokenRecord} : r.live now records = .ok kept ↔
    r.Passes now records ∧ kept = records.filter (r.verifies now) := by
  constructor
  · intro h
    obtain ⟨verified, hverified, -⟩ := bind_eq_ok.1 h
    exact ⟨exists_verifyEach_iff_passes.1 ⟨verified, hverified⟩, live_eq_filter h⟩
  · rintro ⟨hpasses, rfl⟩
    obtain ⟨verified, hverified⟩ := exists_verifyEach_iff_passes.2 hpasses
    obtain ⟨kept, hlive⟩ : ∃ kept, r.live now records = .ok kept :=
      ⟨_, bind_eq_ok.2 ⟨verified, hverified, rfl⟩⟩
    rw [← live_eq_filter hlive]
    exact hlive

theorem amendable_live {n : Nat} : Settings.Amendable s owner (r.live now) n ↔
    ∀ i ≤ n, ∃ records,
      Settings.Reads (s.contested (Settings.key owner Settings.tokensName) i) owner records ∧
        r.Passes now records := by
  simp only [Settings.Amendable, live_eq_ok]
  simp

/-- A pruning keeps what verifies of the records that the intrusions leave, and tells by how many
these were more. -/
theorem prune_of_left (hs : s.failure = none)
    (hleft : s.overtakings (Settings.key owner Settings.tokensName) < r.settings.attempts)
    (h : ∀ i ≤ s.overtakings (Settings.key owner Settings.tokensName), ∃ records,
      Settings.Reads (s.contested (Settings.key owner Settings.tokensName) i) owner records ∧
        r.Passes now records) :
    let left := s.contested (Settings.key owner Settings.tokensName)
      (s.overtakings (Settings.key owner Settings.tokensName) + 1)
    ∃ records, Settings.Reads left owner records ∧ r.Passes now records ∧
      (r.prune s owner now).1 = .ok (records.length - (records.filter (r.verifies now)).length) ∧
      Settings.Rewritten left (r.prune s owner now).2 owner (records.filter (r.verifies now)) ∧
      (r.prune s owner now).2.failure = none := by
  obtain ⟨records, updated, hreads, hlive, hout, hseen, hrewritten, hfailure⟩ :=
    Settings.updateTokens_of_left r.settings hs hleft (amendable_live.2 h)
  obtain ⟨hpasses, rfl⟩ := live_eq_ok.1 hlive
  refine ⟨records, hreads, hpasses, ?_, hrewritten, hfailure⟩
  simp only [prune, hout, hseen]
  rfl

theorem exists_prune_iff : (∃ n, (r.prune s owner now).1 = .ok n) ↔ s.failure = none ∧
    s.overtakings (Settings.key owner Settings.tokensName) < r.settings.attempts ∧
    ∀ i ≤ s.overtakings (Settings.key owner Settings.tokensName), ∃ records,
      Settings.Reads (s.contested (Settings.key owner Settings.tokensName) i) owner records ∧
        r.Passes now records := by
  rw [← amendable_live, ← Settings.exists_updateTokens_iff]
  constructor
  · rintro ⟨n, hn⟩
    obtain ⟨updated, hout, -⟩ := map_eq_ok.1 hn
    exact ⟨updated, hout⟩
  · rintro ⟨updated, hout⟩
    exact ⟨_, map_eq_ok.2 ⟨updated, hout, rfl⟩⟩

/-! ### As time goes on -/

section
variable (hnow : now.offset.isSome = true) (hlater : later.offset.isSome = true)
  (hle : now.instant ≤ later.instant)
include hnow hlater hle

/-- Records that pass now pass ever after: a token that verified can only expire. -/
theorem Passes.of_le (h : r.Passes now records) : r.Passes later records := by
  intro x hx f hf
  cases hverify : r.signer.verify (.text x.token) (some .personalAccess) now with
  | error g =>
    have hstill := Signer.verify_of_error hnow hlater hle hverify
    rw [hstill] at hf
    exact Except.error.inj hf ▸ h x hx g hverify
  | ok c =>
    rcases Signer.verify_of_ok hlater hverify with hok | hexpired
    · rw [hok] at hf
      cases hf
    · rw [hexpired] at hf
      cases hf
      rfl

theorem verifies_of_later (h : r.verifies later x = true) : r.verifies now x = true := by
  by_contra hdead
  obtain ⟨f, hf⟩ := verifies_eq_false.1 (Bool.eq_false_of_not_eq_true hdead)
  have hstill := Signer.verify_of_error hnow hlater hle hf
  rw [verifies_eq_false.2 ⟨f, hstill⟩] at h
  cases h

/-- What a pruning drops has no entry later on. -/
theorem entries_filter_verifies (records : List TokenRecord) :
    r.entries later (records.filter (r.verifies now)) = r.entries later records := by
  rw [entries, List.filterMap_filter]
  apply List.filterMap_congr
  intro x hx
  split
  · rfl
  · next hdead =>
    have hlapsed : r.verifies later x = false := by
      apply Bool.eq_false_of_not_eq_true
      intro hlive
      exact hdead (verifies_of_later hnow hlater hle hlive)
    rw [verifies, Option.isSome_eq_false_iff, Option.isNone_iff_eq_none] at hlapsed
    exact hlapsed.symm

end

/-! ### On another machine -/

section
variable {machineTime : Int} (h : ∀ x ∈ records, Signer.Startless x.token)
include h

theorem Passes.onMachine (hpasses : r.Passes now records) :
    (r.onMachine machineTime).Passes now records := by
  intro x hx f hf
  apply hpasses x hx f
  rwa [← Signer.verify_onMachine (h x hx) r.signer machineTime]

theorem entries_onMachine :
    (r.onMachine machineTime).entries now records = r.entries now records := by
  apply List.filterMap_congr
  intro x hx
  have hverify : (r.onMachine machineTime).signer.verify (.text x.token) (some .personalAccess)
      now = r.signer.verify (.text x.token) (some .personalAccess) now :=
    Signer.verify_onMachine (h x hx) r.signer machineTime _ now
  simp only [view, hverify]

end

/-- Records without entries can be dropped: the list is the same on every machine. -/
theorem exists_list_pruned {left pruned : KeyValue} {machineTime : Int} {keep : TokenRecord → Bool}
    (hstartless : ∀ x ∈ records, Signer.Startless x.token) (hpasses : r.Passes now records)
    (hget : Settings.getTokens left owner = .ok records)
    (hget' : Settings.getTokens pruned owner = .ok (records.filter keep))
    (hentries : r.entries now (records.filter keep) = r.entries now records) :
    ∃ views, (r.onMachine machineTime).list left owner now = .ok views ∧
      (r.onMachine machineTime).list pruned owner now = .ok views := by
  have hkept : ∀ x ∈ records.filter keep, Signer.Startless x.token :=
    fun x hx => hstartless x (List.mem_filter.1 hx).1
  have hpasses' : r.Passes now (records.filter keep) :=
    fun x hx => hpasses x (List.mem_filter.1 hx).1
  refine ⟨_, list_of_passes hget (hpasses.onMachine hstartless), ?_⟩
  rw [list_of_passes hget' (hpasses'.onMachine hkept), entries_onMachine hkept,
    entries_onMachine hstartless, hentries]

/-! ### A second pruning -/

/-- A token that verified is on a later machine not before its start either. -/
theorem verifies_onMachine_of_le {machineTime : Int} (hle : r.signer.machineTime ≤ machineTime)
    (h : r.verifies now x = true) : (r.onMachine machineTime).verifies now x = true := by
  obtain ⟨c, hc⟩ := verifies_iff.1 h
  exact verifies_iff.2 ⟨c, Signer.verify_onMachine_of_ok hle hc⟩

theorem passes_of_verifies (h : ∀ x ∈ records, r.verifies now x = true) : r.Passes now records := by
  intro x hx f hf
  obtain ⟨c, hc⟩ := verifies_iff.1 (h x hx)
  rw [hc] at hf
  cases hf

/-- A pruning drops nothing of records that all verify. -/
theorem prune_of_verifies (hall : ∀ x ∈ records, r.verifies now x = true) (hs : s.failure = none)
    (hleft : s.overtakings (Settings.key owner Settings.tokensName) < r.settings.attempts)
    (h : ∀ i ≤ s.overtakings (Settings.key owner Settings.tokensName),
      s.textAfter (Settings.key owner Settings.tokensName) i =
        some (String.ofList (Json.print (TokenRecord.setting records)))) :
    (r.prune s owner now).1 = .ok 0 ∧
      (r.prune s owner now).2.text? (Settings.key owner Settings.tokensName) =
        some (String.ofList (Json.print (TokenRecord.setting records))) := by
  have hreads (i : Nat) (hi : i ≤ s.overtakings (Settings.key owner Settings.tokensName)) :
      Settings.Reads (s.contested (Settings.key owner Settings.tokensName) i) owner records := by
    apply Settings.Holds.reads
    apply Or.inr
    rw [KeyValue.text?_contested, h i hi]
  obtain ⟨records', hlast, -, hcount, hrewritten, -⟩ := prune_of_left hs hleft
    fun i hi => ⟨records, hreads i hi, passes_of_verifies hall⟩
  obtain rfl := hlast.unique (Settings.reads_of_overtakings (hreads _ (Nat.le_refl _)))
  rw [List.filter_eq_self.2 hall] at hcount hrewritten
  rw [Nat.sub_self] at hcount
  exact ⟨hcount, hrewritten.text?_self⟩

/-- A pruning with attempts left succeeds exactly if no token blocks one of its attempts. It keeps,
in their order, those records of the last intruding client whose tokens verify, and tells how many
it dropped of them. Every later list is the same as without it, and a second pruning, as long as
others leave its text alone, drops nothing and stores the same text. -/
theorem prune_settled (r : TokenRegistry) (s : KeyValue) (owner : Json) (now : DateTime)
    (haware : now.offset.isSome = true) :
    let k := Settings.key owner Settings.tokensName
    let m := s.overtakings k
    let left := s.contested k (m + 1)
    let pruned := r.prune s owner now
    ((∃ n, pruned.1 = .ok n) ↔ s.failure = none ∧ m < r.settings.attempts ∧
      ∀ i ≤ m, ∃ records, Settings.Reads (s.contested k i) owner records ∧
        r.Passes now records) ∧
    ∀ n, pruned.1 = .ok n → ∃ records kept, Settings.Reads left owner records ∧
      kept = records.filter (r.verifies now) ∧
      (∀ x, r.verifies now x = true ↔
        ∃ c, r.signer.verify (.text x.token) (some .personalAccess) now = .ok c) ∧
      Settings.Rewritten left pruned.2 owner kept ∧ n + kept.length = records.length ∧
      (∀ (later : DateTime) (machineTime : Int), later.offset.isSome = true →
        now.instant ≤ later.instant → (∀ x ∈ records, Signer.Startless x.token) →
        ∃ views, (r.onMachine machineTime).list left owner later = .ok views ∧
          (r.onMachine machineTime).list pruned.2 owner later = .ok views) ∧
      ∀ (s' : KeyValue) (machineTime : Int), r.signer.machineTime ≤ machineTime →
        s'.failure = none → s'.overtakings k < r.settings.attempts →
        (∀ i ≤ s'.overtakings k, s'.textAfter k i = pruned.2.text? k) →
        let again := (r.onMachine machineTime).prune s' owner now
        again.1 = .ok 0 ∧ again.2.text? k = pruned.2.text? k := by
  intro k m left pruned
  refine ⟨exists_prune_iff, fun n hn => ?_⟩
  obtain ⟨hs, hleft, hpasses⟩ := exists_prune_iff.1 ⟨n, hn⟩
  obtain ⟨records, hreads, hpass, hcount, hrewritten, hfailure⟩ := prune_of_left hs hleft hpasses
  obtain rfl := Except.ok.inj (hn.symm.trans hcount)
  have hshorter := List.length_filter_le (r.verifies now) records
  refine ⟨records, _, hreads, rfl, fun x => verifies_iff, hrewritten, by omega, ?_, ?_⟩
  · intro later machineTime hlater hle hstartless
    have hget := hreads.getTokens ((KeyValue.failure_contested s k (m + 1)).trans hs)
    have hget' := hrewritten.holds.getTokens_of_failure hfailure
    exact exists_list_pruned hstartless (hpass.of_le haware hlater hle) hget hget'
      (entries_filter_verifies haware hlater hle records)
  · intro s' machineTime hlater hs' hleft' htext
    have hall : ∀ x ∈ records.filter (r.verifies now),
        (r.onMachine machineTime).verifies now x = true :=
      fun x hx => verifies_onMachine_of_le hlater (List.mem_filter.1 hx).2
    rw [hrewritten.text?_self] at htext ⊢
    exact prune_of_verifies hall hs' hleft' htext

end

/-! ### A pruning that is overtaken -/

section
attribute [local instance] Platform.standard

/-- What is no token is kept twice, until a rival replaces one copy by a token. -/
def sampleReplaced (token : String) : KeyValue :=
  { sampleStore ["junk", "junk"] with rivals := (sampleStore [token, "junk"]).texts }

theorem overtakings_sampleReplaced (token : String) :
    (sampleReplaced token).overtakings (Settings.key (.int 7) Settings.tokensName) = 1 := by
  simp [KeyValue.overtakings, KeyValue.intrusions, Intrusion.touches, sampleReplaced, sampleStore,
    KeyValue.shared]

/-- The first attempt reads what is kept, the second one what the rival stored. -/
theorem reads_sampleReplaced (token : String) (i : Nat) : Settings.Reads
    ((sampleReplaced token).contested (Settings.key (.int 7) Settings.tokensName) i) (.int 7)
    ([if i = 0 then "junk" else token, "junk"].map fun t : String => ⟨t, "laptop"⟩) := by
  apply Settings.Holds.reads
  apply Or.inr
  rw [KeyValue.text?_contested, KeyValue.textAfter, KeyValue.textsAfter]
  cases i with
  | zero => simp [sampleReplaced, sampleStore, KeyValue.shared, Table.get?]
  | succ i =>
    simp [sampleReplaced, sampleStore, KeyValue.shared, KeyValue.intrusions, Intrusion.texts,
      Table.get?_set_self]

theorem verify_junk (now : DateTime) : sampleRetrying.signer.verify (.text "junk")
    (some .personalAccess) now = .error (Signer.malformed "Malformed token header") := rfl

theorem startless_junk : Signer.Startless "junk" := by
  have hnoDot : Text.cutLast '.' "junk".toList = none := by decide +kernel
  intro t k payload ht hread
  obtain rfl := AnyText.string.inj ht
  rw [Compact.read, hnoDot] at hread
  cases hread

/-- The pruning drops one of the two records that the rival stored. The list is the same later as
with both of them, and the next pruning drops nothing. -/
theorem prune_settled_sample : ∃ token,
    let pruned := sampleRetrying.prune (sampleReplaced token) (.int 7) ⟨second, some 0⟩
    pruned.1 = .ok 1 ∧
      pruned.2.text? (Settings.key (.int 7) Settings.tokensName) =
        (sampleStore [token]).text? (Settings.key (.int 7) Settings.tokensName) ∧
      (∃ views, sampleRetrying.list ((sampleReplaced token).contested
          (Settings.key (.int 7) Settings.tokensName) 2) (.int 7) ⟨2 * second, some 0⟩ = .ok views ∧
        sampleRetrying.list pruned.2 (.int 7) ⟨2 * second, some 0⟩ = .ok views) ∧
      (sampleRetrying.prune (sampleStore [token]) (.int 7) ⟨second, some 0⟩).1 = .ok 0 := by
  obtain ⟨-, made, -, -, c, rfl, hpersonal, -, -⟩ :=
    TokenLife.exists_prepare_sample "laptop" (n := 0) (by decide)
  have hlive : sampleRetrying.signer.verify (.text made.token) (some .personalAccess)
      ⟨second, some 0⟩ = .ok (Claims.personal "gatehouse" "ann" 7 none ⟨0, some 0⟩) :=
    (hpersonal.verify_iff 0).2 ⟨rfl, by simp [Claims.LiveAt, Claims.personal]⟩
  obtain ⟨token, htoken, hsigned⟩ := hpersonal.signed
  rw [htoken] at hlive
  have hpasses (t : String) (ht : t = "junk" ∨ t = token) : ∀ f,
      sampleRetrying.signer.verify (.text t) (some .personalAccess) ⟨second, some 0⟩ = .error f →
        f.isUnauthorized = true := by
    intro f hf
    rcases ht with rfl | rfl
    · rw [verify_junk] at hf
      cases hf
      rfl
    · rw [hlive] at hf
      cases hf
  obtain ⟨hiff, hall⟩ := prune_settled sampleRetrying (sampleReplaced token) (.int 7)
    ⟨second, some 0⟩ rfl
  rw [overtakings_sampleReplaced] at hiff hall
  have hattempts (i : Nat) (_ : i ≤ 1) : ∃ records, Settings.Reads ((sampleReplaced
      token).contested (Settings.key (.int 7) Settings.tokensName) i) (.int 7) records ∧
        sampleRetrying.Passes ⟨second, some 0⟩ records := by
    refine ⟨_, reads_sampleReplaced token i, ?_⟩
    simp only [Passes, List.map_cons, List.map_nil, List.forall_mem_cons]
    exact ⟨hpasses _ (by split <;> simp), hpasses _ (by simp), by simp⟩
  obtain ⟨n, hn⟩ := hiff.2 ⟨rfl, by decide, hattempts⟩
  obtain ⟨records, kept, hreads, hkept, -, hrewritten, hcount, hlists, hagain⟩ := hall n hn
  obtain rfl := hreads.unique (reads_sampleReplaced token 2)
  have hone : kept = [⟨token, "laptop"⟩] := by
    have hverifies : sampleRetrying.verifies ⟨second, some 0⟩ ⟨token, "laptop"⟩ = true :=
      verifies_iff.2 ⟨_, hlive⟩
    have hlost : sampleRetrying.verifies ⟨second, some 0⟩ ⟨"junk", "laptop"⟩ = false :=
      verifies_eq_false.2 ⟨_, verify_junk _⟩
    simp [hkept, hverifies, hlost]
  subst hone
  have htext : (sampleStore [token]).text? (Settings.key (.int 7) Settings.tokensName) = _ :=
    hrewritten.text?_self.symm
  have hcalm : (sampleStore [token]).overtakings
    (Settings.key (.int 7) Settings.tokensName) = 0 := rfl
  refine ⟨token, ?_, htext.symm, hlists _ 0 rfl (by decide) ?_, ?_⟩
  · have hn1 : n = 1 := Nat.succ.inj hcount
    rw [hn, hn1]
  · simp only [List.map_cons, List.map_nil, List.forall_mem_cons]
    exact ⟨Signer.startless_of_sign hsigned.whole hsigned.sign, startless_junk,
      by simp⟩
  · refine (hagain _ 0 (Int.le_refl _) rfl (by rw [hcalm]; decide) ?_).1
    rw [hcalm]
    intro i hi
    obtain rfl := Nat.le_zero.1 hi
    exact htext

end

end TokenRegistry
end Gatehouse
