import Gatehouse.Proofs.PersonalToken.Failure
import Mathlib.Data.List.Forall2

/-!
The list that a user sees. It shows one entry for every record whose token verifies, with the times
that the token itself tells, oldest first; entries of the same time stand in the order in which
their records are kept.
-/
namespace Gatehouse

/-! ### A stable sort -/

section
variable {α : Type} {age : α → Int} {l l' : List α}

/-- Sorted by age, with those of one age in the order in which they come. -/
def sortBy (age : α → Int) (l : List α) : List α := l.mergeSort fun a b => age a ≤ age b

theorem pairwise_sortBy (age : α → Int) (l : List α) :
    (sortBy age l).Pairwise fun a b => age a ≤ age b := by
  have hsorted : (sortBy age l).Pairwise fun a b => decide (age a ≤ age b) = true := by
    apply List.pairwise_mergeSort
    · intro a b c hab hbc
      simp only [decide_eq_true_eq] at hab hbc ⊢
      omega
    · intro a b
      simpa using Int.le_total (age a) (age b)
  exact hsorted.imp of_decide_eq_true

/-- Those of one age are a sorted part of the list already, so that sorting keeps their order. -/
theorem filter_sortBy (age : α → Int) (l : List α) (n : Int) :
    (sortBy age l).filter (age · = n) = l.filter (age · = n) := by
  have hsame : (l.filter (age · = n)).Pairwise fun a b => decide (age a ≤ age b) = true := by
    apply List.Pairwise.imp_of_mem _ (List.pairwise_of_forall fun _ _ => trivial)
    intro a b ha hb _
    have ha := of_decide_eq_true (List.mem_filter.1 ha).2
    have hb := of_decide_eq_true (List.mem_filter.1 hb).2
    simp only [decide_eq_true_eq]
    omega
  have hsub : (l.filter (age · = n)).Sublist (sortBy age l) := by
    apply List.sublist_mergeSort _ _ hsame List.filter_sublist
    · intro a b c hab hbc
      simp only [decide_eq_true_eq] at hab hbc ⊢
      omega
    · intro a b
      simpa using Int.le_total (age a) (age b)
  have hkept := hsub.filter (age · = n)
  rw [List.filter_filter] at hkept
  simp only [Bool.and_self] at hkept
  exact (hkept.eq_of_length
    ((List.mergeSort_perm l _).filter (age · = n)).length_eq.symm).symm

/-- A list that is sorted is known from its parts of one age each. -/
theorem eq_of_filter_eq (hl : l.Pairwise fun a b => age a ≤ age b)
    (hl' : l'.Pairwise fun a b => age a ≤ age b)
    (h : ∀ n, l.filter (age · = n) = l'.filter (age · = n)) : l = l' := by
  induction l generalizing l' with
  | nil =>
    symm
    apply List.eq_nil_iff_forall_not_mem.2
    intro b hb
    have hmem : b ∈ l'.filter (age · = age b) := List.mem_filter.2 ⟨hb, decide_eq_true rfl⟩
    rw [← h] at hmem
    cases hmem
  | cons a l ih =>
    have hmem {x : α} : x ∈ a :: l ↔ x ∈ l' := by
      have hpart (k : List α) : x ∈ k ↔ x ∈ k.filter (age · = age x) := by simp
      rw [hpart (a :: l), h, ← hpart]
    cases l' with
    | nil => cases hmem.1 List.mem_cons_self
    | cons b l' =>
      have hle : age a ≤ age b := by
        rcases List.mem_cons.1 (hmem.2 List.mem_cons_self) with rfl | hb
        · exact Int.le_refl _
        · exact List.rel_of_pairwise_cons hl hb
      have hge : age b ≤ age a := by
        rcases List.mem_cons.1 (hmem.1 List.mem_cons_self) with rfl | ha
        · exact Int.le_refl _
        · exact List.rel_of_pairwise_cons hl' ha
      have hage : age b = age a := Int.le_antisymm hge hle
      have hfirst := h (age a)
      rw [List.filter_cons_of_pos (by simp), List.filter_cons_of_pos (by simpa using hage)]
        at hfirst
      obtain ⟨rfl, -⟩ := List.cons.inj hfirst
      rw [ih hl.of_cons hl'.of_cons]
      intro n
      have hn := h n
      by_cases ha : age a = n
      · rw [List.filter_cons_of_pos (by simpa using ha),
          List.filter_cons_of_pos (by simpa using ha)] at hn
        exact (List.cons.inj hn).2
      · rwa [List.filter_cons_of_neg (by simpa using ha),
          List.filter_cons_of_neg (by simpa using ha)] at hn

/-- What is sorted already need not be sorted anew with what comes behind it. -/
theorem sortBy_append (age : α → Int) (l l' : List α) :
    sortBy age (sortBy age l ++ l') = sortBy age (l ++ l') := by
  apply eq_of_filter_eq (pairwise_sortBy age _) (pairwise_sortBy age _)
  intro n
  rw [filter_sortBy, filter_sortBy, List.filter_append, List.filter_append, filter_sortBy]

end

/-! ### The entries -/

section
variable [Platform]

/-- The entry shows the record, whose token verifies: its text and description are the record's,
and its times those that the payload of the token tells. -/
structure TokenView.Shows (signer : Signer) (now : DateTime) (x : TokenRecord) (v : TokenView) :
    Prop where
  token : v.token = x.token
  description : v.description = x.description
  verified : ∃ c, signer.verify (.text x.token) (some .personalAccess) now = .ok c
  told : ∃ (t : String) (k : Compact) (payload : Members) (iat : Json), x.token = .string t ∧
    Compact.read t.toList = .ok k ∧
    Compact.object k.payload = .ok payload ∧ payload.get? "iat" = some iat ∧
    Claims.timeOf iat = .ok v.issuedAt ∧ Claims.expiryOf payload = .ok v.expiresAt

namespace TokenRegistry
variable {r : TokenRegistry} {s : KeyValue} {owner : Json} {now : DateTime} {x : TokenRecord}
  {records : List TokenRecord}

theorem shows_of_view {v : TokenView} (h : r.view x now = .ok v) :
    v.Shows r.signer now x := by
  obtain ⟨c, hverify, hv⟩ := bind_eq_ok.1 h
  obtain rfl := Except.ok.inj hv
  obtain ⟨t, k, secret, payload, ht, hk, -, -, hp, -, hclaims, -⟩ := Signer.verify_eq_ok.1 hverify
  obtain ⟨-, -, -, -, ⟨iat, hiat, htime⟩, hexp⟩ := Claims.ofPayload_eq_ok.1 hclaims
  exact ⟨rfl, rfl, ⟨c, hverify⟩, t, k, payload, iat, Json.text.inj ht, hk, hp, hiat, htime, hexp⟩

theorem verifies_iff : r.verifies now x = true ↔
    ∃ c, r.signer.verify (.text x.token) (some .personalAccess) now = .ok c := by
  rw [verifies, view]
  cases r.signer.verify (.text x.token) (some .personalAccess) now <;>
    simp [bind, Except.bind, Except.toOption]

/-- The entries of records, in the order of the records. -/
def entries (r : TokenRegistry) (now : DateTime) (records : List TokenRecord) : List TokenView :=
  records.filterMap fun x => (r.view x now).toOption

theorem liveOnly_verifyEach {verified : List (Except ServiceError TokenView)}
    (h : r.verifyEach now records = .ok verified) : liveOnly verified = r.entries now records := by
  induction records generalizing verified with
  | nil =>
    obtain rfl := Except.ok.inj h
    rfl
  | cons x rest ih =>
    obtain ⟨first, others, rfl, hrest, hfirst⟩ := verifyEach_cons h
    have hothers := ih hrest
    rw [liveOnly] at hothers
    rw [liveOnly, entries, List.filterMap_cons, List.filterMap_cons, hfirst, hothers]
    rfl

/-- There is one entry for each record whose token verifies. -/
theorem shows_entries (r : TokenRegistry) (now : DateTime) (records : List TokenRecord) :
    List.Forall₂ (fun x v => v.Shows r.signer now x) (records.filter (r.verifies now))
      (r.entries now records) := by
  induction records with
  | nil => exact .nil
  | cons x rest ih =>
    cases hview : r.view x now with
    | error f =>
      rw [List.filter_cons_of_neg (by simp [verifies, hview, Except.toOption]), entries,
        List.filterMap_cons_none (by rw [hview]; rfl)]
      exact ih
    | ok v =>
      rw [List.filter_cons_of_pos (by simp [verifies, hview, Except.toOption]), entries,
        List.filterMap_cons_some (by rw [hview]; rfl)]
      exact .cons (shows_of_view hview) ih

/-- A list that is shown is that of the entries, by their times of issue. -/
theorem list_eq_ok {views : List TokenView} (h : r.list s owner now = .ok views) :
    ∃ records, Settings.getTokens s owner = .ok records ∧
      views = sortBy (·.issuedAt.instant) (r.entries now records) := by
  obtain ⟨records, hget, h⟩ := bind_eq_ok.1 h
  obtain ⟨verified, hverified, hviews⟩ := bind_eq_ok.1 h
  rw [liveOnly_verifyEach hverified] at hviews
  exact ⟨records, hget, (Except.ok.inj hviews).symm⟩

/-- The token of each record verifies or fails to authenticate, so that none blocks the others. -/
def Passes (r : TokenRegistry) (now : DateTime) (records : List TokenRecord) : Prop :=
  ∀ x ∈ records, ∀ f, r.signer.verify (.text x.token) (some .personalAccess) now = .error f →
    f.isUnauthorized = true

theorem exists_verifyEach_iff_passes :
    (∃ verified, r.verifyEach now records = .ok verified) ↔ r.Passes now records := by
  rw [exists_verifyEach]
  simp only [view_eq_error, Passes]

/-- Records that pass are listed by their entries. -/
theorem list_of_passes (hget : Settings.getTokens s owner = .ok records)
    (h : r.Passes now records) :
    r.list s owner now = .ok (sortBy (·.issuedAt.instant) (r.entries now records)) := by
  obtain ⟨views, hviews⟩ := (exists_list hget).2 (exists_verifyEach_iff_passes.2 h)
  obtain ⟨records', hrecords, rfl⟩ := list_eq_ok hviews
  obtain rfl := Except.ok.inj (hget.symm.trans hrecords)
  exact hviews

end TokenRegistry

/-- A list that is shown has one entry for every record whose token verifies and none for another,
oldest first, and entries of one time in the order of their records. The store is as before. -/
theorem TokenLife.list_entries (r : TokenRegistry) (s s' : KeyValue) (id : Int) (now : DateTime)
    (views : List TokenView)
    (h : (Request.list id).answer r s now = (.listed (.ok views), s')) :
    s' = s ∧ ∃ records shown, Settings.getTokens s (.int id) = .ok records ∧
      (∀ x, r.verifies now x = true ↔
        ∃ c, r.signer.verify (.text x.token) (some .personalAccess) now = .ok c) ∧
      List.Forall₂ (fun x v => v.Shows r.signer now x) (records.filter (r.verifies now)) shown ∧
      views.Perm shown ∧
      (views.Pairwise fun v w => v.issuedAt.instant ≤ w.issuedAt.instant) ∧
      ∀ t, views.filter (·.issuedAt.instant = t) = shown.filter (·.issuedAt.instant = t) := by
  obtain ⟨hlisted, rfl⟩ := Prod.mk.inj h
  obtain ⟨records, hget, rfl⟩ := TokenRegistry.list_eq_ok (Answer.listed.inj hlisted)
  exact ⟨rfl, records, r.entries now records, hget, fun x => TokenRegistry.verifies_iff,
    TokenRegistry.shows_entries r now records, List.mergeSort_perm _ _, pairwise_sortBy _ _,
    filter_sortBy _ _⟩

end

namespace TokenLife

section
attribute [local instance] Platform.standard

/-- Two good tokens are kept, the younger one first, and between them what is no token. -/
def sampleRecords (young old : String) : List TokenRecord :=
  [⟨young, "desk"⟩, ⟨"no token", "broken"⟩, ⟨old, "laptop"⟩]

def sampleKept (young old : String) : KeyValue :=
  .ofTexts [(Settings.key (.int 7) Settings.tokensName,
    String.ofList (Json.print (TokenRecord.setting (sampleRecords young old))))]

/-- A token that was made for the sample user stays good, and tells when it was issued. -/
theorem exists_view_sample (description : AnyText) {n : Int} (hn : DateTime.inRange n = true) :
    ∃ (token : String) (view : TokenView),
      sampleRegistry.view ⟨token, description⟩ ⟨2 * second, some 0⟩ = .ok view ∧
      view.description = description ∧ view.issuedAt = DateTime.floorSecond ⟨n, some 0⟩ := by
  obtain ⟨-, made, -, -, c, rfl, hpersonal, -, -⟩ := exists_prepare_sample description hn
  have hlive : (Claims.personal "gatehouse" "ann" 7 none ⟨n, some 0⟩).LiveAt
      ⟨2 * second, some 0⟩ := by
    simp [Claims.LiveAt, Claims.personal]
  have hverify := (hpersonal.verify_iff 0).2 ⟨rfl, hlive⟩
  obtain ⟨token, htoken, -⟩ := hpersonal.signed
  rw [htoken] at hverify
  exact ⟨token, _, bind_eq_ok.2 ⟨_, hverify, rfl⟩, rfl, rfl⟩

/-- The sample registry lists the older token before the younger one. -/
theorem list_entries_sample : ∃ young old views,
    (Request.list 7).answer sampleRegistry (sampleKept young old) ⟨2 * second, some 0⟩ =
        (.listed (.ok views), sampleKept young old) ∧
      views.map (·.description) = ["laptop", "desk"] ∧
      views.Pairwise fun v w => v.issuedAt.instant ≤ w.issuedAt.instant := by
  obtain ⟨young, v, hv, hdesk, hlate⟩ := exists_view_sample "desk" (n := second) (by decide)
  obtain ⟨old, w, hw, hlaptop, hearly⟩ := exists_view_sample "laptop" (n := 0) (by decide)
  have hget : Settings.getTokens (sampleKept young old) (.int 7) = .ok (sampleRecords young old) :=
    Settings.Holds.getTokens_of_failure rfl (.inr (KeyValue.text?_write_self _ _ _))
  have hbroken : sampleRegistry.view ⟨"no token", "broken"⟩ ⟨2 * second, some 0⟩ =
      .error (Signer.malformed "Malformed token header") := rfl
  have hlist : sampleRegistry.list (sampleKept young old) (.int 7) ⟨2 * second, some 0⟩ =
      .ok [w, v] := by
    have hverified : sampleRegistry.verifyEach ⟨2 * second, some 0⟩ (sampleRecords young old) =
        .ok [.ok v, .error ⟨.malformedToken, "Malformed token header", none⟩, .ok w] := by
      rw [sampleRecords]
      simp only [TokenRegistry.verifyEach, hv, hw, hbroken]
      rfl
    have hlater : ¬ v.issuedAt.instant ≤ w.issuedAt.instant := by
      rw [hlate, hearly]
      decide
    have hsorted : [v, w].mergeSort (fun a b => a.issuedAt.instant ≤ b.issuedAt.instant) =
        [w, v] := by
      simp [List.mergeSort, hlater]
    exact bind_eq_ok.2 ⟨_, hget, bind_eq_ok.2 ⟨_, hverified, congrArg _ hsorted⟩⟩
  have hanswer : (Request.list 7).answer sampleRegistry (sampleKept young old)
      ⟨2 * second, some 0⟩ = (.listed (.ok [w, v]), sampleKept young old) := by
    rw [Request.answer, hlist]
  obtain ⟨-, _, _, -, -, -, -, hsorted, -⟩ :=
    list_entries sampleRegistry (sampleKept young old) _ 7 _ _ hanswer
  exact ⟨young, old, [w, v], hanswer, by simp [hdesk, hlaptop], hsorted⟩

end

end TokenLife

end Gatehouse
