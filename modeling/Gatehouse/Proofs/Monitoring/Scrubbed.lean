import Gatehouse.Monitoring.Scrub
import Gatehouse.Proofs.Log.Runs

/-!
What scrubbing leaves of an event. Only cookies, two headers and the messages of breadcrumbs are
treated: every other text of an event leaves as it is, with the tokens in it, and the treatment of a
message is that of a line of the log.
-/
namespace Gatehouse

/-- The text at a place of a value. -/
def Json.textAt? : Json → List PathStep → Option AnyText
  | .text t, [] => some t
  | _, [] => none
  | .object ms, .name n :: rest => (Table.get? ms n).bind (textAt? · rest)
  | .array items, .index i :: rest => items[i]?.bind (textAt? · rest)
  | _, _ :: _ => none

namespace Monitoring
open Json

/-! ### Treatments -/

/-- What becomes of the text at a place of an event. -/
inductive Treatment where
  | kept
  | redacted
  | hidden
  deriving DecidableEq, Repr

/-- The texts before and after a treatment. What is hidden shows stars, unless it was empty. -/
def Treatment.Turns (before after : Option AnyText) : Treatment → Prop
  | kept => after = before
  | redacted => after = before.map Log.redactText
  | hidden => ∀ text, after = some text → text = .string "***" ∨ text = .string ""

/-- The treatment of each place of a value. -/
abbrev Rule := List PathStep → Treatment

/-- What has no rule is kept. -/
def ruleOf : Option Rule → Rule
  | none => fun _ => .kept
  | some rule => rule

/-- The rule for an object from the rules for its members. -/
def within (rules : Table AnyText Rule) : Rule
  | .name n :: rest => ruleOf (rules.get? n) rest
  | _ => .kept

/-- Headers are hidden by their names. -/
def headerRule : Rule
  | .name n :: _ => if isCredentialName n then .hidden else .kept
  | _ => .kept

def messageRule : Rule
  | [] => .redacted
  | _ => .kept

def breadcrumbRule : Rule := within [("message", messageRule)]

def trailRule : Rule
  | .index _ :: rest => breadcrumbRule rest
  | _ => .kept

def requestRule : Rule := within [("cookies", fun _ => .hidden), ("headers", headerRule)]

/-- The treatment of each place of an event. -/
def eventRule : Rule :=
  within [("request", requestRule), ("breadcrumbs", within [("values", trailRule)])]

/-- Every text of the value is treated as the rule says. -/
def Treated (rule : Rule) (v w : Json) : Prop :=
  ∀ place, (rule place).Turns (v.textAt? place) (w.textAt? place)

/-- So is every text of a member, which need not be there. -/
def MemberTreated (rule : Option Rule) (v w : Option Json) : Prop :=
  ∀ place, (ruleOf rule place).Turns (v.bind (·.textAt? place)) (w.bind (·.textAt? place))

section
variable {rule : Rule} {rules : Table AnyText Rule} {v w : Json} {ms ns : Members} {name : String}

theorem MemberTreated.refl (v : Option Json) : MemberTreated none v v := fun _ => rfl

theorem treated_within (h : ∀ n, MemberTreated (rules.get? n) (ms.get? n) (ns.get? n)) :
    Treated (within rules) (.object ms) (.object ns) := by
  intro place
  match place with
  | [] => rfl
  | .name n :: rest => exact h n rest
  | .index _ :: _ => rfl

/-! ### Values without content -/

/-- An empty value has no text but the empty one. -/
theorem textAt?_of_not_truthy (hv : v.truthy = false) {place : List PathStep} {text : AnyText}
    (h : v.textAt? place = some text) : text = .string "" := by
  cases place with
  | nil =>
    cases v with
    | text s =>
      obtain rfl := Option.some.inj h
      exact AnyText.eq_of_isEmpty (by simpa [truthy] using hv)
    | _ => cases h
  | cons step rest =>
    cases v with
    | array items =>
      obtain rfl : items = [] := by simpa [truthy] using hv
      cases step <;> cases h
    | object members =>
      obtain rfl : members = [] := by simpa [truthy] using hv
      cases step <;> cases h
    | _ => cases step <;> cases h

theorem Treatment.turns_of_empty {t : Option AnyText}
    (h : ∀ text, t = some text → text = .string "")
    (treatment : Treatment) : treatment.Turns t t := by
  cases treatment with
  | kept => rfl
  | redacted =>
    cases t with
    | none => rfl
    | some text =>
      rw [h text rfl]
      rfl
  | hidden => exact fun text htext => .inr (h text htext)

theorem Treatment.turns_none (treatment : Treatment) : treatment.Turns none none :=
  turns_of_empty (fun _ h => by cases h) treatment

/-- A member that does not count is treated by being left alone. -/
theorem memberTreated_of_absent (h : present? ms name = none) (rule : Option Rule) :
    MemberTreated rule (ms.get? name) (ms.get? name) := by
  intro place
  apply Treatment.turns_of_empty
  intro text htext
  obtain ⟨v, hv, hplace⟩ := Option.bind_eq_some_iff.1 htext
  refine textAt?_of_not_truthy ?_ hplace
  rw [present?, hv, Option.filter_eq_none_iff] at h
  simpa using h v rfl

theorem get?_of_present? (h : present? ms name = some v) :
    ms.get? name = some v ∧ v.truthy = true :=
  Option.filter_eq_some_iff.1 h

/-! ### Replaced members -/

/-- One member is treated, and the others stay. -/
structure Alters (name : String) (rule : Rule) (ms ns : Members) : Prop where
  member : MemberTreated (some rule) (ms.get? name) (ns.get? name)
  others : ∀ n : AnyText, n ≠ name → ns.get? n = ms.get? n

theorem alters_self (h : MemberTreated (some rule) (ms.get? name) (ms.get? name)) :
    Alters name rule ms ms := ⟨h, fun _ _ => rfl⟩

theorem alters_set (hv : ms.get? name = some v) (h : Treated rule v w) :
    Alters name rule ms (ms.set name w) where
  member := by
    rw [hv, Table.get?_set_self]
    exact h
  others n hn := Table.get?_set_of_ne hn

theorem Alters.treated (h : Alters name rule ms ns) :
    Treated (within [(name, rule)]) (.object ms) (.object ns) := by
  refine treated_within fun n => ?_
  by_cases hn : (name : AnyText) = n
  · subst hn
    simpa [Table.get?] using h.member
  · rw [h.others n (Ne.symm hn)]
    simpa [Table.get?, hn] using MemberTreated.refl _

/-- Two members are treated one after the other. -/
theorem Alters.treated_both {other : String} {rule' : Rule} {os : Members}
    (h : Alters name rule ms ns) (h' : Alters other rule' ns os) (hne : name ≠ other) :
    Treated (within [(name, rule), (other, rule')]) (.object ms) (.object os) := by
  refine treated_within fun n => ?_
  by_cases hn : (name : AnyText) = n
  · subst hn
    rw [h'.others name fun h => hne (AnyText.string.inj h)]
    simpa [Table.get?] using h.member
  · rw [← h.others n (Ne.symm hn)]
    by_cases hn' : (other : AnyText) = n
    · subst hn'
      simpa [Table.get?, hn] using h'.member
    · rw [h'.others n (Ne.symm hn')]
      simpa [Table.get?, hn, hn'] using MemberTreated.refl _

/-- A member is replaced by what is made of it, if it counts. -/
theorem alters_of_scrubMember {scrub : Json → Except Fault Json}
    (hscrub : ∀ v w, scrub v = .ok w → Treated rule v w) (h : scrubMember ms name scrub = .ok ns) :
    Alters name rule ms ns := by
  unfold scrubMember at h
  split at h
  · next habsent =>
    obtain rfl := Except.ok.inj h
    exact alters_self (memberTreated_of_absent habsent _)
  · next v hv =>
    obtain ⟨w, hw, rfl⟩ := map_eq_ok.1 h
    exact alters_set (get?_of_present? hv).1 (hscrub v w hw)

theorem alters_of_scrubPart {scrub : Members → Except Fault Members}
    (hscrub : ∀ ms ns, scrub ms = .ok ns → Treated rule (.object ms) (.object ns))
    (h : scrubPart ms name scrub = .ok ns) : Alters name rule ms ns := by
  obtain ⟨inner, hinner, h⟩ := bind_eq_ok.1 h
  obtain ⟨scrubbed, hscrubbed, h⟩ := bind_eq_ok.1 h
  obtain rfl := Except.ok.inj h
  unfold part at hinner
  split at hinner
  · next habsent =>
    obtain rfl := Except.ok.inj hinner
    exact alters_self (memberTreated_of_absent habsent _)
  · next members hv =>
    obtain rfl := Except.ok.inj hinner
    obtain ⟨hget, htruthy⟩ := get?_of_present? hv
    have hsome : ¬ members.isEmpty = true := by simpa [truthy] using htruthy
    rw [if_neg hsome]
    exact alters_set hget (hscrub members scrubbed hscrubbed)
  · cases hinner

end

/-! ### The parts of an event -/

section
variable {v w : Json} {ms ns : Members}

theorem get?_ofPairs_mask {names : List AnyText} {n : AnyText} {w : Json}
    (h : Table.get? (Table.ofPairs (names.map fun n => (n, mask))) n = some w) : w = mask := by
  suffices hfold : ∀ (t : Members), (∀ n w, t.get? n = some w → w = mask) →
      ∀ n w,
        Table.get? ((names.map fun n => (n, mask)).foldl (fun t p => Table.set t p.1 p.2) t) n =
          some w → w = mask from hfold [] (fun n w h => by cases h) n w h
  clear h
  induction names with
  | nil => exact fun t ht n w h => ht n w h
  | cons name names ih =>
    intro t ht
    apply ih
    intro n w h
    by_cases hn : n = name
    · rw [hn, Table.get?_set_self] at h
      exact (Option.some.inj h).symm
    · rw [Table.get?_set_of_ne hn] at h
      exact ht n w h

theorem eq_of_textAt?_mask {place : List PathStep} {text : AnyText}
    (h : mask.textAt? place = some text) : text = .string "***" := by
  cases place with
  | nil => exact (Option.some.inj h).symm
  | cons step rest => cases step <;> cases h

theorem treated_of_scrubCookies (h : scrubCookies v = .ok w) : Treated (fun _ => .hidden) v w := by
  obtain ⟨items, -, h⟩ := bind_eq_ok.1 h
  obtain ⟨names, -, h⟩ := bind_eq_ok.1 h
  obtain rfl := Except.ok.inj h
  intro place text htext
  match place with
  | [] => cases htext
  | .index _ :: _ => cases htext
  | .name n :: rest =>
    obtain ⟨x, hx, hrest⟩ := Option.bind_eq_some_iff.1 htext
    rw [get?_ofPairs_mask hx] at hrest
    exact .inl (eq_of_textAt?_mask hrest)

theorem get?_map_mask (ms : Members) (n : AnyText) :
    Table.get? (ms.map fun (k, value) => (k, if isCredentialName k then mask else value)) n =
      (ms.get? n).map fun value => if isCredentialName n then mask else value := by
  induction ms with
  | nil => rfl
  | cons p ms ih =>
    obtain ⟨k, value⟩ := p
    by_cases hk : k = n
    · subst hk
      simp [Table.get?]
    · simpa [Table.get?, hk] using ih

theorem treated_of_scrubHeaders (h : scrubHeaders v = .ok w) : Treated headerRule v w := by
  unfold scrubHeaders at h
  split at h
  · next ms =>
    obtain rfl := Except.ok.inj h
    intro place
    match place with
    | [] => rfl
    | .index _ :: _ => rfl
    | .name n :: rest =>
      simp only [headerRule, textAt?, get?_map_mask]
      split_ifs with hn
      · intro text htext
        obtain ⟨x, hx, hrest⟩ := Option.bind_eq_some_iff.1 htext
        obtain ⟨value, -, rfl⟩ := Option.map_eq_some_iff.1 hx
        exact .inl (eq_of_textAt?_mask hrest)
      · simp [Treatment.Turns]
  · next hobject =>
    obtain ⟨names, -, h⟩ := bind_eq_ok.1 h
    obtain ⟨-, -, h⟩ := bind_eq_ok.1 h
    obtain rfl := Except.ok.inj h
    intro place
    match place with
    | [] => rfl
    | .index _ :: _ => rfl
    | .name n :: rest =>
      have hnone : v.textAt? (.name n :: rest) = none := by
        cases v with
        | object ms => exact absurd rfl (hobject ms)
        | _ => rfl
      rw [hnone]
      exact Treatment.turns_none _

/-- Only a message that is a text is redacted. -/
theorem treated_message {b : Option Json} (h : ∀ s, b ≠ some (.text s)) :
    MemberTreated (some messageRule) b b := by
  intro place
  match place with
  | [] =>
    have hnone : b.bind (·.textAt? []) = none := by
      cases b with
      | none => rfl
      | some x =>
        cases x with
        | text s => exact absurd rfl (h s)
        | _ => rfl
    rw [hnone]
    rfl
  | _ :: _ => rfl

theorem treated_of_scrubBreadcrumb (h : scrubBreadcrumb v = .ok w) :
    Treated breadcrumbRule v w := by
  unfold scrubBreadcrumb at h
  split at h
  · next ms =>
    split at h
    · next s hs =>
      obtain rfl := Except.ok.inj h
      refine (alters_set hs fun place => ?_).treated
      match place with
      | [] => rfl
      | step :: _ => cases step <;> rfl
    · next hmessage =>
      obtain rfl := Except.ok.inj h
      exact (alters_self (treated_message fun s hs => hmessage s hs)).treated
  · cases h

theorem getElem?_of_mapM {f : Json → Except Fault Json} {xs ys : List Json}
    (h : xs.mapM f = .ok ys) (i : Nat) : (xs[i]? = none ∧ ys[i]? = none) ∨
      ∃ x y, xs[i]? = some x ∧ ys[i]? = some y ∧ f x = .ok y := by
  induction xs generalizing ys i with
  | nil =>
    obtain rfl := Except.ok.inj h
    exact .inl ⟨rfl, rfl⟩
  | cons x xs ih =>
    rw [List.mapM_cons] at h
    obtain ⟨y, hy, h⟩ := bind_eq_ok.1 h
    obtain ⟨ys', hys, h⟩ := bind_eq_ok.1 h
    obtain rfl := Except.ok.inj h
    cases i with
    | zero => exact .inr ⟨x, y, rfl, rfl, hy⟩
    | succ i => exact ih hys i

theorem treated_of_scrubBreadcrumbs (h : scrubBreadcrumbs v = .ok w) : Treated trailRule v w := by
  unfold scrubBreadcrumbs at h
  split at h
  · next items =>
    obtain ⟨items', hitems, rfl⟩ := map_eq_ok.1 h
    intro place
    match place with
    | [] => rfl
    | .name _ :: _ => rfl
    | .index i :: rest =>
      simp only [textAt?, trailRule]
      rcases getElem?_of_mapM hitems i with ⟨hx, hy⟩ | ⟨x, y, hx, hy, hscrub⟩
      · rw [hx, hy]
        exact Treatment.turns_none _
      · rw [hx, hy]
        exact treated_of_scrubBreadcrumb hscrub rest
  · next harray =>
    obtain ⟨items, -, h⟩ := bind_eq_ok.1 h
    split_ifs at h
    obtain rfl := Except.ok.inj h
    intro place
    match place with
    | [] => rfl
    | .name _ :: _ => rfl
    | .index i :: rest =>
      have hnone : v.textAt? (.index i :: rest) = none := by
        cases v with
        | array items => exact absurd rfl (harray items)
        | _ => rfl
      rw [hnone]
      exact Treatment.turns_none _

theorem treated_of_scrubTrail (h : scrubTrail ms = .ok ns) :
    Treated (within [("values", trailRule)]) (.object ms) (.object ns) := by
  unfold scrubTrail at h
  split at h
  · next habsent =>
    obtain rfl := Except.ok.inj h
    refine (alters_self fun place => ?_).treated
    rw [habsent]
    exact Treatment.turns_none _
  · next v hv =>
    obtain ⟨w, hw, rfl⟩ := map_eq_ok.1 h
    exact (alters_set hv (treated_of_scrubBreadcrumbs hw)).treated

end

theorem treated_of_scrubRequest {request scrubbed : Members}
    (h : (scrubMember request "cookies" scrubCookies >>= fun r =>
      scrubMember r "headers" scrubHeaders) = .ok scrubbed) :
    Treated requestRule (.object request) (.object scrubbed) := by
  obtain ⟨inner, hcookies, hheaders⟩ := bind_eq_ok.1 h
  exact (alters_of_scrubMember (fun _ _ => treated_of_scrubCookies) hcookies).treated_both
    (alters_of_scrubMember (fun _ _ => treated_of_scrubHeaders) hheaders) (by decide)

/-- Every text of an event is treated by its place. -/
theorem treated_of_scrubEvent {event scrubbed : Json} (h : scrubEvent event = .ok scrubbed) :
    Treated eventRule event scrubbed := by
  unfold scrubEvent at h
  split at h
  · next ms =>
    obtain ⟨ns, hrequest, h⟩ := bind_eq_ok.1 h
    obtain ⟨os, htrail, h⟩ := bind_eq_ok.1 h
    obtain rfl := Except.ok.inj h
    exact (alters_of_scrubPart (fun _ _ => treated_of_scrubRequest) hrequest).treated_both
      (alters_of_scrubPart (fun _ _ => treated_of_scrubTrail) htrail) (by decide)
  · cases h

/-! ### Events that are handled -/

/-- Cookies and headers are objects, where they are there. -/
structure RequestShaped (request : Members) : Prop where
  cookies : ∀ v, request.get? "cookies" = some v → ∃ ms, v = .object ms
  headers : ∀ v, request.get? "headers" = some v → ∃ ms, v = .object ms

/-- Breadcrumbs are a list of objects, where they are there. -/
def TrailShaped (trail : Members) : Prop :=
  ∀ v, trail.get? "values" = some v → ∃ items, v = .array items ∧ ∀ x ∈ items, ∃ ms, x = .object ms

/-- The event has the form that events of requests have. -/
structure Shaped (event : Members) : Prop where
  request : ∀ v, event.get? "request" = some v → ∃ ms, v = .object ms ∧ RequestShaped ms
  breadcrumbs : ∀ v, event.get? "breadcrumbs" = some v → ∃ ms, v = .object ms ∧ TrailShaped ms

section
variable {ms : Members} {name : String}

theorem exists_mapM {α β : Type} {f : α → Except Fault β} {xs : List α}
    (h : ∀ x ∈ xs, ∃ y, f x = .ok y) : ∃ ys, xs.mapM f = .ok ys := by
  induction xs with
  | nil => exact ⟨[], rfl⟩
  | cons x xs ih =>
    obtain ⟨y, hy⟩ := h x List.mem_cons_self
    obtain ⟨ys, hys⟩ := ih fun x hx => h x (List.mem_cons_of_mem _ hx)
    rw [List.mapM_cons]
    exact ⟨y :: ys, bind_eq_ok.2 ⟨y, hy, bind_eq_ok.2 ⟨ys, hys, rfl⟩⟩⟩

theorem exists_scrubMember {scrub : Json → Except Fault Json}
    (h : ∀ v, ms.get? name = some v → ∃ w, scrub v = .ok w) :
    ∃ ns, scrubMember ms name scrub = .ok ns := by
  unfold scrubMember
  split
  · exact ⟨ms, rfl⟩
  · next v hv =>
    obtain ⟨w, hw⟩ := h v (get?_of_present? hv).1
    exact ⟨_, map_eq_ok.2 ⟨w, hw, rfl⟩⟩

theorem exists_scrubPart {scrub : Members → Except Fault Members}
    (h : ∀ v, ms.get? name = some v → ∃ inner ns, v = .object inner ∧ scrub inner = .ok ns)
    (hempty : ∃ ns, scrub [] = .ok ns) : ∃ ns, scrubPart ms name scrub = .ok ns := by
  obtain ⟨inner, hinner, ns, hns⟩ : ∃ inner, part ms name = .ok inner ∧
      ∃ ns, scrub inner = .ok ns := by
    unfold part
    cases hv : present? ms name with
    | none => exact ⟨[], rfl, hempty⟩
    | some v =>
      obtain ⟨inner, ns, rfl, hns⟩ := h v (get?_of_present? hv).1
      exact ⟨inner, rfl, ns, hns⟩
  exact ⟨_, bind_eq_ok.2 ⟨inner, hinner, bind_eq_ok.2 ⟨ns, hns, rfl⟩⟩⟩

theorem exists_scrubCookies (ms : Members) : ∃ w, scrubCookies (.object ms) = .ok w := by
  obtain ⟨names, hnames⟩ : ∃ names, (ms.map fun p => Json.text p.1).mapM memberName = .ok names :=
    exists_mapM fun x hx => by
      obtain ⟨p, -, rfl⟩ := List.mem_map.1 hx
      exact ⟨p.1, rfl⟩
  exact ⟨_, bind_eq_ok.2 ⟨_, rfl, bind_eq_ok.2 ⟨names, hnames, rfl⟩⟩⟩

theorem exists_scrubBreadcrumb (ms : Members) : ∃ w, scrubBreadcrumb (.object ms) = .ok w := by
  simp only [scrubBreadcrumb]
  split
  · exact ⟨_, rfl⟩
  · exact ⟨_, rfl⟩

theorem exists_scrubRequest (h : RequestShaped ms) : ∃ ns,
    (scrubMember ms "cookies" scrubCookies >>= fun r => scrubMember r "headers" scrubHeaders) =
      .ok ns := by
  obtain ⟨inner, hinner⟩ : ∃ inner, scrubMember ms "cookies" scrubCookies = .ok inner :=
    exists_scrubMember fun v hv => by
      obtain ⟨cookies, rfl⟩ := h.cookies v hv
      exact exists_scrubCookies cookies
  have hothers := (alters_of_scrubMember (fun _ _ => treated_of_scrubCookies) hinner).others
  obtain ⟨ns, hns⟩ : ∃ ns, scrubMember inner "headers" scrubHeaders = .ok ns :=
    exists_scrubMember fun v hv => by
      rw [hothers "headers" (by decide)] at hv
      obtain ⟨headers, rfl⟩ := h.headers v hv
      exact ⟨_, rfl⟩
  exact ⟨ns, bind_eq_ok.2 ⟨inner, hinner, hns⟩⟩

theorem exists_scrubTrail (h : TrailShaped ms) : ∃ ns, scrubTrail ms = .ok ns := by
  unfold scrubTrail
  split
  · exact ⟨ms, rfl⟩
  · next v hv =>
    obtain ⟨items, rfl, hitems⟩ := h v hv
    obtain ⟨items', hscrubbed⟩ : ∃ items', items.mapM scrubBreadcrumb = .ok items' :=
      exists_mapM fun x hx => by
        obtain ⟨crumb, rfl⟩ := hitems x hx
        exact exists_scrubBreadcrumb crumb
    exact ⟨_, map_eq_ok.2 ⟨_, map_eq_ok.2 ⟨items', hscrubbed, rfl⟩, rfl⟩⟩

theorem exists_scrubEvent (h : Shaped ms) : ∃ scrubbed, scrubEvent (.object ms) = .ok scrubbed := by
  obtain ⟨ns, hns⟩ : ∃ ns, (scrubPart ms "request" fun request =>
      scrubMember request "cookies" scrubCookies >>= fun r =>
        scrubMember r "headers" scrubHeaders) = .ok ns :=
    exists_scrubPart (fun v hv => by
      obtain ⟨request, rfl, hrequest⟩ := h.request v hv
      obtain ⟨scrubbed, hscrubbed⟩ := exists_scrubRequest hrequest
      exact ⟨request, scrubbed, rfl, hscrubbed⟩) ⟨[], rfl⟩
  have hothers := (alters_of_scrubPart (fun _ _ => treated_of_scrubRequest) hns).others
  obtain ⟨os, hos⟩ : ∃ os, scrubPart ns "breadcrumbs" scrubTrail = .ok os :=
    exists_scrubPart (fun v hv => by
      rw [hothers "breadcrumbs" (by decide)] at hv
      obtain ⟨trail, rfl, htrail⟩ := h.breadcrumbs v hv
      obtain ⟨scrubbed, hscrubbed⟩ := exists_scrubTrail htrail
      exact ⟨trail, scrubbed, rfl, hscrubbed⟩) ⟨[], rfl⟩
  exact ⟨_, bind_eq_ok.2 ⟨ns, hns, bind_eq_ok.2 ⟨os, hos, rfl⟩⟩⟩

end

/-! ### Tokens in events -/

/-- The text at the place of the value holds the token. -/
def ShowsAt (v : Json) (place : List PathStep) (token : String) : Prop :=
  ∃ text, v.textAt? place = some text ∧ Log.ShowsIn text token

section
variable {rule : Rule} {v w : Json} {place : List PathStep} {token : String}

theorem Treated.showsAt_of_kept (h : Treated rule v w) (hrule : rule place = .kept) :
    ShowsAt w place token ↔ ShowsAt v place token := by
  have hplace := h place
  rw [hrule] at hplace
  rw [ShowsAt, ShowsAt, show w.textAt? place = v.textAt? place from hplace]

theorem Treated.showsAt_of_redacted (h : Treated rule v w) (hrule : rule place = .redacted) :
    ShowsAt w place token ↔
      ∃ text, v.textAt? place = some text ∧ Log.ShowsIn (Log.redactText text) token := by
  have hplace := h place
  rw [hrule] at hplace
  rw [ShowsAt, show w.textAt? place = (v.textAt? place).map Log.redactText from hplace]
  cases v.textAt? place <;> simp

/-- Stars hold no token, since every token has dots. -/
theorem Treated.not_showsAt_of_hidden (h : Treated rule v w) (hrule : rule place = .hidden)
    (hdot : '.' ∈ token.toList) : ¬ ShowsAt w place token := by
  rintro ⟨text, htext, hshows⟩
  have hplace := h place
  rw [hrule] at hplace
  have hmem : '.'.toNat ∈ text.codes := hshows.subset (List.mem_map_of_mem hdot)
  rcases hplace text htext with rfl | rfl
  · exact absurd hmem (by decide)
  · exact absurd hmem (by decide)

end

section
variable [Platform]

theorem dot_mem_of_sign {s : Signer} {c : Claims} {t : String} (h : s.sign c = .ok t) :
    '.' ∈ t.toList := by
  obtain ⟨first, second, third, hsegments, -⟩ := Log.exists_segments h
  rw [hsegments.text]
  simp

/-- Where a scrubbed event shows a token. Events of requests are handled; in an event that is
handled, a token is shown at every place that is kept, and in every message of a breadcrumb that
shows it when it is masked like a line of the log: for a token that is signed with a key, only where
it stands directly behind a word character. Cookies and the headers that carry credentials show
none. -/
theorem scrubEvent_shows {s : Signer} {c : Claims} {t : String} (ht : s.sign c = .ok t) :
    (∀ ms, Shaped ms → ∃ scrubbed, scrubEvent (.object ms) = .ok scrubbed) ∧
    ∀ event scrubbed, scrubEvent event = .ok scrubbed → ∀ place,
      (ShowsAt scrubbed place t ↔ eventRule place = .kept ∧ ShowsAt event place t ∨
        eventRule place = .redacted ∧
          ∃ text, event.textAt? place = some text ∧ Log.ShowsIn (Log.redactText text) t) ∧
      (Algorithm.ofName? s.algorithm ≠ some .unsigned → eventRule place = .redacted →
        ShowsAt scrubbed place t →
          ∃ text, event.textAt? place = some text ∧ Log.ExposedIn text t) := by
  refine ⟨fun ms h => exists_scrubEvent h, fun event scrubbed h place => ⟨?_, ?_⟩⟩
  · have htreated := treated_of_scrubEvent h
    cases hrule : eventRule place with
    | kept => simp [htreated.showsAt_of_kept hrule]
    | redacted => simp [htreated.showsAt_of_redacted hrule]
    | hidden => simp [htreated.not_showsAt_of_hidden hrule (dot_mem_of_sign ht)]
  · intro hkeyed hrule hshows
    obtain ⟨text, htext, hseen⟩ := ((treated_of_scrubEvent h).showsAt_of_redacted hrule).1 hshows
    exact ⟨text, htext, Log.exposedIn_of_shows ht hkeyed hseen⟩

end

/-! ### A sample -/

/-- An event of a request that revokes the token, with the token in all its parts. -/
def sampleEvent (t : String) : Members :=
  [("message", .text ("revoked " ++ t)),
    ("request", .object [("url", .text ("http://localhost/v1/users/ann/access-tokens/" ++ t)),
      ("cookies", .object [("access-token", .text t)]),
      ("headers", .object [("Authorization", .text ("Bearer " ++ t))])]),
    ("exception", .object [("values", .array [.object [("value", .text t)]])]),
    ("breadcrumbs", .object [("values", .array [.object [("message", .text t)]])])]

theorem shaped_sampleEvent (t : String) : Shaped (sampleEvent t) where
  request v hv := by
    obtain rfl := Option.some.inj hv
    refine ⟨_, rfl, ⟨fun v hv => ?_, fun v hv => ?_⟩⟩
    · obtain rfl := Option.some.inj hv
      exact ⟨_, rfl⟩
    · obtain rfl := Option.some.inj hv
      exact ⟨_, rfl⟩
  breadcrumbs v hv := by
    obtain rfl := Option.some.inj hv
    refine ⟨_, rfl, fun v hv => ?_⟩
    obtain rfl := Option.some.inj hv
    refine ⟨_, rfl, fun x hx => ?_⟩
    obtain rfl := List.mem_singleton.1 hx
    exact ⟨_, rfl⟩

theorem showsIn_append (text t : String) : Log.ShowsIn (text ++ t : String) t := by
  rw [Log.showsIn_string, Log.Shows, String.toList_append]
  exact (List.suffix_append _ _).isInfix

section
attribute [local instance] Platform.standard

/-- The address of the request shows the token, the cookie and the breadcrumb do not. -/
theorem scrubEvent_shows_sample : ∃ t scrubbed, Signer.sample.sign
      ⟨"ann", "7", .sessionAccess, "gatehouse", ⟨0, some 0⟩, none⟩ = .ok t ∧
    scrubEvent (.object (sampleEvent t)) = .ok scrubbed ∧
    ShowsAt scrubbed [.name "request", .name "url"] t ∧
    ¬ ShowsAt scrubbed [.name "request", .name "cookies", .name "access-token"] t ∧
    ¬ ShowsAt scrubbed [.name "breadcrumbs", .name "values", .index 0, .name "message"] t := by
  obtain ⟨t, ht, -⟩ := Signer.exists_sign_sample
  obtain ⟨hhandled, hplaces⟩ := scrubEvent_shows ht
  obtain ⟨scrubbed, hscrubbed⟩ := hhandled _ (shaped_sampleEvent t)
  refine ⟨t, scrubbed, ht, hscrubbed, ?_, ?_, ?_⟩
  · exact (hplaces _ _ hscrubbed _).1.2 (.inl ⟨by decide, _, rfl, showsIn_append _ t⟩)
  · intro hshows
    rcases (hplaces _ _ hscrubbed _).1.1 hshows with ⟨hkept, -⟩ | ⟨hredacted, -⟩
    · exact absurd hkept (by decide)
    · exact absurd hredacted (by decide)
  · intro hshows
    obtain ⟨text, htext, pre, w, spelled, post, hcut, -, hcase⟩ :=
      (hplaces _ _ hscrubbed _).2 (by decide) (by decide) hshows
    obtain rfl := Option.some.inj htext
    have hlength := congrArg List.length hcut
    have hspelled := congrArg List.length hcase
    simp only [AnyText.codes, List.length_append, List.length_cons, List.length_map]
      at hlength hspelled
    omega

/-- The message of the event, the address of its request and the value of its exception leave with
the token in them. -/
theorem shows_in_sampleEvent : ∃ t scrubbed, Signer.sample.sign
      ⟨"ann", "7", .sessionAccess, "gatehouse", ⟨0, some 0⟩, none⟩ = .ok t ∧
    scrubEvent (.object (sampleEvent t)) = .ok scrubbed ∧
    ShowsAt scrubbed [.name "message"] t ∧ ShowsAt scrubbed [.name "request", .name "url"] t ∧
    ShowsAt scrubbed [.name "exception", .name "values", .index 0, .name "value"] t := by
  obtain ⟨t, ht, -⟩ := Signer.exists_sign_sample
  obtain ⟨scrubbed, hscrubbed⟩ := exists_scrubEvent (shaped_sampleEvent t)
  have htreated := treated_of_scrubEvent hscrubbed
  refine ⟨t, scrubbed, ht, hscrubbed, ?_, ?_, ?_⟩
  · exact (htreated.showsAt_of_kept (by decide)).2 ⟨_, rfl, showsIn_append _ t⟩
  · exact (htreated.showsAt_of_kept (by decide)).2 ⟨_, rfl, showsIn_append _ t⟩
  · exact (htreated.showsAt_of_kept (by decide)).2 ⟨_, rfl, List.infix_rfl⟩

end

end Monitoring

end Gatehouse
