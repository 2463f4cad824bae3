import Gatehouse.Proofs.Http.Answered
import Gatehouse.Proofs.PersonalToken.Frame

/-!
The routes to personal tokens. Each of them finds out whose tokens are meant, asks the registry for
one thing and replies with its answer: `perform_of_target`. So what holds of every answer of the
registry holds of these routes.
-/
namespace Gatehouse.Http
open TokenLife

/-- The user name whose tokens an action is about. -/
def Action.target? : Action → Option String
  | .listTokens u | .createToken u | .pruneTokens u | .deleteToken u _ => some u
  | _ => none

/-- On the path of a user's tokens these are listed and created. -/
theorem resolve_tokensPath {path username : String} (hpage : Page.ofPath? path = none)
    (hactions : routes.map (·.action? path) =
      [none, none, none, some (.listTokens username), some (.createToken username), none, none,
        none, none]) :
    resolve "GET" path = .found routes[3] (.listTokens username) ∧
      resolve "POST" path = .found routes[4] (.createToken username) := by
  simp only [routes, List.map_cons, List.map_nil, List.cons.injEq] at hactions
  simp [resolve, resolveRoute, routes, hactions, hpage]

/-- What an action about the tokens of a user asks of the registry. -/
def Action.ask (a : Action) (o : User) (body : Option Json) : Except Fault TokenLife.Request :=
  match a with
  | .createToken _ => do
    let q ← requireBody body TokenRequest.read
    .ok (.create o (.text q.description) q.expiresAt)
  | .pruneTokens _ => .ok (.prune o.id)
  | .deleteToken _ token => .ok (.revoke o.id token)
  | _ => .ok (.list o.id)

/-- The reply that tells an answer of the registry. -/
def reply : Answer → Except Fault Reply
  | .created outcome => outcome.map fun view => ⟨201, view.toJson⟩
  | .revoked outcome => outcome.map fun _ => ⟨200, (Confirmation.mk true).toJson⟩
  | .pruned outcome => outcome.map fun (removed : Nat) => ⟨200, (Removal.mk removed).toJson⟩
  | .listed outcome => outcome.map fun views => ⟨200, TokenView.listJson views⟩

namespace Service
variable [Platform] {s : Service} {r : Request} {body : Option Json} {now : DateTime} {a : Action}
  {username : String}

/-- The user concerned, the registry and what it is asked for. -/
def asked (s : Service) (r : Request) (body : Option Json) (now : DateTime) (username : String)
    (a : Action) : Written (TokenRegistry × TokenLife.Request) := do
  let o ← s.owner r now username
  let registry ← s.registry
  let q ← a.ask o body
  return (registry, q)

/-- What a request gives for which the registry is asked, unless it fails before. -/
def consulted (s : Service) (now : DateTime) (asked : Written (TokenRegistry × TokenLife.Request)) :
    Written Reply × KeyValue :=
  match asked.outcome with
  | .error f => (⟨.error f, asked.headers⟩, s.store)
  | .ok (registry, q) =>
    (⟨reply (q.answer registry s.store now).1, asked.headers⟩, (q.answer registry s.store now).2)

/-- The routes to tokens differ in what they ask of the registry, and in its answers only. -/
theorem perform_of_target (h : a.target? = some username) :
    s.perform r body now a = s.consulted now (s.asked r body now username a) := by
  cases a with
  | listTokens u =>
    obtain rfl := Option.some.inj h
    simp only [perform, listTokens, asked]
    rcases s.owner r now u with ⟨f | o, headers⟩
    · rfl
    · rcases s.registry with f | registry
      · rfl
      · show _ = ((⟨reply (.listed (registry.list s.store (.int o.id) now)), headers ++ []⟩ :
          Written Reply), s.store)
        rw [Written.ok_bind, Written.lift_bind_of_ok rfl]
        cases registry.list s.store (.int o.id) now <;> rfl
  | createToken u =>
    obtain rfl := Option.some.inj h
    simp only [perform, createToken, asked]
    rcases s.owner r now u with ⟨f | o, headers⟩
    · rfl
    · rcases s.registry with f | registry
      · rfl
      · simp only [Action.ask, bind, Except.bind]
        cases requireBody body TokenRequest.read <;> rfl
  | pruneTokens u =>
    obtain rfl := Option.some.inj h
    simp only [perform, pruneTokens, asked]
    rcases s.owner r now u with ⟨f | o, headers⟩
    · rfl
    · cases s.registry <;> rfl
  | deleteToken u token =>
    obtain rfl := Option.some.inj h
    simp only [perform, deleteToken, asked]
    rcases s.owner r now u with ⟨f | o, headers⟩
    · rfl
    · cases s.registry <;> rfl
  | _ => cases h

/-- The body that an action is given. -/
def givenBody (s : Service) (a : Action) (r : Request) : Except Fault (Option Json) :=
  if takesBody a then readBody s.framework r else .ok none

theorem run_eq (s : Service) (r : Request) (now : DateTime) (a : Action) :
    s.run r now a = match s.givenBody a r with
      | .error f => (.ofExcept (.error f), s.store)
      | .ok body => s.perform r body now a := by
  unfold run givenBody
  split <;> rfl

theorem owner_eq_ok {o : User} : (s.owner r now username).outcome = .ok o ↔
    ∃ u, (s.caller r now).outcome = .ok u ∧ tokenOwner u s.directory username = .ok o := by
  simp only [owner, Written.outcome_bind, Written.outcome_liftM, bind_eq_ok]

theorem asked_eq_ok {p : TokenRegistry × TokenLife.Request} :
    (s.asked r body now username a).outcome = .ok p ↔ ∃ o,
      (s.owner r now username).outcome = .ok o ∧ s.registry = .ok p.1 ∧ a.ask o body = .ok p.2 := by
  obtain ⟨registry, q⟩ := p
  simp only [asked, Written.outcome_bind, Written.outcome_liftM, Written.outcome_pure, bind_eq_ok]
  constructor
  · rintro ⟨o, howner, registry', hregistry, q', hq, hpair⟩
    obtain ⟨rfl, rfl⟩ := Prod.mk.inj (Except.ok.inj hpair)
    exact ⟨o, howner, hregistry, hq⟩
  · rintro ⟨o, howner, hregistry, hq⟩
    exact ⟨o, howner, registry, hregistry, q, hq, rfl⟩

omit [Platform] in
theorem owner_of_ask {o : User} {q : TokenLife.Request} (h : a.ask o body = .ok q) :
    q.owner = o.id := by
  cases a with
  | createToken u =>
    obtain ⟨request, -, h⟩ := bind_eq_ok.1 h
    obtain rfl := Except.ok.inj h
    rfl
  | _ =>
    obtain rfl := Except.ok.inj h
    rfl

omit [Platform] in
theorem fails_of_reply {x : Answer} {f : Fault} (h : reply x = .error f) : x.Fails := by
  cases x with
  | created outcome => exact ⟨f, map_eq_error.1 h⟩
  | revoked outcome => exact ⟨f, map_eq_error.1 h⟩
  | pruned outcome => exact ⟨f, map_eq_error.1 h⟩
  | listed outcome => exact ⟨f, map_eq_error.1 h⟩

/-- How a request for tokens ends: it fails before the registry is asked, or with the answer of the
registry to something that is asked for the owner of the tokens. -/
inductive Consults (s : Service) (r : Request) (now : DateTime) (username : String) (a : Action)
    (result : Written Reply × KeyValue) : Prop where
  | before {f : Fault} (hout : result.1.outcome = .error f) (hstore : result.2 = s.store)
  | answered {o : User} {registry : TokenRegistry} {q : TokenLife.Request} {body : Option Json}
      (howner : (s.owner r now username).outcome = .ok o) (hregistry : s.registry = .ok registry)
      (hask : a.ask o body = .ok q)
      (hout : result.1.outcome = reply (q.answer registry s.store now).1)
      (hstore : result.2 = (q.answer registry s.store now).2) : Consults s r now username a result

theorem consults_run (h : a.target? = some username) :
    Consults s r now username a (s.run r now a) := by
  rw [run_eq]
  split
  · exact .before rfl rfl
  · next body _ =>
    rw [perform_of_target h, consulted]
    split
    · exact .before rfl rfl
    · next registry q hasked =>
      obtain ⟨o, howner, hregistry, hask⟩ := asked_eq_ok.1 hasked
      exact .answered howner hregistry hask rfl rfl

/-- What is found to be asked of the registry is answered by it. -/
theorem run_of_asked (h : a.target? = some username) (hbody : s.givenBody a r = .ok body)
    {registry : TokenRegistry} {q : TokenLife.Request}
    (hasked : (s.asked r body now username a).outcome = .ok (registry, q)) :
    (s.run r now a).1.outcome = reply (q.answer registry s.store now).1 ∧
      (s.run r now a).2 = (q.answer registry s.store now).2 := by
  rw [run_eq, hbody]
  dsimp only
  rw [perform_of_target h, consulted, hasked]
  exact ⟨rfl, rfl⟩

/-- A request for tokens changes the record of their owner at most, and nothing where it fails. -/
theorem Consults.confined {result : Written Reply × KeyValue}
    (h : Consults s r now username a result) :
    result.2 = s.store ∨ ∃ o, (s.owner r now username).outcome = .ok o ∧
      s.store.Confined result.2 (Settings.key (.int o.id) Settings.tokensName)
        (∃ f, result.1.outcome = .error f) := by
  cases h with
  | before hout hstore => exact .inl hstore
  | @answered o registry q body howner hregistry hask hout hstore =>
    refine .inr ⟨o, howner, ?_⟩
    have hconfined := q.confined_answer registry s.store now
    rw [owner_of_ask hask, ← hstore] at hconfined
    refine hconfined.mono ?_
    rintro ⟨f, hf⟩
    exact fails_of_reply (hout.symm.trans hf)

end Service
end Gatehouse.Http
