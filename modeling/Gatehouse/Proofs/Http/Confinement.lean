import Gatehouse.Proofs.Http.Untouched
import Gatehouse.Proofs.PersonalToken.Ownership

/-!
Whose records a request changes. The routes to tokens look up the owner whom the path names, and
work on the record of this user only, also where the caller is another one: `keepsTo_of_target`.
With the frame of single operations this is `operations_confined`.
-/
namespace Gatehouse

namespace Directory
variable {d : Directory} {u : User}

theorem id_mem_insert {us : List User} {id : Int} (h : id ∈ (insert u us).map User.id) :
    id = u.id ∨ id ∈ us.map User.id := by
  induction us with
  | nil => exact .inl (by simpa [insert] using h)
  | cons v rest ih =>
    rw [insert] at h
    split at h
    · obtain rfl | h := List.mem_cons.1 h
      · exact .inl rfl
      · exact .inr (List.mem_cons_of_mem _ h)
    · obtain rfl | h := List.mem_cons.1 h
      · exact .inr (List.mem_cons_self ..)
      · exact (ih h).imp_right (List.mem_cons_of_mem _)

theorem nodup_insert {us : List User} (h : (us.map User.id).Nodup) :
    ((insert u us).map User.id).Nodup := by
  induction us with
  | nil => exact List.nodup_singleton _
  | cons v rest ih =>
    obtain ⟨hv, hrest⟩ := List.nodup_cons.1 h
    rw [insert]
    split
    · next hid => exact List.nodup_cons.2 ⟨hid ▸ hv, hrest⟩
    · next hid =>
      exact List.nodup_cons.2 ⟨fun hmem => (id_mem_insert hmem).elim hid hv, ih hrest⟩

/-- A directory that is made of users has each number once. -/
theorem nodup_ofList (us : List User) : ((ofList us).users.map User.id).Nodup := by
  have hadds (us : List User) (d : Directory) (h : (d.users.map User.id).Nodup) :
      ((us.foldl add d).users.map User.id).Nodup := by
    induction us generalizing d with
    | nil => exact h
    | cons u us ih => exact ih (d.add u) (nodup_insert h)
  exact hadds us ⟨[], none⟩ List.nodup_nil

end Directory

/-- Callers act for themselves under their own name, and else for the user whom the name means. -/
theorem tokenOwner_eq_ok {u o : User} {d : Directory} {username : String}
    (h : tokenOwner u d username = .ok o) :
    o.username = username ∧ (o = u ∨ u.username ≠ username ∧ o ∈ d.users) := by
  unfold tokenOwner at h
  split at h
  · next hown =>
    split at h
    · obtain rfl := Except.ok.inj h
      exact ⟨hown, .inl rfl⟩
    · cases h
  · next hother =>
    split at h
    · obtain ⟨hmem, hname⟩ := Directory.of_byUsername h
      exact ⟨hname, .inr ⟨hother, hmem⟩⟩
    · cases h

section
variable [Platform]

/-- Whoever sends a request is found under a number, and active. -/
theorem byId_of_authenticate {m : SessionManager} {r : TokenRegistry} {d : Directory} {s : KeyValue}
    {c : Credentials} {now : DateTime} {u : User}
    (h : (authenticate m r d s c now).outcome = .ok u) :
    d.byId u.id = .ok u ∧ u.isActive = true := by
  have hnames {id : Int} (hknown : d.byId id = .ok u) : d.byId u.id = .ok u := by
    rwa [(Directory.of_byId hknown).2]
  cases identifies_of_authenticate h with
  | token _ _ _ _ _ _ _ hknown hactive => exact ⟨hnames hknown, hactive⟩
  | session _ _ hclaims =>
    obtain ⟨id, -, hknown, hactive⟩ := hclaims
    exact ⟨hnames hknown, hactive⟩

namespace TokenRegistry
open Settings

/-- A token was issued to a user: it is signed for the number of this user, and its record stands
behind those that the user had. -/
structure IssuedTo (r : TokenRegistry) (s s' : KeyValue) (o : User) (view : TokenView) : Prop where
  signed : ∃ c, r.signer.Personal view.token c ∧ c.principal = o.username ∧
    c.subject = Json.plainText (.int o.id) ∧ c.userId = .ok o.id
  kept : ∃ records, Reads (s.othersUntil s') (.int o.id) records ∧
    Holds s' (.int o.id) (records ++ [⟨view.token, view.description⟩])

theorem issuedTo_of_create {r : TokenRegistry} {s : KeyValue} {o : User} {description : Json}
    {expiresAt : Option DateTime} {now : DateTime} {view : TokenView}
    (h : (r.create s (.text o.username) (.int o.id) description expiresAt now).1 = .ok view) :
    r.IssuedTo s (r.create s (.text o.username) (.int o.id) description expiresAt now).2 o
      view := by
  obtain ⟨kept, hprepare⟩ := prepare_of_create h
  obtain ⟨rfl, c, hclaims, hpersonal, hid, -⟩ := personal_of_prepare hprepare
  obtain ⟨n, helapsed, hamends⟩ := r.amends_create s (.int o.id) now (.text o.username) description
    expiresAt
  refine ⟨⟨c, hpersonal, by rw [hclaims]; rfl, by rw [hclaims]; rfl, hid⟩, ?_⟩
  rw [helapsed.othersUntil]
  rw [h] at hamends
  cases hamends with
  | rewritten hreads hchange ht =>
    obtain ⟨p, hp, rfl⟩ := map_eq_ok.1 hchange
    obtain rfl := Except.ok.inj (hprepare.symm.trans hp)
    exact ⟨_, hreads, ht.holds⟩

end TokenRegistry

namespace Http
open Number TokenLife Settings

namespace Service
variable {s : Service} {r : Request} {now : DateTime} {a : Action} {username : String} {u o : User}

theorem byId_of_caller (h : (s.caller r now).outcome = .ok u) :
    s.directory.byId u.id = .ok u ∧ u.isActive = true := by
  simp only [caller, Written.outcome_bind, bind_eq_ok] at h
  obtain ⟨m, -, registry, -, h⟩ := h
  exact byId_of_authenticate h

/-- While numbers of users are unique, who acts for a user of another name has another number. -/
theorem id_ne_of_owner (hids : (s.directory.users.map User.id).Nodup)
    (hcaller : (s.caller r now).outcome = .ok u)
    (howner : tokenOwner u s.directory username = .ok o) (hother : u.username ≠ username) :
    u.id ≠ o.id := by
  intro hid
  obtain ⟨hname, rfl | ⟨-, hmem⟩⟩ := tokenOwner_eq_ok howner
  · exact hother hname
  · have hcallerMem := (Directory.of_byId (byId_of_caller hcaller).1).1
    exact hother ((congrArg User.username
      (List.inj_on_of_nodup_map hids hcallerMem hmem hid)).trans hname)

/-- What a request about the tokens under a user name does to the store: nothing, if nobody may be
acted for; and else it keeps to the record of the owner of this name. A caller of another name keeps
the own record, and a token that is issued is the owner's. -/
inductive KeepsTo (s : Service) (r : Request) (now : DateTime) (username : String)
    (response : Response) (after : KeyValue) : Prop where
  | nobody {f : Fault} (howner : (s.owner r now username).outcome = .error f)
      (hstore : after = s.store)
  | somebody {u o : User} (hcaller : (s.caller r now).outcome = .ok u)
      (howner : tokenOwner u s.directory username = .ok o) (hname : o.username = username)
      (hspared : ∀ v k, (o.id, tokensName) ≠ (v, k) → Spared s.store after (.int v) k)
      (hcallers : u.username ≠ username → (s.directory.users.map User.id).Nodup →
        ∀ k, Spared s.store after (.int u.id) k)
      (hissued : response.status = 201 → ∃ registry view, s.registry = .ok registry ∧
        response.content = .json view.toJson ∧ registry.IssuedTo s.store after o view) :
      KeepsTo s r now username response after

/-- Of the routes to tokens only the one that creates answers with 201. -/
theorem issued_of_consults {result : Written Reply × KeyValue}
    (h : Consults s r now username a result) (howner : (s.owner r now username).outcome = .ok o)
    {rep : Reply} (hout : result.1.outcome = .ok rep) (hstatus : rep.status = 201) :
    ∃ registry view, s.registry = .ok registry ∧ rep.value = view.toJson ∧
      registry.IssuedTo s.store result.2 o view := by
  cases h with
  | before hfault => cases hfault.symm.trans hout
  | @answered o' registry q body howner' hregistry hask hanswer hstore =>
    obtain rfl := Except.ok.inj (howner.symm.trans howner')
    have hreply := hanswer.symm.trans hout
    cases a with
    | createToken name =>
      obtain ⟨request, -, hq⟩ := bind_eq_ok.1 hask
      obtain rfl := Except.ok.inj hq
      obtain ⟨view, hview, rfl⟩ := map_eq_ok.1 hreply
      rw [hstore]
      exact ⟨registry, view, hregistry, rfl, TokenRegistry.issuedTo_of_create hview⟩
    | _ =>
      obtain rfl := Except.ok.inj hask
      obtain ⟨x, -, rfl⟩ := map_eq_ok.1 hreply
      cases hstatus

/-- The routes to tokens keep to the record of the owner whom the path names. -/
theorem keepsTo_of_target (htarget : a.target? = some username) {response : Response}
    (hanswers : Answers s r now a response) :
    KeepsTo s r now username response (s.run r now a).2 := by
  have hconsults : Consults s r now username a (s.run r now a) := consults_run htarget
  cases howner : (s.owner r now username).outcome with
  | error f =>
    obtain hstore | ⟨o, ho, -⟩ := hconsults.confined
    · exact .nobody howner hstore
    · cases howner.symm.trans ho
  | ok o =>
    obtain ⟨u, hcaller, htokenOwner⟩ := owner_eq_ok.1 howner
    have hspared : ∀ v k, (o.id, tokensName) ≠ (v, k) →
        Spared s.store (s.run r now a).2 (.int v) k := by
      intro v k hne
      obtain hstore | ⟨o', ho', hconfined⟩ := hconsults.confined
      · rw [hstore]
        exact .refl _ _ _
      · obtain rfl := Except.ok.inj (howner.symm.trans ho')
        refine spared_of_confined hconfined fun hkey => hne ?_
        obtain ⟨rfl, rfl⟩ := key_int_inj.1 hkey
        rfl
    refine .somebody hcaller htokenOwner (tokenOwner_eq_ok htokenOwner).1 hspared ?_ ?_
    · intro hother hids k
      apply hspared
      intro hkey
      exact id_ne_of_owner hids hcaller htokenOwner hother (Prod.mk.inj hkey).1.symm
    · intro hstatus
      cases hanswers with
      | done h _ _ hdone _ hcontent =>
        obtain ⟨registry, view, hregistry, hvalue, hissued⟩ :=
          issued_of_consults hconsults howner h (hdone.symm.trans hstatus)
        exact ⟨registry, view, hregistry, by rw [hcontent, hvalue], hissued⟩
      | refused _ _ hrefused => cases hrefused.symm.trans hstatus
      | failed _ hfailed => omega

end Service

/-- Operations stay inside their own setting. Every run of operations spares the settings that none
of them is on, whatever the numbers and the names are; and a route to tokens keeps to the record of
the owner whom the path names. -/
theorem operations_confined :
    (∀ (ops : List Operation) (s : KeyValue) (v : Int) (k : String),
      (∀ op ∈ ops, op.setting ≠ (v, k)) → Spared s (Operation.run s ops) (.int v) k) ∧
    ∀ (s : Service) (r : Request) (now : DateTime) (elapsed : Binary64) (route : Route) (a : Action)
      (username : String), resolve r.method r.path = .found route a → a.target? = some username →
      ∃ response, (exchange s r now elapsed).1.response = .ok response ∧
        s.KeepsTo r now username response (exchange s r now elapsed).2 := by
  refine ⟨fun ops s v k h => Operation.spared_run ops s h, ?_⟩
  intro s r now elapsed route a username hfound htarget
  obtain ⟨response, hresponse, hanswers⟩ := answers_of_found s now hfound elapsed
  rw [store_of_found hfound]
  exact ⟨response, hresponse, Service.keepsTo_of_target htarget hanswers⟩

end Http

end

/-! ### A token of the caller's own -/

namespace Http
open Number TokenLife Settings

section
attribute [local instance] Platform.standard

/-- A token that a user asks for is issued to this user, and other users keep their settings. -/
theorem operations_confined_sample : ∃ token,
    Signer.sample.sign (samplePersonal "7") = .ok token ∧
    ∃ response view, (exchange (sampleWorld token [] []) (sampleAsking "localhost" token)
        ⟨0, some 0⟩ (.ofInt 0)).1.response = .ok response ∧
      response.content = .json view.toJson ∧
      worldRegistry.IssuedTo (sampleWorld token [] []).store (exchange (sampleWorld token [] [])
        (sampleAsking "localhost" token) ⟨0, some 0⟩ (.ofInt 0)).2 regularUser view ∧
      Spared (sampleWorld token [] []).store (exchange (sampleWorld token [] [])
        (sampleAsking "localhost" token) ⟨0, some 0⟩ (.ofInt 0)).2 (.int 8) tokensName := by
  obtain ⟨token, hsigned, hverify⟩ := exists_sign_samplePersonal "7"
  have hfound := resolve_sampleAsking "localhost" token
  obtain ⟨response, hresponse, hkeeps⟩ := operations_confined.2 (sampleWorld token [] [])
    (sampleAsking "localhost" token) ⟨0, some 0⟩ (.ofInt 0) _ _ "ann" hfound rfl
  obtain ⟨response', hresponse', hanswers⟩ :=
    answers_of_found (sampleWorld token [] []) ⟨0, some 0⟩ hfound (.ofInt 0)
  obtain rfl := Except.ok.inj (hresponse.symm.trans hresponse')
  obtain ⟨kept, view, hout, -⟩ := run_sampleAsking hsigned hverify "localhost"
  have hpath : (sampleWorld token [] []).framework.addressPath (sampleAsking "localhost" token) =
      .ok "/v1/users/ann/access-tokens" :=
    (addressPath_sampleAsking "localhost" token).trans rfl
  obtain ⟨hstatus, -⟩ :=
    hanswers.done_of_ok hout (Service.checkWritable_of_run rfl hout) hpath
  have hcaller :=
    caller_sampleWorld hsigned hverify (headers_sampleAsking "localhost" token).2.2 [] []
  cases hkeeps with
  | nobody howner =>
    cases howner.symm.trans (Service.owner_eq_ok.2 ⟨_, hcaller, rfl⟩)
  | somebody hcaller' howner _ hspared _ hissued =>
    obtain rfl := Except.ok.inj (hcaller.symm.trans hcaller')
    obtain rfl := Except.ok.inj howner
    obtain ⟨registry, view', hregistry, hcontent', hissued⟩ := hissued hstatus
    obtain rfl := Except.ok.inj ((registry_sampleWorld token [] []).symm.trans hregistry)
    refine ⟨token, hsigned.sign, response, view', hresponse, hcontent', hissued, hspared 8 _ ?_⟩
    intro hsame
    cases (Prod.mk.inj hsame).1

end

end Http
end Gatehouse
