import Gatehouse.Auth.Authenticate

/-!
What a request needs that shows a token in its `Authorization` header: `authenticate_bearer` leads
to the look-ups of `authenticateToken_eq_ok`.
-/
namespace Gatehouse
open Text

/-- The word before a token is taken away, and no more. -/
theorem bearerToken_bearer {token : String} (h : trim isBlank token.toList = token.toList) :
    bearerToken ("Bearer " ++ token) = token := by
  have hword : "Bearer ".toList = ['B', 'e', 'a', 'r', 'e', 'r', ' '] := by decide
  have hlower : lower ("Bearer ".toList ++ token.toList) =
      "bearer ".toList ++ lower token.toList := by
    rw [lower, List.flatMap_append]
    rfl
  simp only [bearerToken, String.toList_append, hlower, stripPrefix?_append, Option.isSome_some,
    if_true]
  rw [hword]
  simp only [List.cons_append, List.nil_append, List.drop_succ_cons, List.drop_zero, h,
    String.ofList_toList]

namespace Directory
variable {d : Directory} {u : User}

theorem found_eq_ok {user : Option User} {missing : Fault} :
    d.found user missing = .ok u ↔ d.failure = none ∧ user = some u := by
  unfold found
  cases d.failure with
  | some f => simp
  | none => cases user <;> simp

theorem of_byId {id : Int} (h : d.byId id = .ok u) : u ∈ d.users ∧ u.id = id := by
  obtain ⟨-, hfind⟩ := found_eq_ok.1 h
  exact ⟨List.mem_of_find?_eq_some hfind, by simpa using List.find?_some hfind⟩

theorem of_byUsername {name : String} (h : d.byUsername name = .ok u) :
    u ∈ d.users ∧ u.username = name := by
  obtain ⟨-, hfind⟩ := found_eq_ok.1 h
  exact ⟨List.mem_of_find?_eq_some hfind, by simpa using List.find?_some hfind⟩

end Directory

theorem activeUser_eq_ok {d : Directory} {c : Claims} {id : Int} (hid : c.userId = .ok id)
    {u : User} : activeUser d c = .ok u ↔ d.byId id = .ok u ∧ u.isActive = true := by
  simp only [activeUser, hid, Except.bind]
  cases d.byId id with
  | error f => simp
  | ok v =>
    by_cases hv : v.isActive = true
    · simp only [hv, if_true, Except.ok.injEq]
      constructor
      · rintro rfl
        exact ⟨rfl, hv⟩
      · exact And.left
    · simp only [hv, Bool.false_eq_true, if_false, reduceCtorEq, Except.ok.injEq, false_iff]
      rintro ⟨rfl, hu⟩
      exact hv hu

variable [Platform]

theorem authenticateToken_eq_ok {r : TokenRegistry} {d : Directory} {s : KeyValue}
    {header : String} {now : DateTime} {u : User} :
    authenticateToken r d s header now = .ok u ↔ ∃ c id,
      r.signer.verify (.text (bearerToken header)) (some .personalAccess) now = .ok c ∧
      c.userId = .ok id ∧ TokenRegistry.contains s (.int id) (bearerToken header) = .ok true ∧
      d.byId id = .ok u ∧ u.isActive = true := by
  simp only [authenticateToken, bind_eq_ok]
  constructor
  · rintro ⟨c, hc, id, hid, known, hknown, h⟩
    cases known with
    | false => cases h
    | true => exact ⟨c, id, hc, hid, hknown, (activeUser_eq_ok hid).1 h⟩
  · rintro ⟨c, id, hc, hid, hknown, h⟩
    exact ⟨c, hc, id, hid, true, hknown, (activeUser_eq_ok hid).2 h⟩

/-- A token in the header decides, and no cookie is looked at. -/
theorem authenticate_bearer (m : SessionManager) (r : TokenRegistry) (d : Directory)
    (s : KeyValue) (token : String) (cookies : List String) (now : DateTime) :
    (authenticate m r d s ⟨some ("Bearer " ++ token), cookies⟩ now).outcome =
      authenticateToken r d s ("Bearer " ++ token) now := by
  have hheader : "Bearer " ++ token ≠ "" := by
    intro he
    have hl := congrArg String.toList he
    simp at hl
  simp only [authenticate, if_neg hheader, Written.ofExcept]

end Gatehouse
