import Gatehouse.Account.User
import Gatehouse.Proofs.Session.Issue

/-!
What the headers of a session tell the browser. Ending a session clears both cookies, starting one
sets both to tokens that are made for it, and renewing one sets the access cookie alone. No headers
do two of these: the first two are of two headers, and only cleared cookies are empty.
-/
namespace Gatehouse

/-- The header sets the cookie to an empty value, with an end that has passed. -/
def SetCookie.Empties (name : String) (now : DateTime) (header : String) : Prop :=
  ∃ kept, read header = some (name, kept) ∧ Cookie.unquote kept.value.toList = [] ∧
    kept.ends.instant < now.instant

/-- The header sets the cookie, until a time to the second, to a token that is made now. -/
def SetCookie.Brings [Platform] (i : Issuer) (principal subject : Json) (audience : Audience)
    (life : Int) (now : DateTime) (name : String) (e : DateTime) (header : String) : Prop :=
  ∃ t c, read header = some (name, ⟨t, ⟨e.instant / second * second, some 0⟩⟩) ∧
    i.Issued principal subject audience life now t c

/-- The headers make the browser drop both session cookies, and nothing else. -/
def CookieConfig.Clears (c : CookieConfig) (now : DateTime) (headers : List String) : Prop :=
  ∃ access refresh, headers = [access, refresh] ∧ SetCookie.Empties c.accessName now access ∧
    SetCookie.Empties c.refreshName now refresh

/-- The headers set the access cookie, and nothing else. -/
def CookieConfig.SetsAccess (c : CookieConfig) (headers : List String) : Prop :=
  ∃ header kept, headers = [header] ∧ SetCookie.read header = some (c.accessName, kept)

namespace SessionManager
variable [Platform]

/-- The headers set both session cookies to tokens that are made now for a user. -/
def Starts (m : SessionManager) (u : User) (now : DateTime) (headers : List String) : Prop :=
  ∃ e access refresh, m.cookieExpiry now = .ok e ∧ headers = [access, refresh] ∧
    SetCookie.Brings m.issuer (.text u.username) (.int u.id) .sessionAccess m.issuer.accessLife now
      m.cookies.accessName e access ∧
    SetCookie.Brings m.issuer (.text u.username) (.int u.id) .sessionRefresh m.issuer.refreshLife
      now m.cookies.refreshName e refresh

/-- The headers set the access cookie to a token that is made now for the subject of the claims. -/
def Renews (m : SessionManager) (c : Claims) (now : DateTime) (headers : List String) : Prop :=
  ∃ e header, m.renewedExpiry c now = .ok e ∧ headers = [header] ∧
    SetCookie.Brings m.issuer (.text c.principal) (.text c.subject) .sessionAccess
      m.issuer.accessLife now m.cookies.accessName e header

end SessionManager

section
variable {i : Issuer} {principal subject : Json} {audience : Audience} {life : Int}
  {cookies : CookieConfig} {m : SessionManager} {u : User} {c : Claims} {now e : DateTime}
  {name t header : String} {secure : Bool} {headers : List String}

theorem SetCookie.empties_of_write {past : DateTime} (hpast : now.shift (-clearedBefore) = .ok past)
    (h : Cookie.write name "" past secure = .ok header) : Empties name now header := by
  have hempty : Cookie.unquote "\"\"".toList = [] := by decide
  refine ⟨_, Cookie.read_of_write_empty h, hempty, ?_⟩
  have hshift := DateTime.instant_of_shift hpast
  have hfloor : past.instant / second * second ≤ past.instant :=
    Int.ediv_mul_le _ (by decide)
  have hpos : 0 < clearedBefore := by decide
  simp only [DateTime.instant, Option.getD_some, Int.sub_zero] at hshift hfloor ⊢
  omega

theorem clears_of_clearSession (h : clearSession cookies now = ⟨.ok (), headers⟩) :
    cookies.Clears now headers := by
  simp only [clearSession, setTokenCookie, Written.lift_bind_eq_ok, Written.header_bind_eq_ok,
    Written.header_eq_ok] at h
  obtain ⟨past, hpast, access, rest, haccess, ⟨refresh, hrefresh, rfl⟩, rfl⟩ := h
  exact ⟨access, refresh, rfl, SetCookie.empties_of_write hpast haccess,
    SetCookie.empties_of_write hpast hrefresh⟩

variable [Platform]

theorem SetCookie.brings_of_write (hissued : i.Issued principal subject audience life now t c)
    (h : Cookie.write name t e secure = .ok header) :
    Brings i principal subject audience life now name e header :=
  ⟨t, c, Cookie.read_of_write (Cookie.plainText_of_sign hissued.signed.sign) h, hissued⟩

/-- A token is not empty, so a cookie is not both emptied and brought. -/
theorem SetCookie.Brings.not_empties {name' : String}
    (h : Brings i principal subject audience life now name e header) :
    ¬ Empties name' now header := by
  obtain ⟨t, c, hread, hissued⟩ := h
  rintro ⟨kept, hkept, hempty, -⟩
  have hplain := Cookie.plainText_of_sign hissued.signed.sign
  obtain ⟨-, rfl⟩ := Prod.mk.inj (Option.some.inj (hread.symm.trans hkept))
  rw [hplain.unquote] at hempty
  exact hplain.ne_empty hempty

namespace SessionManager

theorem starts_of_establish {tokens : SessionTokens}
    (h : m.establish (.text u.username) (.int u.id) now = ⟨.ok tokens, headers⟩) :
    m.Starts u now headers := by
  obtain ⟨haccess, hrefresh, he, access, refresh, hwriteA, hwriteR, rfl⟩ := establish_eq_ok.1 h
  obtain ⟨a, ha⟩ := Issuer.issued_of_sessionAccess haccess
  obtain ⟨r, hr⟩ := Issuer.issued_of_sessionRefresh hrefresh
  exact ⟨_, access, refresh, he, rfl, SetCookie.brings_of_write ha hwriteA,
    SetCookie.brings_of_write hr hwriteR⟩

theorem renews_of_renew (h : m.renew c now = ⟨.ok t, headers⟩) : m.Renews c now headers := by
  obtain ⟨hissue, e, header, he, hwrite, rfl⟩ := renew_eq_ok.1 h
  obtain ⟨a, ha⟩ := Issuer.issued_of_sessionAccess hissue
  exact ⟨e, header, he, rfl, SetCookie.brings_of_write ha hwrite⟩

theorem Renews.setsAccess (h : m.Renews c now headers) : m.cookies.SetsAccess headers := by
  obtain ⟨e, header, -, rfl, t, a, hread, -⟩ := h
  exact ⟨header, _, rfl, hread⟩

theorem Starts.not_clears (h : m.Starts u now headers) : ¬ cookies.Clears now headers := by
  obtain ⟨e, access, refresh, -, rfl, haccess, -⟩ := h
  rintro ⟨access', refresh', hheaders, hempty, -⟩
  obtain ⟨rfl, -⟩ := List.cons.inj hheaders
  exact haccess.not_empties hempty

end SessionManager

end
end Gatehouse
