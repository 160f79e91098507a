import Mathlib.Data.List.Nodup

/-! # Cookies in a user agent

What RFC 6265 has a user agent do with the `Set-Cookie` headers of one host: how a cookie is
stored, replaced and evicted, and to which paths of the host it is sent.  Times are in
milliseconds.
-/

namespace StoreSaas.Cookies

/-- The path of a request. -/
structure UriPath where
  chars : List Char
  absolute : chars.head? = some '/'

/-- `request-path` path-matches `cookie-path`. -/
def pathMatch (requestPath cookiePath : List Char) : Bool :=
  requestPath = cookiePath ||
    (cookiePath.isPrefixOf requestPath &&
      (cookiePath.getLast? = some '/' || (requestPath.drop cookiePath.length).head? = some '/'))

theorem pathMatch_root (path : UriPath) : pathMatch path.chars ['/'] = true := by
  obtain ⟨chars, absolute⟩ := path
  cases chars with
  | nil => cases absolute
  | cons first rest =>
    cases absolute
    simp [pathMatch]

/-- A cookie path without a slash at its end matches itself and what lies below it. -/
theorem pathMatch_iff {requestPath cookiePath : List Char} (open_end : cookiePath.getLast? ≠ some '/') :
    pathMatch requestPath cookiePath = true ↔ requestPath = cookiePath ∨ cookiePath ++ ['/'] <+: requestPath := by
  simp only [pathMatch, open_end, decide_false, Bool.false_or, Bool.or_eq_true, decide_eq_true_iff, Bool.and_eq_true,
    List.isPrefixOf_iff_prefix]
  refine or_congr_right ⟨?_, ?_⟩
  · rintro ⟨⟨rest, rfl⟩, below⟩
    rw [List.drop_left] at below
    cases rest with
    | nil => cases below
    | cons first rest =>
      cases below
      exact ⟨rest, by simp⟩
  · rintro ⟨rest, rfl⟩
    rw [List.append_assoc, List.drop_left]
    exact ⟨List.prefix_append _ _, rfl⟩

variable {Value : Type}

/-- A `Set-Cookie` header; `maxAge` is in seconds. -/
structure SetCookie (Value : Type) where
  name : String
  value : Value
  path : List Char
  maxAge : Option Int
  expires : Option Nat
  secure : Bool
  httpOnly : Bool
  deriving DecidableEq

structure Cookie (Value : Type) where
  name : String
  value : Value
  path : List Char
  /-- None for a cookie of the session. -/
  expiry : Option Nat
  secureOnly : Bool
  httpOnly : Bool
  deriving DecidableEq

/-- A cookie takes the place of one with the same name and path. -/
def Cookie.key (cookie : Cookie Value) : String × List Char := (cookie.name, cookie.path)

def Cookie.isExpired (now : Nat) (cookie : Cookie Value) : Bool := cookie.expiry.any fun expiry => expiry ≤ now

namespace SetCookie

def key (header : SetCookie Value) : String × List Char := (header.name, header.path)

/-- `Max-Age` goes before `Expires`; where it is not positive, the expiry is the earliest time there is. -/
def expiry (now : Nat) (header : SetCookie Value) : Option Nat :=
  (header.maxAge.map fun seconds => if seconds ≤ 0 then 0 else now + seconds.toNat * 1000) <|> header.expires

def cookie (now : Nat) (header : SetCookie Value) : Cookie Value :=
  ⟨header.name, header.value, header.path, header.expiry now, header.secure, header.httpOnly⟩

end SetCookie

/-- The cookies of one host. -/
abbrev Jar (Value : Type) : Type := List (Cookie Value)

namespace Jar

def receive (now : Nat) (jar : Jar Value) (header : SetCookie Value) : Jar Value :=
  ((jar.filter fun cookie => cookie.key ≠ header.key) ++ [header.cookie now]).filter fun cookie => !cookie.isExpired now

def receiveAll (now : Nat) : Jar Value → List (SetCookie Value) → Jar Value
  | jar, [] => jar
  | jar, header :: rest => receiveAll now (receive now jar header) rest

/-- The cookies of a request; `https` says whether its protocol is secure. -/
def sent (now : Nat) (https : Bool) (path : List Char) (jar : Jar Value) : Jar Value :=
  jar.filter fun cookie => !cookie.isExpired now && (!cookie.secureOnly || https) && pathMatch path cookie.path

variable {now : Nat} {jar : Jar Value} {headers : List (SetCookie Value)}

theorem mem_receive {cookie : Cookie Value} {header : SetCookie Value} :
    cookie ∈ receive now jar header ↔
      ((cookie ∈ jar ∧ cookie.key ≠ header.key) ∨ cookie = header.cookie now) ∧ cookie.isExpired now = false := by
  simp only [receive, List.mem_filter, List.mem_append, List.mem_singleton, decide_eq_true_iff, Bool.not_eq_true']

theorem mem_sent {https : Bool} {path : List Char} {cookie : Cookie Value} :
    cookie ∈ sent now https path jar ↔
      cookie ∈ jar ∧ cookie.isExpired now = false ∧ (cookie.secureOnly = true → https = true) ∧
        pathMatch path cookie.path = true := by
  simp only [sent, List.mem_filter, Bool.and_eq_true, Bool.or_eq_true, Bool.not_eq_true', and_assoc]
  refine and_congr_right fun _ => and_congr_right fun _ => and_congr_left fun _ => ?_
  cases cookie.secureOnly <;> simp

/-- A cookie whose key no header has stays until it expires. -/
theorem mem_receiveAll_of_mem {cookie : Cookie Value} (stored : cookie ∈ jar) (alive : cookie.isExpired now = false)
    (apart : cookie.key ∉ headers.map SetCookie.key) : cookie ∈ receiveAll now jar headers := by
  induction headers generalizing jar with
  | nil => exact stored
  | cons header rest ih =>
    rw [List.map_cons, List.mem_cons, not_or] at apart
    exact ih (mem_receive.mpr ⟨.inl ⟨stored, apart.1⟩, alive⟩) apart.2

/-- Of headers with different keys, each stores its cookie. -/
theorem mem_receiveAll {header : SetCookie Value} (distinct : (headers.map SetCookie.key).Nodup)
    (received : header ∈ headers) (alive : (header.cookie now).isExpired now = false) :
    header.cookie now ∈ receiveAll now jar headers := by
  induction headers generalizing jar with
  | nil => cases received
  | cons first rest ih =>
    obtain ⟨apart, distinctRest⟩ := List.nodup_cons.mp distinct
    obtain rfl | later := List.mem_cons.mp received
    · have stored : header.cookie now ∈ receive now jar header := mem_receive.mpr ⟨.inr rfl, alive⟩
      change _ ∈ receiveAll now (receive now jar header) rest
      exact mem_receiveAll_of_mem stored alive apart
    · exact ih distinctRest later

/-- What is stored was stored before, or is the cookie of a header. -/
theorem mem_receiveAll_cases {cookie : Cookie Value} (stored : cookie ∈ receiveAll now jar headers) :
    (cookie ∈ jar ∧ cookie.key ∉ headers.map SetCookie.key) ∨
      ((∃ header ∈ headers, cookie = header.cookie now) ∧ cookie.isExpired now = false) := by
  induction headers generalizing jar with
  | nil => exact .inl ⟨stored, List.not_mem_nil⟩
  | cons header rest ih =>
    obtain ⟨kept, apart⟩ | ⟨⟨later, inRest, isLater⟩, alive⟩ := ih stored
    · obtain ⟨⟨before, differs⟩ | isNew, alive⟩ := mem_receive.mp kept
      · exact .inl ⟨before, by rw [List.map_cons, List.mem_cons, not_or]; exact ⟨differs, apart⟩⟩
      · exact .inr ⟨⟨header, List.mem_cons_self, isNew⟩, alive⟩
    · exact .inr ⟨⟨later, List.mem_cons_of_mem _ inRest, isLater⟩, alive⟩

end Jar

end StoreSaas.Cookies
