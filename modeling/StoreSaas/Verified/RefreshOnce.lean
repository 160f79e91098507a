import StoreSaas.Library.Transition
import StoreSaas.Services.ApiClient

/-! # One refresh, one retry

The runs of a page: any number of calls, any answers, and any order of what the network and
the event loop do.
-/

namespace StoreSaas.ApiClient

def Sent.isOwn (id : Nat) : Sent → Bool
  | own call _ => call = id
  | refresh _ _ => false

def Sent.isRefresh : Sent → Bool
  | own _ _ => false
  | refresh _ _ => true

/-- The call has a 401 before it. -/
def ApiCall.Sees401 (call : ApiCall) : Prop :=
  ∃ res, (call.state = .fetched (some res) ∨ call.state = .fetchedAgain (some res)) ∧ res.status = 401

/-- It has the 401 as the first of its answers, and is not told to leave it at that. -/
def ApiCall.Retries (call : ApiCall) : Prop :=
  (∃ res, call.state = .fetched (some res) ∧ res.status = 401) ∧ call.options.skipAuthRetry = false

namespace Page

abbrev Step (page : Page) (event : Event) (after : Page) : Prop := page.step event = some after

/-- How often a call has sent its request. -/
def sends (page : Page) (id : Nat) : Nat := page.wire.countP (Sent.isOwn id)

/-- How often `/auth/refresh` has been requested. -/
def posts (page : Page) : Nat := page.wire.countP Sent.isRefresh

/-- How often the refresh has been started. -/
def refreshes (page : Page) : Nat := page.refreshing.flights.length

/-- The request of this refresh is under way. -/
def Outstanding (page : Page) (promise : Nat) : Prop := page.refreshing.flights[promise]? = some .outstanding

/-- This refresh has come to an end. -/
def Settled (page : Page) (promise : Nat) (refreshed : Bool) : Prop :=
  page.refreshing.flights[promise]? = some (.landed refreshed)

/-- What this refresh has brought, or will bring once it has settled. -/
def Result (page : Page) (promise : Nat) (refreshed : Bool) : Prop :=
  page.refreshing.flights[promise]? = some (.answered refreshed) ∨ page.Settled promise refreshed

/-- What holds at every moment. -/
structure Coalesced (page : Page) : Prop where
  oneOutstanding : ∀ left right, page.Outstanding left → page.Outstanding right → left = right
  atMostTwice : ∀ id, page.sends id ≤ 2
  /-- A refresh that has settled stands in nobody's way. -/
  forgets : ∀ promise refreshed, page.Settled promise refreshed → page.refreshPromise ≠ some promise
  startsAnew : ∀ id call now, page.calls[id]? = some call → call.Retries → page.refreshPromise = none →
    ∃ after, page.Step (.resume id now) after ∧ after.refreshPromise = some page.refreshes ∧
      ∀ request, page.refreshRequest = .ok request →
        after.wire = page.wire ++ [.refresh page.refreshes request] ∧ after.Outstanding page.refreshes

/-- The call that has waited for a refresh goes on by what the refresh has brought. -/
structure Continues (page : Page) (id : Nat) (call : ApiCall) (res : Response) (refreshed : Bool) (now : String)
    (after : Page) : Prop where
  again : refreshed = true → ∀ request, call.request page.cookie = .ok request →
    after.wire = page.wire ++ [.own id request] ∧ after.calls[id]? = some { call with state := .fetchingAgain }
  /-- The request cannot be made: the cookie cannot be read any more. -/
  throws : refreshed = true → ∀ error, call.request page.cookie = .error error →
    after.wire = page.wire ∧ after.calls[id]? = some { call with state := .settled (.thrown error) }
  ends : refreshed = false →
    after.wire = page.wire ∧ after.calls[id]? = some { call with state := .settled (call.finish res now) }

/-- What every step does, where `concerned` are the calls that have to wait. -/
structure Coalesces (concerned : ApiCall → Prop) (page : Page) (event : Event) (after : Page) : Prop where
  joins : ∀ id call now promise, event = .resume id now → page.calls[id]? = some call → concerned call →
    page.Outstanding promise → ∃ res, after.calls[id]? = some { call with state := .awaitingRefresh res promise }
  getsResult : ∀ id call res promise, page.calls[id]? = some call → call.state = .awaitingRefresh res promise →
    after.calls[id]? = some call ∨
      ∃ refreshed now, event = .resume id now ∧ page.Settled promise refreshed ∧
        page.Continues id call res refreshed now after
  succeeds : ∀ promise, after.Result promise true →
    page.Result promise true ∨ ∃ res, event = .answerRefresh promise (some res) ∧ res.ok = true
  firstSend : ∀ id, page.sends id = 0 → after.sends id ≠ 0 →
    after.sends id = 1 ∧ ∃ path options, event = .apiFetch path options ∧ id = page.calls.length
  secondSend : ∀ id, page.sends id ≠ 0 → after.sends id ≠ page.sends id →
    page.sends id = 1 ∧ after.sends id = 2 ∧ ∃ now call res promise, event = .resume id now ∧
      page.calls[id]? = some call ∧ call.state = .awaitingRefresh res promise ∧ res.status = 401 ∧
      call.options.skipAuthRetry = false ∧ page.Settled promise true
  starts : (after.refreshes = page.refreshes ∧ after.posts = page.posts) ∨
    (after.refreshes = page.refreshes + 1 ∧ after.posts ≤ page.posts + 1 ∧ page.refreshPromise = none ∧
      ∃ id call now, event = .resume id now ∧ page.calls[id]? = some call ∧ call.Retries)
  clears : ∀ promise, event = .settleRefresh promise → after.refreshPromise = none

end Page

/-- In every run of the page the calls share one refresh, and repeat their request once. -/
def RefreshesOnce (concerned : ApiCall → Prop) : Prop :=
  ∀ cookie run, Transition.Run Page.Step (Page.opened cookie) run →
    Transition.EachState Page.Coalesced (Page.opened cookie) run ∧
      Transition.EachStep (Page.Coalesces concerned) (Page.opened cookie) run

/-! ## What the parts of a step do -/

namespace Page

variable {page after : Page} {id other : Nat} {call : ApiCall} {state : CallState} {now : String}

/-- Starting a refresh sends nobody's own request. -/
theorem sends_refreshAccessToken : page.refreshAccessToken.1.sends other = page.sends other := by
  have nothing : page.startRefresh.2.countP (Sent.isOwn other) = 0 := by
    unfold startRefresh
    cases page.refreshRequest with
    | ok request => rfl
    | error _ => rfl
  unfold sends refreshAccessToken
  rw [List.countP_append]
  cases page.refreshPromise with
  | none => exact congrArg (_ + ·) nothing
  | some _ => rfl

theorem startRefresh_aloft : page.startRefresh.1.isLanded = false := by
  unfold startRefresh
  cases page.refreshRequest with
  | ok request => rfl
  | error _ => rfl

/-- Nothing is sent while a promise is there to be shared. -/
theorem refreshAccessToken_shared {promise : Nat} (shared : page.refreshPromise = some promise) :
    page.refreshAccessToken = (page, promise) := by
  have joined : page.refreshing.join page.startRefresh.1 = (page.refreshing, promise) :=
    SharedFlight.join_current shared
  unfold refreshAccessToken
  rw [joined, shared]
  simp only [Option.isNone_some, Bool.false_eq_true, if_false, List.append_nil]

theorem refreshAccessToken_new (nobody : page.refreshPromise = none) :
    page.refreshAccessToken = ({ page with
      refreshing := ⟨page.refreshing.flights ++ [page.startRefresh.1], some page.refreshes⟩
      wire := page.wire ++ page.startRefresh.2 }, page.refreshes) := by
  unfold refreshAccessToken
  rw [SharedFlight.join_none nobody, nobody]
  rfl

/-- `doFetch` sends the request once, or throws. -/
theorem doFetch_cases (page : Page) (id : Nat) (call : ApiCall) (state : CallState) :
    (∃ request, call.request page.cookie = .ok request ∧
      page.doFetch id call state = { page.setState id call state with wire := page.wire ++ [.own id request] }) ∨
    ∃ error, call.request page.cookie = .error error ∧
      page.doFetch id call state = page.setState id call (.settled (.thrown error)) := by
  unfold doFetch
  cases request : call.request page.cookie with
  | ok sent => exact .inl ⟨sent, rfl, rfl⟩
  | error error => exact .inr ⟨error, rfl, rfl⟩

theorem countP_own (page : Page) (id other : Nat) (request : Request) :
    (page.wire ++ [Sent.own id request]).countP (Sent.isOwn other) =
      page.sends other + if id = other then 1 else 0 := by
  simp only [sends, List.countP_append, List.countP_singleton, Sent.isOwn, decide_eq_true_eq]

/-- The ways in which a call goes on. -/
inductive Resumed (page : Page) (id : Nat) (call : ApiCall) (now : String) : Page → Prop where
  | ends (outcome : Outcome) (idle : ∀ res promise, call.state ≠ .awaitingRefresh res promise)
      (done : ¬call.Retries) : Resumed page id call now (page.setState id call (.settled outcome))
  | asks (res : Response) (fetched : call.state = .fetched (some res)) (unauthorized : res.status = 401)
      (retries : call.options.skipAuthRetry = false) :
      Resumed page id call now
        (page.refreshAccessToken.1.setState id call (.awaitingRefresh res page.refreshAccessToken.2))
  | again (res : Response) (promise : Nat) (waits : call.state = .awaitingRefresh res promise)
      (refreshed : page.Settled promise true) : Resumed page id call now (page.doFetch id call .fetchingAgain)
  | refused (res : Response) (promise : Nat) (waits : call.state = .awaitingRefresh res promise)
      (refreshed : page.Settled promise false) :
      Resumed page id call now (page.setState id call (.settled (call.finish res now)))

theorem resumed (resumes : page.resume id call now = some after) : page.Resumed id call now after := by
  unfold resume at resumes
  split at resumes
  next fetched =>
    cases resumes
    exact .ends _ (by simp [fetched]) (by simp [ApiCall.Retries, fetched])
  next fetched =>
    cases resumes
    exact .ends _ (by simp [fetched]) (by simp [ApiCall.Retries, fetched])
  next res fetched =>
    split at resumes
    next retried =>
      cases resumes
      exact .asks res fetched retried.1 (Bool.not_eq_true' _ ▸ retried.2)
    next final =>
      cases resumes
      refine .ends _ (by simp [fetched]) fun retries => ?_
      obtain ⟨⟨other, again, unauthorized⟩, retried⟩ := retries
      rw [fetched] at again
      cases again
      exact final ⟨unauthorized, by rw [retried, Bool.not_false]⟩
  next res promise waits =>
    split at resumes
    next refreshed landed =>
      cases resumes
      cases refreshed with
      | true => exact .again res promise waits landed
      | false => exact .refused res promise waits landed
    next => cases resumes
  next res fetched =>
    cases resumes
    exact .ends _ (by simp [fetched]) (by simp [ApiCall.Retries, fetched])
  all_goals cases resumes

/-- A call that has to refresh starts the refresh or joins it. -/
theorem resume_retries (page : Page) (id : Nat) (now : String) (retries : call.Retries) :
    ∃ res, page.resume id call now = some (page.refreshAccessToken.1.setState id call (.awaitingRefresh res page.refreshAccessToken.2)) := by
  obtain ⟨⟨res, fetched, unauthorized⟩, retried⟩ := retries
  refine ⟨res, ?_⟩
  unfold resume
  rw [fetched]
  exact if_pos ⟨unauthorized, by rw [retried, Bool.not_false]⟩

/-- An answer moves on a call that has sent its request. -/
theorem answered {res : Option Response} (answers : page.answer id call res = some after) :
    (call.state = .fetching ∧ after = page.setState id call (.fetched res)) ∨
      call.state = .fetchingAgain ∧ after = page.setState id call (.fetchedAgain res) := by
  unfold answer at answers
  split at answers
  next fetching =>
    cases answers
    exact .inl ⟨fetching, rfl⟩
  next fetching =>
    cases answers
    exact .inr ⟨fetching, rfl⟩
  next => cases answers

/-! ## The invariant -/

end Page

/-- How often the request has been sent by the time the call is here. -/
def CallState.Sends (count : Nat) : CallState → Prop
  | fetching | fetched _ | awaitingRefresh _ _ => count = 1
  | fetchingAgain | fetchedAgain _ => count = 2
  | settled _ => count ≤ 2

namespace Page

structure Invariant (page : Page) : Prop where
  exclusive : page.refreshing.Exclusive
  fresh : ∀ id, page.calls.length ≤ id → page.sends id = 0
  sent : ∀ (id : Nat) (call : ApiCall), page.calls[id]? = some call → call.state.Sends (page.sends id)
  waits : ∀ (id : Nat) (call : ApiCall) (res : Response) (promise : Nat), page.calls[id]? = some call →
    call.state = .awaitingRefresh res promise → res.status = 401 ∧ call.options.skipAuthRetry = false

theorem invariant_opened (cookie : Option String) : (opened cookie).Invariant where
  exclusive := SharedFlight.exclusive_none
  fresh _ _ := rfl
  sent id call found := by cases found
  waits id call res promise found := by cases found

variable {page after : Page} {id other : Nat} {call found : ApiCall} {state : CallState} {now : String}

theorem call_setState : (page.setState id call state).calls[other]? =
    if id = other then (if id < page.calls.length then some { call with state } else none) else page.calls[other]? :=
  List.getElem?_set

theorem call_setState_self (old : page.calls[id]? = some found) :
    (page.setState id call state).calls[id]? = some { call with state } := by
  rw [call_setState, if_pos rfl, if_pos (List.getElem?_eq_some_iff.mp old).1]

theorem call_setState_ne (apart : id ≠ other) : (page.setState id call state).calls[other]? = page.calls[other]? := by
  rw [call_setState, if_neg apart]

/-- A step of one call keeps the invariant, if its new state suits what it has sent. -/
theorem Invariant.setState (invariant : page.Invariant) (old : page.calls[id]? = some call) {wire : List Sent}
    (others : ∀ other, id ≠ other → wire.countP (Sent.isOwn other) = page.sends other)
    (suits : state.Sends (wire.countP (Sent.isOwn id)))
    (waits : ∀ res promise, state = .awaitingRefresh res promise →
      res.status = 401 ∧ call.options.skipAuthRetry = false) :
    ({ page.setState id call state with wire } : Page).Invariant where
  exclusive := invariant.exclusive
  fresh other outside := by
    have beyond : page.calls.length ≤ other := List.length_set ▸ outside
    have inside : id < page.calls.length := (List.getElem?_eq_some_iff.mp old).1
    exact (others other (by omega)).trans (invariant.fresh other beyond)
  sent other found isCall := by
    by_cases same : id = other
    · subst same
      cases (call_setState_self old).symm.trans isCall
      exact suits
    · have before := invariant.sent other found ((call_setState_ne same).symm.trans isCall)
      rwa [← others other same] at before
  waits other found res promise isCall waiting := by
    by_cases same : id = other
    · subst same
      cases (call_setState_self old).symm.trans isCall
      exact waits res promise waiting
    · exact invariant.waits other found res promise ((call_setState_ne same).symm.trans isCall) waiting

/-- A call is one of the old ones or the one that has just been made. -/
theorem call_append (isCall : (page.calls ++ [call])[other]? = some found) :
    (other < page.calls.length ∧ page.calls[other]? = some found) ∨ other = page.calls.length ∧ found = call := by
  have inside := (List.getElem?_eq_some_iff.mp isCall).1
  rw [List.length_append, List.length_singleton] at inside
  by_cases old : other < page.calls.length
  · exact .inl ⟨old, (List.getElem?_append_left old).symm.trans isCall⟩
  · obtain rfl : other = page.calls.length := by omega
    rw [List.getElem?_concat_length] at isCall
    exact .inr ⟨rfl, (Option.some.inj isCall).symm⟩

theorem Invariant.append (invariant : page.Invariant) {wire : List Sent}
    (others : ∀ other, page.calls.length ≠ other → wire.countP (Sent.isOwn other) = page.sends other)
    (suits : call.state.Sends (wire.countP (Sent.isOwn page.calls.length)))
    (idle : ∀ res promise, call.state ≠ .awaitingRefresh res promise) :
    ({ page with calls := page.calls ++ [call], wire } : Page).Invariant where
  exclusive := invariant.exclusive
  fresh other outside := by
    rw [List.length_append, List.length_singleton] at outside
    exact (others other (by omega)).trans (invariant.fresh other (by omega))
  sent other found isCall := by
    obtain ⟨inside, old⟩ | ⟨rfl, rfl⟩ := call_append isCall
    · have before := invariant.sent other found old
      rwa [← others other (by omega)] at before
    · exact suits
  waits other found res promise isCall waiting := by
    obtain ⟨-, old⟩ | ⟨-, rfl⟩ := call_append isCall
    · exact invariant.waits other found res promise old waiting
    · exact absurd waiting (idle res promise)

/-- Who goes on to send its request a second time has sent it once. -/
theorem Invariant.doFetch (invariant : page.Invariant) (old : page.calls[id]? = some call)
    (once : page.sends id = 1) : (page.doFetch id call .fetchingAgain).Invariant := by
  obtain ⟨request, -, sends⟩ | ⟨error, -, throws⟩ := page.doFetch_cases id call .fetchingAgain
  · rw [sends]
    refine invariant.setState old (fun other apart => ?_) ?_ fun _ _ waiting => by cases waiting
    · rw [countP_own, if_neg apart]
      rfl
    · rw [countP_own, if_pos rfl]
      exact congrArg (· + 1) once
  · rw [throws]
    exact invariant.setState old (fun _ _ => rfl) (show page.sends id ≤ 2 by omega) fun _ _ waiting => by cases waiting

/-- A new call sends its request, or throws. -/
theorem apiFetch_cases (path : String) (options : ApiFetchOptions) :
    (∃ request, page.apiFetch path options = { page with
      calls := page.calls ++ [⟨path, options, .fetching⟩]
      wire := page.wire ++ [.own page.calls.length request] }) ∨
    ∃ error, page.apiFetch path options = { page with
      calls := page.calls ++ [⟨path, options, .settled (.thrown error)⟩] } := by
  have put : ∀ old new : ApiCall, (page.calls ++ [old]).set page.calls.length new = page.calls ++ [new] := by
    intro old new
    rw [List.set_append_right _ _ (Nat.le_refl _), Nat.sub_self, List.set_cons_zero]
  unfold apiFetch
  obtain ⟨request, -, sends⟩ | ⟨error, -, throws⟩ := doFetch_cases
    { page with calls := page.calls ++ [⟨path, options, .fetching⟩] } page.calls.length ⟨path, options, .fetching⟩
    .fetching
  · refine .inl ⟨request, sends.trans ?_⟩
    simp only [Page.setState, put]
  · refine .inr ⟨error, throws.trans ?_⟩
    simp only [Page.setState, put]

theorem Invariant.apiFetch (invariant : page.Invariant) (path : String) (options : ApiFetchOptions) :
    (page.apiFetch path options).Invariant := by
  have unsent := invariant.fresh page.calls.length (Nat.le_refl _)
  obtain ⟨request, begins⟩ | ⟨error, begins⟩ := page.apiFetch_cases path options
  · rw [begins]
    refine invariant.append (fun other apart => ?_) ?_ fun _ _ waiting => by cases waiting
    · rw [countP_own, if_neg apart]
      rfl
    · rw [countP_own, if_pos rfl]
      exact congrArg (· + 1) unsent
  · rw [begins]
    exact invariant.append (fun _ _ => rfl) (show page.sends page.calls.length ≤ 2 by omega)
      fun _ _ waiting => by cases waiting

/-- Starting a refresh, or joining it, concerns no call by itself. -/
theorem Invariant.refreshAccessToken (invariant : page.Invariant) : page.refreshAccessToken.1.Invariant where
  exclusive := invariant.exclusive.joined startRefresh_aloft
  fresh other outside := sends_refreshAccessToken.trans (invariant.fresh other outside)
  sent other found isCall := by
    have before := invariant.sent other found isCall
    rwa [← sends_refreshAccessToken] at before
  waits := invariant.waits

theorem Invariant.refreshing (invariant : page.Invariant) {refreshing : SharedFlight Bool}
    (exclusive : refreshing.Exclusive) : ({ page with refreshing } : Page).Invariant :=
  ⟨exclusive, invariant.fresh, invariant.sent, invariant.waits⟩

/-- By the time a call has its first answer it has sent its request once. -/
theorem Invariant.sends_fetched (invariant : page.Invariant) (old : page.calls[id]? = some call) {res : Option Response}
    (fetched : call.state = .fetched res) : page.sends id = 1 := by
  have sent := invariant.sent id call old
  rwa [fetched] at sent

theorem Invariant.sends_waiting (invariant : page.Invariant) (old : page.calls[id]? = some call) {res : Response}
    {promise : Nat} (waits : call.state = .awaitingRefresh res promise) : page.sends id = 1 := by
  have sent := invariant.sent id call old
  rwa [waits] at sent

theorem Invariant.sends_le (invariant : page.Invariant) : page.sends id ≤ 2 := by
  cases found : page.calls[id]? with
  | none => exact (invariant.fresh id (List.getElem?_eq_none_iff.mp found)).trans_le (Nat.zero_le 2)
  | some call =>
    have sent := invariant.sent id call found
    cases state : call.state <;> rw [state] at sent
    case settled => exact sent
    all_goals exact (show page.sends id = _ from sent).trans_le (by decide)

theorem Invariant.resumed (invariant : page.Invariant) (old : page.calls[id]? = some call)
    (resumes : page.Resumed id call now after) : after.Invariant := by
  cases resumes with
  | ends outcome =>
    exact invariant.setState old (fun _ _ => rfl) invariant.sends_le fun _ _ waiting => by cases waiting
  | asks res fetched unauthorized retries =>
    refine invariant.refreshAccessToken.setState old (fun _ _ => rfl) ?_ fun _ _ waiting => ?_
    · exact sends_refreshAccessToken.trans (invariant.sends_fetched old fetched)
    · cases waiting
      exact ⟨unauthorized, retries⟩
  | again res promise waits => exact invariant.doFetch old (invariant.sends_waiting old waits)
  | refused res promise =>
    exact invariant.setState old (fun _ _ => rfl) invariant.sends_le fun _ _ waiting => by cases waiting

/-! ## The steps -/

theorem step_answer {res : Option Response} (stepped : page.Step (.answer id res) after) :
    ∃ call, page.calls[id]? = some call ∧ page.answer id call res = some after :=
  Option.bind_eq_some_iff.mp stepped

theorem step_resume (stepped : page.Step (.resume id now) after) :
    ∃ call, page.calls[id]? = some call ∧ page.Resumed id call now after := by
  obtain ⟨call, old, resumes⟩ := Option.bind_eq_some_iff.mp stepped
  exact ⟨call, old, resumed resumes⟩

theorem step_answerRefresh {promise : Nat} {res : Option Response}
    (stepped : page.Step (.answerRefresh promise res) after) :
    ∃ refreshing, page.refreshing.answer promise (res.any Response.ok) = some refreshing ∧
      { page with refreshing } = after :=
  Option.map_eq_some_iff.mp stepped

theorem step_settleRefresh {promise : Nat} (stepped : page.Step (.settleRefresh promise) after) :
    ∃ refreshing, page.refreshing.land promise = some refreshing ∧ { page with refreshing } = after :=
  Option.map_eq_some_iff.mp stepped

theorem Invariant.step (invariant : page.Invariant) {event : Event} (stepped : page.Step event after) :
    after.Invariant := by
  cases event with
  | setCookie cookie =>
    cases stepped
    exact ⟨invariant.exclusive, invariant.fresh, invariant.sent, invariant.waits⟩
  | apiFetch path options =>
    cases stepped
    exact invariant.apiFetch path options
  | answer id res =>
    obtain ⟨call, old, answers⟩ := step_answer stepped
    have sent := invariant.sent id call old
    obtain ⟨fetching, rfl⟩ | ⟨fetching, rfl⟩ := answered answers <;> rw [fetching] at sent
    · exact invariant.setState old (fun _ _ => rfl) sent fun _ _ waiting => by cases waiting
    · exact invariant.setState old (fun _ _ => rfl) sent fun _ _ waiting => by cases waiting
  | resume id now =>
    obtain ⟨call, old, resumes⟩ := step_resume stepped
    exact invariant.resumed old resumes
  | answerRefresh promise res =>
    obtain ⟨refreshing, answers, rfl⟩ := step_answerRefresh stepped
    exact invariant.refreshing (invariant.exclusive.answered answers)
  | settleRefresh promise =>
    obtain ⟨refreshing, lands, rfl⟩ := step_settleRefresh stepped
    exact invariant.refreshing (invariant.exclusive.landed lands)

/-! ## Every moment -/

/-- A call that finds nothing to join starts a refresh, whose request is then under way. -/
theorem startsAnew_of_none (old : page.calls[id]? = some call) (retries : call.Retries)
    (nobody : page.refreshPromise = none) :
    ∃ after, page.Step (.resume id now) after ∧ after.refreshPromise = some page.refreshes ∧
      ∀ request, page.refreshRequest = .ok request →
        after.wire = page.wire ++ [.refresh page.refreshes request] ∧ after.Outstanding page.refreshes := by
  obtain ⟨res, resumes⟩ := page.resume_retries id now retries
  rw [refreshAccessToken_new nobody] at resumes
  refine ⟨_, Option.bind_eq_some_iff.mpr ⟨call, old, resumes⟩, rfl, fun request sends => ?_⟩
  have starts : page.startRefresh = (.outstanding, [.refresh page.refreshes request]) := by
    unfold startRefresh
    rw [sends]
    rfl
  refine ⟨congrArg (fun started : Flight Bool × List Sent => page.wire ++ started.2) starts, ?_⟩
  have flies : (page.refreshing.flights ++ [page.startRefresh.1])[page.refreshes]? = some page.startRefresh.1 :=
    List.getElem?_concat_length
  exact flies.trans (congrArg (fun started : Flight Bool × List Sent => some started.1) starts)

theorem Invariant.coalesced (invariant : page.Invariant) : page.Coalesced where
  oneOutstanding _ _ left right := invariant.exclusive.unique left rfl right rfl
  atMostTwice _ := invariant.sends_le
  forgets _ _ settled := invariant.exclusive.forgets settled
  startsAnew _ _ _ old retries nobody := startsAnew_of_none old retries nobody

/-! ## Every step -/

/-- Only its own answers and its own turn move a call. -/
theorem keeps_call {event : Event} (stepped : page.Step event after) (old : page.calls[id]? = some call)
    (unanswered : ∀ res, event ≠ .answer id res) (idle : ∀ now, event ≠ .resume id now) :
    after.calls[id]? = some call := by
  cases event with
  | setCookie cookie =>
    cases stepped
    exact old
  | apiFetch path options =>
    cases stepped
    have inside := (List.getElem?_eq_some_iff.mp old).1
    obtain ⟨request, begins⟩ | ⟨error, begins⟩ := page.apiFetch_cases path options <;> rw [begins]
    · exact (List.getElem?_append_left inside).trans old
    · exact (List.getElem?_append_left inside).trans old
  | answer moved res =>
    obtain ⟨other, -, answers⟩ := step_answer stepped
    have apart : moved ≠ id := fun same => unanswered res (same ▸ rfl)
    obtain ⟨-, rfl⟩ | ⟨-, rfl⟩ := answered answers <;> exact (call_setState_ne apart).trans old
  | resume moved now =>
    obtain ⟨other, -, resumes⟩ := step_resume stepped
    have apart : moved ≠ id := fun same => idle now (same ▸ rfl)
    cases resumes with
    | ends outcome => exact (call_setState_ne apart).trans old
    | asks res => exact (call_setState_ne apart).trans old
    | again res promise =>
      obtain ⟨request, -, sends⟩ | ⟨error, -, throws⟩ := page.doFetch_cases moved other .fetchingAgain
      · exact (congrArg (·.calls[id]?) sends).trans ((call_setState_ne apart).trans old)
      · exact (congrArg (·.calls[id]?) throws).trans ((call_setState_ne apart).trans old)
    | refused res promise => exact (call_setState_ne apart).trans old
  | answerRefresh promise res =>
    obtain ⟨refreshing, -, rfl⟩ := step_answerRefresh stepped
    exact old
  | settleRefresh promise =>
    obtain ⟨refreshing, -, rfl⟩ := step_settleRefresh stepped
    exact old

/-- A call that has to refresh while a request is under way waits for that one. -/
theorem Invariant.joins (invariant : page.Invariant) {promise : Nat} (stepped : page.Step (.resume id now) after)
    (old : page.calls[id]? = some call) (retries : call.Retries) (outstanding : page.Outstanding promise) :
    ∃ res, after.calls[id]? = some { call with state := .awaitingRefresh res promise } := by
  have shared : page.refreshPromise = some promise := (invariant.exclusive promise).mpr ⟨_, outstanding, rfl⟩
  obtain ⟨res, resumes⟩ := page.resume_retries id now retries
  rw [refreshAccessToken_shared shared] at resumes
  cases (Option.bind_eq_some_iff.mpr ⟨call, old, resumes⟩).symm.trans stepped
  exact ⟨res, call_setState_self old⟩

theorem getsResult {event : Event} {res : Response} {promise : Nat} (stepped : page.Step event after)
    (old : page.calls[id]? = some call) (waits : call.state = .awaitingRefresh res promise) :
    after.calls[id]? = some call ∨
      ∃ refreshed now, event = .resume id now ∧ page.Settled promise refreshed ∧
        page.Continues id call res refreshed now after := by
  -- a call that waits for the refresh is moved by its own `resume` only
  by_cases answered : ∃ res, event = .answer id res
  · obtain ⟨other, rfl⟩ := answered
    obtain ⟨found, isCall, answers⟩ := step_answer stepped
    cases old.symm.trans isCall
    unfold Page.answer at answers
    rw [waits] at answers
    cases answers
  · by_cases resumed : ∃ now, event = .resume id now
    · obtain ⟨now, rfl⟩ := resumed
      obtain ⟨found, isCall, resumes⟩ := step_resume stepped
      cases old.symm.trans isCall
      refine .inr ?_
      cases resumes with
      | ends outcome idle => exact absurd waits (idle res promise)
      | asks other fetched =>
        rw [waits] at fetched
        cases fetched
      | again other joined waiting refreshed =>
        cases waits.symm.trans waiting
        refine ⟨true, now, rfl, refreshed, ?_, ?_, fun failed => by cases failed⟩
        · intro _ request makes
          -- the refresh has succeeded: the request is sent again
          have sends : page.doFetch id call .fetchingAgain = { page.setState id call .fetchingAgain with
              wire := page.wire ++ [.own id request] } := by
            unfold doFetch
            rw [makes]
          rw [sends]
          exact ⟨rfl, call_setState_self old⟩
        · intro _ error fails
          -- or cannot be built again
          have throws : page.doFetch id call .fetchingAgain = page.setState id call (.settled (.thrown error)) := by
            unfold doFetch
            rw [fails]
          rw [throws]
          exact ⟨rfl, call_setState_self old⟩
      | refused other joined waiting refreshed =>
        cases waits.symm.trans waiting
        refine ⟨false, now, rfl, refreshed, fun failed => ?_, fun failed => ?_, fun _ => ?_⟩
        · cases failed
        · cases failed
        · exact ⟨rfl, call_setState_self old⟩
    · exact .inl (keeps_call stepped old (fun res is => answered ⟨res, is⟩) fun now is => resumed ⟨now, is⟩)

/-- Starting a refresh brings no result: its request is under way, or could not be made. -/
theorem result_refreshAccessToken {promise : Nat} (result : page.refreshAccessToken.1.Result promise true) :
    page.Result promise true := by
  cases shared : page.refreshPromise with
  | some joined => rwa [refreshAccessToken_shared shared] at result
  | none =>
    rw [refreshAccessToken_new shared] at result
    have failing : page.startRefresh.1 ≠ .answered true ∧ page.startRefresh.1 ≠ .landed true := by
      unfold startRefresh
      cases page.refreshRequest with
      | ok request => constructor <;> (intro same; cases same)
      | error error => constructor <;> (intro same; cases same)
    have old : ∀ flight, flight ≠ page.startRefresh.1 →
        (page.refreshing.flights ++ [page.startRefresh.1])[promise]? = some flight →
        page.refreshing.flights[promise]? = some flight := by
      intro flight other isFlight
      rw [List.getElem?_append] at isFlight
      split at isFlight
      next => exact isFlight
      next => exact absurd (List.mem_singleton.mp (List.mem_of_getElem? isFlight)) other
    exact result.imp (old _ failing.1.symm) (old _ failing.2.symm)

/-- A refresh succeeds by an answer to its request that is `ok`. -/
theorem succeeds {event : Event} {promise : Nat} (stepped : page.Step event after)
    (result : after.Result promise true) :
    page.Result promise true ∨ ∃ res, event = .answerRefresh promise (some res) ∧ res.ok = true := by
  -- only the answer to the refresh itself can bring a result, and settling hands it on
  cases event with
  | setCookie cookie =>
    cases stepped
    exact .inl result
  | apiFetch path options =>
    cases stepped
    obtain ⟨request, begins⟩ | ⟨error, begins⟩ := page.apiFetch_cases path options <;> rw [begins] at result
    · exact .inl result
    · exact .inl result
  | answer id res =>
    obtain ⟨call, -, answers⟩ := step_answer stepped
    obtain ⟨-, rfl⟩ | ⟨-, rfl⟩ := answered answers
    · exact .inl result
    · exact .inl result
  | resume id now =>
    obtain ⟨call, -, resumes⟩ := step_resume stepped
    cases resumes with
    | ends outcome => exact .inl result
    | asks res => exact .inl (result_refreshAccessToken result)
    | again res joined =>
      obtain ⟨request, -, sends⟩ | ⟨error, -, throws⟩ := page.doFetch_cases id call .fetchingAgain
      · rw [sends] at result
        exact .inl result
      · rw [throws] at result
        exact .inl result
    | refused res joined => exact .inl result
  | answerRefresh answered res =>
    obtain ⟨refreshing, answers, rfl⟩ := step_answerRefresh stepped
    obtain ⟨-, rfl⟩ := SharedFlight.answer_eq_some answers
    unfold Result Settled at result
    simp only [List.getElem?_set] at result
    split at result
    next same =>
      split at result
      next =>
        obtain brings | brings := result
        · obtain ⟨sent, rfl, ok⟩ := (Option.any_eq_true _ res).mp (Flight.answered.inj (Option.some.inj brings))
          exact .inr ⟨sent, same ▸ rfl, ok⟩
        · cases brings
      next => obtain brings | brings := result <;> cases brings
    next => exact .inl result
  | settleRefresh settled =>
    obtain ⟨refreshing, lands, rfl⟩ := step_settleRefresh stepped
    obtain ⟨answer, sent, rfl⟩ := SharedFlight.land_eq_some lands
    unfold Result Settled at result
    simp only [List.getElem?_set] at result
    split at result
    next same =>
      subst same
      split at result
      next =>
        obtain brings | brings := result
        · cases brings
        · cases brings
          exact .inl (.inl sent)
      next => obtain brings | brings := result <;> cases brings
    next => exact .inl result

theorem clears {promise : Nat} (stepped : page.Step (.settleRefresh promise) after) : after.refreshPromise = none := by
  obtain ⟨refreshing, lands, rfl⟩ := step_settleRefresh stepped
  obtain ⟨answer, -, rfl⟩ := SharedFlight.land_eq_some lands
  rfl

theorem posts_own {request : Request} :
    (page.wire ++ [Sent.own id request]).countP Sent.isRefresh = page.posts := by
  rw [List.countP_append]
  rfl

/-- Own requests are sent when the call begins, and when its refresh has succeeded. -/
theorem Invariant.sends_step (invariant : page.Invariant) (id : Nat) {event : Event} (stepped : page.Step event after) :
    after.sends id = page.sends id ∨
      (page.sends id = 0 ∧ after.sends id = 1 ∧
        ∃ path options, event = .apiFetch path options ∧ id = page.calls.length) ∨
      (page.sends id = 1 ∧ after.sends id = 2 ∧ ∃ now call res promise, event = .resume id now ∧
        page.calls[id]? = some call ∧ call.state = .awaitingRefresh res promise ∧ res.status = 401 ∧
        call.options.skipAuthRetry = false ∧ page.Settled promise true) := by
  cases event with
  | setCookie cookie =>
    cases stepped
    exact .inl rfl
  | apiFetch path options =>
    cases stepped
    obtain ⟨request, begins⟩ | ⟨error, begins⟩ := page.apiFetch_cases path options <;> rw [begins]
    · have counted := page.countP_own page.calls.length id request
      by_cases same : page.calls.length = id
      · subst same
        -- the number of the new call has not been used yet
        have unsent := invariant.fresh _ (Nat.le_refl _)
        rw [if_pos rfl, unsent] at counted
        exact .inr (.inl ⟨unsent, counted, path, options, rfl, rfl⟩)
      · rw [if_neg same] at counted
        exact .inl counted
    · exact .inl rfl
  | answer moved res =>
    obtain ⟨call, -, answers⟩ := step_answer stepped
    obtain ⟨-, rfl⟩ | ⟨-, rfl⟩ := answered answers
    · exact .inl rfl
    · exact .inl rfl
  | resume moved now =>
    obtain ⟨call, old, resumes⟩ := step_resume stepped
    cases resumes with
    | ends outcome => exact .inl rfl
    | asks res => exact .inl sends_refreshAccessToken
    | again res promise waits refreshed =>
      obtain ⟨request, -, sends⟩ | ⟨error, -, throws⟩ := page.doFetch_cases moved call .fetchingAgain
      · have counted := page.countP_own moved id request
        rw [sends]
        by_cases same : moved = id
        · subst same
          obtain ⟨unauthorized, retried⟩ := invariant.waits moved call res promise old waits
          -- a call that waits for the refresh has sent its request once
          have once := invariant.sends_waiting old waits
          rw [if_pos rfl, once] at counted
          exact .inr (.inr ⟨once, counted, now, call, res, promise, rfl, old, waits, unauthorized, retried, refreshed⟩)
        · rw [if_neg same] at counted
          exact .inl counted
      · rw [throws]
        exact .inl rfl
    | refused res promise => exact .inl rfl
  | answerRefresh promise res =>
    obtain ⟨refreshing, -, rfl⟩ := step_answerRefresh stepped
    exact .inl rfl
  | settleRefresh promise =>
    obtain ⟨refreshing, -, rfl⟩ := step_settleRefresh stepped
    exact .inl rfl

/-- Only a call with a 401 and without `skipAuthRetry` starts a refresh, and only where there is none. -/
theorem starts {event : Event} (stepped : page.Step event after) :
    (after.refreshes = page.refreshes ∧ after.posts = page.posts) ∨
      (after.refreshes = page.refreshes + 1 ∧ after.posts ≤ page.posts + 1 ∧ page.refreshPromise = none ∧
        ∃ id call now, event = .resume id now ∧ page.calls[id]? = some call ∧ call.Retries) := by
  cases event with
  | setCookie cookie =>
    cases stepped
    exact .inl ⟨rfl, rfl⟩
  | apiFetch path options =>
    cases stepped
    obtain ⟨request, begins⟩ | ⟨error, begins⟩ := page.apiFetch_cases path options <;> rw [begins]
    · exact .inl ⟨rfl, posts_own⟩
    · exact .inl ⟨rfl, rfl⟩
  | answer id res =>
    obtain ⟨call, -, answers⟩ := step_answer stepped
    obtain ⟨-, rfl⟩ | ⟨-, rfl⟩ := answered answers
    · exact .inl ⟨rfl, rfl⟩
    · exact .inl ⟨rfl, rfl⟩
  | resume id now =>
    obtain ⟨call, old, resumes⟩ := step_resume stepped
    cases resumes with
    | ends outcome => exact .inl ⟨rfl, rfl⟩
    | asks res fetched unauthorized retries =>
      cases shared : page.refreshPromise with
      | some promise =>
        -- a refresh is under way: the call joins it
        rw [refreshAccessToken_shared shared]
        exact .inl ⟨rfl, rfl⟩
      | none =>
        rw [refreshAccessToken_new shared]
        -- a new one sends its POST, unless the request cannot be built
        have atMost : page.startRefresh.2.countP Sent.isRefresh ≤ 1 := by
          unfold startRefresh
          cases page.refreshRequest with
          | ok request => exact Nat.le_refl 1
          | error error => exact Nat.zero_le 1
        refine .inr ⟨List.length_append, ?_, rfl, id, call, now, rfl, old, ⟨res, fetched, unauthorized⟩, retries⟩
        exact List.countP_append.trans_le (Nat.add_le_add_left atMost _)
    | again res promise =>
      obtain ⟨request, -, sends⟩ | ⟨error, -, throws⟩ := page.doFetch_cases id call .fetchingAgain
      · rw [sends]
        exact .inl ⟨rfl, posts_own⟩
      · rw [throws]
        exact .inl ⟨rfl, rfl⟩
    | refused res promise => exact .inl ⟨rfl, rfl⟩
  | answerRefresh promise res =>
    obtain ⟨refreshing, answers, rfl⟩ := step_answerRefresh stepped
    obtain ⟨-, rfl⟩ := SharedFlight.answer_eq_some answers
    exact .inl ⟨List.length_set, rfl⟩
  | settleRefresh promise =>
    obtain ⟨refreshing, lands, rfl⟩ := step_settleRefresh stepped
    obtain ⟨answer, -, rfl⟩ := SharedFlight.land_eq_some lands
    exact .inl ⟨List.length_set, rfl⟩

theorem Invariant.coalesces (invariant : page.Invariant) {event : Event} (stepped : page.Step event after) :
    page.Coalesces ApiCall.Retries event after where
  joins id call now promise is old retries outstanding := by
    subst is
    exact invariant.joins stepped old retries outstanding
  getsResult _ _ _ _ old waits := getsResult stepped old waits
  succeeds _ result := succeeds stepped result
  firstSend id before sent := by
    obtain same | ⟨-, once, begins⟩ | ⟨once, -⟩ := invariant.sends_step id stepped
    · exact absurd (same.trans before) sent
    · exact ⟨once, begins⟩
    · rw [before] at once
      cases once
  secondSend id before sent := by
    obtain same | ⟨unsent, -⟩ | again := invariant.sends_step id stepped
    · exact absurd same sent
    · exact absurd unsent before
    · exact again
  starts := starts stepped
  clears promise is := by
    subst is
    exact clears stepped

end Page

/-! ## Every run -/

theorem refreshesOnce : RefreshesOnce ApiCall.Retries := by
  intro cookie run isRun
  have opened := Page.invariant_opened cookie
  have preserved : ∀ page event after, Page.Invariant page → page.Step event after → after.Invariant :=
    fun _ _ _ invariant stepped => invariant.step stepped
  refine ⟨(Transition.eachState_of_step preserved opened isRun).imp fun _ invariant => invariant.coalesced, ?_⟩
  exact Transition.eachStep_of_invariant (fun _ _ _ invariant stepped => invariant.coalesces stepped) preserved opened
    isRun

/-! ## Two calls share a refresh, and two that do not wait -/

namespace SamplePage

def unauthorized : Response := ⟨401, "Unauthorized", none, none⟩
def refreshed : Response := ⟨200, "OK", some "application/json", some (.value "\x7b\"success\":true\x7d")⟩

/-- The page after the events, each of which can happen. -/
def runOf : List Event → List (Event × Page) :=
  Transition.runOf (fun page event => (page.step event).getD page) (Page.opened none)

def after (events : List Event) : Page := Transition.final (Page.opened none) (runOf events)

/-- What a call throws that leaves it at its 401. -/
def refused (path : String) : Outcome :=
  .thrown (.apiError 401 (.made 401 unauthorized.statusText "Error" "" path))

/-- Two calls get a 401, one of them after the other has asked for the refresh. -/
def sharing : List Event :=
  [.apiFetch "/orders" {}, .apiFetch "/products" {}, .answer 0 (some unauthorized), .answer 1 (some unauthorized),
    .resume 0 "", .resume 1 "", .answerRefresh 0 (some refreshed), .settleRefresh 0, .resume 1 "", .resume 0 ""]

/-- A call gets a second 401 while the refresh of another one is under way. -/
def repeating : List Event :=
  [.apiFetch "/orders" {}, .answer 0 (some unauthorized), .resume 0 "", .answerRefresh 0 (some refreshed),
    .settleRefresh 0, .resume 0 "", .apiFetch "/products" {}, .answer 1 (some unauthorized), .resume 1 "",
    .answer 0 (some unauthorized)]

/-- A login fails while a refresh is under way. -/
def failingLogin : List Event :=
  [.apiFetch "/orders" {}, .answer 0 (some unauthorized), .resume 0 "",
    .apiFetch "/auth/login" { method := some "POST", skipAuthRetry := true }, .answer 1 (some unauthorized)]

end SamplePage

theorem refreshesOnce_sharing :
    Transition.EachState Page.Coalesced (Page.opened none) (SamplePage.runOf SamplePage.sharing) ∧
      Transition.EachStep (Page.Coalesces ApiCall.Retries) (Page.opened none) (SamplePage.runOf SamplePage.sharing) :=
  refreshesOnce none (SamplePage.runOf SamplePage.sharing) (by decide)

/-- A call of the kind ends while a refresh is under way. -/
theorem not_refreshesOnce_of {concerned : ApiCall → Prop} (events : List Event) (id promise : Nat) (call : ApiCall)
    (outcome : Outcome) (isRun : Transition.Run Page.Step (Page.opened none) (SamplePage.runOf events))
    (old : (SamplePage.after events).calls[id]? = some call) (concerns : concerned call)
    (outstanding : (SamplePage.after events).refreshing.flights[promise]? = some .outstanding)
    (ends : ((SamplePage.after events).step (.resume id "")).bind (fun page => page.calls[id]?.map ApiCall.state) =
      some (.settled outcome)) : ¬RefreshesOnce concerned := by
  intro once
  obtain ⟨after, stepped, state⟩ := Option.bind_eq_some_iff.mp ends
  have isLonger := Transition.eachStep_concat.mpr ⟨isRun, stepped⟩
  have last := (Transition.eachStep_concat.mp (once none _ isLonger).2).2
  obtain ⟨res, waits⟩ := last.joins id call "" promise rfl old concerns outstanding
  rw [waits] at state
  cases state

/-- Neither the second 401 of a call nor one with `skipAuthRetry` waits for a refresh. -/
theorem not_refreshesOnce :
    ¬RefreshesOnce ApiCall.Sees401 ∧
      ¬RefreshesOnce (fun call => call.Sees401 ∧ call.options.skipAuthRetry = false) ∧
      ¬RefreshesOnce (fun call => ∃ res, call.state = .fetched (some res) ∧ res.status = 401) := by
  have repeated : ∀ concerned : ApiCall → Prop,
      concerned ⟨"/orders", {}, .fetchedAgain (some SamplePage.unauthorized)⟩ → ¬RefreshesOnce concerned :=
    fun _ concerns => not_refreshesOnce_of SamplePage.repeating 0 1 _ (SamplePage.refused "/orders") (by decide)
      (by decide) concerns (by decide) (by decide)
  have sees : (⟨"/orders", {}, .fetchedAgain (some SamplePage.unauthorized)⟩ : ApiCall).Sees401 :=
    ⟨SamplePage.unauthorized, .inr rfl, rfl⟩
  refine ⟨repeated _ sees, repeated _ ⟨sees, rfl⟩, ?_⟩
  exact not_refreshesOnce_of SamplePage.failingLogin 1 0
    ⟨"/auth/login", { method := some "POST", skipAuthRetry := true }, .fetched (some SamplePage.unauthorized)⟩
    (SamplePage.refused "/auth/login") (by decide) (by decide) ⟨SamplePage.unauthorized, rfl, rfl⟩ (by decide)
    (by decide)

end StoreSaas.ApiClient
