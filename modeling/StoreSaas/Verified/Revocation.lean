import StoreSaas.Library.Protocol
import StoreSaas.Verified.RefreshTokens

/-! # Logout and password reset against calls in flight

`issueTokens` writes the new hash whatever is stored by then.  A call that read its
user before a logout or a reset may therefore undo it; nothing else can
(`staysRevoked_iff_notLate`).

`Revocation` is kept beside the system for the statements: whether the user's sessions
are revoked, and which calls began after the last revocation.
-/

namespace StoreSaas

/-! ## What a call does -/

def AuthCall.isLogin : AuthCall → Bool
  | .login _ => true
  | .refresh _ | .logout _ | .requestPasswordReset _ | .resetPassword _ => false

/-- The phase is the user to whom the call may issue tokens: a refresh has seen a stored hash. -/
def sessionProtocol (isLogin : Bool) : AutoProtocol statements ApiError (Option Uuid) where
  initial := none
  allows phase
    | .user (.findForLogin _) => isLogin = true
    | .user (.findById _) => isLogin = false
    | .user (.findByEmail _) | .user (.findByResetTokenHash _) | .user (.count _ _) | .enqueueMail _ => True
    | .user (.update id changes) => ∀ hash, changes.refreshTokenHash = some (some hash) → phase = some id
    | _ => False
  next phase
    | .user (.findForLogin _), .ok found => found.map fun row : LoginRow => row.user.id
    | .user (.findById _), .ok found => found.bind fun user : User => user.refreshTokenHash.map fun _ => user.id
    | _, _ => phase

section Keeps

variable {crypto : Crypto} {config : AuthConfig} {env : AuthEnvironment} {isLogin : Bool}

theorem keeps_issueTokens (user : User) :
    (AuthService.issueTokens crypto config env user).Keeps (sessionProtocol isLogin) (fun _ _ => True) (some user.id) :=
  Program.keeps_perform_bind (fun _ _ => rfl) (fun _ => trivial) fun _ => trivial

theorem keeps_assertStaffAdmitted (row : LoginRow) (phase : Option Uuid) :
    (AuthService.assertStaffAdmitted row).Keeps (sessionProtocol isLogin) (fun after _ => after = phase) phase := by
  unfold AuthService.assertStaffAdmitted
  split
  next => rfl
  next =>
    split
    next =>
      refine Program.keeps_perform_bind trivial (fun _ => rfl) fun staffCount => ?_
      dsimp only
      split <;> rfl
    next => rfl

theorem keeps_login (dto : LoginDto) :
    (AuthService.login crypto config env dto).Keeps (sessionProtocol true) (fun _ _ => True) none := by
  refine Program.keeps_perform_bind rfl (fun _ => trivial) fun found => ?_
  cases found with
  | none => trivial
  | some row =>
    dsimp only
    split
    next => trivial
    next =>
      split
      next => trivial
      next =>
        refine (keeps_assertStaffAdmitted row (some row.user.id)).handle fun phase result same => ?_
        subst same
        cases result with
        | ok _ => exact keeps_issueTokens row.user
        | error _ => trivial

theorem keeps_refresh (userId : Uuid) (presented : Bytes) :
    (AuthService.refresh crypto config env userId presented).Keeps (sessionProtocol false) (fun _ _ => True) none := by
  refine Program.keeps_perform_bind rfl (fun _ => trivial) fun found => ?_
  let seen : Option Uuid := Option.bind found fun user : User => user.refreshTokenHash.map fun _ => user.id
  change Program.Keeps (sessionProtocol false) _ _ seen
  cases found with
  | none => trivial
  | some user =>
    cases stored : user.refreshTokenHash with
    | none =>
      simp only [Option.bind_some, stored, Option.map_none]
      trivial
    | some hash =>
      have isSeen : seen = some user.id := by simp only [seen, Option.bind_some, stored, Option.map_some]
      rw [isSeen]
      simp only [Option.bind_some, stored, Option.map_some]
      split
      next => trivial
      next => exact keeps_issueTokens user

theorem keeps_postRefresh (token : SignedToken) :
    (AuthController.refresh crypto config env token).Keeps (sessionProtocol false) (fun _ _ => True) none := by
  unfold AuthController.refresh
  split
  next => trivial
  next => exact keeps_refresh _ _

theorem keeps_requestPasswordReset (dto : RequestPasswordResetDto) :
    (AuthService.requestPasswordReset crypto config env dto).Keeps (sessionProtocol isLogin) (fun _ _ => True) none := by
  refine Program.keeps_perform_bind trivial (fun _ => trivial) fun found => ?_
  cases found with
  | none => trivial
  | some user =>
    refine Program.keeps_perform_bind (fun _ isSet => nomatch isSet) (fun _ => trivial) fun _ => ?_
    exact Program.keeps_perform trivial fun _ => trivial

theorem keeps_resetPassword (dto : ResetPasswordDto) :
    (AuthService.resetPassword crypto env dto).Keeps (sessionProtocol isLogin) (fun _ _ => True) none := by
  refine Program.keeps_perform_bind trivial (fun _ => trivial) fun found => ?_
  dsimp only
  split
  next => trivial
  next =>
    split
    next => trivial
    next => exact Program.keeps_perform_bind (fun _ isSet => nomatch isSet) (fun _ => trivial) fun _ => trivial

/-- Every call follows the protocol of its kind. -/
theorem AuthCall.keeps_handler (call : AuthCall) :
    (call.handler crypto config env).Keeps (sessionProtocol call.isLogin) (fun _ _ => True) none := by
  have ends {α β : Type} {isLogin : Bool} {program : Tx α} {next : α → β} 
      (keeps : program.Keeps (sessionProtocol isLogin) (fun _ _ => True) none) :
      (program >>= fun value => (return next value : Tx β)).Keeps (sessionProtocol isLogin) (fun _ _ => True) none :=
    keeps.handle fun _ result _ => by cases result <;> trivial
  cases call with
  | login dto => exact ends (keeps_login dto)
  | refresh token => exact ends (keeps_postRefresh token)
  | logout userId => exact ends (Program.keeps_perform (fun _ isSet => nomatch isSet) fun _ => trivial)
  | requestPasswordReset dto => exact ends (keeps_requestPasswordReset dto)
  | resetPassword dto => exact ends (keeps_resetPassword dto)

end Keeps

/-! ## What an operation writes to the stored hash -/

/-- The hash that an operation stores for the user, if it stores one: `some none` revokes. -/
def hashWrite (userId : Uuid) : RequestOp statements → Option (Option Bytes)
  | .auto (.user (.update id changes)) => if id = userId then changes.refreshTokenHash else none
  | _ => none

section Operations

variable {isLogin : Bool} {phase : Option Uuid} {op : Statement}

/-- The statements of a call read, or update one user. -/
theorem executeOn_session (db : Database) (allowed : (sessionProtocol isLogin).allows phase op) :
    (∃ id changes, op = .user (.update id changes)) ∨
      ((shop.executeOn op db).2 = db ∧ ∀ userId, hashWrite userId (.auto op) = none) := by
  cases op with
  | user statement =>
    cases statement with
    | update id changes => exact .inl ⟨id, changes, rfl⟩
    | findForLogin | findById | findByEmail | findByResetTokenHash | count => exact .inr ⟨rfl, fun _ => rfl⟩
    | findStaff | reselect | insert | saveChanges | delete => exact allowed.elim
  | enqueueMail => exact .inr ⟨rfl, fun _ => rfl⟩
  | setCurrentStore | product | category | order | outbox | billing | idempotency | store | audit => exact allowed.elim

/-- No call adds or removes a user. -/
theorem users_executeOn (db : Database) (allowed : (sessionProtocol isLogin).allows phase op) (id : Uuid) :
    ((shop.executeOn op db).2.users.find id).isSome = (db.users.find id).isSome := by
  rcases executeOn_session db allowed with ⟨updated, changes, rfl⟩ | ⟨same, -⟩
  · rw [Database.executeOn_updateUser, Database.updateUser]
    cases found : db.users.find updated with
    | none => rfl
    | some row =>
      have isId : row.id = updated := Table.key_of_find found
      have sameId : (changes.applyTo row).id = row.id := rfl
      simp only [Database.write, Table.write]
      rw [Table.find_put, sameId, isId]
      split
      next same => rw [same, found]; rfl
      next => rfl
  · rw [same]

theorem hash_executeOn (db : Database) (allowed : (sessionProtocol isLogin).allows phase op) (userId : Uuid) :
    (shop.executeOn op db).2.refreshTokenHashOf userId =
      match hashWrite userId (.auto op) with
      | some hash => if (db.users.find userId).isSome then hash else none
      | none => db.refreshTokenHashOf userId := by
  rcases executeOn_session db allowed with ⟨updated, changes, rfl⟩ | ⟨same, noWrite⟩
  · rw [Database.executeOn_updateUser, Database.refreshTokenHashOf_updateUser, hashWrite]
    by_cases isUser : updated = userId
    · subst isUser
      rw [if_pos rfl, if_pos rfl, Database.refreshTokenHashOf]
      cases db.users.find updated with
      | none => cases changes.refreshTokenHash <;> rfl
      | some row => cases changes.refreshTokenHash <;> rfl
    · rw [if_neg isUser, if_neg (Ne.symm isUser)]
  · rw [same, noWrite]

/-- Only a call that may issue tokens to the user stores a hash. -/
theorem phase_of_hashWrite {userId : Uuid} {hash : Bytes} (allowed : (sessionProtocol isLogin).allows phase op)
    (writes : hashWrite userId (.auto op) = some (some hash)) : phase = some userId := by
  rcases executeOn_session .empty allowed with ⟨updated, changes, rfl⟩ | ⟨-, noWrite⟩
  · simp only [hashWrite] at writes
    split at writes
    next isUser => exact isUser ▸ allowed hash writes
    next => cases writes
  · rw [noWrite] at writes
    cases writes

/-- A refresh that reads the user while no hash is stored will not store one. -/
theorem next_of_refresh {db : Database} {userId : Uuid} (allowed : (sessionProtocol false).allows phase op)
    (before : phase ≠ some userId) (revoked : db.refreshTokenHashOf userId = none) :
    (sessionProtocol false).next phase op (shop.executeOn op db).1 ≠ some userId := by
  cases op with
  | user statement =>
    cases statement with
    | findById id =>
      change ((db.users.find id).bind fun user => user.refreshTokenHash.map fun _ => user.id) ≠ some userId
      intro seen
      obtain ⟨user, found, stored⟩ := Option.bind_eq_some_iff.mp seen
      obtain ⟨hash, isHash, isUser⟩ := Option.map_eq_some_iff.mp stored
      have isId : user.id = id := Table.key_of_find found
      rw [← isUser, isId, Database.refreshTokenHashOf, found, Option.bind_some, isHash] at revoked
      cases revoked
    | findForLogin => cases allowed
    | update | findByEmail | findByResetTokenHash | count => exact before
    | findStaff | reselect | insert | saveChanges | delete => exact allowed.elim
  | enqueueMail => exact before
  | setCurrentStore | product | category | order | outbox | billing | idempotency | store | audit => exact allowed.elim

theorem next_error (error : ApiError) : (sessionProtocol isLogin).next phase op (.error error) = phase := by
  cases op with
  | user statement => cases statement <;> rfl
  | _ => rfl

/-- The user a call has read is one there is. -/
theorem present_of_next {db : Database} {id : Uuid}
    (seen : (sessionProtocol isLogin).next phase op (shop.executeOn op db).1 = some id) :
    phase = some id ∨ (db.users.find id).isSome = true := by
  cases op with
  | user statement =>
    cases statement with
    | findById given =>
      change ((db.users.find given).bind fun user => user.refreshTokenHash.map fun _ => user.id) = some id at seen
      obtain ⟨user, found, stored⟩ := Option.bind_eq_some_iff.mp seen
      obtain ⟨hash, -, rfl⟩ := Option.map_eq_some_iff.mp stored
      have isGiven : user.id = given := Table.key_of_find found
      rw [isGiven, found]
      exact .inr rfl
    | findForLogin email =>
      change ((db.users.rows.find? fun row => row.email = email).map db.loadStore).map (fun row => row.user.id) = some id
        at seen
      rw [Option.map_map] at seen
      obtain ⟨user, found, rfl⟩ := Option.map_eq_some_iff.mp seen
      refine .inr ?_
      rw [Function.comp_apply, Database.loadStore, Table.find_of_mem (List.mem_of_find?_eq_some found)]
      rfl
    | findByEmail | findByResetTokenHash | count | findStaff | reselect | insert | update | saveChanges
    | delete => exact .inl seen
  | _ => exact .inl seen

end Operations

/-! ## Systems of calls -/

abbrev AuthSystem (ι : Type) : Type := System ι Database RowKey DbWrite statements ApiError (Option TokenPair)

/-- Whether the sessions of a user are revoked, and which calls began since they last were. -/
structure Revocation (ι : Type) where
  revoked : Bool
  since : ι → Bool

def Revocation.none {ι : Type} : Revocation ι := ⟨false, fun _ => false⟩

section Systems

variable {ι : Type} [DecidableEq ι] (crypto : Crypto) (config : AuthConfig) (actions : ι → AuthAction) (userId : Uuid)

namespace AuthSystem

def ofCalls (start : Database) : AuthSystem ι :=
  System.start start fun i => ((actions i).call.handler crypto config (actions i).env).autocommit

def protocol (i : ι) : Protocol statements ApiError (Option Uuid) := (sessionProtocol (actions i).call.isLogin).lift

/-- A call begins with its first operation.  A revocation leaves no call that began since; a login that did
    ends it with the hash it stores. -/
def observe (source : AuthSystem ι) (act : Act ι ApiError) (before : Revocation ι) : Revocation ι :=
  match source.executes act with
  | none => before
  | some (i, op) =>
    let since := if (source.thread i).session.log.isEmpty then Function.update before.since i true else before.since
    match hashWrite userId op with
    | some none => ⟨true, fun _ => false⟩
    | some (some _) => ⟨before.revoked && !((actions i).call.isLogin && since i), since⟩
    | none => ⟨before.revoked, since⟩

/-- A call that began before the last revocation stores a hash after it. -/
def writesLate (source : AuthSystem ι) (act : Act ι ApiError) (before : Revocation ι) : Bool :=
  match source.executes act with
  | none => false
  | some (i, op) => before.revoked && !before.since i && (hashWrite userId op).join.isSome

/-- The user's sessions stay revoked. -/
def StaysRevoked (state : AuthSystem ι × Revocation ι) : Prop :=
  state.2.revoked = true → state.1.db.refreshTokenHashOf userId = none

end AuthSystem

end Systems

section Runs

variable {ι : Type} {crypto : Crypto} {config : AuthConfig} {actions : ι → AuthAction} {userId : Uuid}

/-- What is known beside the claim: tokens are issued to users there are, and a refresh that began after the
    revocation has seen that no hash is stored. -/
structure RevocationInvariant (actions : ι → AuthAction) (userId : Uuid) (state : AuthSystem ι × Revocation ι) : Prop where
  follows : state.1.Follows (AuthSystem.protocol actions) fun _ _ _ => True
  present : ∀ i id, state.1.phase (AuthSystem.protocol actions) i = some id → (state.1.db.users.find id).isSome = true
  unseen : state.2.revoked = true → ∀ i, state.2.since i = true → (actions i).call.isLogin = false →
    state.1.phase (AuthSystem.protocol actions) i ≠ some userId

variable {source target : AuthSystem ι × Revocation ι} {act : Act ι ApiError}

/-- Where neither the database nor the phases nor the account change, all stays as it was. -/
theorem staysRevoked_same (invariant : RevocationInvariant actions userId source)
    (stays : AuthSystem.StaysRevoked userId source)
    (stillFollows : target.1.Follows (AuthSystem.protocol actions) fun _ _ _ => True)
    (sameDb : target.1.db = source.1.db)
    (samePhase : target.1.phase (AuthSystem.protocol actions) = source.1.phase (AuthSystem.protocol actions))
    (sameAccount : target.2 = source.2) :
    RevocationInvariant actions userId target ∧ AuthSystem.StaysRevoked userId target := by
  refine ⟨⟨stillFollows, ?_, ?_⟩, ?_⟩
  · rw [samePhase, sameDb]; exact invariant.present
  · rw [samePhase, sameAccount]; exact invariant.unseen
  · rw [AuthSystem.StaysRevoked, sameAccount, sameDb]; exact stays

variable [Fintype ι] [DecidableEq ι]

theorem staysRevoked_step (invariant : RevocationInvariant actions userId source)
    (stays : AuthSystem.StaysRevoked userId source) (stepped : shop.Steps source.1 act target.1)
    (observed : target.2 = AuthSystem.observe actions userId source.1 act source.2) :
    RevocationInvariant actions userId target ∧
      (AuthSystem.StaysRevoked userId target ↔ AuthSystem.writesLate userId source.1 act source.2 = false) := by
  obtain ⟨stillFollows, ⟨i, op, resume, rfl, calls, allowed, after, phases⟩ | ⟨i, op, error, rfl, -, after, phases⟩ |
    ⟨i, rfl, after, phases⟩⟩ := Engine.autoStep_cases invariant.follows stepped
  · have executes := System.executes_run calls
    obtain ⟨follows, present, unseen⟩ := invariant
    let phase := source.1.phase (AuthSystem.protocol actions)
    let since := if (source.1.thread i).session.log.isEmpty then Function.update source.2.since i true else source.2.since
    have sinceOther : ∀ j, j ≠ i → since j = source.2.since j := by
      intro j differs
      simp only [since]
      split
      · exact Function.update_of_ne differs _ _
      · rfl
    have atFirst : (source.1.thread i).session.log.isEmpty = true → phase i = none := by
      intro isEmpty
      simp only [phase, System.phase, List.isEmpty_iff.mp isEmpty]
      rfl
    -- a refresh that began since the revocation has not seen a hash so far
    have blind : source.2.revoked = true → since i = true → (actions i).call.isLogin = false → phase i ≠ some userId := by
      intro isRevoked began isRefresh
      cases isEmpty : (source.1.thread i).session.log.isEmpty with
      | true => rw [atFirst isEmpty]; exact (Option.some_ne_none userId).symm
      | false =>
        simp only [since, isEmpty] at began
        exact unseen isRevoked i began isRefresh
    have stillPresent : ∀ j id, target.1.phase (AuthSystem.protocol actions) j = some id →
        (target.1.db.users.find id).isSome = true := by
      intro j id isPhase
      rw [after, users_executeOn source.1.db allowed]
      rw [show target.1.phase (AuthSystem.protocol actions) = _ from phases] at isPhase
      by_cases same : j = i
      · subst same
        rw [Function.update_self] at isPhase
        exact (present_of_next isPhase).elim (present j id) fun found => found
      · rw [Function.update_of_ne same] at isPhase
        exact present j id isPhase
    have stillUnseen : source.2.revoked = true → ∀ j, since j = true → (actions j).call.isLogin = false →
        target.1.phase (AuthSystem.protocol actions) j ≠ some userId := by
      intro isRevoked j began isRefresh
      rw [show target.1.phase (AuthSystem.protocol actions) = _ from phases]
      by_cases same : j = i
      · subst same
        rw [Function.update_self]
        rw [isRefresh] at allowed ⊢
        exact next_of_refresh allowed (blind isRevoked began isRefresh) (stays isRevoked)
      · rw [Function.update_of_ne same]
        exact unseen isRevoked j (sinceOther j same ▸ began) isRefresh
    have hash := hash_executeOn source.1.db allowed userId
    rw [← after] at hash
    simp only [AuthSystem.observe, executes] at observed
    simp only [AuthSystem.writesLate, executes]
    cases write : hashWrite userId (.auto op) with
    | none =>
      rw [write] at hash observed
      have account : target.2 = ⟨source.2.revoked, since⟩ := observed
      refine ⟨⟨stillFollows, stillPresent, account ▸ stillUnseen⟩, iff_of_true ?_ (Bool.and_false _)⟩
      rw [AuthSystem.StaysRevoked, account, hash]
      exact stays
    | some stored =>
      rw [write] at hash observed
      cases stored with
      | none =>
        have account : target.2 = ⟨true, fun _ => false⟩ := observed
        refine ⟨⟨stillFollows, stillPresent, fun _ j began => ?_⟩, iff_of_true (fun _ => ?_) (Bool.and_false _)⟩
        · rw [account] at began
          cases began
        · rw [hash]
          exact ite_self none
      | some stored =>
        have account : target.2 = ⟨source.2.revoked && !((actions i).call.isLogin && since i), since⟩ := observed
        have seen : phase i = some userId := phase_of_hashWrite allowed write
        have exist : (source.1.db.users.find userId).isSome = true := present i userId seen
        have notFirst : (source.1.thread i).session.log.isEmpty = false := by
          by_contra isEmpty
          rw [atFirst (Bool.eq_true_of_not_eq_false isEmpty)] at seen
          cases seen
        have sameSince : since = source.2.since := by simp only [since, notFirst, Bool.false_eq_true, if_false]
        -- the revocation is over exactly if the call is a login that began since
        have isLate : target.2.revoked = (source.2.revoked && !source.2.since i) := by
          rw [account, sameSince]
          cases isRevoked : source.2.revoked with
          | false => rfl
          | true =>
            cases began : source.2.since i with
            | false => rw [Bool.and_false]
            | true =>
              have isLogin : (actions i).call.isLogin = true := by
                by_contra isRefresh
                exact blind isRevoked (sameSince ▸ began) (Bool.eq_false_of_not_eq_true isRefresh) seen
              rw [isLogin]
              rfl
        refine ⟨⟨stillFollows, stillPresent, fun isRevoked => ?_⟩, ?_⟩
        · rw [account] at isRevoked ⊢
          exact stillUnseen (Bool.and_eq_true_iff.mp isRevoked).1
        · rw [AuthSystem.StaysRevoked, hash, exist, isLate]
          simp
  · have samePhase : target.1.phase (AuthSystem.protocol actions) = source.1.phase (AuthSystem.protocol actions) := by
      rw [show target.1.phase (AuthSystem.protocol actions) = _ from phases, next_error]
      exact Function.update_eq_self i _
    have same := staysRevoked_same invariant stays stillFollows after samePhase observed
    exact ⟨same.1, iff_of_true same.2 rfl⟩
  · have same := staysRevoked_same invariant stays stillFollows after phases observed
    exact ⟨same.1, iff_of_true same.2 rfl⟩

open Transition

/-- However the calls interleave, the sessions of a user stay revoked until a later login exactly if no call
    that began before the last revocation stores a hash after it. -/
theorem staysRevoked_iff_notLate {start : Database} {run : List (Act ι ApiError × AuthSystem ι)}
    (isRun : Run shop.Steps (AuthSystem.ofCalls crypto config actions start) run) :
    EachState (AuthSystem.StaysRevoked userId) (AuthSystem.ofCalls crypto config actions start, Revocation.none)
        (withHistory (AuthSystem.observe actions userId) (AuthSystem.ofCalls crypto config actions start) .none run) ↔
      EachStep (fun source act _ => AuthSystem.writesLate userId source.1 act source.2 = false)
        (AuthSystem.ofCalls crypto config actions start, Revocation.none)
        (withHistory (AuthSystem.observe actions userId) (AuthSystem.ofCalls crypto config actions start) .none run) := by
  have atStart : RevocationInvariant actions userId (AuthSystem.ofCalls crypto config actions start, Revocation.none) :=
    { follows := Engine.follows_start fun i => ((actions i).call.keeps_handler).autocommit
      present := fun _ _ isPhase => nomatch isPhase
      unseen := fun isRevoked => nomatch isRevoked }
  have staysAtStart : AuthSystem.StaysRevoked userId (AuthSystem.ofCalls crypto config actions start, Revocation.none) :=
    fun isRevoked => nomatch isRevoked
  exact eachState_iff_eachStep
    (fun source act target invariant stays stepped => (staysRevoked_step invariant stays stepped.1 stepped.2).2)
    (fun source act target invariant stays stepped _ => (staysRevoked_step invariant stays stepped.1 stepped.2).1)
    atStart staysAtStart (run_withHistory _ _ isRun)

end Runs

/-! ## A small shop whose owner logs out -/

namespace SmallShop

/-- The owner has a session. -/
def withSession : Database := { Database.empty with users := .singleton signedIn }

def refreshAndLogout : Bool → AuthAction
  | false => ⟨morning, .refresh sessionToken⟩
  | true => ⟨morning, .logout 9⟩

/-- The refresh begins after the logout, and finds nothing to refresh. -/
def logoutThenRefresh : List (Act Bool ApiError) := [.run true, .run false]

/-- The logout comes between the two statements of the refresh. -/
def logoutMeanwhile : List (Act Bool ApiError) := [.run false, .run true, .run false]

end SmallShop

theorem staysRevoked_smallShop :
    Transition.EachState (AuthSystem.StaysRevoked 9)
      (AuthSystem.ofCalls SmallShop.credulous SmallShop.longLived SmallShop.refreshAndLogout SmallShop.withSession,
        Revocation.none)
      (Transition.withHistory (AuthSystem.observe SmallShop.refreshAndLogout 9)
        (AuthSystem.ofCalls SmallShop.credulous SmallShop.longLived SmallShop.refreshAndLogout SmallShop.withSession)
        .none ((shop.trace (AuthSystem.ofCalls SmallShop.credulous SmallShop.longLived SmallShop.refreshAndLogout
          SmallShop.withSession) SmallShop.logoutThenRefresh).get (by decide +kernel))) :=
  (staysRevoked_iff_notLate (shop.run_get_trace _)).mpr (by decide +kernel)

/-- A refresh that began before the logout brings the session back. -/
theorem not_staysRevoked :
    ¬ ∀ (crypto : Crypto) (config : AuthConfig) (actions : Bool → AuthAction) (userId : Uuid) (start : Database)
      (run : List (Act Bool ApiError × AuthSystem Bool)),
      Transition.Run shop.Steps (AuthSystem.ofCalls crypto config actions start) run →
      AuthSystem.StaysRevoked userId (Transition.final (AuthSystem.ofCalls crypto config actions start, Revocation.none)
        (Transition.withHistory (AuthSystem.observe actions userId) (AuthSystem.ofCalls crypto config actions start)
          .none run)) := by
  intro staysRevoked
  have revoked := staysRevoked SmallShop.credulous SmallShop.longLived SmallShop.refreshAndLogout 9 SmallShop.withSession
    ((shop.trace (AuthSystem.ofCalls SmallShop.credulous SmallShop.longLived SmallShop.refreshAndLogout
      SmallShop.withSession) SmallShop.logoutMeanwhile).get (by decide +kernel))
    (shop.run_get_trace _) (by decide +kernel)
  revert revoked
  decide +kernel

end StoreSaas
