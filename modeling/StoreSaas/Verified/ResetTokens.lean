import Mathlib.Data.Fintype.Option
import StoreSaas.Library.Protocol
import StoreSaas.Verified.AuthMethods

/-! # Reset tokens, asked for and used at once

A reset looks its user up by the hash of the token and clears the hash later, by the id of
the user, whatever is stored by then.  Two submissions of one link that both look it up before
either clears it both change the password; nothing else can go wrong (`tokensHold_iff`).

`ResetHistory` is kept beside the system for the statements: the resets asked for, what was
asked for when a call looked its token up, and the changes made.
-/

namespace StoreSaas

namespace Database

def resetHashOf (db : Database) (userId : Uuid) : Option Bytes :=
  (db.users.find userId).bind User.passwordResetTokenHash

theorem find_updateUser (db : Database) (id : Uuid) (changes : UserChanges) (userId : Uuid) :
    (db.updateUser id changes).users.find userId =
      if userId = id then (db.users.find id).map changes.applyTo else db.users.find userId := by
  unfold updateUser
  cases found : db.users.find id with
  | none =>
    by_cases same : userId = id
    · rw [if_pos same, same]
      exact found
    · rw [if_neg same]
  | some row =>
    have isRow : (changes.applyTo row).id = id := (Table.key_of_find found : row.id = id)
    change (db.users.put (changes.applyTo row)).find userId = _
    rw [Table.find_put, isRow]
    rfl

end Database

/-! ## The calls -/

inductive ResetCall where
  | requestPasswordReset (dto : RequestPasswordResetDto)
  | resetPassword (dto : ResetPasswordDto)

/-- A call and its surroundings. -/
structure ResetAction where
  env : AuthEnvironment
  call : ResetCall

namespace ResetAction

section

variable (crypto : Crypto) (config : AuthConfig) (action : ResetAction)

def handler : Tx Unit :=
  match action.call with
  | .requestPasswordReset dto => AuthService.requestPasswordReset crypto config action.env dto
  | .resetPassword dto => AuthService.resetPassword crypto action.env dto

/-- The raw token that a reset presents. -/
def presented : Option Bytes :=
  match action.call with
  | .requestPasswordReset _ => none
  | .resetPassword dto => some dto.token

/-- The hash that a request stores. -/
def issued : Option Bytes :=
  match action.call with
  | .requestPasswordReset _ => some (AuthService.hashResetToken crypto (utf8 action.env.rawResetToken))
  | .resetPassword _ => none

end

end ResetAction

/-! ## What a call does -/

/-- How far a call has come: whose row it is about to update, and whether it has. -/
inductive ResetPhase where
  | started
  | found (userId : Uuid)
  | updated
  deriving DecidableEq

/-- The columns a request sets. -/
def requestedChanges (crypto : Crypto) (env : AuthEnvironment) : UserChanges :=
  { UserChanges.nothing with
    passwordResetTokenHash := some (some (AuthService.hashResetToken crypto (utf8 env.rawResetToken)))
    passwordResetExpiresAt := some (some (env.now + resetTokenTtl)) }

/-- The columns a reset sets. -/
def resetChanges (crypto : Crypto) (env : AuthEnvironment) (dto : ResetPasswordDto) : UserChanges :=
  ⟨some (crypto.bcryptHash env.salt dto.newPassword), some none, some none, some none⟩

/-- The user whose reset has not expired. -/
def User.underReset (now : Timestamp) (user : User) : Option Uuid :=
  user.passwordResetExpiresAt.bind fun expiresAt => if expiresAt < now then none else some user.id

def ResetPhase.ofFound : Option Uuid → ResetPhase
  | none => .started
  | some userId => .found userId

def requestProtocol (crypto : Crypto) (env : AuthEnvironment) : AutoProtocol statements ApiError ResetPhase where
  initial := .started
  allows phase
    | .user (.findByEmail _) => phase = .started
    | .user (.update userId changes) => phase = .found userId ∧ changes = requestedChanges crypto env
    | .enqueueMail _ => phase = .updated
    | _ => False
  next phase
    | .user (.findByEmail _), .ok found => .ofFound (found.map fun user : User => user.id)
    | .user (.update _ _), .ok _ => .updated
    | _, _ => phase

def resetProtocol (crypto : Crypto) (env : AuthEnvironment) (dto : ResetPasswordDto) :
    AutoProtocol statements ApiError ResetPhase where
  initial := .started
  allows phase
    | .user (.findByResetTokenHash hash) => phase = .started ∧ hash = AuthService.hashResetToken crypto dto.token
    | .user (.update userId changes) => phase = .found userId ∧ changes = resetChanges crypto env dto
    | _ => False
  next phase
    | .user (.findByResetTokenHash _), .ok found => .ofFound (found.bind fun user : User => user.underReset env.now)
    | .user (.update _ _), .ok _ => .updated
    | _, _ => phase

namespace ResetAction

variable (crypto : Crypto) (config : AuthConfig) (action : ResetAction)

def protocol : AutoProtocol statements ApiError ResetPhase :=
  match action.call with
  | .requestPasswordReset _ => requestProtocol crypto action.env
  | .resetPassword dto => resetProtocol crypto action.env dto

theorem initial_protocol : (action.protocol crypto).initial = .started := by
  unfold protocol
  cases action.call <;> rfl

/-- A reset returns if it has updated its user, and throws if it has not. -/
def Ends (action : ResetAction) (phase : ResetPhase) : Except ApiError Unit → Prop
  | .ok _ => action.presented.isSome = true → phase = .updated
  | .error _ => action.presented.isSome = true → phase ≠ .updated

variable {crypto config action}

theorem keeps_requestPasswordReset {env : AuthEnvironment} (dto : RequestPasswordResetDto) :
    (AuthService.requestPasswordReset crypto config env dto).Keeps (requestProtocol crypto env) (fun _ _ => True)
      .started := by
  refine Program.keeps_perform_bind rfl (fun _ => trivial) fun found => ?_
  cases found with
  | none => trivial
  | some user =>
    refine Program.keeps_perform_bind ⟨rfl, rfl⟩ (fun _ => trivial) fun _ => ?_
    exact Program.keeps_perform rfl fun _ => trivial

theorem keeps_resetPassword {env : AuthEnvironment} (dto : ResetPasswordDto) :
    (AuthService.resetPassword crypto env dto).Keeps (resetProtocol crypto env dto) (Ends ⟨env, .resetPassword dto⟩)
      .started := by
  have idle (error : ApiError) : Ends ⟨env, .resetPassword dto⟩ .started (.error error) :=
    fun _ => ResetPhase.noConfusion
  refine Program.keeps_perform_bind ⟨rfl, rfl⟩ idle fun found => ?_
  change Program.Keeps (resetProtocol crypto env dto) _ _
    (.ofFound (Option.bind found fun user : User => user.underReset env.now))
  cases found with
  | none => exact idle _
  | some user =>
    rw [Option.bind_some, Option.bind_some, User.underReset]
    cases user.passwordResetExpiresAt with
    | none => exact idle _
    | some expiresAt =>
      rw [Option.bind_some, Option.map_some]
      dsimp only
      split
      next => exact idle _
      next => exact Program.keeps_perform_bind ⟨rfl, rfl⟩ (fun _ _ => ResetPhase.noConfusion) fun _ _ => rfl

/-- Every call follows the protocol of its kind. -/
theorem keeps_handler : (action.handler crypto config).Keeps (action.protocol crypto) action.Ends
    (action.protocol crypto).initial := by
  obtain ⟨env, call⟩ := action
  cases call with
  | requestPasswordReset dto =>
    refine (keeps_requestPasswordReset dto).imp fun phase result _ => ?_
    cases result with
    | ok _ => exact fun presents => Bool.noConfusion presents
    | error _ => exact fun presents => Bool.noConfusion presents
  | resetPassword dto => exact keeps_resetPassword dto

end ResetAction

/-! ## Systems of calls -/

/-- A reset that was asked for. -/
structure PasswordReset where
  hash : Bytes
  expiresAt : Timestamp
  deriving DecidableEq

/-- The reset that a row holds. -/
def User.reset (user : User) : Option PasswordReset :=
  user.passwordResetTokenHash.bind fun hash => user.passwordResetExpiresAt.map (PasswordReset.mk hash)

/-- The reset that an update asks for. -/
def UserChanges.reset (changes : UserChanges) : Option PasswordReset :=
  changes.passwordResetTokenHash.join.bind fun hash => changes.passwordResetExpiresAt.join.map (PasswordReset.mk hash)

def Database.resetOf (db : Database) (userId : Uuid) : Option PasswordReset := (db.users.find userId).bind User.reset

namespace Database

theorem resetHashOf_of_resetOf {db : Database} {userId : Uuid} {reset : PasswordReset}
    (stored : db.resetOf userId = some reset) : db.resetHashOf userId = some reset.hash := by
  obtain ⟨user, found, isReset⟩ := Option.bind_eq_some_iff.mp stored
  obtain ⟨hash, isHash, isReset⟩ := Option.bind_eq_some_iff.mp isReset
  obtain ⟨expiresAt, -, rfl⟩ := Option.map_eq_some_iff.mp isReset
  rw [resetHashOf, found]
  exact isHash

/-- A reset that is found by its hash and has not expired is one that is stored. -/
theorem exists_resetOf {db : Database} {hash : Bytes} {now : Timestamp} {userId : Uuid}
    (underReset : (db.users.rows.find? fun row => row.passwordResetTokenHash = some hash).bind
      (User.underReset now) = some userId) :
    ∃ expiresAt, db.resetOf userId = some ⟨hash, expiresAt⟩ ∧ ¬ expiresAt < now := by
  obtain ⟨user, found, notExpired⟩ := Option.bind_eq_some_iff.mp underReset
  obtain ⟨expiresAt, expires, notExpired⟩ := Option.bind_eq_some_iff.mp notExpired
  have matching := List.find?_some found
  have isHash : user.passwordResetTokenHash = some hash := of_decide_eq_true matching
  have isRow : db.users.find user.id = some user := Table.find_of_mem (List.mem_of_find?_eq_some found)
  split at notExpired
  next => cases notExpired
  next inTime =>
    cases notExpired
    refine ⟨expiresAt, ?_, inTime⟩
    rw [resetOf, isRow, Option.bind_some, User.reset, isHash, expires]
    rfl

theorem resetHashOf_updateUser {db : Database} {id : Uuid} {changes : UserChanges} {hash : Option Bytes}
    (sets : changes.passwordResetTokenHash = some hash) (userId : Uuid) :
    (db.updateUser id changes).resetHashOf userId =
      if userId = id then (db.users.find id).bind fun _ => hash else db.resetHashOf userId := by
  rw [resetHashOf, find_updateUser]
  split
  next =>
    rw [Option.bind_map]
    refine congrArg (Option.bind _) (funext fun user => ?_)
    rw [Function.comp_apply, UserChanges.applyTo, sets]
    rfl
  next => rfl

end Database

abbrev ResetSystem (ι : Type) : Type := System ι Database RowKey DbWrite statements ApiError Unit

@[ext] structure ResetHistory (ι : Type) where
  /-- The reset last asked for, for each user. -/
  requested : Uuid → Option PasswordReset
  /-- The same, when a call looked up its token. -/
  seen : ι → Uuid → Option PasswordReset
  /-- The password changes, each with the call that made it. -/
  changes : List (ι × Uuid)
  /-- The token of a call has changed a password since the call looked it up. -/
  spent : ι → Bool
  /-- The calls that have changed the users. -/
  touched : ι → Bool

def ResetHistory.atStart {ι : Type} (start : Database) : ResetHistory ι :=
  ⟨start.resetOf, fun _ _ => none, [], fun _ => false, fun _ => false⟩

section Systems

variable {ι : Type} [DecidableEq ι] (crypto : Crypto) (config : AuthConfig) (actions : ι → ResetAction)

/-- The history after an operation of a call. -/
def ResetHistory.note (before : ResetHistory ι) (i : ι) : RequestOp statements → ResetHistory ι
  | .auto (.user (.findByResetTokenHash _)) =>
    { before with
      seen := Function.update before.seen i before.requested
      spent := Function.update before.spent i false }
  | .auto (.user (.update userId changes)) =>
    { before with
      requested := Function.update before.requested userId (changes.reset.or (before.requested userId))
      changes := if changes.passwordHash.isSome = true then (i, userId) :: before.changes else before.changes
      spent := fun j => before.spent j ||
        (changes.passwordHash.isSome && (actions j).presented == (actions i).presented) }
  | _ => before

namespace ResetSystem

def ofCalls (start : Database) : ResetSystem ι :=
  System.start start fun i => ((actions i).handler crypto config).autocommit

def protocol (i : ι) : Protocol statements ApiError ResetPhase := ((actions i).protocol crypto).lift

def observe (source : ResetSystem ι) (act : Act ι ApiError) (before : ResetHistory ι) : ResetHistory ι :=
  match source.executes act with
  | none => before
  | some (i, op) =>
    let after := shop.perform (source.thread i).session source.db op
    let touches : Bool := after.db.users.rows ≠ source.db.users.rows
    { before.note actions i op with touched := Function.update before.touched i (before.touched i || touches) }

/-- A call changes a password by a token that has changed one since the call looked it up. -/
def spendsAgain (source : ResetSystem ι) (act : Act ι ApiError) (before : ResetHistory ι) : Bool :=
  match source.executes act with
  | some (i, .auto (.user (.update _ changes))) => changes.passwordHash.isSome && before.spent i
  | _ => false

/-- When the call looked its token up, this was the one last asked for, and it had not expired. -/
def IsCurrent (history : ResetHistory ι) (i : ι) (userId : Uuid) : Prop :=
  ∃ token reset, (actions i).presented = some token ∧ history.seen i userId = some reset ∧
    reset.hash = AuthService.hashResetToken crypto token ∧ ¬ reset.expiresAt < (actions i).env.now

/-- No token changes a password twice, a token changes one only if it is current, and all other resets are
    rejected and leave the users as they are. -/
structure TokensHold (state : ResetSystem ι × ResetHistory ι) : Prop where
  once : (state.2.changes.map fun change => (actions change.1).presented).Nodup
  current : ∀ i userId, (i, userId) ∈ state.2.changes → IsCurrent crypto actions state.2 i userId
  rejected : ∀ i, (actions i).presented.isSome = true → (∀ userId, (i, userId) ∉ state.2.changes) →
    state.2.touched i = false ∧ ∀ value, (state.1.thread i).program ≠ .done value

end ResetSystem

/-- No token is generated twice, and no two have the same hash; the tokens from before are as good. -/
structure FreshTokens (start : Database) : Prop where
  distinct : ∀ i j hash, (actions i).issued crypto = some hash → (actions j).issued crypto = some hash → i = j
  unused : ∀ i hash userId, (actions i).issued crypto = some hash → start.resetHashOf userId ≠ some hash
  atStart : ∀ userId other hash, start.resetHashOf userId = some hash → start.resetHashOf other = some hash →
    userId = other

end Systems

section Runs

variable {ι : Type} [DecidableEq ι] {crypto : Crypto} {config : AuthConfig} {actions : ι → ResetAction}
  {start : Database}

namespace ResetSystem

/-- The phase of every call. -/
abbrev phases (crypto : Crypto) (actions : ι → ResetAction) (state : ResetSystem ι × ResetHistory ι) : ι → ResetPhase :=
  state.1.phase (protocol crypto actions)

/-- What a step can do, and whether it spends a token again. -/
inductive Move (crypto : Crypto) (actions : ι → ResetAction) (source target : ResetSystem ι × ResetHistory ι) :
    Bool → Prop where
  | quiet (sameDb : target.1.db = source.1.db)
    (samePhases : phases crypto actions target = phases crypto actions source) (sameHistory : target.2 = source.2) :
    Move crypto actions source target false
  | asks (i : ι) (found : Option Uuid) (isRequest : (actions i).presented = none)
    (before : phases crypto actions source i = .started) (sameDb : target.1.db = source.1.db)
    (after : phases crypto actions target = Function.update (phases crypto actions source) i (.ofFound found))
    (sameHistory : target.2 = source.2) : Move crypto actions source target false
  | looksUp (i : ι) (token : Bytes) (presents : (actions i).presented = some token)
    (before : phases crypto actions source i = .started) (sameDb : target.1.db = source.1.db)
    (after : phases crypto actions target = Function.update (phases crypto actions source) i
      (.ofFound ((source.1.db.users.rows.find? fun row =>
        row.passwordResetTokenHash = some (AuthService.hashResetToken crypto token)).bind
          (User.underReset (actions i).env.now))))
    (history : target.2 = { source.2 with
      seen := Function.update source.2.seen i source.2.requested
      spent := Function.update source.2.spent i false }) : Move crypto actions source target false
  | requests (i : ι) (hash : Bytes) (userId : Uuid) (changes : UserChanges) (expiresAt : Timestamp) (touches : Bool)
    (isRequest : (actions i).presented = none) (issues : (actions i).issued crypto = some hash)
    (sets : changes.passwordResetTokenHash = some (some hash) ∧ changes.passwordResetExpiresAt = some (some expiresAt))
    (before : phases crypto actions source i = .found userId)
    (updated : target.1.db = source.1.db.updateUser userId changes)
    (after : phases crypto actions target = Function.update (phases crypto actions source) i .updated)
    (history : target.2 = { source.2 with
      requested := Function.update source.2.requested userId (some ⟨hash, expiresAt⟩)
      touched := Function.update source.2.touched i touches }) : Move crypto actions source target false
  | resets (i : ι) (token : Bytes) (userId : Uuid) (changes : UserChanges) (touches : Bool)
    (presents : (actions i).presented = some token) (clears : changes.passwordResetTokenHash = some none)
    (before : phases crypto actions source i = .found userId)
    (updated : target.1.db = source.1.db.updateUser userId changes)
    (after : phases crypto actions target = Function.update (phases crypto actions source) i .updated)
    (history : target.2 = { source.2 with
      changes := (i, userId) :: source.2.changes
      spent := fun j => source.2.spent j || (actions j).presented == some token
      touched := Function.update source.2.touched i touches }) : Move crypto actions source target (source.2.spent i)

theorem exists_observe {source : ResetSystem ι} {act : Act ι ApiError} {i : ι} {op : RequestOp statements}
    (executes : source.executes act = some (i, op)) (before : ResetHistory ι) :
    ∃ touches, observe actions source act before =
      { before.note actions i op with touched := Function.update before.touched i touches } :=
  ⟨_, by simp only [observe, executes]; rfl⟩

theorem observe_of_same {source : ResetSystem ι} {act : Act ι ApiError} {before : ResetHistory ι} {i : ι}
    {op : RequestOp statements} (executes : source.executes act = some (i, op))
    (keeps : (before.note actions i op).touched = before.touched)
    (sameDb : (shop.perform (source.thread i).session source.db op).db = source.db) :
    observe actions source act before = before.note actions i op := by
  simp only [observe, executes, sameDb, ne_eq, not_true, decide_false, Bool.or_false, Function.update_eq_self]
  exact ResetHistory.ext rfl rfl rfl rfl keeps.symm

theorem note_requests (before : ResetHistory ι) (i : ι) (userId : Uuid) (env : AuthEnvironment) :
    before.note actions i (.auto (.user (.update userId (requestedChanges crypto env)))) =
      { before with
        requested := Function.update before.requested userId
          (some ⟨AuthService.hashResetToken crypto (utf8 env.rawResetToken), env.now + resetTokenTtl⟩) } := by
  have unspent : (fun j => before.spent j || (false && (actions j).presented == (actions i).presented)) =
      before.spent := funext fun j => by rw [Bool.false_and, Bool.or_false]
  exact ResetHistory.ext rfl rfl rfl unspent rfl

theorem note_resets (before : ResetHistory ι) (i : ι) (userId : Uuid) (env : AuthEnvironment) (dto : ResetPasswordDto) :
    before.note actions i (.auto (.user (.update userId (resetChanges crypto env dto)))) =
      { before with
        changes := (i, userId) :: before.changes
        spent := fun j => before.spent j || (actions j).presented == (actions i).presented } := by
  have unasked : Function.update before.requested userId (before.requested userId) = before.requested :=
    Function.update_eq_self _ _
  exact ResetHistory.ext unasked rfl rfl rfl rfl

theorem next_error (action : ResetAction) (phase : ResetPhase) (op : Statement) (error : ApiError) :
    (action.protocol crypto).next phase op (.error error) = phase := by
  obtain ⟨env, call⟩ := action
  cases call with
  | requestPasswordReset =>
    cases op with
    | user statement => cases statement <;> rfl
    | _ => rfl
  | resetPassword =>
    cases op with
    | user statement => cases statement <;> rfl
    | _ => rfl

theorem move_of_step [Fintype ι] {source target : ResetSystem ι × ResetHistory ι} {act : Act ι ApiError}
    (follows : source.1.Follows (protocol crypto actions) fun i => (actions i).Ends)
    (stepped : shop.Steps source.1 act target.1) (observed : target.2 = observe actions source.1 act source.2) :
    Move crypto actions source target (spendsAgain source.1 act source.2) := by
  obtain ⟨-, ⟨i, op, resume, rfl, calls, allowed, after, phased⟩ | ⟨i, op, error, rfl, -, after, phased⟩ |
    ⟨i, rfl, after, phased⟩⟩ := Engine.autoStep_cases (P := fun i => (actions i).protocol crypto) follows stepped
  · have executes := System.executes_run calls
    have sameReply := (Engine.perform_auto (E := shop) (source.1.thread i).session source.1.db op)
    change phases crypto actions target = _ at phased
    change ((actions i).protocol crypto).allows (phases crypto actions source i) op at allowed
    simp only [spendsAgain, executes]
    cases isCall : (actions i).call with
    | requestPasswordReset dto =>
      have isRequest : (actions i).presented = none := by simp only [ResetAction.presented, isCall]
      have issues : (actions i).issued crypto =
          some (AuthService.hashResetToken crypto (utf8 (actions i).env.rawResetToken)) := by
        simp only [ResetAction.issued, isCall]
      simp only [ResetAction.protocol, isCall] at allowed phased
      cases op with
      | user statement =>
        cases statement with
        -- the request looks its account up
        | findByEmail email =>
          exact .asks i _ isRequest allowed after phased (observed.trans (observe_of_same executes rfl sameReply.2.1))
        | update userId changes =>
          obtain ⟨isFound, rfl⟩ := allowed
          rw [Database.executeOn_updateUser] at after phased
          obtain ⟨touches, observes⟩ := exists_observe executes source.2
          rw [note_requests] at observes
          exact .requests i _ userId _ _ touches isRequest issues ⟨rfl, rfl⟩ isFound after phased
            (observed.trans observes)
        | _ => exact allowed.elim
      -- the mail changes neither the rows nor the history
      | enqueueMail mail =>
        refine .quiet after (phased.trans (Function.update_eq_self i _)) (observed.trans ?_)
        exact observe_of_same executes rfl sameReply.2.1
      | _ => exact allowed.elim
    | resetPassword dto =>
      have presents : (actions i).presented = some dto.token := by simp only [ResetAction.presented, isCall]
      simp only [ResetAction.protocol, isCall] at allowed phased
      cases op with
      | user statement =>
        cases statement with
        | findByResetTokenHash hash =>
          obtain ⟨isStart, rfl⟩ := allowed
          refine .looksUp i dto.token presents isStart after phased (observed.trans ?_)
          exact observe_of_same executes rfl sameReply.2.1
        | update userId changes =>
          obtain ⟨isFound, rfl⟩ := allowed
          rw [Database.executeOn_updateUser] at after phased
          obtain ⟨touches, observes⟩ := exists_observe executes source.2
          rw [note_resets, presents] at observes
          exact .resets i dto.token userId _ touches presents rfl isFound after phased (observed.trans observes)
        | _ => exact allowed.elim
      | _ => exact allowed.elim
  -- a call that fails stays where it is
  · rw [next_error, Function.update_eq_self] at phased
    exact .quiet after phased observed
  · exact .quiet after phased observed

/-- A hash that was stored at the start, or by a request since. -/
def Issued (crypto : Crypto) (actions : ι → ResetAction) (start : Database) (phases : ι → ResetPhase) (hash : Bytes) :
    Prop :=
  (∃ userId, start.resetHashOf userId = some hash) ∨ ∃ j, (actions j).issued crypto = some hash ∧ phases j = .updated

omit [DecidableEq ι] in
theorem Issued.mono {before after : ι → ResetPhase} {hash : Bytes} (issued : Issued crypto actions start before hash)
    (keeps : ∀ j, before j = .updated → after j = .updated) : Issued crypto actions start after hash :=
  issued.imp_right fun made => made.imp fun j stored => ⟨stored.1, keeps j stored.2⟩

/-- What is known beside the claim. -/
structure Invariant (crypto : Crypto) (actions : ι → ResetAction) (start : Database)
    (state : ResetSystem ι × ResetHistory ι) : Prop where
  follows : state.1.Follows (protocol crypto actions) fun i => (actions i).Ends
  /-- The rows hold resets last asked for. -/
  stored : ∀ userId reset, state.1.db.resetOf userId = some reset → state.2.requested userId = some reset
  known : ∀ userId hash, state.1.db.resetHashOf userId = some hash →
    Issued crypto actions start (phases crypto actions state) hash
  apart : ∀ userId other hash, state.1.db.resetHashOf userId = some hash → state.1.db.resetHashOf other = some hash →
    userId = other
  /-- A call about to change a password has looked up a current token, which nobody else has. -/
  found : ∀ i userId token, phases crypto actions state i = .found userId → (actions i).presented = some token →
    IsCurrent crypto actions state.2 i userId ∧
      Issued crypto actions start (phases crypto actions state) (AuthService.hashResetToken crypto token) ∧
      ∀ other, state.1.db.resetHashOf other = some (AuthService.hashResetToken crypto token) → other = userId
  changed : ∀ i userId, (i, userId) ∈ state.2.changes →
    phases crypto actions state i = .updated ∧ IsCurrent crypto actions state.2 i userId
  /-- A token that has changed a password is not stored any more, and will not be. -/
  gone : ∀ i userId token, (i, userId) ∈ state.2.changes → (actions i).presented = some token →
    Issued crypto actions start (phases crypto actions state) (AuthService.hashResetToken crypto token) ∧
      ∀ other, state.1.db.resetHashOf other ≠ some (AuthService.hashResetToken crypto token)
  updated : ∀ i, (actions i).presented.isSome = true → phases crypto actions state i = .updated →
    ∃ userId, (i, userId) ∈ state.2.changes
  overlaps : ∀ i userId, phases crypto actions state i = .found userId → ∀ j other, (j, other) ∈ state.2.changes →
    (actions j).presented = (actions i).presented → state.2.spent i = true
  spender : ∀ i, state.2.spent i = true → ∃ j userId, (j, userId) ∈ state.2.changes ∧
    (actions j).presented = (actions i).presented
  untouched : ∀ i, (actions i).presented.isSome = true → phases crypto actions state i ≠ .updated →
    state.2.touched i = false

variable {source target : ResetSystem ι × ResetHistory ι}

theorem updated_of_update {before after : ι → ResetPhase} {i : ι} {phase : ResetPhase}
    (isAfter : after = Function.update before i phase) (keeps : before i = .updated → phase = .updated) (j : ι)
    (isUpdated : before j = .updated) : after j = .updated := by
  rw [isAfter]
  by_cases same : j = i
  · subst same
    rw [Function.update_self]
    exact keeps isUpdated
  · rw [Function.update_of_ne same]
    exact isUpdated

omit [DecidableEq ι] in
theorem ofFound_eq_found {found : Option Uuid} {userId : Uuid}
    (isFound : ResetPhase.ofFound found = .found userId) : found = some userId := by
  cases found with
  | none => cases isFound
  | some _ => cases isFound; rfl

omit [DecidableEq ι] in
theorem ofFound_ne_updated (found : Option Uuid) : ResetPhase.ofFound found ≠ .updated := by
  cases found <;> exact ResetPhase.noConfusion

/-- A lookup moves nobody to or from the end. -/
theorem updated_iff_of_ofFound {before after : ι → ResetPhase} {i : ι} {found : Option Uuid}
    (isStart : before i = .started) (isAfter : after = Function.update before i (.ofFound found)) (j : ι) :
    after j = .updated ↔ before j = .updated := by
  rw [isAfter]
  by_cases same : j = i
  · subst same
    rw [Function.update_self, isStart]
    exact iff_of_false (ofFound_ne_updated found) ResetPhase.noConfusion
  · rw [Function.update_of_ne same]

omit [DecidableEq ι] in
theorem Invariant.quiet (invariant : Invariant crypto actions start source)
    (follows : target.1.Follows (protocol crypto actions) fun i => (actions i).Ends)
    (sameDb : target.1.db = source.1.db) (samePhases : phases crypto actions target = phases crypto actions source)
    (sameHistory : target.2 = source.2) : Invariant crypto actions start target where
  follows := follows
  stored := by rw [sameDb, sameHistory]; exact invariant.stored
  known := by rw [sameDb, samePhases]; exact invariant.known
  apart := by rw [sameDb]; exact invariant.apart
  found := by rw [sameDb, samePhases, sameHistory]; exact invariant.found
  changed := by rw [samePhases, sameHistory]; exact invariant.changed
  gone := by rw [sameDb, samePhases, sameHistory]; exact invariant.gone
  updated := by rw [samePhases, sameHistory]; exact invariant.updated
  overlaps := by rw [samePhases, sameHistory]; exact invariant.overlaps
  spender := by rw [sameHistory]; exact invariant.spender
  untouched := by rw [samePhases, sameHistory]; exact invariant.untouched

/-- A request looks its user up. -/
theorem Invariant.asks (invariant : Invariant crypto actions start source)
    (follows : target.1.Follows (protocol crypto actions) fun i => (actions i).Ends) {i : ι} {found : Option Uuid}
    (isRequest : (actions i).presented = none) (before : phases crypto actions source i = .started)
    (sameDb : target.1.db = source.1.db)
    (after : phases crypto actions target = Function.update (phases crypto actions source) i (.ofFound found))
    (sameHistory : target.2 = source.2) : Invariant crypto actions start target := by
  have ends := updated_iff_of_ofFound before after
  have stays (j : ι) := (ends j).mpr
  have unmoved {j : ι} (isReset : (actions j).presented ≠ none) :
      phases crypto actions target j = phases crypto actions source j := by
    rw [after, Function.update_of_ne fun same : j = i => isReset (same ▸ isRequest)]
  refine ⟨follows, ?_, ?_, ?_, ?_, ?_, ?_, ?_, ?_, ?_, ?_⟩
  · rw [sameDb, sameHistory]
    exact invariant.stored
  · rw [sameDb]
    exact fun userId hash stored => (invariant.known userId hash stored).mono stays
  · rw [sameDb]
    exact invariant.apart
  · intro j userId token isFound presents
    rw [unmoved (presents ▸ Option.some_ne_none token)] at isFound
    rw [sameHistory, sameDb]
    obtain ⟨isCurrent, issued, alone⟩ := invariant.found j userId token isFound presents
    exact ⟨isCurrent, issued.mono stays, alone⟩
  · rw [sameHistory]
    intro j userId made
    obtain ⟨isUpdated, isCurrent⟩ := invariant.changed j userId made
    exact ⟨stays j isUpdated, isCurrent⟩
  · rw [sameHistory, sameDb]
    intro j userId token made presents
    obtain ⟨issued, notStored⟩ := invariant.gone j userId token made presents
    exact ⟨issued.mono stays, notStored⟩
  · rw [sameHistory]
    exact fun j isReset isUpdated => invariant.updated j isReset ((ends j).mp isUpdated)
  · rw [sameHistory]
    intro j userId isFound k other made sameToken
    obtain ⟨-, mine, -, presents, -⟩ := invariant.changed k other made
    rw [unmoved (sameToken ▸ presents ▸ Option.some_ne_none mine)] at isFound
    exact invariant.overlaps j userId isFound k other made sameToken
  · rw [sameHistory]
    exact invariant.spender
  · rw [sameHistory]
    exact fun j isReset notUpdated => invariant.untouched j isReset fun isUpdated => notUpdated (stays j isUpdated)

/-- A reset looks its token up. -/
theorem Invariant.looksUp (invariant : Invariant crypto actions start source)
    (follows : target.1.Follows (protocol crypto actions) fun i => (actions i).Ends) {i : ι} {token : Bytes}
    (presents : (actions i).presented = some token) (before : phases crypto actions source i = .started)
    (sameDb : target.1.db = source.1.db)
    (after : phases crypto actions target = Function.update (phases crypto actions source) i
      (.ofFound ((source.1.db.users.rows.find? fun row =>
        row.passwordResetTokenHash = some (AuthService.hashResetToken crypto token)).bind
          (User.underReset (actions i).env.now))))
    (history : target.2 = { source.2 with
      seen := Function.update source.2.seen i source.2.requested
      spent := Function.update source.2.spent i false }) : Invariant crypto actions start target := by
  have ends := updated_iff_of_ofFound before after
  have stays (j : ι) := (ends j).mpr
  have unmoved {j : ι} (differs : j ≠ i) : phases crypto actions target j = phases crypto actions source j := by
    rw [after, Function.update_of_ne differs]
  have isCurrent {j : ι} {userId : Uuid} (differs : j ≠ i) (was : IsCurrent crypto actions source.2 j userId) :
      IsCurrent crypto actions target.2 j userId := by
    obtain ⟨mine, reset, presents, seen, rest⟩ := was
    refine ⟨mine, reset, presents, ?_, rest⟩
    rw [history]
    exact (congrFun (Function.update_of_ne differs _ _) userId).trans seen
  -- a call finds the account whose hash is stored and in time
  have finds {userId : Uuid} (isFound : phases crypto actions target i = .found userId) :
      ∃ expiresAt, source.1.db.resetOf userId = some ⟨AuthService.hashResetToken crypto token, expiresAt⟩ ∧
        ¬ expiresAt < (actions i).env.now := by
    rw [after, Function.update_self] at isFound
    exact Database.exists_resetOf (ofFound_eq_found isFound)
  have sameChanges : target.2.changes = source.2.changes := by rw [history]
  refine ⟨follows, ?_, ?_, ?_, ?_, ?_, ?_, ?_, ?_, ?_, ?_⟩
  · rw [sameDb, history]
    exact invariant.stored
  · rw [sameDb]
    exact fun userId hash stored => (invariant.known userId hash stored).mono stays
  · rw [sameDb]
    exact invariant.apart
  · intro j userId mine isFound isMine
    by_cases same : j = i
    · -- what the call finds is stored, and so it is what was last asked for
      subst same
      obtain rfl : mine = token := Option.some.inj (isMine.symm.trans presents)
      obtain ⟨expiresAt, stored, inTime⟩ := finds isFound
      have isHash := Database.resetHashOf_of_resetOf stored
      refine ⟨⟨mine, ⟨_, expiresAt⟩, isMine, ?_, rfl, inTime⟩, (invariant.known userId _ isHash).mono stays, ?_⟩
      · rw [history]
        exact (congrFun (Function.update_self _ _ _) userId).trans (invariant.stored userId _ stored)
      · rw [sameDb]
        exact fun other isOther => invariant.apart other userId _ isOther isHash
    · rw [unmoved same] at isFound
      rw [sameDb]
      obtain ⟨was, issued, alone⟩ := invariant.found j userId mine isFound isMine
      exact ⟨isCurrent same was, issued.mono stays, alone⟩
  · rw [sameChanges]
    intro j userId made
    obtain ⟨isUpdated, was⟩ := invariant.changed j userId made
    refine ⟨stays j isUpdated, isCurrent (fun same => ?_) was⟩
    exact ResetPhase.noConfusion ((same ▸ before).symm.trans isUpdated)
  · rw [sameChanges, sameDb]
    intro j userId mine made isMine
    obtain ⟨issued, notStored⟩ := invariant.gone j userId mine made isMine
    exact ⟨issued.mono stays, notStored⟩
  · rw [sameChanges]
    exact fun j isReset isUpdated => invariant.updated j isReset ((ends j).mp isUpdated)
  · rw [sameChanges]
    intro j userId isFound k other made sameToken
    by_cases same : j = i
    · -- a token that has changed a password is not found
      subst same
      obtain ⟨expiresAt, stored, -⟩ := finds isFound
      exact absurd (Database.resetHashOf_of_resetOf stored)
        ((invariant.gone k other token made (sameToken.trans presents)).2 userId)
    · rw [unmoved same] at isFound
      rw [history]
      exact (Function.update_of_ne same _ _).trans (invariant.overlaps j userId isFound k other made sameToken)
  · rw [sameChanges]
    intro j isSpent
    refine invariant.spender j ?_
    rw [history] at isSpent
    -- the lookup forgets what was spent before it
    change Function.update source.2.spent i false j = true at isSpent
    rw [Function.update_apply] at isSpent
    split at isSpent
    next => cases isSpent
    next => exact isSpent
  · rw [history]
    exact fun j isReset notUpdated => invariant.untouched j isReset fun isUpdated => notUpdated (stays j isUpdated)

/-- A request stores its hash: a new one. -/
theorem Invariant.requests (fresh : FreshTokens crypto actions start)
    (invariant : Invariant crypto actions start source)
    (follows : target.1.Follows (protocol crypto actions) fun i => (actions i).Ends) {i : ι} {hash : Bytes}
    {userId : Uuid} {changes : UserChanges} {expiresAt : Timestamp} {touches : Bool}
    (isRequest : (actions i).presented = none) (issues : (actions i).issued crypto = some hash)
    (sets : changes.passwordResetTokenHash = some (some hash) ∧ changes.passwordResetExpiresAt = some (some expiresAt))
    (before : phases crypto actions source i = .found userId)
    (updated : target.1.db = source.1.db.updateUser userId changes)
    (after : phases crypto actions target = Function.update (phases crypto actions source) i .updated)
    (history : target.2 = { source.2 with
      requested := Function.update source.2.requested userId (some ⟨hash, expiresAt⟩)
      touched := Function.update source.2.touched i touches }) : Invariant crypto actions start target := by
  have stays := updated_of_update after fun _ => rfl
  -- the invariant knows only hashes of the start and of finished requests
  have isNew : ¬ Issued crypto actions start (phases crypto actions source) hash := by
    rintro (⟨owner, stored⟩ | ⟨j, same, isUpdated⟩)
    · exact fresh.unused i hash owner issues stored
    · rw [fresh.distinct j i hash same issues, before] at isUpdated
      cases isUpdated
  have unmoved {j : ι} (isReset : (actions j).presented ≠ none) :
      phases crypto actions target j = phases crypto actions source j := by
    rw [after, Function.update_of_ne fun same : j = i => isReset (same ▸ isRequest)]
  have isIssued : Issued crypto actions start (phases crypto actions target) hash :=
    .inr ⟨i, issues, by rw [after, Function.update_self]⟩
  -- in the table the new hash stands at its account, the others where they were
  have stored (owner : Uuid) (other : Bytes) (isStored : target.1.db.resetHashOf owner = some other) :
      owner = userId ∧ other = hash ∨ owner ≠ userId ∧ source.1.db.resetHashOf owner = some other := by
    rw [updated, Database.resetHashOf_updateUser sets.1] at isStored
    split at isStored
    next same =>
      obtain ⟨_, -, isHash⟩ := Option.bind_eq_some_iff.mp isStored
      exact .inl ⟨same, (Option.some.inj isHash).symm⟩
    next differs => exact .inr ⟨differs, isStored⟩
  have sameChanges : target.2.changes = source.2.changes := by rw [history]
  refine ⟨follows, ?_, ?_, ?_, ?_, ?_, ?_, ?_, ?_, ?_, ?_⟩
  · intro owner reset isStored
    rw [history]
    rw [updated, Database.resetOf, Database.find_updateUser] at isStored
    split at isStored
    next same =>
      obtain ⟨row, isRow, isReset⟩ := Option.bind_eq_some_iff.mp isStored
      obtain ⟨_, -, rfl⟩ := Option.map_eq_some_iff.mp isRow
      rw [User.reset, UserChanges.applyTo, sets.1, sets.2] at isReset
      rw [same]
      exact (Function.update_self _ _ _).trans isReset
    next differs => exact (Function.update_of_ne differs _ _).trans (invariant.stored owner reset isStored)
  -- every stored hash has been issued
  · intro owner other isStored
    obtain ⟨-, rfl⟩ | ⟨-, isStored⟩ := stored owner other isStored
    · exact isIssued
    · exact (invariant.known owner other isStored).mono stays
  -- no two accounts share a hash: the new one is nobody else's
  · intro owner other found first second
    obtain ⟨rfl, rfl⟩ | ⟨-, first⟩ := stored owner found first
    · obtain ⟨rfl, -⟩ | ⟨-, second⟩ := stored other found second
      · rfl
      · exact absurd (invariant.known other found second) isNew
    · obtain ⟨-, rfl⟩ | ⟨-, second⟩ := stored other found second
      · exact absurd (invariant.known owner found first) isNew
      · exact invariant.apart owner other found first second
  -- what a reset has found is no longer stored, or stored where it was found
  · intro j owner token isFound presents
    rw [unmoved (presents ▸ Option.some_ne_none token)] at isFound
    obtain ⟨isCurrent, issued, alone⟩ := invariant.found j owner token isFound presents
    rw [history]
    refine ⟨isCurrent, issued.mono stays, fun other isStored => ?_⟩
    obtain ⟨-, same⟩ | ⟨-, isStored⟩ := stored other _ isStored
    · exact absurd (same ▸ issued) isNew
    · exact alone other isStored
  · rw [history]
    intro j owner made
    obtain ⟨isUpdated, isCurrent⟩ := invariant.changed j owner made
    exact ⟨stays j isUpdated, isCurrent⟩
  -- a token that has changed a password is not the new one
  · rw [sameChanges]
    intro j owner token made presents
    obtain ⟨issued, notStored⟩ := invariant.gone j owner token made presents
    refine ⟨issued.mono stays, fun other isStored => ?_⟩
    obtain ⟨-, same⟩ | ⟨-, isStored⟩ := stored other _ isStored
    · exact isNew (same ▸ issued)
    · exact notStored other isStored
  · rw [sameChanges]
    intro j isReset isUpdated
    rw [unmoved (Option.isSome_iff_ne_none.mp isReset)] at isUpdated
    exact invariant.updated j isReset isUpdated
  · rw [history]
    intro j owner isFound k other made sameToken
    obtain ⟨-, mine, -, presents, -⟩ := invariant.changed k other made
    rw [unmoved (sameToken ▸ presents ▸ Option.some_ne_none mine)] at isFound
    exact invariant.overlaps j owner isFound k other made sameToken
  · rw [history]
    exact invariant.spender
  · rw [history]
    intro j isReset notUpdated
    have differs : j ≠ i := fun same => Option.isSome_iff_ne_none.mp isReset (same ▸ isRequest)
    exact (Function.update_of_ne differs _ _).trans
      (invariant.untouched j isReset fun isUpdated => notUpdated (stays j isUpdated))

/-- A reset changes the password, and clears the hash it has looked up. -/
theorem Invariant.resets (invariant : Invariant crypto actions start source)
    (follows : target.1.Follows (protocol crypto actions) fun i => (actions i).Ends) {i : ι} {token : Bytes}
    {userId : Uuid} {changes : UserChanges} {touches : Bool} (presents : (actions i).presented = some token)
    (clears : changes.passwordResetTokenHash = some none) (before : phases crypto actions source i = .found userId)
    (updated : target.1.db = source.1.db.updateUser userId changes)
    (after : phases crypto actions target = Function.update (phases crypto actions source) i .updated)
    (history : target.2 = { source.2 with
      changes := (i, userId) :: source.2.changes
      spent := fun j => source.2.spent j || (actions j).presented == some token
      touched := Function.update source.2.touched i touches }) : Invariant crypto actions start target := by
  have stays := updated_of_update after fun _ => rfl
  have unmoved {j : ι} (differs : j ≠ i) : phases crypto actions target j = phases crypto actions source j := by
    rw [after, Function.update_of_ne differs]
  have isUpdated : phases crypto actions target i = .updated := by rw [after, Function.update_self]
  -- the update only clears: what is stored now was stored at another account
  have stored {owner : Uuid} {hash : Bytes} (isStored : target.1.db.resetHashOf owner = some hash) :
      owner ≠ userId ∧ source.1.db.resetHashOf owner = some hash := by
    rw [updated, Database.resetHashOf_updateUser clears] at isStored
    split at isStored
    next =>
      obtain ⟨_, -, isNone⟩ := Option.bind_eq_some_iff.mp isStored
      cases isNone
    next differs => exact ⟨differs, isStored⟩
  have isFirst := invariant.found i userId token before presents
  -- one password change more, that of this call
  have changed {j : ι} {owner : Uuid} (made : (j, owner) ∈ target.2.changes) :
      j = i ∧ owner = userId ∨ (j, owner) ∈ source.2.changes := by
    rw [history] at made
    exact (List.mem_cons.mp made).imp_left fun same => ⟨congrArg Prod.fst same, congrArg Prod.snd same⟩
  have kept {j : ι} {owner : Uuid} (made : (j, owner) ∈ source.2.changes) : (j, owner) ∈ target.2.changes := by
    rw [history]
    exact List.mem_cons_of_mem _ made
  have isCurrent {j : ι} {owner : Uuid} (was : IsCurrent crypto actions source.2 j owner) :
      IsCurrent crypto actions target.2 j owner := by
    rw [history]
    exact was
  refine ⟨follows, ?_, ?_, ?_, ?_, ?_, ?_, ?_, ?_, ?_, ?_⟩
  · intro owner reset isStored
    rw [history]
    have differs := (stored (Database.resetHashOf_of_resetOf isStored)).1
    rw [updated, Database.resetOf, Database.find_updateUser, if_neg differs] at isStored
    exact invariant.stored owner reset isStored
  · exact fun owner hash isStored => (invariant.known owner hash (stored isStored).2).mono stays
  · exact fun owner other hash first second => invariant.apart owner other hash (stored first).2 (stored second).2
  · intro j owner mine isFound isMine
    have differs : j ≠ i := fun same => ResetPhase.noConfusion (isFound.symm.trans (same ▸ isUpdated))
    rw [unmoved differs] at isFound
    obtain ⟨was, issued, alone⟩ := invariant.found j owner mine isFound isMine
    exact ⟨isCurrent was, issued.mono stays, fun other isStored => alone other (stored isStored).2⟩
  · intro j owner made
    obtain ⟨rfl, rfl⟩ | made := changed made
    · exact ⟨isUpdated, isCurrent isFirst.1⟩
    · obtain ⟨wasUpdated, was⟩ := invariant.changed j owner made
      exact ⟨stays j wasUpdated, isCurrent was⟩
  -- the token that has just been used is cleared, and was stored nowhere else
  · intro j owner mine made isMine
    obtain ⟨rfl, rfl⟩ | made := changed made
    · obtain rfl : mine = token := Option.some.inj (isMine.symm.trans presents)
      refine ⟨isFirst.2.1.mono stays, fun other isStored => ?_⟩
      exact (stored isStored).1 (isFirst.2.2 other (stored isStored).2)
    · obtain ⟨issued, notStored⟩ := invariant.gone j owner mine made isMine
      exact ⟨issued.mono stays, fun other isStored => notStored other (stored isStored).2⟩
  · intro j isReset wasUpdated
    by_cases same : j = i
    · refine ⟨userId, ?_⟩
      rw [same, history]
      exact List.mem_cons_self
    · rw [unmoved same] at wasUpdated
      obtain ⟨owner, made⟩ := invariant.updated j isReset wasUpdated
      exact ⟨owner, kept made⟩
  -- a call that holds the same token is behind now
  · intro j owner isFound k other made sameToken
    have differs : j ≠ i := fun same => ResetPhase.noConfusion (isFound.symm.trans (same ▸ isUpdated))
    rw [unmoved differs] at isFound
    rw [history]
    change (source.2.spent j || (actions j).presented == some token) = true
    obtain ⟨rfl, rfl⟩ | made := changed made
    · rw [← sameToken, presents, beq_self_eq_true, Bool.or_true]
    · rw [invariant.overlaps j owner isFound k other made sameToken, Bool.true_or]
  -- and this call is the one that has spent it
  · intro j isSpent
    rw [history] at isSpent
    obtain isSpent | sameToken := Bool.or_eq_true_iff.mp isSpent
    · obtain ⟨k, other, made, sameToken⟩ := invariant.spender j isSpent
      exact ⟨k, other, kept made, sameToken⟩
    · refine ⟨i, userId, ?_, presents.trans (eq_of_beq sameToken).symm⟩
      rw [history]
      exact List.mem_cons_self
  · intro j isReset notUpdated
    rw [history]
    have differs : j ≠ i := fun same => notUpdated (same ▸ isUpdated)
    exact (Function.update_of_ne differs _ _).trans
      (invariant.untouched j isReset fun isUpdated => notUpdated (stays j isUpdated))

theorem Invariant.step [Fintype ι] (fresh : FreshTokens crypto actions start)
    (invariant : Invariant crypto actions start source) {act : Act ι ApiError}
    (stepped : shop.Steps source.1 act target.1) (observed : target.2 = observe actions source.1 act source.2) :
    Invariant crypto actions start target := by
  have follows := Engine.follows_step invariant.follows stepped
  have move := move_of_step invariant.follows stepped observed
  generalize spendsAgain source.1 act source.2 = again at move
  cases move with
  | quiet sameDb samePhases sameHistory => exact invariant.quiet follows sameDb samePhases sameHistory
  | asks i found isRequest before sameDb after sameHistory =>
    exact invariant.asks follows isRequest before sameDb after sameHistory
  | looksUp i token presents before sameDb after history =>
    exact invariant.looksUp follows presents before sameDb after history
  | requests i hash userId changes expiresAt touches isRequest issues sets before updated after history =>
    exact invariant.requests fresh follows isRequest issues sets before updated after history
  | resets i token userId changes touches presents clears before updated after history =>
    exact invariant.resets follows presents clears before updated after history

omit [DecidableEq ι] in
/-- A token that has not changed a password yet may change one, and nothing else may go wrong. -/
theorem tokensHold_iff_once (invariant : Invariant crypto actions start source) :
    TokensHold crypto actions source ↔ (source.2.changes.map fun change => (actions change.1).presented).Nodup := by
  refine ⟨TokensHold.once, fun once => ⟨once, fun i userId made => (invariant.changed i userId made).2, ?_⟩⟩
  intro i isReset unchanged
  have notUpdated : phases crypto actions source i ≠ .updated := by
    intro isUpdated
    obtain ⟨userId, made⟩ := invariant.updated i isReset isUpdated
    exact unchanged userId made
  refine ⟨invariant.untouched i isReset notUpdated, fun value ended => notUpdated ?_⟩
  have ends := invariant.follows i
  rw [ended] at ends
  exact ends isReset

theorem tokensHold_step [Fintype ι] (invariant : Invariant crypto actions start source)
    (holds : TokensHold crypto actions source) (next : Invariant crypto actions start target) {act : Act ι ApiError}
    (stepped : shop.Steps source.1 act target.1) (observed : target.2 = observe actions source.1 act source.2) :
    TokensHold crypto actions target ↔ spendsAgain source.1 act source.2 = false := by
  rw [tokensHold_iff_once next]
  have move := move_of_step invariant.follows stepped observed
  generalize spendsAgain source.1 act source.2 = again at move
  cases move with
  | quiet sameDb samePhases sameHistory =>
    rw [sameHistory]
    exact iff_of_true holds.once rfl
  | asks i found isRequest before sameDb after sameHistory =>
    rw [sameHistory]
    exact iff_of_true holds.once rfl
  | looksUp i token presents before sameDb after history =>
    rw [history]
    exact iff_of_true holds.once rfl
  | requests i hash userId changes expiresAt touches isRequest issues sets before updated after history =>
    rw [history]
    exact iff_of_true holds.once rfl
  | resets i token userId changes touches presents clears before updated after history =>
    rw [history]
    change (List.map _ ((i, userId) :: source.2.changes)).Nodup ↔ _
    rw [List.map_cons, List.nodup_cons, and_iff_left holds.once, ← Bool.not_eq_true, not_iff_not, List.mem_map]
    constructor
    · rintro ⟨⟨j, other⟩, made, sameToken⟩
      exact invariant.overlaps i userId before j other made sameToken
    · intro isSpent
      obtain ⟨j, other, made, sameToken⟩ := invariant.spender i isSpent
      exact ⟨(j, other), made, sameToken⟩

end ResetSystem

open Transition ResetSystem

variable [Fintype ι]

/-- However the calls interleave: the tokens hold exactly if no call changes a password by a token that has
    changed one since the call looked it up. -/
theorem tokensHold_iff (fresh : FreshTokens crypto actions start) {run : List (Act ι ApiError × ResetSystem ι)}
    (isRun : Run shop.Steps (ofCalls crypto config actions start) run) :
    EachState (TokensHold crypto actions) (ofCalls crypto config actions start, .atStart start)
        (withHistory (observe actions) (ofCalls crypto config actions start) (.atStart start) run) ↔
      EachStep (fun source act _ => spendsAgain source.1 act source.2 = false)
        (ofCalls crypto config actions start, .atStart start)
        (withHistory (observe actions) (ofCalls crypto config actions start) (.atStart start) run) := by
  have started (i : ι) : phases crypto actions (ofCalls crypto config actions start, .atStart start) i = .started :=
    ResetAction.initial_protocol crypto (actions i)
  have atStart : Invariant crypto actions start (ofCalls crypto config actions start, .atStart start) :=
    { follows := Engine.follows_start fun i => ResetAction.keeps_handler.autocommit
      stored := fun userId reset stored => stored
      known := fun userId hash stored => .inl ⟨userId, stored⟩
      apart := fresh.atStart
      found := fun i userId token isFound => ResetPhase.noConfusion ((started i).symm.trans isFound)
      changed := fun i userId made => absurd made List.not_mem_nil
      gone := fun i userId token made => absurd made List.not_mem_nil
      updated := fun i isReset isUpdated => ResetPhase.noConfusion ((started i).symm.trans isUpdated)
      overlaps := fun i userId isFound j other made => absurd made List.not_mem_nil
      spender := fun i isSpent => Bool.noConfusion isSpent
      untouched := fun i isReset notUpdated => rfl }
  have holdsAtStart : TokensHold crypto actions (ofCalls crypto config actions start, .atStart start) :=
    (tokensHold_iff_once atStart).mpr List.nodup_nil
  exact eachState_iff_eachStep
    (fun source act target invariant holds stepped =>
      tokensHold_step invariant holds (invariant.step fresh stepped.1 stepped.2) stepped.1 stepped.2)
    (fun source act target invariant holds stepped _ => invariant.step fresh stepped.1 stepped.2)
    atStart holdsAtStart (run_withHistory _ _ isRun)

end Runs

/-! ## A small shop whose owner submits a link twice -/

namespace SmallShop

def linkMailed : AuthEnvironment := ⟨0, [], "5eed"⟩

/-- The request, and two submissions of the link that it mails. -/
def submittedTwice : Option Bool → ResetAction
  | none => ⟨linkMailed, .requestPasswordReset ⟨"owner@corner.example"⟩⟩
  | some false => ⟨linkMailed, .resetPassword ⟨utf8 linkMailed.rawResetToken, utf8 "green door"⟩⟩
  | some true => ⟨linkMailed, .resetPassword ⟨utf8 linkMailed.rawResetToken, utf8 "blue window"⟩⟩

theorem freshToken : FreshTokens crypto submittedTwice ownerOnly where
  distinct i j hash first second := by
    cases i with
    | none =>
      cases j with
      | none => rfl
      | some late => cases late <;> cases second
    | some late => cases late <;> cases first
  unused i hash userId issued stored := by
    obtain ⟨user, found, isHash⟩ := Option.bind_eq_some_iff.mp stored
    obtain rfl : user = signedIn := List.mem_singleton.mp (Table.mem_of_find found)
    cases isHash
  atStart userId other hash stored isStored := by
    obtain ⟨user, found, isHash⟩ := Option.bind_eq_some_iff.mp stored
    obtain rfl : user = signedIn := List.mem_singleton.mp (Table.mem_of_find found)
    cases isHash

/-- The second submission comes after the first. -/
def oneAfterTheOther : List (Act (Option Bool) ApiError) :=
  [.run none, .run none, .run none, .run (some false), .run (some false), .run (some true)]

/-- Both submissions look the token up before either uses it. -/
def bothAtOnce : List (Act (Option Bool) ApiError) :=
  [.run none, .run none, .run (some false), .run (some true), .run (some false), .run (some true)]

end SmallShop

theorem tokensHold_smallShop :
    Transition.EachState (ResetSystem.TokensHold SmallShop.crypto SmallShop.submittedTwice)
      (ResetSystem.ofCalls SmallShop.crypto SmallShop.longLived SmallShop.submittedTwice SmallShop.ownerOnly,
        .atStart SmallShop.ownerOnly)
      (Transition.withHistory (ResetSystem.observe SmallShop.submittedTwice)
        (ResetSystem.ofCalls SmallShop.crypto SmallShop.longLived SmallShop.submittedTwice SmallShop.ownerOnly)
        (.atStart SmallShop.ownerOnly)
        ((shop.trace (ResetSystem.ofCalls SmallShop.crypto SmallShop.longLived SmallShop.submittedTwice
          SmallShop.ownerOnly) SmallShop.oneAfterTheOther).get (by decide +kernel))) :=
  (tokensHold_iff SmallShop.freshToken (shop.run_get_trace _)).mpr (by decide +kernel)

/-- Two submissions of one link at once both change the password. -/
theorem not_tokensHold :
    ¬ ∀ (crypto : Crypto) (config : AuthConfig) (actions : Option Bool → ResetAction) (start : Database)
      (run : List (Act (Option Bool) ApiError × ResetSystem (Option Bool))), FreshTokens crypto actions start →
      Transition.Run shop.Steps (ResetSystem.ofCalls crypto config actions start) run →
      ResetSystem.TokensHold crypto actions (Transition.final
        (ResetSystem.ofCalls crypto config actions start, .atStart start)
        (Transition.withHistory (ResetSystem.observe actions) (ResetSystem.ofCalls crypto config actions start)
          (.atStart start) run)) := by
  intro tokensHold
  have once := (tokensHold SmallShop.crypto SmallShop.longLived SmallShop.submittedTwice SmallShop.ownerOnly
    ((shop.trace (ResetSystem.ofCalls SmallShop.crypto SmallShop.longLived SmallShop.submittedTwice
      SmallShop.ownerOnly) SmallShop.bothAtOnce).get (by decide +kernel))
    SmallShop.freshToken (shop.run_get_trace _)).once
  revert once
  decide +kernel

end StoreSaas
