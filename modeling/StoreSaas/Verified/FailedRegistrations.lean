import StoreSaas.Library.Outages
import StoreSaas.Services.Registration
import StoreSaas.Verified.AccountsSound
import StoreSaas.Verified.AuthMethods
import StoreSaas.Verified.References

/-! # What a failed registration leaves behind

The transaction of `register` keeps nothing unless it commits.  The welcome mail and the
tokens come after the `COMMIT`, so a failure there rejects a registration that is stored.
-/

namespace StoreSaas

/-- What `register` computes with libraries that may throw. -/
inductive Computation where
  | hashPassword
  | signAccessToken
  | signRefreshToken
  | hashRefreshToken
  deriving DecidableEq

/-- What fails during a call, and with what error. -/
structure Outages where
  computation : Computation → Option ApiError
  operation : RequestOp statements → Option ApiError

def Outages.nothing : Outages := ⟨fun _ => none, fun _ => none⟩

namespace AuthService

section

variable (crypto : Crypto) (config : AuthConfig) (env : AuthEnvironment) (newId : Nat → Uuid)

def attempt (failure : Option ApiError) : Handler Unit :=
  match failure with
  | some error => Program.throw error
  | none => return ()

def issueTokensDuring (outages : Outages) (user : User) : Handler TokenPair := do
  attempt (outages.computation .signAccessToken)
  attempt (outages.computation .signRefreshToken)
  attempt (outages.computation .hashRefreshToken)
  (issueTokens crypto config env user).autocommit

/-- `register`, with its computations as steps that may fail. -/
def registerDuring (outages : Outages) (dto : RegisterDto) : Handler TokenPair := do
  let existing : Option User ← (Tx.user (.findByEmail dto.email)).autocommit
  match existing with
  | some _ => Program.throw (.conflict "An account with this email already exists")
  | none =>
    attempt (outages.computation .hashPassword)
    let user ← Program.withTransaction (createAccount crypto env newId dto).inTransaction
    let _ ← (Tx.enqueueMail (welcomeMail dto)).autocommit
    issueTokensDuring crypto config env outages user

theorem registerDuring_nothing (dto : RegisterDto) :
    registerDuring crypto config env newId .nothing dto = register crypto config env newId dto := rfl

/-- How a registration ends, and what it leaves, while these steps fail. -/
def registered (outages : Outages) (dto : RegisterDto) (db : Database) : Except ApiError TokenPair × Database :=
  shop.aloneDuring outages.operation (registerDuring crypto config env newId outages dto) db

/-! ## The operations of a registration -/

def newUser (dto : RegisterDto) : UserEntity :=
  ⟨newId 0, dto.email, some (crypto.bcryptHash env.salt dto.password), .storeOwner, none⟩

def newStore (dto : RegisterDto) : StoreEntity := ⟨newId 1, some dto.storeName, newId 0, false, env.now⟩

def newSubscription : Subscription := ⟨newId 2, newId 1, .free, .active, none, none⟩

/-- The user that the transaction returns. -/
def storedOwner (dto : RegisterDto) : User := { newOwner crypto env newId dto with storeId := some (newId 1) }

def accountStatements (dto : RegisterDto) : List Statement :=
  [.user (.insert (newUser crypto env newId dto)),
    .store (.insert (newStore env newId dto)),
    .store (.insertSubscription (newSubscription newId)),
    .user (.reselect { newUser crypto env newId dto with storeId := some (newId 1) }),
    .store (.updateOwner (newId 0) ⟨some (crypto.bcryptHash env.salt dto.password), some (some (newId 1))⟩)]

def operationsToCommit (dto : RegisterDto) : List (RequestOp statements) :=
  .auto (Statement.user (.findByEmail dto.email)) :: .begin ::
    (accountStatements crypto env newId dto).map RequestOp.query ++ [.commit]

def refreshTokenHash (user : User) : Bytes :=
  crypto.bcryptHash env.salt
    (sign crypto config.jwtRefreshSecret user.jwtPayload (env.now / 1000) config.jwtRefreshExpiry)

def storeRefreshToken (user : User) : Statement :=
  .user (.update user.id { UserChanges.nothing with
    refreshTokenHash := some (some (refreshTokenHash crypto config env user)) })

def operationsAfterCommit (dto : RegisterDto) : List (RequestOp statements) :=
  [.auto (Statement.enqueueMail (welcomeMail dto)),
    .auto (storeRefreshToken crypto config env (storedOwner crypto env newId dto))]

/-- Neither the email address nor one of the generated ids is in use. -/
structure IsFree (dto : RegisterDto) (db : Database) : Prop where
  email : ∀ user ∈ db.users.rows, user.email ≠ dto.email
  user : db.users.find (newId 0) = none
  store : db.stores.find (newId 1) = none
  subscription : db.subscriptions.find (newId 2) = none
  subscriptionOf : db.subscriptionOf (newId 1) = none

/-- Nothing stands in the way up to the `COMMIT`, that included. -/
structure Commits (outages : Outages) (dto : RegisterDto) (db : Database) : Prop where
  free : IsFree newId dto db
  hashes : outages.computation .hashPassword = none
  works : ∀ op ∈ operationsToCommit crypto env newId dto, outages.operation op = none

/-- Nothing fails after the `COMMIT`. -/
structure Completes (outages : Outages) (dto : RegisterDto) : Prop where
  computes : ∀ computation, computation ≠ .hashPassword → outages.computation computation = none
  works : ∀ op ∈ operationsAfterCommit crypto config env newId dto, outages.operation op = none

/-- A rejected registration leaves the accounts as they were, and a second try ends as the first could have. -/
def FailsCleanly (outages : Outages) (dto : RegisterDto) (db : Database) : Prop :=
  ∀ error after, registered crypto config env newId outages dto db = (.error error, after) →
    after.users = db.users ∧ after.stores = db.stores ∧ after.subscriptions = db.subscriptions ∧
      ∀ retryEnv retryId, (shop.alone (register crypto config retryEnv retryId dto) after).1 =
        (shop.alone (register crypto config retryEnv retryId dto) db).1

end

/-! ## The transaction -/

section

variable {crypto : Crypto} {config : AuthConfig} {env : AuthEnvironment} {newId : Nat → Uuid} {dto : RegisterDto}
  {db : Database}

/-- The statement that is next ran, and did not fail. -/
theorem ensures_statement {β : Type} {outages : Statement → Option ApiError} {op : Statement}
    {next : op.Reply → Tx β} {post : β → Database → Prop}
    (continues : ∀ reply writes, outages op = none → op.execute db = .ok (reply, writes) →
      Program.Ensures (shop.executeDuring outages) (next reply) (shop.applyAll db writes) post) :
    Program.Ensures (shop.executeDuring outages) (Program.perform (S := statements) op >>= next) db post := by
  refine Program.ensures_perform_bind fun reply after ran => ?_
  cases fails : outages op with
  | some error =>
    rw [Engine.executeDuring_of_some shop fails] at ran
    cases ran
  | none =>
    rw [Engine.executeDuring_of_none shop fails] at ran
    obtain ⟨writes, executed, rfl⟩ := Engine.executeOn_eq_ok ran
    exact continues reply writes fails executed

theorem runWith_statement {β : Type} {outages : Statement → Option ApiError} {op : Statement}
    {next : op.Reply → Tx β} {reply : op.Reply} {writes : List DbWrite} (works : outages op = none)
    (executed : op.execute db = .ok (reply, writes)) :
    (Program.perform (S := statements) op >>= next).runWith (shop.executeDuring outages) db =
      (next reply).runWith (shop.executeDuring outages) (shop.applyAll db writes) := by
  refine Program.runWith_perform_ok _ ?_
  have run : shop.execute op db = .ok (reply, writes) := executed
  rw [Engine.executeDuring_of_none shop works, Engine.executeOn, run]

theorem execute_insertUser (free : IsFree newId dto db) :
    (Statement.user (.insert (newUser crypto env newId dto))).execute db =
      .ok ((), [.user (.put (newOwner crypto env newId dto))]) := by
  have untaken : ((db.users.find (newId 0)).isSome || db.emailTaken dto.email (newId 0)) = false := by
    rw [free.user, Option.isSome_none, Bool.false_or]
    refine List.any_eq_false.mpr fun user present taken => free.email user present ?_
    exact (of_decide_eq_true taken).1
  change UserStatement.execute (.insert (newUser crypto env newId dto)) db = _
  simp only [UserStatement.execute, newUser, UserEntity.toRow?, Option.map_some, untaken]
  rfl

def newStoreRow (env : AuthEnvironment) (newId : Nat → Uuid) (dto : RegisterDto) : Store :=
  ⟨newId 1, dto.storeName, newId 0, false, env.now⟩

theorem execute_insertStore (isNew : db.stores.find (newId 1) = none) :
    (Statement.store (.insert (newStore env newId dto))).execute db =
      .ok ((), [.store (.put (newStoreRow env newId dto))]) := by
  change StoreStatement.execute (.insert (newStore env newId dto)) db = _
  simp only [StoreStatement.execute, newStore, StoreEntity.toRow?, Option.map_some, isNew]
  rfl

theorem execute_insertSubscription (isNew : db.subscriptions.find (newId 2) = none)
    (isFirst : db.subscriptionOf (newId 1) = none) (storeExists : db.storeExists (newId 1) = true) :
    (Statement.store (.insertSubscription (newSubscription newId))).execute db =
      .ok ((), [.subscription (.put (newSubscription newId))]) := by
  change StoreStatement.execute (.insertSubscription (newSubscription newId)) db = _
  simp only [StoreStatement.execute, newSubscription, isNew, isFirst, storeExists]
  rfl

theorem execute_updateOwner (present : db.users.find (newId 0) = some (newOwner crypto env newId dto))
    (storeExists : db.storeExists (newId 1) = true) :
    (Statement.store (.updateOwner (newId 0)
      ⟨some (crypto.bcryptHash env.salt dto.password), some (some (newId 1))⟩)).execute db =
        .ok ((), [.user (.put (storedOwner crypto env newId dto))]) := by
  change StoreStatement.execute (.updateOwner (newId 0) _) db = _
  simp only [StoreStatement.execute, present, OwnerChanges.applyTo, Option.getD_some, Option.map_some, storeExists]
  rfl

/-- The second `save` of the owner finds him without a store, and gives him the new one. -/
theorem runWith_saveOwner {outages : Statement → Option ApiError}
    (reselectWorks : outages (.user (.reselect { newUser crypto env newId dto with storeId := some (newId 1) })) = none)
    (ownerWorks : outages (.store (.updateOwner (newId 0)
      ⟨some (crypto.bcryptHash env.salt dto.password), some (some (newId 1))⟩)) = none)
    (present : db.users.find (newId 0) = some (newOwner crypto env newId dto))
    (storeExists : db.storeExists (newId 1) = true) :
    (saveOwner { newUser crypto env newId dto with storeId := some (newId 1) }).runWith (shop.executeDuring outages) db =
      (.ok (), shop.applyAll db [.user (.put (storedOwner crypto env newId dto))]) := by
  have finds : (Statement.user (.reselect { newUser crypto env newId dto with storeId := some (newId 1) })).execute db =
      .ok (some (newOwner crypto env newId dto), []) := congrArg (fun found => Except.ok (found, [])) present
  refine (runWith_statement reselectWorks finds).trans ?_
  have updates := execute_updateOwner present storeExists
  have run : shop.executeDuring outages (.store (.updateOwner (newId 0)
      ⟨some (crypto.bcryptHash env.salt dto.password), some (some (newId 1))⟩)) db =
        (.ok (), shop.applyAll db [.user (.put (storedOwner crypto env newId dto))]) := by
    have executed : shop.execute (.store (.updateOwner (newId 0)
      ⟨some (crypto.bcryptHash env.salt dto.password), some (some (newId 1))⟩)) db = _ := updates
    rw [Engine.executeDuring_of_none shop ownerWorks, Engine.executeOn, executed]
  exact (Program.runWith_perform _ _ _).trans run

/-- With nothing in the way the transaction stores the account. -/
theorem runWith_createAccount {outages : Statement → Option ApiError} (free : IsFree newId dto db)
    (works : ∀ op ∈ accountStatements crypto env newId dto, outages op = none) :
    (createAccount crypto env newId dto).runWith (shop.executeDuring outages) db =
      (.ok (storedOwner crypto env newId dto), shop.applyAll db (newRows crypto env newId dto)) := by
  simp only [accountStatements, List.forall_mem_cons] at works
  obtain ⟨userWorks, storeWorks, subscriptionWorks, reselectWorks, ownerWorks, -⟩ := works
  let withUser := shop.applyAll db [.user (.put (newOwner crypto env newId dto))]
  let withStore := shop.applyAll withUser [.store (.put (newStoreRow env newId dto))]
  let withSubscription := shop.applyAll withStore [.subscription (.put (newSubscription newId))]
  have userStored : withSubscription.users.find (newId 0) = some (newOwner crypto env newId dto) :=
    Table.find_put_same db.users (newOwner crypto env newId dto)
  have storeStored : withStore.storeExists (newId 1) = true := by
    have found : withStore.stores.find (newId 1) = some (newStoreRow env newId dto) :=
      Table.find_put_same db.stores (newStoreRow env newId dto)
    rw [Database.storeExists, found]
    rfl
  have insertsStore : (Statement.store (.insert (newStore env newId dto))).execute withUser =
      .ok ((), [.store (.put (newStoreRow env newId dto))]) := execute_insertStore free.store
  have insertsSubscription := execute_insertSubscription
    (show withStore.subscriptions.find (newId 2) = none from free.subscription) free.subscriptionOf storeStored
  have updatesOwner := execute_updateOwner userStored storeStored
  refine (runWith_statement userWorks (execute_insertUser free)).trans ?_
  refine (runWith_statement storeWorks insertsStore).trans ?_
  refine (runWith_statement subscriptionWorks insertsSubscription).trans ?_
  exact Program.runWith_bind_ok _ (runWith_saveOwner reselectWorks ownerWorks userStored storeStored)

section

variable {writes : List DbWrite}

theorem isNew_of_insertUser {reply : Statement.Reply (.user (.insert (newUser crypto env newId dto)))}
    (executed : (Statement.user (.insert (newUser crypto env newId dto))).execute db = .ok (reply, writes)) :
    db.users.find (newId 0) = none ∧ writes = [.user (.put (newOwner crypto env newId dto))] := by
  obtain ⟨row, isRow, isNew, rfl⟩ := UserStatement.execute_insert
    (show (UserStatement.insert (newUser crypto env newId dto)).execute db = .ok (reply, writes) from executed)
  cases isRow
  exact ⟨isNew, rfl⟩

theorem isNew_of_insertStore {reply : Statement.Reply (.store (.insert (newStore env newId dto)))}
    (executed : (Statement.store (.insert (newStore env newId dto))).execute db = .ok (reply, writes)) :
    db.stores.find (newId 1) = none ∧ writes = [.store (.put (newStoreRow env newId dto))] := by
  obtain ⟨row, isRow, isNew, rfl⟩ := StoreStatement.execute_insert
    (show (StoreStatement.insert (newStore env newId dto)).execute db = .ok (reply, writes) from executed)
  cases isRow
  exact ⟨isNew, rfl⟩

theorem isNew_of_insertSubscription {reply : Statement.Reply (.store (.insertSubscription (newSubscription newId)))}
    (executed : (Statement.store (.insertSubscription (newSubscription newId))).execute db = .ok (reply, writes)) :
    db.subscriptions.find (newId 2) = none ∧ db.subscriptionOf (newId 1) = none ∧
      writes = [.subscription (.put (newSubscription newId))] :=
  StoreStatement.execute_insertSubscription
    (show (StoreStatement.insertSubscription (newSubscription newId)).execute db = .ok (reply, writes) from executed)

end

/-- A second `save` of the owner that ends well met no outage. -/
theorem ensures_saveOwnerDuring (outages : Statement → Option ApiError)
    (present : db.users.find (newId 0) = some (newOwner crypto env newId dto)) :
    Program.Ensures (shop.executeDuring outages)
      (saveOwner { newUser crypto env newId dto with storeId := some (newId 1) }) db fun _ _ =>
      outages (.user (.reselect { newUser crypto env newId dto with storeId := some (newId 1) })) = none ∧
        outages (.store (.updateOwner (newId 0)
          ⟨some (crypto.bcryptHash env.salt dto.password), some (some (newId 1))⟩)) = none := by
  refine ensures_statement fun found writes reselectWorks finds => ?_
  have isFound : (found, writes) = (some (newOwner crypto env newId dto), []) :=
    (Except.ok.inj finds).symm.trans (congrArg (fun found => (found, [])) present)
  cases isFound
  refine Program.ensures_perform fun _ after ran => ⟨reselectWorks, ?_⟩
  cases fails : outages (.store (.updateOwner (newId 0)
      ⟨some (crypto.bcryptHash env.salt dto.password), some (some (newId 1))⟩)) with
  | none => rfl
  | some error => cases (Engine.executeDuring_of_some shop fails _).symm.trans ran

/-- A transaction body that ends well met no outage, and no id that is in use. -/
theorem ensures_createAccountDuring (outages : Statement → Option ApiError) :
    Program.Ensures (shop.executeDuring outages) (createAccount crypto env newId dto) db fun _ _ =>
      (∀ op ∈ accountStatements crypto env newId dto, outages op = none) ∧ db.users.find (newId 0) = none ∧
        db.stores.find (newId 1) = none ∧ db.subscriptions.find (newId 2) = none ∧ db.subscriptionOf (newId 1) = none := by
  refine ensures_statement fun _ _ userWorks insertsUser => ?_
  obtain ⟨isNewUser, rfl⟩ := isNew_of_insertUser insertsUser
  refine ensures_statement fun _ _ storeWorks insertsStore => ?_
  obtain ⟨isNewStore, rfl⟩ := isNew_of_insertStore insertsStore
  refine ensures_statement fun _ _ subscriptionWorks insertsSubscription => ?_
  obtain ⟨isNewSubscription, isFirst, rfl⟩ := isNew_of_insertSubscription insertsSubscription
  have present := Table.find_put_same db.users (newOwner crypto env newId dto)
  refine (ensures_saveOwnerDuring outages present).bind fun _ _ ⟨reselectWorks, ownerWorks⟩ =>
    Program.ensures_done ⟨?_, isNewUser, isNewStore, isNewSubscription, isFirst⟩
  simp only [accountStatements, List.forall_mem_cons]
  exact ⟨userWorks, storeWorks, subscriptionWorks, reselectWorks, ownerWorks, fun _ isNil => nomatch isNil⟩

variable {outages : Outages}

theorem transactDuring_of_commits (commits : Commits crypto env newId outages dto db) :
    shop.transactDuring outages.operation (createAccount crypto env newId dto) db =
      (.ok (storedOwner crypto env newId dto), shop.applyAll db (newRows crypto env newId dto)) := by
  have works := commits.works
  simp only [operationsToCommit, List.forall_mem_cons, List.forall_mem_append, List.forall_mem_map] at works
  obtain ⟨⟨-, begins, statementsWork⟩, commitWorks, -⟩ := works
  exact Engine.transactDuring_of_ok shop begins commitWorks (runWith_createAccount commits.free statementsWork)

/-- Short of a commit, the transaction fails and leaves no trace. -/
theorem transactDuring_of_not_commits (isNew : ∀ user ∈ db.users.rows, user.email ≠ dto.email)
    (looks : outages.operation (.auto (Statement.user (.findByEmail dto.email))) = none)
    (hashes : outages.computation .hashPassword = none) (stops : ¬ Commits crypto env newId outages dto db) :
    ∃ error, shop.transactDuring outages.operation (createAccount crypto env newId dto) db = (.error error, db) := by
  cases ended : shop.transactDuring outages.operation (createAccount crypto env newId dto) db with
  | mk result after =>
    cases result with
    | error error =>
      rw [Engine.transactDuring_eq_error ended]
      exact ⟨error, rfl⟩
    | ok user =>
      obtain ⟨begins, commitWorks, ran⟩ := Engine.transactDuring_eq_ok ended
      obtain ⟨statementsWork, isNewUser, isNewStore, isNewSubscription, isFirst⟩ :=
        ensures_createAccountDuring (fun op => outages.operation (.query op)) _ _ ran
      refine absurd ⟨⟨isNew, isNewUser, isNewStore, isNewSubscription, isFirst⟩, hashes, ?_⟩ stops
      simp only [operationsToCommit, List.forall_mem_cons, List.forall_mem_append, List.forall_mem_map]
      exact ⟨⟨looks, begins, statementsWork⟩, commitWorks, fun _ isNil => nomatch isNil⟩

/-! ## Before the transaction, and after it -/

theorem endsDuring_attempt {failures : RequestOp statements → Option ApiError} (failure : Option ApiError) :
    shop.EndsDuring failures (attempt failure) db (match failure with | some error => .error error | none => .ok ()) db := by
  cases failure with
  | some error => exact Engine.endsDuring_throw error
  | none => exact Engine.endsDuring_done ()

/-- What follows the `COMMIT`. -/
def afterCommit (crypto : Crypto) (config : AuthConfig) (env : AuthEnvironment) (outages : Outages) (dto : RegisterDto)
    (user : User) : Handler TokenPair := do
  let _ ← (Tx.enqueueMail (welcomeMail dto)).autocommit
  issueTokensDuring crypto config env outages user

theorem endsDuring_issueTokens_error {failures : RequestOp statements → Option ApiError} {user : User} {error : ApiError}
    (fails : failures (.auto (storeRefreshToken crypto config env user)) = some error) :
    shop.EndsDuring failures (issueTokens crypto config env user).autocommit db (.error error) db :=
  Engine.endsDuring_autocommit (Engine.runWith_statement_error shop fails db)

theorem endsDuring_issueTokens_ok {failures : RequestOp statements → Option ApiError} {user : User}
    (works : failures (.auto (storeRefreshToken crypto config env user)) = none) :
    ∃ tokens after, shop.EndsDuring failures (issueTokens crypto config env user).autocommit db (.ok tokens) after := by
  have executed := Database.executeOn_updateUser db user.id { UserChanges.nothing with
    refreshTokenHash := some (some (refreshTokenHash crypto config env user)) }
  exact ⟨_, _, Engine.endsDuring_autocommit (Engine.runWith_statement_ok shop works executed)⟩

/-- Nothing that follows the `COMMIT` changes anything when it fails. -/
theorem endsDuring_afterCommit_error (stops : ¬ Completes crypto config env newId outages dto) (stored : Database) :
    ∃ error, shop.EndsDuring outages.operation
      (afterCommit crypto config env outages dto (storedOwner crypto env newId dto)) stored (.error error) stored := by
  unfold afterCommit issueTokensDuring
  cases mails : outages.operation (.auto (Statement.enqueueMail (welcomeMail dto))) with
  | some error => exact ⟨error, (Engine.endsDuring_statement_error mails).bind_error⟩
  | none =>
    have mailed : shop.EndsDuring outages.operation (Tx.enqueueMail (welcomeMail dto)).autocommit stored (.ok ()) stored :=
      Engine.endsDuring_statement_ok mails rfl
    cases signsAccess : outages.computation .signAccessToken with
    | some error => exact ⟨error, mailed.bind (endsDuring_attempt (some error)).bind_error⟩
    | none =>
      cases signsRefresh : outages.computation .signRefreshToken with
      | some error =>
        exact ⟨error, mailed.bind ((endsDuring_attempt none).bind (endsDuring_attempt (some error)).bind_error)⟩
      | none =>
        refine (?_ : ∃ error, shop.EndsDuring outages.operation (attempt (outages.computation .hashRefreshToken) >>=
          fun _ => (issueTokens crypto config env (storedOwner crypto env newId dto)).autocommit) stored (.error error) stored).imp
            fun error ends => mailed.bind ((endsDuring_attempt none).bind ((endsDuring_attempt none).bind ends))
        cases hashes : outages.computation .hashRefreshToken with
        | some error => exact ⟨error, (endsDuring_attempt (some error)).bind_error⟩
        | none =>
          cases stores : outages.operation (.auto (storeRefreshToken crypto config env (storedOwner crypto env newId dto))) with
          | some error => exact ⟨error, (endsDuring_attempt none).bind (endsDuring_issueTokens_error stores)⟩
          | none =>
            refine absurd ⟨fun computation isLater => ?_, fun op isLater => ?_⟩ stops
            · cases computation with
              | hashPassword => exact absurd rfl isLater
              | signAccessToken => exact signsAccess
              | signRefreshToken => exact signsRefresh
              | hashRefreshToken => exact hashes
            · obtain rfl | rfl : op = _ ∨ op = _ := by simpa [operationsAfterCommit] using isLater
              · exact mails
              · exact stores

theorem endsDuring_afterCommit_ok (completes : Completes crypto config env newId outages dto) (stored : Database) :
    ∃ tokens after, shop.EndsDuring outages.operation
      (afterCommit crypto config env outages dto (storedOwner crypto env newId dto)) stored (.ok tokens) after := by
  have mailed : shop.EndsDuring outages.operation (Tx.enqueueMail (welcomeMail dto)).autocommit stored (.ok ()) stored :=
    Engine.endsDuring_statement_ok (completes.works _ List.mem_cons_self) rfl
  obtain ⟨tokens, after, issued⟩ : ∃ tokens after, shop.EndsDuring outages.operation
      (issueTokens crypto config env (storedOwner crypto env newId dto)).autocommit stored (.ok tokens) after :=
    endsDuring_issueTokens_ok (completes.works _ (List.mem_cons_of_mem _ List.mem_cons_self))
  refine ⟨tokens, after, mailed.bind ?_⟩
  unfold issueTokensDuring
  rw [completes.computes .signAccessToken (by decide), completes.computes .signRefreshToken (by decide),
    completes.computes .hashRefreshToken (by decide)]
  exact (endsDuring_attempt none).bind ((endsDuring_attempt none).bind ((endsDuring_attempt none).bind issued))

/-! ## The whole registration -/

theorem registered_of_commits (commits : Commits crypto env newId outages dto db) {result : Except ApiError TokenPair}
    {after : Database}
    (ends : shop.EndsDuring outages.operation
      (afterCommit crypto config env outages dto (storedOwner crypto env newId dto))
      (shop.applyAll db (newRows crypto env newId dto)) result after) :
    registered crypto config env newId outages dto db = (result, after) := by
  have absent : (db.users.rows.find? fun row => row.email = dto.email) = none :=
    List.find?_eq_none.mpr fun user present same => commits.free.email user present (of_decide_eq_true same)
  have looked : shop.EndsDuring outages.operation (Tx.user (.findByEmail dto.email)).autocommit db (.ok none) db :=
    Engine.endsDuring_statement_ok (commits.works _ List.mem_cons_self) (congrArg (fun found => (Except.ok found, db)) absent)
  have stores := Engine.endsDuring_withTransaction (transactDuring_of_commits commits)
  refine (looked.bind ?_).aloneDuring
  change shop.EndsDuring outages.operation (attempt (outages.computation .hashPassword) >>= _) db _ _
  rw [commits.hashes]
  exact (endsDuring_attempt none).bind (stores.bind ends)

/-- Whatever stops a registration before its `COMMIT` leaves the database as it was. -/
theorem registered_of_not_commits (stops : ¬ Commits crypto env newId outages dto db) :
    ∃ error, registered crypto config env newId outages dto db = (.error error, db) := by
  refine (?_ : ∃ error, shop.EndsDuring outages.operation (registerDuring crypto config env newId outages dto) db
    (.error error) db).imp fun error ends => ends.aloneDuring
  cases looks : outages.operation (.auto (Statement.user (.findByEmail dto.email))) with
  | some error => exact ⟨error, (Engine.endsDuring_statement_error looks).bind_error⟩
  | none =>
    have looked : shop.EndsDuring outages.operation (Tx.user (.findByEmail dto.email)).autocommit db
        (.ok (db.users.rows.find? fun row => row.email = dto.email)) db := Engine.endsDuring_statement_ok looks rfl
    cases isFound : db.users.rows.find? fun row => row.email = dto.email with
    | some user =>
      rw [isFound] at looked
      exact ⟨_, looked.bind (Engine.endsDuring_throw _)⟩
    | none =>
      rw [isFound] at looked
      have isNew (user : User) (present : user ∈ db.users.rows) : user.email ≠ dto.email := fun same =>
        absurd (decide_eq_true same) (List.find?_eq_none.mp isFound user present)
      refine (?_ : ∃ error, shop.EndsDuring outages.operation (attempt (outages.computation .hashPassword) >>= fun _ =>
        Program.withTransaction (createAccount crypto env newId dto).inTransaction >>=
          afterCommit crypto config env outages dto) db (.error error) db).imp fun error ends => looked.bind ends
      cases hashes : outages.computation .hashPassword with
      | some error => exact ⟨error, (endsDuring_attempt (some error)).bind_error⟩
      | none =>
        obtain ⟨error, aborted⟩ := transactDuring_of_not_commits isNew looks hashes stops
        exact ⟨error, (endsDuring_attempt none).bind (Engine.endsDuring_withTransaction aborted).bind_error⟩

/-- A registration that fails leaves nothing behind exactly if it fails before its `COMMIT`. -/
theorem failsCleanly_iff : FailsCleanly crypto config env newId outages dto db ↔
    (Commits crypto env newId outages dto db → Completes crypto config env newId outages dto) := by
  constructor
  · intro clean commits
    by_contra stops
    obtain ⟨error, ends⟩ := endsDuring_afterCommit_error stops (shop.applyAll db (newRows crypto env newId dto))
    obtain ⟨sameUsers, -⟩ := clean _ _ (registered_of_commits commits ends)
    have stored : (shop.applyAll db (newRows crypto env newId dto)).users.find (newId 0) =
        some (storedOwner crypto env newId dto) := Table.find_put_same _ (storedOwner crypto env newId dto)
    rw [sameUsers, commits.free.user] at stored
    cases stored
  · intro condition error after failed
    by_cases commits : Commits crypto env newId outages dto db
    · obtain ⟨tokens, final, ends⟩ :=
        endsDuring_afterCommit_ok (condition commits) (shop.applyAll db (newRows crypto env newId dto))
      cases (registered_of_commits commits ends).symm.trans failed
    · obtain ⟨_, untouched⟩ : ∃ error, registered crypto config env newId outages dto db = (.error error, db) :=
        registered_of_not_commits commits
      cases untouched.symm.trans failed
      exact ⟨rfl, rfl, rfl, fun _ _ => rfl⟩

end

end AuthService

/-! ## A registration while the queue is down -/

namespace SmallShop

def queueIsDown : Outages where
  computation _ := none
  operation
    | .auto (.enqueueMail _) => some (.queryFailed "ECONNREFUSED")
    | _ => none

def newcomer : RegisterDto := ⟨"tea@corner.example", utf8 "first flush", "Corner"⟩

def newcomerId (position : Nat) : Uuid := BitVec.ofNat 128 (40 + position)

/-- The owner of the corner shop registers, and the welcome mail is not accepted. -/
def unwelcomed : Except ApiError TokenPair × Database :=
  AuthService.registered crypto longLived morning newcomerId queueIsDown newcomer .empty

end SmallShop

/-- The rejected registration is stored, and the second try meets its email address. -/
theorem AuthService.not_failsCleanly :
    SmallShop.unwelcomed.1 = .error (.queryFailed "ECONNREFUSED") ∧
      SmallShop.unwelcomed.2.users.rows.map User.email = ["tea@corner.example"] ∧
      (shop.alone (register SmallShop.crypto SmallShop.longLived SmallShop.morning (fun position =>
        SmallShop.newcomerId (10 + position)) SmallShop.newcomer) SmallShop.unwelcomed.2).1 =
          .error (.conflict "An account with this email already exists") ∧
      ¬ FailsCleanly SmallShop.crypto SmallShop.longLived SmallShop.morning SmallShop.newcomerId SmallShop.queueIsDown
        SmallShop.newcomer .empty := by
  have rejected : SmallShop.unwelcomed.1 = .error (.queryFailed "ECONNREFUSED") := by decide +kernel
  have stored : SmallShop.unwelcomed.2.users.rows.map User.email = ["tea@corner.example"] := by decide +kernel
  refine ⟨rejected, stored, by decide +kernel, fun clean => ?_⟩
  have sameUsers : SmallShop.unwelcomed.2.users = Database.empty.users := (clean _ _ (Prod.ext rejected rfl)).1
  rw [sameUsers] at stored
  cases stored

end StoreSaas
