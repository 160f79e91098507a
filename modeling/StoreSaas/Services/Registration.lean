import StoreSaas.Services.AuthService
import StoreSaas.Services.Interceptors

/-! # `AuthService.register`

The user, the store and the subscription are made in one transaction, the user without a
store first and with it at the end.  The look at the email before, and the mail and the
tokens after, commit by themselves.
-/

namespace StoreSaas

structure RegisterDto where
  email : String
  password : Bytes
  storeName : String
  deriving DecidableEq

/-- The columns in which the second `save` finds the owner changed. -/
def UserEntity.ownerChanges (entity : UserEntity) (row : User) : OwnerChanges :=
  ⟨entity.passwordHash, changed entity.storeId row.storeId⟩

namespace AuthService

section

variable (crypto : Crypto) (config : AuthConfig) (env : AuthEnvironment) (newId : Nat → Uuid)

/-- `manager.save(user)` of a user that has an id by now. -/
def saveOwner (entity : UserEntity) : Tx Unit := do
  let found : Option User ← Tx.user (.reselect entity)
  match found with
  | none => Tx.user (.insert entity)
  | some row =>
    if entity.ownerChanges row = ⟨none, none⟩ then return ()
    else Tx.store (.updateOwner entity.id (entity.ownerChanges row))

/-- What `dataSource.transaction` runs, up to the user it returns. -/
def createAccount (dto : RegisterDto) : Tx User := do
  let passwordHash := crypto.bcryptHash env.salt dto.password
  let user : UserEntity := ⟨newId 0, dto.email, some passwordHash, .storeOwner, none⟩
  let _ ← Tx.user (.insert user)
  let store : StoreEntity := ⟨newId 1, some dto.storeName, user.id, false, env.now⟩
  let _ ← Tx.store (.insert store)
  let _ ← Tx.store (.insertSubscription ⟨newId 2, store.id, .free, .active, none, none⟩)
  let _ ← saveOwner { user with storeId := some store.id }
  return ⟨user.id, user.email, passwordHash, user.role, some store.id, none, none, none⟩

def welcomeMail (dto : RegisterDto) : MailMessage where
  toAddress := dto.email
  subject := s!"Welcome to Store SaaS, {dto.storeName}!"
  html := s!"<p>Your store <strong>{dto.storeName}</strong> is ready. You're on the Free plan - upgrade any time from the billing section.</p>"

def register (dto : RegisterDto) : Handler TokenPair := do
  let existing : Option User ← (Tx.user (.findByEmail dto.email)).autocommit
  match existing with
  | some _ => Program.throw (.conflict "An account with this email already exists")
  | none =>
    let user ← Program.withTransaction (createAccount crypto env newId dto).inTransaction
    let _ ← (Tx.enqueueMail (welcomeMail dto)).autocommit
    (issueTokens crypto config env user).autocommit

end

end AuthService

end StoreSaas
