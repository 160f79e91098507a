import StoreSaas.Services.AuthService

/-! # The staff methods of `StoresService`

The repositories of this service are not the transaction's: each statement commits by
itself.
-/

namespace StoreSaas

structure InviteStaffDto where
  email : String
  password : Bytes
  deriving DecidableEq

structure UpdateStaffDto where
  email : Field String
  password : Field Bytes
  deriving DecidableEq

namespace StoresService

section

variable (crypto : Crypto) (salt : Bytes)

/-- The limit of the plan of a store; without a subscription there is room for nobody. -/
def staffLimit (subscription : Option Subscription) : Nat :=
  (subscription.map fun subscription => subscription.plan.maxStaff).getD 0

def staffLimitReached (subscription : Option Subscription) : ApiError :=
  let plan := (subscription.map fun subscription => subscription.plan.text).getD "current"
  .forbidden s!"Staff limit reached for the {plan} plan (max {staffLimit subscription}). Upgrade to add more staff."

def inviteStaff (env : Environment) (storeId : Uuid) (dto : InviteStaffDto) : Tx UserEntity := do
  let existing : Option User ← Tx.user (.findByEmail dto.email)
  match existing with
  | some _ => Tx.raise (.conflict "An account with this email already exists")
  | none =>
    let subscription : Option Subscription ← Tx.billing (.findSubscriptionOf storeId)
    let currentStaffCount : Nat ← Tx.user (.count storeId .staff)
    if currentStaffCount ≥ staffLimit subscription then Tx.raise (staffLimitReached subscription)
    else
      let staff : UserEntity :=
        ⟨env.newId 0, dto.email, some (crypto.bcryptHash salt dto.password), .staff, some storeId⟩
      let _ ← Tx.user (.insert staff)
      return staff

def findStaffOrThrow (storeId : Uuid) (staffId : RouteId) : Tx UserEntity := do
  let staff : Option User ← Tx.user (.findStaff staffId storeId)
  match staff with
  | some staff => return staff.toEntity
  | none => Tx.raise (.notFound "Staff member not found")

def save (entity : UserEntity) : Tx UserEntity := do
  let found : Option User ← Tx.user (.reselect entity)
  match found with
  | none =>
    let _ ← Tx.user (.insert entity)
    return entity
  | some row =>
    if entity.changes row = .nothing then return entity
    let _ ← Tx.user (.saveChanges entity.id (entity.changes row))
    return entity

/-- The two assignments of `updateStaff`, each behind its `if`. -/
def assign (dto : UpdateStaffDto) (staff : UserEntity) : UserEntity :=
  { staff with
    email := dto.email.toOption.getD staff.email
    passwordHash := match dto.password.toOption with
      | some password => some (crypto.bcryptHash salt password)
      | none => staff.passwordHash }

def updateStaff (storeId : Uuid) (staffId : RouteId) (dto : UpdateStaffDto) : Tx UserEntity := do
  let staff ← findStaffOrThrow storeId staffId
  save (assign crypto salt dto staff)

end

def removeStaff (storeId : Uuid) (staffId : RouteId) : Tx Unit := do
  let staff ← findStaffOrThrow storeId staffId
  Tx.user (.delete staff.id)

end StoresService

end StoreSaas
