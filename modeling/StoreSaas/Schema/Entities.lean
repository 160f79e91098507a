import Mathlib.Data.BitVec

/-! # Rows and in-memory entities

One structure per table, with the columns the services read or write.  A UUID is
its 128 bits, a `numeric(10,2)` is the number of hundredths, a timestamp is a
number of milliseconds.

An entity in memory may hold `null` where the column does not (`Object.assign`
puts it there when a body says so), and it may carry loaded relations; rows and
entities are therefore separate types where the services depend on it.
-/

namespace StoreSaas

abbrev Uuid := BitVec 128
abbrev Timestamp := Nat
abbrev Cents := Int
abbrev Bytes := List UInt8

namespace Uuid

def hexDigit (digit : Nat) : Char := "0123456789abcdef".toList.getD digit '0'

/-- The hexadecimal digits `start`, ..., `start + count - 1`, counted from the left. -/
def digits (id : Uuid) (start count : Nat) : List Char :=
  (List.range' start count).map fun position => hexDigit (id.toNat / 16 ^ (31 - position) % 16)

/-- The text form, 8-4-4-4-12 hexadecimal digits. -/
def chars (id : Uuid) : List Char :=
  digits id 0 8 ++ '-' :: digits id 8 4 ++ '-' :: digits id 12 4 ++ '-' :: digits id 16 4 ++
    '-' :: digits id 20 12

def text (id : Uuid) : String := String.ofList (chars id)

theorem toLower_hexDigit (digit : Nat) : (hexDigit digit).toLower = hexDigit digit := by
  have all : ("0123456789abcdef".toList.all fun letter => letter.toLower = letter) = true := by decide
  unfold hexDigit
  rw [List.getD_eq_getElem?_getD]
  cases found : "0123456789abcdef".toList[digit]? with
  | none => rfl
  | some letter => exact of_decide_eq_true (List.all_eq_true.mp all letter (List.mem_of_getElem? found))

/-- The text of a UUID is in lower case. -/
theorem toLower_text (id : Uuid) : id.text.toLower = id.text := by
  have digits_lower (start count : Nat) : (digits id start count).map Char.toLower = digits id start count := by
    simp [digits, toLower_hexDigit]
  have dash : '-'.toLower = '-' := by decide
  apply String.toList_injective
  change (String.map Char.toLower (String.ofList (chars id))).toList = (String.ofList (chars id)).toList
  simp only [String.toList_map, String.toList_ofList, chars, List.map_append, List.map_cons,
    digits_lower, dash]

theorem hexDigit_inj {left right : Nat} (isLeft : left < 16) (isRight : right < 16)
    (same : hexDigit left = hexDigit right) : left = right := by
  have all : ∀ left < 16, ∀ right < 16, hexDigit left = hexDigit right → left = right := by decide
  exact all left isLeft right isRight same

theorem mod_pow_eq_of_digits {left right : Nat} (count : Nat)
    (same : ∀ place < count, left / 16 ^ place % 16 = right / 16 ^ place % 16) :
    left % 16 ^ count = right % 16 ^ count := by
  induction count with
  | zero => rw [Nat.pow_zero, Nat.mod_one, Nat.mod_one]
  | succ count ih =>
    rw [Nat.mod_pow_succ, Nat.mod_pow_succ, ih fun place below => same place (Nat.lt_succ_of_lt below),
      same count (Nat.lt_succ_self count)]

theorem digits_inj {left right : Uuid} {start count : Nat} (same : digits left start count = digits right start count) :
    ∀ position, start ≤ position → position < start + count →
      left.toNat / 16 ^ (31 - position) % 16 = right.toNat / 16 ^ (31 - position) % 16 := by
  intro position isStart isCount
  have sameDigit := List.map_inj_left.mp same position (List.mem_range'_1.mpr ⟨isStart, isCount⟩)
  exact hexDigit_inj (Nat.mod_lt _ (by decide)) (Nat.mod_lt _ (by decide)) sameDigit

theorem length_digits (id : Uuid) (start count : Nat) : (digits id start count).length = count := by
  simp [digits]

theorem length_chars (id : Uuid) : (chars id).length = 36 := by
  simp [chars, length_digits]

/-- Different UUIDs have different texts. -/
theorem chars_injective {left right : Uuid} (same : chars left = chars right) : left = right := by
  have sameLength (start count : Nat) : (digits left start count).length = (digits right start count).length := by
    rw [length_digits, length_digits]
  simp only [chars, List.append_assoc, List.cons_append] at same
  obtain ⟨first, same⟩ := List.append_inj same (sameLength 0 8)
  obtain ⟨second, same⟩ := List.append_inj (List.cons.inj same).2 (sameLength 8 4)
  obtain ⟨third, same⟩ := List.append_inj (List.cons.inj same).2 (sameLength 12 4)
  obtain ⟨fourth, same⟩ := List.append_inj (List.cons.inj same).2 (sameLength 16 4)
  have fifth := (List.cons.inj same).2
  have sameDigits : ∀ position < 32,
      left.toNat / 16 ^ (31 - position) % 16 = right.toNat / 16 ^ (31 - position) % 16 := by
    intro position below
    by_cases inFirst : position < 8
    · exact digits_inj first position (by omega) (by omega)
    by_cases inSecond : position < 12
    · exact digits_inj second position (by omega) (by omega)
    by_cases inThird : position < 16
    · exact digits_inj third position (by omega) (by omega)
    by_cases inFourth : position < 20
    · exact digits_inj fourth position (by omega) (by omega)
    · exact digits_inj fifth position (by omega) (by omega)
  have sameValue : left.toNat % 16 ^ 32 = right.toNat % 16 ^ 32 := mod_pow_eq_of_digits 32 fun place below => by
    have sameDigit := sameDigits (31 - place) (by omega)
    rwa [show 31 - (31 - place) = place by omega] at sameDigit
  apply BitVec.eq_of_toNat_eq
  have leftBound : left.toNat < 16 ^ 32 := left.isLt
  have rightBound : right.toNat < 16 ^ 32 := right.isLt
  rwa [Nat.mod_eq_of_lt leftBound, Nat.mod_eq_of_lt rightBound] at sameValue

end Uuid

/-! ## Enumerations -/

/-- `OrderStatus` -/
inductive OrderStatus where
  | pending
  | completed
  | cancelled
  deriving DecidableEq, Repr

inductive Plan where
  | free
  | pro
  deriving DecidableEq, Repr

inductive SubscriptionStatus where
  | active
  | pastDue
  | cancelled
  deriving DecidableEq, Repr

inductive Role where
  | superAdmin
  | storeOwner
  | staff
  deriving DecidableEq, Repr

def Role.text : Role → String
  | .superAdmin => "SUPER_ADMIN"
  | .storeOwner => "STORE_OWNER"
  | .staff => "STAFF"

def Plan.text : Plan → String
  | .free => "FREE"
  | .pro => "PRO"

/-- `maxStaff` of `PLAN_LIMITS` -/
def Plan.maxStaff : Plan → Nat
  | .free => 1
  | .pro => 10

/-- `maxProducts` of `PLAN_LIMITS`; `none` is `Infinity`. -/
def Plan.maxProducts : Plan → Option Nat
  | .free => some 20
  | .pro => none

/-! ## Rows -/

structure Store where
  id : Uuid
  name : String
  ownerId : Uuid
  isSuspended : Bool
  createdAt : Timestamp
  deriving DecidableEq, Repr

structure User where
  id : Uuid
  email : String
  passwordHash : Bytes
  role : Role
  storeId : Option Uuid
  refreshTokenHash : Option Bytes
  passwordResetTokenHash : Option Bytes
  passwordResetExpiresAt : Option Timestamp
  deriving DecidableEq, Repr

structure Subscription where
  id : Uuid
  storeId : Uuid
  plan : Plan
  status : SubscriptionStatus
  stripeCustomerId : Option String
  stripeSubscriptionId : Option String
  deriving DecidableEq, Repr

structure Category where
  id : Uuid
  storeId : Uuid
  name : String
  createdAt : Timestamp
  updatedAt : Timestamp
  deriving DecidableEq, Repr

structure Product where
  id : Uuid
  storeId : Uuid
  categoryId : Option Uuid
  name : String
  description : Option String
  price : Cents
  stock : Int
  imageUrl : Option String
  createdAt : Timestamp
  updatedAt : Timestamp
  deriving DecidableEq, Repr

structure Order where
  id : Uuid
  storeId : Uuid
  status : OrderStatus
  total : Cents
  createdAt : Timestamp
  updatedAt : Timestamp
  deriving DecidableEq, Repr

structure OrderItem where
  id : Uuid
  orderId : Uuid
  productId : Option Uuid
  productName : String
  quantity : Nat
  unitPrice : Cents
  createdAt : Timestamp
  deriving DecidableEq, Repr

/-- A row of `webhook_events` (the entity `WebhookEvent`). -/
structure WebhookEventRow where
  eventId : String
  provider : String
  deriving DecidableEq, Repr

/-! ## Entities in memory -/

/-- A `Product` as the services hold it; `category` is the loaded relation. -/
structure ProductEntity where
  id : Uuid
  storeId : Uuid
  categoryId : Option Uuid
  name : Option String
  description : Option String
  price : Option Cents
  stock : Option Int
  imageUrl : Option String
  createdAt : Timestamp
  updatedAt : Timestamp
  category : Option Category
  deriving DecidableEq, Repr

def Product.toEntity (row : Product) (category : Option Category) : ProductEntity where
  id := row.id
  storeId := row.storeId
  categoryId := row.categoryId
  name := some row.name
  description := row.description
  price := some row.price
  stock := some row.stock
  imageUrl := row.imageUrl
  createdAt := row.createdAt
  updatedAt := row.updatedAt
  category := category

structure CategoryEntity where
  id : Uuid
  storeId : Uuid
  name : Option String
  createdAt : Timestamp
  updatedAt : Timestamp
  deriving DecidableEq, Repr

def Category.toEntity (row : Category) : CategoryEntity where
  id := row.id
  storeId := row.storeId
  name := some row.name
  createdAt := row.createdAt
  updatedAt := row.updatedAt

/-- An `Order` with its loaded `items`. -/
structure OrderEntity where
  order : Order
  items : List OrderItem
  deriving DecidableEq, Repr

structure MailMessage where
  toAddress : String
  subject : String
  html : String
  deriving DecidableEq, Repr

structure OutboxEvent where
  id : Uuid
  eventType : String
  payload : MailMessage
  processed : Bool
  createdAt : Timestamp
  processedAt : Option Timestamp
  deriving DecidableEq, Repr

/-- The bodies with which an `@Idempotent()` route can answer. -/
inductive ResponseBody where
  | order (entity : OrderEntity)
  | checkoutSession (url : String)
  deriving DecidableEq, Repr

structure IdempotencyRecord where
  id : String
  statusCode : Nat
  responseBody : Option ResponseBody
  deriving DecidableEq, Repr

/-- A value of a `jsonb` column. -/
inductive Json where
  | null
  | bool (value : Bool)
  | number (literal : String)
  | string (value : String)
  | array (items : List Json)
  | object (fields : List (String × Json))

/-- A row of `audit_logs`; who acted is copied into it, not referred to. -/
structure AuditLog where
  id : Uuid
  actorUserId : Uuid
  actorEmail : String
  actorRole : Role
  storeId : Option Uuid
  action : String
  targetId : Option String
  metadata : Option Json
  createdAt : Timestamp

/-! ## Errors -/

/-- The exceptions of the services, and a failed query with its SQLSTATE. -/
inductive ApiError where
  | notFound (message : String)
  | badRequest (message : String)
  | conflict (message : String)
  | unauthorized (message : String)
  | forbidden (message : String)
  | queryFailed (code : String)
  deriving DecidableEq, Repr

namespace ApiError

def uniqueViolation : ApiError := .queryFailed "23505"
def foreignKeyViolation : ApiError := .queryFailed "23503"
def notNullViolation : ApiError := .queryFailed "23502"
def numericValueOutOfRange : ApiError := .queryFailed "22003"
def invalidTextRepresentation : ApiError := .queryFailed "22P02"
def characterNotInRepertoire : ApiError := .queryFailed "22021"
def undefinedColumn : ApiError := .queryFailed "42703"

end ApiError

end StoreSaas
