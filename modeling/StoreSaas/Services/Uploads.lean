import StoreSaas.Library.Paths
import StoreSaas.Services.ProductsService

/-! # Image uploads -/

namespace StoreSaas

/-! ## The signature of an image -/

/-- A value of JavaScript, as far as a condition can tell. -/
inductive JsValue where
  | boolean (value : Bool)
  | string (text : String)
  | buffer (bytes : Bytes)
  deriving DecidableEq

def JsValue.truthy : JsValue → Bool
  | .boolean value => value
  | .string text => text ≠ ""
  | .buffer _ => true

inductive TypeError where
  | typeError
  deriving DecidableEq

/-- `Buffer.toString('ascii')` clears the high bit of each byte. -/
def asciiChar (byte : UInt8) : Char := Char.ofNat (byte.toNat % 128)

/-- `buf.toString('ascii', start, end)` -/
def asciiSlice (buf : Bytes) (start stop : Nat) : List Char := ((buf.take stop).drop start).map asciiChar

/-- The own keys of `SIGNATURES`. -/
def SIGNATURES : String → Option (Bytes → Bool)
  | "image/png" => some fun buf =>
    buf.length ≥ 8 && buf[0]? = some 0x89 && buf[1]? = some 0x50 && buf[2]? = some 0x4e && buf[3]? = some 0x47 &&
      buf[4]? = some 0x0d && buf[5]? = some 0x0a && buf[6]? = some 0x1a && buf[7]? = some 0x0a
  | "image/jpeg" => some fun buf =>
    buf.length ≥ 3 && buf[0]? = some 0xff && buf[1]? = some 0xd8 && buf[2]? = some 0xff
  | "image/webp" => some fun buf =>
    buf.length ≥ 12 && asciiSlice buf 0 4 = "RIFF".toList && asciiSlice buf 8 12 = "WEBP".toList
  | _ => none

/-- What a plain object inherits. -/
def objectPrototypeKeys : List String :=
  ["constructor", "__defineGetter__", "__defineSetter__", "hasOwnProperty", "__lookupGetter__", "__lookupSetter__",
    "isPrototypeOf", "propertyIsEnumerable", "toString", "valueOf", "__proto__", "toLocaleString"]

/-- `Object.prototype[key](buffer)` with `this` undefined: `Object(buffer)` is the buffer, `toString`
    describes `undefined`, every other method needs an object, and `__proto__` is no function. -/
def callInherited (key : String) (buffer : Bytes) : Except TypeError JsValue :=
  if key = "constructor" then .ok (.buffer buffer)
  else if key = "toString" then .ok (.string "[object Undefined]")
  else .error .typeError

def matchesImageSignature (buffer : Bytes) (claimedMimeType : String) : Except TypeError JsValue :=
  match SIGNATURES claimedMimeType with
  | some check => .ok (.boolean (check buffer))
  | none =>
    if claimedMimeType ∈ objectPrototypeKeys then callInherited claimedMimeType buffer else .ok (.boolean false)

/-- The call returns, and a value that counts as true. -/
def isTruthy : Except TypeError JsValue → Bool
  | .ok value => value.truthy
  | .error _ => false

/-! ## The storage providers -/

/-- A file as it lies in the storage, and the URL under which it is served. -/
structure StoredFile where
  name : List Char
  url : List Char
  content : Bytes
  deriving DecidableEq

inductive StorageProvider where
  | localDisk
  | s3 (publicUrlBase : List Char)
  deriving DecidableEq

/-- An ASCII letter or digit, a dot, an underscore, a slash or a dash. -/
def isKeptInKey (letter : Char) : Bool := letter.isAlphanum || "._/-".toList.contains letter

namespace StorageProvider

def safeKey : StorageProvider → List Char → List Char
  | .localDisk, key => Path.basename key
  | .s3 _, key => (key.filter isKeptInKey).dropWhile (· = '/')

def urlBase : StorageProvider → List Char
  | .localDisk => "/uploads".toList
  | .s3 publicUrlBase => publicUrlBase

def upload (storage : StorageProvider) (file : Bytes) (key : List Char) : StoredFile :=
  let safeKey := storage.safeKey key
  ⟨safeKey, storage.urlBase ++ '/' :: safeKey, file⟩

end StorageProvider

/-! ## `POST /products/:id/image` -/

/-- A file of a multipart body, as multer leaves it. -/
structure MulterFile where
  originalname : List Char
  mimetype : String
  buffer : Bytes
  deriving DecidableEq

/-- A route parameter: its text, and the UUID that the database reads in it. -/
structure IdParam where
  text : List Char
  id : RouteId

inductive UploadError where
  | badRequest (message : String)
  | payloadTooLarge
  | typeError
  | storageFailed
  deriving DecidableEq

def ALLOWED_MIME_TYPES : List String := ["image/png", "image/jpeg", "image/webp"]

def MAX_IMAGE_SIZE_BYTES : Nat := 5 * 1024 * 1024

def imageFileFilter (file : MulterFile) : Except UploadError Unit :=
  if ALLOWED_MIME_TYPES.contains file.mimetype then .ok ()
  else .error (.badRequest "Only PNG, JPEG, or WEBP images are allowed")

/-- `FileInterceptor('file', ...)`; a body may have no such field. -/
def FileInterceptor (file : Option MulterFile) : Except UploadError Unit :=
  match file with
  | none => .ok ()
  | some file => do
    imageFileFilter file
    if MAX_IMAGE_SIZE_BYTES < file.buffer.length then .error .payloadTooLarge else .ok ()

/-- `path.extname(originalname) || '.jpg'` -/
def imageExtension (originalname : List Char) : List Char :=
  if Path.extname originalname = [] then ".jpg".toList else Path.extname originalname

def imageKey (param : IdParam) (randomUUID : Uuid) (originalname : List Char) : List Char :=
  param.text ++ '-' :: randomUUID.chars ++ imageExtension originalname

namespace ProductsController

/-- The middle of `uploadImage`: what it hands to the storage. -/
def checkedImage (storage : StorageProvider) (param : IdParam) (randomUUID : Uuid) (file : Option MulterFile) :
    Except UploadError StoredFile := do
  let file ← file.elim (.error .typeError) .ok
  match matchesImageSignature file.buffer file.mimetype with
  | .error _ => .error .typeError
  | .ok matched =>
    if matched.truthy then .ok (storage.upload file.buffer (imageKey param randomUUID file.originalname))
    else
      .error (.badRequest
        "File content doesn't match its declared type - only real PNG, JPEG, or WEBP images are allowed")

/-- The interceptor and the handler; `takes` tells whether the disk or the bucket takes the file. -/
def uploadImage (env : Environment) (storage : StorageProvider) (takes : StoredFile → Bool) (storeId : Uuid)
    (param : IdParam) (file : Option MulterFile) : Tx (Except UploadError ProductEntity) :=
  match FileInterceptor file with
  | .error error => return .error error
  | .ok () => do
    let _ ← ProductsService.findOne storeId param.id
    match checkedImage storage param (env.newId 0) file with
    | .error error => return .error error
    | .ok stored =>
      if takes stored then
        return .ok (← ProductsService.setImage env storeId param.id (String.ofList stored.url))
      else return .error .storageFailed

end ProductsController

end StoreSaas
