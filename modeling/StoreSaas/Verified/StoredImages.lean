import StoreSaas.Library.Sequential
import StoreSaas.Verified.ImageSignatures

/-! # The names of stored images

The key ends in the UUID and an extension, and neither provider touches more of that than
letters of the extension; so the name has the extension that the client's file name gives it.
-/

namespace StoreSaas

/-- The extensions of a format. -/
def ImageFormat.extensions : ImageFormat → List (List Char)
  | .png => [".png".toList]
  | .jpeg => [".jpg".toList, ".jpeg".toList]
  | .webp => [".webp".toList]

theorem ImageFormat.isExtension {format : ImageFormat} {extension : List Char}
    (listed : extension ∈ format.extensions) : Path.IsExtension extension := by
  have all : ∀ format : ImageFormat, ∀ extension ∈ format.extensions,
      extension = '.' :: extension.tail ∧ '.' ∉ extension.tail := by
    rintro (_ | _ | _) <;> decide
  exact ⟨_, all format extension listed⟩

/-! ## The key -/

theorem isExtension_imageExtension (originalname : List Char) : Path.IsExtension (imageExtension originalname) := by
  unfold imageExtension
  split
  next => exact ⟨"jpg".toList, rfl, by decide⟩
  next named => exact Path.isExtension_extname named

theorem slash_notMem_imageExtension (originalname : List Char) : '/' ∉ imageExtension originalname := by
  unfold imageExtension
  split
  next => decide
  next => exact Path.slash_notMem_extname originalname

/-- The extension under which a provider stores the client's file. -/
def StorageProvider.storedExtension (storage : StorageProvider) (originalname : List Char) : List Char :=
  match storage with
  | .localDisk => imageExtension originalname
  | .s3 _ => (imageExtension originalname).filter isKeptInKey

theorem isExtension_storedExtension (storage : StorageProvider) (originalname : List Char) :
    Path.IsExtension (storage.storedExtension originalname) := by
  obtain ⟨rest, isDotted, plain⟩ := isExtension_imageExtension originalname
  cases storage with
  | localDisk => exact ⟨rest, isDotted, plain⟩
  | s3 =>
    refine ⟨rest.filter isKeptInKey, ?_, fun dotted => plain (List.mem_of_mem_filter dotted)⟩
    rw [StorageProvider.storedExtension, isDotted, List.filter_cons_of_pos (by decide)]

/-- Dropping what leads the front leaves what follows a letter that is not dropped. -/
theorem suffix_dropWhile {dropped : Char → Bool} {front back : List Char} {letter : Char} (stays : dropped letter = false) :
    back <:+ (front ++ letter :: back).dropWhile dropped := by
  induction front with
  | nil =>
    rw [List.nil_append, List.dropWhile_cons_of_neg (by rw [stays]; exact Bool.false_ne_true)]
    exact List.suffix_cons _ _
  | cons head rest ih =>
    rw [List.cons_append, List.dropWhile_cons]
    split
    next => exact ih
    next => exact (List.suffix_cons _ _).trans (List.suffix_append (head :: rest) _)

/-- Whatever the providers do to the front of the key, its extension stays at the end. -/
theorem suffix_safeKey (storage : StorageProvider) (param : IdParam) (randomUUID : Uuid) (originalname : List Char) :
    storage.storedExtension originalname <:+ storage.safeKey (imageKey param randomUUID originalname) := by
  cases storage with
  | localDisk =>
    obtain ⟨rest, isDotted, -⟩ := isExtension_imageExtension originalname
    have named : imageExtension originalname ≠ [] := isDotted ▸ List.cons_ne_nil '.' rest
    exact Path.suffix_basename named (slash_notMem_imageExtension originalname)
  | s3 =>
    have split_ : (imageKey param randomUUID originalname).filter isKeptInKey =
        param.text.filter isKeptInKey ++
          '-' :: (randomUUID.chars.filter isKeptInKey ++ (imageExtension originalname).filter isKeptInKey) := by
      rw [imageKey, List.append_assoc, List.filter_append, List.cons_append, List.filter_cons_of_pos (by decide),
        List.filter_append]
    rw [StorageProvider.safeKey, split_]
    exact (List.suffix_append _ _).trans (suffix_dropWhile (by decide))

/-! ## The upload -/

namespace ProductsService

variable (env : Environment)

theorem ensures_save (entity : ProductEntity) (db : Database) :
    Program.Ensures shop.executeOn (save env entity) db fun product _ => product.imageUrl = entity.imageUrl := by
  refine Program.ensures_perform_bind fun found after executed => ?_
  rcases (found : Option Product) with _ | row
  · exact Program.ensures_perform_bind fun _ _ _ => Program.ensures_done rfl
  · refine Program.ensures_ite (Program.ensures_done rfl) ?_
    exact Program.ensures_perform_bind fun _ _ _ => Program.ensures_done rfl

theorem ensures_setImage (storeId : Uuid) (id : RouteId) (imageUrl : String) (db : Database) :
    Program.Ensures shop.executeOn (setImage env storeId id imageUrl) db fun product _ =>
      product.imageUrl = some imageUrl :=
  Program.Ensures.bind (fun _ _ _ => True.intro) fun product after _ =>
    ensures_save env { product with imageUrl := some imageUrl } after

end ProductsService

/-- The file is stored and served under an extension of the type that it was verified as. -/
def StoredFile.HasImageName (stored : StoredFile) (mime : String) : Prop :=
  ∃ format : ImageFormat, format.mimeType = mime ∧
    ∃ extension ∈ format.extensions, extension <:+ stored.name ∧ extension <:+ stored.url

/-- The client's file name has an extension of the type that it claims to be. -/
def NamedAsImage (storage : StorageProvider) (file : MulterFile) : Prop :=
  ∃ format : ImageFormat, format.mimeType = file.mimetype ∧
    storage.storedExtension file.originalname ∈ format.extensions

namespace ProductsController

variable {storage : StorageProvider} {param : IdParam} {randomUUID : Uuid} {file : MulterFile} {stored : StoredFile}

/-- What is stored has passed the check, under the key of the upload. -/
theorem checkedImage_eq_ok (accepted : checkedImage storage param randomUUID (some file) = .ok stored) :
    isTruthy (matchesImageSignature file.buffer file.mimetype) = true ∧
      stored = storage.upload file.buffer (imageKey param randomUUID file.originalname) := by
  simp only [checkedImage, Option.elim_some, bind, Except.bind] at accepted
  split at accepted
  next => cases accepted
  next matched checked =>
    split at accepted
    next truthy =>
      cases accepted
      exact ⟨by rw [checked]; exact truthy, rfl⟩
    next => cases accepted

theorem checkedImage_of_isTruthy (passes : isTruthy (matchesImageSignature file.buffer file.mimetype) = true) :
    checkedImage storage param randomUUID (some file) =
      .ok (storage.upload file.buffer (imageKey param randomUUID file.originalname)) := by
  simp only [checkedImage, Option.elim_some, bind, Except.bind]
  cases checked : matchesImageSignature file.buffer file.mimetype with
  | error error =>
    rw [checked] at passes
    cases passes
  | ok matched =>
    rw [checked] at passes
    exact if_pos passes

/-- A product whose image was set shows the URL of a file that the storage has taken. -/
theorem ensures_uploadImage (env : Environment) (takes : StoredFile → Bool) (storeId : Uuid) (db : Database) :
    Program.Ensures shop.executeOn (uploadImage env storage takes storeId param (some file)) db fun result _ =>
      ∀ product, result = .ok product → ∃ stored,
        checkedImage storage param (env.newId 0) (some file) = .ok stored ∧ takes stored = true ∧
          product.imageUrl = some (String.ofList stored.url) := by
  unfold uploadImage
  split
  next => exact Program.ensures_done fun _ isError => by cases isError
  next =>
    refine Program.Ensures.bind (fun _ _ _ => True.intro) fun _ after _ => ?_
    split
    next => exact Program.ensures_done fun _ isError => by cases isError
    next stored checked =>
      split
      next taken =>
        refine (ProductsService.ensures_setImage env storeId param.id _ after).bind fun product _ shows => ?_
        refine Program.ensures_done fun shown isShown => ⟨stored, checked, taken, ?_⟩
        cases isShown
        exact shows
      next => exact Program.ensures_done fun _ isError => by cases isError

/-- An accepted upload is stored under an image name of its type exactly if its own name is one. -/
theorem hasImageName_iff (accepted : checkedImage storage param randomUUID (some file) = .ok stored) :
    stored.HasImageName file.mimetype ↔ NamedAsImage storage file := by
  obtain ⟨-, rfl⟩ := checkedImage_eq_ok accepted
  have ends := suffix_safeKey storage param randomUUID file.originalname
  have served : storage.storedExtension file.originalname <:+
      storage.urlBase ++ '/' :: storage.safeKey (imageKey param randomUUID file.originalname) :=
    ends.trans ((List.suffix_cons _ _).trans (List.suffix_append _ _))
  refine exists_congr fun format => and_congr_right fun _ => ⟨?_, fun listed => ⟨_, listed, ends, served⟩⟩
  rintro ⟨extension, listed, endsName, -⟩
  rw [← Path.suffix_unique (ImageFormat.isExtension listed) (isExtension_storedExtension storage file.originalname)
    endsName ends]
  exact listed

/-- The header of a PNG file, under a name of the client's choice. -/
def pngNamed (originalname : String) : MulterFile where
  originalname := originalname.toList
  mimetype := "image/png"
  buffer := [0x89, 0x50, 0x4e, 0x47, 0x0d, 0x0a, 0x1a, 0x0a]

theorem isTruthy_pngNamed (originalname : String) :
    isTruthy (matchesImageSignature (pngNamed originalname).buffer (pngNamed originalname).mimetype) = true := by
  change isTruthy (matchesImageSignature [0x89, 0x50, 0x4e, 0x47, 0x0d, 0x0a, 0x1a, 0x0a] "image/png") = true
  decide +kernel

theorem hasImageName_photo :
    ∃ stored, checkedImage .localDisk ⟨Uuid.chars 5, some 5⟩ 7 (some (pngNamed "photo.png")) = .ok stored ∧
      (stored.HasImageName (pngNamed "photo.png").mimetype ↔ NamedAsImage .localDisk (pngNamed "photo.png")) := by
  have passes := isTruthy_pngNamed "photo.png"
  exact ⟨_, checkedImage_of_isTruthy passes, hasImageName_iff (checkedImage_of_isTruthy passes)⟩

/-- An HTML page that begins like a PNG file is taken, and served as a page. -/
theorem exists_not_hasImageName :
    ∃ stored, FileInterceptor (some (pngNamed "page.html")) = .ok () ∧
      checkedImage .localDisk ⟨Uuid.chars 5, some 5⟩ 7 (some (pngNamed "page.html")) = .ok stored ∧
        ¬ stored.HasImageName (pngNamed "page.html").mimetype := by
  refine ⟨_, by decide, checkedImage_of_isTruthy (isTruthy_pngNamed "page.html"), ?_⟩
  rintro ⟨format, isPng, extension, listed, ends, -⟩
  cases format with
  | png =>
    rw [List.mem_singleton.mp listed] at ends
    revert ends
    decide
  | jpeg | webp => exact absurd isPng (by decide)

end ProductsController

end StoreSaas
