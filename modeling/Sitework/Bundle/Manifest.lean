import Sitework.Blob
import Sitework.Json.Writer
import Sitework.Stored
import Sitework.Validation

/-!
# Manifests

The manifest of a bundle holds the whole site and the data URLs of its images, so that the site can
be taken back from it. A manifest is taken back as a whole or not at all.
-/

namespace Sitework

/-- A site with its images. -/
structure Manifest where
  /-- A word to those who open the file. -/
  warning : String
  /-- The site. -/
  site : Site
  /-- The data URLs of the images by name of the blob, in alphabetical order. -/
  images : OrderedMap String
deriving Repr, Inhabited

/-- A site and the blobs that came with it. -/
structure ImportedSite where
  /-- The site. -/
  site : Site
  /-- The blobs under their names. -/
  blobs : OrderedMap Blob
deriving Repr, Inhabited

/-- Why a manifest cannot be taken back. -/
inductive ImportError where
  /-- The text is no manifest. -/
  | malformed
  /-- The site is not valid. -/
  | invalidSite (reason : ValidationError)
  /-- The data URL of an image cannot be read. -/
  | image (blobId : String) (reason : DataUrlError)
  /-- An image refers to a blob that the manifest does not hold. -/
  | missingImage (blobId : String)
deriving DecidableEq, Repr

/-- The text of the error. -/
def ImportError.message : ImportError → String
  | .malformed => "malformed manifest"
  | .invalidSite reason => "invalid site: " ++ reason.message
  | .image blobId reason => "image " ++ blobId ++ " could not be decoded: " ++ reason.message
  | .missingImage blobId =>
    "image " ++ blobId ++ " is referenced but missing from the manifest"

/-- The file of the manifest. -/
def manifestPath : String := "site.json"

namespace Manifest

/-- The warning of every manifest that is written. -/
def standardWarning : String :=
  "Generated by the site exporter. Do not edit this file by hand: its exact shape is required " ++
    "to import the site again."

/-- The manifest of a site with its images. -/
def new (site : Site) (images : OrderedMap String) : Manifest :=
  ⟨standardWarning, site, images.sorted⟩

/-- The name of the member that holds the warning. -/
def warningKey : String := "__WARNING__"

/-- The stored form: the members of the site stand between the warning and the images. -/
def toJson (m : Manifest) : Json :=
  .object ((warningKey, .string m.warning) :: m.site.toMembers ++
    [("images", m.images.toJson .string)])

/-- The text of a manifest. -/
def text (m : Manifest) : String :=
  m.toJson.pretty

/-- The manifest of a stored form. -/
def ofJson? (value : Json) : Option Manifest := do
  let members ← value.object?
  let warning ← Json.Members.withDefault? members warningKey "" Json.string?
  let site ← Site.ofMembers? .lenient members
  let images ← Json.Members.withDefault? members "images" OrderedMap.empty
    (OrderedMap.ofJson? Json.string?)
  return ⟨warning, site, images.sorted⟩

/-- The manifest of a text. -/
def parse? (text : String) : Option Manifest :=
  (Json.parse? text).bind ofJson?

/-- The blob of an image. -/
def blob (entry : String × String) : Except ImportError (String × Blob) :=
  match Blob.ofDataUrl entry.2 with
  | .ok blob => .ok (entry.1, blob)
  | .error reason => .error (.image entry.1 reason)

/-- The first blob that the site refers to and the manifest does not hold. -/
def missing? (m : Manifest) : Option String :=
  m.site.referencedBlobs.find? fun id => !m.images.contains id

/-- The site of a manifest, if it is valid and has all its images. -/
def importSite (m : Manifest) : Except ImportError ImportedSite :=
  match Validation.checkSite m.site with
  | .error reason => .error (.invalidSite reason)
  | .ok () => do
    let blobs ← m.images.entries.mapM blob
    match m.missing? with
    | some id => throw (.missingImage id)
    | none => return ⟨m.site, .ofList blobs⟩

/-- The site of the text of a manifest. -/
def importText (text : String) : Except ImportError ImportedSite :=
  match parse? text with
  | some m => m.importSite
  | none => .error .malformed

end Manifest

end Sitework
