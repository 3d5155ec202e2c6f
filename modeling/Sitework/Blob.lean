import Sitework.Text.Base64
import Sitework.Text.Blank
import Sitework.Text.Split

/-!
# Blobs

The bytes of a binary asset with the name of their type, and the form in which a text carries
both: a data URL.
-/

namespace Sitework

/-- A binary asset. -/
structure Blob where
  /-- The name of the type of the bytes. -/
  mime : String
  /-- The bytes. -/
  data : List UInt8
deriving DecidableEq, Repr, Inhabited

/-- Why a text is no data URL with bytes. -/
inductive DataUrlError where
  /-- The scheme or the comma before the payload is missing. -/
  | notDataUrl
  /-- The payload is not marked as bytes. -/
  | notBase64
  /-- The payload cannot be read. -/
  | payload (fault : Base64.Fault)
deriving DecidableEq, Repr

/-- The text of the error. -/
def DataUrlError.message : DataUrlError → String
  | .notDataUrl => "not a data url"
  | .notBase64 => "data url is not base64 encoded"
  | .payload fault => "invalid base64 payload: " ++ fault.message

namespace Blob

/-- The start of a data URL. -/
def dataScheme : String := "data:"

/-- The mark of a payload that holds bytes. -/
def base64Mark : String := ";base64"

/-- The data URL of a blob. -/
def toDataUrl (b : Blob) : String :=
  dataScheme ++ b.mime ++ base64Mark ++ "," ++ Base64.toText b.data

/-- The blob of a data URL. -/
def ofDataUrl (url : String) : Except DataUrlError Blob :=
  match (Text.after? dataScheme.toList url.toList).bind (Text.breakOn? ',') with
  | none => .error .notDataUrl
  | some (header, payload) =>
    match Text.before? base64Mark.toList header with
    | none => .error .notBase64
    | some mime =>
      match Base64.ofText (String.ofList payload) with
      | .ok data => .ok ⟨String.ofList mime, data⟩
      | .error fault => .error (.payload fault)

/-- The types of images that have a file name extension of their own. -/
def extensions : List (String × String) :=
  [("image/png", "png"), ("image/jpeg", "jpg"), ("image/jpg", "jpg"), ("image/gif", "gif"),
    ("image/webp", "webp"), ("image/avif", "avif"), ("image/svg+xml", "svg"),
    ("image/x-icon", "ico"), ("image/vnd.microsoft.icon", "ico")]

/-- The file name extension for a type, in any case of its letters. -/
def extension (mime : String) : String :=
  (extensions.lookup (String.ofList (Text.lower (Text.trim mime.toList)))).getD "bin"

end Blob

end Sitework
