import Sitework.Toml.Reader
import Sitework.Url.Basic

/-!
# Settings of an export

Settings are read from a TOML document, each with a default. Other keys and tables of the document
are passed over.
-/

namespace Sitework

/-- The settings of an export. -/
structure ExportConfig where
  /-- Whether stylesheets and documents are minified. -/
  minify : Bool
  /-- The location of the favicon. -/
  faviconUrl : String
  /-- The request for webfonts. -/
  webfontUrl : Option String
  /-- The rules that every page shares. -/
  sharedRules : String
deriving DecidableEq, Repr

/-- Why settings are refused. -/
inductive ConfigError where
  /-- The document is malformed, or a setting has a value of a wrong type. -/
  | malformed
  /-- The request for webfonts is no URL. -/
  | invalidWebfontUrl (reason : UrlError)
deriving DecidableEq, Repr

/-- The text of the error. -/
def ConfigError.message : ConfigError → String
  | .malformed => "invalid export config"
  | .invalidWebfontUrl reason => "invalid webfont_url url: " ++ reason.message

namespace ExportConfig

/-- The rules that every page shares unless there are others. -/
def defaultRules : String :=
  "*, *::before, *::after \x7b\n  box-sizing: border-box;\n\x7d\n\n" ++
    "body \x7b\n  margin: 0;\n\x7d\n\nimg \x7b\n  max-width: 100%;\n\x7d\n"

/-- The settings of an empty document. -/
def default : ExportConfig where
  minify := false
  faviconUrl := "favicon.ico"
  webfontUrl := none
  sharedRules := defaultRules

instance : Inhabited ExportConfig := ⟨default⟩

/-- A text among the settings. -/
def text? : Toml.Value → Option String
  | .string text => some text
  | _ => none

/-- A truth value among the settings. -/
def boolean? : Toml.Value → Option Bool
  | .boolean value => some value
  | _ => none

/-- The value of a setting; `fallback` if it is not given, and none if it has a wrong type. -/
def setting? {α : Type} (read : Toml.Value → Option α) (fallback : α) (entries : Toml.Entries)
    (key : String) : Option α :=
  match entries.lookup key with
  | none => some fallback
  | some value => read value

/-- The settings among the entries of a document. -/
def ofEntries? (entries : Toml.Entries) : Option ExportConfig := do
  return {
    minify := ← setting? boolean? default.minify entries "minify"
    faviconUrl := ← setting? text? default.faviconUrl entries "favicon_url"
    webfontUrl := ← setting? (fun value => (text? value).map some) none entries "webfont_url"
    sharedRules := ← setting? text? default.sharedRules entries "global_css" }

/-- The settings of a document. -/
def parse (text : String) : Except ConfigError ExportConfig :=
  match (Toml.parse? text).bind ofEntries? with
  | none => .error .malformed
  | some config =>
    match config.webfontUrl.map Url.parse with
    | some (.error reason) => .error (.invalidWebfontUrl reason)
    | _ => .ok config

end ExportConfig

end Sitework
