import Sitework.Bundle.Manifest

/-!
# Store

Where blobs and sites are kept, and assets are fetched from. Taking a manifest back into a store
changes it only if the whole manifest is accepted.
-/

namespace Sitework

/-- What a store does not have. -/
inductive StoreError where
  /-- A blob. -/
  | blobNotFound (id : String)
  /-- A site. -/
  | siteNotFound (id : String)
  /-- An asset. -/
  | assetNotFound (location : String)
deriving DecidableEq, Repr

/-- The text of the error. -/
def StoreError.message : StoreError → String
  | .blobNotFound id => "blob not found: " ++ id
  | .siteNotFound id => "site not found: " ++ id
  | .assetNotFound location => "asset not found: " ++ location

/-- Bytes under the locations they are fetched from. -/
abbrev Assets := OrderedMap (List UInt8)

/-- The bytes of an asset. -/
def Assets.fetch (assets : Assets) (location : String) : Except StoreError (List UInt8) :=
  match assets.get? location with
  | some bytes => .ok bytes
  | none => .error (.assetNotFound location)

/-- Blobs and sites under their names. -/
structure Store where
  /-- The blobs. -/
  blobs : OrderedMap Blob
  /-- The sites. -/
  sites : OrderedMap Site
deriving Repr

namespace Store

/-- A store without anything. -/
def empty : Store := ⟨OrderedMap.empty, OrderedMap.empty⟩

instance : Inhabited Store := ⟨empty⟩

/-- The blob of a name. -/
def blob (s : Store) (id : String) : Except StoreError Blob :=
  match s.blobs.get? id with
  | some blob => .ok blob
  | none => .error (.blobNotFound id)

/-- The site of a name. -/
def site (s : Store) (id : String) : Except StoreError Site :=
  match s.sites.get? id with
  | some site => .ok site
  | none => .error (.siteNotFound id)

/-- The store with a blob under a name. -/
def putBlob (s : Store) (id : String) (blob : Blob) : Store :=
  { s with blobs := s.blobs.insert id blob }

/-- The store with a site under its name. -/
def putSite (s : Store) (site : Site) : Store :=
  { s with sites := s.sites.insert site.id site }

/-- Takes the text of a manifest back, and tells which site it held: nothing is put into the store
before the whole manifest is read and checked; then the blobs are put one by one, and the site. -/
def importInto (text : String) : ExceptT ImportError (StateM Store) Site := do
  let imported ← liftExcept (Manifest.importText text)
  imported.blobs.entries.forM fun (id, blob) => modify (·.putBlob id blob)
  modify (·.putSite imported.site)
  return imported.site

/-- The store with the text of a manifest taken back, and the site that it held. -/
def importText (s : Store) (text : String) : Except ImportError (Store × Site) :=
  match (importInto text).run.run s with
  | (.ok site, after) => .ok (after, site)
  | (.error reason, _) => .error reason

end Store

end Sitework
