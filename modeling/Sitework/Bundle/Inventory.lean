import Sitework.Names

/-!
# Inventory of an export

What the pages of a site have put into a bundle so far: images, which are numbered in order, and
the fonts that they apply.
-/

namespace Sitework

/-- What pages have put into a bundle. -/
structure Inventory where
  /-- The number of images. -/
  imageCount : Nat
  /-- The paths of the images, by name of the blob. -/
  paths : OrderedMap String
  /-- The data URLs of the images, by name of the blob. -/
  dataUrls : OrderedMap String
  /-- The families that pages apply. -/
  families : List String
deriving DecidableEq, Repr

namespace Inventory

/-- Nothing. -/
def empty : Inventory := ⟨0, OrderedMap.empty, OrderedMap.empty, []⟩

instance : Inhabited Inventory := ⟨empty⟩

/-- The path of an image by its number and its file name extension. -/
def imagePath (number : Nat) (extension : String) : String :=
  "src/images/image_" ++ toString number ++ "." ++ extension

/-- The path of a blob's image. -/
def path? (inventory : Inventory) (blobId : String) : Option String :=
  inventory.paths.get? blobId

/-- The inventory with the next image, and the path of that. -/
def addImage (inventory : Inventory) (blobId extension dataUrl : String) : Inventory × String :=
  let number := inventory.imageCount + 1
  let path := imagePath number extension
  ({ inventory with
      imageCount := number
      paths := inventory.paths.insert blobId path
      dataUrls := inventory.dataUrls.insert blobId dataUrl }, path)

/-- The inventory with the families that a page applies. -/
def addFamilies (inventory : Inventory) (families : List String) : Inventory :=
  { inventory with families := inventory.families ++ families }

/-- The families that pages apply, in alphabetical order. -/
def usedFamilies (inventory : Inventory) : List String :=
  Names.sorted inventory.families

/-- The data URLs of the images, in alphabetical order of the blobs. -/
def images (inventory : Inventory) : OrderedMap String :=
  inventory.dataUrls.sorted

end Inventory

end Sitework
