import Sitework.Bundle.Inventory
import Sitework.Bundle.Manifest
import Sitework.Proofs.Bundle.DocumentName

/-!
# Different files have different paths

Paths are told apart by the directories they lead through: documents and the manifest are at the
top, stylesheets in one directory, images in two. Within one of these, paths differ by their
endings, by the name of the page, or by the number of the image.
-/

namespace Sitework

/-- The number of directories that a path leads through. -/
def pathDepth (path : String) : Nat :=
  path.toList.count '/'

/-- The folders of a path add up. -/
@[simp] theorem pathDepth_append (a b : String) :
    pathDepth (a ++ b) = pathDepth a + pathDepth b := by
  rw [pathDepth, String.toList_append, List.count_append]
  rfl

/-- A path lies in no folder if it has no slash. -/
theorem pathDepth_eq_zero_iff {path : String} : pathDepth path = 0 ↔ '/' ∉ path.toList :=
  List.count_eq_zero

/-- Texts with different endings of one length differ. -/
theorem append_ne_append {a b x y : String} (hlength : x.length = y.length) (hne : x ≠ y) :
    a ++ x ≠ b ++ y := by
  intro h
  have htoList := congrArg String.toList h
  rw [String.toList_append, String.toList_append] at htoList
  exact hne (String.toList_injective (List.append_inj_right' htoList hlength))

/-- The files that all pages share. -/
def sharedPaths : List String :=
  [faviconPath, sharedStylesheetPath]

/-- The stylesheets of a page. -/
def stylesheetPaths (pageId : String) : List String :=
  [baseStylesheetPath pageId, responsiveStylesheetPath pageId]

section Stylesheets

variable {a b : String}

/-- The shared files lie in one folder. -/
theorem pathDepth_sharedPaths : ∀ path ∈ sharedPaths, pathDepth path = 1 := by
  decide

/-- So do the stylesheets of a page whose name has no slash. -/
theorem pathDepth_stylesheetPaths (h : pathDepth a = 0) :
    ∀ path ∈ stylesheetPaths a, pathDepth path = 1 := by
  rw [stylesheetPaths, List.forall_mem_cons, List.forall_mem_singleton, baseStylesheetPath,
    responsiveStylesheetPath]
  simp only [pathDepth_append, h]
  decide

/-- The two stylesheets of pages end in different ways. -/
theorem baseStylesheetPath_ne_responsiveStylesheetPath :
    baseStylesheetPath a ≠ responsiveStylesheetPath b := by
  have hbase : baseStylesheetPath a = ("src/" ++ a ++ "_inde") ++ "x.css" := by
    rw [String.append_assoc]
    rfl
  have hresponsive : responsiveStylesheetPath b = ("src/" ++ b ++ "_responsiv") ++ "e.css" := by
    rw [String.append_assoc]
    rfl
  rw [hbase, hresponsive]
  exact append_ne_append rfl (by decide)

/-- The name of the page can be told from the path of a stylesheet. -/
theorem disjoint_stylesheetPaths (h : a ≠ b) :
    List.Disjoint (stylesheetPaths a) (stylesheetPaths b) := by
  have hbase : baseStylesheetPath a ≠ baseStylesheetPath b := by simpa [baseStylesheetPath]
  have hresponsive : responsiveStylesheetPath a ≠ responsiveStylesheetPath b := by
    simpa [responsiveStylesheetPath]
  simp [stylesheetPaths, hbase.symm, hresponsive.symm,
    baseStylesheetPath_ne_responsiveStylesheetPath,
    baseStylesheetPath_ne_responsiveStylesheetPath.symm]

/-- A path with a longer ending is not the one of the shared stylesheet. -/
private theorem append_ne_sharedStylesheetPath {ending : String} (h : 10 ≤ ending.length) :
    "src/" ++ a ++ ending ≠ sharedStylesheetPath := by
  intro heq
  have hlength := congrArg String.length heq
  rw [String.length_append, String.length_append] at hlength
  have hshared : sharedStylesheetPath.length = 13 := rfl
  have hstart : "src/".length = 4 := rfl
  omega

/-- A stylesheet is not at the path of the icon. -/
private theorem append_ne_faviconPath (ending : String) :
    "src/" ++ a ++ (ending ++ "css") ≠ faviconPath := by
  rw [← String.append_assoc, show faviconPath = "src/favicon." ++ "ico" from rfl]
  exact append_ne_append rfl (by decide)

/-- No stylesheet of a page takes the place of a file that the pages share. -/
theorem disjoint_sharedPaths (a : String) : List.Disjoint sharedPaths (stylesheetPaths a) := by
  rw [List.disjoint_right, stylesheetPaths, List.forall_mem_cons, List.forall_mem_singleton]
  simp only [sharedPaths, List.mem_cons, List.not_mem_nil, or_false, not_or]
  exact ⟨⟨append_ne_faviconPath "_index.", append_ne_sharedStylesheetPath (by decide)⟩,
    ⟨append_ne_faviconPath "_responsive.", append_ne_sharedStylesheetPath (by decide)⟩⟩

/-- The paths of the shared files and of the stylesheets of different pages are different. -/
theorem nodup_stylesheetPaths {ids : List String} (h : ids.Nodup) :
    (sharedPaths ++ ids.flatMap stylesheetPaths).Nodup := by
  refine List.Nodup.append (by decide) ?_ ?_
  · rw [List.nodup_flatMap]
    refine ⟨fun id _ => ?_, h.imp disjoint_stylesheetPaths⟩
    rw [stylesheetPaths, List.nodup_cons, List.mem_singleton]
    exact ⟨baseStylesheetPath_ne_responsiveStylesheetPath, List.nodup_singleton _⟩
  · rw [List.disjoint_right]
    intro path hpath
    obtain ⟨id, -, hid⟩ := List.mem_flatMap.1 hpath
    exact List.disjoint_right.1 (disjoint_sharedPaths id) hid

end Stylesheets

namespace Inventory

/-- Images are two directories down at least. -/
theorem two_le_pathDepth_imagePath (number : Nat) (extension : String) :
    2 ≤ pathDepth (imagePath number extension) := by
  have hstart : pathDepth "src/images/image_" = 2 := by simp [pathDepth]
  change 2 ≤ pathDepth ("src/images/image_" ++ toString number ++ "." ++ extension)
  simp only [pathDepth_append, hstart, Nat.add_assoc, Nat.le_add_right]

/-- Images with different numbers have different paths, whatever their types. -/
theorem eq_of_imagePath_eq {m n : Nat} {x y : String} (h : imagePath m x = imagePath n y) :
    m = n := by
  have hdigits (n : Nat) (rest : List Char) :
      (Decimal.digits n ++ '.' :: rest).takeWhile Char.isDigit = Decimal.digits n := by
    rw [List.takeWhile_append_of_pos fun c hc => Decimal.isDigit_of_mem_digits hc,
      List.takeWhile_cons_of_neg (by decide), List.append_nil]
  change "src/images/image_" ++ toString m ++ "." ++ x =
    "src/images/image_" ++ toString n ++ "." ++ y at h
  have htoList := congrArg String.toList h
  simp only [String.toList_append, toList_toString, List.append_assoc,
    List.append_cancel_left_eq] at htoList
  have htake := congrArg (List.takeWhile Char.isDigit) htoList
  rw [show ".".toList = ['.'] from rfl, List.singleton_append, List.singleton_append, hdigits,
    hdigits] at htake
  rw [← Decimal.ofDigits_digits m, htake, Decimal.ofDigits_digits]

end Inventory

/-- A document is at the top. -/
theorem pathDepth_of_isSlug {stem : String} (h : IsSlug stem.toList) : pathDepth stem = 0 := by
  rw [pathDepth_eq_zero_iff]
  intro hslash
  rcases h.of_mem hslash with hslug | hdash
  · exact absurd hslug (by decide)
  · exact absurd hdash (by decide)

/-- The names of the pages of an accepted site lead into no directory. -/
theorem Validation.pathDepth_ids_of_checkSite {site : Site} (h : checkSite site = .ok ()) :
    ∀ id ∈ site.pages.values.map (·.id), pathDepth id = 0 := by
  intro id hid
  obtain ⟨p, hp, rfl⟩ := List.mem_map.1 hid
  obtain ⟨entry, hentry, rfl⟩ := List.mem_map.1 hp
  obtain ⟨-, -, hchars⟩ := name_of_checkPage (checkPage_of_checkSite h entry hentry)
  rw [pathDepth_eq_zero_iff]
  exact fun hslash => absurd (hchars '/' hslash) (by decide)

end Sitework
