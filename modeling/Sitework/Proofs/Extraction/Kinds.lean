import Sitework.Proofs.Extraction.Normal
import Sitework.Proofs.Validation

/-!
# Kinds and contents of extracted elements

From the markup of an accepted page each element is extracted under its name, with its kind and
its content. There are two exceptions: the markup of images and input fields has no text, so their
content is lost, and a location of the scheme that names blobs is not told apart from a blob.
-/

namespace Sitework

namespace ElementKind

/-- The kind is an image at a location of the scheme that names blobs. -/
def IsAtBlobLocation (kind : ElementKind) : Prop :=
  ∃ name alt, kind = .image (.url (Compilation.blobScheme ++ name)) alt

/-- A heading of a level in range and an image at any other location are extracted as they are. -/
theorem normal_eq_self {kind : ElementKind}
    (hlevel : ∀ level, kind = .heading level → 1 ≤ level ∧ level ≤ 6)
    (hlocation : ¬kind.IsAtBlobLocation) : kind.normal = kind := by
  cases kind with
  | heading level => rw [normal, if_pos (hlevel level rfl)]
  | image source alt =>
    cases source with
    | blob id => rfl
    | url location =>
      rw [normal]
      cases hafter : Text.after? Compilation.blobScheme.toList location.toList with
      | none => rfl
      | some name =>
        have hsplit : location = Compilation.blobScheme ++ String.ofList name := by
          rw [← String.toList_inj, String.toList_append, String.toList_ofList]
          exact (Text.append_of_after? hafter).symm
        exact absurd ⟨String.ofList name, alt, hsplit ▸ rfl⟩ hlocation
  | _ => rfl

/-- An image is extracted as an image with the same description. -/
theorem exists_normal_image (source : ImageSource) (alt : Option String) :
    ∃ other, (ElementKind.image source alt).normal = .image other alt := by
  cases source with
  | blob id => exact ⟨.blob id, rfl⟩
  | url location =>
    rw [normal]
    cases Text.after? Compilation.blobScheme.toList location.toList with
    | some name => exact ⟨.blob (String.ofList name), rfl⟩
    | none => exact ⟨.url location, rfl⟩

end ElementKind

namespace Validation

/-- The headings of an accepted page have levels in range. -/
theorem level_of_checkPage {key : String} {page : Page} (h : checkPage key page = .ok ())
    {e : Element} (he : e ∈ page.elements.values) {level : UInt8}
    (hkind : e.kind = .heading level) : 1 ≤ level ∧ level ≤ 6 :=
  (isSound_of_checkPage h e he).level level hkind

end Validation

namespace Extraction

open Compilation Element

/-- Of elements with different names each is extracted in normal form, and nothing else is. -/
theorem exists_normalForm_of_mem {es : List Element} (hnodup : (es.map (·.id)).Nodup)
    (b : Breakpoint) : ∃ ys, normalForm es b = .ok ys ∧
      (ys.map (·.id)).Perm (es.map (·.id)) ∧
      ∀ y ∈ ys, ∃ e ∈ es, y.id = e.id ∧ y.kind = e.kind.normal ∧
        y.content = if e.kind.showsContent then e.content else none := by
  obtain ⟨forest, hgrows⟩ := exists_grows es
  refine ⟨_, normalForm_eq hgrows b, ?_, ?_⟩
  · have hnames : (names (normalizedAll forest)).Perm (es.map (·.id)) := by
      rw [names_normalizedAll, List.perm_ext_iff_of_nodup hgrows.nodup_names hnodup]
      intro id
      rw [hgrows.mem_names_iff, List.mem_map]
    exact hnames
  · rw [flattenAll_normalizedAll, List.forall_mem_map]
    intro x hx
    obtain ⟨e, he, parent, rfl⟩ := hgrows.exists_of_mem hx
    exact ⟨e, he, rfl, rfl, rfl⟩

/-- Each element of an accepted page is extracted under its name, in the same number. It has its
kind, unless it is an image at a location of the scheme of blobs, whose description at least is
kept. It has its content, unless it is an image or an input field; these have none. -/
theorem exists_kind_content {key : String} {p : Page} (h : Validation.checkPage key p = .ok ())
    (b : Breakpoint) : ∃ ys, (extractAll (p.compile b)).map flattenAll = .ok ys ∧
      (ys.map (·.id)).Perm (p.elements.values.map (·.id)) ∧
      ∀ e ∈ p.elements.values, ∃ y ∈ ys, y.id = e.id ∧
        (¬e.kind.IsAtBlobLocation → y.kind = e.kind) ∧
        (∀ source alt, e.kind = .image source alt → ∃ other, y.kind = .image other alt) ∧
        y.content = if e.kind.showsContent then e.content else none := by
  have hnodup := Validation.nodup_ids_of_checkPage h
  obtain ⟨ys, hys, hperm, hall⟩ := exists_normalForm_of_mem hnodup b
  refine ⟨ys, hys, hperm, fun e he => ?_⟩
  obtain ⟨y, hy, hid⟩ := List.mem_map.1 (hperm.mem_iff.2 (List.mem_map_of_mem he))
  obtain ⟨x, hx, hxid, hkind, hcontent⟩ := hall y hy
  obtain rfl : x = e := List.inj_on_of_nodup_map hnodup hx he (hxid.symm.trans hid)
  refine ⟨y, hy, hid, fun hlocation => ?_, fun source alt himage => ?_, hcontent⟩
  · rw [hkind]
    exact ElementKind.normal_eq_self (fun _ => Validation.level_of_checkPage h he) hlocation
  · rw [hkind, himage]
    exact ElementKind.exists_normal_image source alt

/-- A portrait with a caption. -/
def portrait : Element :=
  (Element.new "portrait" (.image (.url "me.png") (some "Me"))).withContent "My portrait"

/-- A photo at a location that a browser gave out. -/
def photo : Element :=
  Element.new "photo" (.image (.url "blob:http://localhost/1") (some "Me"))

/-- A button that looks like the markup of other elements. -/
def lookalike : Element :=
  (Element.new "button" (.button (some "blob:1"))).withContent "<img data-blob-id=\"1\">"

/-- A page with these elements. -/
def album : Page :=
  (Page.new "home" "Home").insertAll [portrait, photo, lookalike]

theorem exists_kind_content_album : Validation.checkPage "home" album = .ok () ∧
    ∃ ys, (extractAll (album.compile .tablet)).map flattenAll = .ok ys ∧
      ∃ y ∈ ys, y.id = "button" ∧ y.kind = lookalike.kind ∧ y.content = lookalike.content := by
  have haccepted : Validation.checkPage "home" album = .ok () := rfl
  obtain ⟨ys, hys, -, hall⟩ := exists_kind_content haccepted .tablet
  obtain ⟨y, hy, hid, hkind, -, hcontent⟩ := hall lookalike (.tail _ (.tail _ (.head _)))
  have hlocation : ¬lookalike.kind.IsAtBlobLocation := fun ⟨_, _, h⟩ => nomatch h
  exact ⟨haccepted, ys, hys, y, hy, hid, hkind hlocation, hcontent⟩

/-- The caption of an image is lost, and a location may be taken for a blob. -/
theorem not_kind_content_album : Validation.checkPage "home" album = .ok () ∧
    ∃ ys, (extractAll (album.compile .monitor)).map flattenAll = .ok ys ∧
      (∀ y ∈ ys, y.id = portrait.id → y.content ≠ portrait.content) ∧
      ∀ y ∈ ys, y.id = photo.id → y.kind ≠ photo.kind := by
  have haccepted : Validation.checkPage "home" album = .ok () := rfl
  have hnodup := Validation.nodup_ids_of_checkPage haccepted
  obtain ⟨ys, hys, -, hall⟩ := exists_normalForm_of_mem hnodup .monitor
  have hsame {e : Element} (he : e ∈ album.elements.values) {y : Element} (hy : y ∈ ys)
      (hid : y.id = e.id) : y.kind = e.kind.normal ∧
        y.content = if e.kind.showsContent then e.content else none := by
    obtain ⟨x, hx, hxid, hrest⟩ := hall y hy
    obtain rfl : x = e := List.inj_on_of_nodup_map hnodup hx he (hxid.symm.trans hid)
    exact hrest
  refine ⟨haccepted, ys, hys, fun y hy hid hcontent => ?_, fun y hy hid hkind => ?_⟩
  · rw [(hsame (.head _) hy hid).2] at hcontent
    exact absurd hcontent (by decide)
  · rw [(hsame (.tail _ (.head _)) hy hid).1] at hkind
    exact absurd hkind (by decide)

end Extraction

end Sitework
