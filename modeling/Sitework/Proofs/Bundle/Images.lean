import Sitework.Bundle.Export
import Sitework.Proofs.Bundle.FileName
import Sitework.Proofs.Compilation.Assembled
import Sitework.Proofs.Markup.Mapped
import Sitework.Proofs.Names

/-!
# Images of an export

The markup of a page shows the blobs of its image elements, and no others. An export comes to them
page by page in the order of the markup. Every blob it comes to for the first time gets the next
number, and with it a path, a file under that path and a data URL; one that is known keeps its own.
So what is recorded after some pages is told by the list of the blobs that they show, and so are
the sources that their images get. The first blob that the store lacks ends the export.
-/

namespace Sitework

/-- The blob that a node names. -/
def MarkupNode.blobId? (n : MarkupNode) : Option String :=
  n.attribute? Compilation.blobAttribute

/-- The blob that the node of a number names. -/
def MarkupTree.blobId? (t : MarkupTree) (i : Nat) : Option String :=
  (t.get? i).bind (·.blobId?)

/-- The blobs that a page shows, in the order of its markup. -/
def Page.shownBlobs (p : Page) : List String :=
  (p.compile .monitor).nodes.filterMap (·.blobId?)

namespace MarkupNode

/-- The node of an element names the blob that the element refers to. -/
@[simp] theorem blobId?_nodeOf (cache : DeclarationCache) (b : Breakpoint) (e : Element) :
    (Compilation.nodeOf cache b e).blobId? = Site.blobOf? e := by
  change (OrderedMap.ofList (Compilation.kindAttributes e.kind)).get? Compilation.blobAttribute =
    Site.blobOf? e
  rw [Site.blobOf?]
  cases e.kind with
  | image source alt => cases source <;> cases alt <;> rfl
  | button href => cases href <;> rfl
  | input type placeholder autocomplete => cases placeholder <;> rfl
  | _ => rfl

/-- A source does not change which blob a node names. -/
@[simp] theorem blobId?_setSource (n : MarkupNode) (path : String) :
    (n.setAttribute "src" path).blobId? = n.blobId? := by
  rw [blobId?, attribute?, setAttribute, OrderedMap.get?_insert, if_neg (by decide)]
  rfl

/-- The node with the path of its blob as its source, if it names one. -/
def placed (pathOf : String → String) (n : MarkupNode) : MarkupNode :=
  match n.blobId? with
  | some id => n.setAttribute "src" (pathOf id)
  | none => n

variable (pathOf : String → String)

/-- A node without a stored image stays as it is. -/
theorem placed_of_none {n : MarkupNode} (h : n.blobId? = none) : n.placed pathOf = n := by
  rw [placed, h]

/-- A node with a stored image shows it from its path. -/
theorem placed_of_some {n : MarkupNode} {id : String} (h : n.blobId? = some id) :
    n.placed pathOf = n.setAttribute "src" (pathOf id) := by
  rw [placed, h]

@[simp] theorem blobId?_placed (n : MarkupNode) : (n.placed pathOf).blobId? = n.blobId? := by
  cases h : n.blobId? with
  | none => rw [placed_of_none pathOf h, h]
  | some id => rw [placed_of_some pathOf h, blobId?_setSource, h]

/-- A node that names a blob has the path of that blob as its source. -/
theorem attribute?_src_placed {n : MarkupNode} {id : String} (h : n.blobId? = some id) :
    (n.placed pathOf).attribute? "src" = some (pathOf id) := by
  rw [placed_of_some pathOf h, attribute?, setAttribute, OrderedMap.get?_insert, if_pos rfl]

/-- A source is set once. -/
theorem placed_placed (n : MarkupNode) : (n.placed pathOf).placed pathOf = n.placed pathOf := by
  cases h : n.blobId? with
  | none => rw [placed_of_none pathOf h, placed_of_none pathOf h]
  | some id =>
    have hset := attribute?_src_placed pathOf h
    rw [placed_of_some pathOf ((blobId?_placed pathOf n).trans h), setAttribute,
      OrderedMap.insert_of_get?_eq_some hset]

/-- Only the source of a node is set. -/
theorem placed_eq (n : MarkupNode) :
    n.placed pathOf = { n with attributes := (n.placed pathOf).attributes } := by
  rw [placed]
  split <;> rfl

end MarkupNode

namespace MarkupTree

variable {t : MarkupTree} (pathOf : String → String)

/-- Setting the source of a node does not change which blobs the nodes of its tree name. -/
theorem blobId?_modify_placed (i : Nat) :
    (t.modify i (·.placed pathOf)).blobId? = t.blobId? := by
  funext j
  rw [blobId?, get?, places_modify, blobId?, get?]
  split
  · cases t.places[j]? with
    | none => rfl
    | some place => exact MarkupNode.blobId?_placed pathOf place.node
  · rfl

/-- The fonts of a tree do not depend on the sources of its nodes. -/
theorem fontFamilies_mapNodes_placed :
    (t.mapNodes (·.placed pathOf)).fontFamilies = t.fontFamilies := by
  rw [fontFamilies, fontFamilies, nodes_mapNodes, List.flatMap_map]
  congr 1
  refine List.flatMap_congr fun n _ => ?_
  rw [n.placed_eq pathOf]

end MarkupTree

namespace Page

variable {p : Page}

/-- The nodes that name a blob show the blobs of the page. -/
theorem filterMap_query (p : Page) :
    ((p.compile .monitor).query fun n => n.blobId?.isSome).filterMap (p.compile .monitor).blobId? =
      p.shownBlobs := by
  rw [MarkupTree.query, List.filterMap_filter, shownBlobs, MarkupTree.nodes,
    List.filterMap_filterMap]
  refine List.filterMap_congr fun i _ => ?_
  rw [MarkupTree.blobId?]
  cases (p.compile .monitor).get? i with
  | none => rfl
  | some n => cases hid : n.blobId? <;> simp [hid]

/-- The markup of the page with the paths of its images. -/
def placed (p : Page) (pathOf : String → String) : MarkupTree :=
  (p.compile .monitor).mapNodes (·.placed pathOf)

/-- The fonts that the markup of the page applies. -/
def fontFamilies (p : Page) : List String :=
  (p.compile .monitor).fontFamilies

/-- The nodes that name a blob are all of which the source is to be set. -/
theorem foldl_query_eq_placed (p : Page) (pathOf : String → String) :
    ((p.compile .monitor).query fun n => n.blobId?.isSome).foldl
      (fun t i => t.modify i (·.placed pathOf)) (p.compile .monitor) = p.placed pathOf := by
  refine MarkupTree.foldl_modify_eq_mapNodes (MarkupNode.placed_placed pathOf) ?_
  intro i n hget hmem
  have hreached : i ∈ (p.compile .monitor).preOrder := by
    have hcomplete := p.compile_isComplete .monitor
    exact hcomplete.reached.mem_iff.2 (List.mem_range.2 (MarkupTree.lt_size_of_get? hget))
  refine MarkupNode.placed_of_none pathOf ?_
  rw [← Option.not_isSome_iff_eq_none]
  intro hsome
  refine hmem (List.mem_filter.2 ⟨hreached, ?_⟩)
  rw [hget]
  exact hsome

/-- Every element has a node. -/
theorem exists_node {e : Element} (he : e ∈ p.elements.values) :
    ∃ n ∈ (p.compile .monitor).nodes, n.elementId? = some e.id := by
  have hcomplete := p.compile_isComplete .monitor
  obtain ⟨i, hi, -, hname⟩ := hcomplete.found e he
  obtain ⟨n, hget, hname⟩ := Option.bind_eq_some_iff.1 hname
  exact ⟨n, List.mem_filterMap.2 ⟨i, hi, hget⟩, hname⟩

/-- A node is that of an element or stands for none. -/
theorem node_eq {n : MarkupNode} (hn : n ∈ (p.compile .monitor).nodes) :
    n.elementId? = none ∧ n.blobId? = none ∨
      ∃ e ∈ p.elements.values, n = Compilation.nodeOf .empty .monitor e := by
  have hcomplete := p.compile_isComplete .monitor
  obtain ⟨i, -, hget⟩ := List.mem_filterMap.1 hn
  cases hcomplete.part i n hget with
  | root _ hroot => exact .inl (hroot ▸ ⟨rfl, rfl⟩)
  | helper _ _ _ _ hhelper => exact .inl (hhelper ▸ ⟨rfl, rfl⟩)
  | @element e he hnode => exact .inr ⟨e, he, hnode⟩

/-- With different names of the elements, a node with the name of an element is its node. -/
theorem node_eq_nodeOf (hnodup : (p.elements.values.map (·.id)).Nodup) {e : Element}
    (he : e ∈ p.elements.values) {n : MarkupNode} (hn : n ∈ (p.compile .monitor).nodes)
    (hname : n.elementId? = some e.id) : n = Compilation.nodeOf .empty .monitor e := by
  rcases node_eq hn with ⟨hnone, -⟩ | ⟨other, hother, rfl⟩
  · rw [hnone] at hname
    cases hname
  · have hsame : other.id = e.id := Option.some_inj.1 hname
    rw [List.inj_on_of_nodup_map hnodup hother he hsame]

/-- A page whose elements have different names shows the blobs of its elements. -/
theorem mem_shownBlobs (hnodup : (p.elements.values.map (·.id)).Nodup) {id : String} :
    id ∈ p.shownBlobs ↔ ∃ e ∈ p.elements.values, Site.blobOf? e = some id := by
  rw [shownBlobs, List.mem_filterMap]
  constructor
  · rintro ⟨n, hn, hid⟩
    rcases node_eq hn with ⟨-, hnone⟩ | ⟨e, he, rfl⟩
    · rw [hnone] at hid
      cases hid
    · rw [MarkupNode.blobId?_nodeOf] at hid
      exact ⟨e, he, hid⟩
  · rintro ⟨e, he, hid⟩
    obtain ⟨n, hn, hname⟩ := exists_node he
    refine ⟨n, hn, ?_⟩
    rw [node_eq_nodeOf hnodup he hn hname, MarkupNode.blobId?_nodeOf, hid]

end Page

namespace Exporter

open Inventory (imagePath)

variable {x : Exporter} {blobOf : String → Blob} {base : Archive} {seen families : List String}
  {progress : Progress}

/-- The path of a blob with a number. -/
def numberedPath (blobOf : String → Blob) (numbered : String × Nat) : String :=
  imagePath numbered.2 (Blob.extension (blobOf numbered.1).mime)

/-- The path of a blob, which is numbered by its place among those that are shown. -/
def pathOf (blobOf : String → Blob) (shown : List String) (id : String) : String :=
  numberedPath blobOf (id, shown.idxOf id + 1)

/-- The path of a blob does not change when more blobs are shown. -/
theorem pathOf_of_prefix {shown : List String} (h : seen <+: shown) {id : String}
    (hid : id ∈ seen) : pathOf blobOf shown id = pathOf blobOf seen id := by
  obtain ⟨rest, rfl⟩ := h
  rw [pathOf, pathOf, List.idxOf_append_of_mem hid]

/-- The images of some blobs, as files. -/
def imageFiles (blobOf : String → Blob) (seen : List String) : List (String × List UInt8) :=
  (seen.zipIdx 1).map fun numbered => (numberedPath blobOf numbered, (blobOf numbered.1).data)

/-- What is recorded once some blobs have been shown and some families applied: the blobs are
numbered in order, and there is a path, a file and a data URL for each. The files before them are
those of `base`. -/
structure Recorded (blobOf : String → Blob) (base : Archive) (seen families : List String)
    (progress : Progress) : Prop where
  nodup : seen.Nodup
  imageCount : progress.inventory.imageCount = seen.length
  paths : progress.inventory.paths.entries =
    (seen.zipIdx 1).map fun numbered => (numbered.1, numberedPath blobOf numbered)
  dataUrls : progress.inventory.dataUrls.entries =
    seen.map fun id => (id, (blobOf id).toDataUrl)
  files : progress.archive.entries = base.entries ++ imageFiles blobOf seen
  families : progress.inventory.families = families

/-- A file is added under a path that is new. -/
theorem add_eq_ok {archive : Archive} {path : String} (h : path ∉ archive.keys)
    (bytes : List UInt8) : add archive path bytes = .ok (archive.insert path bytes) := by
  rw [add, Archive.add, if_neg (mt OrderedMap.contains_iff.1 h)]
  rfl

/-- The store lacks a blob. -/
def lacks (x : Exporter) (id : String) : Bool :=
  (x.store.blobs.get? id).isNone

/-- A blob that is neither known nor in the store ends the export. -/
theorem addImage_eq_error {id : String} (hid : progress.inventory.path? id = none)
    (hlacks : x.lacks id = true) :
    x.addImage progress id = .error (.blob id (.blobNotFound id)) := by
  rw [lacks, Option.isNone_iff_eq_none] at hlacks
  have hblob : x.store.blob id = .error (.blobNotFound id) := by rw [Store.blob, hlacks]
  rw [addImage, hid, hblob]
  rfl

namespace Recorded

/-- Nothing is recorded at first. -/
theorem empty (blobOf : String → Blob) (base : Archive) :
    Recorded blobOf base [] [] ⟨base, Inventory.empty⟩ :=
  ⟨List.nodup_nil, rfl, rfl, rfl, (List.append_nil _).symm, rfl⟩

/-- The blobs with a path are those that were shown. -/
theorem keys_paths (h : Recorded blobOf base seen families progress) :
    progress.inventory.paths.keys = seen := by
  rw [OrderedMap.keys, h.paths, List.map_map]
  exact List.zipIdx_map_fst 1 seen

/-- An image that was not recorded has no path. -/
theorem path?_of_not_mem (h : Recorded blobOf base seen families progress) {id : String}
    (hid : id ∉ seen) : progress.inventory.path? id = none :=
  OrderedMap.get?_eq_none_iff.2 (h.keys_paths.symm ▸ hid)

/-- A blob that was shown has its path. -/
theorem path?_of_mem (h : Recorded blobOf base seen families progress) {id : String}
    (hid : id ∈ seen) : progress.inventory.path? id = some (pathOf blobOf seen id) := by
  rw [Inventory.path?, OrderedMap.get?_eq_some_iff, h.paths, List.mem_map]
  refine ⟨(id, seen.idxOf id + 1), ?_, rfl⟩
  rw [List.mk_mem_zipIdx_iff_le_and_getElem?_sub]
  refine ⟨Nat.le_add_left _ _, ?_⟩
  rw [Nat.add_sub_cancel]
  exact List.getElem?_idxOf hid

/-- The images are recorded in the order in which they were found. -/
theorem keys_dataUrls (h : Recorded blobOf base seen families progress) :
    progress.inventory.dataUrls.keys = seen := by
  rw [OrderedMap.keys, h.dataUrls, List.map_map]
  exact List.map_id seen

/-- The path with the next number is new. -/
theorem imagePath_not_mem (h : Recorded blobOf base seen families progress)
    (hbase : ∀ path ∈ base.keys, pathDepth path < 2) (extension : String) :
    imagePath (seen.length + 1) extension ∉ progress.archive.keys := by
  intro hmem
  rw [OrderedMap.keys, h.files, List.map_append, List.mem_append] at hmem
  rcases hmem with hmem | hmem
  · exact absurd (hbase _ hmem) (Nat.not_lt.2 (Inventory.two_le_pathDepth_imagePath _ _))
  · rw [imageFiles, List.map_map] at hmem
    obtain ⟨numbered, hnumbered, hpath⟩ := List.mem_map.1 hmem
    have hlt := List.snd_lt_add_of_mem_zipIdx hnumbered
    have heq := Inventory.eq_of_imagePath_eq hpath
    omega

/-- No file is higher up than the files before the images. -/
theorem one_le_pathDepth (h : Recorded blobOf base seen families progress)
    (hbase : ∀ path ∈ base.keys, 1 ≤ pathDepth path) :
    ∀ path ∈ progress.archive.keys, 1 ≤ pathDepth path := by
  rw [OrderedMap.keys, h.files, List.map_append, List.forall_mem_append, imageFiles, List.map_map]
  refine ⟨hbase, List.forall_mem_map.2 fun numbered _ => ?_⟩
  exact Nat.le_of_succ_le (Inventory.two_le_pathDepth_imagePath _ _)

/-- A blob that was not shown before is recorded with the next number. -/
theorem addNew (h : Recorded blobOf base seen families progress)
    (hbase : ∀ path ∈ base.keys, pathDepth path < 2) {id : String} (hid : id ∉ seen) :
    Recorded blobOf base (seen ++ [id]) families
      ⟨progress.archive.insert (numberedPath blobOf (id, seen.length + 1)) (blobOf id).data,
        (progress.inventory.addImage id (Blob.extension (blobOf id).mime)
          (blobOf id).toDataUrl).1⟩ := by
  have hzip : (seen ++ [id]).zipIdx 1 = seen.zipIdx 1 ++ [(id, seen.length + 1)] := by
    rw [List.zipIdx_append, Nat.add_comm]
    rfl
  have hpath : imagePath (progress.inventory.imageCount + 1) (Blob.extension (blobOf id).mime) =
      numberedPath blobOf (id, seen.length + 1) := by
    rw [h.imageCount]
    rfl
  refine ⟨?nodup, ?imageCount, ?paths, ?dataUrls, ?files, h.families⟩
  case nodup => exact Names.add_of_not_mem hid ▸ Names.nodup_add h.nodup id
  case imageCount =>
    rw [List.length_append, List.length_singleton, ← h.imageCount]
    rfl
  case paths =>
    rw [hzip, List.map_append, ← h.paths]
    change (progress.inventory.paths.insert id _).entries = _
    rw [OrderedMap.entries_insert_of_not_mem (h.keys_paths ▸ hid), hpath]
    rfl
  case dataUrls =>
    rw [List.map_append, ← h.dataUrls]
    change (progress.inventory.dataUrls.insert id _).entries = _
    rw [OrderedMap.entries_insert_of_not_mem (h.keys_dataUrls ▸ hid)]
    rfl
  case files =>
    rw [imageFiles, hzip, List.map_append, ← List.append_assoc, ← imageFiles, ← h.files]
    exact OrderedMap.entries_insert_of_not_mem (h.imagePath_not_mem hbase _) _

/-- A blob of the store can be shown, under its path. -/
theorem exists_addImage (h : Recorded blobOf base seen families progress)
    (hbase : ∀ path ∈ base.keys, pathDepth path < 2) {id : String}
    (hstore : x.store.blobs.get? id = some (blobOf id)) :
    ∃ next, x.addImage progress id = .ok (next, pathOf blobOf (Names.add seen id) id) ∧
      Recorded blobOf base (Names.add seen id) families next := by
  rw [addImage]
  by_cases hid : id ∈ seen
  · rw [h.path?_of_mem hid, Names.add_of_mem hid]
    exact ⟨progress, rfl, h⟩
  · have hblob : x.store.blob id = .ok (blobOf id) := by rw [Store.blob, hstore]
    have hplace : (seen ++ [id]).idxOf id = seen.length := by
      rw [List.idxOf_append_of_notMem hid, List.idxOf_cons_self, Nat.add_zero]
    rw [h.path?_of_not_mem hid, hblob, Names.add_of_not_mem hid, pathOf, hplace]
    refine ⟨_, ?_, h.addNew hbase hid⟩
    have hadd := add_eq_ok (h.imagePath_not_mem hbase (Blob.extension (blobOf id).mime))
      (blobOf id).data
    simp only [Except.mapError, bind, Except.bind, Inventory.addImage, h.imageCount, hadd]
    rfl

section Nodes

variable {t : MarkupTree} {i : Nat} {id : String}

/-- Placing the image of a node records it and sets its source. -/
theorem placeImage_eq {n : MarkupNode} (hget : t.get? i = some n) (hid : n.blobId? = some id) :
    x.placeImage (progress, t) i = (x.addImage progress id).map fun added =>
      (added.1, t.set i (n.setAttribute "src" added.2)) := by
  have hid : n.attribute? Compilation.blobAttribute = some id := hid
  simp only [placeImage, hget, hid, bind, Except.bind]
  cases x.addImage progress id <;> rfl

/-- The image of a node is placed, and its source is the path of its blob. -/
theorem exists_placeImage (h : Recorded blobOf base seen families progress)
    (hbase : ∀ path ∈ base.keys, pathDepth path < 2) (hid : t.blobId? i = some id)
    (hstore : x.store.blobs.get? id = some (blobOf id)) {shown : List String}
    (hshown : Names.add seen id <+: shown) :
    ∃ next, x.placeImage (progress, t) i =
        .ok (next, t.modify i (·.placed (pathOf blobOf shown))) ∧
      Recorded blobOf base (Names.add seen id) families next := by
  obtain ⟨n, hget, hn⟩ := Option.bind_eq_some_iff.1 hid
  obtain ⟨next, hadd, hnext⟩ := h.exists_addImage hbase hstore
  refine ⟨next, ?_, hnext⟩
  rw [placeImage_eq hget hn, hadd, MarkupTree.modify, hget]
  simp only [Except.map, MarkupNode.placed_of_some _ hn,
    pathOf_of_prefix hshown (Names.mem_add.2 (.inr rfl))]

/-- The images of some nodes are placed in order. -/
theorem exists_placeImages (h : Recorded blobOf base seen families progress)
    (hbase : ∀ path ∈ base.keys, pathDepth path < 2) {is : List Nat}
    (his : ∀ i ∈ is, (t.blobId? i).isSome = true)
    (hstore : ∀ id ∈ is.filterMap t.blobId?, x.store.blobs.get? id = some (blobOf id))
    {shown : List String} (hshown : (is.filterMap t.blobId?).foldl Names.add seen <+: shown) :
    ∃ next, is.foldlM x.placeImage (progress, t) =
        .ok (next, is.foldl (fun t i => t.modify i (·.placed (pathOf blobOf shown))) t) ∧
      Recorded blobOf base ((is.filterMap t.blobId?).foldl Names.add seen) families next := by
  induction is generalizing seen progress t with
  | nil => exact ⟨progress, rfl, h⟩
  | cons i is ih =>
    rw [List.forall_mem_cons] at his
    obtain ⟨id, hid⟩ := Option.isSome_iff_exists.1 his.1
    rw [List.filterMap_cons_some hid] at hstore hshown ⊢
    rw [List.forall_mem_cons] at hstore
    have hfirst : Names.add seen id <+: shown := (Names.prefix_foldl_add _ _).trans hshown
    obtain ⟨first, hplace, hrecorded⟩ := h.exists_placeImage hbase hid hstore.1 hfirst
    have hsame : (t.modify i (·.placed (pathOf blobOf shown))).blobId? = t.blobId? :=
      MarkupTree.blobId?_modify_placed _ i
    obtain ⟨next, hnext, hall⟩ := ih hrecorded
      (t := t.modify i (·.placed (pathOf blobOf shown))) (by rw [hsame]; exact his.2)
      (by rw [hsame]; exact hstore.2) (by rw [hsame]; exact hshown)
    rw [hsame] at hall
    refine ⟨next, ?_, hall⟩
    rw [List.foldlM_cons, hplace]
    exact hnext

/-- The first of some nodes whose blob the store lacks ends the export. -/
theorem placeImages_eq_error (h : Recorded blobOf base seen families progress)
    (hbase : ∀ path ∈ base.keys, pathDepth path < 2)
    (hstore : ∀ id, x.lacks id = false → x.store.blobs.get? id = some (blobOf id))
    (hseen : ∀ id ∈ seen, x.lacks id = false) {is : List Nat}
    (his : ∀ i ∈ is, (t.blobId? i).isSome = true)
    (hfind : (is.filterMap t.blobId?).find? x.lacks = some id) :
    is.foldlM x.placeImage (progress, t) = .error (.blob id (.blobNotFound id)) := by
  induction is generalizing seen progress t with
  | nil => cases hfind
  | cons i is ih =>
    rw [List.forall_mem_cons] at his
    obtain ⟨first, hfirst⟩ := Option.isSome_iff_exists.1 his.1
    rw [List.filterMap_cons_some hfirst, List.find?_cons] at hfind
    rw [List.foldlM_cons]
    cases hlacks : x.lacks first with
    | true =>
      rw [hlacks] at hfind
      obtain rfl := Option.some_inj.1 hfind
      have hnew : first ∉ seen := by
        intro hmem
        rw [hseen first hmem] at hlacks
        cases hlacks
      obtain ⟨n, hget, hn⟩ := Option.bind_eq_some_iff.1 hfirst
      rw [placeImage_eq hget hn, addImage_eq_error (h.path?_of_not_mem hnew) hlacks]
      rfl
    | false =>
      rw [hlacks] at hfind
      obtain ⟨next, hplace, hrecorded⟩ :=
        h.exists_placeImage hbase hfirst (hstore first hlacks) List.prefix_rfl
      have hsame : (t.modify i (·.placed (pathOf blobOf (Names.add seen first)))).blobId? =
          t.blobId? := MarkupTree.blobId?_modify_placed _ i
      rw [hplace]
      refine ih hrecorded ?_ (by rw [hsame]; exact his.2) (by rw [hsame]; exact hfind)
      intro id hid
      rcases Names.mem_add.1 hid with hid | rfl
      · exact hseen id hid
      · exact hlacks

end Nodes

section Pages

variable {p : Page} {ps : List Page} {shown : List String}

/-- The fonts of a page leave the images alone. -/
theorem addFamilies (h : Recorded blobOf base seen families progress) (more : List String) :
    Recorded blobOf base seen (families ++ more)
      { progress with inventory := progress.inventory.addFamilies more } where
  nodup := h.nodup
  imageCount := h.imageCount
  paths := h.paths
  dataUrls := h.dataUrls
  files := h.files
  families := congrArg (· ++ more) h.families

/-- The nodes of a page that name a blob do. -/
theorem isSome_blobId?_of_mem_query (p : Page) :
    ∀ i ∈ (p.compile .monitor).query fun n => n.blobId?.isSome,
      ((p.compile .monitor).blobId? i).isSome = true := by
  intro i hi
  have hany := (List.mem_filter.1 hi).2
  rw [MarkupTree.blobId?]
  cases hget : (p.compile .monitor).get? i with
  | none => rw [hget] at hany; cases hany
  | some n => rw [hget] at hany; exact hany

/-- A page records the blobs that it shows, and its images get their paths. -/
theorem exists_markup (h : Recorded blobOf base seen families progress)
    (hbase : ∀ path ∈ base.keys, pathDepth path < 2)
    (hstore : ∀ id ∈ p.shownBlobs, x.store.blobs.get? id = some (blobOf id))
    (hshown : p.shownBlobs.foldl Names.add seen <+: shown) :
    ∃ next, x.markup progress p = .ok (next, p.placed (pathOf blobOf shown)) ∧
      Recorded blobOf base (p.shownBlobs.foldl Names.add seen) (families ++ p.fontFamilies)
        next := by
  rw [← Page.filterMap_query] at hstore hshown ⊢
  obtain ⟨next, hplaced, hnext⟩ :=
    h.exists_placeImages hbase (isSome_blobId?_of_mem_query p) hstore hshown
  rw [Page.foldl_query_eq_placed] at hplaced
  refine ⟨_, ?_, hnext.addFamilies _⟩
  simp only [MarkupNode.blobId?] at hplaced
  rw [markup, hplaced]
  simp only [bind, Except.bind, pure, Except.pure, Page.placed,
    MarkupTree.fontFamilies_mapNodes_placed, Page.fontFamilies]

/-- A page that shows an image that is not stored fails with the first one. -/
theorem markup_eq_error (h : Recorded blobOf base seen families progress)
    (hbase : ∀ path ∈ base.keys, pathDepth path < 2)
    (hstore : ∀ id, x.lacks id = false → x.store.blobs.get? id = some (blobOf id))
    (hseen : ∀ id ∈ seen, x.lacks id = false) {id : String}
    (hfind : p.shownBlobs.find? x.lacks = some id) :
    x.markup progress p = .error (.blob id (.blobNotFound id)) := by
  rw [← Page.filterMap_query] at hfind
  have hplace :=
    h.placeImages_eq_error hbase hstore hseen (isSome_blobId?_of_mem_query p) hfind
  simp only [MarkupNode.blobId?] at hplace
  rw [markup, hplace]
  rfl

/-- Pages record the blobs that they show one after the other, and each has its markup. -/
theorem exists_markups (h : Recorded blobOf base seen families progress)
    (hbase : ∀ path ∈ base.keys, pathDepth path < 2)
    (hstore : ∀ id ∈ ps.flatMap Page.shownBlobs, x.store.blobs.get? id = some (blobOf id))
    (hshown : (ps.flatMap Page.shownBlobs).foldl Names.add seen <+: shown) :
    ∃ next, x.markups progress ps =
        .ok (next, ps.map fun p => (p, p.placed (pathOf blobOf shown))) ∧
      Recorded blobOf base ((ps.flatMap Page.shownBlobs).foldl Names.add seen)
        (families ++ ps.flatMap Page.fontFamilies) next := by
  induction ps generalizing seen families progress with
  | nil => exact ⟨progress, rfl, (List.append_nil families).symm ▸ h⟩
  | cons p ps ih =>
    rw [List.flatMap_cons, List.forall_mem_append] at hstore
    rw [List.flatMap_cons, List.foldl_append] at hshown ⊢
    obtain ⟨first, hfirst, hrecorded⟩ :=
      h.exists_markup hbase hstore.1 ((Names.prefix_foldl_add _ _).trans hshown)
    obtain ⟨next, hrest, hall⟩ := ih hrecorded hstore.2 hshown
    refine ⟨next, ?_, ?_⟩
    · rw [markups, hfirst]
      simp only [bind, Except.bind, hrest, pure, Except.pure, List.map_cons]
    · rw [List.flatMap_cons, ← List.append_assoc]
      exact hall

/-- The first blob that pages show and the store lacks ends the export. -/
theorem markups_eq_error (h : Recorded blobOf base seen families progress)
    (hbase : ∀ path ∈ base.keys, pathDepth path < 2)
    (hstore : ∀ id, x.lacks id = false → x.store.blobs.get? id = some (blobOf id))
    (hseen : ∀ id ∈ seen, x.lacks id = false) {id : String}
    (hfind : (ps.flatMap Page.shownBlobs).find? x.lacks = some id) :
    x.markups progress ps = .error (.blob id (.blobNotFound id)) := by
  induction ps generalizing seen families progress with
  | nil => cases hfind
  | cons p ps ih =>
    rw [List.flatMap_cons, List.find?_append] at hfind
    rw [markups]
    cases hpage : p.shownBlobs.find? x.lacks with
    | some first =>
      rw [hpage] at hfind
      obtain rfl := Option.some_inj.1 hfind
      rw [h.markup_eq_error hbase hstore hseen hpage]
      rfl
    | none =>
      rw [hpage] at hfind
      have hthere : ∀ id ∈ p.shownBlobs, x.lacks id = false := fun id hid =>
        Bool.eq_false_iff.2 (List.find?_eq_none.1 hpage id hid)
      obtain ⟨next, hfirst, hrecorded⟩ :=
        h.exists_markup hbase (fun id hid => hstore id (hthere id hid)) List.prefix_rfl
      have hrest := ih hrecorded (fun id hid => ?_) hfind
      · rw [hfirst]
        simp only [bind, Except.bind, hrest]
      · rcases Names.mem_foldl_add.1 hid with hid | hid
        · exact hseen id hid
        · exact hthere id hid

end Pages

end Recorded

end Exporter

end Sitework
