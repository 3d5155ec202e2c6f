import Sitework.Proofs.Compilation.Represented
import Sitework.Proofs.Extraction.Restyled

/-!
# The normal form of elements

What is extracted from compiled elements is the forest that they become, each element in normal
form: levels of headings in range, blobs of images named as such, no content where a kind shows
none, and the styles that its declarations give. The flat list of such a forest is compiled to the
same forest, so extracting once more changes nothing.
-/

namespace Sitework

namespace ElementKind

/-- The kind that is extracted for a kind. -/
def normal : ElementKind → ElementKind
  | .heading level => .heading (if 1 ≤ level ∧ level ≤ 6 then level else 6)
  | .image (.url location) alt =>
    match Text.after? Compilation.blobScheme.toList location.toList with
    | some blob => .image (.blob (String.ofList blob)) alt
    | none => .image (.url location) alt
  | kind => kind

/-- Whether the content of an element of a kind is shown. -/
def showsContent : ElementKind → Bool
  | .image _ _ | .input _ _ _ => false
  | _ => true

@[simp] theorem showsContent_normal (kind : ElementKind) :
    kind.normal.showsContent = kind.showsContent := by
  unfold normal
  split
  · rfl
  · split <;> rfl
  · rfl

@[simp] theorem acceptsChildren_normal (kind : ElementKind) :
    kind.normal.acceptsChildren = kind.acceptsChildren := by
  unfold normal
  split
  · rfl
  · split <;> rfl
  · rfl

@[simp] theorem normal_eq_pageSection_iff {kind : ElementKind} :
    kind.normal = .pageSection ↔ kind = .pageSection := by
  unfold normal
  split
  · exact ⟨nofun, nofun⟩
  · split <;> exact ⟨nofun, nofun⟩
  · rfl

/-- A normal kind is extracted as it is. -/
theorem normal_normal (kind : ElementKind) : kind.normal.normal = kind.normal := by
  cases kind with
  | heading level =>
    by_cases h : 1 ≤ level ∧ level ≤ 6
    · simp only [normal, if_pos h]
    · simp only [normal, if_neg h]
      rfl
  | image source alt =>
    cases source with
    | blob id => rfl
    | url location =>
      cases hblob : Text.after? Compilation.blobScheme.toList location.toList with
      | some blob => simp only [normal, hblob]
      | none => simp only [normal, hblob]
  | _ => rfl

end ElementKind

namespace Extraction

open Compilation

/-- The level of a heading's tag is that of the heading, or the lowest one. -/
theorem headingLevel?_headingTag (level : UInt8) :
    headingLevel? (ElementKind.headingTag level) =
      some (if 1 ≤ level ∧ level ≤ 6 then level else 6) := by
  by_cases hlow : level ∈ [1, 2, 3, 4, 5]
  · simp only [List.mem_cons, List.not_mem_nil, or_false] at hlow
    rcases hlow with rfl | rfl | rfl | rfl | rfl <;> decide
  · simp only [List.mem_cons, List.not_mem_nil, or_false, not_or] at hlow
    obtain ⟨h1, h2, h3, h4, h5⟩ := hlow
    have htag : ElementKind.headingTag level = "h6" := by
      rw [ElementKind.headingTag, if_neg h1, if_neg h2, if_neg h3, if_neg h4, if_neg h5]
    have hlevel : (if 1 ≤ level ∧ level ≤ 6 then level else 6) = 6 := by
      split
      · grind
      · rfl
    rw [htag, hlevel]
    decide

/-- The source of an image is extracted with its blob named as such. -/
theorem source_nodeOf (cache : DeclarationCache) (b : Breakpoint) {e : Element}
    {source : ImageSource} {alt : Option String} (h : e.kind = .image source alt) :
    (Extraction.source (nodeOf cache b e) e.id).map (ElementKind.image · alt) =
      .ok (ElementKind.image source alt).normal := by
  have hattribute (name : String) : (nodeOf cache b e).attribute? name =
      (OrderedMap.ofList (kindAttributes (.image source alt))).get? name := by rw [← h]; rfl
  cases source with
  | blob id =>
    have hblob : (nodeOf cache b e).attribute? blobAttribute = some id := by
      rw [hattribute]
      cases alt <;> rfl
    rw [Extraction.source, hblob]
    rfl
  | url location =>
    have hblob : (nodeOf cache b e).attribute? blobAttribute = none := by
      rw [hattribute]
      cases alt <;> rfl
    have hsource : (nodeOf cache b e).attribute? "src" = some location := by
      rw [hattribute]
      cases alt <;> rfl
    have hread : Extraction.source (nodeOf cache b e) e.id =
        .ok (match Text.after? blobScheme.toList location.toList with
          | some blob => .blob (String.ofList blob)
          | none => .url location) := by
      rw [Extraction.source, hblob, required, hsource]
      simp only [bind, Except.bind]
      cases Text.after? blobScheme.toList location.toList <;> rfl
    rw [hread, ElementKind.normal]
    cases Text.after? blobScheme.toList location.toList <;> rfl

/-- From the node of an element its kind is extracted in normal form. -/
theorem kind_nodeOf (cache : DeclarationCache) (b : Breakpoint) (e : Element) :
    kind (nodeOf cache b e) e.id e.kind.name = .ok e.kind.normal := by
  have hattribute (name : String) : (nodeOf cache b e).attribute? name =
      (OrderedMap.ofList (kindAttributes e.kind)).get? name := rfl
  cases hkind : e.kind with
  | heading level =>
    have htag : (nodeOf cache b e).tag = ElementKind.headingTag level := by
      simp only [nodeOf, hkind, ElementKind.tag]
    simp only [ElementKind.name, kind, htag, headingLevel?_headingTag, ElementKind.normal]
  | button href =>
    simp only [ElementKind.name, kind, hattribute, hkind, ElementKind.normal]
    cases href <;> rfl
  | link href =>
    simp only [ElementKind.name, kind, required, hattribute, hkind, ElementKind.normal]
    rfl
  | image source alt =>
    have halt : (nodeOf cache b e).attribute? "alt" = alt := by
      rw [hattribute, hkind]
      cases source <;> cases alt <;> rfl
    rw [← source_nodeOf cache b hkind, ElementKind.name, kind, halt]
    cases Extraction.source (nodeOf cache b e) e.id <;> rfl
  | input type placeholder autocomplete =>
    have htype : (nodeOf cache b e).attribute? "type" = some type.name := by
      rw [hattribute, hkind]
      cases placeholder <;> rfl
    have hplaceholder : (nodeOf cache b e).attribute? "placeholder" = placeholder := by
      rw [hattribute, hkind]
      cases placeholder <;> rfl
    have hautocomplete : (nodeOf cache b e).attribute? "autocomplete" =
        some (if autocomplete then "on" else "off") := by
      rw [hattribute, hkind]
      cases placeholder <;> rfl
    rw [ElementKind.name, kind, required, htype, hplaceholder, hautocomplete]
    simp only [bind, Except.bind, InputType.ofName?_name, Option.getD_some]
    cases autocomplete <;> rfl
  | _ => rfl

end Extraction

namespace Element

/-- The element in normal form, apart from what is nested in it. -/
def normalized (e : Element) : Element :=
  { e.restyled with
    kind := e.kind.normal
    content := if e.kind.showsContent then e.content else none }

mutual

/-- The element and what is nested in it in normal form. -/
def normalizedTree : Element → Element
  | ⟨id, kind, parentId, style, responsive, content, children⟩ =>
    { normalized ⟨id, kind, parentId, style, responsive, content, []⟩ with
      children := normalizedAll children }

/-- The elements and what is nested in them in normal form. -/
def normalizedAll : List Element → List Element
  | [] => []
  | e :: es => e.normalizedTree :: normalizedAll es

end

@[simp] theorem normalizedAll_nil : normalizedAll [] = [] := rfl

/-- A forest is brought to its normal form tree by tree. -/
theorem normalizedAll_cons (e : Element) (es : List Element) :
    normalizedAll (e :: es) =
      { e.normalized with children := normalizedAll e.children } :: normalizedAll es := by
  cases e
  rfl

/-- A normal element is extracted as it is. -/
theorem normalized_normalized (e : Element) : e.normalized.normalized = e.normalized := by
  have hcontent : (if e.kind.normal.showsContent then
      if e.kind.showsContent then e.content else none else none) =
        if e.kind.showsContent then e.content else none := by
    rw [ElementKind.showsContent_normal]
    split <;> rfl
  calc e.normalized.normalized
      = { e.restyled.restyled with
          kind := e.kind.normal.normal
          content := if e.kind.normal.showsContent then
            if e.kind.showsContent then e.content else none else none } := rfl
    _ = e.normalized := by
      rw [restyled_restyled, ElementKind.normal_normal, hcontent]
      rfl

/-- The flat list of normal elements is that of the elements, each in normal form. -/
theorem flattenAll_normalizedAll (es : List Element) :
    flattenAll (normalizedAll es) = (flattenAll es).map normalized := by
  induction es using forestInduction with
  | nil => rfl
  | cons e es ihchildren ihrest =>
    rw [normalizedAll_cons, flattenAll_cons, ihrest, flattenAll_cons, List.map_cons,
      List.map_append, ← ihchildren]
    rfl

/-- Normal elements are nested as they were. -/
theorem names_normalizedAll (es : List Element) : names (normalizedAll es) = names es := by
  rw [names, flattenAll_normalizedAll, List.map_map]
  rfl

/-- The normal form of a forest is its own normal form. -/
theorem normalizedAll_normalizedAll (es : List Element) :
    normalizedAll (normalizedAll es) = normalizedAll es := by
  induction es using forestInduction with
  | nil => rfl
  | cons e es ihchildren ihrest =>
    rw [normalizedAll_cons, normalizedAll_cons, ihrest, ihchildren]
    have hnormal :
        ({ e.normalized with children := normalizedAll e.children } : Element).normalized =
          { e.normalized.normalized with children := normalizedAll e.children } := rfl
    rw [hnormal, normalized_normalized]

/-- The normal form leaves all elements where they are. -/
theorem IsNested.normalizedAll {parent : Option String} {es : List Element}
    (h : IsNested parent es) : IsNested parent (normalizedAll es) := by
  induction h with
  | nil parent => exact .nil parent
  | @cons parent e es hparent hsection haccepts _ _ ihchildren ihrest =>
    rw [normalizedAll_cons]
    refine .cons hparent ?_ ?_ ihchildren ihrest
    · intro hs
      refine hsection ?_
      rw [isSection, beq_iff_eq] at hs ⊢
      exact ElementKind.normal_eq_pageSection_iff.1 hs
    · intro hsome
      refine (ElementKind.acceptsChildren_normal e.kind).trans (haccepts ?_)
      intro hempty
      exact hsome (by rw [hempty]; rfl)

end Element

namespace Extraction

open Compilation Element

variable {cache : DeclarationCache} {b : Breakpoint}

/-- The content is extracted where the kind shows it. -/
theorem content_nodeOf {t : MarkupTree} {i : Nat} {e : Element}
    (hlabel : ∀ href, e.kind = .button href →
      ∃ label others, t.children i = label :: others ∧ t.get? label = some (labelOf e)) :
    content t i (nodeOf cache b e) e.kind.normal =
      if e.kind.showsContent then e.content else none := by
  have htext : (nodeOf cache b e).text = nodeText e := rfl
  cases hkind : e.kind with
  | button href =>
    obtain ⟨label, others, hchildren, hget⟩ := hlabel href hkind
    have hfirst : labelText t i = e.content := by
      rw [labelText, hchildren, List.filterMap_cons, hget]
      rfl
    exact hfirst
  | image source alt =>
    cases source with
    | blob id => rfl
    | url location =>
      simp only [ElementKind.normal]
      split <;> rfl
  | input type placeholder autocomplete => rfl
  | heading level =>
    simp only [ElementKind.normal, content, htext, nodeText, hkind]
    rfl
  | pageSection | container | grid | text =>
    simp only [ElementKind.normal, content, htext, nodeText, hkind]
    rfl
  | link href =>
    simp only [ElementKind.normal, content, htext, nodeText, hkind]
    rfl

/-- From the node of an element it is extracted in normal form, with what is extracted from the
nodes below it. -/
theorem elementOf_nodeOf {t : MarkupTree} {i : Nat} {e : Element}
    (hnode : t.get? i = some (nodeOf cache b e)) (hparent : parentId t i = e.parentId)
    (hlabel : ∀ href, e.kind = .button href →
      ∃ label others, t.children i = label :: others ∧ t.get? label = some (labelOf e))
    {children : List (Nat × Extracted Element)} {nested : List Element}
    (hnested : (children.filter fun child => isElement t child.1).mapM (·.2) = .ok nested) :
    elementOf t i children = .ok { e.normalized with children := nested } := by
  have hrole : (nodeOf cache b e).role = .element e.id e.kind.name := rfl
  rw [elementOf, hnode]
  simp only [hrole, kind_nodeOf, hnested, bind, Except.bind, content_nodeOf hlabel, hparent,
    baseStyle_nodeOf, overrides_nodeOf]
  rfl

/-- From the nodes that represent a forest it is extracted in normal form. -/
theorem mapM_extract {t : MarkupTree} {is : List Nat} {forest : List Element}
    (h : Represents cache b t is forest) : is.mapM (extract t) = .ok (normalizedAll forest) := by
  induction h with
  | nil => rfl
  | @cons i is e es hnode hparent hlabel _ _ ihchildren ihrest =>
    have hnested : (((t.children i).map fun c => (c, extract t c)).filter
        fun child => isElement t child.1).mapM (·.2) = .ok (normalizedAll e.children) := by
      rw [List.filter_map, List.mapM_map]
      exact ihchildren
    have hextract : extract t i =
        .ok { e.normalized with children := normalizedAll e.children } := by
      rw [extract, MarkupTree.fold_eq]
      exact elementOf_nodeOf hnode hparent hlabel hnested
    rw [List.mapM_cons, hextract, ihrest, normalizedAll_cons]
    rfl

/-- From compiled elements the forest that they become is extracted in normal form. -/
theorem extractAll_compileWith {es forest : List Element} (h : Grows es forest)
    (cache : DeclarationCache) (b : Breakpoint) :
    extractAll (compileWith cache es b) = .ok (normalizedAll forest) := by
  obtain ⟨root, hroot, hforest⟩ := h.exists_represents cache b
  rw [extractAll, hroot, Option.toList_some, List.flatMap_singleton,
    List.filter_eq_self.2 hforest.isElement]
  exact mapM_extract hforest

/-- Extracting from compiled elements gives the same at whatever breakpoint and with whatever
declarations kept from before they were compiled; and it never fails. -/
theorem exists_extractAll_compileWith (cache : DeclarationCache) (es : List Element)
    (b c : Breakpoint) : ∃ forest, extractAll (compileWith cache es b) = .ok forest ∧
      extractAll (compile es c) = .ok forest := by
  obtain ⟨forest, hgrows⟩ := exists_grows es
  exact ⟨normalizedAll forest, extractAll_compileWith hgrows cache b,
    extractAll_compileWith hgrows .empty c⟩

/-- The flat list of what is extracted from compiled elements. -/
def normalForm (es : List Element) (b : Breakpoint) : Extracted (List Element) :=
  (extractAll (compile es b)).map flattenAll

/-- What is extracted from a compiled list is the normal form of its forest. -/
theorem normalForm_eq {es forest : List Element} (h : Grows es forest) (b : Breakpoint) :
    normalForm es b = .ok (flattenAll (normalizedAll forest)) := by
  rw [normalForm, compile, extractAll_compileWith h]
  rfl

/-- Extracting from compiled elements never fails, and from what was extracted the same is
extracted again, at any breakpoint. -/
theorem exists_normalForm {es : List Element} (hnodup : (es.map (·.id)).Nodup)
    (b c : Breakpoint) : ∃ ys, normalForm es b = .ok ys ∧ normalForm ys c = .ok ys := by
  obtain ⟨forest, hgrows⟩ := exists_grows es
  have hnested : IsNested none (normalizedAll forest) := (hgrows.isNested hnodup).normalizedAll
  have hnames : (names (normalizedAll forest)).Nodup := by
    rw [names_normalizedAll]
    exact hgrows.nodup_names
  refine ⟨flattenAll (normalizedAll forest), normalForm_eq hgrows b, ?_⟩
  rw [normalForm_eq (grows_flattenAll hnested hnames), normalizedAll_normalizedAll]

/-- A box with a title of a level out of range, beside a grid that is below itself. -/
def boxes : List Element :=
  [Element.new "box" .container, (Element.new "title" (.heading 9)).withParent "box",
    (Element.new "loop" .grid).withParent "loop"]

theorem exists_normalForm_boxes : (boxes.map (·.id)).Nodup ∧
    ∃ ys, normalForm boxes .tablet = .ok ys ∧ normalForm ys .monitor = .ok ys :=
  ⟨by decide, exists_normalForm (by decide) _ _⟩

end Extraction

end Sitework
