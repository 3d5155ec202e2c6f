import Sitework.Proofs.Bundle.Layout
import Sitework.Proofs.Style.Families

/-!
# Webfonts of an exported site

The documents of an exported site link the request for webfonts with those of its families that
some element of some page has in force at some breakpoint, and with everything else that it asks
for, in order. They link none if no family is left.
-/

namespace Sitework

namespace MarkupTree

/-- The families of declarations are those of their font stack that are not generic. -/
theorem mem_familiesOf {declarations : Declarations} {family : String} :
    family ∈ familiesOf declarations ↔ isGenericFamily family = false ∧
      ∃ stack ∈ declarations.get? "font-family", family ∈ Value.fontStack stack := by
  rw [familiesOf]
  cases declarations.get? "font-family" with
  | none => simp
  | some stack => simp [and_comm]

end MarkupTree

namespace Compilation

/-- The node of an element holds the declarations at the base and wherever the element has a
layer. -/
theorem mem_declarations_nodeOf {e : Element} {declarations : Declarations} :
    declarations ∈ (nodeOf .empty .monitor e).declarations ::
        (nodeOf .empty .monitor e).layers.entries.map Prod.snd ↔
      ∃ b : Breakpoint, (b.isBase || (e.responsive.get b).isSome) = true ∧
        e.declarationsAt b none = declarations := by
  have hlayer {b : Breakpoint} : (b, declarations) ∈ (layers e).entries ↔
      (b.isBase || (e.responsive.get b).isSome) = true ∧
        e.declarationsAt b none = declarations := by
    rw [Layers.mem_entries, layers, Layers.get_ofFunction, Option.ite_none_right_eq_some,
      Option.some_inj]
  have hbase : (nodeOf .empty .monitor e).declarations = e.declarationsAt .monitor none := rfl
  rw [List.mem_cons, hbase, List.mem_map, Prod.exists]
  constructor
  · rintro (rfl | ⟨b, _, hmem, rfl⟩)
    · exact ⟨.monitor, rfl, rfl⟩
    · exact ⟨b, hlayer.1 hmem⟩
  · rintro ⟨b, hb⟩
    exact .inr ⟨b, _, hlayer.2 hb, rfl⟩

end Compilation

namespace Page

variable {p : Page} {family : String}

/-- Whether some element of the page has a font family in force at some breakpoint. -/
def Applies (p : Page) (family : String) : Prop :=
  ∃ e ∈ p.elements.values, ∃ b, (e.resolvedStyle b).fontFamily = some family

/-- The families of a page are those that some node declares at some breakpoint. -/
theorem mem_fontFamilies_iff : family ∈ p.fontFamilies ↔
    ∃ n ∈ (p.compile .monitor).nodes,
      ∃ declarations ∈ n.declarations :: n.layers.entries.map Prod.snd,
        family ∈ MarkupTree.familiesOf declarations := by
  rw [fontFamilies, MarkupTree.fontFamilies, Names.mem_sorted, List.mem_flatMap]
  simp only [List.mem_flatMap]

/-- The markup of a page applies what the families in force are taken apart to, but for generic
families. -/
theorem mem_fontFamilies (hnodup : (p.elements.values.map (·.id)).Nodup) :
    family ∈ p.fontFamilies ↔ isGenericFamily family = false ∧
      ∃ applied, p.Applies applied ∧ family ∈ Value.fontStack (fontFamilyCss applied) := by
  have hdeclared (e : Element) (b : Breakpoint) :
      family ∈ MarkupTree.familiesOf (e.declarationsAt b none) ↔ isGenericFamily family = false ∧
        ∃ applied ∈ (e.resolvedStyle b).fontFamily,
          family ∈ Value.fontStack (fontFamilyCss applied) := by
    rw [MarkupTree.mem_familiesOf, e.get?_fontFamily]
    simp only [Option.mem_def, Option.map_eq_some_iff, exists_exists_and_eq_and]
  rw [mem_fontFamilies_iff]
  constructor
  · rintro ⟨n, hn, declarations, hdeclarations, hfamily⟩
    obtain ⟨i, -, hget⟩ := List.mem_filterMap.1 hn
    have hcomplete := p.compile_isComplete .monitor
    cases hcomplete.part i n hget with
    | root _ hroot =>
      rw [hroot] at hdeclarations
      rw [List.mem_singleton.1 hdeclarations] at hfamily
      cases hfamily
    | helper _ _ _ _ hhelper =>
      rw [hhelper] at hdeclarations
      rw [List.mem_singleton.1 hdeclarations] at hfamily
      cases hfamily
    | @element e he hnode =>
      rw [hnode, Compilation.mem_declarations_nodeOf] at hdeclarations
      obtain ⟨b, -, rfl⟩ := hdeclarations
      obtain ⟨hgeneric, applied, happlied, hmem⟩ := (hdeclared e b).1 hfamily
      exact ⟨hgeneric, applied, ⟨e, he, b, happlied⟩, hmem⟩
  · rintro ⟨hgeneric, applied, ⟨e, he, b, happlied⟩, hmem⟩
    obtain ⟨c, hc, hsame⟩ := e.exists_layer_of_resolvedStyle b
    obtain ⟨i, hi, -, hget⟩ := (p.compile_isComplete .monitor).exists_node hnodup he
    refine ⟨_, List.mem_filterMap.2 ⟨i, hi, hget⟩, e.declarationsAt c none,
      Compilation.mem_declarations_nodeOf.2 ⟨c, hc, rfl⟩, (hdeclared e c).2 ⟨hgeneric, applied, ?_,
        hmem⟩⟩
    rw [hsame]
    exact happlied

end Page

namespace Site

variable {site : Site} {family : String}

/-- Whether some element of some page has a font family in force at some breakpoint. -/
def Applies (site : Site) (family : String) : Prop :=
  ∃ p ∈ site.pages.values, p.Applies family

/-- A family that applies on an accepted site is a family that is accepted. -/
theorem isFontFamily_of_applies (hsite : Validation.checkSite site = .ok ())
    (h : site.Applies family) : Validation.isFontFamily family = true := by
  obtain ⟨p, hp, e, he, b, hfamily⟩ := h
  obtain ⟨entry, hentry, rfl⟩ := List.mem_map.1 hp
  obtain ⟨named, hnamed, rfl⟩ := List.mem_map.1 he
  have hpage := Validation.checkPage_of_checkSite hsite entry hentry
  have hallowed := (Validation.isAllowed_of_checkPage hpage named hnamed).2
  exact Element.meets_resolvedStyle hallowed b .fontFamily family hfamily

/-- What an accepted site uses is taken from the families in force. -/
theorem mem_usedFamilies (h : Validation.checkSite site = .ok ()) :
    family ∈ site.usedFamilies ↔ isGenericFamily family = false ∧
      ∃ applied, site.Applies applied ∧ family ∈ Value.fontStack (fontFamilyCss applied) := by
  have hpage {p : Page} (hp : p ∈ site.pages.values) : family ∈ p.fontFamilies ↔
      isGenericFamily family = false ∧
        ∃ applied, p.Applies applied ∧ family ∈ Value.fontStack (fontFamilyCss applied) := by
    obtain ⟨entry, hentry, rfl⟩ := List.mem_map.1 hp
    exact Page.mem_fontFamilies
      (Validation.nodup_ids_of_checkPage (Validation.checkPage_of_checkSite h entry hentry))
  rw [usedFamilies, Names.mem_sorted, List.mem_flatMap]
  constructor
  · rintro ⟨p, hp, hfamily⟩
    obtain ⟨hgeneric, applied, happlied, hmem⟩ := (hpage hp).1 hfamily
    exact ⟨hgeneric, applied, ⟨p, hp, happlied⟩, hmem⟩
  · rintro ⟨hgeneric, applied, ⟨p, hp, happlied⟩, hmem⟩
    exact ⟨p, hp, (hpage hp).2 ⟨hgeneric, applied, happlied, hmem⟩⟩

/-- Where no family is taken apart, what is taken from the families in force are these families and
the generic one. -/
theorem exists_fontStack_iff (h : Validation.checkSite site = .ok ())
    (hwhole : ∀ applied, site.Applies applied → IsWholeFamily applied)
    (hgeneric : isGenericFamily family = false) :
    (∃ applied, site.Applies applied ∧ family ∈ Value.fontStack (fontFamilyCss applied)) ↔
      site.Applies family := by
  have hstack {applied : String} (happlied : site.Applies applied) :
      Value.fontStack (fontFamilyCss applied) = [applied, "sans-serif"] :=
    fontStack_fontFamilyCss (isFontFamily_of_applies h happlied) (hwhole applied happlied)
  constructor
  · rintro ⟨applied, happlied, hmem⟩
    rw [hstack happlied, List.mem_cons, List.mem_singleton] at hmem
    rcases hmem with rfl | rfl
    · exact happlied
    · exact absurd hgeneric (by decide)
  · intro happlied
    exact ⟨family, happlied, by rw [hstack happlied]; exact List.mem_cons_self⟩

end Site

namespace Webfont

/-- The parameters of a query, in order. -/
def parameters (query : List Char) : List (List Char) :=
  (Text.splitBy (· == '&') query).filter (· ≠ [])

/-- The request with some parameters, if any of them asks for a family. -/
def request (url : Url) (kept : List (List Char)) : Option String :=
  if kept.any fun pair => (family? pair).isSome then
    some { url with query := some (Text.join ['&'] kept) }.text
  else none

/-- The parameters of a query are its parts that are not empty. -/
theorem mem_parameters {query pair : List Char} :
    pair ∈ parameters query ↔ pair ∈ Text.splitBy (· == '&') query ∧ pair ≠ [] := by
  rw [parameters, List.mem_filter, decide_eq_true_iff]

/-- Of the parameters those are kept that ask for no family or for one that is used. -/
theorem keeps_eq {query pair : List Char} (hpair : pair ∈ parameters query)
    (used : List String) : keeps used pair = (family? pair).all used.contains := by
  rw [keeps, bne_iff_ne.2 (mem_parameters.1 hpair).2, Bool.true_and]

/-- A query that is put together from parameters of another one has these parameters. -/
theorem parameters_join {query : List Char} {kept : List (List Char)}
    (h : ∀ pair ∈ kept, pair ∈ parameters query) : parameters (Text.join ['&'] kept) = kept := by
  by_cases hne : kept = []
  · rw [hne]
    rfl
  · rw [parameters, Text.splitBy_join rfl hne fun pair hpair =>
      Text.of_mem_splitBy (mem_parameters.1 (h pair hpair)).1]
    exact List.filter_eq_self.2 fun pair hpair =>
      decide_eq_true (mem_parameters.1 (h pair hpair)).2

/-- A pair asks for a family that is used if it is kept and asks for a family. -/
theorem asksForUsed_eq (used : List String) (pair : List Char) :
    asksForUsed used pair = (keeps used pair && (family? pair).isSome) := by
  rw [asksForUsed, keeps]
  cases hfamily : family? pair with
  | none => rw [Option.isSome_none, Bool.and_false, Option.any_none]
  | some family =>
    have hne : (pair != []) = true := by
      rw [bne_iff_ne]
      rintro rfl
      have hnone : family? [] = none := by decide +kernel
      cases hnone.symm.trans hfamily
    rw [hne, Option.isSome_some, Bool.and_true, Bool.true_and, Option.any_some, Option.all_some]

/-- What is left of a request are the parameters that are kept. -/
theorem trim_eq_request {url : String} {parsed : Url} {query : List Char}
    (hparse : Url.parse url = .ok parsed) (hquery : parsed.query = some query)
    (used : List String) :
    trim url used = .ok (request parsed ((parameters query).filter (keeps used))) := by
  have hkept : (parameters query).filter (keeps used) =
      (Text.splitBy (· == '&') query).filter (keeps used) := by
    rw [parameters, List.filter_filter]
    refine List.filter_congr fun pair _ => ?_
    rw [keeps]
    cases pair <;> simp
  have hany : (Text.splitBy (· == '&') query).any (asksForUsed used) =
      ((parameters query).filter (keeps used)).any fun pair => (family? pair).isSome := by
    rw [hkept, List.any_filter]
    exact congrArg _ (funext fun pair => asksForUsed_eq used pair)
  rw [trim, hparse]
  simp only [bind, Except.bind, hquery, hany, hkept, request]
  split <;> rfl

end Webfont

namespace Exporter

variable {x : Exporter} {site : Site}

/-- The documents of an exported site link the request for webfonts with the parameters that are
kept, in order, if a family is among them, and no request otherwise. Whatever asks for no family is
kept. A family is kept if it is taken from one that some element has in force, and is not generic;
if no family is taken apart, that is to say if some element has it in force. -/
theorem exists_hasLayout_webfonts {exported : ExportedSite} {url : String} {parsed : Url}
    {query : List Char} (h : x.run site = .ok exported) (hurl : x.config.webfontUrl = some url)
    (hparse : Url.parse url = .ok parsed) (hquery : parsed.query = some query) :
    ∃ (blobOf : String → Blob) (keep : List Char → Bool),
      HasLayout x site blobOf
        (Webfont.request parsed ((Webfont.parameters query).filter keep)) exported ∧
      Webfont.parameters (Text.join ['&'] ((Webfont.parameters query).filter keep)) =
        (Webfont.parameters query).filter keep ∧
      (∀ pair ∈ Webfont.parameters query, Webfont.family? pair = none → keep pair = true) ∧
      (∀ pair ∈ Webfont.parameters query, ∀ family, Webfont.family? pair = some family →
        (keep pair = true ↔ isGenericFamily family = false ∧
          ∃ applied, site.Applies applied ∧ family ∈ Value.fontStack (fontFamilyCss applied))) ∧
      ((∀ applied, site.Applies applied → IsWholeFamily applied) →
        ∀ pair ∈ Webfont.parameters query, ∀ family, Webfont.family? pair = some family →
          (keep pair = true ↔ isGenericFamily family = false ∧ site.Applies family)) := by
  obtain ⟨hsite, -⟩ := exists_of_run_eq_ok h
  obtain ⟨blobOf, request, hlayout⟩ := exists_hasLayout h
  obtain rfl : Webfont.request parsed
      ((Webfont.parameters query).filter (Webfont.keeps site.usedFamilies)) = request := by
    have hrequest := hlayout.webfonts
    rw [webfontRequest, hurl] at hrequest
    simp only [Webfont.trim_eq_request hparse hquery, Except.mapError] at hrequest
    exact Except.ok.inj hrequest
  have hfamily {pair : List Char} (hpair : pair ∈ Webfont.parameters query) {family : String}
      (hasks : Webfont.family? pair = some family) :
      Webfont.keeps site.usedFamilies pair = true ↔ isGenericFamily family = false ∧
        ∃ applied, site.Applies applied ∧ family ∈ Value.fontStack (fontFamilyCss applied) := by
    rw [Webfont.keeps_eq hpair, hasks, Option.all_some, List.contains_iff_mem,
      Site.mem_usedFamilies hsite]
  refine ⟨blobOf, Webfont.keeps site.usedFamilies, hlayout, ?_, fun pair hpair hnone => ?_,
    fun pair hpair family hasks => hfamily hpair hasks, fun hwhole pair hpair family hasks => ?_⟩
  · exact Webfont.parameters_join fun pair hpair => (List.mem_filter.1 hpair).1
  · rw [Webfont.keeps_eq hpair, hnone, Option.all_none]
  · rw [hfamily hpair hasks]
    exact and_congr_right fun hgeneric => Site.exists_fontStack_iff hsite hwhole hgeneric

/-- A text with a font family of its own in narrow viewports. -/
def greeting : Element :=
  { Element.new "greeting" .text with
    responsive := { tablet := some { fontFamily := some "Inter" } } }

/-- A site with that text. -/
def letterhead : Site :=
  (Site.new "letterhead" "Letterhead").insert
    { (Page.new "home" "Home").insert greeting with isIndex := true }

def letterheadExporter : Exporter :=
  .new { ExportConfig.default with
      webfontUrl := some "file:///fonts.css?family=Inter:wght@400&family=Lora&display=swap" }
    ⟨.empty, .empty⟩ (.ofList [(ExportConfig.default.faviconUrl, [0, 0, 1, 0])])

def letterheadFonts : Url :=
  { Url.ofScheme "file".toList with
    host := some (.name [])
    path := .segments ["fonts.css".toList]
    query := some "family=Inter:wght@400&family=Lora&display=swap".toList }

theorem parse_letterheadFonts :
    Url.parse "file:///fonts.css?family=Inter:wght@400&family=Lora&display=swap" =
      .ok letterheadFonts := by
  decide +kernel

/-- The letterhead can be exported. -/
theorem exists_run_letterhead :
    ∃ exported, letterheadExporter.run letterhead = .ok exported := by
  have hwebfont : ∀ url ∈ letterheadExporter.config.webfontUrl, ∃ parsed,
      Url.parse url = .ok parsed := by
    rintro url ⟨⟩
    exact ⟨_, parse_letterheadFonts⟩
  have hsite : Validation.checkSite letterhead = .ok () := rfl
  have hstore : ∀ id ∈ letterhead.referencedBlobs,
      letterheadExporter.store.blobs.get? id = some (default : Blob) := nofun
  obtain ⟨exported, hrun, -⟩ := exists_run hsite rfl hwebfont hstore
  exact ⟨exported, hrun⟩

theorem exists_hasLayout_letterhead : ∃ exported blobOf, ∃ keep : List Char → Bool,
    letterheadExporter.run letterhead = .ok exported ∧
      HasLayout letterheadExporter letterhead blobOf (Webfont.request letterheadFonts
        ((Webfont.parameters "family=Inter:wght@400&family=Lora&display=swap".toList).filter keep))
        exported ∧
      keep "family=Inter:wght@400".toList = true ∧ keep "family=Lora".toList = false ∧
      keep "display=swap".toList = true := by
  obtain ⟨exported, hrun⟩ := exists_run_letterhead
  obtain ⟨blobOf, keep, hlayout, -, hother, -, hkept⟩ :=
    exists_hasLayout_webfonts hrun rfl parse_letterheadFonts rfl
  have hpages : letterhead.pages.values =
      [{ (Page.new "home" "Home").insert greeting with isIndex := true }] := rfl
  have happlies {family : String} : letterhead.Applies family ↔ family = "Inter" := by
    rw [Site.Applies, hpages]
    constructor
    · rintro ⟨p, hp, e, he, b, hfamily⟩
      obtain rfl := List.mem_singleton.1 hp
      obtain rfl := List.mem_singleton.1 he
      cases b <;> cases hfamily <;> rfl
    · rintro rfl
      exact ⟨_, List.mem_singleton_self _, greeting, List.mem_singleton_self _, .tablet, rfl⟩
  have hkept := hkept fun applied h => by
    rw [happlies.1 h]
    decide
  have hinter : Webfont.family? "family=Inter:wght@400".toList = some "Inter" := by
    decide +kernel
  have hlora : Webfont.family? "family=Lora".toList = some "Lora" := by decide +kernel
  have hdisplay : Webfont.family? "display=swap".toList = none := by decide +kernel
  refine ⟨exported, blobOf, keep, hrun, hlayout, ?_, ?_, hother _ (by decide) hdisplay⟩
  · exact (hkept _ (by decide) _ hinter).2 ⟨by decide, happlies.2 rfl⟩
  · refine Bool.eq_false_iff.2 fun h => ?_
    exact absurd (happlies.1 ((hkept _ (by decide) _ hlora).1 h).2) (by decide)

end Exporter

end Sitework
