import Mathlib.Data.List.Induction
import Sitework.Proofs.Style.Minimal

/-!
# Elements built step by step

An element is built from a bare one by setting its parent, its text and its base style, and by
updates of the style at a breakpoint. An update leaves all layers minimal. A base style that is set
later leaves the layers as they are: each of them still sets something and repeats no value of a
wider layer, but it may now repeat a value of the base.
-/

namespace Sitework

namespace Cascade

variable {base : Style} {overrides : Overrides}

/-- What is in force comes from the layers, or else from the base. -/
theorem get_resolve (base : Style) (overrides : Overrides) (b : Breakpoint) (p : Property) :
    (resolve base overrides b).get p =
      ((resolve Style.empty overrides b).get p).or (base.get p) := by
  induction b using Breakpoint.widestFirst with
  | base =>
    change base.get p = (Style.empty.get p).or (base.get p)
    rw [Style.get_empty, Option.none_or]
  | step b w h ih =>
    rw [resolve_eq_cover base overrides h, resolve_eq_cover Style.empty overrides h]
    cases overrides.get b with
    | none => exact ih
    | some layer => simp only [cover, Style.get_merge, ih, Option.or_assoc]

/-- What is inherited comes from the wider layers, or else from the base. -/
theorem get_inherited (base : Style) (overrides : Overrides) (b : Breakpoint) (p : Property) :
    (inherited base overrides b).get p =
      ((inherited Style.empty overrides b).get p).or (base.get p) := by
  cases hw : b.wider? with
  | none =>
    rw [Breakpoint.eq_monitor_of_wider? hw]
    exact get_resolve base overrides .monitor p
  | some w =>
    rw [inherited_eq_resolve base overrides hw, inherited_eq_resolve Style.empty overrides hw]
    exact get_resolve base overrides w p

/-- Minimal layers repeat nothing of each other, whatever the base is. -/
theorem IsMinimal.of_base (h : IsMinimal base overrides) : IsMinimal Style.empty overrides := by
  rw [isMinimal_iff] at h ⊢
  intro b hb layer hlayer
  obtain ⟨hempty, hdiffers⟩ := h b hb layer hlayer
  refine ⟨hempty, fun p x hx y hy => hdiffers p x hx y ?_⟩
  rw [get_inherited, hy, Option.some_or]

/-- Where layers repeat nothing of each other, a layer repeats a value that is in force without it
exactly if no wider layer sets the property and the base has the same value. -/
theorem exists_inherited_iff (h : IsMinimal Style.empty overrides) {b : Breakpoint}
    (hb : b ≠ .monitor) {layer : Style} (hlayer : overrides.get b = some layer) {p : Property}
    {x : p.Value} (hx : layer.get p = some x) :
    (∃ y, (inherited base overrides b).get p = some y ∧ p.sameValue x y = true) ↔
      (inherited Style.empty overrides b).get p = none ∧
        ∃ y, base.get p = some y ∧ p.sameValue x y = true := by
  obtain ⟨-, hdiffers⟩ := isMinimal_iff.1 h b hb layer hlayer
  rw [get_inherited]
  cases hwider : (inherited Style.empty overrides b).get p with
  | none => simp
  | some z =>
    -- a wider layer sets the property, and this layer sets it to another value
    simp [hdiffers p x hx z hwider]

/-- No layers are minimal. -/
theorem isMinimal_empty (base : Style) : IsMinimal base Layers.empty := by
  intro b w _ layer hlayer
  rw [Layers.get_empty] at hlayer
  cases hlayer

end Cascade

namespace Element

/-- A step of building an element. -/
inductive BuildStep where
  /-- Sets the parent. -/
  | parent (id : String)
  /-- Sets the base style. -/
  | style (style : Style)
  /-- Sets the text. -/
  | content (content : String)
  /-- Sets values at a breakpoint, in the form that is chained. -/
  | layer (b : Breakpoint) (style : Style)
  /-- Updates the style at a breakpoint. -/
  | update (b : Breakpoint) (style : Style)

/-- Whether the step is an update of the style, in one form or the other. -/
def BuildStep.isUpdate : BuildStep → Bool
  | .layer _ _ | .update _ _ => true
  | _ => false

/-- The element after a step. -/
def build (e : Element) : BuildStep → Element
  | .parent id => e.withParent id
  | .style style => e.withStyle style
  | .content content => e.withContent content
  | .layer b style => e.withOverride b style
  | .update b style => e.applyStyle b style

/-- Some steps after which no update of the style follows set the base style. -/
def IsRestyled (steps : List BuildStep) : Prop :=
  ∃ before style after, steps = before ++ .style style :: after ∧
    ∀ step ∈ after, step.isUpdate = false

/-- A step that updates nothing leaves the base style set after the last update. -/
theorem IsRestyled.append {steps : List BuildStep} (h : IsRestyled steps) {step : BuildStep}
    (hstep : step.isUpdate = false) : IsRestyled (steps ++ [step]) := by
  obtain ⟨before, style, after, rfl, hafter⟩ := h
  refine ⟨before, style, after ++ [step], by rw [List.append_assoc, List.cons_append], ?_⟩
  rw [List.forall_mem_append, List.forall_mem_singleton]
  exact ⟨hafter, hstep⟩

/-- So does setting it anew. -/
theorem isRestyled_append_style (steps : List BuildStep) (style : Style) :
    IsRestyled (steps ++ [.style style]) :=
  ⟨steps, style, [], rfl, List.forall_mem_nil _⟩

/-- After an update the layers are minimal. -/
theorem isMinimal_build {e : Element} {step : BuildStep} (h : step.isUpdate = true) :
    Cascade.IsMinimal (e.build step).style (e.build step).responsive := by
  cases step with
  | layer b style => exact Cascade.isMinimal_update e.style e.responsive b style
  | update b style => exact Cascade.isMinimal_update e.style e.responsive b style
  | parent | style | content => cases h

/-- Other steps leave the layers as they are. -/
theorem responsive_build {e : Element} {step : BuildStep} (h : step.isUpdate = false) :
    (e.build step).responsive = e.responsive := by
  cases step with
  | layer | update => cases h
  | parent | style | content => rfl

/-- No step puts a layer at the base. -/
theorem get_monitor_build (e : Element) (step : BuildStep) :
    (e.build step).responsive.get .monitor = e.responsive.get .monitor := by
  cases step with
  | layer b style => exact Cascade.get_update_monitor e.style e.responsive b style
  | update b style => exact Cascade.get_update_monitor e.style e.responsive b style
  | parent | style | content => rfl

/-- The element that is built from a bare one by some steps. -/
def built (id : String) (kind : ElementKind) (steps : List BuildStep) : Element :=
  steps.foldl build (new id kind)

section Run

variable (id : String) (kind : ElementKind) (steps : List BuildStep)

theorem built_append_singleton (step : BuildStep) :
    built id kind (steps ++ [step]) = (built id kind steps).build step := by
  rw [built, List.foldl_append, List.foldl_cons, List.foldl_nil]
  rfl

/-- Building stores no layer for the base. -/
theorem get_monitor_built : (built id kind steps).responsive.get .monitor = none := by
  induction steps using List.reverseRecOn with
  | nil => rfl
  | append_singleton steps step ih => rw [built_append_singleton, get_monitor_build, ih]

/-- The layers of a built element repeat nothing of each other. -/
theorem isMinimal_empty_built :
    Cascade.IsMinimal Style.empty (built id kind steps).responsive := by
  induction steps using List.reverseRecOn with
  | nil => exact Cascade.isMinimal_empty _
  | append_singleton steps step ih =>
    rw [built_append_singleton]
    cases hupdate : step.isUpdate with
    | true => exact (isMinimal_build hupdate).of_base
    | false => rwa [responsive_build hupdate]

/-- Unless the base style was set after the last update, the layers of a built element are
minimal. -/
theorem isMinimal_built (h : ¬ IsRestyled steps) :
    Cascade.IsMinimal (built id kind steps).style (built id kind steps).responsive := by
  induction steps using List.reverseRecOn with
  | nil => exact Cascade.isMinimal_empty _
  | append_singleton steps step ih =>
    rw [built_append_singleton]
    cases hupdate : step.isUpdate with
    | true => exact isMinimal_build hupdate
    | false =>
      have hminimal := ih fun hrestyled => h (hrestyled.append hupdate)
      cases step with
      | layer | update => cases hupdate
      | style style => exact absurd (isRestyled_append_style steps style) h
      | parent | content => exact hminimal

variable {id kind steps} in
/-- A layer of a built element is below the base. -/
theorem ne_monitor_of_get_built {b : Breakpoint} {layer : Style}
    (h : (built id kind steps).responsive.get b = some layer) : b ≠ .monitor := by
  rintro rfl
  rw [get_monitor_built] at h
  cases h

/-- Every layer of a built element is below the base and sets something. It repeats a value that is
in force without it exactly if the base style was set after the last update, no wider layer sets
the property, and the base style has the same value. -/
theorem repeats_built :
    (∀ b layer, (built id kind steps).responsive.get b = some layer →
      b ≠ .monitor ∧ layer.isEmpty = false) ∧
    ∀ b layer p x, (built id kind steps).responsive.get b = some layer → layer.get p = some x →
      ((∃ y, (Cascade.inherited (built id kind steps).style (built id kind steps).responsive b).get
          p = some y ∧ p.sameValue x y = true) ↔
        IsRestyled steps ∧
          (Cascade.inherited Style.empty (built id kind steps).responsive b).get p = none ∧
          ∃ y, (built id kind steps).style.get p = some y ∧ p.sameValue x y = true) := by
  have hstacked := isMinimal_empty_built id kind steps
  constructor
  · intro b layer hlayer
    have hbelow := ne_monitor_of_get_built hlayer
    exact ⟨hbelow, (Cascade.isMinimal_iff.1 hstacked b hbelow layer hlayer).1⟩
  · intro b layer p x hlayer hx
    have hbelow := ne_monitor_of_get_built hlayer
    rw [Cascade.exists_inherited_iff hstacked hbelow hlayer hx, iff_and_self]
    intro hrepeats
    by_contra hrestyled
    obtain ⟨y, hy, hsame⟩ :=
      (Cascade.exists_inherited_iff hstacked hbelow hlayer hx).2 hrepeats
    have hminimal := Cascade.isMinimal_iff.1 (isMinimal_built id kind steps hrestyled)
    rw [(hminimal b hbelow layer hlayer).2 p x hx y hy] at hsame
    cases hsame

end Run

/-- A text that is red on tablets stays so after it has become red everywhere. -/
example :
    let e := built "note" .text
      [.layer .tablet { color := some "red" }, .style { color := some "red" }]
    e.style.color = some "red" ∧ e.responsive.tablet.bind (·.color) = some "red" := by
  decide +kernel

end Element

end Sitework
