import Sitework.Proofs.Style.Accepted
import Sitework.Proofs.Style.LastShown

/-!
# Updates on top of what was rendered

When the model is not at hand, an update is completed from the declarations that a style rendered.
These were completed with defaults themselves, and of a group they show all values that render
together or none of them. So what is read back of a style with finite numbers are its own values
and defaults; only the size of tracks is lost if their number is not set. The update takes these
for the members that it leaves unset in the groups it touches, and nothing else of the style.
-/

namespace Sitework

namespace Property

/-- The value of a member of a group that is known from nowhere else: nothing is moved, turned or
scaled, and tracks have equal shares. The number of tracks and the layout of a flexible box stay
open. -/
def default? : (p : Property) → Option p.Value
  | .transform .scaleX | .transform .scaleY => some (1 : Binary64)
  | .transform _ => some (0 : Binary64)
  | .trackSize _ => some TrackSize.auto
  | _ => none

end Property

namespace CompositeGroup

variable {g : CompositeGroup} {p : Property}

theorem get_defaults_of_mem (h : p ∈ g.members) : g.defaults.get p = p.default? := by
  rw [mem_members_iff] at h
  cases p with
  | transform part => cases h; cases part <;> rfl
  | trackCount a => cases h; cases a <;> rfl
  | trackSize a => cases h; cases a <;> rfl
  | display | flexDirection | alignItems | justifyContent => cases h; rfl
  | _ => cases h

/-- What the group takes for a member from rendered declarations alone. -/
theorem get_present_rendered (rendered : Declarations) (h : p ∈ g.members) :
    (g.present { rendered := some rendered }).get p =
      ((Style.ofDeclarations rendered).get p).or p.default? := by
  rw [present, Style.get_merge, Style.get_merge, get_part_of_mem _ h, get_part_of_mem _ h,
    get_defaults_of_mem h, Option.getD_none, Style.get_empty, Option.none_or]
  rfl

/-- Values of members that are set are plain if their numbers are finite. -/
theorem plain_of_mem_members {x : p.Value} (hp : p ∈ g.members)
    (h : ∀ n ∈ p.numbers x, n.IsFinite) : p.Plain x := by
  rw [mem_members_iff] at hp
  refine Property.plain_of_isFinite h ?_ ?_
  · rintro q rfl
    cases hp
  · rintro rfl
    cases hp

end CompositeGroup

namespace Style

variable {s update : Style} {source : PresentStyle} {p : Property} {g : CompositeGroup}

/-- Completing an update touches no further group. -/
theorem touchedBy_complete (update : Style) (source : PresentStyle) (g : CompositeGroup) :
    g.touchedBy (update.complete source) = g.touchedBy update := by
  rw [Bool.eq_iff_iff]
  constructor
  · intro h
    obtain ⟨p, hp, hset⟩ := List.any_eq_true.1 h
    by_contra huntouched
    rw [get_complete_of_untouched fun g' hp' => ?_] at hset
    · exact huntouched (CompositeGroup.touchedBy_of_mem hp hset)
    · rw [CompositeGroup.eq_of_mem_members hp' hp]
      exact Bool.eq_false_iff.2 huntouched
  · refine CompositeGroup.touchedBy_of_isCoveredBy fun p hset => ?_
    rw [get_complete, Option.isSome_or, hset, Bool.true_or]

/-- Completing an update twice from the same present values is completing it once. -/
theorem complete_complete (update : Style) (source : PresentStyle) :
    (update.complete source).complete source = update.complete source := by
  have hadded (p : Property) :
      (update.complete source).addedFrom source p = update.addedFrom source p := by
    funext g
    rw [addedFrom, addedFrom, touchedBy_complete]
  refine ext_get fun p => ?_
  rw [get_complete, hadded, get_complete, Option.or_assoc, Option.or_self]

/-- Every number in the style is finite. -/
def HasFiniteNumbers (s : Style) : Prop :=
  s.Meets fun p x => ∀ n ∈ p.numbers x, n.IsFinite

theorem HasFiniteNumbers.completed (h : s.HasFiniteNumbers) : s.completed.HasFiniteNumbers :=
  Meets.completed h fun g p x hx n hn => ((isAccepted_defaults g p x hx).exact n hn).finite

/-- The value that a style leaves to be read back: the size of tracks only with their number. -/
def kept (s : Style) : (p : Property) → Option p.Value
  | .trackSize a => if (s.get (.trackCount a)).isSome then s.get (.trackSize a) else none
  | p => s.get p

theorem get_eq_some_of_kept {x : p.Value} (h : s.kept p = some x) : s.get p = some x := by
  cases p with
  | trackSize a =>
    rw [kept] at h
    split at h
    · exact h
    · cases h
  | _ => exact h

/-- What is rendered keeps its value. -/
theorem kept_eq_get (h : ((CssProperty.owner p).render? s.completed).isSome = true) :
    s.kept p = s.get p := by
  cases p with
  | trackSize a =>
    have hcount : (s.completed.get (.trackCount a)).isSome = true :=
      CssProperty.isSome_render?_iff.1 h (.trackCount a) rfl
    rw [s.get_completed_of_owner_ne (p := .trackCount a) nofun nofun] at hcount
    exact if_pos hcount
  | _ => rfl

/-- In a group that a style touches, a member that has a default is set when it is completed. -/
theorem isSome_get_completed (hp : p ∈ g.members) (htouched : g.touchedBy s = true)
    (hdefault : p.default?.isSome = true) : (s.completed.get p).isSome = true := by
  rw [get_completed, Option.isSome_or, ← fillingFrom_empty, findSome?_fillingFrom hp,
    fillingFrom_empty, filling, if_pos htouched, CompositeGroup.get_defaults_of_mem hp, hdefault,
    Bool.or_true]

/-- What keeps its value is rendered. -/
theorem isSome_render?_of_kept (hp : p ∈ g.members) (h : (s.kept p).isSome = true) :
    ((CssProperty.owner p).render? s.completed).isSome = true := by
  obtain ⟨x, hx⟩ := Option.isSome_iff_exists.1 h
  have hset : (s.get p).isSome = true := by rw [get_eq_some_of_kept hx, Option.isSome_some]
  have htouched : g.touchedBy s = true := CompositeGroup.touchedBy_of_mem hp hset
  have hown {q : Property} (hq : (s.get q).isSome = true) : (s.completed.get q).isSome = true :=
    isCoveredBy_completed s q hq
  rw [CssProperty.isSome_render?_iff]
  intro q hq
  have hq' : q ∈ g.members := by
    rw [CompositeGroup.mem_members_iff, hq]
    exact CompositeGroup.mem_members_iff.1 hp
  have hdefault := isSome_get_completed hq' htouched
  by_cases halone : CssProperty.rendersAlone p = true
  · obtain rfl := CssProperty.eq_of_rendersAlone halone hq
    exact hown hset
  · -- all that is rendered with other values has a default, except for the number of tracks
    cases q with
    | transform part => exact hdefault (by cases part <;> rfl)
    | trackSize a => exact hdefault rfl
    | trackCount a =>
      refine hown ?_
      cases p with
      | trackCount b => cases hq; exact hset
      | trackSize b =>
        cases hq
        rw [kept] at h
        split at h
        · assumption
        · cases h
      | _ => cases hq
    | _ =>
      rw [CssProperty.eq_of_rendersAlone rfl hq.symm] at halone
      exact absurd rfl halone

/-- What a style with finite numbers rendered for a group is read back as it was. -/
theorem get_ofDeclarations_completed (hs : s.HasFiniteNumbers) (hp : p ∈ g.members) :
    (ofDeclarations s.completed.declarations).get p =
      if ((CssProperty.owner p).render? s.completed).isSome then s.completed.get p else none := by
  have howner := CompositeGroup.owner_ne_position_of_mem_members hp
  rw [get_ofDeclarations_of_owner_ne _ howner, absorbed_declarations, get_settle,
    render?_shown_of_ne _ howner]
  cases hrender : (CssProperty.owner p).render? s.completed with
  | none => rfl
  | some value =>
    have hplain : ∀ q, CssProperty.owner q = CssProperty.owner p →
        ∀ x, s.completed.get q = some x → q.Plain x := by
      intro q hq x hx
      have hmem : q ∈ g.members := by
        rw [CompositeGroup.mem_members_iff, hq]
        exact CompositeGroup.mem_members_iff.1 hp
      exact CompositeGroup.plain_of_mem_members hmem (hs.completed q x hx)
    obtain ⟨t, hread, ht⟩ := CssProperty.read_render? hrender hplain
    rw [Option.bind_some, CssProperty.contribution, hread, Option.isSome_some, if_pos rfl]
    exact ht p rfl

/-- Read back over the defaults, a member is what the style leaves of it, or else the default. -/
theorem get_ofDeclarations_or_default (hs : s.HasFiniteNumbers) (hp : p ∈ g.members) :
    ((ofDeclarations s.completed.declarations).get p).or p.default? =
      (s.kept p).or p.default? := by
  rw [get_ofDeclarations_completed hs hp]
  split
  · next hrender =>
    rw [kept_eq_get hrender, get_completed, ← fillingFrom_empty, findSome?_fillingFrom hp,
      fillingFrom_empty, filling, CompositeGroup.get_defaults_of_mem hp, Option.or_assoc]
    split
    · rw [Option.or_self]
    · rw [Option.none_or]
  · next hrender =>
    have hlost : s.kept p = none := by
      rw [← Option.not_isSome_iff_eq_none]
      exact fun h => hrender (isSome_render?_of_kept hp h)
    rw [hlost]

/-- A style is an update on top of another style: it has all values of the update, outside of the
groups that the update touches no others, and inside of these those that the other style leaves, or
else the defaults. -/
structure IsUpdated (s update result : Style) : Prop where
  /-- What the update sets has its value. -/
  own : ∀ p x, update.get p = some x → result.get p = some x
  /-- What belongs to no group that the update touches is as in the update. -/
  outside : ∀ p, (∀ g : CompositeGroup, p ∈ g.members → g.touchedBy update = false) →
    result.get p = update.get p
  /-- An unset member of a group that is touched has the value of the other style or the default. -/
  inside : ∀ g : CompositeGroup, g.touchedBy update = true → ∀ p ∈ g.members,
    update.get p = none → result.get p = (s.kept p).or p.default?

/-- From what a style with finite numbers rendered, an update is completed to itself on top of that
style; and completing the result once more changes nothing. -/
theorem isUpdated_complete (hs : s.HasFiniteNumbers) (update : Style) :
    s.IsUpdated update (update.complete { rendered := some s.completed.declarations }) ∧
      (update.complete { rendered := some s.completed.declarations }).complete
          { rendered := some s.completed.declarations } =
        update.complete { rendered := some s.completed.declarations } := by
  refine ⟨⟨fun p x hx => ?_, fun p => get_complete_of_untouched, ?_⟩, complete_complete _ _⟩
  · rw [get_complete, hx, Option.some_or]
  · intro g htouched p hp hunset
    rw [get_complete_of_touchedBy hunset hp htouched, CompositeGroup.get_present_rendered _ hp,
      get_ofDeclarations_or_default hs hp]

/-- A grid that is moved to the right, with a height for rows whose number is not set. -/
def gallery (offset size : Binary64) : Style where
  left := some offset
  columns := some 3
  columnWidth := some (.px size)
  rowHeight := some (.px size)

theorem hasFiniteNumbers_gallery {offset size : Binary64} (hoffset : offset.IsFinite)
    (hsize : size.IsFinite) : (gallery offset size).HasFiniteNumbers := by
  intro p x hx n hn
  match p, x, hx with
  | .transform .left, _, rfl => exact List.mem_singleton.1 hn ▸ hoffset
  | .trackCount .columns, _, rfl => exact absurd hn List.not_mem_nil
  | .trackSize .columns, _, rfl | .trackSize .rows, _, rfl =>
    exact List.mem_singleton.1 hn ▸ hsize

/-- Turning the grid and giving it rows moves it as before and keeps the width of its columns; the
height of rows, which was not rendered, is lost. -/
theorem isUpdated_complete_gallery :
    let shown := (gallery (.ofInt (24 : Nat)) (.ofInt (120 : Nat))).completed.declarations
    ∃ r : Style, r = Style.complete { rotate := some (.ofInt (45 : Nat)), rows := some 2 }
        { rendered := some shown } ∧
      r.rotate = some (.ofInt (45 : Nat)) ∧ r.left = some (.ofInt (24 : Nat)) ∧
      r.scaleX = some 1 ∧ r.rows = some 2 ∧ r.columns = some 3 ∧
      r.columnWidth = some (.px (.ofInt (120 : Nat))) ∧ r.rowHeight = some .auto ∧
      r.display = none := by
  have hfinite : (gallery (.ofInt (24 : Nat)) (.ofInt (120 : Nat))).HasFiniteNumbers :=
    hasFiniteNumbers_gallery (Binary64.isFinite_ofInt (by decide))
      (Binary64.isFinite_ofInt (by decide))
  obtain ⟨⟨hown, houtside, hinside⟩, -⟩ :=
    isUpdated_complete hfinite { rotate := some (.ofInt (45 : Nat)), rows := some 2 }
  refine ⟨_, rfl, hown (.transform .rotate) _ rfl,
    hinside .transform rfl (.transform .left) (by decide) rfl,
    hinside .transform rfl (.transform .scaleX) (by decide) rfl,
    hown (.trackCount .rows) _ rfl,
    hinside .grid rfl (.trackCount .columns) (by decide) rfl,
    hinside .grid rfl (.trackSize .columns) (by decide) rfl,
    hinside .grid rfl (.trackSize .rows) (by decide) rfl,
    houtside .display fun g hg => ?_⟩
  cases CompositeGroup.eq_of_mem_members (h := .flex) hg (by decide)
  rfl

end Style

end Sitework
