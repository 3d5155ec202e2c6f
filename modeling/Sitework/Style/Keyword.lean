import Sitework.Json.Value

/-!
# Keyword values

A property with a fixed choice of values stores each by a name, renders it by a spelling, and may
accept further spellings of it.
-/

namespace Sitework

/-- A type of named choices. -/
class Keyword (α : Type) where
  /-- Every choice, in order. -/
  all : List α
  /-- The stored name. -/
  stored : α → String
  /-- The rendered spelling. -/
  css : α → String
  /-- Other spellings that are understood. -/
  aliases : α → List String

namespace Keyword

variable {α : Type} [Keyword α]

/-- The choice with a stored name. -/
def ofStored? (name : String) : Option α :=
  all.find? fun x => stored x == name

/-- The choice with a rendered spelling or one of its aliases. -/
def read? (text : String) : Option α :=
  all.find? fun x => css x == text || (aliases x).contains text

/-- The stored form. -/
def toJson (x : α) : Json :=
  .string (stored x)

/-- The choice of a stored form. -/
def ofJson? (form : Json.ChoiceForm) (value : Json) : Option α :=
  (value.choice? form).bind ofStored?

end Keyword

/-- Horizontal alignment of text. -/
inductive TextAlign where
  | left | center | right | justify
deriving DecidableEq, Repr, Inhabited

instance : Keyword TextAlign where
  all := [.left, .center, .right, .justify]
  stored
    | .left => "left"
    | .center => "center"
    | .right => "right"
    | .justify => "justify"
  css
    | .left => "left"
    | .center => "center"
    | .right => "right"
    | .justify => "justify"
  aliases
    | .left => ["start"]
    | .right => ["end"]
    | _ => []

/-- How a box takes part in the layout. -/
inductive Display where
  | block | inline | flex | grid | none
deriving DecidableEq, Repr, Inhabited

instance : Keyword Display where
  all := [.block, .inline, .flex, .grid, .none]
  stored
    | .block => "block"
    | .inline => "inline"
    | .flex => "flex"
    | .grid => "grid"
    | .none => "none"
  css
    | .block => "block"
    | .inline => "inline"
    | .flex => "flex"
    | .grid => "grid"
    | .none => "none"
  aliases _ := []

/-- The main axis of a flexible box. -/
inductive FlexDirection where
  | row | column | rowReverse | columnReverse
deriving DecidableEq, Repr, Inhabited

instance : Keyword FlexDirection where
  all := [.row, .column, .rowReverse, .columnReverse]
  stored
    | .row => "row"
    | .column => "column"
    | .rowReverse => "row-reverse"
    | .columnReverse => "column-reverse"
  css
    | .row => "row"
    | .column => "column"
    | .rowReverse => "row-reverse"
    | .columnReverse => "column-reverse"
  aliases _ := []

/-- Alignment across the main axis of a flexible box. -/
inductive AlignItems where
  | start | center | finish | stretch | baseline
deriving DecidableEq, Repr, Inhabited

instance : Keyword AlignItems where
  all := [.start, .center, .finish, .stretch, .baseline]
  stored
    | .start => "start"
    | .center => "center"
    | .finish => "end"
    | .stretch => "stretch"
    | .baseline => "baseline"
  css
    | .start => "flex-start"
    | .center => "center"
    | .finish => "flex-end"
    | .stretch => "stretch"
    | .baseline => "baseline"
  aliases
    | .start => ["start"]
    | .finish => ["end"]
    | _ => []

/-- Distribution along the main axis of a flexible box. -/
inductive JustifyContent where
  | start | center | finish | between | around | evenly
deriving DecidableEq, Repr, Inhabited

instance : Keyword JustifyContent where
  all := [.start, .center, .finish, .between, .around, .evenly]
  stored
    | .start => "start"
    | .center => "center"
    | .finish => "end"
    | .between => "between"
    | .around => "around"
    | .evenly => "evenly"
  css
    | .start => "flex-start"
    | .center => "center"
    | .finish => "flex-end"
    | .between => "space-between"
    | .around => "space-around"
    | .evenly => "space-evenly"
  aliases
    | .start => ["start"]
    | .center => []
    | .finish => ["end"]
    | .between => ["between"]
    | .around => ["around"]
    | .evenly => ["evenly"]

/-- The line of a border. -/
inductive BorderStyle where
  | none | solid | dashed | dotted | double
deriving DecidableEq, Repr, Inhabited

instance : Keyword BorderStyle where
  all := [.none, .solid, .dashed, .dotted, .double]
  stored
    | .none => "none"
    | .solid => "solid"
    | .dashed => "dashed"
    | .dotted => "dotted"
    | .double => "double"
  css
    | .none => "none"
    | .solid => "solid"
    | .dashed => "dashed"
    | .dotted => "dotted"
    | .double => "double"
  aliases _ := []

/-- The positioning scheme. -/
inductive Position where
  | relative | absolute
deriving DecidableEq, Repr, Inhabited

instance : Keyword Position where
  all := [.relative, .absolute]
  stored
    | .relative => "relative"
    | .absolute => "absolute"
  css
    | .relative => "relative"
    | .absolute => "absolute"
  aliases _ := []

/-- The weight of a font, lightest first, or the weight of the parent. -/
inductive FontWeight where
  | thin | extraLight | light | regular | medium | semiBold | bold | extraBold | black | inherit
deriving DecidableEq, Repr, Inhabited

instance : Keyword FontWeight where
  all := [.thin, .extraLight, .light, .regular, .medium, .semiBold, .bold, .extraBold, .black,
    .inherit]
  stored
    | .thin => "Thin"
    | .extraLight => "ExtraLight"
    | .light => "Light"
    | .regular => "Regular"
    | .medium => "Medium"
    | .semiBold => "SemiBold"
    | .bold => "Bold"
    | .extraBold => "ExtraBold"
    | .black => "Black"
    | .inherit => "Inherit"
  css
    | .thin => "100"
    | .extraLight => "200"
    | .light => "300"
    | .regular => "400"
    | .medium => "500"
    | .semiBold => "600"
    | .bold => "700"
    | .extraBold => "800"
    | .black => "900"
    | .inherit => "inherit"
  aliases
    | .regular => ["normal"]
    | .bold => ["bold"]
    | _ => []

end Sitework
