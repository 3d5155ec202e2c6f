import Sitework.Number.Hex
import Sitework.Number.Integer
import Sitework.Style.Selector
import Sitework.Text.Blank
import Sitework.Text.Split

/-!
# Reading stylesheets

A plain reader of rules, one character at a time. A rule selects one name; it stands alone or in a
block for viewports up to a width. Names may hold escapes and values quoted texts. A text that is
not of this form is refused as a whole.
-/

namespace Sitework.Css

/-- A rule: the name that it selects and what it declares, in order. -/
structure Rule where
  name : String
  declarations : List (String × String)
deriving DecidableEq, Repr

/-- A rule that stands alone, or the rules for viewports up to a width in pixels. -/
inductive Statement where
  | rule (rule : Rule)
  | media (width : Nat) (rules : List Rule)
deriving DecidableEq, Repr

/-- What the reader is in the middle of, with the characters that it has of it. -/
inductive Mode where
  /-- Between two rules. -/
  | between
  /-- The condition of a block. -/
  | condition (cs : List Char)
  /-- The name that a rule selects. -/
  | name (cs : List Char)
  /-- An escape in the name, with the digits of its code point. -/
  | escape (cs digits : List Char)
  /-- After the name. -/
  | selected (cs : List Char)
  /-- Between two declarations of a rule. -/
  | inside (rule : Rule)
  /-- The name of a property. -/
  | property (rule : Rule) (cs : List Char)
  /-- Right after the name of a property. -/
  | colon (rule : Rule) (property : String)
  /-- The value of a property. -/
  | value (rule : Rule) (property : String) (cs : List Char)
  /-- A quoted text in the value. -/
  | quoted (rule : Rule) (property : String) (cs : List Char)
deriving DecidableEq, Repr

/-- The blanks of stylesheets. -/
def isSpace (c : Char) : Bool :=
  c == ' ' || c == '\n' || c == '\t' || c == '\r' || c == '\x0C'

/-- A character that meets a condition is none that does not. -/
theorem ne_of_holds {p : Char → Bool} {c other : Char} (hc : p c = true)
    (hother : p other = false) : c ≠ other := by
  rintro rfl
  rw [hc] at hother
  exact Bool.noConfusion hother

/-- A character that meets a condition is not blank if no blank meets it. -/
theorem isSpace_eq_false {p : Char → Bool} {c : Char} (hc : p c = true)
    (hspace : ∀ space ∈ [' ', '\n', '\t', '\r', '\x0C'], p space = false) : isSpace c = false := by
  simp only [List.forall_mem_cons] at hspace
  obtain ⟨hblank, hline, htab, hreturn, hfeed, -⟩ := hspace
  simp only [isSpace, Bool.or_eq_false_iff, beq_eq_false_iff_ne]
  exact ⟨⟨⟨⟨ne_of_holds hc hblank, ne_of_holds hc hline⟩, ne_of_holds hc htab⟩,
    ne_of_holds hc hreturn⟩, ne_of_holds hc hfeed⟩

/-- The characters of names of properties. -/
def isPropertyChar (c : Char) : Bool :=
  c.isAlpha || c == '-'

/-- The character of a code point. A character that is not in the text takes the place of the null
character and of what is no character. -/
def escaped (n : Nat) : Char :=
  if n = 0 ∨ ¬n.isValidChar then '\uFFFD' else Char.ofNat n

/-- The width in the condition of a block. -/
def width? (cs : List Char) : Option Nat := do
  let bound ← Text.after? "media (max-width:".toList cs
  Integer.ofDigits? (← Text.before? "px)".toList (Text.trim bound))

/-- The rule with one more declaration. -/
def Rule.declare (rule : Rule) (property : String) (value : List Char) : Rule :=
  { rule with declarations := rule.declarations ++ [(property, String.ofList value)] }

/-- Reads a character of a name. -/
def nameStep? (cs : List Char) (c : Char) : Option Mode :=
  if c = '\\' then some (.escape cs [])
  else if c = '\x7b' then some (.inside ⟨String.ofList cs, []⟩)
  else if isSpace c then some (.selected cs)
  else if Selector.isPlain c then some (.name (cs ++ [c]))
  else none

/-- Reads a character of an escape, or the first one after it. A code point has at most six digits
and ends with a blank or the first other character. -/
def escapeStep? (cs digits : List Char) (c : Char) : Option Mode :=
  if Hex.isDigit c ∧ digits.length < 6 then some (.escape cs (digits ++ [c]))
  else
    match Hex.ofDigits? digits with
    | none => if c = '\n' then none else some (.name (cs ++ [c]))
    | some n =>
      if isSpace c then some (.name (cs ++ [escaped n])) else nameStep? (cs ++ [escaped n]) c

/-- The statements that have been read, the block that is open, and what is being read. -/
structure Reader where
  statements : List Statement
  block : Option (Nat × List Rule)
  mode : Mode
deriving DecidableEq, Repr

namespace Reader

/-- The reader before the first character. -/
def start : Reader :=
  ⟨[], none, .between⟩

/-- The reader in another mode. -/
def become (r : Reader) (mode : Mode) : Reader :=
  { r with mode }

/-- The reader after a rule. -/
def finish (r : Reader) (rule : Rule) : Reader :=
  match r.block with
  | none => ⟨r.statements ++ [.rule rule], none, .between⟩
  | some (width, rules) => ⟨r.statements, some (width, rules ++ [rule]), .between⟩

/-- Reads a character of a value outside quotes. -/
def valueStep? (r : Reader) (rule : Rule) (property : String) (cs : List Char) (c : Char) :
    Option Reader :=
  if c = ';' then some (r.become (.inside (rule.declare property cs)))
  else if c = '\x7d' then some (r.finish (rule.declare property cs))
  else if c = '"' then some (r.become (.quoted rule property (cs ++ [c])))
  else if c = '\x7b' ∨ c = '\\' then none
  else some (r.become (.value rule property (cs ++ [c])))

/-- Reads a character. -/
def step? (r : Reader) (c : Char) : Option Reader :=
  match r.mode with
  | .between =>
    if isSpace c then some r
    else if c = '#' then some (r.become (.name []))
    else
      match r.block with
      | none => if c = '@' then some (r.become (.condition [])) else none
      | some (width, rules) =>
        if c = '\x7d' then some ⟨r.statements ++ [.media width rules], none, .between⟩ else none
  | .condition cs =>
    if c = '\x7b' then (width? cs).map fun width => ⟨r.statements, some (width, []), .between⟩
    else some (r.become (.condition (cs ++ [c])))
  | .name cs => (nameStep? cs c).map r.become
  | .escape cs digits => (escapeStep? cs digits c).map r.become
  | .selected cs =>
    if isSpace c then some r
    else if c = '\x7b' then some (r.become (.inside ⟨String.ofList cs, []⟩))
    else none
  | .inside rule =>
    if isSpace c then some r
    else if c = '\x7d' then some (r.finish rule)
    else if isPropertyChar c then some (r.become (.property rule [c]))
    else none
  | .property rule cs =>
    if c = ':' then some (r.become (.colon rule (String.ofList cs)))
    else if isPropertyChar c then some (r.become (.property rule (cs ++ [c])))
    else none
  | .colon rule property =>
    if c = ' ' then some (r.become (.value rule property []))
    else r.valueStep? rule property [] c
  | .value rule property cs => r.valueStep? rule property cs c
  | .quoted rule property cs =>
    if c = '"' then some (r.become (.value rule property (cs ++ [c])))
    else if c = '\n' ∨ c = '\\' then none
    else some (r.become (.quoted rule property (cs ++ [c])))

/-- Reads some characters one after the other. -/
def run (r : Reader) (cs : List Char) : Option Reader :=
  cs.foldlM step? r

/-- The statements, if nothing is left open. -/
def result? (r : Reader) : Option (List Statement) :=
  if r.mode = .between ∧ r.block = none then some r.statements else none

@[simp] theorem run_nil (r : Reader) : r.run [] = some r := rfl

theorem run_cons (r : Reader) (c : Char) (cs : List Char) :
    r.run (c :: cs) = (r.step? c).bind (run · cs) :=
  List.foldlM_cons

/-- After some characters, the rest is read. -/
theorem run_append_left {r s : Reader} {xs : List Char} (hx : r.run xs = some s) (ys : List Char) :
    r.run (xs ++ ys) = s.run ys := by
  rw [run, List.foldlM_append]
  change (r.run xs).bind (run · ys) = _
  rw [hx, Option.bind_some]

/-- What has been read was read one part after the other. -/
theorem exists_of_run_append {r t : Reader} {xs ys : List Char} (h : r.run (xs ++ ys) = some t) :
    ∃ s, r.run xs = some s ∧ s.run ys = some t := by
  rw [run, List.foldlM_append] at h
  exact Option.bind_eq_some_iff.1 h

/-- What reads some characters and then what reads the rest reads them all. -/
theorem run_append {r s t : Reader} {xs ys : List Char} (hx : r.run xs = some s)
    (hy : s.run ys = some t) : r.run (xs ++ ys) = some t := by
  rw [run_append_left hx, hy]

/-- Characters that change nothing are passed over. -/
theorem run_eq_self {r : Reader} {cs : List Char} (h : ∀ c ∈ cs, r.step? c = some r) :
    r.run cs = some r := by
  induction cs with
  | nil => rfl
  | cons c cs ih =>
    rw [List.forall_mem_cons] at h
    rw [run_cons, h.1, Option.bind_some, ih h.2]

/-- Characters are collected while each of them continues what is being read. -/
theorem run_collect {r : Reader} (mode : List Char → Mode) {cs : List Char}
    (h : ∀ c ∈ cs, ∀ done, (r.become (mode done)).step? c = some (r.become (mode (done ++ [c]))))
    (done : List Char) :
    (r.become (mode done)).run cs = some (r.become (mode (done ++ cs))) := by
  induction cs generalizing done with
  | nil => rw [List.append_nil, run_nil]
  | cons c cs ih =>
    rw [List.forall_mem_cons] at h
    rw [run_cons, h.1, Option.bind_some, ih h.2, List.append_assoc, List.singleton_append]

/-- The reader after some rules. -/
def finishAll (r : Reader) (rules : List Rule) : Reader :=
  rules.foldl finish r

/-- Rules that stand alone become statements. -/
theorem finishAll_start (rules : List Rule) :
    start.finishAll rules = ⟨rules.map .rule, none, .between⟩ := by
  have hfold (statements : List Statement) :
      (Reader.mk statements none .between).finishAll rules =
        ⟨statements ++ rules.map .rule, none, .between⟩ := by
    induction rules generalizing statements with
    | nil => rw [List.map_nil, List.append_nil, finishAll, List.foldl_nil]
    | cons rule rules ih =>
      rw [List.map_cons, List.append_cons]
      exact ih _
  exact hfold []

/-- Rules in a block are added to it. -/
theorem finishAll_block (statements : List Statement) (width : Nat) (rules : List Rule) :
    (Reader.mk statements (some (width, [])) .between).finishAll rules =
      ⟨statements, some (width, rules), .between⟩ := by
  have hfold (done : List Rule) :
      (Reader.mk statements (some (width, done)) .between).finishAll rules =
        ⟨statements, some (width, done ++ rules), .between⟩ := by
    induction rules generalizing done with
    | nil => rw [List.append_nil, finishAll, List.foldl_nil]
    | cons rule rules ih =>
      rw [List.append_cons]
      exact ih _
  exact hfold []

/-- The reader after a block. -/
def place (r : Reader) (block : Statement) : Reader :=
  ⟨r.statements ++ [block], none, .between⟩

/-- Blocks become statements. -/
theorem foldl_place (statements blocks : List Statement) :
    blocks.foldl place ⟨statements, none, .between⟩ = ⟨statements ++ blocks, none, .between⟩ := by
  induction blocks generalizing statements with
  | nil => rw [List.append_nil, List.foldl_nil]
  | cons block blocks ih =>
    rw [List.append_cons]
    exact ih _

end Reader

/-- The statements of a stylesheet. -/
def read? (text : String) : Option (List Statement) :=
  (Reader.start.run text.toList).bind Reader.result?

end Sitework.Css
