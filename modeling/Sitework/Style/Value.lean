import Sitework.Style.Color
import Sitework.Style.Token
import Sitework.Style.Transform
import Sitework.Number.Integer

/-!
# Reading rendered values

Each kind of rendered value has a reader. A reader accepts what rendering produces and some other
spellings, and says what is wrong with any other text.
-/

namespace Sitework

/-- What is wrong with a value. -/
inductive ValueFault where
  /-- Some character starts no token. -/
  | untokenizable (value : String)
  /-- The value of a length is not one token. -/
  | notOneLength (value : String)
  /-- A length has an unknown unit, or a share of the parent or viewport other than all. -/
  | unsupportedDimension (value : String)
  /-- The token is not that of a length. -/
  | notLength (value : String)
  /-- The text is no color. -/
  | color (value : String) (cause : ColorError)
  /-- A font family has no tokens. -/
  | emptyFontStack
  /-- A font family without quotes holds something other than names. -/
  | unexpectedToken (token : String)
  /-- A length in pixels was expected. -/
  | notPixels (token : String)
  /-- The weight is neither a known number nor a known name. -/
  | unknownWeight (value : String)
  /-- The arguments of a function have no end. -/
  | unterminated
  /-- A call of a function was expected. -/
  | notFunction (token : String)
  /-- A bare number was expected. -/
  | notNumber (token : String)
  /-- An angle in degrees was expected. -/
  | notDegrees (token : String)
  /-- A transform knows no such function with that many arguments. -/
  | unsupportedTransform (name : String)
  /-- A grid template has no tokens. -/
  | emptyTemplate
  /-- A grid template does not start with `repeat`. -/
  | notRepeat (value : String)
  /-- Something follows the tracks of a grid template. -/
  | trailingTokens (value : String)
  /-- A grid template does not have one count and one size. -/
  | notCountAndSize (value : String)
  /-- The number of tracks is no count. -/
  | badTrackCount (token : String)
  /-- The size of the tracks is neither pixels nor an equal share. -/
  | badTrackSize (token : String)
  /-- The value is none of the property's keywords; `what` says what they are. -/
  | keyword (what value : String)
  /-- The value is no integer that fits 32 bits. -/
  | notInteger (value : String)
deriving DecidableEq, Repr

/-- The text of the fault. -/
def ValueFault.message : ValueFault → String
  | .untokenizable value => "untokenizable value: " ++ value
  | .notOneLength value => "expected one length, got: " ++ value
  | .unsupportedDimension value => "unsupported dimension: " ++ value
  | .notLength value => "expected length, got: " ++ value
  | .color value cause => value ++ ": " ++ cause.message
  | .emptyFontStack => "empty font stack"
  | .unexpectedToken token => "unexpected token: " ++ token
  | .notPixels token => "expected pixels, got: " ++ token
  | .unknownWeight value => "unknown weight: " ++ value
  | .unterminated => "unterminated function"
  | .notFunction token => "expected function, got: " ++ token
  | .notNumber token => "expected number, got: " ++ token
  | .notDegrees token => "expected degrees, got: " ++ token
  | .unsupportedTransform name => "unsupported transform function: " ++ name
  | .emptyTemplate => "empty template"
  | .notRepeat value => "expected repeat(), got: " ++ value
  | .trailingTokens value => "trailing tokens in: " ++ value
  | .notCountAndSize value => "expected repeat(count, size), got: " ++ value
  | .badTrackCount token => "bad track count: " ++ token
  | .badTrackSize token => "bad track size: " ++ token
  | .keyword what value => what ++ ": " ++ value
  | .notInteger value => "expected integer, got: " ++ value

namespace Value

/-- A value that was read, or what is wrong with it. -/
abbrev Reading (α : Type) := Except ValueFault α

/-- The tokens of a value. -/
def tokens (value : String) : Reading (List Token) :=
  match Token.tokenize? value with
  | some tokens => .ok tokens
  | none => .error (.untokenizable value)

/-- The length of one token of a value. -/
def lengthOf (value : String) (t : Token) : Reading Length :=
  match t.kind with
  | .dimension =>
    match t.dimension? with
    | some (n, "px") => .ok (.px n)
    | some (n, "%") => if n == .ofInt 100 then .ok .fill else .error (.unsupportedDimension value)
    | some (n, "vh") | some (n, "vw") =>
      if n == .ofInt 100 then .ok .screen else .error (.unsupportedDimension value)
    | _ => .error (.unsupportedDimension value)
  | .number =>
    if t.number?.any (· == 0) then .ok (.px 0) else .error (.notLength value)
  | .ident =>
    if t.string = "fit-content" ∨ t.string = "auto" then .ok .auto else .error (.notLength value)
  | _ => .error (.notLength value)

/-- Reads a length: pixels, the whole parent or viewport, the size of the content, or zero. -/
def length (value : String) : Reading Length := do
  match ← tokens value with
  | [t] => lengthOf value t
  | _ => .error (.notOneLength value)

/-- Reads a color, in normal form. -/
def color (value : String) : Reading String :=
  match Color.parse value with
  | .ok color => .ok color.css
  | .error cause => .error (.color value cause)

/-- The text of a bare name. -/
def bareName (t : Token) : Reading String :=
  if t.kind = .ident then .ok t.string else .error (.unexpectedToken t.string)

/-- Reads the first family of a font stack, without its quotes. -/
def fontFamily (value : String) : Reading String := do
  match ← tokens value with
  | [] => .error .emptyFontStack
  | first :: rest =>
    match first.quoted? with
    | some family => .ok family
    | none =>
      let names ← ((first :: rest).takeWhile (·.kind ≠ .comma)).mapM bareName
      return " ".intercalate names

/-- The characters without quotes at either end. -/
def withoutQuotes (cs : List Char) : List Char :=
  let isQuote (c : Char) : Bool := c == '"' || c == '\''
  (((cs.dropWhile isQuote).reverse).dropWhile isQuote).reverse

/-- Every family of a font stack, without quotes; generic families are included. -/
def fontStack (value : String) : List String :=
  ((Text.splitBy (· == ',') value.toList).map fun family =>
    Text.trim (withoutQuotes (Text.trim family))).filter (· ≠ []) |>.map String.ofList

/-- Reads a font size: pixels, or that of the parent. -/
def fontSize (value : String) : Reading FontSize := do
  if Text.trimmed value = "inherit" then return .inherit
  match ← length value with
  | .px n => return .px n
  | _ => .error (.notPixels value)

/-- Reads one of a property's keywords, with blanks around it. -/
def keyword {α : Type} [Keyword α] (what value : String) : Reading α :=
  match Keyword.read? (Text.trimmed value) with
  | some x => .ok x
  | none => .error (.keyword what (Text.trimmed value))

/-- Reads a font weight: a number, a name, or that of the parent. -/
def fontWeight (value : String) : Reading FontWeight :=
  match Keyword.read? (Text.trimmed value) with
  | some weight => .ok weight
  | none => .error (.unknownWeight value)

/-- The tokens of a call's arguments without its commas, and what follows the call. -/
def splitArguments? : List Token → Option (List Token × List Token)
  | [] => none
  | t :: rest =>
    if t.kind = .close then some ([], rest)
    else
      match splitArguments? rest with
      | some (arguments, after) =>
        some (if t.kind = .comma then arguments else t :: arguments, after)
      | none => none

/-- What follows a call is shorter than what its arguments were read from. -/
theorem length_lt_of_splitArguments? {ts arguments rest : List Token}
    (h : splitArguments? ts = some (arguments, rest)) : rest.length < ts.length := by
  fun_induction splitArguments? ts generalizing arguments rest with
  | case1 => simp at h
  | case2 => simp_all
  | case3 t ts ht given after hgiven ih =>
    obtain ⟨-, rfl⟩ := by simpa using h
    have := ih hgiven
    simp only [List.length_cons]
    omega
  | case4 => simp at h

/-- A distance in pixels; a bare zero will do. -/
def pixelArgument (t : Token) : Reading Binary64 :=
  match t.dimension?, t.number? with
  | some (n, "px"), _ => .ok n
  | _, some n => if n == 0 then .ok 0 else .error (.notPixels t.string)
  | _, _ => .error (.notPixels t.string)

/-- A bare number. -/
def numberArgument (t : Token) : Reading Binary64 :=
  match t.number? with
  | some n => .ok n
  | none => .error (.notNumber t.string)

/-- An angle in degrees; a bare zero will do. -/
def degreeArgument (t : Token) : Reading Binary64 :=
  match t.dimension?, t.number? with
  | some (n, "deg"), _ => .ok n
  | _, some n => if n == 0 then .ok 0 else .error (.notDegrees t.string)
  | _, _ => .error (.notDegrees t.string)

/-- The transform with the parts that one function sets. -/
def transformStep (parts : Transform) (name : String) (arguments : List Token) :
    Reading Transform :=
  match name, arguments with
  | "translate", [x, y] => do
    return { parts with left := ← pixelArgument x, top := ← pixelArgument y }
  | "translate", [x] => do return { parts with left := ← pixelArgument x }
  | "rotate", [angle] => do return { parts with rotate := ← degreeArgument angle }
  | "scale", [x, y] => do
    return { parts with scaleX := ← numberArgument x, scaleY := ← numberArgument y }
  | "scale", [x] => do
    let factor ← numberArgument x
    return { parts with scaleX := factor, scaleY := factor }
  | _, _ => .error (.unsupportedTransform name)

/-- Reads the functions of a transform one after the other. -/
def transformSteps (parts : Transform) : List Token → Reading Transform
  | [] => .ok parts
  | t :: rest =>
    match t.functionName? with
    | none => .error (.notFunction t.string)
    | some name =>
      match _h : splitArguments? rest with
      | none => .error .unterminated
      | some (arguments, after) =>
        match transformStep parts name arguments with
        | .ok parts => transformSteps parts after
        | .error fault => .error fault
termination_by ts => ts.length
decreasing_by
  have := length_lt_of_splitArguments? _h
  simp only [List.length_cons]
  omega

/-- Reads a transform. Parts that no function sets change nothing. -/
def transform (value : String) : Reading Transform := do
  let ts ← tokens value
  if Text.trimmed value = "none" then return .identity
  transformSteps .identity ts

/-- The size of a track: pixels, or one equal share. -/
def trackSize (t : Token) : Reading TrackSize :=
  match t.dimension? with
  | some (n, "fr") => if n == 1 then .ok .auto else .error (.badTrackSize t.string)
  | some (n, "px") => .ok (.px n)
  | _ =>
    if t.kind = .ident ∧ t.string = "auto" then .ok .auto else .error (.badTrackSize t.string)

/-- Reads a grid template of equal tracks. -/
def gridTemplate (value : String) : Reading GridTracks := do
  match ← tokens value with
  | [] => .error .emptyTemplate
  | first :: rest =>
    if first.functionName? ≠ some "repeat" then .error (.notRepeat value)
    match splitArguments? rest with
    | none => .error .unterminated
    | some (_, _ :: _) => .error (.trailingTokens value)
    | some ([count, size], []) =>
      match count.number?.bind (Binary64.toCount? (2 ^ 32 - 1)) with
      | some n => return ⟨UInt32.ofNat n, ← trackSize size⟩
      | none => .error (.badTrackCount count.string)
    | some (_, []) => .error (.notCountAndSize value)

/-- Reads a stacking order. -/
def zIndex (value : String) : Reading Int32 :=
  match Integer.between? (-(2 ^ 31)) (2 ^ 31 - 1) (Text.trim value.toList) with
  | some n => .ok (Int32.ofInt n)
  | none => .error (.notInteger value)

end Value

/-- Why a declaration cannot be read. -/
inductive DeclarationError where
  /-- No property is rendered under the name. -/
  | unknownProperty (name : String)
  /-- The value does not suit the property. -/
  | invalidValue (name : String) (fault : ValueFault)
deriving DecidableEq, Repr

/-- The text of the error. -/
def DeclarationError.message : DeclarationError → String
  | .unknownProperty name => "unknown property: " ++ name
  | .invalidValue name fault => "invalid value for " ++ name ++ ": " ++ fault.message

end Sitework
