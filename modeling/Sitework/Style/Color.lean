import Sitework.Number.Hex
import Sitework.Number.Single
import Sitework.Style.ColorName
import Sitework.Text.Blank
import Sitework.Text.Split

/-!
# Colors

A color text is a keyword, hexadecimal digits with or without a hash, or a call of a color
function. Reading gives four channels of 32-bit numbers; writing rounds each channel to a byte and
gives lower-case hexadecimal digits, without the opacity of an opaque color.
-/

namespace Sitework

/-- A color as four channels between zero and one. -/
structure Color where
  red : Float32
  green : Float32
  blue : Float32
  alpha : Float32

/-- Why a text is no color. -/
inductive ColorError where
  /-- A hash is not followed by three, four, six or eight hexadecimal digits. -/
  | hex
  /-- The function is unknown, or has too few or too many arguments or an unreadable opacity. -/
  | function
  /-- The channels of a function are unreadable; the function's space is named. -/
  | channels (space : String)
  /-- The text is neither digits nor a keyword. -/
  | unknown
deriving DecidableEq, Repr

/-- The text of the cause. -/
def ColorError.message : ColorError → String
  | .hex => "invalid hex format"
  | .function => "invalid color function"
  | .channels space => "invalid " ++ space ++ " format"
  | .unknown => "invalid unknown format"

namespace Color

/-- A channel as a byte: scaled, rounded half up and kept within range. -/
def byte (x : Float32) : UInt8 :=
  (x * 255 + 0.5).toUInt8

/-- The color of four bytes. -/
def ofBytes (red green blue alpha : UInt8) : Color :=
  let channel (b : UInt8) : Float32 := b.toFloat32 / 255
  ⟨channel red, channel green, channel blue, channel alpha⟩

/-- Two lower-case hexadecimal digits. -/
def hexByte (b : UInt8) : List Char :=
  [Hex.digit (b.toNat / 16), Hex.digit b.toNat]

/-- The normal form of a color. -/
def css (c : Color) : String :=
  let channels := hexByte (byte c.red) ++ hexByte (byte c.green) ++ hexByte (byte c.blue)
  let alpha := byte c.alpha
  String.ofList ('#' :: (if alpha = 255 then channels else channels ++ hexByte alpha))

/-- A byte of one digit, written twice. -/
def doubled? (c : Char) : Option UInt8 :=
  (Hex.value? c).map fun n => UInt8.ofNat (17 * n)

/-- A byte of two digits; a plus sign may take the place of the first one. -/
def paired? (a b : Char) : Option UInt8 :=
  if a = '+' then (Hex.value? b).map UInt8.ofNat
  else do return UInt8.ofNat ((← Hex.value? a) * 16 + (← Hex.value? b))

/-- A color of three, four, six or eight hexadecimal digits. -/
def ofHex? : List Char → Option Color
  | [r, g, b] => do return ofBytes (← doubled? r) (← doubled? g) (← doubled? b) 255
  | [r, g, b, a] => do return ofBytes (← doubled? r) (← doubled? g) (← doubled? b) (← doubled? a)
  | [r, r', g, g', b, b'] => do
    return ofBytes (← paired? r r') (← paired? g g') (← paired? b b') 255
  | [r, r', g, g', b, b', a, a'] => do
    return ofBytes (← paired? r r') (← paired? g g') (← paired? b b') (← paired? a a')
  | _ => none

/-- A share: a percentage, or a plain number divided by `whole`. Tells which of the two it is. -/
def share? (whole : Float32) (cs : List Char) : Option (Float32 × Bool) :=
  match (Text.before? ['%'] cs).bind Single.read? with
  | some x => some (x / 100, true)
  | none => (Single.read? cs).map fun x => (x / whole, false)

/-- What comes before a unit of angles, in any case. -/
def beforeUnit? (unit : String) (cs : List Char) : Option (List Char) :=
  if Text.lower (cs.drop (cs.length - unit.length)) = unit.toList then
    some (cs.take (cs.length - unit.length))
  else none

/-- The degrees in a radian. -/
def degreesPerRadian : Float32 := 57.2957795130823208767981548141051703

/-- The radians in a degree. -/
def radiansPerDegree : Float32 := 3.14159265358979323846264338327950288 / 180

/-- An angle in degrees: bare, or with a unit. -/
def angle? (cs : List Char) : Option Float32 :=
  let measured (unit : String) : Option Float32 := (beforeUnit? unit cs).bind Single.read?
  measured "deg" <|> (measured "grad").map (· * 360 / 400) <|>
    (measured "rad").map (· * degreesPerRadian) <|> (measured "turn").map (· * 360) <|>
    Single.read? cs

/-- The place of a number in a cycle from zero up to `period`. The period is added before the
remainder is taken a second time, so a small place is rounded as its sum with the period is. -/
def cyclic (x : Float32) (period : Nat) : Float32 :=
  Single.remainder (Single.remainder x period + Float32.ofNat period) period

/-- The angle within one turn. -/
def withinTurn (angle : Float32) : Float32 :=
  cyclic angle 360

/-- A channel of a hue that is `h` sixths of a turn away, between two levels. -/
def hueLevel (low high h : Float32) : Float32 :=
  let h := cyclic h 6
  if h < 1 then low + (high - low) * h
  else if h < 3 then high
  else if h < 4 then low + (high - low) * (4 - h)
  else low

/-- The channels of a hue in degrees, a saturation and a lightness. -/
def ofHsl (hue saturation lightness alpha : Float32) : Color :=
  if saturation == 0 then ⟨lightness, lightness, lightness, alpha⟩
  else
    let high :=
      if lightness < 0.5 then lightness * (1 + saturation)
      else lightness + saturation - lightness * saturation
    let low := 2 * lightness - high
    let h := hue / 60
    ⟨hueLevel low high (h + 2), hueLevel low high h, hueLevel low high (h - 2), alpha⟩

/-- The channels of a hue in degrees, a saturation and a value. -/
def ofHsv (hue saturation value alpha : Float32) : Color :=
  let lightness := (2 - saturation) * value / 2
  let saturation :=
    if lightness == 0 then saturation
    else if lightness == 1 then 0
    else if lightness < 0.5 then saturation * value / (lightness * 2)
    else saturation * value / (2 - lightness * 2)
  ofHsl hue saturation lightness alpha

/-- The channels of a hue in degrees, mixed with white and black. -/
def ofHwb (hue white black alpha : Float32) : Color :=
  if 1 ≤ white + black then
    let level := white / (white + black)
    ⟨level, level, level, alpha⟩
  else
    let pure := ofHsl hue 1 0.5 alpha
    let mix (x : Float32) : Float32 := x * (1 - white - black) + white
    ⟨mix pure.red, mix pure.green, mix pure.blue, alpha⟩

/-- The channel of a linear intensity. -/
def ofLinear (x : Float32) : Float32 :=
  if 0.0031308 ≤ x then 1.055 * Float32.pow x (1 / 2.4) - 0.055 else 12.92 * x

/-- The channels of a lightness and two opponent axes. -/
def ofOklab (lightness a b alpha : Float32) : Color :=
  let cube (x : Float32) : Float32 := x * (x * x)
  let l := cube (lightness + 0.3963377774 * a + 0.2158037573 * b)
  let m := cube (lightness - 0.1055613458 * a - 0.0638541728 * b)
  let s := cube (lightness - 0.0894841775 * a - 1.2914855480 * b)
  ⟨ofLinear (4.0767416621 * l - 3.3077115913 * m + 0.2309699292 * s),
    ofLinear (-1.2684380046 * l + 2.6097574011 * m - 0.3413193965 * s),
    ofLinear (-0.0041960863 * l - 0.7034186147 * m + 1.7076147010 * s), alpha⟩

/-- A number that is not below zero. -/
def atLeastZero (x : Float32) : Float32 :=
  if 0 < x then x else 0

/-- The color of red, green and blue, which are all percentages or all numbers up to 255. -/
def callRgb? (x y z : List Char) (alpha : Float32) : Option Color := do
  let (red, redPercent) ← share? 255 x
  let (green, greenPercent) ← share? 255 y
  let (blue, bluePercent) ← share? 255 z
  if redPercent = greenPercent ∧ greenPercent = bluePercent then
    some ⟨Single.clamp red, Single.clamp green, Single.clamp blue, alpha⟩
  else none

/-- The color of a hue and two shares, which are both percentages or both plain. -/
def callHue? (convert : Float32 → Float32 → Float32 → Float32 → Color) (x y z : List Char)
    (alpha : Float32) : Option Color := do
  let hue ← angle? x
  let (second, secondPercent) ← share? 1 y
  let (third, thirdPercent) ← share? 1 z
  if secondPercent = thirdPercent then
    some (convert (withinTurn hue) (Single.clamp second) (Single.clamp third) alpha)
  else none

/-- The color of a lightness and two opponent axes. -/
def callOklab? (x y z : List Char) (alpha : Float32) : Option Color := do
  let (lightness, _) ← share? 1 x
  let axis (value : Float32 × Bool) : Float32 :=
    if value.2 then (value.1 + 1) * (0.8 / 2) - 0.4 else value.1
  return ofOklab (atLeastZero lightness) (axis (← share? 1 y)) (axis (← share? 1 z)) alpha

/-- The color of a lightness, a chroma and a hue. -/
def callOklch? (x y z : List Char) (alpha : Float32) : Option Color := do
  let (lightness, _) ← share? 1 x
  let (chroma, percent) ← share? 1 y
  let hue := (← angle? z) * radiansPerDegree
  let chroma := atLeastZero (if percent then chroma * 0.4 else chroma)
  return ofOklab (atLeastZero lightness) (chroma * hue.cos) (chroma * hue.sin) alpha

/-- The color of a function and its three channel texts. -/
def call (name : String) (x y z : List Char) (alpha : Float32) : Except ColorError Color :=
  let checked (space : String) : Option Color → Except ColorError Color
    | some color => .ok color
    | none => .error (.channels space)
  if name = "rgb" ∨ name = "rgba" then checked "rgb" (callRgb? x y z alpha)
  else if name = "hwb" ∨ name = "hwba" then checked "hwb" (callHue? ofHwb x y z alpha)
  else if name = "hsl" ∨ name = "hsla" then checked "hsl" (callHue? ofHsl x y z alpha)
  else if name = "hsv" ∨ name = "hsva" then checked "hsv" (callHue? ofHsv x y z alpha)
  else if name = "oklab" then checked "oklab" (callOklab? x y z alpha)
  else if name = "oklch" then checked "oklch" (callOklch? x y z alpha)
  else .error .function

/-- Characters between the arguments of a color function. -/
def separatesArguments (c : Char) : Bool :=
  c == ',' || c == '/' || c == ' ' || c == '\t' || c == '\n' || c == '\r' || c == '\x0c'

/-- The color of a function name and the text between its parentheses. The opacity is an optional
fourth argument. -/
def ofCall (name arguments : List Char) : Except ColorError Color :=
  let name := String.ofList (Text.lower (Text.trimRight name))
  match (Text.splitBy separatesArguments arguments).filter (· ≠ []) with
  | [x, y, z] => call name x y z 1
  | [x, y, z, alpha] =>
    match share? 1 alpha with
    | some (alpha, _) => call name x y z (Single.clamp alpha)
    | none => .error .function
  | _ => .error .function

/-- The name and the arguments of a text that has the form of a call. -/
def splitCall? (cs : List Char) : Option (List Char × List Char) := do
  let (name, rest) ← Text.breakOn? '(' cs
  return (name, ← Text.before? [')'] rest)

/-- The color of a text without blanks around it. -/
def ofTrimmed (cs : List Char) : Except ColorError Color :=
  if String.ofList (Text.lower cs) = "transparent" then .ok ⟨0, 0, 0, 0⟩
  else
    match Text.after? ['#'] cs with
    | some digits =>
      match ofHex? digits with
      | some color => .ok color
      | none => .error .hex
    | none =>
      match splitCall? cs with
      | some (name, arguments) => ofCall name arguments
      | none =>
        match ofHex? cs, named? (String.ofList (Text.lower cs)) with
        | some color, _ => .ok color
        | none, some (red, green, blue) => .ok (ofBytes red green blue 255)
        | none, none => .error .unknown

/-- The color that a text denotes. -/
def parse (text : String) : Except ColorError Color :=
  ofTrimmed (Text.trim text.toList)

end Color

end Sitework
