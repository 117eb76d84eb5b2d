import DebugConsole.Number.Rounding
import DebugConsole.Text.AsciiCase

/-!
# Colors

A color is three coordinates in some space of colors, and its opacity. Commands name the sixteen colors of a fixed vocabulary, which
are all in the sRGB space; a name that is not in it stands for green.
-/

namespace DebugConsole

/-- A space of colors. -/
inductive ColorSpace
  | srgb | linearRgb | hsl | hsv | hwb | lab | lch | oklab | oklch | xyz
deriving DecidableEq, Repr, Inhabited

namespace ColorSpace

/-- The spaces, in the order in which they are listed. -/
def all : List ColorSpace :=
  [srgb, linearRgb, hsl, hsv, hwb, lab, lch, oklab, oklch, xyz]

/-- The name under which the colors of the space are written down. -/
def name : ColorSpace → String
  | srgb => "Srgba"
  | linearRgb => "LinearRgba"
  | hsl => "Hsla"
  | hsv => "Hsva"
  | hwb => "Hwba"
  | lab => "Laba"
  | lch => "Lcha"
  | oklab => "Oklaba"
  | oklch => "Oklcha"
  | xyz => "Xyza"

/-- The names of the three coordinates of the space. -/
def coordinates : ColorSpace → String × String × String
  | srgb | linearRgb => ("red", "green", "blue")
  | hsl => ("hue", "saturation", "lightness")
  | hsv => ("hue", "saturation", "value")
  | hwb => ("hue", "whiteness", "blackness")
  | lab | oklab => ("lightness", "a", "b")
  | lch | oklch => ("lightness", "chroma", "hue")
  | xyz => ("x", "y", "z")

/-- The names of the components of a color, in the order in which they are written down. -/
def components (s : ColorSpace) : List String :=
  let (first, second, third) := s.coordinates
  [first, second, third, "alpha"]

/-- The spaces with their names. -/
def named : List (String × ColorSpace) :=
  all.map fun s => (s.name, s)

/-- A space is found under its name. -/
@[simp]
theorem lookup_name (s : ColorSpace) : named.lookup s.name = some s := by
  cases s <;> decide

/-- No two components of a color have the same name. -/
theorem nodup_components (s : ColorSpace) : s.components.Nodup := by
  cases s <;> decide

end ColorSpace

/-- A color in some space, with its opacity. -/
structure Color where
  space : ColorSpace
  first : Single
  second : Single
  third : Single
  alpha : Single
deriving DecidableEq, Repr, Inhabited

/-- The components of a color with their names. -/
def Color.components (c : Color) : List (String × Single) :=
  c.space.components.zip [c.first, c.second, c.third, c.alpha]

@[simp]
theorem Color.names_components (c : Color) : c.components.map (·.1) = c.space.components :=
  List.map_fst_zip (Nat.le_refl 4)

/-- A color of the vocabulary. -/
inductive ColorName
  | black | blue | brown | cyan | darkGray | darkText | gray | green
  | lightGray | lightText | magenta | orange | purple | red | white | yellow
deriving DecidableEq, Repr

namespace ColorName

/-- The vocabulary, in the order in which it is listed. -/
def all : List ColorName :=
  [black, blue, brown, cyan, darkGray, darkText, gray, green, lightGray, lightText, magenta, orange, purple, red, white, yellow]

theorem mem_all (n : ColorName) : n ∈ all := by
  cases n <;> decide

/-- The name as it is typed. -/
def text : ColorName → String
  | black => "black"
  | blue => "blue"
  | brown => "brown"
  | cyan => "cyan"
  | darkGray => "darkgray"
  | darkText => "darktext"
  | gray => "gray"
  | green => "green"
  | lightGray => "lightgray"
  | lightText => "lighttext"
  | magenta => "magenta"
  | orange => "orange"
  | purple => "purple"
  | red => "red"
  | white => "white"
  | yellow => "yellow"

/-- The opaque color with the given red, green and blue. -/
def opaqueColor (red green blue : Single) : Color :=
  ⟨.srgb, red, green, blue, Single.one⟩

/-- The color with the same red, green and blue. -/
def level (x : Single) : Color :=
  opaqueColor x x x

/-- The color that is drawn for a name. -/
def color : ColorName → Color
  | black | darkText => level Single.zero
  | white => level Single.one
  | gray => level (Single.ofRatio false 1 2)
  | darkGray => level (Single.ofRatio false 1 3)
  | lightGray => level (Single.ofRatio false 2 3)
  | lightText => ⟨.srgb, Single.one, Single.one, Single.one, Single.ofRatio false 3 5⟩
  | red => opaqueColor Single.one Single.zero Single.zero
  | green => opaqueColor Single.zero Single.one Single.zero
  | blue => opaqueColor Single.zero Single.zero Single.one
  | cyan => opaqueColor Single.zero Single.one Single.one
  | magenta => opaqueColor Single.one Single.zero Single.one
  | yellow => opaqueColor Single.one Single.one Single.zero
  | orange => opaqueColor Single.one (Single.ofRatio false 1 2) Single.zero
  | purple => opaqueColor (Single.ofRatio false 1 2) Single.zero (Single.ofRatio false 1 2)
  | brown => opaqueColor (Single.ofRatio false 3 5) (Single.ofRatio false 2 5) (Single.ofRatio false 1 5)

/-- The color that stands in for unknown names. -/
def fallback : ColorName := green

/-- The name in the vocabulary that a text spells, up to the case of A to Z. -/
def find? (s : String) : Option ColorName :=
  all.find? fun n => Text.sameName n.text s

/-- The name that a text spells, or the one that stands in for it. -/
def ofText (s : String) : ColorName :=
  (find? s).getD fallback

end ColorName

end DebugConsole
