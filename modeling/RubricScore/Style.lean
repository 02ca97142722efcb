/-!
# Styled text

Text for a terminal, with or without colours. A style stands around a text, between its code and the
code that ends all styles.
-/

namespace RubricScore

/-- A way to show text. -/
inductive Style where
  /-- Heavy. -/
  | bold
  /-- Faint. -/
  | dim
  /-- Red. -/
  | red
  /-- Green. -/
  | green
  /-- Yellow. -/
  | yellow
  /-- Cyan. -/
  | cyan
deriving DecidableEq

/-- Number of a style in its code. -/
def Style.code : Style → String
  | .bold => "1"
  | .dim => "2"
  | .red => "31"
  | .green => "32"
  | .yellow => "33"
  | .cyan => "36"

/-- A text in a style, if colours are on. -/
def Style.apply (style : Style) (colors : Bool) (text : String) : String :=
  if colors then "\x1b[" ++ style.code ++ "m" ++ text ++ "\x1b[0m" else text

/-- The text and a line end. -/
def line (text : String) : String :=
  text ++ "\n"

/-- The line above and below headings, and at the end of summaries. -/
def rule (colors : Bool) : String :=
  Style.dim.apply colors (String.ofList (List.replicate 70 '='))

/-- A heading: a blank line, and the title between two rules. -/
def heading (colors : Bool) (title : String) : String :=
  line "" ++ line (rule colors) ++ line (Style.bold.apply colors title) ++ line (rule colors)

end RubricScore
