/-!
# Styles of terminal text

A piece of text is shown in a style by control sequences around it.
-/

namespace GroupedReport.Text

inductive Style where
  | boldRed
  | boldYellow
  | boldGreen
  | blue
  | cyan
  | dimmed
  | bold
deriving DecidableEq, Repr

def Style.parameters : Style → String
  | boldRed => "1;31"
  | boldYellow => "1;33"
  | boldGreen => "1;32"
  | blue => "34"
  | cyan => "36"
  | dimmed => "2"
  | bold => "1"

def Style.start (style : Style) : List Char :=
  '\x1b' :: '[' :: style.parameters.toList ++ ['m']

def styleEnd : List Char := ['\x1b', '[', '0', 'm']

/-- A text in which the style begins again behind every sequence that ends it. -/
def Style.resume (style : Style) : List Char → List Char
  | '\x1b' :: '[' :: '0' :: 'm' :: rest => styleEnd ++ style.start ++ style.resume rest
  | character :: rest => character :: style.resume rest
  | [] => []

def Style.paint (style : Style) (colors : Bool) (text : String) : String :=
  if colors then .ofList (style.start ++ style.resume text.toList ++ styleEnd) else text

end GroupedReport.Text
