import SourceSurvey.Layout.ColourTable
import SourceSurvey.Text.Lower
import SourceSurvey.Value.Number

/-!
# Styles

A style says how text looks: attributes such as `bold`, each set or unset, a colour, a colour behind
the text, and a link.  A style is written as words in any order; its name puts them into a fixed
order, so two texts for the same style have the same name.

* `isColour`: the colours, by name, number or components;
* `Style.read`, `Style.name`;
* `styleName`: the name of the style that a text stands for.
-/

namespace SourceSurvey.Layout

/-- The attributes of a style, in the order in which a name has them. -/
def attributeNames : List String :=
  ["bold", "dim", "italic", "underline", "blink", "blink2", "reverse", "conceal", "strike",
    "underline2", "frame", "encircle", "overline"]

/-- Short words for attributes and what they stand for. -/
def shortNames : List (String × String) :=
  [("b", "bold"), ("d", "dim"), ("i", "italic"), ("u", "underline"), ("r", "reverse"),
    ("c", "conceal"), ("s", "strike"), ("uu", "underline2"), ("o", "overline")]

/-- The attribute that a word stands for. -/
def attribute? (word : String) : Option String :=
  if attributeNames.contains word then some word else shortNames.lookup word

/-- The inside of a word such as `rgb(…)`: what stands between the opening text and a parenthesis at
the end. -/
def inside? (opening : String) (word : List Char) : Option (List Char) :=
  if opening.toList.isPrefixOf word && word.getLast? = some ')' then
    some ((word.drop opening.length).dropLast)
  else none

/-- Whether a word gives a colour by its six hexadecimal digits. -/
def isHexColour : List Char → Bool
  | '#' :: digits => digits.length = 6 && digits.all fun c => c.isDigit || ('a' ≤ c && c ≤ 'f')
  | _ => false

/-- Whether a text is the number of a colour: one to three digits, and at most 255. -/
def isColourNumber (digits : List Char) : Bool :=
  digits.all Char.isDigit && 1 ≤ digits.length && digits.length ≤ 3 &&
    Text.ofDigits (digits.filterMap Text.asciiDigit?) ≤ 255

/-- The parts of a list at its commas. -/
def partsAtCommas : List Char → List (List Char)
  | [] => [[]]
  | c :: rest =>
    match partsAtCommas rest with
    | [] => [[c]]
    | part :: others => if c = ',' then [] :: part :: others else (c :: part) :: others

/-- Whether a text has the components of a colour: three numbers of at most 255 with commas between
them.  A component without digits is misused, not refused. -/
def areComponents (text : List Char) : Except Misuse Bool :=
  if text.isEmpty || !text.all fun c => c = ',' || (Text.digitValue? c).isSome then .ok false
  else
    match partsAtCommas text with
    | [red, green, blue] => do
      let values ← [red, green, blue].mapM fun part => integerOfText (String.ofList part)
      return values.all (· ≤ 255)
    | _ => .ok false

/-- Whether a word in small letters is a colour. -/
def isColour (word : String) : Except Misuse Bool :=
  let cs := word.toList
  if word = "default" || colourNames.contains word || isHexColour cs then .ok true
  else
    match inside? "color(" cs, inside? "rgb(" cs with
    | some digits, _ => .ok (isColourNumber digits)
    | none, some components => areComponents components
    | none, none => .ok false

/-- A style. -/
structure Style where
  attributes : List (String × Bool)
  colour : Option String
  behind : Option String
  link : Option String
  deriving DecidableEq

namespace Style

/-- The style that changes nothing. -/
def plain : Style := ⟨[], none, none, none⟩

/-- A style with an attribute set or unset. -/
def withAttribute (s : Style) (name : String) (on : Bool) : Style :=
  { s with attributes := (name, on) :: s.attributes }

/-- The words of an attribute in the name of a style. -/
def attributeWords (s : Style) (name : String) : List String :=
  match s.attributes.lookup name with
  | none => []
  | some true => [name]
  | some false => ["not", name]

/-- The name of a style. -/
def name (s : Style) : String :=
  let words := attributeNames.flatMap s.attributeWords ++ s.colour.toList ++
    (s.behind.toList.flatMap fun c => ["on", c]) ++ s.link.toList.flatMap fun l => ["link", l]
  if words.isEmpty then "none" else String.intercalate " " words

/-- Adds words to a style; none when they are no style. -/
def read (s : Style) : List String → Except Misuse (Option Style)
  | [] => .ok (some s)
  | first :: rest =>
    match Text.lowered first, rest with
    | "on", [] | "not", [] | "link", [] => .ok none
    | "on", colour :: rest => do
      let colour := Text.lowered colour
      if ← isColour colour then read { s with behind := some colour } rest else return none
    | "not", word :: rest =>
      match attribute? word with
      | some name => read (s.withAttribute name false) rest
      | none => .ok none
    | "link", link :: rest => read { s with link := some link } rest
    | word, rest =>
      match attribute? word with
      | some name => read (s.withAttribute name true) rest
      | none => do if ← isColour word then read { s with colour := some word } rest else return none

end Style

/-- The words of a text. -/
def wordsOf (text : List Char) : List String :=
  ((text.splitBy fun a b => Text.isBlank a == Text.isBlank b).filter fun word =>
    !word.all Text.isBlank).map String.ofList

/-- The style that a text stands for. -/
def styleOf (text : List Char) : Except Misuse (Option Style) :=
  match wordsOf text with
  | ["none"] => .ok (some .plain)
  | words => Style.plain.read words

/-- The name of the style that a text stands for; a text that is no style is its own name, in small
letters. -/
def styleName (text : List Char) : Except Misuse String := do
  match ← styleOf text with
  | some style => return style.name
  | none => return String.ofList (Text.lower (Text.trim text))

end SourceSurvey.Layout
