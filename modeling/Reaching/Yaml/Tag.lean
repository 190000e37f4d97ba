import Reaching.Text.Codes
import Reaching.Yaml.Timestamp
/-!
Tags of YAML values, and the tag that a bare scalar has because of how it is spelled.

The spellings are those of YAML 1.1: truth values are `yes`, `no`, `on`, `off`, `true` and `false`
in lower case, capitalised or in upper case; integers may be binary, octal, hexadecimal or in base
sixty and may hold underscores; nothing at all is the null value.
-/
set_option autoImplicit false

namespace Reaching.Yaml

inductive Tag where
  | null | bool | int | float | binary | timestamp | text | merge | value
  | sequence | mapping | set | orderedMap | pairs
  | foreign
  deriving DecidableEq, Repr

namespace Tag

def standard : String := "tag:yaml.org,2002:"

def all : List (String × Tag) :=
  [("null", null), ("bool", bool), ("int", int), ("float", float), ("timestamp", timestamp),
    ("binary", binary), ("str", text), ("merge", merge), ("value", value), ("seq", sequence),
    ("map", mapping), ("set", set), ("omap", orderedMap), ("pairs", pairs)]

/-- Finds the tag that a full name stands for. -/
def ofName (name : String) : Tag :=
  ((all.find? fun entry => standard ++ entry.1 = name).map Prod.snd).getD .foreign

/-- Gives the ways in which a word of the format may be spelled. -/
def spellings (word : String) : List (List Char) :=
  let cs := word.toList
  [cs, (cs.take 1).map Char.toUpper ++ cs.drop 1, cs.map Char.toUpper]

def isSpelled (words : List String) (cs : List Char) : Bool :=
  words.any fun word => (spellings word).contains cs

def trueWords : List String := ["yes", "true", "on"]

def falseWords : List String := ["no", "false", "off"]

def isBool (cs : List Char) : Bool := isSpelled (trueWords ++ falseWords) cs

def isNull (cs : List Char) : Bool := cs.isEmpty || cs = ['~'] || isSpelled ["null"] cs

def unsigned : List Char → List Char
  | '-' :: rest => rest
  | '+' :: rest => rest
  | cs => cs

def isDigitOrGap (c : Char) : Bool := c.isDigit || c = '_'

def isHex (c : Char) : Bool :=
  c.isDigit || 'a' ≤ c && c ≤ 'f' || 'A' ≤ c && c ≤ 'F' || c = '_'

/-- Tells whether digits, gaps allowed, start with a digit. -/
def isGrouped : List Char → Bool
  | [] => false
  | c :: rest => c.isDigit && rest.all isDigitOrGap

/-- Tells whether a part of a number in base sixty is below sixty. -/
def isSixtieth : List Char → Bool
  | [c] => c.isDigit
  | [a, b] => '0' ≤ a && a ≤ '5' && b.isDigit
  | _ => false

/-- Cuts a list at every mark. -/
def splitOn {α : Type} [DecidableEq α] (mark : α) (cs : List α) : List (List α) :=
  cs.foldr (fun c parts =>
    if c = mark then [] :: parts
    else match parts with
      | [] => [[c]]
      | part :: rest => (c :: part) :: rest) [[]]

def isInt (cs : List Char) : Bool :=
  match unsigned cs with
  | ['0'] => true
  | '0' :: 'b' :: rest => !rest.isEmpty && rest.all fun c => c = '0' || c = '1' || c = '_'
  | '0' :: 'x' :: rest => !rest.isEmpty && rest.all isHex
  | '0' :: rest => rest.all fun c => '0' ≤ c && c ≤ '7' || c = '_'
  | digits =>
    match splitOn ':' digits with
    | first :: parts => isGrouped first && parts.all isSixtieth
    | [] => false

def isExponent : List Char → Bool
  | [] => true
  | e :: sign :: digits =>
    (e = 'e' || e = 'E') && (sign = '+' || sign = '-') && !digits.isEmpty && digits.all Char.isDigit
  | _ => false

def isFraction (cs : List Char) : Bool := isExponent (cs.dropWhile isDigitOrGap)

def isFloat (cs : List Char) : Bool :=
  let digits := unsigned cs
  let whole := digits.takeWhile (· ≠ '.')
  match digits.dropWhile (· ≠ '.') with
  | [] => false
  | _ :: rest =>
    if whole.isEmpty then
      isSpelled ["inf"] rest || digits = cs &&
        (["nan", "NaN", "NAN"].contains (String.ofList rest) ||
          isGrouped (rest.take 1) && isFraction rest)
    else match splitOn ':' whole with
      | [first] => isGrouped first && isFraction rest
      | first :: parts =>
        isGrouped first && parts.all isSixtieth && rest.all isDigitOrGap
      | [] => false

/-- Tells whether a text is a mark that has a meaning of its own in the format. -/
def isMark (cs : List Char) : Bool :=
  cs = ['!'] || cs = ['&'] || cs = ['*']

/-- Finds the tag of the characters of a bare scalar. -/
def ofSpelling (cs : List Char) : Tag :=
  if isBool cs then .bool
  else if isFloat cs then .float
  else if isInt cs then .int
  else if cs = ['<', '<'] then .merge
  else if isNull cs then .null
  else if Timestamp.isSpelled cs then .timestamp
  else if cs = ['='] then .value
  else if isMark cs then .foreign
  else .text

/-- Leaves out one newline at the end of a text that holds something else. -/
def withoutNewline (cs : List Char) : List Char :=
  match cs.reverse with
  | '\n' :: c :: before => (c :: before).reverse
  | _ => cs

/-- Finds the tag of a scalar that is read as a bare one. -/
def ofBare (text : Text.Codes) : Tag :=
  match text.chars? with
  | some cs => ofSpelling (withoutNewline cs)
  | none => .text

end Tag

end Reaching.Yaml
