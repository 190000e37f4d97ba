import Reaching.Number.Shortest
import Reaching.Text.Numeral
import Reaching.Yaml.Timestamp
/-!
The data of a YAML text. A value is either complete in itself or a collection; collections may
contain one another and themselves, so they stand in a store and are named by their numbers in it.

Keys are one if their `Item.identity` is one: numbers and truth values count by their exact value,
moments with an offset by the instant that they name, everything else by kind and content.
`Value.shown` is the form in which messages quote data, in which a collection that is shown already
is left out inside of itself.
-/
set_option autoImplicit false

namespace Reaching.Yaml

open Number (Binary64)
open Text (Codes Unwritable)

/-- A value as it stands in a collection. A number with a fraction may tell the node that it was
read from, because two undefined numbers are one only if they come from one place. -/
inductive Item where
  | null
  | bool (value : Bool)
  | int (value : Int)
  | float (value : Binary64) (origin : Option Nat)
  | bytes (value : List UInt8)
  | time (value : Timestamp)
  | text (value : Codes)
  | collection (number : Nat)
  deriving DecidableEq, Repr, Inhabited

inductive Collection where
  | list (items : List Item)
  | table (entries : List (Item × Item))
  | set (members : List Item)
  | pairs (entries : List (Item × Item))
  deriving DecidableEq, Repr, Inhabited

/-- What makes two keys one. -/
inductive Identity where
  | null
  | number (value : Int)
  | fraction (value : Binary64)
  | undefined (origin : Option Nat)
  | bytes (value : List UInt8)
  | time (value : Timestamp)
  | instant (micros : Int)
  | text (value : Codes)
  | collection (number : Nat)
  deriving DecidableEq, Repr

namespace Item

def identity : Item → Identity
  | null => .null
  | bool b => .number (if b then 1 else 0)
  | int n => .number n
  | float value origin =>
    match value.toInt? with
    | some n => .number n
    | none => if value = .undefined then .undefined origin else .fraction value
  | bytes value => .bytes value
  | time value =>
    match value.instant? with
    | some micros => .instant micros
    | none => .time value
  | text value => .text value
  | collection number => .collection number

/-- A collection cannot be a key. -/
def isCollection : Item → Bool
  | collection _ => true
  | _ => false

end Item

/-- Stores an entry: a key that is present keeps its place and takes the new value. -/
def store (key value : Item) : List (Item × Item) → List (Item × Item)
  | [] => [(key, value)]
  | (head, old) :: rest =>
    if head.identity = key.identity then (head, value) :: rest
    else (head, old) :: store key value rest

namespace Collection

def isEmpty : Collection → Bool
  | list items => items.isEmpty
  | table entries => entries.isEmpty
  | set members => members.isEmpty
  | pairs entries => entries.isEmpty

/-- Stands for a collection inside of itself. -/
def leftOut : Collection → String
  | table _ => "\x7b...\x7d"
  | _ => "[...]"

end Collection

structure Value where
  collections : Array Collection
  item : Item

namespace Value

def collectionAt (collections : Array Collection) (number : Nat) : Collection :=
  collections[number]?.getD (.list [])

def listed (opening : String) (parts : List String) (closing : String) : String :=
  opening ++ ", ".intercalate parts ++ closing

def plainShown : Item → Except Unwritable String
  | .null => .ok "None"
  | .bool true => .ok "True"
  | .bool false => .ok "False"
  | .int n => Text.writeInteger? n
  | .float value _ => .ok value.shown
  | .bytes value => .ok (Text.quotedBytes value)
  | .time value => .ok value.shown
  | .text value => .ok (Text.quotedCodes value)
  | .collection _ => .ok ""

/-- Shows an item inside of the collections `around`, of which the fuel bounds the number. -/
def shownIn (collections : Array Collection) :
    Nat → List Nat → Item → Except Unwritable String
  | 0, _, item => plainShown item
  | fuel + 1, around, .collection number => do
    let collection := collectionAt collections number
    let shown := shownIn collections fuel (number :: around)
    if around.contains number then return collection.leftOut
    match collection with
    | .list items => return listed "[" (← items.mapM shown) "]"
    | .table entries =>
      let parts ← entries.mapM fun (key, value) => do
        return (← shown key) ++ ": " ++ (← shown value)
      return listed "\x7b" parts "\x7d"
    | .set [] => return "set()"
    | .set members => return listed "\x7b" (← members.mapM shown) "\x7d"
    | .pairs entries =>
      let parts ← entries.mapM fun (key, value) => do
        return listed "(" [← shown key, ← shown value] ")"
      return listed "[" parts "]"
  | _, _, item => plainShown item

def shown (value : Value) : Except Unwritable String :=
  shownIn value.collections (value.collections.size + 1) [] value.item

/-- Gives the plain form of a value, in which texts and times stand as they are written. -/
def plain (value : Value) : Except Unwritable Codes :=
  match value.item with
  | .text codes => .ok codes
  | .time timestamp => .ok (.ofString timestamp.plain)
  | _ => value.shown.map .ofString

/-- Tells whether a value stands for nothing: no value, false, zero or something empty. -/
def isBlank (value : Value) : Bool :=
  match value.item with
  | .null => true
  | .bool b => !b
  | .int n => n = 0
  | .float number _ => number.isZero
  | .bytes bytes => bytes.isEmpty
  | .time _ => false
  | .text codes => codes.isEmpty
  | .collection number => (collectionAt value.collections number).isEmpty

end Value

end Reaching.Yaml
