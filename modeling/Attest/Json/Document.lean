import Attest.Number.Rounding
import Attest.Text.Order

/-!
# JSON documents

A document is null, a truth value, a number, a text, a list of documents or a list of named
documents. Numbers are integers or finite floating-point numbers, and a number of one kind never
equals one of the other. Objects keep their fields as written; the normal form has each key once, in
the order of keys, so that equal objects are equal field by field.
-/

namespace Attest

namespace Json

/-- A number of a document. -/
inductive Number where
  | integer (n : Int)
  | real (x : Number.Floating .double) (finite : x.magnitude < Number.FloatFormat.double.infinity)
deriving DecidableEq

namespace Number

def equal : Json.Number → Json.Number → Bool
  | integer m, integer n => m == n
  | real x _, real y _ => x.equal y
  | _, _ => false

/-- The floating-point number nearest to a number. -/
def nearest (format : Attest.Number.FloatFormat) : Json.Number → Attest.Number.Floating format
  | integer n => .ofInt format n
  | real x _ => if h : .double = format then h ▸ x else x.rounded format

end Number

end Json

inductive Json where
  | null
  | bool (b : Bool)
  | number (n : Json.Number)
  | string (s : String)
  | array (items : List Json)
  | object (fields : List (String × Json))

namespace Json

mutual

/-- Equality of documents, part by part. -/
def equal : Json → Json → Bool
  | null, null => true
  | bool a, bool b => a == b
  | number m, number n => m.equal n
  | string s, string t => s == t
  | array xs, array ys => equalItems xs ys
  | object fs, object gs => equalFields fs gs
  | _, _ => false

def equalItems : List Json → List Json → Bool
  | [], [] => true
  | x :: xs, y :: ys => equal x y && equalItems xs ys
  | _, _ => false

def equalFields : List (String × Json) → List (String × Json) → Bool
  | [], [] => true
  | (k, x) :: fs, (l, y) :: gs => k == l && equal x y && equalFields fs gs
  | _, _ => false

end

/-- Puts a field in its place; a field with the same key gives way. -/
def insertField {α : Type} (key : String) (value : α) :
    List (String × α) → List (String × α)
  | [] => [(key, value)]
  | (k, x) :: fields =>
    match Text.compare key k with
    | .lt => (key, value) :: (k, x) :: fields
    | .eq => (key, value) :: fields
    | .gt => (k, x) :: insertField key value fields

mutual

/-- The document with each key of an object once, in order, with the value written last. -/
def normal : Json → Json
  | array items => array (normalItems items)
  | object fields => object (normalFields fields [])
  | document => document

def normalItems : List Json → List Json
  | [] => []
  | item :: items => normal item :: normalItems items

def normalFields : List (String × Json) → List (String × Json) → List (String × Json)
  | [], done => done
  | (key, value) :: fields, done => normalFields fields (insertField key (normal value) done)

end

/-- The document of a part that may be absent. -/
def option {α : Type} (document : α → Json) : Option α → Json
  | some part => document part
  | none => .null

/-- The text of a document that is a text. -/
def text? : Json → Option String
  | string s => some s
  | _ => none

/-- The value under a key. -/
def field? (key : String) (fields : List (String × Json)) : Option Json :=
  (fields.find? fun field => field.1 == key).map (·.2)

end Json

end Attest
