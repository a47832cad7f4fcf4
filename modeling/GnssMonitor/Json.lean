import GnssMonitor.Binary64
import GnssMonitor.Text.Encoding

/-! JSON values. Text is kept as code points, integers and floating-point numbers are told
apart, and an object lists each key once, in the order of first appearance. -/

namespace GnssMonitor

inductive Json
  | null
  | bool (b : Bool)
  | int (n : Int)
  | number (x : Binary64)
  | text (s : Text.CodePoints)
  | array (items : List Json)
  | object (fields : List (Text.CodePoints × Json))
  deriving Repr, Inhabited

namespace Json

/-- The name of the kind of a value, as error messages give it. -/
def kindName : Json → String
  | null => "NoneType"
  | bool _ => "bool"
  | int _ => "int"
  | number _ => "float"
  | text _ => "str"
  | array _ => "list"
  | object _ => "dict"

/-- Null, false, zero and whatever is empty count as no value. -/
def isBlank : Json → Bool
  | null => true
  | bool b => !b
  | int n => n == 0
  | number x => x.isZero
  | text s => s.isEmpty
  | array items => items.isEmpty
  | object fields => fields.isEmpty

def lookup (key : Text.CodePoints) : List (Text.CodePoints × Json) → Option Json
  | [] => none
  | (k, v) :: rest => if k = key then some v else lookup key rest

/-- The last value of a repeated key stands, in the place of the first. -/
def insert (key : Text.CodePoints) (value : Json) :
    List (Text.CodePoints × Json) → List (Text.CodePoints × Json)
  | [] => [(key, value)]
  | (k, v) :: rest => if k = key then (k, value) :: rest else (k, v) :: insert key value rest

def field? (key : String) : Json → Option Json
  | object fields => lookup (Text.CodePoints.ofString key) fields
  | _ => none

end Json
end GnssMonitor
