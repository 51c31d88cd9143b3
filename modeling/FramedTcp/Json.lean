import Mathlib.Data.Rat.Floor

/-!
# JSON values

The values of `nlohmann::json`, and the accesses that the function provider makes.  The keys of an
object are found by a search, as in the map that holds its members.
-/

namespace FramedTcp.Rpc

/-- A floating-point number. -/
inductive Double
  | finite (value : ℚ)
  | infinite (negative : Bool)
  | nan
  deriving DecidableEq

/-- A JSON value. -/
inductive Json
  | null
  | boolean (value : Bool)
  | numberInteger (value : Int64)
  | numberUnsigned (value : UInt64)
  | numberFloat (value : Double)
  | string (value : String)
  | array (elements : List Json)
  | object (members : List (String × Json))
  | binary (bytes : List UInt8)
  | discarded

namespace Json

/-- The name of a value's type, as error messages have it. -/
def typeName : Json → String
  | .null => "null"
  | .object _ => "object"
  | .array _ => "array"
  | .string _ => "string"
  | .boolean _ => "boolean"
  | .binary _ => "binary"
  | .discarded => "discarded"
  | .numberInteger _ | .numberUnsigned _ | .numberFloat _ => "number"

/-- The member of an object under a key. -/
def find? (key : String) : Json → Option Json
  | .object members => (members.find? fun member => member.1 = key).map Prod.snd
  | _ => none

/-- Is the value an object with the key? -/
def contains (json : Json) (key : String) : Bool := (json.find? key).isSome

/-- `operator[]` for a key that the object has. -/
def member (json : Json) (key : String) (present : json.contains key = true) : Json :=
  (json.find? key).get present

theorem exists_member_eq {json value : Json} {key : String} (found : json.find? key = some value) :
    ∃ present, json.member key present = value := by
  refine ⟨Option.isSome_iff_exists.mpr ⟨value, found⟩, ?_⟩
  simp only [member, found, Option.get_some]

end Json
end FramedTcp.Rpc
