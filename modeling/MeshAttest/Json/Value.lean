import MeshAttest.Json.Binary64
import MeshAttest.Text.CodePoint

/-!
# JSON values

A JSON value keeps integers apart from numbers with a fraction or an exponent, which are binary64,
and strings that are no text apart from those that are one. An object is the list of its entries,
each key once, in the order in which the keys first appeared. Its keys are texts: in a key, half of
a surrogate pair is shown as the replacement character. None of the keys that values are looked up
by has one.
-/

set_option autoImplicit false

namespace MeshAttest

/-- A JSON value. -/
inductive Json where
  | null
  | bool (value : Bool)
  | integer (value : Int)
  | float (value : Binary64)
  | string (value : String)
  /-- A string that is no text. -/
  | halved (value : HalvedText)
  | array (items : List Json)
  | object (entries : List (String × Json))

namespace Json

instance : Inhabited Json := ⟨.null⟩

/-- The value of a string. -/
def ofRawText : RawText → Json
  | .text chars => .string chars
  | .halved points => .halved points

/-- The string that a value is, if it is one. -/
def rawText? : Json → Option RawText
  | .string value => some (.text value)
  | .halved value => some (.halved value)
  | _ => none

/-- Whether a value is a string. -/
def isString (value : Json) : Bool := value.rawText?.isSome

/-- The value that entries have for a key. -/
def lookup? (key : String) : List (String × Json) → Option Json
  | [] => none
  | (other, value) :: rest => if other = key then some value else lookup? key rest

/-- Entries with one more: the value of a key that is there already is replaced. -/
def put (key : String) (value : Json) : List (String × Json) → List (String × Json)
  | [] => [(key, value)]
  | (other, old) :: rest =>
    if other = key then (key, value) :: rest else (other, old) :: put key value rest

/-- The value that an object has for a key; other values have none. -/
def get? : Json → String → Option Json
  | .object entries, key => lookup? key entries
  | _, _ => none

/-- The name of the kind of a value in messages. -/
def kindName : Json → String
  | .null => "NoneType"
  | .bool _ => "bool"
  | .integer _ => "int"
  | .float _ => "float"
  | .string _ | .halved _ => "str"
  | .array _ => "list"
  | .object _ => "dict"

mutual

/-- Whether a value passes a test, or what an array or an object has in it does. -/
def all (test : Json → Bool) : Json → Bool
  | .array items => allItems test items
  | .object entries => allEntries test entries
  | value => test value

/-- Whether what is in items passes a test. -/
def allItems (test : Json → Bool) : List Json → Bool
  | [] => true
  | item :: rest => item.all test && allItems test rest

/-- Whether what is in entries passes a test. -/
def allEntries (test : Json → Bool) : List (String × Json) → Bool
  | [] => true
  | (_, value) :: rest => value.all test && allEntries test rest

end

/-- Whether all numbers in a value are finite. -/
def isFinite : Json → Bool :=
  all fun
    | .float .nan | .float (.infinite _) => false
    | _ => true

/-- Whether all strings in a value are texts, so that they can be encoded. -/
def isEncodable : Json → Bool :=
  all fun
    | .halved _ => false
    | _ => true

theorem rawText?_eq_some_iff {value : Json} {raw : RawText} :
    value.rawText? = some raw ↔ value = ofRawText raw := by
  cases value with
  | string text => cases raw <;> simp [rawText?, ofRawText]
  | halved points => cases raw <;> simp [rawText?, ofRawText]
  | _ => cases raw <;> simp [rawText?, ofRawText]

theorem isString_iff {value : Json} : value.isString = true ↔ ∃ raw, value = ofRawText raw := by
  rw [isString, Option.isSome_iff_exists]
  exact exists_congr fun _ ↦ rawText?_eq_some_iff

@[simp] theorem lookup?_put_self (key : String) (value : Json) (entries : List (String × Json)) :
    lookup? key (put key value entries) = some value := by
  induction entries with
  | nil => simp [put, lookup?]
  | cons entry rest ih =>
    obtain ⟨other, old⟩ := entry
    unfold put
    split
    · simp [lookup?]
    · next different => simp [lookup?, different, ih]

theorem lookup?_put_of_ne {key other : String} (different : other ≠ key) (value : Json)
    (entries : List (String × Json)) :
    lookup? key (put other value entries) = lookup? key entries := by
  induction entries with
  | nil => simp [put, lookup?, different]
  | cons entry rest ih =>
    obtain ⟨third, old⟩ := entry
    unfold put
    split
    · next same => subst same; simp [lookup?, different]
    · simp [lookup?, ih]

end Json

end MeshAttest
