import BearerRole.Codec.Bytes
import BearerRole.Decimal.Binary64
import BearerRole.Role

/-!
Values whose kind is known only when they are met: decoded claims, settings as given, header entries, log fields.
-/

namespace BearerRole

set_option autoImplicit false

/-- Objects keep their entries in the order of insertion, one entry a key. A role is a text of its own kind:
it counts as text wherever text is asked. -/
inductive Value
  | null
  | bool (b : Bool)
  | int (n : Int)
  | float (x : Binary64)
  | text (t : Text)
  | role (r : Role)
  | bytes (b : Bytes)
  | list (items : List Value)
  | tuple (items : List Value)
  | object (fields : List (Text × Value))
  deriving Repr, Inhabited

abbrev Fields := List (Text × Value)

mutual

/-- Equality goes by the parts: a float is equal to the same bits only, and objects to the same entries in the same order. -/
def Value.same : Value → Value → Bool
  | .null, .null => true
  | .bool b, .bool b' => b == b'
  | .int n, .int n' => n == n'
  | .float x, .float x' => x == x'
  | .text t, .text t' => t == t'
  | .role r, .role r' => r == r'
  | .bytes b, .bytes b' => b == b'
  | .list items, .list items' => sameAll items items'
  | .tuple items, .tuple items' => sameAll items items'
  | .object fields, .object fields' => sameFields fields fields'
  | _, _ => false

def Value.sameAll : List Value → List Value → Bool
  | [], [] => true
  | item :: items, item' :: items' => same item item' && sameAll items items'
  | _, _ => false

def Value.sameFields : Fields → Fields → Bool
  | [], [] => true
  | (key, value) :: fields, (key', value') :: fields' => key == key' && same value value' && sameFields fields fields'
  | _, _ => false

end

mutual

theorem Value.same_iff : (v v' : Value) → (same v v' = true ↔ v = v')
  | .null, v' | .bool _, v' | .int _, v' | .float _, v' | .text _, v' | .role _, v' | .bytes _, v' => by cases v' <;> simp [same]
  | .list items, v' | .tuple items, v' => by cases v' <;> simp [same, same_all_iff items]
  | .object fields, v' => by cases v' <;> simp [same, same_fields_iff fields]

theorem Value.same_all_iff : (items items' : List Value) → (sameAll items items' = true ↔ items = items')
  | [], items' => by cases items' <;> simp [sameAll]
  | item :: items, items' => by cases items' <;> simp [sameAll, same_iff item, same_all_iff items]

theorem Value.same_fields_iff : (fields fields' : Fields) → (sameFields fields fields' = true ↔ fields = fields')
  | [], fields' => by cases fields' <;> simp [sameFields]
  | (key, value) :: fields, [] => by simp [sameFields]
  | (key, value) :: fields, (key', value') :: fields' => by
      simp [sameFields, same_iff value, same_fields_iff fields, and_assoc]

end

instance : DecidableEq Value := fun v v' => decidable_of_iff (v.same v' = true) (Value.same_iff v v')

namespace Fields

def get? (fields : Fields) (key : Text) : Option Value := fields.lookup key

def has (fields : Fields) (key : Text) : Bool := (fields.get? key).isSome

/-- A new key goes to the end; a key that is there keeps its place and takes the new value. -/
def insert : Fields → Text → Value → Fields
  | [], key, value => [(key, value)]
  | (k, v) :: rest, key, value =>
      if k = key then (k, value) :: rest else (k, v) :: insert rest key value

def insertAll (fields more : Fields) : Fields := more.foldl (fun acc entry => acc.insert entry.1 entry.2) fields

def keys (fields : Fields) : List Text := fields.map Prod.fst

end Fields

namespace Value

def asText? : Value → Option Text
  | text t => some t
  | role r => some r.name
  | _ => none

def isText (v : Value) : Bool := v.asText?.isSome

def isNull : Value → Bool
  | null => true
  | _ => false

def isFalsy : Value → Bool
  | null => true
  | bool b => !b
  | int n => n == 0
  | float x => x.isZero
  | text t => t.isEmpty
  | role _ => false
  | bytes b => b.isEmpty
  | list items => items.isEmpty
  | tuple items => items.isEmpty
  | object fields => fields.isEmpty

def ofText (literal : String) : Value := .text (BearerRole.text literal)

def ofText? (t : Option Text) : Value := (t.map .text).getD .null

end Value

end BearerRole
