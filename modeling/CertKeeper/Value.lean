import CertKeeper.Text.Quoted
import CertKeeper.Value.Binary

/-!
# Values

What callers pass in, what records on disk hold and what store modules from outside answer: data
without a fixed shape.
-/

namespace CertKeeper

inductive Value where
  | null
  | bool (b : Bool)
  | int (i : Int)
  | real (r : Binary)
  | text (t : Text)
  | bytes (bs : Bytes)
  | list (items : List Value)
  | object (fields : List (Text × Value))

namespace Value

instance : Inhabited Value := ⟨null⟩

instance : Coe Bool Value := ⟨bool⟩

/-! ### Views -/

/-- A value stands for "yes" unless it is nothing, no, zero or empty. -/
def truthy : Value → Bool
  | null => false
  | bool b => b
  | int i => i != 0
  | real (.finite _ significand _) => significand != 0
  | real _ => true
  | text t => !t.isEmpty
  | bytes bs => !bs.isEmpty
  | list items => !items.isEmpty
  | object fields => !fields.isEmpty

@[simp] theorem truthy_bool (b : Bool) : truthy (bool b) = b := rfl

def kindName : Value → String
  | null => "NoneType"
  | bool _ => "bool"
  | int _ => "int"
  | real _ => "float"
  | text _ => "str"
  | bytes _ => "bytes"
  | list _ => "list"
  | object _ => "dict"

def text? : Value → Option Text
  | text t => some t
  | _ => none

def int? : Value → Option Int
  | int i => some i
  | _ => none

/-- The fields of an object; other values have none. -/
def fields : Value → List (Text × Value)
  | object fields => fields
  | _ => []

def items : Value → List Value
  | list items => items
  | _ => []

def field? (name : Text) (v : Value) : Option Value :=
  (v.fields.find? fun f => f.1 = name).map Prod.snd

/-- Sets a field: in place where it exists, else at the end. -/
def setField (name : Text) (v : Value) : List (Text × Value) → List (Text × Value)
  | [] => [(name, v)]
  | f :: rest => if f.1 = name then (name, v) :: rest else f :: setField name v rest

/-- The last of several fields of one name counts, at the place of the first. -/
def objectOf (fields : List (Text × Value)) : Value :=
  object (fields.foldl (fun acc f => setField f.1 f.2 acc) [])

/-! ### Spelling -/

mutual

/-- The spelling of a value inside another one or in a fault. -/
def quoted : Value → Text
  | null => "None"
  | bool true => "True"
  | bool false => "False"
  | int i => Text.integer i
  | real r => r.spell
  | text t => t.quoted
  | bytes bs => Text.quotedBytes bs
  | list items => "[" ++ quotedItems items ++ "]"
  | object fields => "\x7b" ++ quotedFields fields ++ "\x7d"

def quotedItems : List Value → Text
  | [] => []
  | [v] => v.quoted
  | v :: w :: rest => v.quoted ++ ", " ++ quotedItems (w :: rest)

def quotedFields : List (Text × Value) → Text
  | [] => []
  | [(name, v)] => name.quoted ++ ": " ++ v.quoted
  | (name, v) :: w :: rest => name.quoted ++ ": " ++ v.quoted ++ ", " ++ quotedFields (w :: rest)

end

/-- The plain spelling: a text stands for itself. -/
def spell : Value → Text
  | text t => t
  | v => v.quoted

end Value

end CertKeeper
