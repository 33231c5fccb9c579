import Delimit.Yaml.Scalar

/-!
# Values

A document stands for a value: a scalar, a sequence, a mapping or a set.  The keys
of mappings and the elements of sets are scalars without repetition; a repeated
key keeps its first spelling and place and takes the later value.
-/

namespace Delimit.Yaml

inductive Value where
  | scalar (value : Scalar)
  | sequence (items : List Value)
  /-- A mapping, as its entries in order. -/
  | mapping (entries : List (Scalar × Value))
  /-- A set, as its elements in order. -/
  | set (elements : List Scalar)
  deriving Repr

namespace Value

instance : Inhabited Value := ⟨.scalar .null⟩

def null : Value := .scalar .null

def text
    (value : List Char) :
    Value :=
  .scalar (.text value)

def int
    (value : Int) :
    Value :=
  .scalar (.int value)

end Value

abbrev Entries := List (Scalar × Value)

namespace Entries

def insert
    (key : Scalar)
    (value : Value) :
    Entries → Entries
  | [] => [(key, value)]
  | (other, old) :: rest =>
      if other.sameKey key then
        (other, value) :: rest
      else
        (other, old) :: insert key value rest

/-- The entries with the keys and values of further ones set in order. -/
def insertAll
    (entries further : Entries) :
    Entries :=
  further.foldl (fun entries entry => insert entry.1 entry.2 entries) entries

def get?
    (key : Scalar) :
    Entries → Option Value
  | [] => none
  | (other, value) :: rest =>
      if other.sameKey key then some value else get? key rest

/-- The value of a key that is a text. -/
def getText?
    (key : String)
    (entries : Entries) :
    Option Value :=
  entries.get? (.text key.toList)

end Entries

end Delimit.Yaml
