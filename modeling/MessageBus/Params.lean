import MessageBus.Decimal.Binary64
import MessageBus.Json.Object
/-!
# Parameters

The JSON object that requests and replies carry, in canonical form: keys ascend at every depth, so two
parameter lists are equal exactly when they hold the same values under the same keys. Values are read
through typed accessors, which fail with the key and what was expected there.
-/
namespace MessageBus
set_option autoImplicit false

structure Params where
  fields : List (String × Json)
  canonical : (Json.object fields).Canonical

inductive ParamKind
  | unsigned
  | number
  | string
  | stringList
  | object
  | objectList
deriving DecidableEq, Repr

def ParamKind.phrase : ParamKind → String
  | .unsigned => "an unsigned integer"
  | .number => "a number"
  | .string => "a string"
  | .stringList => "a list of strings"
  | .object => "an object"
  | .objectList => "a list of objects"

inductive ParamError
  | missing (key : String)
  | invalidType (key : String) (expected : ParamKind)
deriving DecidableEq, Repr

def ParamError.message : ParamError → String
  | .missing key => "parameter '" ++ key ++ "' is missing"
  | .invalidType key expected => "parameter '" ++ key ++ "' is not " ++ expected.phrase

namespace Params

instance : DecidableEq Params := fun p q =>
  if h : p.fields = q.fields then isTrue (by cases p; cases q; cases h; rfl)
  else isFalse fun e => h (congrArg fields e)

def empty : Params := ⟨[], List.Pairwise.nil, trivial⟩

instance : Inhabited Params := ⟨empty⟩

/-- The parameters of an object's members as they stand in a text: the last of equal keys wins. -/
def ofMembers (members : List (String × Json)) : Params :=
  ⟨Keyed.ofList (Json.canonicalMembers members),
    Json.canonical_object (Json.canonicalMembers_canonical members)⟩

def parse (text : String) : Except Json.ObjectError Params := (Json.parseObject text).map ofMembers

def toJson (p : Params) : Json := .object p.fields

def get? (p : Params) (key : String) : Option Json := p.fields.lookup key

def contains (p : Params) (key : String) : Bool := (p.get? key).isSome

def size (p : Params) : Nat := p.fields.length

def isEmpty (p : Params) : Bool := p.fields.isEmpty

theorem canonicalMembers_insert {key : String} {v : Json} {fields : List (String × Json)}
    (hv : v.Canonical) (h : Json.CanonicalMembers fields) :
    Json.CanonicalMembers (Keyed.insert key v fields) := by
  refine Json.canonicalMembers_iff.2 fun p hp => ?_
  rcases Keyed.mem_insert hp with rfl | hp
  · exact hv
  · exact Json.canonicalMembers_iff.1 h p hp

/-- Puts a value under a key, in place of any value there. -/
def insert (p : Params) (key : String) (v : Json) : Params :=
  ⟨Keyed.insert key v.canonical p.fields,
    Keyed.ascending_insert key _ p.canonical.1,
    canonicalMembers_insert (Json.canonical_canonical v) p.canonical.2⟩

/-! ## Typed access -/

def require (p : Params) (key : String) : Except ParamError Json :=
  match p.get? key with
  | some v => .ok v
  | none => .error (.missing key)

/-- Reads an unsigned 64-bit integer from a number written with digits alone or from a decimal string. -/
def getUnsigned (p : Params) (key : String) : Except ParamError Nat := do
  let found := match ← p.require key with
    | .number n => n.toNat?
    | .string s => Digits.parse? s
    | _ => none
  match found with
  | some n => if n < UInt64.size then return n else throw (.invalidType key .unsigned)
  | none => throw (.invalidType key .unsigned)

/-- The finite binary64 nearest to a JSON number. -/
def finite? (n : Json.Number) : Option Float :=
  let exponent : Int := match n.exponent with
    | none => 0
    | some e => if e.negative then -(Digits.value e.digits : Int) else Digits.value e.digits
  let bits := Binary64.ofDecimal (Digits.value (n.whole ++ n.fraction)) (exponent - n.fraction.length)
  if bits < Binary64.infinityBits then some (Binary64.signed n.negative bits) else none

/-- Reads a number, or a string that writes one. -/
def getFloat (p : Params) (key : String) : Except ParamError Float := do
  let found := match ← p.require key with
    | .number n => finite? n
    | .string s => Binary64.ofText? s
    | _ => none
  match found with
  | some x => return x
  | none => throw (.invalidType key .number)

def getString (p : Params) (key : String) : Except ParamError String := do
  match ← p.require key with
  | .string s => return s
  | _ => throw (.invalidType key .string)

def getStringList (p : Params) (key : String) : Except ParamError (List String) := do
  match ← p.require key with
  | .array items =>
    items.mapM fun
      | .string s => .ok s
      | _ => .error (.invalidType key .stringList)
  | _ => throw (.invalidType key .stringList)

def getObject (p : Params) (key : String) : Except ParamError Params := do
  match ← p.require key with
  | .object members => return ofMembers members
  | _ => throw (.invalidType key .object)

def getObjectList (p : Params) (key : String) : Except ParamError (List Params) := do
  match ← p.require key with
  | .array items =>
    items.mapM fun
      | .object members => .ok (ofMembers members)
      | _ => .error (.invalidType key .objectList)
  | _ => throw (.invalidType key .objectList)

end Params
end MessageBus
