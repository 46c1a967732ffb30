import IndyCheqd.Basic

/-!
**`serde_json` values, as the command line reads them.**

The command line reads the libindy responses it receives as untyped `serde_json::Value`s and
walks them with the library's accessors.  Those accessors differ in how they fail, and the
difference is what the traversals turn on:

* indexing a *value* with a string (`v["k"]`) never fails: a value that is not an object, or an
  object without the key, gives `Null`;
* indexing a *map* with a string (`m["k"]`) panics when the key is absent;
* `as_object`, `as_u64`, `as_str` return `None` on a value of another shape, which `unwrap`
  turns into a panic.

A number keeps serde_json's three representations; `as_u64` accepts only a nonnegative integer
that fits in 64 bits, so a negative integer, a float or a numeral written as a string is refused.

Main definitions:

* `IndyCheqd.Json.Number`, `IndyCheqd.Json.Value`;
* `IndyCheqd.Json.Value.index`, `IndyCheqd.Json.Map.index` — the two indexings;
* `IndyCheqd.Json.Value.asObject`, `IndyCheqd.Json.Value.asU64`, `IndyCheqd.Json.Value.asStr`,
  `IndyCheqd.Json.Value.isNull`, `IndyCheqd.Json.Map.containsKey`.
-/

set_option autoImplicit false

namespace IndyCheqd

namespace Json

/-- A `serde_json::Number`: a nonnegative integer fitting `u64`, a negative one fitting `i64`,
or a finite double (written `mantissa · 10 ^ exponent`). -/
inductive Number where
  | posInt (n : UInt64)
  | negInt (n : Int)
  | float (mantissa exponent : Int)
  deriving DecidableEq, Repr

/-- A `serde_json::Value`.  An object is its list of members; the parser gives each key once. -/
inductive Value where
  | null
  | bool (b : Bool)
  | number (n : Number)
  | string (s : String)
  | array (items : List Value)
  | object (members : List (String × Value))
  deriving Repr, Inhabited

/-- A `serde_json::Map`, the members of an object. -/
abbrev Map := List (String × Value)

namespace Value

/-- Method `Value::is_null`. -/
def isNull : Value → Bool
  | null => true
  | _ => false

/-- Method `Value::as_object`. -/
def asObject : Value → Option Map
  | object m => some m
  | _ => none

/-- Method `Value::as_u64`. -/
def asU64 : Value → Option UInt64
  | number (.posInt n) => some n
  | _ => none

/-- Method `Value::as_str`. -/
def asStr : Value → Option String
  | string s => some s
  | _ => none

/-- Indexing a value with a string, `v["k"]`: the member of an object, and `Null` for a missing
member or a value that is not an object. -/
def index (v : Value) (k : String) : Value :=
  match v with
  | object m => (m.lookup k).getD null
  | _ => null

@[simp] theorem isNull_null : null.isNull = true := rfl

@[simp] theorem isNull_object (m : Map) : (object m).isNull = false := rfl

@[simp] theorem asObject_object (m : Map) : (object m).asObject = some m := rfl

@[simp] theorem asU64_posInt (n : UInt64) : (number (.posInt n)).asU64 = some n := rfl

@[simp] theorem index_object (m : Map) (k : String) : (object m).index k = (m.lookup k).getD null :=
  rfl

theorem asObject_eq_some {v : Value} {m : Map} : v.asObject = some m ↔ v = object m := by
  cases v <;> simp [asObject]

theorem asU64_eq_some {v : Value} {n : UInt64} : v.asU64 = some n ↔ v = number (.posInt n) := by
  rcases v with _ | _ | (_ | _ | _) | _ | _ | _ <;> simp [asU64]

/-- Indexing gives an object exactly when the value is an object with an object under the key. -/
theorem index_eq_object {v : Value} {k : String} {m : Map} :
    v.index k = object m ↔ ∃ members, v = object members ∧ members.lookup k = some (object m) := by
  cases v with
  | object members => cases h : members.lookup k <;> simp [index, h]
  | _ => simp [index]

end Value

namespace Map

/-- Method `Map::contains_key`. -/
def containsKey (m : Map) (k : String) : Bool := (m.lookup k).isSome

/-- Indexing a map with a string, `m["k"]`: it panics on a missing key. -/
def index (m : Map) (k : String) : Outcome Value :=
  expect (m.lookup k) "no entry found for key"

theorem index_of_lookup {m : Map} {k : String} {v : Value} (h : m.lookup k = some v) :
    m.index k = .done v := by
  simp [index, h]

end Map

end Json

end IndyCheqd
