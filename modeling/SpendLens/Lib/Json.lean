/-
# JSON values

The values a JSON reader produces, with integers and other numbers apart (`special`
is a name such as `NaN` that lenient readers take for a number), and the accessors of
a program that inspects them.  An object is its list of entries in
order; `get?` finds the last entry of a key, as a reader that builds a dictionary
does.
-/
import Mathlib.Data.Rat.Defs
import Mathlib.Tactic.Common

/-- A JSON value. -/
inductive Json where
  | null
  | bool (b : Bool)
  | int (n : ℤ)
  | float (q : ℚ)
  | special (name : String)
  | str (s : String)
  | arr (xs : List Json)
  | obj (kvs : List (String × Json))

namespace Json

/-- The value of a key; nothing when the value is no object. -/
def get? (key : String) : Json → Option Json
  | obj kvs => (kvs.reverse.find? (fun kv => kv.1 = key)).map Prod.snd
  | _ => none

/-- The text of a string value. -/
def str? : Json → Option String
  | str s => some s
  | _ => none

/-- A value that counts as true in a condition. -/
def truthy : Json → Bool
  | null => false
  | bool b => b
  | int n => n ≠ 0
  | float q => q ≠ 0
  | special _ => true
  | str s => s ≠ ""
  | arr xs => !xs.isEmpty
  | obj kvs => !kvs.isEmpty

mutual
/-- Structural equality. -/
def beq : Json → Json → Bool
  | null, null => true
  | bool a, bool b => a = b
  | int a, int b => a = b
  | float a, float b => a = b
  | special a, special b => a = b
  | str a, str b => a = b
  | arr xs, arr ys => beqList xs ys
  | obj xs, obj ys => beqEntries xs ys
  | _, _ => false
def beqList : List Json → List Json → Bool
  | [], [] => true
  | x :: xs, y :: ys => beq x y && beqList xs ys
  | _, _ => false
def beqEntries : List (String × Json) → List (String × Json) → Bool
  | [], [] => true
  | (k, x) :: xs, (l, y) :: ys => k = l && beq x y && beqEntries xs ys
  | _, _ => false
end

mutual
/-- Does `p` hold of every text in the value, keys included? -/
def allText (p : String → Bool) : Json → Bool
  | str s => p s
  | arr xs => allTextList p xs
  | obj kvs => allTextEntries p kvs
  | _ => true
def allTextList (p : String → Bool) : List Json → Bool
  | [] => true
  | x :: xs => allText p x && allTextList p xs
def allTextEntries (p : String → Bool) : List (String × Json) → Bool
  | [] => true
  | (k, v) :: kvs => p k && allText p v && allTextEntries p kvs
end

end Json
