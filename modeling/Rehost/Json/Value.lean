/-!
# JSON values

The JSON documents the library reads (option files, container engine reports)
and writes (results, error responses). Integers are kept exact, whatever their
size; a number written with a fraction or an exponent is kept as its decimal
digits and exponent, so no digit is lost before a reader decides its type.
Object fields keep their written order, which is the order a printer emits.
-/

namespace Rehost

/-- A JSON document. -/
inductive Json where
  | null
  | bool (b : Bool)
  /-- A number written without fraction or exponent. -/
  | int (n : Int)
  /-- A number written with a fraction or an exponent: `(-1)^neg * digits * 10^exp`. -/
  | dec (neg : Bool) (digits : Nat) (exp : Int)
  | str (s : String)
  | arr (xs : List Json)
  | obj (fields : List (String × Json))
  deriving Inhabited, Repr

namespace Json

/-- The value of a field, if the value is an object that has it. -/
def get? (j : Json) (key : String) : Option Json :=
  match j with
  | .obj fs => fs.lookup key
  | _ => none

/-- The value of a field, with `null` standing for an absent field. -/
def field (j : Json) (key : String) : Option Json :=
  match j.get? key with
  | some .null => none
  | v => v

/-- The text, if the value is a string. -/
def asString? : Json → Option String
  | .str s => some s
  | _ => none

/-- The truth value, if the value is a boolean. -/
def asBool? : Json → Option Bool
  | .bool b => some b
  | _ => none

/-- The integer, if the value is an integer. -/
def asInt? : Json → Option Int
  | .int n => some n
  | _ => none

/-- The elements, if the value is an array. -/
def asArray? : Json → Option (List Json)
  | .arr xs => some xs
  | _ => none

/-- The fields, if the value is an object. -/
def asObject? : Json → Option (List (String × Json))
  | .obj fs => some fs
  | _ => none

/-- A string value, or `null` for none. -/
def ofOption (f : α → Json) : Option α → Json
  | some a => f a
  | none => .null

/-- An array of strings. -/
def strs (xs : List String) : Json := .arr (xs.map .str)

/-- Sets a field, replacing an existing one in place or appending a new one. -/
def setField (fs : List (String × Json)) (key : String) (v : Json) : List (String × Json) :=
  if fs.any (·.1 == key) then fs.map (fun p => if p.1 == key then (key, v) else p)
  else fs ++ [(key, v)]

/-- Merges `patch` into `base`: objects merge field by field, anything else replaces. -/
def merge : Json → Json → Json
  | .obj bs, .obj ps => .obj (mergeFields bs ps)
  | _, p => p
where
  /-- Merges each patch field into the base fields in turn. -/
  mergeFields (bs : List (String × Json)) : List (String × Json) → List (String × Json)
    | [] => bs
    | (k, v) :: rest =>
      let merged := match bs.lookup k with
        | some b => merge b v
        | none => v
      mergeFields (setField bs k merged) rest

/-- Applies `f` to every string in a value, keys excepted. -/
def mapStrings (f : String → String) : Json → Json
  | .str s => .str (f s)
  | .arr xs => .arr (xs.attach.map fun ⟨x, _⟩ => mapStrings f x)
  | .obj fs => .obj (fs.attach.map fun ⟨(k, v), _⟩ => (k, mapStrings f v))
  | j => j
termination_by j => sizeOf j
decreasing_by
  all_goals simp_wf
  · have := List.sizeOf_lt_of_mem ‹_›; omega
  · have := List.sizeOf_lt_of_mem ‹_›; simp at this; omega

end Json

end Rehost
