import EdgeMonitor.Base.Text

/-!
# JSON values

Library `Base`. The values that Python's `json` module exchanges with JSON texts. Floating
point numbers are exact rationals or one of the three special values that `json` accepts.
-/

namespace EdgeMonitor.Base

/-- A Python `float`. -/
inductive JsonFloat where
  | finite (q : ℚ)
  | nan
  | infinity
  | negativeInfinity
  deriving DecidableEq

/-- A value of `json.loads`; the members of an object keep their order. -/
inductive Json where
  | null
  | boolean (b : Bool)
  | integer (n : Int)
  | float (x : JsonFloat)
  | string (s : Text)
  | array (items : List Json)
  | object (members : List (Text × Json))

namespace Json

/-- The member of a Python dict; of equal keys the last one counts. -/
def member (members : List (Text × Json)) (key : Text) : Option Json :=
  (members.reverse.find? fun m ↦ m.1 = key).map (·.2)

/-- `d[key] = value` of a Python dict: an existing key keeps its place. -/
def setMember (members : List (Text × Json)) (key : Text) (value : Json) : List (Text × Json) :=
  if members.any (·.1 == key) then members.map fun m ↦ if m.1 = key then (key, value) else m
  else members ++ [(key, value)]

/-- The items of a Python dict that is filled with the given members. -/
def items (members : List (Text × Json)) : List (Text × Json) :=
  members.foldl (fun d m ↦ setMember d m.1 m.2) []

/-- A key has the value that was set last. -/
theorem member_setMember (members : List (Text × Json)) (key : Text) (value : Json) :
    member (setMember members key value) key = some value := by
  rw [setMember]
  by_cases h : members.any (·.1 == key) = true
  · rw [if_pos h, member, ← List.map_reverse]
    have hany : members.reverse.any (·.1 == key) = true := by rwa [List.any_reverse]
    generalize members.reverse = rest at hany
    induction rest with
    | nil => cases hany
    | cons m rest ih =>
      by_cases hm : m.1 = key
      · rw [List.map_cons, if_pos hm, List.find?_cons_of_pos (by simp)]
        rfl
      · have hrest : rest.any (·.1 == key) = true := by simpa [hm] using hany
        rw [List.map_cons, if_neg hm, List.find?_cons_of_neg (by simpa using hm)]
        exact ih hrest
  · rw [if_neg h, member, List.reverse_concat, List.find?_cons_of_pos (by simp)]
    rfl

end Json

end EdgeMonitor.Base
