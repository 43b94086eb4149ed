/-!
# Search in texts

Whether a text occurs inside another one, and a text without the occurrences of another one.
-/

namespace ReturnForecast.Text

/-- Does the needle occur in the text? -/
def occursIn (needle : List Char) : List Char → Bool
  | [] => needle.isEmpty
  | c :: cs => needle.isPrefixOf (c :: cs) || occursIn needle cs

/-- Is one text contained in another? -/
def contains (s needle : String) : Bool := occursIn needle.toList s.toList

/-- Characters without the occurrences of a needle, found from the left. -/
def removeChars (needle : List Char) (cs : List Char) : List Char :=
  match cs with
  | [] => []
  | c :: rest =>
    if needle.length ≠ 0 ∧ needle.isPrefixOf (c :: rest) then
      removeChars needle (rest.drop (needle.length - 1))
    else c :: removeChars needle rest
termination_by cs.length
decreasing_by all_goals (simp only [List.length_cons, List.length_drop]; omega)

/-- A text without the occurrences of another one, found from the left. -/
def remove (s needle : String) : String := String.ofList (removeChars needle.toList s.toList)

end ReturnForecast.Text
