/-!
# Folded text

A scalar may run over several lines. A single line end between its words is a space, each further
one is kept as a line end, and the blanks around line ends are dropped. Blanks inside of a line
stay.
-/

namespace ReturnForecast.Yaml

/-- A text that is being folded. All lists hold the last character first. -/
structure Folded where
  /-- The characters that are settled. -/
  done : List Char := []
  /-- Blanks that belong to the text only if a word follows on the line. -/
  blanks : List Char := []
  /-- What the line ends since the last word stand for. -/
  breaks : Option (List Char) := none

namespace Folded

/-- Has the text a blank or a line end since its last word? -/
def isPending (f : Folded) : Bool := !f.blanks.isEmpty || f.breaks.isSome

/-- Adds a blank; at the start of a line it does not count. -/
def blank (f : Folded) (c : Char) : Folded :=
  match f.breaks with
  | none => { f with blanks := c :: f.blanks }
  | some _ => f

/-- Adds a line end. -/
def lineEnd (f : Folded) : Folded :=
  match f.breaks with
  | none => { f with blanks := [], breaks := some [' '] }
  | some [' '] => { f with breaks := some ['\n'] }
  | some ends => { f with breaks := some ('\n' :: ends) }

/-- The characters of the text, what is pending among them. -/
def settled (f : Folded) : List Char :=
  match f.breaks with
  | none => f.blanks ++ f.done
  | some ends => ends ++ f.done

/-- Adds a character of a word. -/
def add (f : Folded) (c : Char) : Folded := { done := c :: f.settled }

/-- Joins the next line without a space. -/
def join (f : Folded) : Folded := { done := f.settled, breaks := some [] }

/-- The text up to its last word. -/
def words (f : Folded) : String := String.ofList f.done.reverse

/-- The text with the blanks at its end. -/
def whole (f : Folded) : String := String.ofList f.settled.reverse

end Folded

end ReturnForecast.Yaml
