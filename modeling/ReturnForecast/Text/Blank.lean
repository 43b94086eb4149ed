/-!
# Blank characters and trimming

Texts are trimmed of the white space of every script before they are compared or used as keys. Main
statements: trimming leaves no blank at either end, and a trimmed text is left as it is.
-/

namespace ReturnForecast.Text

/-- Inclusive ranges of the blank code points: tabs, line ends, separators and spaces. -/
def blankRanges : List (Nat × Nat) := [
  (0x09, 0x0D), (0x1C, 0x20), (0x85, 0x85), (0xA0, 0xA0), (0x1680, 0x1680), (0x2000, 0x200A),
  (0x2028, 0x2029), (0x202F, 0x202F), (0x205F, 0x205F), (0x3000, 0x3000)]

/-- Is the character white space in any script? -/
def isBlank (c : Char) : Bool :=
  blankRanges.any (fun range => range.1 ≤ c.toNat && c.toNat ≤ range.2)

/-- Characters without the ones at both ends that a test selects. -/
def trimBy (drop : Char → Bool) (cs : List Char) : List Char :=
  ((cs.dropWhile drop).reverse.dropWhile drop).reverse

/-- A text without the blanks at its ends. -/
def trim (s : String) : String := String.ofList (trimBy isBlank s.toList)

theorem dropWhile_eq_self_of_head {drop : Char → Bool} {cs : List Char}
    (h : ∀ c ∈ cs.head?, drop c = false) : cs.dropWhile drop = cs := by
  cases cs with
  | nil => rfl
  | cons c r => simp_all

theorem trimBy_prefix_dropWhile (drop : Char → Bool) (cs : List Char) :
    trimBy drop cs <+: cs.dropWhile drop := by
  have h := List.dropWhile_suffix drop (l := (cs.dropWhile drop).reverse)
  rw [← List.reverse_prefix, List.reverse_reverse] at h
  exact h

/-- Trimming leaves no selected character at the start. -/
theorem head?_trimBy {drop : Char → Bool} (cs : List Char) :
    ∀ c ∈ (trimBy drop cs).head?, drop c = false := by
  intro c hc
  have hfirst := List.head?_dropWhile_not drop cs
  obtain ⟨rest, hrest⟩ := trimBy_prefix_dropWhile drop cs
  cases h : trimBy drop cs with
  | nil => simp [h] at hc
  | cons d r =>
    rw [← hrest, h] at hfirst
    rw [h] at hc
    exact Option.some.inj hc ▸ hfirst

/-- Trimming leaves no selected character at the end. -/
theorem getLast?_trimBy {drop : Char → Bool} (cs : List Char) :
    ∀ c ∈ (trimBy drop cs).getLast?, drop c = false := by
  intro c hc
  rw [trimBy, List.getLast?_reverse] at hc
  have hlast := List.head?_dropWhile_not drop (cs.dropWhile drop).reverse
  rwa [hc] at hlast

/-- What has no selected character at either end is left as it is. -/
theorem trimBy_eq_self {drop : Char → Bool} {cs : List Char}
    (first : ∀ c ∈ cs.head?, drop c = false) (last : ∀ c ∈ cs.getLast?, drop c = false) :
    trimBy drop cs = cs := by
  have hlast : cs.reverse.dropWhile drop = cs.reverse :=
    dropWhile_eq_self_of_head (by simpa using last)
  rw [trimBy, dropWhile_eq_self_of_head first, hlast, List.reverse_reverse]

theorem trimBy_trimBy (drop : Char → Bool) (cs : List Char) :
    trimBy drop (trimBy drop cs) = trimBy drop cs :=
  trimBy_eq_self (head?_trimBy cs) (getLast?_trimBy cs)

/-- A trimmed text is left as it is. -/
theorem trim_trim (s : String) : trim (trim s) = trim s := by
  simp [trim, trimBy_trimBy]

end ReturnForecast.Text
