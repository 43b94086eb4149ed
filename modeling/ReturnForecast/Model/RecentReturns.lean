import ReturnForecast.Scalar

/-!
# The most recent returns

A ring of 24 slots: a new return overwrites the oldest one. Means are taken over the newest returns,
fewer if there are fewer.
-/

namespace ReturnForecast

/-- The number of slots. -/
abbrev RecentReturns.capacity : Nat := 24

/-- A ring of returns: the slots, the next one to be written, and how many have been written. -/
structure RecentReturns (α : Type) where
  slots : Vector α RecentReturns.capacity
  next : Nat
  filled : Nat

namespace RecentReturns

variable {α : Type} [Scalar α]

/-- The ring before the first return. -/
def empty : RecentReturns α := { slots := Vector.ofFn fun _ => 0, next := 0, filled := 0 }

/-- The ring after a further return. -/
def push (ring : RecentReturns α) (r : α) : RecentReturns α :=
  { slots := ring.slots.setIfInBounds ring.next r
    next := (ring.next + 1) % capacity
    filled := min (ring.filled + 1) capacity }

/-- The return that came `age` returns before the newest one. -/
def back (ring : RecentReturns α) (age : Nat) : α :=
  ring.slots.get (Fin.ofNat capacity (ring.next + (capacity - 1) - age))

/-- The newest `m` returns, the newest first. -/
def newest (ring : RecentReturns α) (m : Nat) : List α := (List.range m).map ring.back

/-- The mean of the newest `n` returns, of fewer if there are fewer, and zero if there is none. -/
def meanLast (ring : RecentReturns α) (n : Int) : α :=
  let m := min n ring.filled
  if m = 0 then 0 else mean (ring.newest m.toNat)

end RecentReturns

end ReturnForecast
