import ReturnForecast.Fault

/-!
# Requests in several steps

A request that goes on from one answer to the next has an answer if all steps have one. Otherwise
its fault is that of the first step without an answer.
-/

namespace ReturnForecast

variable {β γ : Type}

theorem bind_eq_ok {x : Except Fault β} {next : β → Except Fault γ} {c : γ}
    (h : x >>= next = .ok c) : ∃ b, x = .ok b ∧ next b = .ok c := by
  cases x with
  | error fault => cases h
  | ok b => exact ⟨b, rfl, h⟩

theorem bind_eq_error {x : Except Fault β} {next : β → Except Fault γ} {fault : Fault}
    (h : x >>= next = .error fault) :
    x = .error fault ∨ ∃ b, x = .ok b ∧ next b = .error fault := by
  cases x with
  | error cause => exact .inl (congrArg Except.error (Except.error.inj h))
  | ok b => exact .inr ⟨b, rfl, h⟩

theorem map_eq_ok {x : Except Fault β} {g : β → γ} {c : γ} (h : x.map g = .ok c) :
    ∃ b, x = .ok b ∧ g b = c := by
  cases x with
  | error fault => cases h
  | ok b => exact ⟨b, rfl, Except.ok.inj h⟩

theorem mapError_ok {ε : Type} (toFault : ε → Fault) (b : β) :
    (Except.ok b).mapError toFault = .ok b := rfl

theorem eq_ok_of_mapError {ε : Type} {x : Except ε β} {toFault : ε → Fault} {b : β}
    (h : x.mapError toFault = .ok b) : x = .ok b := by
  cases x with
  | error cause => cases h
  | ok c => exact congrArg Except.ok (Except.ok.inj h)

/-- A request that has an answer, and goes on to one from every such answer, has one. -/
theorem exists_ok_bind {x : Except Fault β} {next : β → Except Fault γ} {P : β → Prop}
    {Q : γ → Prop} (hx : ∃ b, x = .ok b ∧ P b)
    (hnext : ∀ b, P b → ∃ c, next b = .ok c ∧ Q c) : ∃ c, x >>= next = .ok c ∧ Q c := by
  obtain ⟨b, rfl, hb⟩ := hx
  exact hnext b hb

/-! ## One request after another -/

theorem mapM_cons_eq_ok {f : β → Except Fault γ} {x : β} {xs : List β} {ys : List γ}
    (h : (x :: xs).mapM f = .ok ys) :
    ∃ y rest, f x = .ok y ∧ xs.mapM f = .ok rest ∧ ys = y :: rest := by
  rw [List.mapM_cons] at h
  obtain ⟨y, hy, h⟩ := bind_eq_ok h
  obtain ⟨rest, hrest, h⟩ := bind_eq_ok h
  exact ⟨y, rest, hy, hrest, (Except.ok.inj h).symm⟩

/-- All requests have an answer if all together have one. -/
theorem exists_ok_of_mapM {f : β → Except Fault γ} {x : β} : ∀ {xs : List β} {ys : List γ},
    xs.mapM f = .ok ys → x ∈ xs → ∃ y ∈ ys, f x = .ok y
  | z :: xs, ys, h, hmem => by
    obtain ⟨y, rest, hy, hrest, rfl⟩ := mapM_cons_eq_ok h
    rcases List.mem_cons.mp hmem with rfl | hmem
    · exact ⟨y, List.mem_cons_self, hy⟩
    · obtain ⟨y', hy', hx⟩ := exists_ok_of_mapM hrest hmem
      exact ⟨y', List.mem_cons_of_mem y hy', hx⟩

/-- The fault of all together is the fault of one. -/
theorem exists_error_of_mapM {f : β → Except Fault γ} {fault : Fault} : ∀ {xs : List β},
    xs.mapM f = .error fault → ∃ x ∈ xs, f x = .error fault
  | [], h => by cases h
  | x :: xs, h => by
    rw [List.mapM_cons] at h
    rcases bind_eq_error h with hx | ⟨y, -, h⟩
    · exact ⟨x, List.mem_cons_self, hx⟩
    · rcases bind_eq_error h with hrest | ⟨rest, -, h⟩
      · obtain ⟨z, hz, hfault⟩ := exists_error_of_mapM hrest
        exact ⟨z, List.mem_cons_of_mem x hz, hfault⟩
      · cases h

/-- What every answer keeps of its request, all answers keep of all requests. -/
theorem map_eq_of_mapM {δ : Type} {f : β → Except Fault γ} {g : γ → δ} {k : β → δ}
    (hkeep : ∀ x y, f x = .ok y → g y = k x) : ∀ {xs : List β} {ys : List γ},
    xs.mapM f = .ok ys → ys.map g = xs.map k
  | [], ys, h => by
    cases Except.ok.inj h
    rfl
  | x :: xs, ys, h => by
    obtain ⟨y, rest, hy, hrest, rfl⟩ := mapM_cons_eq_ok h
    rw [List.map_cons, List.map_cons, hkeep x y hy, map_eq_of_mapM hkeep hrest]

/-- Requests for what has been written, one by one, give back what has been written. -/
theorem mapM_map_of_written {write : γ → β} {read : β → Except Fault γ}
    (h : ∀ y, read (write y) = .ok y) : ∀ ys : List γ, (ys.map write).mapM read = .ok ys
  | [] => rfl
  | y :: ys => by
    rw [List.map_cons, List.mapM_cons, h, mapM_map_of_written h ys]
    rfl

end ReturnForecast
