/-!
# Walks that stop at the first fault

A walk takes things in order. It gives what they give, one after the other, as
long as none is at fault; otherwise it gives the fault of the first one that is.
`gather` says this without recursion: the first fault of the whole list decides.

The recursive walks over schemas are compared with it piece by piece, so the laws
here say how a gathering splits at the front and in the middle.
-/

namespace PayloadRules

section Gathering

variable {ε α β : Type} {fault? : α → Option ε} {give : α → List β}

/-- What the things give in order, or the first fault among them. -/
def gather (fault? : α → Option ε) (give : α → List β) (xs : List α) : Except ε (List β) :=
  match xs.findSome? fault? with
  | some e => .error e
  | none => .ok (xs.flatMap give)

/-- A fault in front decides, whatever follows. -/
theorem gather_cons_of_fault {x : α} {e : ε} (xs : List α) (h : fault? x = some e) :
    gather fault? give (x :: xs) = .error e := by
  simp only [gather, List.findSome?_cons, h]

/-- Without a fault in front the rest decides. -/
theorem gather_cons_of_sound {x : α} (xs : List α) (h : fault? x = none) :
    gather fault? give (x :: xs) = (gather fault? give xs).map (give x ++ ·) := by
  simp only [gather, List.findSome?_cons, h, List.flatMap_cons]
  cases xs.findSome? fault? <;> rfl

/-- Gathering goes from left to right. -/
theorem gather_append (fault? : α → Option ε) (give : α → List β) (xs ys : List α) :
    gather fault? give (xs ++ ys) =
      (gather fault? give xs).bind fun first => (gather fault? give ys).map (first ++ ·) := by
  simp only [gather, List.findSome?_append, List.flatMap_append]
  cases xs.findSome? fault? with
  | some e => rfl
  | none =>
    simp only [Option.none_or, Except.bind]
    cases ys.findSome? fault? <;> rfl

/-- A walk arrives when no thing on it is at fault, and then it has everything. -/
theorem gather_eq_ok_iff {xs : List α} {ys : List β} :
    gather fault? give xs = .ok ys ↔ (∀ x ∈ xs, fault? x = none) ∧ xs.flatMap give = ys := by
  rw [← List.findSome?_eq_none_iff, gather]
  cases xs.findSome? fault? with
  | some e => exact ⟨fun h => (nomatch h), fun h => (nomatch h.1)⟩
  | none => exact ⟨fun h => ⟨rfl, Except.ok.inj h⟩, fun h => congrArg Except.ok h.2⟩

/-- What is made of the things a walk gives exists when no thing on it is at fault. -/
theorem gather_map_eq_ok_iff {γ : Type} {make : List β → γ} {xs : List α} {y : γ} :
    (gather fault? give xs).map make = .ok y ↔
      (∀ x ∈ xs, fault? x = none) ∧ make (xs.flatMap give) = y := by
  constructor
  · intro h
    cases walk : gather fault? give xs with
    | error e =>
      rw [walk] at h
      cases h
    | ok ys =>
      rw [walk] at h
      obtain ⟨sound, rfl⟩ := gather_eq_ok_iff.mp walk
      exact ⟨sound, Except.ok.inj h⟩
  · rintro ⟨sound, rfl⟩
    rw [gather_eq_ok_iff.mpr ⟨sound, rfl⟩]
    rfl

/-- The first fault is that of the list of faults. -/
theorem findSome?_eq_of_map_eq {γ : Type} {other? : γ → Option ε} {xs : List α} {ys : List γ}
    (same : xs.map fault? = ys.map other?) : xs.findSome? fault? = ys.findSome? other? := by
  have front := congrArg (List.findSome? id) same
  rw [List.findSome?_map, List.findSome?_map] at front
  exact front

/-- Whatever is made of it, a walk with a fault on it ends in the first one. -/
theorem gather_map_eq_error_iff {γ : Type} {make : List β → γ} {xs : List α} {e : ε} :
    (gather fault? give xs).map make = .error e ↔ xs.findSome? fault? = some e := by
  rw [gather]
  cases xs.findSome? fault? with
  | some first => exact ⟨fun h => congrArg some (Except.error.inj h), fun h => by cases h; rfl⟩
  | none => exact ⟨fun h => (nomatch h), fun h => (nomatch h)⟩

end Gathering

end PayloadRules
