set_option autoImplicit false

/-! # Looking up keys

A lookup in a list of keyed values finds the first one with its key. -/

namespace FormatBridge

variable {α : Type}

theorem lookup_cons_eq (members : List (String × α)) (k key : String) (a : α) :
    ((k, a) :: members).lookup key = if key = k then some a else members.lookup key := by
  rw [List.lookup_cons]
  by_cases h : key = k
  · rw [if_pos h, beq_iff_eq.2 h]
  · rw [if_neg h, beq_eq_false_iff_ne.2 h]

/-- Taking a key out leaves the others. -/
theorem lookup_filter_ne (members : List (String × α)) (k key : String) :
    (members.filter (·.1 ≠ k)).lookup key = if key = k then none else members.lookup key := by
  induction members with
  | nil => simp
  | cons m members ih =>
    obtain ⟨k', a⟩ := m
    by_cases hk : k' = k
    · rw [List.filter_cons_of_neg (by simp [hk]), ih, lookup_cons_eq, hk]
      by_cases h : key = k
      · rw [if_pos h, if_pos h]
      · rw [if_neg h, if_neg h, if_neg h]
    · rw [List.filter_cons_of_pos (by simp [hk]), lookup_cons_eq, lookup_cons_eq, ih]
      by_cases h : key = k'
      · rw [if_pos h, if_pos h, if_neg (h ▸ hk)]
      · rw [if_neg h, if_neg h]

theorem lookup_eq_head?_filter (members : List (String × α)) (key : String) :
    members.lookup key = ((members.filter (·.1 = key)).head?).map (·.2) := by
  induction members with
  | nil => rfl
  | cons m members ih =>
    obtain ⟨k, a⟩ := m
    rw [lookup_cons_eq, List.filter_cons]
    by_cases h : k = key
    · simp [h]
    · rw [if_neg (Ne.symm h), if_neg (by simpa using h), ih]

end FormatBridge
