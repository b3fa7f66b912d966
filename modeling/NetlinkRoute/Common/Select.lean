import NetlinkRoute.Common.Outcome
/-!
# Select — a `match` on constants

`match kind { A => x, B => y, _ => z }` takes the first arm whose
constant is the scrutinee. Written as a list of arms, what holds of each
arm and of the default holds of the whole (`select_ind`), so a table of
fifty arms is reasoned about once.
-/

namespace NetlinkRoute

variable {κ α : Type} [DecidableEq κ]

/-- The first arm whose constant is `k`, else the default. -/
def select (k : κ) : List (κ × α) → α → α
  | [], d => d
  | arm :: arms, d => if k = arm.1 then arm.2 else select k arms d

variable {k : κ} {arms : List (κ × α)} {d : α}

/-- **Arm by arm.** What each arm has when taken, and the default when
none is, the selection has. -/
theorem select_ind {P : α → Prop} (harm : ∀ arm ∈ arms, k = arm.1 → P arm.2)
    (hd : k ∉ arms.map Prod.fst → P d) : P (select k arms d) := by
  induction arms with
  | nil => exact hd (by simp)
  | cons arm arms ih =>
    rw [select]
    split
    · next h => exact harm arm (by simp) h
    · next h =>
      refine ih (fun a ha => harm a (by simp [ha])) fun hk => hd ?_
      simpa [h] using hk

/-- A kind that no arm names goes to the default. -/
theorem select_default (h : k ∉ arms.map Prod.fst) : select k arms d = d := by
  induction arms with
  | nil => rfl
  | cons arm arms ih =>
    simp only [List.map_cons, List.mem_cons, not_or] at h
    rw [select, if_neg h.1, ih h.2]

/-- The arm found by its constant. -/
theorem select_of_find {arm : κ × α} (h : arms.find? (fun a => decide (k = a.1)) = some arm) :
    select k arms d = arm.2 := by
  induction arms with
  | nil => simp at h
  | cons a arms ih =>
    rw [select]
    by_cases hk : k = a.1
    · rw [if_pos hk]
      simp [hk] at h
      rw [h]
    · rw [if_neg hk]
      exact ih (by simpa [List.find?_cons, hk] using h)

/-- Which arm was taken. -/
theorem select_cases (k : κ) (arms : List (κ × α)) (d : α) :
    (∃ arm ∈ arms, k = arm.1 ∧ select k arms d = arm.2) ∨
      (k ∉ arms.map Prod.fst ∧ select k arms d = d) := by
  induction arms with
  | nil => exact .inr ⟨by simp, rfl⟩
  | cons arm arms ih =>
    rw [select]
    by_cases hk : k = arm.1
    · exact .inl ⟨arm, by simp, hk, if_pos hk⟩
    · rw [if_neg hk]
      rcases ih with ⟨a, ha, h⟩ | ⟨h, h'⟩
      · exact .inl ⟨a, by simp [ha], h⟩
      · exact .inr ⟨by simp [hk, h], h'⟩

/-! ## Arms for several constants -/

/-- The first arm that lists `k`, else the default. -/
def selectAny (k : κ) : List (List κ × α) → α → α
  | [], d => d
  | arm :: arms, d => if k ∈ arm.1 then arm.2 else selectAny k arms d

section Any

variable {arms : List (List κ × α)}

/-- What each arm has when taken, and the default, the selection has. -/
theorem selectAny_ind {P : α → Prop} (harm : ∀ arm ∈ arms, k ∈ arm.1 → P arm.2) (hd : P d) :
    P (selectAny k arms d) := by
  induction arms with
  | nil => exact hd
  | cons arm arms ih =>
    rw [selectAny]
    by_cases hk : k ∈ arm.1
    · rw [if_pos hk]
      exact harm arm (by simp) hk
    · rw [if_neg hk]
      exact ih fun a ha => harm a (by simp [ha])

/-- The arm found by its constants. -/
theorem selectAny_of_find {arm : List κ × α}
    (h : arms.find? (fun a => decide (k ∈ a.1)) = some arm) : selectAny k arms d = arm.2 := by
  induction arms with
  | nil => simp at h
  | cons a arms ih =>
    rw [selectAny]
    by_cases hk : k ∈ a.1
    · rw [if_pos hk]
      simp only [List.find?_cons, hk, decide_true, Option.some.injEq] at h
      rw [h]
    · rw [if_neg hk]
      exact ih (by simpa [List.find?_cons, hk] using h)

end Any

/-! ## Selecting between calls -/

section Calls

variable {α : Type} {arms : List (κ × Outcome α)} {d : Outcome α}

/-- What each arm comes back with has `P`, and so has what the default
does when no arm is taken. -/
theorem holds_select {P : α → Prop} (harm : ∀ arm ∈ arms, arm.2.Holds P)
    (hd : k ∉ arms.map Prod.fst → d.Holds P) : (select k arms d).Holds P :=
  select_ind (fun arm ha _ => harm arm ha) hd

/-- A choice among arms that do not panic does not. -/
theorem select_ne_panic (harm : ∀ arm ∈ arms, k = arm.1 → arm.2 ≠ .panic) (hd : d ≠ .panic) :
    select k arms d ≠ .panic :=
  select_ind (P := fun o : Outcome α => o ≠ .panic) harm fun _ => hd

/-- **A selection panics when the arm it takes does.** -/
theorem select_eq_panic_iff (hn : (arms.map Prod.fst).Nodup) (hd : d ≠ .panic) :
    select k arms d = .panic ↔ ∃ arm ∈ arms, k = arm.1 ∧ arm.2 = .panic := by
  constructor
  · intro h
    rcases select_cases k arms d with ⟨arm, ha, hk, hs⟩ | ⟨-, hs⟩
    · exact ⟨arm, ha, hk, hs ▸ h⟩
    · exact absurd (hs ▸ h) hd
  · rintro ⟨arm, ha, hk, hp⟩
    rcases select_cases k arms d with ⟨arm', ha', hk', hs⟩ | ⟨hk', -⟩
    · rw [hs, List.inj_on_of_nodup_map hn ha' ha (hk' ▸ hk), hp]
    · exact absurd (List.mem_map.2 ⟨arm, ha, hk.symm⟩) hk'

end Calls

end NetlinkRoute
