import OffHours.Proofs.Fleet.Refinement

/-!
# Where a sweep ends

A sweep is given as many moves as its machines can make, and that is enough: it ends where no
move is left. There either every machine is taken or some call in progress is answered only
after the limit, so a run is cut for no other reason.
-/

namespace OffHours

variable {σ κ : Type} {plane : ControlPlane σ κ} {orders : SweepOrders}

/-- The moves that a machine at a stage can still make, the one that takes its result included. -/
def Stage.weight : Stage σ → Nat
  | .waiting => 4
  | .reading _ _ _ => 3
  | .acting _ _ => 2
  | .finished _ => 1

/-- A machine in progress can make the moves of its stage. -/
theorem Progress.weight_eq (progress : Progress σ) : progress.weight = progress.stage.weight := by
  cases progress <;> rfl

/-- A machine that goes on has fewer moves left. -/
theorem Shift.weight_lt {machine : Machine} {ledger later : Ledger σ} {old new : Stage σ}
    (moved : Shift plane orders machine ledger old later new) : new.weight < old.weight := by
  cases moved <;> simp [Stage.weight]

namespace Sweep

variable {sweep moved : Sweep σ}

/-- The moves that machines in progress can still make. -/
def movesLeft : List (Visit σ) → Nat
  | [] => 0
  | visit :: rest => visit.progress.weight + movesLeft rest

/-- The moves of machines in two parts are those of both. -/
theorem movesLeft_append (front back : List (Visit σ)) :
    movesLeft (front ++ back) = movesLeft front + movesLeft back := by
  induction front with
  | nil => simp [movesLeft]
  | cons visit rest hypothesis =>
    rw [List.cons_append, movesLeft, movesLeft, hypothesis]
    omega

/-- The moves of a sweep are those of the machines that are not taken. -/
theorem weight_eq (sweep : Sweep σ) :
    sweep.weight = 4 * sweep.queue.length + movesLeft sweep.active := by
  have gathered : ∀ (visits : List (Visit σ)) (sum : Nat),
      visits.foldl (fun sum visit => sum + visit.progress.weight) sum = sum + movesLeft visits := by
    intro visits
    induction visits with
    | nil => exact fun sum => rfl
    | cons visit rest hypothesis =>
      intro sum
      rw [List.foldl_cons, hypothesis, movesLeft]
      omega
  exact gathered sweep.active (4 * sweep.queue.length)

/-- Settling a call in progress leaves fewer moves. -/
theorem settle_weight_lt (plane : ControlPlane σ κ) (orders : SweepOrders) {visit : Visit σ}
    {wait : Wait} (seated : sweep.Seated) (present : visit ∈ sweep.active)
    (busy : visit.progress.wait? = some wait) :
    (sweep.settle plane orders visit).weight < sweep.weight := by
  obtain ⟨progress, active, -, queue, shifted⟩ := settle_shift plane orders sweep visit busy
  obtain ⟨front, back, shape⟩ := List.append_of_mem present
  have fewer : progress.weight < visit.progress.weight := by
    rw [Progress.weight_eq, Progress.weight_eq]
    exact shifted.weight_lt
  have replaced := active.trans (update_active shape seated.nodup progress)
  rw [weight_eq, weight_eq, queue, replaced, shape]
  simp only [movesLeft_append, movesLeft]
  omega

/-- Taking a result or beginning a machine leaves fewer moves. -/
theorem proceed?_weight_lt (proceeded : sweep.proceed? plane orders = some moved) :
    moved.weight < sweep.weight := by
  rcases proceed?_cases proceeded with
    ⟨seat, machine, outcome, rest, active, rfl⟩ | ⟨machine, later, queue, rfl⟩
  · rw [weight_eq, weight_eq, active]
    simp [movesLeft, Progress.weight]
  · obtain ⟨progress, active, -, rest, shifted⟩ :=
      start_shift plane orders { sweep with queue := later } machine
    have fewer : progress.weight < 4 := by
      rw [Progress.weight_eq]
      exact shifted.weight_lt
    rw [weight_eq, weight_eq, active, rest, queue]
    simp only [movesLeft_append, movesLeft, List.length_cons]
    omega

/-- Every move of a sweep leaves fewer moves. -/
theorem step_weight_lt (seated : sweep.Seated) (made : sweep.step plane orders = some moved) :
    moved.weight < sweep.weight := by
  rcases step_cases made with ⟨wait, visit, next, rfl⟩ | proceeded
  · obtain ⟨present, busy⟩ := next?_mem next
    exact settle_weight_lt plane orders seated present busy
  · exact proceed?_weight_lt proceeded

/-- A number of moves that reaches the weight of a sweep leaves none. -/
theorem steps_step (count : Nat) (seated : sweep.Seated) (enough : sweep.weight ≤ count) :
    (sweep.steps plane orders count).step plane orders = none := by
  induction count generalizing sweep with
  | zero =>
    cases made : sweep.step plane orders with
    | none => simpa [steps] using made
    | some moved =>
      have fewer := step_weight_lt seated made
      omega
  | succ count hypothesis =>
    rw [steps]
    cases made : sweep.step plane orders with
    | none => exact made
    | some moved =>
      have fewer := step_weight_lt seated made
      exact hypothesis (step_reaches seated made).2 (by omega)

/-- A sweep makes all its moves. -/
theorem run_step (plane : ControlPlane σ κ) (orders : SweepOrders) (seated : sweep.Seated) :
    (sweep.run plane orders).step plane orders = none :=
  steps_step sweep.weight seated (Nat.le_refl sweep.weight)

/-- A machine with a call in progress is waited for. -/
theorem next?_ne_none {visit : Visit σ} {rest : List (Visit σ)} {wait : Wait}
    (busy : visit.progress.wait? = some wait) : next? (visit :: rest) ≠ none := by
  cases found : next? rest with
  | none => simp [next?, busy, found]
  | some later =>
    simp only [next?, busy, found]
    split <;> simp

/-- When no call is waited for, the first machine in progress is done. -/
theorem first_done_of_next? {visit : Visit σ} {rest : List (Visit σ)}
    (idle : next? (visit :: rest) = none) : ∃ outcome, visit.progress = .done outcome := by
  cases shape : visit.progress with
  | done outcome => exact ⟨outcome, rfl⟩
  | reading wait kind desired settle =>
    exact absurd idle (next?_ne_none (by rw [shape]; rfl))
  | acting wait desired action settle =>
    exact absurd idle (next?_ne_none (by rw [shape]; rfl))

/-- A sweep without a move left has taken every machine, or waits for a call that is answered
after the limit. -/
theorem complete_or_late (stuck : sweep.step plane orders = none) :
    sweep.isComplete = true ∨
      ∃ wait visit, next? sweep.active = some (wait, visit) ∧ orders.limit < wait.due := by
  cases next : next? sweep.active with
  | some first =>
    obtain ⟨wait, visit⟩ := first
    simp only [Sweep.step, next] at stuck
    split at stuck
    · simp at stuck
    · split at stuck
      · simp at stuck
      · split at stuck
        · simp at stuck
        · rename_i late
          exact Or.inr ⟨wait, visit, rfl, Nat.lt_of_not_le late⟩
  | none =>
    simp only [Sweep.step, next] at stuck
    left
    cases active : sweep.active with
    | cons visit rest =>
      rw [active] at next
      obtain ⟨outcome, done⟩ := first_done_of_next? next
      obtain ⟨seat, machine, progress⟩ := visit
      simp only at done
      subst done
      simp [proceed?, active] at stuck
    | nil =>
      cases queue : sweep.queue with
      | nil => simp [isComplete, active, queue]
      | cons machine later => simp [proceed?, active, queue] at stuck

end Sweep

end OffHours
