import QueryDesk.Proofs.Backend.Sending

/-! # Pauses that lead to no request

A pause makes sense if a request follows it. Sending a request waits in vain in one case only: when all
attempts are used up and the last answer asks for a pause (`everyWaitLeadsOn_iff`). The back-off stands
before an attempt that is made in any case; the pause that a server asks for is waited for without asking
whether there is another attempt (`waits_in_vain`).
-/

set_option autoImplicit false

namespace QueryDesk.Backend

/-- **Every pause is followed by a request.** -/
def EveryWaitLeadsOn (events : List Event) : Prop :=
  ∀ before ms after, events = before ++ .waited ms :: after → ∃ r, .sent r ∈ after

/-- Behind the last request there is at most the pause that was asked for. -/
theorem sent_or_last {before before' after : List Event} {r : Request} {pause : Option Nat} {ms : Nat}
    (h : before ++ .sent r :: waits pause = before' ++ .waited ms :: after) :
    .sent r ∈ after ∨ after = [] ∧ pause = some ms := by
  rcases List.append_eq_append_iff.mp h with ⟨between, -, htail⟩ | ⟨between, -, htail⟩
  · -- the pause stands behind the request
    cases between with
    | nil => exact absurd (List.cons.inj htail).1 Event.noConfusion
    | cons e between =>
        have hwaits := (List.cons.inj htail).2
        cases pause with
        | none => exact absurd hwaits (by simp [waits])
        | some ms' =>
            cases between with
            | nil =>
                obtain ⟨hms, hafter⟩ := List.cons.inj hwaits
                exact Or.inr ⟨hafter.symm, by rw [Event.waited.inj hms]⟩
            | cons e' between => exact absurd hwaits (by simp [waits])
  · -- the request stands behind the pause
    cases between with
    | nil => exact absurd (List.cons.inj htail).1 Event.noConfusion
    | cons e between =>
        have hafter := (List.cons.inj htail).2
        exact Or.inl (by simp [hafter])

theorem failsForNow_of_patienceAfter {o : Outcome} {ms : Nat} (h : patienceAfter o = some ms) :
    FailsForNow o := by
  cases o with
  | response r =>
      rw [patienceAfter, Option.ite_none_right_eq_some] at h
      exact h.1
  | late | refused | broken => exact absurd h (Option.some_ne_none _).symm

/-- The events of sending a request end with the last request and the pause that its answer asks for. -/
theorem events_send (r : Request) (maxRetries : Nat) (outcomes : Nat → Outcome) :
    ∃ last before, LastAttempt outcomes maxRetries last ((send r maxRetries).answer outcomes) ∧
      (send r maxRetries).events outcomes = before ++ .sent r :: waits (patienceAfter (outcomes last)) := by
  obtain ⟨last, hlast, hevents⟩ := run_attempts r 0 maxRetries outcomes
  rw [List.range_succ, List.flatMap_append, List.flatMap_singleton, attemptEvents, ← List.append_assoc]
    at hevents
  exact ⟨last, _, hlast, hevents⟩

/-- **After a pause the request is sent again**, unless all attempts failed for now and it is the pause that the
last answer asks for. -/
theorem sent_or_spent {r : Request} {maxRetries ms : Nat} {outcomes : Nat → Outcome}
    {before after : List Event} (h : (send r maxRetries).events outcomes = before ++ .waited ms :: after) :
    (∃ r', .sent r' ∈ after) ∨
      (after = [] ∧ (∀ k ≤ maxRetries, FailsForNow (outcomes k)) ∧
        patienceAfter (outcomes maxRetries) = some ms) := by
  obtain ⟨last, front, hlast, hevents⟩ := events_send r maxRetries outcomes
  rcases sent_or_last (hevents.symm.trans h) with hsent | ⟨hafter, hpatience⟩
  · exact Or.inl ⟨r, hsent⟩
  · have hfails := failsForNow_of_patienceAfter hpatience
    have hall := hlast.all_failed hfails
    obtain rfl := hlast.spent hfails
    exact Or.inr ⟨hafter, hall, hpatience⟩

/-- **The only pause that leads to no request is the last one a server asks for.** Every pause of sending a
request is followed by another request, unless all attempts failed for now and the last answer asks for a
pause; that pause is then the last thing that happens. -/
theorem everyWaitLeadsOn_iff (r : Request) (maxRetries : Nat) (outcomes : Nat → Outcome) :
    (EveryWaitLeadsOn ((send r maxRetries).events outcomes) ↔
      ¬((∀ k ≤ maxRetries, FailsForNow (outcomes k)) ∧ (patienceAfter (outcomes maxRetries)).isSome)) ∧
    ∀ before ms after, (send r maxRetries).events outcomes = before ++ .waited ms :: after →
      (∃ r', .sent r' ∈ after) ∨
        (after = [] ∧ (∀ k ≤ maxRetries, FailsForNow (outcomes k)) ∧
          patienceAfter (outcomes maxRetries) = some ms) := by
  refine ⟨?_, fun _ _ _ hsplit => sent_or_spent hsplit⟩
  constructor
  · rintro hleads ⟨hall, hpatience⟩
    obtain ⟨ms, hms⟩ := Option.isSome_iff_exists.mp hpatience
    obtain ⟨last, front, hlast, hevents⟩ := events_send r maxRetries outcomes
    obtain ⟨rfl, -⟩ := hlast.of_all_failed hall
    -- nothing is behind the pause after the last request
    rw [hms, waits, ← List.singleton_append, ← List.append_assoc] at hevents
    obtain ⟨r', hr'⟩ := hleads _ ms [] hevents
    exact absurd hr' List.not_mem_nil
  · intro hvain before ms after hsplit
    rcases sent_or_spent hsplit with hsent | ⟨-, hall, hpatience⟩
    · exact hsent
    · exact absurd ⟨hall, by rw [hpatience]; rfl⟩ hvain

/-- A statement of SQL. -/
def statement : Request := ⟨.post, "http://server/api/sql", some (.object [("sql", .text "select 1")]), 5000⟩

/-- A server that asks for seven seconds. -/
def busy : Outcome := .response ⟨429, some "7", .text ""⟩

/-- **A request without retries waits for seven seconds before it fails.** -/
theorem waits_in_vain :
    ¬∀ (r : Request) (maxRetries : Nat) (outcomes : Nat → Outcome),
      EveryWaitLeadsOn ((send r maxRetries).events outcomes) := by
  intro h
  obtain ⟨r', hr'⟩ := h statement 0 (fun _ => busy) [.sent statement] 7000 [] (by rfl)
  exact absurd hr' List.not_mem_nil

end QueryDesk.Backend
