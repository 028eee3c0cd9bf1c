import QueryDesk.Backend.Sending
import QueryDesk.Proofs.Surroundings.Run

/-! # How often a request is sent

A request is sent until an outcome settles it, and at most `maxRetries` times more than once. The run of
`send` is its attempts one after the other (`run_attempts`); how many there are, and what the answer is,
follows from the outcomes (`send_retries`). Whether an attempt is repeated is decided in one place by the
status of a response and in another by the failure that would be returned: a failure that is returned may
be retried exactly if no attempt was left.
-/

set_option autoImplicit false

namespace QueryDesk.Backend

/-! ## What outcomes mean -/

/-- An outcome after which the request may be sent again: the server asks for fewer requests, or there was
no connection. -/
def FailsForNow : Outcome → Prop
  | .response r => r.status = 429
  | .refused => True
  | .late | .broken => False

/-- **What a body says**: its text if it arrived, and nothing if it did not. -/
inductive Says : Body → String → Prop
  | arrived {text : String} : Says (.text text) text
  | cut : Says .cut ""
  | late : Says .late ""

/-- **The answer that another outcome settles a request with.** -/
inductive Settles : Outcome → Except Failure Response → Prop
  | success {r : Response} (h : 200 ≤ r.status ∧ r.status < 300) : Settles (.response r) (.ok r)
  | rejected {r : Response} {text : String} (h : ¬(200 ≤ r.status ∧ r.status < 300))
      (hne : r.status ≠ 429) (hbody : Says r.body text) :
      Settles (.response r) (.error (.api r.status text))
  | late : Settles .late (.error .timeout)
  | broken : Settles .broken (.error .request)

/-- **The failure of an outcome after which a request may be sent again.** -/
inductive FailsWith : Outcome → Failure → Prop
  | limited {r : Response} (h : r.status = 429) :
      FailsWith (.response r) (.api 429 "rate limited")
  | refused : FailsWith .refused .unavailable

/-- The pause that a server asks for which asks for fewer requests. -/
def patienceAfter : Outcome → Option Nat
  | .response r => if r.status = 429 then patience? r else none
  | .late | .refused | .broken => none

theorem says_iff {b : Body} {text : String} : Says b text ↔ bodyText b = text := by
  constructor
  · intro h
    cases h <;> rfl
  · rintro rfl
    cases b with
    | text s => exact .arrived
    | cut => exact .cut
    | late => exact .late

theorem isSuccess_iff {status : Nat} : isSuccess status = true ↔ 200 ≤ status ∧ status < 300 := by
  simp [isSuccess]

theorem Settles.not_failsForNow {o : Outcome} {a : Except Failure Response} (h : Settles o a) :
    ¬FailsForNow o := by
  cases h with
  | success h => intro (hstatus : _ = 429); omega
  | rejected _ hne _ => exact hne
  | late => exact id
  | broken => exact id

theorem FailsWith.failsForNow {o : Outcome} {f : Failure} (h : FailsWith o f) : FailsForNow o := by
  cases h with
  | limited h => exact h
  | refused => exact trivial

/-- An outcome settles a request, or the request may be sent again. -/
theorem settles_or_failsWith (o : Outcome) : (∃ a, Settles o a) ∨ ∃ f, FailsWith o f := by
  cases o with
  | response r =>
      by_cases hsuccess : 200 ≤ r.status ∧ r.status < 300
      · exact Or.inl ⟨_, .success hsuccess⟩
      · by_cases hlimited : r.status = 429
        · exact Or.inr ⟨_, .limited hlimited⟩
        · exact Or.inl ⟨_, .rejected hsuccess hlimited (says_iff.mpr rfl)⟩
  | late => exact Or.inl ⟨_, .late⟩
  | refused => exact Or.inr ⟨_, .refused⟩
  | broken => exact Or.inl ⟨_, .broken⟩

theorem verdict_of_settles {o : Outcome} {a : Except Failure Response} (h : Settles o a) :
    verdict o = .settled a := by
  cases h with
  | success h => simp [verdict, isSuccess_iff.mpr h]
  | rejected h hne hbody =>
      simp [verdict, Bool.eq_false_iff.mpr (mt isSuccess_iff.mp h), tooManyRequests, hne, says_iff.mp hbody]
  | late => rfl
  | broken => rfl

theorem verdict_of_failsWith {o : Outcome} {f : Failure} (h : FailsWith o f) :
    verdict o = .again (patienceAfter o) f := by
  cases h with
  | limited h => simp [verdict, isSuccess, tooManyRequests, patienceAfter, h]
  | refused => rfl

/-- A failure may be retried exactly if its outcome may. -/
theorem FailsWith.isRetryable {o : Outcome} {f : Failure} (h : FailsWith o f) : f.isRetryable = true := by
  cases h <;> rfl

theorem Settles.not_isRetryable {o : Outcome} {f : Failure} (h : Settles o (.error f)) :
    f.isRetryable = false := by
  cases h with
  | rejected _ hne _ => simpa [Failure.isRetryable, tooManyRequests] using hne
  | late => rfl
  | broken => rfl

/-! ## One attempt -/

/-- A pause, if there is one. -/
def waits : Option Nat → List Event
  | none => []
  | some ms => [.waited ms]

/-- **What an attempt does**: the back-off if it is not the first one, the request, and the pause that the
server asks for. -/
def attemptEvents (r : Request) (attempt : Nat) (o : Outcome) : List Event :=
  waits (if attempt = 0 then none else some (backOff attempt)) ++ .sent r :: waits (patienceAfter o)

variable {α : Type} {outcomes : Nat → Outcome}

theorem run_waitFor_bind (pause : Option Nat) (f : Unit → Dialogue α) :
    (waitFor pause >>= f).run outcomes =
      (waits pause ++ (f ()).events outcomes, (f ()).answer outcomes) := by
  cases pause <;> rfl

theorem patienceAfter_of_settles {o : Outcome} {a : Except Failure Response} (h : Settles o a) :
    patienceAfter o = none := by
  cases o with
  | response r => exact if_neg h.not_failsForNow
  | late | refused | broken => rfl

/-- An outcome that settles the request ends the attempts. -/
theorem run_attempts_of_settles {a : Except Failure Response} (h : Settles (outcomes 0) a) (r : Request)
    (attempt more : Nat) :
    (attempts r attempt more).run outcomes = (attemptEvents r attempt (outcomes 0), a) := by
  cases more <;>
    simp [attempts, waitBefore, run_waitFor_bind, Dialogue.events, Dialogue.answer, Dialogue.run_ask_bind,
      verdict_of_settles h, attemptEvents, patienceAfter_of_settles h, waits, Dialogue.run_pure]

/-- So does a failure on the last attempt. -/
theorem run_attempts_zero {f : Failure} (h : FailsWith (outcomes 0) f) (r : Request) (attempt : Nat) :
    (attempts r attempt 0).run outcomes = (attemptEvents r attempt (outcomes 0), .error f) := by
  simp [attempts, waitBefore, run_waitFor_bind, Dialogue.events, Dialogue.answer, Dialogue.run_ask_bind,
    verdict_of_failsWith h, attemptEvents, Dialogue.run_pure]

/-- Before the last attempt the next one follows. -/
theorem run_attempts_succ {f : Failure} (h : FailsWith (outcomes 0) f) (r : Request) (attempt more : Nat) :
    (attempts r attempt (more + 1)).run outcomes =
      (attemptEvents r attempt (outcomes 0) ++
          (attempts r (attempt + 1) more).events fun i => outcomes (i + 1),
        (attempts r (attempt + 1) more).answer fun i => outcomes (i + 1)) := by
  simp [attempts, waitBefore, run_waitFor_bind, Dialogue.events, Dialogue.answer, Dialogue.run_ask_bind,
    verdict_of_failsWith h, attemptEvents]

theorem onlySends_waitFor_bind {r : Request} (pause : Option Nat) {f : Unit → Dialogue α}
    (h : (f ()).OnlySends r) : (waitFor pause >>= f).OnlySends r := by
  cases pause with
  | none => exact h
  | some ms => exact .pause h

/-- Attempts send the request and wait, and do nothing else. -/
theorem onlySends_attempts (r : Request) (attempt more : Nat) : (attempts r attempt more).OnlySends r := by
  induction more generalizing attempt with
  | zero =>
      refine onlySends_waitFor_bind _ (.request fun o => ?_)
      rcases settles_or_failsWith o with ⟨a, ha⟩ | ⟨f, hf⟩
      · simp only [Dialogue.bind, verdict_of_settles ha]
        exact .done a
      · simp only [Dialogue.bind, verdict_of_failsWith hf]
        exact onlySends_waitFor_bind _ (.done _)
  | succ more ih =>
      refine onlySends_waitFor_bind _ (.request fun o => ?_)
      rcases settles_or_failsWith o with ⟨a, ha⟩ | ⟨f, hf⟩
      · simp only [Dialogue.bind, verdict_of_settles ha]
        exact .done a
      · simp only [Dialogue.bind, verdict_of_failsWith hf]
        exact onlySends_waitFor_bind _ (ih (attempt + 1))

/-- **A stage plays what was sent as the run has it.** -/
theorem play_send (r : Request) (maxRetries : Nat) (s : Stage) :
    (s.play (send r maxRetries)).1 = (send r maxRetries).answer (s.outcomes r.timeoutMs.toNat) :=
  (Stage.play_of_onlySends (onlySends_attempts r 0 maxRetries) s).1

/-! ## All attempts -/

/-- How an outcome is answered if no further attempt is made. -/
def Answers (o : Outcome) (a : Except Failure Response) : Prop :=
  Settles o a ∨ ∃ f, FailsWith o f ∧ a = .error f

/-- **The last attempt**, of `more` that are allowed after the first one, and its answer. All attempts before it
failed for now, and so did the last one itself only if no other is left. -/
structure LastAttempt (outcomes : Nat → Outcome) (more last : Nat) (a : Except Failure Response) : Prop where
  allowed : last ≤ more
  before : ∀ i < last, FailsForNow (outcomes i)
  spent : FailsForNow (outcomes last) → last = more
  answers : Answers (outcomes last) a

namespace LastAttempt

variable {more last : Nat} {a : Except Failure Response}

theorem of_settles (h : Settles (outcomes 0) a) (more : Nat) : LastAttempt outcomes more 0 a where
  allowed := Nat.zero_le more
  before := fun i hi => absurd hi (Nat.not_lt_zero i)
  spent := fun hfails => absurd hfails h.not_failsForNow
  answers := Or.inl h

theorem of_failsWith {f : Failure} (h : FailsWith (outcomes 0) f) : LastAttempt outcomes 0 0 (.error f) where
  allowed := Nat.le_refl 0
  before := fun i hi => absurd hi (Nat.not_lt_zero i)
  spent := fun _ => rfl
  answers := Or.inr ⟨f, h, rfl⟩

/-- A failure in front is one more attempt. -/
theorem succ (hfails : FailsForNow (outcomes 0)) (h : LastAttempt (fun i => outcomes (i + 1)) more last a) :
    LastAttempt outcomes (more + 1) (last + 1) a where
  allowed := Nat.succ_le_succ h.allowed
  before := by
    intro i hi
    cases i with
    | zero => exact hfails
    | succ i => exact h.before i (Nat.lt_of_succ_lt_succ hi)
  spent := fun hlast => congrArg Nat.succ (h.spent hlast)
  answers := h.answers

/-- The first outcome that does not fail for now is the last one, if it is reached. -/
theorem eq_first (h : LastAttempt outcomes more last a) {k : Nat} (hk : k ≤ more)
    (hfirst : ∀ i < k, FailsForNow (outcomes i)) (hk' : ¬FailsForNow (outcomes k)) : last = k := by
  rcases Nat.lt_trichotomy last k with hlt | heq | hgt
  · have hspent := h.spent (hfirst last hlt)
    omega
  · exact heq
  · exact absurd (h.before k hgt) hk'

theorem settles (h : LastAttempt outcomes more last a) (hlast : ¬FailsForNow (outcomes last)) :
    Settles (outcomes last) a := by
  rcases h.answers with hsettles | ⟨f, hf, -⟩
  · exact hsettles
  · exact absurd hf.failsForNow hlast

/-- If the last attempt fails for now, all attempts did. -/
theorem all_failed (h : LastAttempt outcomes more last a) (hlast : FailsForNow (outcomes last)) :
    ∀ k ≤ more, FailsForNow (outcomes k) := by
  obtain rfl := h.spent hlast
  intro k hk
  rcases Nat.lt_or_eq_of_le hk with hlt | rfl
  · exact h.before k hlt
  · exact hlast

/-- If all attempts fail for now, the last one is the last that is allowed, and its failure is returned. -/
theorem of_all_failed (h : LastAttempt outcomes more last a) (hall : ∀ k ≤ more, FailsForNow (outcomes k)) :
    last = more ∧ ∃ f, FailsWith (outcomes more) f ∧ a = .error f := by
  have hlast := hall last h.allowed
  obtain rfl := h.spent hlast
  rcases h.answers with hsettles | hfailed
  · exact absurd hlast hsettles.not_failsForNow
  · exact ⟨rfl, hfailed⟩

/-- **A failure that may be retried means that every allowed attempt failed for now.** -/
theorem isRetryable_iff (h : LastAttempt outcomes more last a) :
    (∃ f, a = .error f ∧ f.isRetryable = true) ↔ ∀ k ≤ more, FailsForNow (outcomes k) := by
  constructor
  · rintro ⟨f, rfl, hretryable⟩
    rcases h.answers with hsettles | ⟨f', hf', -⟩
    · rw [hsettles.not_isRetryable] at hretryable
      exact absurd hretryable Bool.false_ne_true
    · exact h.all_failed hf'.failsForNow
  · intro hall
    obtain ⟨-, f, hf, rfl⟩ := h.of_all_failed hall
    exact ⟨f, rfl, hf.isRetryable⟩

end LastAttempt

/-- **The attempts of a request, one after the other**, up to the last one, which is answered. -/
theorem run_attempts (r : Request) (attempt more : Nat) (outcomes : Nat → Outcome) :
    ∃ last, LastAttempt outcomes more last ((attempts r attempt more).answer outcomes) ∧
      (attempts r attempt more).events outcomes =
        (List.range (last + 1)).flatMap fun i => attemptEvents r (attempt + i) (outcomes i) := by
  induction more generalizing attempt outcomes with
  | zero =>
      refine ⟨0, ?_⟩
      rcases settles_or_failsWith (outcomes 0) with ⟨a, ha⟩ | ⟨f, hf⟩
      · rw [Dialogue.answer, Dialogue.events, run_attempts_of_settles ha]
        exact ⟨.of_settles ha 0, by simp⟩
      · rw [Dialogue.answer, Dialogue.events, run_attempts_zero hf]
        exact ⟨.of_failsWith hf, by simp⟩
  | succ more ih =>
      rcases settles_or_failsWith (outcomes 0) with ⟨a, ha⟩ | ⟨f, hf⟩
      · refine ⟨0, ?_⟩
        rw [Dialogue.answer, Dialogue.events, run_attempts_of_settles ha]
        exact ⟨.of_settles ha (more + 1), by simp⟩
      · obtain ⟨last, hlast, hevents⟩ := ih (attempt + 1) fun i => outcomes (i + 1)
        refine ⟨last + 1, ?_⟩
        rw [Dialogue.answer, Dialogue.events, run_attempts_succ hf]
        refine ⟨hlast.succ hf.failsForNow, ?_⟩
        rw [hevents, List.range_succ_eq_map (n := last + 1), List.flatMap_cons, List.flatMap_map]
        simp [Nat.add_assoc, Nat.add_comm 1]

theorem sentRequests_append (before after : List Event) :
    sentRequests (before ++ after) = sentRequests before ++ sentRequests after := by
  induction before with
  | nil => rfl
  | cons e before ih => cases e <;> simp [sentRequests, ih]

theorem sentRequests_waits (pause : Option Nat) : sentRequests (waits pause) = [] := by
  cases pause <;> rfl

/-- **An attempt sends the request once.** -/
theorem sentRequests_attemptEvents (r : Request) (attempt : Nat) (o : Outcome) :
    sentRequests (attemptEvents r attempt o) = [r] := by
  rw [attemptEvents, sentRequests_append, sentRequests_waits, sentRequests, sentRequests_waits]
  rfl

theorem sentRequests_attempts (r : Request) (events : Nat → List Event) (count : Nat)
    (h : ∀ i, sentRequests (events i) = [r]) :
    sentRequests ((List.range count).flatMap events) = List.replicate count r := by
  induction count with
  | zero => rfl
  | succ count ih =>
      rw [List.range_succ, List.flatMap_append, sentRequests_append, ih, List.replicate_succ']
      simp [h]

/-- **A request is sent once for every attempt**, up to the last one. -/
theorem send_attempts (r : Request) (maxRetries : Nat) (outcomes : Nat → Outcome) :
    ∃ last, LastAttempt outcomes maxRetries last ((send r maxRetries).answer outcomes) ∧
      sentRequests ((send r maxRetries).events outcomes) = List.replicate (last + 1) r := by
  obtain ⟨last, hlast, hevents⟩ := run_attempts r 0 maxRetries outcomes
  refine ⟨last, hlast, ?_⟩
  rw [send, hevents]
  exact sentRequests_attempts r _ _ fun i => sentRequests_attemptEvents r _ _

/-- **How often a request is sent, and what is answered.** If the outcome `k` is the first that does not fail
for now, and `k` retries are allowed, the request is sent `k + 1` times and the outcome `k` settles it.
Otherwise it is sent as often as allowed and the failure of the last outcome is returned. So a failure that
may be retried is returned exactly if all attempts were made and every one of them failed for now. -/
theorem send_retries (r : Request) (maxRetries : Nat) (outcomes : Nat → Outcome) :
    (∀ k ≤ maxRetries, (∀ i < k, FailsForNow (outcomes i)) → ¬FailsForNow (outcomes k) →
      sentRequests ((send r maxRetries).events outcomes) = List.replicate (k + 1) r ∧
        Settles (outcomes k) ((send r maxRetries).answer outcomes)) ∧
    ((∀ k ≤ maxRetries, FailsForNow (outcomes k)) →
      sentRequests ((send r maxRetries).events outcomes) = List.replicate (maxRetries + 1) r ∧
        ∃ f, FailsWith (outcomes maxRetries) f ∧ (send r maxRetries).answer outcomes = .error f) ∧
    ((∃ f, (send r maxRetries).answer outcomes = .error f ∧ f.isRetryable = true) ↔
      (sentRequests ((send r maxRetries).events outcomes)).length = maxRetries + 1 ∧
        ∀ k ≤ maxRetries, FailsForNow (outcomes k)) := by
  obtain ⟨last, hlast, hsent⟩ := send_attempts r maxRetries outcomes
  refine ⟨?_, ?_, ?_⟩
  · intro k hk hfirst hsettled
    obtain rfl := hlast.eq_first hk hfirst hsettled
    exact ⟨hsent, hlast.settles hsettled⟩
  · intro hall
    obtain ⟨rfl, hfailed⟩ := hlast.of_all_failed hall
    exact ⟨hsent, hfailed⟩
  · rw [hlast.isRetryable_iff]
    constructor
    · intro hall
      obtain ⟨rfl, -⟩ := hlast.of_all_failed hall
      exact ⟨by rw [hsent, List.length_replicate], hall⟩
    · exact fun h => h.2

end QueryDesk.Backend
