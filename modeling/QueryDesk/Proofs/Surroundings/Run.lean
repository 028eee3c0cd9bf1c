import QueryDesk.Surroundings.Rehearsal

/-! # Runs of dialogues

What a dialogue does at the transport and at the clock, where the outcomes of its requests are given in
advance (`Dialogue.run`). Of a dialogue that only sends one request again and again this is all that
happens: played on a stage it has the answer of the run, and it takes as long as the pauses of the run and
the requests in it (`play_of_onlySends`).
-/

set_option autoImplicit false

namespace QueryDesk

variable {α β : Type}

/-- **What a dialogue does at the transport or the clock.** -/
inductive Event where
  | sent (r : Request)
  | waited (ms : Nat)

namespace Dialogue

/-- **A run of a dialogue**: what it does, and its answer, where its requests come out as `outcomes` says in
turn. It finds no files and saves none. -/
def run : Dialogue α → (Nat → Outcome) → List Event × α
  | .done a, _ => ([], a)
  | .request r next, outcomes =>
    let rest := (next (outcomes 0)).run fun i => outcomes (i + 1)
    (.sent r :: rest.1, rest.2)
  | .pause ms next, outcomes =>
    let rest := next.run outcomes
    (.waited ms :: rest.1, rest.2)
  | .read _ next, outcomes => (next .missing).run outcomes
  | .save _ _ next, outcomes => (next false).run outcomes
  | .print _ next, outcomes => next.run outcomes

/-- What a dialogue does. -/
def events (d : Dialogue α) (outcomes : Nat → Outcome) : List Event := (d.run outcomes).1

/-- What a dialogue answers. -/
def answer (d : Dialogue α) (outcomes : Nat → Outcome) : α := (d.run outcomes).2

theorem run_pure (a : α) (outcomes : Nat → Outcome) :
    (pure a : Dialogue α).run outcomes = ([], a) := rfl

theorem run_ask_bind (r : Request) (f : Outcome → Dialogue α) (outcomes : Nat → Outcome) :
    (ask r >>= f).run outcomes =
      (.sent r :: (f (outcomes 0)).events fun i => outcomes (i + 1),
        (f (outcomes 0)).answer fun i => outcomes (i + 1)) := rfl

/-! ## Runs on a stage -/

/-- A dialogue that only sends the request `r`, as often as it likes, and waits. -/
inductive OnlySends (r : Request) : Dialogue α → Prop
  | done (a : α) : OnlySends r (.done a)
  | request {next : Outcome → Dialogue α} (h : ∀ o, OnlySends r (next o)) :
      OnlySends r (.request r next)
  | pause {ms : Nat} {next : Dialogue α} (h : OnlySends r next) : OnlySends r (.pause ms next)

end Dialogue

/-- How long a dialogue waits on a stage. -/
def waitedMs : List Event → Nat
  | [] => 0
  | .sent _ :: rest => waitedMs rest
  | .waited ms :: rest => min ms longestPause + waitedMs rest

/-- The requests that a dialogue sends. -/
def sentRequests : List Event → List Request
  | [] => []
  | .sent r :: rest => r :: sentRequests rest
  | .waited _ :: rest => sentRequests rest

namespace Stage

/-- How requests with a time limit come out that are sent on the stage in turn. -/
def outcomes (s : Stage) (limitMs : Nat) (i : Nat) : Outcome :=
  (s.script[i]?.map (Cue.outcome limitMs)).getD .refused

/-- How long so many requests with a time limit take where these cues come up. -/
def hangingMs (limitMs : Nat) : Nat → List Cue → Nat
  | 0, _ => 0
  | _ + 1, [] => 0
  | count + 1, cue :: rest => min (cue.time limitMs) longestPause + hangingMs limitMs count rest

variable {r : Request}

theorem answer_fst (s : Stage) : (s.answer r).1 = s.outcomes r.timeoutMs.toNat 0 := by
  rw [answer, outcomes]
  cases s.script <;> rfl

/-- After a request the next outcomes come up. -/
theorem outcomes_answer (s : Stage) (limitMs i : Nat) :
    (s.answer r).2.outcomes limitMs i = s.outcomes limitMs (i + 1) := by
  rw [answer]
  cases h : s.script with
  | nil => simp [outcomes, h]
  | cons cue rest => simp [outcomes, h]

theorem hangingMs_nil (limitMs count : Nat) : hangingMs limitMs count [] = 0 := by
  cases count <;> rfl

theorem elapsedMs_answer (s : Stage) (count : Nat) :
    (s.answer r).2.elapsedMs + hangingMs r.timeoutMs.toNat count (s.answer r).2.script =
      s.elapsedMs + hangingMs r.timeoutMs.toNat (count + 1) s.script := by
  rw [answer]
  cases h : s.script with
  | nil => simp [hangingMs_nil, h]
  | cons cue rest =>
      simp [hangingMs, h, pass]
      omega

/-- **A stage plays a run**: the answer is that of the run, and the time that passes is that of its pauses
and of its requests. -/
theorem play_of_onlySends {d : Dialogue α} (h : d.OnlySends r) (s : Stage) :
    (s.play d).1 = d.answer (s.outcomes r.timeoutMs.toNat) ∧
      (s.play d).2.elapsedMs =
        s.elapsedMs + waitedMs (d.events (s.outcomes r.timeoutMs.toNat)) +
          hangingMs r.timeoutMs.toNat
            (sentRequests (d.events (s.outcomes r.timeoutMs.toNat))).length s.script := by
  induction h generalizing s with
  | done a => exact ⟨rfl, rfl⟩
  | @pause ms next _ ih =>
      obtain ⟨hanswer, helapsed⟩ := ih (s.pass ms)
      refine ⟨hanswer, helapsed.trans ?_⟩
      show s.elapsedMs + min ms longestPause + _ + _ = s.elapsedMs + (min ms longestPause + _) + _
      rw [Nat.add_assoc s.elapsedMs]
      rfl
  | @request next _ ih =>
      have hplay : s.play (.request r next) =
          (s.answer r).2.play (next (s.outcomes r.timeoutMs.toNat 0)) := by
        rw [← answer_fst]
        rfl
      have houtcomes : (s.answer r).2.outcomes r.timeoutMs.toNat =
          fun i => s.outcomes r.timeoutMs.toNat (i + 1) := funext (s.outcomes_answer _)
      obtain ⟨hanswer, helapsed⟩ := ih (s.outcomes r.timeoutMs.toNat 0) (s.answer r).2
      rw [houtcomes] at hanswer helapsed
      rw [hplay]
      refine ⟨hanswer, helapsed.trans ?_⟩
      have htime := s.elapsedMs_answer (r := r)
        (sentRequests ((next (s.outcomes r.timeoutMs.toNat 0)).events fun i =>
          s.outcomes r.timeoutMs.toNat (i + 1))).length
      show _ = s.elapsedMs + waitedMs ((next (s.outcomes r.timeoutMs.toNat 0)).events _) +
        hangingMs r.timeoutMs.toNat ((sentRequests ((next _).events _)).length + 1) s.script
      omega

end Stage

end QueryDesk
