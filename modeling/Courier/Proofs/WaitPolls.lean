import Courier.Proofs.RunnerClock
import Mathlib

/-!
# The polls of a wait

The polls of a wait can be told one after the other without the loop that makes them. Each
begins with the runner that the one before has left, after a sleep of one interval; it ends
somewhere later, with a value, without one, or with a failure. What the loop adds is the
decision after each poll, and the fuel.

The fuel is bookkeeping. A poll that is followed by another ends an interval before the
deadline at the latest, and a sleep comes after it; so the time to the deadline, counted in
such sleeps, bounds the polls that can still follow, and goes down by one with each. The
interval and the sleep are the same unless the interval is longer than any sleep.

For the reports of a wait nothing has to be known about the loop. A wait that is told comes
about on the desk like everything else, and nothing leaves a desk without a flush.
-/

namespace Courier

open Run

theorem timer_pos {ms : Nat} (h : 0 < ms) : 0 < timer ms := Nat.lt_min.2 ⟨h, by decide⟩

/-- A wait that this runner begins in these surroundings. -/
structure Wait (ω α : Type) where
  env : Surroundings ω
  runner : Runner ω
  condition : Condition ω α
  timeout : Nat
  interval : Nat

namespace Wait

variable {ω α : Type} (w : Wait ω α)

/-! ## One poll after the other -/

/-- The runner that has noted a failure, if there was one. -/
def noted (answer : Except Failure (Option α)) (r : Runner ω) : Runner ω :=
  match answer with
  | .ok _ => r
  | .error e => after (note (Log.debug ("Wait condition not met yet: " ++ e.message))) w.env r

/-- The runner at the beginning of a poll, if each poll before it was followed by another. -/
def begins : Nat → Runner ω
  | 0 => after (setContext w.runner.context.whilePolling) w.env w.runner
  | n + 1 => after (sleep w.interval) w.env
      (w.noted (result (w.condition n) w.env (begins n)) (after (w.condition n) w.env (begins n)))

/-- The answer of the condition at a poll. -/
def answer (n : Nat) : Except Failure (Option α) := result (w.condition n) w.env (w.begins n)

/-- The runner at the end of a poll. -/
def ends (n : Nat) : Runner ω := after (w.condition n) w.env (w.begins n)

/-- The runner that has taken note of the answer. -/
def heard (n : Nat) : Runner ω := w.noted (w.answer n) (w.ends n)

/-- The value that a poll has found, if it has. -/
def ready? (n : Nat) : Option α := (w.answer n).toOption.join

/-- The failure that a poll has met, if it has. -/
def failure? (n : Nat) : Option Failure :=
  match w.answer n with
  | .ok _ => none
  | .error e => some e

/-- The failures of the first polls, in their order. -/
def failures (n : Nat) : List Failure := (List.range n).filterMap w.failure?

/-- What the wait comes to if this poll is its last. -/
def verdict (n : Nat) : Except Failure α :=
  (w.ready? n).elim (.error (timeUp w.timeout (w.failures (n + 1)).getLast?)) .ok

/-- Milliseconds from the beginning of the wait to the beginning of a poll. -/
def beganAt (n : Nat) : Nat := (w.begins n).clock - w.runner.clock

/-- Milliseconds from the beginning of the wait to the end of a poll. -/
def endedAt (n : Nat) : Nat := (w.ends n).clock - w.runner.clock

/-- There is a poll after this one. -/
def GoesOn (n : Nat) : Prop := w.ready? n = none ∧ w.endedAt n + w.interval ≤ w.timeout

theorem heard_clock (n : Nat) : (w.heard n).clock = (w.ends n).clock := by
  unfold heard noted
  split <;> rfl

theorem begins_succ (n : Nat) : w.begins (n + 1) = after (sleep w.interval) w.env (w.heard n) := rfl

theorem begins_succ_clock (n : Nat) :
    (w.begins (n + 1)).clock = (w.ends n).clock + timer w.interval := by
  rw [← w.heard_clock]
  rfl

theorem getLast?_failures_succ (n : Nat) :
    (w.failures (n + 1)).getLast? = (w.failure? n).or (w.failures n).getLast? := by
  unfold failures
  rw [List.range_succ, List.filterMap_append, List.getLast?_append]
  cases h : w.failure? n with
  | none => simp [h]
  | some e => simp [h]

/-! ## The loop -/

section Loop

variable {w} {n : Nat} {deadline : Nat}

theorem bind_of_result {β γ : Type} {m : Run ω β} {f : β → Run ω γ} {env : Surroundings ω}
    {r : Runner ω} {b : β} (h : result m env r = b) :
    (m >>= f) env r = f b env (after m env r) := by
  rw [← h]
  rfl

theorem pollUntil_ready {a : α} (h : w.ready? n = some a) (last : Option Failure)
    (further : Nat) :
    pollUntil w.condition w.timeout w.interval deadline n last further w.env (w.begins n) =
      (⟨.ok a, n + 1⟩, w.heard n) := by
  have hanswer : w.answer n = .ok (some a) := by
    unfold ready? at h
    generalize w.answer n = x at h
    rcases x with e | _ | b
    · cases h
    · cases h
    · cases h
      rfl
  have hheard : w.heard n = w.ends n := by rw [heard, hanswer, noted]
  rw [hheard]
  cases further <;> rw [pollUntil, bind_of_result hanswer] <;> rfl

/-- After a poll that was not ready the clock decides, and the fuel where there is none left. -/
theorem pollUntil_pending (h : w.ready? n = none) :
    pollUntil w.condition w.timeout w.interval deadline n (w.failures n).getLast? 0
        w.env (w.begins n) = (⟨w.verdict n, n + 1⟩, w.heard n) ∧
    ∀ further, pollUntil w.condition w.timeout w.interval deadline n (w.failures n).getLast?
        (further + 1) w.env (w.begins n) =
      if deadline < (w.ends n).clock + w.interval then (⟨w.verdict n, n + 1⟩, w.heard n)
      else pollUntil w.condition w.timeout w.interval deadline (n + 1)
        (w.failures (n + 1)).getLast? further w.env (w.begins (n + 1)) := by
  have hverdict : w.verdict n =
      .error (timeUp w.timeout ((w.failure? n).or (w.failures n).getLast?)) := by
    rw [verdict, h, getLast?_failures_succ]
    rfl
  rw [hverdict, getLast?_failures_succ, ← w.heard_clock]
  have hanswer : result (w.condition n) w.env (w.begins n) = w.answer n := rfl
  -- What is remembered as the last failure is the one just noted, or else the one before.
  unfold ready? at h
  unfold failure? heard
  rw [begins_succ, heard]
  generalize w.answer n = x at h hanswer ⊢
  rcases x with e | _ | a
  · constructor
    · rw [pollUntil, bind_of_result hanswer]
      rfl
    · intro further
      rw [pollUntil, bind_of_result hanswer]
      show (if _ then _ else _ : Run ω (Waited α)) _ _ = _
      rw [ite_apply, ite_apply]
      rfl
  · constructor
    · rw [pollUntil, bind_of_result hanswer]
      rfl
    · intro further
      rw [pollUntil, bind_of_result hanswer]
      show (if _ then _ else _ : Run ω (Waited α)) _ _ = _
      rw [ite_apply, ite_apply]
      rfl
  · cases h

end Loop

/-! ## Time -/

section Time

variable {w} {n : Nat} (hc : ∀ n, Obeys Runner.Later (w.condition n))

include hc

theorem begins_le_ends (n : Nat) : (w.begins n).clock ≤ (w.ends n).clock :=
  hc n w.env (w.begins n)

theorem clock_le_begins (n : Nat) : w.runner.clock ≤ (w.begins n).clock := by
  induction n with
  | zero => exact Nat.le_refl w.runner.clock
  | succ n ih =>
      have hpoll := begins_le_ends hc n
      rw [begins_succ_clock]
      omega

theorem goesOn_iff (h : w.ready? n = none) :
    w.GoesOn n ↔ ¬ w.runner.clock + w.timeout < (w.ends n).clock + w.interval := by
  have hbegin := clock_le_begins hc n
  have hpoll := begins_le_ends hc n
  unfold GoesOn endedAt
  constructor
  · rintro ⟨-, ht⟩
    omega
  · intro ht
    exact ⟨h, by omega⟩

theorem beganAt_succ (n : Nat) : w.beganAt (n + 1) = w.endedAt n + timer w.interval := by
  have hbegin := clock_le_begins hc n
  have hpoll := begins_le_ends hc n
  unfold beganAt endedAt
  rw [begins_succ_clock]
  omega

theorem beganAt_le_endedAt (n : Nat) : w.beganAt n ≤ w.endedAt n :=
  Nat.sub_le_sub_right (begins_le_ends hc n) w.runner.clock

theorem mul_timer_le_beganAt (n : Nat) : n * timer w.interval ≤ w.beganAt n := by
  induction n with
  | zero => simp
  | succ n ih =>
      have hpoll := beganAt_le_endedAt hc n
      rw [beganAt_succ hc, Nat.succ_mul]
      omega

theorem beganAt_eq_mul_timer (h : ∀ k < n, w.endedAt k = w.beganAt k) :
    w.beganAt n = n * timer w.interval := by
  induction n with
  | zero =>
      show w.runner.clock - w.runner.clock = 0 * timer w.interval
      simp
  | succ n ih =>
      rw [beganAt_succ hc, h n (Nat.lt_succ_self n), Nat.succ_mul,
        ih fun k hk => h k (Nat.lt_succ_of_lt hk)]

/-- The loop ends at the first poll after which there is none, whatever fuel there is as long as
it covers the sleeps to the deadline. -/
theorem exists_last (hp : 0 < w.interval) (further n : Nat)
    (hfuel : (w.runner.clock + w.timeout - (w.begins n).clock) / timer w.interval ≤ further) :
    ∃ last, n ≤ last ∧ (∀ k, n ≤ k → k < last → w.GoesOn k) ∧ ¬ w.GoesOn last ∧
      pollUntil w.condition w.timeout w.interval (w.runner.clock + w.timeout) n
        (w.failures n).getLast? further w.env (w.begins n) =
      (⟨w.verdict last, last + 1⟩, w.heard last) := by
  have hpos := timer_pos hp
  have htimer := timer_le w.interval
  induction further generalizing n with
  | zero =>
      have hends := begins_le_ends hc n
      refine ⟨n, Nat.le_refl n, fun k hk hk' => absurd hk (by omega), ?_, ?_⟩
      · intro hgo
        have hlate := (goesOn_iff hc hgo.1).1 hgo
        rw [Nat.le_zero, Nat.div_eq_zero_iff] at hfuel
        omega
      · cases h : w.ready? n with
        | none => exact (pollUntil_pending h).1
        | some a => rw [pollUntil_ready h, verdict, h, Option.elim_some]
  | succ further ih =>
      cases h : w.ready? n with
      | some a =>
          refine ⟨n, Nat.le_refl n, fun k hk hk' => absurd hk (by omega), ?_, ?_⟩
          · intro hgo
            rw [hgo.1] at h
            cases h
          · rw [pollUntil_ready h, verdict, h, Option.elim_some]
      | none =>
          rw [(pollUntil_pending h).2]
          by_cases hlate : w.runner.clock + w.timeout < (w.ends n).clock + w.interval
          · rw [if_pos hlate]
            refine ⟨n, Nat.le_refl n, fun k hk hk' => absurd hk (by omega), ?_, rfl⟩
            rw [goesOn_iff hc h]
            exact not_not_intro hlate
          · rw [if_neg hlate]
            -- One sleep less is left to the deadline.
            have hends := begins_le_ends hc n
            have hnext := w.begins_succ_clock n
            have hleft : w.runner.clock + w.timeout - (w.begins (n + 1)).clock + timer w.interval ≤
                w.runner.clock + w.timeout - (w.begins n).clock := by omega
            have hdiv := Nat.div_le_div_right (c := timer w.interval) hleft
            rw [Nat.add_div_right _ hpos] at hdiv
            obtain ⟨last, hle, hgo, hstop, hrun⟩ := ih (n + 1) (by omega)
            refine ⟨last, by omega, fun k hk hk' => ?_, hstop, hrun⟩
            rcases Nat.eq_or_lt_of_le hk with rfl | hk
            · exact (goesOn_iff hc h).2 hlate
            · exact hgo k hk hk'

end Time

/-! ## How many polls -/

/-- The most polls there can be: one at once, one as late as the time allows, and between them
as many as there are sleeps. -/
def mostPolls (timeout interval : Nat) : Nat :=
  (timeout + timer interval - interval) / timer interval + 1

/-- Unless the interval is longer than any sleep, this is once at the beginning and once for
each interval in the time. -/
theorem mostPolls_eq (timeout : Nat) {interval : Nat} (h : interval ≤ longestTimer) :
    mostPolls timeout interval = timeout / interval + 1 := by
  rw [mostPolls, timer_eq h, Nat.add_sub_cancel]

section Count

variable {w} {last : Nat} (hc : ∀ n, Obeys Runner.Later (w.condition n)) (hp : 0 < w.interval)

include hc hp

theorem lt_mostPolls (hgo : ∀ k < last, w.GoesOn k) :
    last < mostPolls w.timeout w.interval := by
  unfold mostPolls
  cases last with
  | zero => exact Nat.succ_pos _
  | succ last =>
      obtain ⟨-, htime⟩ := hgo last (Nat.lt_succ_self last)
      have hbegan := mul_timer_le_beganAt hc last
      have hpoll := beganAt_le_endedAt hc last
      have hle : last + 1 ≤ (w.timeout + timer w.interval - w.interval) / timer w.interval := by
        rw [Nat.le_div_iff_mul_le (timer_pos hp), Nat.succ_mul]
        omega
      omega

theorem mostPolls_of_instant (hgo : ∀ k < last, w.GoesOn k) (hstop : ¬ w.GoesOn last)
    (h : ∀ k ≤ last, w.ready? k = none ∧ w.endedAt k = w.beganAt k) :
    mostPolls w.timeout w.interval = last + 1 := by
  have hlt := lt_mostPolls hc hp hgo
  obtain ⟨hready, hends⟩ := h last (Nat.le_refl last)
  have hbegan := beganAt_eq_mul_timer hc fun k hk => (h k (Nat.le_of_lt hk)).2
  have hlate : w.timeout < w.endedAt last + w.interval := by
    by_contra hle
    exact hstop ⟨hready, by omega⟩
  have hpos := timer_pos hp
  have hdiv : (w.timeout + timer w.interval - w.interval) / timer w.interval < last + 1 := by
    rw [Nat.div_lt_iff_lt_mul hpos, Nat.succ_mul]
    omega
  unfold mostPolls at hlt ⊢
  omega

end Count

end Wait

/-! ## What leaves in the meantime -/

/-- Nothing comes to leave a desk without a flush. -/
theorem Desk.Tale.flush_of_leaving {d : Desk} {es : List Event} {x : Report}
    {xs : List Report} (h : Desk.Tale d es (.leaving x xs)) (hd : ∀ y ys, d ≠ .leaving y ys) :
    ∃ allowed, Event.flushed allowed ∈ es := by
  generalize hend : Desk.leaving x xs = d' at h
  induction h with
  | nil d => exact absurd hend.symm (hd x xs)
  | @cons d d' d'' e es he _ ih =>
      have hrest : (∀ y ys, d' ≠ .leaving y ys) → ∃ allowed, Event.flushed allowed ∈ e :: es := by
        intro hd'
        obtain ⟨allowed, hm⟩ := ih hd' hend
        exact ⟨allowed, List.mem_cons_of_mem e hm⟩
      cases he with
      | quiet | aside | command | step =>
          apply hrest
          intro y ys h
          cases h
      | clear aside allowed | turn aside => exact ⟨_, List.mem_cons_self⟩
      | leave => exact absurd rfl (hd _ _)

theorem Desk.Tale.flush_of_command {aside : Option CommandReport} {before after : List Event}
    {c : CommandReport} {d : Desk}
    (h : Desk.Tale (.idle aside) (before ++ .reported (.command c) :: after) d) :
    ∃ allowed, Event.flushed allowed ∈ before := by
  obtain ⟨d', hbefore, hafter⟩ := h.of_append
  cases hafter with
  | cons he _ =>
      cases he with
      | quiet _ hq => cases hq
      | leave =>
          refine hbefore.flush_of_leaving fun y ys h => ?_
          cases h

/-- Some event puts a context in force that is not one of the rounds of a wait. -/
def LeavesPolling (es : List Event) : Prop :=
  ∃ s c, Event.adjusted s c ∈ es ∧ c.polling = false

/-- What was put aside had its turn, and that was not because a command left at once. -/
def ClearsStash (es : List Event) : Prop :=
  (∃ allowed, Event.flushed allowed ∈ es) ∧ ∀ c, Event.built (.command c) false ∉ es

theorem Regime.Governs.not_built_command {g : Regime} {es later : List Event}
    (h : g.Governs (es ++ later)) (hp : g.context.polling = true) (hes : ¬ LeavesPolling es)
    (c : CommandReport) : Event.built (.command c) false ∉ es := by
  induction es generalizing g with
  | nil => exact List.not_mem_nil
  | cons e es ih =>
      obtain ⟨he, hrest⟩ := h
      have hnext : (g.next e).context.polling = true := by
        cases e with
        | adjusted s context =>
            show context.polling = true
            by_contra hout
            exact hes ⟨s, context, List.mem_cons_self, by simpa using hout⟩
        | called | slept | built | flushed | reported | ranAction | ranCodeblock | noted => exact hp
      have htail : ¬ LeavesPolling es := by
        rintro ⟨s, context, hm, hout⟩
        exact hes ⟨s, context, List.mem_cons_of_mem e hm, hout⟩
      intro hm
      rcases List.mem_cons.1 hm with rfl | hm
      · have hpolled : false = g.context.polling := he
        rw [hp] at hpolled
        cases hpolled
      · exact ih hrest hnext htail hm

/-! ## The course of a wait -/

namespace Wait

variable {ω α : Type} (w : Wait ω α)

/-- The wait as it is run. -/
def run : Run ω (Waited α) := waitUntil w.condition w.timeout w.interval

/-- What comes of the wait. -/
def outcome : Waited α := result w.run w.env w.runner

/-- The runner when the wait is over. -/
def left : Runner ω := after w.run w.env w.runner

/-- The course of a wait: its polls with their times, what it returns and what it leaves
behind. -/
structure Course : Prop where
  /-- The polls were made one after the other, up to the last and no further. -/
  left : w.left = after (setContext w.runner.context) w.env (w.heard (w.outcome.polls - 1))
  once : 1 ≤ w.outcome.polls
  /-- After a poll that was not ready there is another if and only if an interval later it is
  not too late for it. -/
  again : ∀ n < w.outcome.polls, n + 1 < w.outcome.polls ↔
    w.ready? n = none ∧ w.endedAt n + w.interval ≤ w.timeout
  /-- It begins when the sleep between the two is over. -/
  pace : ∀ n, n + 1 < w.outcome.polls → w.beganAt (n + 1) = w.endedAt n + timer w.interval
  inTime : ∀ n < w.outcome.polls, w.beganAt n ≤ w.timeout
  bounded : w.outcome.polls ≤ mostPolls w.timeout w.interval
  exact : (∀ n < w.outcome.polls, w.ready? n = none ∧ w.endedAt n = w.beganAt n) →
    w.outcome.polls = mostPolls w.timeout w.interval
  /-- Unless the interval is longer than any sleep, that is once at the beginning and once for
  each interval in the time. -/
  most : w.interval ≤ longestTimer →
    mostPolls w.timeout w.interval = w.timeout / w.interval + 1
  /-- What was ready is returned; if nothing ever was, the last of all failures is told. -/
  result : w.outcome.result = (w.ready? (w.outcome.polls - 1)).elim
    (.error (timeUp w.timeout (w.failures w.outcome.polls).getLast?)) .ok
  context : w.left.context = w.runner.context
  /-- A command that was reported meanwhile was not reported by the wait. -/
  aside : ∀ before c later,
    w.left.trace = w.runner.trace ++ (before ++ .reported (.command c) :: later) →
    LeavesPolling before ∨ ClearsStash before

variable {w}

theorem leaves_of_reported (hc : ∀ n, Obeys Runner.Told (w.condition n)) {before later : List Event}
    {c : CommandReport}
    (h : w.left.trace = w.runner.trace ++ (before ++ .reported (.command c) :: later)) :
    LeavesPolling before ∨ ClearsStash before := by
  have hset : Obeys (@Runner.Told ω) (setContext w.runner.context) := rules_told.setContext _
  have hpoll := Obeys.pollUntil (fun e => rules_told.still (still_note e))
    (fun ms => rules_told.still (still_sleep ms)) hc w.timeout w.interval
    (w.runner.clock + w.timeout) 0 none (furtherPolls w.timeout w.interval)
  obtain ⟨es, htrace, htale, hgoverns, -⟩ :=
    Runner.Law.trans (hpoll w.env (w.begins 0)) (hset w.env _)
  -- The wait itself only puts the context of its rounds in force before that.
  have hopened : (w.begins 0).trace =
      w.runner.trace ++ [.adjusted w.runner.switches w.runner.context.whilePolling] := rfl
  have hall : w.left.trace = (w.begins 0).trace ++ es := htrace
  rw [hall, hopened, List.append_assoc, List.append_cancel_left_eq] at h
  cases before with
  | nil => cases h
  | cons e before =>
      obtain ⟨rfl, rfl⟩ := List.cons.inj h
      by_cases hout : LeavesPolling before
      · obtain ⟨s, context, hm, hpolling⟩ := hout
        exact .inl ⟨s, context, List.mem_cons_of_mem _ hm, hpolling⟩
      · obtain ⟨allowed, hm⟩ := htale.flush_of_command
        refine .inr ⟨⟨allowed, List.mem_cons_of_mem _ hm⟩, fun c hbuilt => ?_⟩
        rcases List.mem_cons.1 hbuilt with hbuilt | hbuilt
        · cases hbuilt
        · exact hgoverns.not_built_command rfl hout c hbuilt

/-- The first poll fails after a while, and the second has nothing to show after a longer one. -/
def slowTitle : Condition Unit Unit := fun polls => do
  sleep (if polls = 0 then 100 else 500)
  return if polls = 0 then .error (.general "No such window") else .ok none

/-- A wait of a second, with three tenths between its polls. -/
def forTitle : Wait Unit Unit := ⟨plainSurroundings, .ofConfig .default (), slowTitle, 1000, 300⟩

/-- Polls that are sixty years apart, for twice that time. -/
def forDecades : Wait Unit Unit :=
  ⟨plainSurroundings, .ofConfig .default (), fun _ => return .ok none, 4000000000000, 2000000000000⟩

end Wait
end Courier
