import TreeWatch.Proofs.Monitor.Loop

/-!
# The loop on a clock

If cycles take no time and everything happens as soon as it can (`Loop.PromptStep`), a cycle
starts each time that another interval is over, and at a time between two ticks as many have
started as intervals have passed (`Loop.countP_isStart_of_prompt`). What the loop comes to on such a
clock is what `RunningMonitor.wait` and `RunningMonitor.stop` compute (`Loop.run_stop_of_prompt`).
-/

namespace TreeWatch

namespace Loop

variable {σ : Type} {host : σ → Host (StateM σ)} {s t : Loop σ} {a : Act σ} {acts : List (Act σ)}
  {n i : ℕ}

/-- Time passes only while the loop waits and nobody has asked it to stop, and not beyond the time
that its timer is set to. -/
def Timely (a : Act σ) (s : Loop σ) : Prop :=
  ∀ d, a = .pass d → ∃ os deadline,
    s.phase = .waiting os deadline false ∧ s.flag.isNew = false ∧ s.now + d ≤ deadline

/-- What can happen next on a clock where nothing is late. -/
def PromptStep (host : σ → Host (StateM σ)) (a : Act σ) (s t : Loop σ) : Prop :=
  Step host a s t ∧ Timely a s

/-- The time after so many ticks of a clock, in a phase of the loop: the loop waits for the next
tick, and all else takes no time. -/
def Phase.At (i n now : ℕ) : Phase → Prop
  | idle _ => now = n * i
  | waiting _ deadline isOver =>
    deadline = (n + 1) * i ∧ n * i ≤ now ∧ now ≤ deadline ∧ (isOver = true → now = deadline)
  | cycling _ _ _ => 0 < n ∧ now = n * i
  | finished _ => 0 < n ∧ now = n * i
  | ended _ => False

/-- Where a loop stands that was not asked to stop and has started so many cycles. -/
structure OnTime (i n : ℕ) (s : Loop σ) : Prop where
  interval_eq : s.interval.nanoseconds = i
  flag_eq : s.flag = ⟨false, false⟩
  phase : s.phase.At i n s.now

theorem OnTime.step (hs : OnTime i n s) (h : PromptStep host a s t) (ha : a ≠ .request) :
    OnTime i (n + if a.isStart then 1 else 0) t := by
  obtain ⟨hstep, htimely⟩ := h
  have hphase := hs.phase
  cases hstep with
  | pass _ d =>
      obtain ⟨os, deadline, hwaiting, -, hd⟩ := htimely d rfl
      rw [hwaiting] at hphase
      obtain ⟨hdeadline, hnow, -, -⟩ := hphase
      refine ⟨hs.interval_eq, hs.flag_eq, ?_⟩
      change s.phase.At i n (s.now + d)
      rw [hwaiting]
      exact ⟨hdeadline, by omega, hd, fun h => nomatch h⟩
  | change => exact ⟨hs.interval_eq, hs.flag_eq, hs.phase⟩
  | request => exact absurd rfl ha
  | wait hidle =>
      rw [hidle] at hphase
      have hnow : s.now = n * i := hphase
      have hdeadline : s.now + s.interval.nanoseconds = (n + 1) * i := by
        rw [hs.interval_eq, hnow, Nat.succ_mul]
      exact ⟨hs.interval_eq, hs.flag_eq, hdeadline, Nat.le_of_eq hnow.symm, Nat.le_add_right _ _,
        fun h => nomatch h⟩
  | expire hwaiting hdue =>
      rw [hwaiting] at hphase
      obtain ⟨hdeadline, hnow, hle, -⟩ := hphase
      exact ⟨hs.interval_eq, hs.flag_eq, hdeadline, hnow, hle, fun _ => Nat.le_antisymm hle hdue⟩
  | start hwaiting =>
      rw [hwaiting] at hphase
      obtain ⟨hdeadline, -, -, hover⟩ := hphase
      exact ⟨hs.interval_eq, hs.flag_eq, n.succ_pos, (hover rfl).trans hdeadline⟩
  | check hcycling =>
      rw [hcycling] at hphase
      exact ⟨hs.interval_eq, hs.flag_eq, hphase⟩
  | complete hcycling =>
      rw [hcycling] at hphase
      exact ⟨hs.interval_eq, hs.flag_eq, hphase⟩
  | resume hfinished =>
      rw [hfinished] at hphase
      exact ⟨hs.interval_eq, hs.flag_eq, hphase.2⟩
  | wake _ hflag =>
      rw [hs.flag_eq] at hflag
      cases hflag
  | leave _ hflag =>
      rw [hs.flag_eq] at hflag
      cases hflag

theorem OnTime.run (h : Run (PromptStep host) s acts t) (hs : OnTime i n s)
    (hacts : ∀ a ∈ acts, a ≠ .request) : OnTime i (n + acts.countP Act.isStart) t := by
  induction h with
  | nil => exact hs
  | @concat _ _ acts a _ hstep ih =>
      rw [List.countP_append, List.countP_singleton, ← Nat.add_assoc]
      exact (ih fun b hb => hacts b (List.mem_append_left _ hb)).step hstep
        (hacts a (by simp))

def Phase.Rests (now : ℕ) : Phase → Prop
  | idle _ => True
  | waiting _ deadline isOver => isOver = false ∧ now < deadline
  | _ => False

/-- At a time between two ticks the loop rests, and as many cycles have started as intervals have
passed. -/
theorem OnTime.rests (hs : OnTime i n s) (hi : 0 < i) (htick : ∀ k, s.now ≠ (k + 1) * i) :
    n = s.now / i ∧ s.phase.Rests s.now := by
  have hphase := hs.phase
  have hcycle (h : 0 < n ∧ s.now = n * i) : False := by
    obtain ⟨k, rfl⟩ := Nat.exists_eq_add_of_lt h.1
    exact htick (0 + k) h.2
  cases h : s.phase with
  | idle os =>
      rw [h] at hphase
      exact ⟨(Nat.div_eq_of_eq_mul_left hi hphase).symm, trivial⟩
  | waiting os deadline isOver =>
      rw [h] at hphase
      obtain ⟨hdeadline, hnow, hle, hover⟩ := hphase
      have hne : s.now ≠ deadline := hdeadline ▸ htick n
      have hlt : s.now < deadline := Nat.lt_of_le_of_ne hle hne
      refine ⟨(Nat.div_eq_of_lt_le hnow (hdeadline ▸ hlt)).symm, ?_, hlt⟩
      cases isOver with
      | true => exact absurd (hover rfl) hne
      | false => rfl
  | cycling checked rest report =>
      rw [h] at hphase
      exact (hcycle hphase).elim
  | finished os =>
      rw [h] at hphase
      exact (hcycle hphase).elim
  | ended os =>
      rw [h] at hphase
      exact hphase.elim

structure Stopping (s : Loop σ) : Prop where
  interval_pos : 0 < s.interval.nanoseconds
  phase : s.phase.isEnded = true ∨ s.flag.isNew = true ∧ s.phase.Rests s.now

theorem Stopping.step (hs : Stopping s) (h : PromptStep host a s t) :
    Stopping t ∧ a.isStart = false := by
  obtain ⟨hstep, htimely⟩ := h
  have hphase := hs.phase
  cases hstep with
  | pass _ d =>
      obtain ⟨os, deadline, hwaiting, hflag, -⟩ := htimely d rfl
      rw [hwaiting, hflag] at hphase
      simp [Phase.isEnded] at hphase
  | change => exact ⟨⟨hs.interval_pos, hphase⟩, rfl⟩
  | request => exact ⟨⟨hs.interval_pos, hphase.imp_right fun h => ⟨rfl, h.2⟩⟩, rfl⟩
  | wait hidle =>
      rw [hidle] at hphase
      refine ⟨⟨hs.interval_pos, hphase.imp_right fun h => ⟨h.1, rfl, ?_⟩⟩, rfl⟩
      exact Nat.lt_add_of_pos_right hs.interval_pos
  | expire hwaiting hdue =>
      rw [hwaiting] at hphase
      obtain h | ⟨-, -, hlt⟩ := hphase
      · cases h
      · exact absurd hdue (Nat.not_le_of_lt hlt)
  | start hwaiting =>
      rw [hwaiting] at hphase
      obtain h | ⟨-, h, -⟩ := hphase <;> cases h
  | check hcycling | complete hcycling =>
      rw [hcycling] at hphase
      obtain h | ⟨-, h⟩ := hphase <;> cases h
  | resume hfinished | leave hfinished =>
      rw [hfinished] at hphase
      obtain h | ⟨-, h⟩ := hphase <;> cases h
  | wake => exact ⟨⟨hs.interval_pos, .inl rfl⟩, rfl⟩

theorem Stopping.countP_isStart (h : Run (PromptStep host) s acts t) (hs : Stopping s) :
    Stopping t ∧ acts.countP Act.isStart = 0 := by
  induction h with
  | nil => exact ⟨hs, rfl⟩
  | concat _ hstep ih =>
      obtain ⟨hstopping, hcount⟩ := ih
      obtain ⟨hnext, hstart⟩ := hstopping.step hstep
      exact ⟨hnext, by simp [List.countP_append, hcount, hstart]⟩

theorem onTime_launch (host : σ → Host (StateM σ)) (m : Monitor) (w : σ) :
    OnTime m.interval.nanoseconds 0 (launch host m w) :=
  ⟨rfl, rfl, (Nat.zero_mul _).symm⟩

/-- If a request comes between two ticks, as many cycles start as intervals have passed. -/
theorem countP_isStart_of_prompt {m : Monitor} (hm : 0 < m.interval.nanoseconds) {w : σ}
    {before after : List (Act σ)} (hbefore : Run (PromptStep host) (launch host m w) before s)
    (hacts : ∀ a ∈ before, a ≠ .request)
    (htick : ∀ k, s.now ≠ (k + 1) * m.interval.nanoseconds)
    (hafter : Run (PromptStep host) s.requested after t) :
    (before ++ after).countP Act.isStart
      = RunningMonitor.cyclesUpTo m.interval ⟨s.now⟩ := by
  have hs := (onTime_launch host m w).run hbefore hacts
  rw [Nat.zero_add] at hs
  obtain ⟨hcount, hrests⟩ := hs.rests hm htick
  have hstopping : Stopping s.requested := ⟨hs.interval_eq ▸ hm, .inr ⟨rfl, hrests⟩⟩
  rw [List.countP_append, (hstopping.countP_isStart hafter).2, hcount]
  rfl

end Loop

namespace Monitor

variable {σ : Type} {host : Host (StateM σ)}

def cycled (host : Host (StateM σ)) (x : Monitor × σ) : Monitor × σ :=
  let ((m, _), w) := (x.1.runCycle host).run x.2
  (m, w)

theorem run_runCycles (n : ℕ) (m : Monitor) (w : σ) :
    (runCycles host n m).run w = (cycled host)^[n] (m, w) := by
  induction n generalizing m w with
  | zero => rfl
  | succ n ih => exact ih _ _

end Monitor

namespace Loop

variable {σ : Type} {host : Host (StateM σ)} {s t : Loop σ} {a : Act σ} {acts : List (Act σ)}
  {x : Monitor × σ}

/-- The monitor and the world that a loop comes to when the cycle is over that it is in; or they
are what it was stopped with. -/
def Phase.Yields (host : Host (StateM σ)) (interval : Duration) (w : σ) (x : Monitor × σ) :
    Phase → Prop
  | cycling checked rest report =>
    let ((os, report), w) := (Monitor.checkAll host rest report).run w
    (⟨interval, checked ++ os⟩,
      ((host.note (.cycleDone report.checked report.events report.failures)).run w).2) = x
  | ended os => (RunningMonitor.stop ⟨x.1, ⟨0⟩⟩ host).run x.2 = (os, w)
  | p => (⟨interval, p.observers⟩, w) = x

/-- If nothing changes around it, the loop does what a monitor does that runs its cycles. -/
theorem yields_step (hs : s.phase.Yields host s.interval s.world x)
    (h : Step (fun _ => host) a s t) (ha : ∀ f, a ≠ .change f) :
    t.phase.Yields host t.interval t.world (if a.isStart then Monitor.cycled host x else x) := by
  cases h with
  | pass => exact hs
  | change _ f => exact absurd rfl (ha f)
  | request => exact hs
  | wait hphase | expire hphase | resume hphase =>
      rw [hphase] at hs
      exact hs
  | complete hphase =>
      rw [hphase] at hs
      subst hs
      rw [List.append_nil]
      rfl
  | start hphase =>
      rw [hphase] at hs
      subst hs
      rfl
  | @check _ checked rest o report hphase =>
      obtain ⟨r, w, hrun⟩ := Monitor.run_checkAll_cons host o report s.world
      have hone : (Monitor.checkAll host [o] report).run s.world = (([_], r), w) := hrun []
      rw [hphase, Phase.Yields, hrun] at hs
      rw [checkNext, hone]
      cases hrest : (Monitor.checkAll host rest r).run w
      simpa [Phase.Yields, Act.isStart, hrest] using hs
  | wake hphase | leave hphase =>
      rw [hphase] at hs
      subst hs
      rfl

theorem yields_run (hs : s.phase.Yields host s.interval s.world x)
    (h : Run (Step fun _ => host) s acts t) (hacts : ∀ a ∈ acts, ∀ f, a ≠ .change f) :
    t.phase.Yields host t.interval t.world
      ((Monitor.cycled host)^[acts.countP Act.isStart] x) := by
  induction h with
  | nil => exact hs
  | @concat _ _ acts a _ hstep ih =>
      have hlast := yields_step (ih fun b hb => hacts b (List.mem_append_left _ hb)) hstep
        (hacts a (by simp))
      rw [List.countP_append, List.countP_singleton]
      cases ha : a.isStart with
      | false => simpa [ha] using hlast
      | true => simpa [ha, Function.iterate_succ_apply'] using hlast

theorem Run.step_of_prompt {host : σ → Host (StateM σ)} (h : Run (PromptStep host) s acts t) :
    Run (Step host) s acts t := by
  induction h with
  | nil => exact .nil _
  | concat _ hstep ih => exact ih.concat hstep.1

/-- If nothing changes around the loop, and a request comes between two ticks, the loop comes to
what a monitor comes to that waits as long and is then stopped. -/
theorem run_stop_of_prompt {m : Monitor} (hm : 0 < m.interval.nanoseconds) {w : σ}
    {before after : List (Act σ)} {os : List Observer}
    (hbefore : Run (PromptStep fun _ => host) (launch (fun _ => host) m w) before s)
    (hacts : ∀ a ∈ before, a ≠ .request)
    (htick : ∀ k, s.now ≠ (k + 1) * m.interval.nanoseconds)
    (hafter : Run (PromptStep fun _ => host) s.requested after t)
    (hstill : ∀ a ∈ before ++ after, ∀ f, a ≠ .change f) (hended : t.phase = .ended os) :
    StateT.run (do
      let r ← RunningMonitor.start m host
      let r ← r.wait host ⟨s.now⟩
      r.stop host) w = (os, t.world) := by
  let r := (RunningMonitor.start m host).run w
  have hcount := countP_isStart_of_prompt hm hbefore hacts htick hafter
  have hlaunch : (launch (fun _ => host) m w).phase.Yields host m.interval r.2
      (r.1.monitor, r.2) := rfl
  have hs := yields_run hlaunch hbefore.step_of_prompt
    fun a ha => hstill a (List.mem_append_left _ ha)
  have ht := yields_run (s := s.requested) hs hafter.step_of_prompt
    fun a ha => hstill a (List.mem_append_right _ ha)
  rw [← Function.iterate_add_apply, Nat.add_comm, ← List.countP_append, hcount, hended,
    ← Monitor.run_runCycles] at ht
  have hdue : RunningMonitor.cyclesUpTo m.interval ⟨0 + s.now⟩
      - RunningMonitor.cyclesUpTo m.interval ⟨0⟩
      = RunningMonitor.cyclesUpTo m.interval ⟨s.now⟩ := by
    simp [RunningMonitor.cyclesUpTo]
  rw [← hdue] at ht
  exact ht

end Loop

end TreeWatch
