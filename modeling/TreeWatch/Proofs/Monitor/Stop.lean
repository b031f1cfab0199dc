import TreeWatch.Proofs.Monitor.Clock

/-!
# Stopping a monitor

However the steps of a running monitor, its timer, the world and a request to stop interleave,
cycles do not overlap, and each that has started checks every observer once and is over before
anything else is done (`Loop.exists_cycles`). A request is taken up after so many more steps
(`Loop.steps_le_of_requested`), and then nothing is left to be done. All of it is `Loop.Stops`.
-/

namespace TreeWatch

namespace Loop

variable {σ : Type} {host : σ → Host (StateM σ)} {s t : Loop σ} {a : Act σ} {acts : List (Act σ)}
  {m : Monitor} {w : σ}

/-! ## Cycles -/

def cycle (n : ℕ) : List (Act σ) := .start :: (List.range n).map .check ++ [.complete]

def Phase.begun : Phase → List (Act σ)
  | cycling checked _ _ => .start :: (List.range checked.length).map .check
  | _ => []

theorem Act.isOwn_of_isCycle (h : a.isCycle = true) : a.isOwn = true := by
  cases a with
  | start | check | complete => rfl
  | _ => cases h

theorem Step.begun (h : Step host a s t) :
    s.phase.begun ++ [a].filter Act.isCycle = t.phase.begun ∨
      s.phase.begun ++ [a].filter Act.isCycle = cycle s.phase.observers.length ∧
        (t.phase.begun : List (Act σ)) = [] := by
  cases h with
  | pass | change | request => exact .inl (List.append_nil _)
  | wait hphase | expire hphase | start hphase | resume hphase | wake hphase | leave hphase =>
      rw [hphase]
      exact .inl rfl
  | @check _ checked rest o report hphase =>
      obtain ⟨o', report', world, -, hcheck⟩ :=
        exists_checkNext (host s.world) s checked o rest report
      rw [hphase, hcheck]
      exact .inl (by simp [Phase.begun, Act.isCycle, List.range_succ])
  | complete hphase =>
      rw [hphase]
      exact .inr ⟨by simp [Phase.begun, Phase.observers, cycle, Act.isCycle], rfl⟩

/-- All that has been done in cycles are whole cycles one after another, and the beginning of the
one that the loop is in. -/
theorem exists_cycles (h : Run (Step host) (launch host m w) acts s) :
    ∃ n, acts.filter Act.isCycle
      = (List.replicate n (cycle m.observers.length)).flatten ++ s.phase.begun := by
  induction h with
  | nil => exact ⟨0, rfl⟩
  | @concat t _ acts a hrun hstep ih =>
      obtain ⟨n, hn⟩ := ih
      have hlength : t.phase.observers.length = m.observers.length := by
        simpa using congrArg List.length (sound_of_run hrun).map_blank
      rw [List.filter_append, hn, List.append_assoc]
      obtain hgo | ⟨hend, hnone⟩ := hstep.begun
      · exact ⟨n, by rw [hgo]⟩
      · refine ⟨n + 1, ?_⟩
        rw [hend, hnone, hlength, List.append_nil, List.replicate_succ', List.flatten_append,
          List.flatten_singleton]

theorem exists_step_of_cycling (host : σ → Host (StateM σ)) {checked rest : List Observer}
    {report : CycleReport} (hs : s.phase = .cycling checked rest report) :
    ∃ a t, a.isCycle = true ∧ Step host a s t := by
  cases rest with
  | nil => exact ⟨_, _, rfl, .complete hs⟩
  | cons o rest => exact ⟨_, _, rfl, .check hs⟩

theorem Run.exists_check {checked rest : List Observer} {o : Observer} {report : CycleReport}
    (h : Run (PromptStep host) s acts t) (ht : t.phase = .cycling checked (o :: rest) report) :
    ∃ o' report' world, Run (PromptStep host) s (acts ++ [.check checked.length])
      { t with phase := .cycling (checked ++ [o']) rest report', world } := by
  obtain ⟨o', report', world, -, hcheck⟩ := exists_checkNext (host t.world) t checked o rest report
  refine ⟨o', report', world, h.concat ⟨?_, fun _ h => nomatch h⟩⟩
  rw [← hcheck]
  exact .check ht

/-- The steps of the loop in a cycle are checks, until the cycle is over. -/
theorem complete_mem_or_of_run {checked rest : List Observer} {report : CycleReport}
    (hs : s.phase = .cycling checked rest report) (h : Run (Step host) s acts t) :
    .complete ∈ acts ∨ ∃ checked rest' report, t.phase = .cycling checked rest' report ∧
      acts.countP Act.isOwn + rest'.length = rest.length := by
  induction h with
  | nil => exact .inr ⟨_, _, _, hs, Nat.zero_add _⟩
  | @concat t _ acts a _ hstep ih =>
      obtain hmem | ⟨checked', rest', report', hphase, hcount⟩ := ih
      · exact .inl (List.mem_append_left _ hmem)
      rw [List.countP_append]
      cases hstep with
      | pass | change | request => exact .inr ⟨_, _, _, hphase, hcount⟩
      | wait h | expire h | start h | resume h | wake h | leave h =>
          rw [hphase] at h
          cases h
      | complete => exact .inl (List.mem_append_right _ (List.mem_singleton.2 rfl))
      | @check _ checked₁ rest₁ o report₁ h =>
          obtain ⟨o', report₂, world, -, hcheck⟩ :=
            exists_checkNext (host t.world) t checked₁ o rest₁ report₁
          rw [hphase] at h
          cases h
          refine .inr ⟨_, _, _, congrArg Loop.phase hcheck, ?_⟩
          rw [← hcount, List.countP_singleton, List.length_cons]
          exact Nat.add_right_comm _ _ _

/-- A cycle is over after one step for each observer that is left and one more. -/
theorem complete_mem_of_run {checked rest : List Observer} {report : CycleReport}
    (hs : s.phase = .cycling checked rest report) (h : Run (Step host) s acts t)
    (hacts : rest.length < acts.countP Act.isOwn) : .complete ∈ acts := by
  obtain hmem | ⟨_, rest', _, -, hcount⟩ := complete_mem_or_of_run hs h
  · exact hmem
  · omega

/-! ## Requests -/

def Phase.stepsLeft : Phase → ℕ
  | idle os => os.length + 5
  | waiting os _ false => os.length + 4
  | waiting os _ true => os.length + 3
  | cycling _ rest _ => rest.length + 2
  | finished _ => 1
  | ended _ => 0

def Phase.startsLeft : Phase → ℕ
  | idle _ => 1
  | waiting _ _ _ => 1
  | _ => 0

/-- A request is not withdrawn, and each step brings its loop nearer to the end. -/
theorem Step.le_of_requested (hs : s.flag.value = true) (h : Step host a s t) :
    t.flag.value = true ∧
      (if a.isOwn then 1 else 0) + t.phase.stepsLeft ≤ s.phase.stepsLeft ∧
      (if a.isStart then 1 else 0) + t.phase.startsLeft ≤ s.phase.startsLeft := by
  cases h with
  | pass | change => exact ⟨hs, Nat.le_of_eq (Nat.zero_add _), Nat.le_of_eq (Nat.zero_add _)⟩
  | request => exact ⟨rfl, Nat.le_of_eq (Nat.zero_add _), Nat.le_of_eq (Nat.zero_add _)⟩
  | wait hphase =>
      rw [hphase]
      exact ⟨hs, Nat.le_of_eq (Nat.add_comm _ _), Nat.le_refl 1⟩
  | @expire _ os deadline hphase =>
      rw [hphase]
      exact ⟨hs, Nat.le_of_eq (Nat.add_comm _ _), Nat.le_of_eq (Nat.zero_add _)⟩
  | @start _ os deadline hphase =>
      rw [hphase]
      exact ⟨hs, Nat.le_of_eq (Nat.add_comm _ _), Nat.le_refl 1⟩
  | @check _ checked rest o report hphase =>
      obtain ⟨o', report', world, -, hcheck⟩ :=
        exists_checkNext (host s.world) s checked o rest report
      rw [hphase, hcheck]
      simp [Phase.stepsLeft, Phase.startsLeft, Act.isOwn, Act.isStart, hs]
      omega
  | complete hphase =>
      rw [hphase]
      exact ⟨hs, Nat.le_refl 2, Nat.le_refl 0⟩
  | resume hphase hflag =>
      rw [hs] at hflag
      cases hflag
  | @wake _ os deadline isOver hphase =>
      rw [hphase]
      refine ⟨hs, ?_, Nat.zero_le 1⟩
      cases isOver <;> exact Nat.le_add_left 1 _
  | leave hphase =>
      rw [hphase]
      exact ⟨hs, Nat.le_refl 1, Nat.le_refl 0⟩

theorem Run.le_of_requested (hs : s.flag.value = true) (h : Run (Step host) s acts t) :
    t.flag.value = true ∧
      acts.countP Act.isOwn + t.phase.stepsLeft ≤ s.phase.stepsLeft ∧
      acts.countP Act.isStart + t.phase.startsLeft ≤ s.phase.startsLeft := by
  induction h with
  | nil => exact ⟨hs, Nat.le_of_eq (Nat.zero_add _), Nat.le_of_eq (Nat.zero_add _)⟩
  | concat _ hlast ih =>
      obtain ⟨hvalue, hsteps, hstarts⟩ := ih
      obtain ⟨hvalue', hstep, hstart⟩ := hlast.le_of_requested hvalue
      simp only [List.countP_append, List.countP_singleton]
      exact ⟨hvalue', by omega, by omega⟩

theorem exists_step_of_requested {blanks : List Observer} (hs : Sound blanks s)
    (hvalue : s.flag.value = true) (hended : s.phase.isEnded = false) :
    ∃ a t, a.isOwn = true ∧ Step host a s t := by
  have hnew := hs.isNew_of_value hvalue hended
  cases hphase : s.phase with
  | idle os => exact ⟨_, _, rfl, .wait hphase⟩
  | waiting os deadline isOver => exact ⟨_, _, rfl, .wake hphase hnew⟩
  | cycling checked rest report =>
      obtain ⟨a, t, ha, hstep⟩ := exists_step_of_cycling host hphase
      exact ⟨a, t, Act.isOwn_of_isCycle ha, hstep⟩
  | finished os => exact ⟨_, _, rfl, .leave hphase hvalue⟩
  | ended os =>
      rw [hphase] at hended
      cases hended

theorem request_mem_of_run (hs : s.flag.value = false) (h : Run (Step host) s acts t)
    (ht : t.flag.value = true) : .request ∈ acts := by
  induction h with
  | nil =>
      rw [hs] at ht
      cases ht
  | concat _ hstep ih =>
      cases hstep with
      | request => exact List.mem_append_right _ (List.mem_singleton.2 rfl)
      | pass | change | wait | expire | start | check | complete | resume | wake | leave =>
          exact List.mem_append_left _ (ih ht)

theorem Run.of_ended {os : List Observer} (hs : s.phase = .ended os)
    (h : Run (Step host) s acts t) : t.phase = .ended os ∧ ∀ a ∈ acts, a.isOwn = false := by
  induction h with
  | nil => exact ⟨hs, by simp⟩
  | concat _ hstep ih =>
      obtain ⟨hphase, hacts⟩ := ih
      cases hstep with
      | pass | change | request =>
          exact ⟨hphase, by simpa [or_imp, forall_and, Act.isOwn] using hacts⟩
      | wait h | expire h | start h | check h | complete h | resume h | wake h | leave h =>
          rw [hphase] at h
          cases h

/-! ## All together -/

/-- What holds of the loop of a monitor in whatever order everything happens. -/
structure Stops (host : σ → Host (StateM σ)) (m : Monitor) (w : σ) : Prop where
  /-- Cycles do not overlap, and each goes through all observers once. -/
  cycles : ∀ acts s, Run (Step host) (launch host m w) acts s → ∃ n, acts.filter Act.isCycle
    = (List.replicate n (cycle m.observers.length)).flatten ++ s.phase.begun
  /-- The observers stay in the order in which they were added. -/
  order : ∀ acts s, Run (Step host) (launch host m w) acts s →
    s.phase.observers.map Observer.blank = m.observers.map Observer.blank
  /-- A cycle that has started is always able to go on, and it ends before anything else. -/
  completes : ∀ acts s checked rest report, Run (Step host) (launch host m w) acts s →
    s.phase = .cycling checked rest report → (∃ a t, a.isCycle = true ∧ Step host a s t) ∧
      ∀ acts' t, Run (Step host) s acts' t → rest.length < acts'.countP Act.isOwn →
        .complete ∈ acts'
  /-- A request is never lost: the loop takes so many steps more at most, and until it has ended
  nothing keeps it from the next. -/
  heard : ∀ acts s acts' t, Run (Step host) (launch host m w) acts s →
    Run (Step host) s.requested acts' t → acts'.countP Act.isOwn ≤ s.phase.stepsLeft ∧
      (t.phase.isEnded = false → ∃ a u, a.isOwn = true ∧ Step host a t u)
  /-- A request lets no other cycle start if it comes during or after one, and else at most one. -/
  starts : ∀ acts s acts' t, Run (Step host) (launch host m w) acts s →
    Run (Step host) s.requested acts' t → acts'.countP Act.isStart ≤ s.phase.startsLeft
  /-- The loop ends only if it was asked to, and then with all observers, which are destroyed. -/
  ended : ∀ acts s os, Run (Step host) (launch host m w) acts s → s.phase = .ended os →
    .request ∈ acts ∧ os.map Observer.blank = m.observers.map Observer.blank ∧
      (∀ o ∈ os, o.state = .destroyed) ∧
      ∀ acts' t, Run (Step host) s acts' t → t.phase = .ended os ∧ ∀ a ∈ acts', a.isOwn = false
  /-- On a clock where nothing is late, as many cycles run as intervals have passed. -/
  onTime : ∀ before s after t, Run (PromptStep host) (launch host m w) before s →
    (∀ a ∈ before, a ≠ .request) → (∀ k, s.now ≠ (k + 1) * m.interval.nanoseconds) →
      Run (PromptStep host) s.requested after t →
        (before ++ after).countP Act.isStart = RunningMonitor.cyclesUpTo m.interval ⟨s.now⟩

/-- A monitor with an interval can be stopped at any time, and stops as it should. -/
theorem stops_of_make (hm : Monitor.make m.interval = .ok ⟨m.interval, []⟩)
    (host : σ → Host (StateM σ)) (w : σ) : Stops host m w where
  cycles _ _ h := exists_cycles h
  order _ _ h := (sound_of_run h).map_blank
  completes _ _ _ _ _ _ hphase :=
    ⟨exists_step_of_cycling host hphase, fun _ _ => complete_mem_of_run hphase⟩
  heard acts s acts' t h h' := by
    have hsound : Sound (m.observers.map Observer.blank) t :=
      h'.induct (fun _ _ _ hs hstep => hs.step hstep) (sound_of_run (h.concat (.request s)))
    obtain ⟨hvalue, hsteps, -⟩ := h'.le_of_requested rfl
    exact ⟨Nat.le_trans (Nat.le_add_right _ _) hsteps, exists_step_of_requested hsound hvalue⟩
  starts _ _ _ _ _ h' := Nat.le_trans (Nat.le_add_right _ _) (h'.le_of_requested rfl).2.2
  ended acts s os h hphase := by
    have hsound := sound_of_run h
    have hmap := hsound.map_blank
    have hvalue := hsound.value_of_isEnded
    rw [hphase] at hmap hvalue
    exact ⟨request_mem_of_run rfl h (hvalue rfl), hmap, hsound.destroyed os hphase,
      fun _ _ h' => h'.of_ended hphase⟩
  onTime _ _ _ _ hbefore hacts htick hafter := by
    have hpos : 0 < m.interval.nanoseconds := Nat.pos_of_ne_zero fun hzero => by
      simp [Monitor.make, Duration.isZero, hzero] at hm
    exact countP_isStart_of_prompt hpos hbefore hacts htick hafter

def pair : Monitor :=
  ⟨⟨5⟩, [Life.founded.observer,
    { Life.founded.observer with root := ⟨"/s"⟩, snapshot := .missing ⟨"/s"⟩ }]⟩

theorem exists_first_check_pair : ∃ s a b report,
    Run (PromptStep Life.hearing) (launch Life.hearing pair Life.founded.world)
      [.wait, .pass 5, .expire, .start, .check 0] s ∧
    s.phase = .cycling [a] [b] report ∧ s.flag = ⟨false, false⟩ ∧ s.now = 5 ∧ s.interval = ⟨5⟩ := by
  have hlength := congrArg List.length (sound_launch Life.hearing pair Life.founded.world).map_blank
  rw [List.length_map, List.length_map] at hlength
  obtain ⟨a, b, hos⟩ := List.length_eq_two.1 hlength
  have hwait : Run (PromptStep Life.hearing) (launch Life.hearing pair Life.founded.world)
      [.wait] _ := (Run.nil _).concat ⟨.wait rfl, fun _ h => nomatch h⟩
  have hpass := hwait.concat (a := .pass 5) ⟨.pass _ 5, fun d h => by
    cases h
    exact ⟨_, _, rfl, rfl, Nat.le_refl 5⟩⟩
  have hexpire := hpass.concat ⟨.expire rfl (Nat.le_refl 5), fun _ h => nomatch h⟩
  have hstart := hexpire.concat ⟨.start rfl, fun _ h => nomatch h⟩
  obtain ⟨a', report, world, hcheck⟩ := hstart.exists_check (congrArg (Phase.cycling [] · {}) hos)
  exact ⟨_, a', b, report, hcheck, rfl, rfl, rfl, rfl⟩

theorem stops_pair :
    Monitor.make pair.interval = .ok ⟨pair.interval, []⟩ ∧
    (∃ s os, Run (Step Life.hearing) (launch Life.hearing pair Life.founded.world)
        [.wait, .pass 5, .expire, .start, .check 0, .request, .check 1, .complete, .quit] s ∧
      s.phase = .ended os ∧ os.map Observer.root = [⟨"/r"⟩, ⟨"/s"⟩] ∧
      ∀ o ∈ os, o.state = .destroyed) ∧
    (∃ s t, Run (PromptStep Life.hearing) (launch Life.hearing pair Life.founded.world)
        [.wait, .pass 5, .expire, .start, .check 0, .check 1, .complete, .resume, .wait,
          .pass 3] s ∧
      Run (PromptStep Life.hearing) s.requested [.quit] t ∧ t.phase.isEnded = true ∧
      RunningMonitor.cyclesUpTo pair.interval ⟨s.now⟩ = 1) ∧
    Stops Life.hearing pair Life.founded.world := by
  have hm : Monitor.make pair.interval = .ok ⟨pair.interval, []⟩ := rfl
  have hstops := stops_of_make hm Life.hearing Life.founded.world
  obtain ⟨s, a, b, report, hfirst, hcycling, hflag, hnow, hinterval⟩ := exists_first_check_pair
  refine ⟨hm, ?_, ?_, hstops⟩
  · have hrequest := hfirst.concat ⟨.request s, fun _ h => nomatch h⟩
    obtain ⟨b', report', world, hcheck⟩ := hrequest.exists_check hcycling
    have hquit := (hcheck.step_of_prompt.concat (.complete rfl)).concat (.leave rfl rfl)
    obtain ⟨-, hblank, hdestroyed, -⟩ := hstops.ended _ _ _ hquit rfl
    refine ⟨_, _, hquit, rfl, ?_, hdestroyed⟩
    have hroots := congrArg (List.map Observer.root) hblank
    rwa [List.map_map] at hroots
  · obtain ⟨b', report', world, hcheck⟩ := hfirst.exists_check hcycling
    have hresume := (hcheck.concat ⟨.complete rfl, fun _ h => nomatch h⟩).concat
      ⟨.resume rfl (congrArg Flag.value hflag), fun _ h => nomatch h⟩
    have hpass := (hresume.concat ⟨.wait rfl, fun _ h => nomatch h⟩).concat (a := .pass 3)
      ⟨.pass _ 3, fun d h => by
        cases h
        exact ⟨_, _, rfl, congrArg Flag.isNew hflag, by
          change s.now + 3 ≤ s.now + s.interval.nanoseconds
          rw [hinterval]
          exact Nat.add_le_add_left (by decide) _⟩⟩
    refine ⟨_, _, hpass, (Run.nil _).concat ⟨.wake rfl rfl, fun _ h => nomatch h⟩, rfl, ?_⟩
    change RunningMonitor.cyclesUpTo pair.interval ⟨s.now + 3⟩ = 1
    rw [hnow]
    rfl

end Loop

end TreeWatch
