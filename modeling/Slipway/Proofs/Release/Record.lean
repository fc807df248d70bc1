import Slipway.Proofs.Release.Course
import Slipway.Proofs.Release.Trace

/-!
# What a step puts on record

About the `ReleaseContext` of `ReleaseOrchestrator::execute` (`keel_core::release`). The events of a
session tell what a step has done (`StepRecord`): a question, commands. They tell, too, whether the
command by which the step has its effect has exited with status zero (`Turn.exited`). The progress
of a release can be read off them.

* `Session.Records`: the session after some more events.
* `effects`, `reached`: the effects and the states that the steps of a release have brought about.
* `runStep_records`: the events of a step, and what they say about the progress (`Achieves`).
-/

namespace Slipway

/-- Whether the release was asked to stop during an event. -/
def Event.stop : Event → Bool
  | .asked _ _ stop => stop
  | .launched _ _ _ stop => stop

/-- Whether the release has been asked to stop: early, or during one of the events. -/
def requested (early : Bool) (past : List Event) : Bool := early || past.any Event.stop

theorem requested_append (early : Bool) (past more : List Event) :
    requested early (past ++ more) = requested (requested early past) more := by
  unfold requested
  rw [List.any_append, Bool.or_assoc]

theorem requested_singleton (early : Bool) (e : Event) :
    requested early [e] = (early || e.stop) := by
  simp [requested]

theorem requested_cons (early : Bool) (e : Event) (events : List Event) :
    requested early (e :: events) = requested (early || e.stop) events := by
  rw [← List.singleton_append, requested_append, requested_singleton]

namespace Session

variable {σ : Type} {w : World σ} {s s₁ s' : Session σ} {es es' : List Event}

/-- The session after some more events. A request to stop that came during one of them is noted. -/
structure Records (s : Session σ) (es : List Event) (s' : Session σ) : Prop where
  events : s'.events = s.events ++ es
  stopped : s'.stopped = requested s.stopped es

theorem records_nil (s : Session σ) (d : Disk) : s.Records [] { s with disk := d } :=
  ⟨(List.append_nil _).symm, by simp [requested]⟩

theorem Records.trans (h : s.Records es s₁) (h' : s₁.Records es' s') :
    s.Records (es ++ es') s' where
  events := by rw [h'.events, h.events, List.append_assoc]
  stopped := by rw [h'.stopped, h.stopped, requested_append]

theorem Records.withDisk (h : s.Records es s') (d : Disk) : s.Records es { s' with disk := d } :=
  ⟨h.events, h.stopped⟩

theorem records_ask (w : World σ) (question : String) (s : Session σ) :
    s.Records [.asked question (s.ask w question).1 (w.ask question s.world).stop]
      (s.ask w question).2 where
  events := rfl
  stopped := by rw [requested_singleton]; rfl

theorem records_launch (w : World σ) (c : Command) (s : Session σ) :
    s.Records [.launched c s.disk (s.launch w c).1 (w.launch c s.disk s.world).stop]
      (s.launch w c).2 where
  events := rfl
  stopped := by rw [requested_singleton]; rfl

end Session

open Session

namespace Project

variable {σ : Type} {w : World σ} {p : Project} {o : ReleaseOptions} {plan : ReleasePlan}
variable {set : BackupSet} {step : Step} {steps : List Step} {progress progress' : Progress}
variable {progress₁ : Progress} {s s' : Session σ} {es : List Event}

/-! ## The events of one step -/

/-- A command of a publication. -/
def Publishes (p : Project) (plan : ReleasePlan) (e : Event) : Prop :=
  ∃ c d result stop, e = .launched c d result stop ∧ c ∈ publishCommands p plan d

/-- The events of one step. -/
inductive StepRecord (p : Project) (plan : ReleasePlan) (step : Step) : List Event → Prop
  | command (hk : step.kind ≠ .deploy) (hp : step.kind ≠ .publish) (d : Disk)
    (result : Except String CommandOutput) (stop : Bool) :
    StepRecord p plan step [.launched step.command d result stop]
  | declined (hk : step.kind = .deploy) (stop : Bool) :
    StepRecord p plan step [.asked (deployQuestion plan) false stop]
  | deployed (hk : step.kind = .deploy) (asked : Bool) (d : Disk)
      (result : Except String CommandOutput) (stop : Bool) :
    StepRecord p plan step
      [.asked (deployQuestion plan) true asked, .launched step.command d result stop]
  | published (hk : step.kind = .publish) (es : List Event) (h : ∀ e ∈ es, Publishes p plan e) :
    StepRecord p plan step es

/-! ## Turns -/

/-- A step that a release has begun, and the events of the step. -/
structure Turn where
  step : Step
  events : List Event

/-- The command by which a step has its effect. A publication puts it together on the disk. -/
def ownCommand (p : Project) (plan : ReleasePlan) (step : Step) (d : Disk) : Command :=
  if step.kind = .publish then p.host.createCommand d plan.tag plan.next else step.command

/-- The command of a step exited with status zero. -/
def isExit (p : Project) (plan : ReleasePlan) (step : Step) : Event → Bool
  | .launched c d (.ok output) _ => c = ownCommand p plan step d && output.success
  | .launched _ _ (.error _) _ => false
  | .asked _ _ _ => false

/-- The command of a turn exited with status zero. -/
def Turn.exited (p : Project) (plan : ReleasePlan) (t : Turn) : Bool :=
  t.events.any (isExit p plan t.step)

/-- The effects of those turns of some kinds whose commands exited with status zero. -/
def effects (p : Project) (plan : ReleasePlan) (kinds : List StepKind) (turns : List Turn) :
    List String :=
  (turns.filter fun t => t.exited p plan && kinds.contains t.step.kind).map fun t =>
    p.effect plan t.step.kind

/-- The states that the turns whose commands exited with status zero lead to. -/
def reached (p : Project) (plan : ReleasePlan) (turns : List Turn) : List ReleaseState :=
  (turns.filter (Turn.exited p plan)).filterMap fun t => ReleaseState.after? t.step.kind

variable {turns turns' : List Turn} {t : Turn}

theorem effects_append (p : Project) (plan : ReleasePlan) (kinds : List StepKind)
    (turns turns' : List Turn) :
    effects p plan kinds (turns ++ turns') =
      effects p plan kinds turns ++ effects p plan kinds turns' := by
  unfold effects
  rw [List.filter_append, List.map_append]

theorem reached_append (p : Project) (plan : ReleasePlan) (turns turns' : List Turn) :
    reached p plan (turns ++ turns') = reached p plan turns ++ reached p plan turns' := by
  unfold reached
  rw [List.filter_append, List.filterMap_append]

theorem effects_of_not_exited (h : t.exited p plan = false) (kinds : List StepKind) :
    effects p plan kinds [t] = [] := by
  simp [effects, h]

theorem reached_of_not_exited (h : t.exited p plan = false) : reached p plan [t] = [] := by
  simp [reached, h]

theorem effects_of_exited (h : t.exited p plan = true) (kinds : List StepKind) :
    effects p plan kinds [t] =
      if t.step.kind ∈ kinds then [p.effect plan t.step.kind] else [] := by
  by_cases hk : t.step.kind ∈ kinds
  · simp [effects, h, hk]
  · simp [effects, h, hk]

theorem reached_of_exited (h : t.exited p plan = true) :
    reached p plan [t] = (ReleaseState.after? t.step.kind).toList := by
  cases hk : ReleaseState.after? t.step.kind with
  | none => simp [reached, h, hk]
  | some state => simp [reached, h, hk]

/-! ## What turns achieve -/

/-- What turns add to the progress: others see deployments, pushes and publications; commits and
tags stay on this machine. -/
structure Achieves (p : Project) (plan : ReleasePlan) (turns : List Turn)
    (progress progress' : Progress) : Prop where
  live : progress'.live =
    progress.live ++ effects p plan [.deploy, .pushCommits, .pushTags, .publish] turns
  localEffects : progress'.localEffects =
    progress.localEffects ++ effects p plan [.commit, .tag] turns
  state : progress'.state = (reached p plan turns).getLast?.getD progress.state

theorem Achieves.refl (p : Project) (plan : ReleasePlan) (progress : Progress) :
    Achieves p plan [] progress progress :=
  ⟨(List.append_nil _).symm, (List.append_nil _).symm, rfl⟩

theorem Achieves.trans (h : Achieves p plan turns progress progress₁)
    (h' : Achieves p plan turns' progress₁ progress') :
    Achieves p plan (turns ++ turns') progress progress' where
  live := by rw [h'.live, h.live, effects_append, List.append_assoc]
  localEffects := by rw [h'.localEffects, h.localEffects, effects_append, List.append_assoc]
  state := by
    rw [h'.state, h.state, reached_append, List.getLast?_append]
    cases (reached p plan turns').getLast? with
    | none => rfl
    | some state => rfl

/-- A turn whose command did not exit with status zero achieves nothing. -/
theorem achieves_of_not_exited (h : t.exited p plan = false)
    (hlive : progress'.live = progress.live)
    (hlocal : progress'.localEffects = progress.localEffects)
    (hstate : progress'.state = progress.state) : Achieves p plan [t] progress progress' where
  live := by rw [hlive, effects_of_not_exited h, List.append_nil]
  localEffects := by rw [hlocal, effects_of_not_exited h, List.append_nil]
  state := by rw [hstate, reached_of_not_exited h]; rfl

/-- A turn whose command exited with status zero is recorded as a success. -/
theorem achieves_of_exited (h : t.exited p plan = true) (progress : Progress) :
    Achieves p plan [t] progress (p.recordSuccess plan t.step.kind progress) := by
  -- which effects a success is recorded among follows from the kind of the step alone
  refine ⟨?live, ?localEffects, ?state⟩
  case live =>
    rw [effects_of_exited h]
    cases t.step.kind with
    | _ => simp [recordSuccess, StepKind.reach]
  case localEffects =>
    rw [effects_of_exited h]
    cases t.step.kind with
    | _ => simp [recordSuccess, StepKind.reach]
  case state =>
    rw [reached_of_exited h]
    cases t.step.kind with
    | _ => rfl

/-! ## What a step records -/

theorem isExit_launched {c : Command} {d : Disk} {result : Except String CommandOutput}
    (hc : c = ownCommand p plan step d) (stop : Bool) :
    isExit p plan step (.launched c d result stop) = true ↔
      ∃ output, result = .ok output ∧ output.success = true := by
  cases result with
  | error reason => simp [isExit]
  | ok output => simp [isExit, hc]

theorem isExit_question {e : Event} (h : IsQuestion e) : isExit p plan step e = false := by
  cases e with
  | asked question yes stop => rfl
  | launched c d result stop => exact absurd h id

/-- A turn has exited with its last event, if the events before it are no exits. -/
theorem exited_append {before : List Event} {e : Event}
    (h : ∀ x ∈ before, isExit p plan step x = false) :
    Turn.exited p plan ⟨step, before ++ [e]⟩ = isExit p plan step e := by
  unfold Turn.exited
  have hany : before.any (isExit p plan step) = false := by
    rw [List.any_eq_false]
    intro x hx
    rw [h x hx]
    simp
  rw [List.any_append, hany]
  simp

/-- What precedes the command of a step is a question at most. -/
theorem before_records (hp : step.kind ≠ .publish) (hd : ¬ Declined w plan step s) :
    ∃ es, s.Records es (before w plan step s) ∧ (∀ e ∈ es, IsQuestion e) ∧
      ∀ d result stop, StepRecord p plan step (es ++ [.launched step.command d result stop]) := by
  unfold before
  by_cases hk : step.kind = .deploy
  · have hyes : (s.ask w (deployQuestion plan)).1 = true := by
      rw [← Bool.not_eq_false]
      exact fun hno => hd ⟨hk, hno⟩
    have hask := records_ask w (deployQuestion plan) s
    rw [hyes] at hask
    rw [if_pos hk]
    refine ⟨_, hask, fun e he => ?_, fun d result stop => .deployed hk _ d result stop⟩
    rw [List.mem_singleton.mp he]
    trivial
  · rw [if_neg hk]
    exact ⟨[], records_nil s s.disk, by simp, fun d result stop => .command hk hp d result stop⟩

/-- The command of a step goes on record after the question, and tells whether it has succeeded. -/
theorem command_records (p : Project) (hp : step.kind ≠ .publish) (hd : ¬ Declined w plan step s) :
    ∃ es, StepRecord p plan step es ∧
      s.Records es ((before w plan step s).launch w step.command).2 ∧
      (Turn.exited p plan ⟨step, es⟩ = true ↔ step.Succeeds w (before w plan step s)) := by
  obtain ⟨es, hrec, hquestions, hstep⟩ := before_records (p := p) hp hd
  have hlaunch := records_launch w step.command (before w plan step s)
  refine ⟨_, hstep _ _ _, hrec.trans hlaunch, ?_⟩
  rw [exited_append fun e he => isExit_question (hquestions e he)]
  refine isExit_launched ?_ _
  unfold ownCommand
  rw [if_neg hp]

/-- A command that asks for the host. -/
def Probes (p : Project) (e : Event) : Prop :=
  ∃ c d result stop, e = .launched c d result stop ∧ (c = p.host.probe ∨ c = p.host.authProbe)

theorem Probes.publishes {e : Event} (h : Probes p e) : Publishes p plan e := by
  obtain ⟨c, d, result, stop, rfl, rfl | rfl⟩ := h
  · exact ⟨_, d, result, stop, rfl, by simp [publishCommands]⟩
  · exact ⟨_, d, result, stop, rfl, by simp [publishCommands]⟩

/-- The command that publishes is none that asks for the host. -/
theorem ne_createCommand {c : Command} (h : c = p.host.probe ∨ c = p.host.authProbe) (d : Disk) :
    c ≠ p.host.createCommand d plan.tag plan.next := by
  intro he
  have hargs := congrArg Command.args he
  rcases h with rfl | rfl
  · exact absurd hargs (by simp [ReleaseHost.probe, ReleaseHost.createCommand])
  · exact absurd hargs (by simp [ReleaseHost.authProbe, ReleaseHost.createCommand])

theorem Probes.isExit_eq {e : Event} (h : Probes p e) (hk : step.kind = .publish) :
    isExit p plan step e = false := by
  obtain ⟨c, d, result, stop, rfl, hc⟩ := h
  have hne : c ≠ ownCommand p plan step d := by
    unfold ownCommand
    rw [if_pos hk]
    exact ne_createCommand hc d
  cases result with
  | error reason => rfl
  | ok output => simp [isExit, hne]

theorem status_records (p : Project) (w : World σ) (s : Session σ) :
    ∃ es, s.Records es (p.host.status w s).2 ∧ ∀ e ∈ es, Probes p e := by
  have hprobe := records_launch w p.host.probe s
  rcases p.host.status_session w s with hs | hs
  · rw [hs]
    refine ⟨_, hprobe, fun e he => ?_⟩
    rw [List.mem_singleton.mp he]
    exact ⟨_, _, _, _, rfl, Or.inl rfl⟩
  · rw [hs]
    refine ⟨_, hprobe.trans (records_launch w p.host.authProbe _), fun e he => ?_⟩
    rcases List.mem_append.mp he with he | he
    · rw [List.mem_singleton.mp he]
      exact ⟨_, _, _, _, rfl, Or.inl rfl⟩
    · rw [List.mem_singleton.mp he]
      exact ⟨_, _, _, _, rfl, Or.inr rfl⟩

/-- **A publication** records its commands, and whether the last one has succeeded. -/
theorem Publication.records {result : StepResult} {warnings : List String}
    (h : p.Publication w plan s result warnings s') (hk : step.kind = .publish) :
    ∃ es, StepRecord p plan step es ∧ s.Records es s' ∧
      (Turn.exited p plan ⟨step, es⟩ = true ↔ result.isSuccess = true) := by
  obtain ⟨es, hrec, hprobes⟩ := status_records p w s
  have hno : ∀ e ∈ es, isExit p plan step e = false := fun e he => (hprobes e he).isExit_eq hk
  cases h with
  | withheld reason =>
    refine ⟨es, .published hk es fun e he => (hprobes e he).publishes, hrec, ?_⟩
    have hany : Turn.exited p plan ⟨step, es⟩ = false := by
      unfold Turn.exited
      rw [List.any_eq_false]
      intro e he
      rw [hno e he]
      simp
    simp [hany, StepResult.isSuccess]
  | launched d _ _ hw hsucc =>
    have hlaunch := records_launch w (p.host.createCommand d plan.tag plan.next) (p.withNotes w s d)
    refine ⟨_, .published hk _ fun e he => ?_, ((hrec.withDisk d).trans hlaunch).withDisk _, ?_⟩
    · rcases List.mem_append.mp he with he | he
      · exact (hprobes e he).publishes
      · rw [List.mem_singleton.mp he]
        exact ⟨_, d, _, _, rfl, by simp [publishCommands]⟩
    · rw [exited_append hno, hsucc]
      refine isExit_launched ?_ _
      unfold ownCommand
      rw [if_pos hk]
      rfl

/-- **What a step puts on record**, and what that says about the progress. A step that fails has not
exited with status zero. -/
theorem runStep_records (w : World σ) (p : Project) (plan : ReleasePlan) (set : BackupSet)
    (step : Step) (progress : Progress) (s : Session σ) :
    ∃ es, StepRecord p plan step es ∧ s.Records es (p.runStep w plan set step progress s).2 ∧
      (∀ progress', (p.runStep w plan set step progress s).1 = .ok progress' →
        Achieves p plan [⟨step, es⟩] progress progress') ∧
      ∀ failure, (p.runStep w plan set step progress s).1 = .error failure →
        Turn.exited p plan ⟨step, es⟩ = false := by
  have hgoes := runStep_goes w p plan set step progress s
  generalize p.runStep w plan set step progress s = run at hgoes ⊢
  obtain ⟨outcome, s'⟩ := run
  cases hgoes with
  | declined hd =>
    have hask := records_ask w (deployQuestion plan) s
    rw [hd.2, show (s.ask w (deployQuestion plan)).2 = before w plan step s from
      (if_pos hd.1).symm] at hask
    refine ⟨_, .declined hd.1 (w.ask (deployQuestion plan) s.world).stop, hask,
      fun progress' h => ?_, by simp⟩
    rw [← Except.ok.inj h]
    exact achieves_of_not_exited rfl rfl rfl rfl
  | succeeded hp hd hs =>
    obtain ⟨es, hstep, hrec, hexit⟩ := command_records p hp hd
    refine ⟨es, hstep, hrec, fun progress' h => ?_, by simp⟩
    rw [← Except.ok.inj h]
    exact achieves_of_exited (hexit.mpr hs) progress
  | passedOver hp hd hs hr reason =>
    obtain ⟨es, hstep, hrec, hexit⟩ := command_records p hp hd
    refine ⟨es, hstep, hrec, fun progress' h => ?_, by simp⟩
    rw [← Except.ok.inj h]
    exact achieves_of_not_exited (Bool.eq_false_iff.mpr fun he => hs (hexit.mp he)) rfl rfl rfl
  | failed hp hd hs hr failure _ hback =>
    obtain ⟨es, hstep, hrec, hexit⟩ := command_records p hp hd
    obtain ⟨-, rfl⟩ := hback
    exact ⟨es, hstep, hrec.withDisk _, by simp,
      fun _ _ => Bool.eq_false_iff.mpr fun he => hs (hexit.mp he)⟩
  | published hk result warnings _ hpub =>
    obtain ⟨es, hstep, hrec, hexit⟩ := hpub.records hk
    refine ⟨es, hstep, hrec, fun progress' h => ?_, by simp⟩
    rw [← Except.ok.inj h]
    by_cases hs : result.isSuccess = true
    · rw [recordResult_of_isSuccess hs]
      have hach : Achieves p plan [⟨step, es⟩] (progress.warn warnings) _ :=
        achieves_of_exited (hexit.mpr hs) (progress.warn warnings)
      exact ⟨hach.live, hach.localEffects, hach.state⟩
    · obtain ⟨reason, hreason⟩ :=
        recordResult_of_not_isSuccess p plan step.kind (progress.warn warnings) hs
      rw [hreason]
      exact achieves_of_not_exited (Bool.eq_false_iff.mpr fun he => hs (hexit.mp he)) rfl rfl rfl

/-! ## What a failure records -/

theorem rollBack_records (set : BackupSet) (progress : Progress) (e : ReleaseError)
    (restored : Option RestoreReport) (s : Session σ) :
    s.Records [] (rollBack set progress e restored s).2 :=
  records_nil s _

theorem interrupt_records (set : BackupSet) (progress : Progress) (s : Session σ) :
    s.Records [] (interrupt set progress s).2 := by
  unfold interrupt
  split
  · exact rollBack_records set progress .interrupted none s
  · exact records_nil s s.disk

end Project

end Slipway
