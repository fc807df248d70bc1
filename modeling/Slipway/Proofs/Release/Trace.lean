import Slipway.Proofs.Release.Run

/-!
# What a release launches

About `ReleaseOrchestrator::execute` (`keel_core::release`). The events of a release are those of
its first question and a `Log`, in which every event carries the number of its step. `Gated` says of
a log that every command in it was allowed by what came before: it belongs to its step, all earlier
steps were passed, a deployment was confirmed, no required step has failed, and the first command
finds the files updated (`Allowed`).

* `runSteps_gated`: running the steps of a plan extends a gated log to a gated one.
* `execute_gated`: the log of a release is gated, and empty unless the changelog was accepted, the
  release confirmed, the files captured and updated.
-/

namespace Slipway.Project

open Session

variable {σ : Type} {w : World σ} {p : Project} {o : ReleaseOptions} {plan : ReleasePlan}
variable {set : BackupSet} {step : Step} {steps : List Step} {progress : Progress}
variable {s s' : Session σ} {d d₀ start : Disk} {c : Command} {i j k : Nat}

/-! ## Logs -/

/-- Events with the numbers of their steps. -/
abbrev Log := List (Nat × Event)

variable {log past : Log} {base : List Event}

/-- An event that is a question. -/
def IsQuestion : Event → Prop
  | .asked _ _ _ => True
  | .launched _ _ _ _ => False

/-- The commands of a publication: two ask whether the host can be used, the third one publishes. -/
def publishCommands (p : Project) (plan : ReleasePlan) (d : Disk) : List Command :=
  [p.host.probe, p.host.authProbe, p.host.createCommand d plan.tag plan.next]

/-- A command that exited with status zero. -/
def Exited (result : Except String CommandOutput) : Prop :=
  ∃ output, result = .ok output ∧ output.exit = 0

/-- A step was passed: its command exited with status zero, or the operator declined to deploy. -/
def Passed (plan : ReleasePlan) (log : Log) (i : Nat) (step : Step) : Prop :=
  (∃ d result stop, (i, .launched step.command d result stop) ∈ log ∧ Exited result) ∨
    (step.kind = .deploy ∧ ∃ stop, (i, .asked (deployQuestion plan) false stop) ∈ log)

/-- The log has come to a step: the commands in it are those of earlier steps, or of the same
publication, all earlier steps were passed, and no required step has failed. -/
structure Ready (plan : ReleasePlan) (log : Log) (step : Step) (i : Nat) : Prop where
  step_eq : plan.steps[i]? = some step
  ordered : ∀ j c d result stop, (j, .launched c d result stop) ∈ log →
    j < i ∨ (j = i ∧ step.kind = .publish)
  passed : ∀ j earlier, j < i → plan.steps[j]? = some earlier → Passed plan log j earlier
  sound : ∀ j c d result stop, (j, .launched c d result stop) ∈ log →
    ∀ earlier, plan.steps[j]? = some earlier → earlier.required = true → Exited result

/-- A command may be launched after a log: the log has come to its step, it belongs to the step, a
deployment was just confirmed, and the first command of all finds the disk `start`. -/
structure Allowed (p : Project) (plan : ReleasePlan) (start : Disk) (log : Log) (step : Step)
    (i : Nat) (c : Command) (d : Disk) : Prop extends Ready plan log step i where
  command : (step.kind ≠ .publish ∧ c = step.command) ∨
    (step.kind = .publish ∧ c ∈ publishCommands p plan d)
  confirmed : step.kind = .deploy →
    ∃ past stop, log = past ++ [(i, .asked (deployQuestion plan) true stop)]
  first : (∀ x ∈ log, IsQuestion x.2) → d = start

/-- Every command of a log was allowed by what came before it. -/
def Gated (p : Project) (plan : ReleasePlan) (start : Disk) (log : Log) : Prop :=
  ∀ past i c d result stop rest, log = past ++ (i, .launched c d result stop) :: rest →
    ∃ step, Allowed p plan start past step i c d

theorem gated_nil : Gated p plan start [] := by
  intro past i c d result stop rest h
  exact absurd h.symm (by simp)

/-- The last event of a log, or an earlier one. -/
theorem append_singleton_eq {x y : Nat × Event} {rest : Log}
    (h : log ++ [x] = past ++ y :: rest) :
    (log = past ∧ x = y) ∨ ∃ rest', log = past ++ y :: rest' := by
  rcases List.append_eq_append_iff.mp h with ⟨more, hpast, hx⟩ | ⟨more, hlog, hx⟩
  · cases more with
    | nil => exact Or.inl ⟨by rw [hpast, List.append_nil], (List.cons.inj hx).1⟩
    | cons z more => exact absurd (List.cons.inj hx).2.symm (by simp)
  · cases more with
    | nil => exact Or.inl ⟨by rw [hlog, List.append_nil], (List.cons.inj hx).1.symm⟩
    | cons z more => exact Or.inr ⟨more, by rw [hlog, (List.cons.inj hx).1]⟩

theorem Gated.asked (h : Gated p plan start log) (i : Nat) (question : String) (yes stop : Bool) :
    Gated p plan start (log ++ [(i, .asked question yes stop)]) := by
  intro past j c d result stop' rest he
  rcases append_singleton_eq he with ⟨-, hx⟩ | ⟨rest', hlog⟩
  · exact absurd (Prod.mk.inj hx).2 (by simp)
  · exact h past j c d result stop' rest' hlog

theorem Gated.launched (h : Gated p plan start log) (ha : Allowed p plan start log step i c d)
    (result : Except String CommandOutput) (stop : Bool) :
    Gated p plan start (log ++ [(i, .launched c d result stop)]) := by
  intro past j c' d' result' stop' rest he
  rcases append_singleton_eq he with ⟨rfl, hx⟩ | ⟨rest', hlog⟩
  · obtain ⟨hi, hevent⟩ := Prod.mk.inj hx
    obtain ⟨rfl, rfl, -, -⟩ := Event.launched.inj hevent
    exact ⟨step, hi ▸ ha⟩
  · exact h past j c' d' result' stop' rest' hlog

theorem Passed.append (h : Passed plan log i step) (more : Log) :
    Passed plan (log ++ more) i step := by
  rcases h with ⟨d, result, stop, hm, he⟩ | ⟨hk, stop, hm⟩
  · exact Or.inl ⟨d, result, stop, List.mem_append_left _ hm, he⟩
  · exact Or.inr ⟨hk, stop, List.mem_append_left _ hm⟩

theorem Ready.asked (h : Ready plan log step i) (question : String) (yes stop : Bool) :
    Ready plan (log ++ [(i, .asked question yes stop)]) step i := by
  have hmem : ∀ {j c d result stop'},
      (j, Event.launched c d result stop') ∈ log ++ [(i, .asked question yes stop)] →
        (j, Event.launched c d result stop') ∈ log := by
    intro j c d result stop' hm
    rcases List.mem_append.mp hm with hm | hm
    · exact hm
    · exact absurd (Prod.mk.inj (List.mem_singleton.mp hm)).2 (by simp)
  exact ⟨h.step_eq, fun j c d result stop' hm => h.ordered j c d result stop' (hmem hm),
    fun j earlier hj he => (h.passed j earlier hj he).append _,
    fun j c d result stop' hm => h.sound j c d result stop' (hmem hm)⟩

/-- A publication may launch further commands, whatever came of the first ones. -/
theorem Ready.launched (h : Ready plan log step i) (hk : step.kind = .publish)
    (hr : step.required = false) (c : Command) (d : Disk) (result : Except String CommandOutput)
    (stop : Bool) : Ready plan (log ++ [(i, .launched c d result stop)]) step i := by
  refine ⟨h.step_eq, fun j c' d' result' stop' hm => ?_,
    fun j earlier hj he => (h.passed j earlier hj he).append _,
    fun j c' d' result' stop' hm earlier he hreq => ?_⟩
  · rcases List.mem_append.mp hm with hm | hm
    · exact h.ordered j c' d' result' stop' hm
    · exact Or.inr ⟨(Prod.mk.inj (List.mem_singleton.mp hm)).1, hk⟩
  · rcases List.mem_append.mp hm with hm | hm
    · exact h.sound j c' d' result' stop' hm earlier he hreq
    · rw [(Prod.mk.inj (List.mem_singleton.mp hm)).1, h.step_eq] at he
      rw [← Option.some.inj he, hr] at hreq
      exact absurd hreq (by simp)

/-! ## Sessions with a log -/

/-- A session whose log has come to a step. The events in `base` are older than the log. -/
structure AtStep (p : Project) (plan : ReleasePlan) (start : Disk) (base : List Event) (step : Step)
    (i : Nat) (log : Log) (s : Session σ) : Prop where
  events : s.events = base ++ log.map Prod.snd
  gated : Gated p plan start log
  ready : Ready plan log step i
  first : (∀ x ∈ log, IsQuestion x.2) → s.disk = start

/-- A session whose log has passed all steps before a number. -/
structure AllPassed (p : Project) (plan : ReleasePlan) (start : Disk) (base : List Event) (i : Nat)
    (log : Log) (s : Session σ) : Prop where
  events : s.events = base ++ log.map Prod.snd
  gated : Gated p plan start log
  ordered : ∀ j c d result stop, (j, .launched c d result stop) ∈ log → j < i
  passed : ∀ j earlier, j < i → plan.steps[j]? = some earlier → Passed plan log j earlier
  sound : ∀ j c d result stop, (j, .launched c d result stop) ∈ log →
    ∀ earlier, plan.steps[j]? = some earlier → earlier.required = true → Exited result
  first : (∀ x ∈ log, IsQuestion x.2) → s.disk = start

theorem AllPassed.atStep (h : AllPassed p plan start base i log s)
    (hstep : plan.steps[i]? = some step) : AtStep p plan start base step i log s :=
  ⟨h.events, h.gated, ⟨hstep, fun j c d result stop hm => Or.inl (h.ordered j c d result stop hm),
    h.passed, h.sound⟩, h.first⟩

theorem AtStep.ask (h : AtStep p plan start base step i log s) (w : World σ) (question : String) :
    AtStep p plan start base step i
      (log ++ [(i, .asked question (s.ask w question).1 (w.ask question s.world).stop)])
      (s.ask w question).2 where
  events := by
    show s.events ++ _ = _
    rw [h.events, List.map_append, List.append_assoc]
    rfl
  gated := h.gated.asked i question _ _
  ready := h.ready.asked question _ _
  first := fun hq => h.first fun x hx => hq x (List.mem_append_left _ hx)

/-- The log with the command of a step. -/
def withLaunch (w : World σ) (i : Nat) (c : Command) (s : Session σ) (log : Log) : Log :=
  log ++ [(i, .launched c s.disk (s.launch w c).1 (w.launch c s.disk s.world).stop)]

theorem events_withLaunch (h : s.events = base ++ log.map Prod.snd) (w : World σ) (i : Nat)
    (c : Command) : (s.launch w c).2.events = base ++ (withLaunch w i c s log).map Prod.snd := by
  show s.events ++ _ = _
  unfold withLaunch
  rw [h, List.map_append, List.append_assoc]
  rfl

theorem mem_withLaunch (w : World σ) (i : Nat) (c : Command) (s : Session σ) (log : Log) :
    (i, .launched c s.disk (s.launch w c).1 (w.launch c s.disk s.world).stop)
      ∈ withLaunch w i c s log :=
  List.mem_append_right _ (List.mem_singleton_self _)

theorem not_all_questions_withLaunch (w : World σ) (i : Nat) (c : Command) (s : Session σ)
    (log : Log) : ¬ ∀ x ∈ withLaunch w i c s log, IsQuestion x.2 :=
  fun h => h _ (mem_withLaunch w i c s log)

/-! ## A required step -/

theorem AtStep.allowed (h : AtStep p plan start base step i log s) (hk : step.kind ≠ .publish)
    (hc : step.kind = .deploy →
      ∃ past stop, log = past ++ [(i, .asked (deployQuestion plan) true stop)]) :
    Allowed p plan start log step i step.command s.disk :=
  { h.ready with command := Or.inl ⟨hk, rfl⟩, confirmed := hc, first := h.first }

/-- A step whose command succeeds is passed. -/
theorem AtStep.succeeds (h : AtStep p plan start base step i log s) (hk : step.kind ≠ .publish)
    (hc : step.kind = .deploy →
      ∃ past stop, log = past ++ [(i, .asked (deployQuestion plan) true stop)])
    (hs : step.Succeeds w s) :
    AllPassed p plan start base (i + 1) (withLaunch w i step.command s log)
      (s.launch w step.command).2 := by
  have hexit : Exited (s.launch w step.command).1 := by
    obtain ⟨output, hout, hsucc⟩ := hs
    exact ⟨output, hout, eq_of_beq hsucc⟩
  refine ⟨events_withLaunch h.events w i step.command, h.gated.launched (h.allowed hk hc) _ _,
    fun j c d result stop hm => ?_, fun j earlier hj he => ?_,
    fun j c d result stop hm earlier he hr => ?_,
    fun hq => absurd hq (not_all_questions_withLaunch w i _ s log)⟩
  · rcases List.mem_append.mp hm with hm | hm
    · rcases h.ready.ordered j c d result stop hm with hj | ⟨hj, -⟩ <;> omega
    · have := (Prod.mk.inj (List.mem_singleton.mp hm)).1
      omega
  · rcases Nat.lt_succ_iff_lt_or_eq.mp hj with hj | rfl
    · exact (h.ready.passed j earlier hj he).append _
    · rw [h.ready.step_eq] at he
      rw [← Option.some.inj he]
      exact Or.inl ⟨_, _, _, mem_withLaunch w j step.command s log, hexit⟩
  · rcases List.mem_append.mp hm with hm | hm
    · exact h.ready.sound j c d result stop hm earlier he hr
    · obtain ⟨-, -, rfl, -⟩ := Event.launched.inj (Prod.mk.inj (List.mem_singleton.mp hm)).2
      exact hexit

/-- A deployment that is declined is passed. -/
theorem AtStep.declined (h : AtStep p plan start base step i log s) (hk : step.kind = .deploy)
    {past : Log} {stop : Bool}
    (hlog : log = past ++ [(i, .asked (deployQuestion plan) false stop)]) :
    AllPassed p plan start base (i + 1) log s := by
  refine ⟨h.events, h.gated, fun j c d result stop hm => ?_, fun j earlier hj he => ?_,
    h.ready.sound, h.first⟩
  · rcases h.ready.ordered j c d result stop hm with hj | ⟨-, hp⟩
    · omega
    · rw [hk] at hp
      exact absurd hp (by simp)
  · rcases Nat.lt_succ_iff_lt_or_eq.mp hj with hj | rfl
    · exact h.ready.passed j earlier hj he
    · rw [h.ready.step_eq] at he
      rw [← Option.some.inj he]
      exact Or.inr ⟨hk, stop, by rw [hlog]; simp⟩

/-- Before the command of a step, a deployment is asked about. -/
theorem AllPassed.before (h : AllPassed p plan start base i log s)
    (hstep : plan.steps[i]? = some step) (w : World σ) :
    ∃ log', AtStep p plan start base step i log' (before w plan step s) ∧
      (step.kind = .deploy → ∃ past stop, log' = past ++
        [(i, .asked (deployQuestion plan) (s.ask w (deployQuestion plan)).1 stop)]) := by
  unfold Project.before
  split
  · exact ⟨_, (h.atStep hstep).ask w _, fun _ => ⟨_, _, rfl⟩⟩
  · rename_i hk
    exact ⟨log, h.atStep hstep, fun hd => absurd hd hk⟩

theorem confirmed_of_not_declined (hd : ¬ Declined w plan step s) {yes : Bool}
    (hy : yes = (s.ask w (deployQuestion plan)).1)
    (hc : step.kind = .deploy →
      ∃ past stop, log = past ++ [(i, .asked (deployQuestion plan) yes stop)]) :
    step.kind = .deploy →
      ∃ past stop, log = past ++ [(i, .asked (deployQuestion plan) true stop)] := by
  intro hk
  obtain ⟨past, stop, hlog⟩ := hc hk
  have hyes : yes = true := by
    rw [← Bool.not_eq_false, hy]
    exact fun hno => hd ⟨hk, hno⟩
  exact ⟨past, stop, hyes ▸ hlog⟩

/-- A required step that does not fail is passed. -/
theorem AllPassed.runStep_ok (h : AllPassed p plan start base i log s)
    (hstep : plan.steps[i]? = some step) (hk : step.kind ≠ .publish) (hr : step.required = true)
    {progress' : Progress} (hrun : p.runStep w plan set step progress s = (.ok progress', s')) :
    ∃ log', AllPassed p plan start base (i + 1) log' s' := by
  obtain ⟨log', hat, hconf⟩ := h.before hstep w
  rcases Project.runStep_ok hk hrun with ⟨hd, rfl⟩ | ⟨hd, rfl, hsucc⟩
  · obtain ⟨past, stop, hlog⟩ := hconf hd.1
    rw [hd.2] at hlog
    exact ⟨log', hat.declined hd.1 hlog⟩
  · exact ⟨_, hat.succeeds hk (confirmed_of_not_declined hd rfl hconf)
      (hsucc.resolve_right (by simp [hr]))⟩

/-- A step that fails has launched its command, and nothing after it. -/
theorem AllPassed.runStep_error (h : AllPassed p plan start base i log s)
    (hstep : plan.steps[i]? = some step) {failure : StepFailure}
    (hrun : p.runStep w plan set step progress s = (.error failure, s')) :
    ∃ log', s'.events = base ++ log'.map Prod.snd ∧ Gated p plan start log' := by
  obtain ⟨log', hat, hconf⟩ := h.before hstep w
  obtain ⟨hk, hd, -, rfl⟩ := Project.runStep_error hrun
  exact ⟨_, events_withLaunch hat.events w i step.command,
    hat.gated.launched (hat.allowed hk (confirmed_of_not_declined hd rfl hconf)) _ _⟩

/-! ## A publication -/

/-- A session whose log has come to a step and holds a command. -/
def Launching (p : Project) (plan : ReleasePlan) (start : Disk) (base : List Event) (step : Step)
    (i : Nat) (s : Session σ) : Prop :=
  ∃ log, AtStep p plan start base step i log s ∧ ¬ ∀ x ∈ log, IsQuestion x.2

/-- Once a command was launched, the disk no longer matters. -/
theorem Launching.withDisk (h : Launching p plan start base step i s) (d : Disk) :
    Launching p plan start base step i { s with disk := d } := by
  obtain ⟨log, hat, hq⟩ := h
  exact ⟨log, ⟨hat.events, hat.gated, hat.ready, fun h => absurd h hq⟩, hq⟩

/-- A publication may launch its commands in any number. -/
theorem AtStep.publishes (h : AtStep p plan start base step i log s) (hk : step.kind = .publish)
    (hr : step.required = false) (w : World σ) (hc : c ∈ publishCommands p plan s.disk) :
    Launching p plan start base step i (s.launch w c).2 := by
  have hallowed : Allowed p plan start log step i c s.disk :=
    { h.ready with
      command := Or.inr ⟨hk, hc⟩
      confirmed := fun hd => absurd (hk.symm.trans hd) (by simp)
      first := h.first }
  have hno := not_all_questions_withLaunch w i c s log
  exact ⟨withLaunch w i c s log, ⟨events_withLaunch h.events w i c, h.gated.launched hallowed _ _,
    h.ready.launched hk hr c s.disk _ _, fun hq => absurd hq hno⟩, hno⟩

theorem AtStep.status (h : AtStep p plan start base step i log s) (hk : step.kind = .publish)
    (hr : step.required = false) (w : World σ) :
    Launching p plan start base step i (p.host.status w s).2 := by
  have hprobe := h.publishes hk hr w (c := p.host.probe) (by simp [publishCommands])
  rcases p.host.status_session w s with hs | hs
  · rwa [hs]
  · rw [hs]
    obtain ⟨log', hat, -⟩ := hprobe
    exact hat.publishes hk hr w (by simp [publishCommands])

/-- **A publication** launches the commands that ask for the host and the one that publishes. -/
theorem AtStep.publish (h : AtStep p plan start base step i log s) (hk : step.kind = .publish)
    (hr : step.required = false) (w : World σ) (set : BackupSet) :
    Launching p plan start base step i (p.publish w plan set s).2.2 := by
  have hstatus := h.status hk hr w
  have hpub := publish_publication w p plan set s
  generalize p.publish w plan set s = published at hpub ⊢
  obtain ⟨result, warnings, s'⟩ := published
  cases hpub with
  | withheld reason => exact hstatus
  | launched d result warnings hw hsucc =>
    obtain ⟨log', hat, -⟩ := hstatus.withDisk d
    have hcreate := hat.publishes hk hr w
      (c := p.host.createCommand d plan.tag plan.next) (by simp [publishCommands])
    exact hcreate.withDisk _

/-! ## All steps -/

theorem interrupt_events (set : BackupSet) (progress : Progress) (s : Session σ) :
    (interrupt set progress s).2.events = s.events := by
  unfold interrupt
  split
  · rfl
  · rfl

theorem allPassed_nil (s : Session σ) : AllPassed p plan s.disk s.events 0 [] s :=
  ⟨by simp, gated_nil, by simp, by simp, by simp, fun _ => rfl⟩

section

variable [Regex.SizeLimit]

/-- **Running the steps keeps a log gated**, whether the run succeeds, is stopped or fails. -/
theorem runSteps_gated (hplan : p.prepare o d₀ = .ok plan) (w : World σ) (set : BackupSet)
    (progress : Progress) {done : List Step} (hsteps : plan.steps = done ++ steps)
    (h : AllPassed p plan start base done.length log s) :
    ∃ log', (p.runSteps w plan set steps progress s).2.events = base ++ log'.map Prod.snd ∧
      Gated p plan start log' := by
  induction steps generalizing done log progress s with
  | nil => exact ⟨log, h.events, h.gated⟩
  | cons step steps ih =>
    have hstep : plan.steps[done.length]? = some step := by simp [hsteps]
    have hnext : plan.steps = (done ++ [step]) ++ steps := by
      rw [hsteps, List.append_assoc, List.singleton_append]
    have hlen : (done ++ [step]).length = done.length + 1 := by simp
    unfold runSteps
    split
    · exact ⟨log, (interrupt_events set progress s).trans h.events, h.gated⟩
    · split
      · rename_i progress' s₁ hrun
        rcases step_shape hplan hsteps with ⟨hk, hr⟩ | ⟨hk, hr, rfl⟩
        · obtain ⟨log', hpassed⟩ := h.runStep_ok hstep hk hr hrun
          exact ih progress' hnext (hlen ▸ hpassed)
        · -- a publication is the last step
          obtain ⟨log', hat, -⟩ := (h.atStep hstep).publish hk hr w set
          have hs₁ : s₁ = (p.publish w plan set s).2.2 := by
            exact congrArg Prod.snd (hrun.symm.trans (runStep_of_publish hk))
          rw [← hs₁] at hat
          exact ⟨log', hat.events, hat.gated⟩
      · rename_i failure s₁ hrun
        obtain ⟨log', hev, hgated⟩ := h.runStep_error hstep hrun
        exact ⟨log', hev, hgated⟩

/-! ## The release -/

theorem executeSecured_gated (hplan : p.prepare o d₀ = .ok plan) (w : World σ) (set : BackupSet)
    (progress : Progress) (s : Session σ) :
    ∃ log, (p.executeSecured w o plan set progress s).2.events = s.events ++ log.map Prod.snd ∧
      (log = [] ∨ ∃ report start, p.updateFiles o plan s.disk = (.ok report, start) ∧
        Gated p plan start log) := by
  unfold executeSecured
  split
  · exact ⟨[], (List.append_nil _).symm, Or.inl rfl⟩
  · rename_i report start hup
    obtain ⟨log, hev, hgated⟩ := runSteps_gated hplan w set
      ((progress.warn (artifactWarnings report)).reach .filesMutated)
      (List.nil_append plan.steps).symm (allPassed_nil (s.work w start))
    refine ⟨log, ?_, Or.inr ⟨report, start, hup, hgated⟩⟩
    simp only
    split
    · rename_i hrun
      rw [hrun] at hev
      exact hev
    · rename_i hrun
      rw [hrun] at hev
      exact hev

/-- **The pipeline is gated.** The events of a release are questions, followed by the log of its
steps. If there is a log, the changelog was accepted, the release confirmed, and the files were
captured and updated; every command in it was allowed by what came before it. -/
theorem execute_gated (hplan : p.prepare o d₀ = .ok plan) (w : World σ) (s : Session σ) :
    ∃ questions log, (p.execute w o plan s).2.events = s.events ++ questions ++ log.map Prod.snd ∧
      (∀ e ∈ questions, IsQuestion e) ∧
      (log = [] ∨ p.checkChangelog s.disk = .ok () ∧
        (∃ stop, questions = [.asked (releaseQuestion plan) true stop]) ∧
        ∃ set d₁ report start, Vault.capture p.vaultDir plan.touched s.disk = (.ok set, d₁) ∧
          p.updateFiles o plan d₁ = (.ok report, start) ∧ Gated p plan start log) := by
  unfold execute
  simp only
  split
  · exact ⟨[], [], by simp, by simp, Or.inl rfl⟩
  · rename_i hcheck
    have hquestion : ∀ e ∈ [Event.asked (releaseQuestion plan) (s.ask w (releaseQuestion plan)).1
        (w.ask (releaseQuestion plan) s.world).stop], IsQuestion e := by
      intro e he
      rw [List.mem_singleton.mp he]
      trivial
    split
    · exact ⟨_, [], (List.append_nil _).symm, hquestion, Or.inl rfl⟩
    · rename_i hyes
      have hyes' : (w.ask (releaseQuestion plan) s.world).yes = true := by
        simpa [Session.ask] using hyes
      split
      · exact ⟨_, [], (List.append_nil _).symm, hquestion, Or.inl rfl⟩
      · split
        · exact ⟨_, [], (List.append_nil _).symm, hquestion, Or.inl rfl⟩
        · rename_i set d₁ hcap
          obtain ⟨log, hev, hlog⟩ := executeSecured_gated hplan w set
            (((Progress.start plan.warnings).reach .changelogValidated).reach .backedUp)
            { (s.ask w (releaseQuestion plan)).2 with disk := d₁ }
          refine ⟨_, log, hev, hquestion, hlog.imp_right ?_⟩
          rintro ⟨report, start, hup, hgated⟩
          refine ⟨hcheck, ⟨_, by rw [hyes']⟩, set, d₁, report, start, hcap, hup, hgated⟩

end

/-- A world in which every command succeeds. -/
def quietWorld : World Unit where
  launch := fun _ d m => ⟨.ok ⟨0, "", ""⟩, d, false, m⟩
  ask := fun _ m => ⟨true, false, m⟩

theorem execute_gated_tiny :
    (tiny "kept" []).prepare tinyOptions tinyDisk = .ok (tinyPlan "kept" []) ∧
    ∃ questions log, ((tiny "kept" []).execute quietWorld tinyOptions (tinyPlan "kept" [])
        (Session.start tinyDisk ())).2.events = [] ++ questions ++ log.map Prod.snd ∧
      (∀ e ∈ questions, IsQuestion e) ∧
      (log = [] ∨ (tiny "kept" []).checkChangelog tinyDisk = .ok () ∧
        (∃ stop, questions = [.asked (releaseQuestion (tinyPlan "kept" [])) true stop]) ∧
        ∃ set d₁ report start,
          Vault.capture (tiny "kept" []).vaultDir (tinyPlan "kept" []).touched tinyDisk =
            (.ok set, d₁) ∧
          (tiny "kept" []).updateFiles tinyOptions (tinyPlan "kept" []) d₁ = (.ok report, start) ∧
          Gated (tiny "kept" []) (tinyPlan "kept" []) start log) :=
  ⟨prepare_tiny, execute_gated prepare_tiny quietWorld (Session.start tinyDisk ())⟩

end Slipway.Project
