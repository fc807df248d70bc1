import Slipway.Proofs.Release.Record

/-!
# Requests to stop

About the `CancelFlag` (`keel_core::interact`) in `ReleaseOrchestrator::execute`
(`keel_core::release`). A release may be asked to stop at any moment: before it starts, while a
question is answered, while it works on the files, or during a command. It looks at the request
after its first question and before each step, so that no step begins after a request. What a step
does before its command is another matter: a deployment asks the operator, a publication asks its
host.

* `StepRecord.honours`: a step that begins before any request launches no command after one, unless
  it was itself under way when the request came (`UnderWay`).
* `execute_honours_stop`: the same for all the commands of a release.
* `execute_deploys_when_stopped`: a request that comes while the operator confirms a deployment does
  not keep the release from deploying.
-/

namespace Slipway

open Session Disk

/-- The commands that were launched after a request to stop. -/
def lateCommands (early : Bool) : List Event → List Command
  | [] => []
  | .asked _ _ stop :: events => lateCommands (early || stop) events
  | .launched c _ _ stop :: events =>
    (if early then [c] else []) ++ lateCommands (early || stop) events

theorem exists_of_mem_lateCommands {early : Bool} {events : List Event} {c : Command}
    (h : c ∈ lateCommands early events) : ∃ past d result stop rest,
      events = past ++ .launched c d result stop :: rest ∧ requested early past = true := by
  induction events generalizing early with
  | nil => exact absurd h List.not_mem_nil
  | cons e events ih =>
    have later : c ∈ lateCommands (early || e.stop) events → ∃ past d result stop rest,
        e :: events = past ++ .launched c d result stop :: rest ∧ requested early past = true := by
      intro h
      obtain ⟨past, d, result, stop, rest, rfl, hr⟩ := ih h
      exact ⟨e :: past, d, result, stop, rest, rfl, by rwa [requested_cons]⟩
    cases e with
    | asked question yes stop => exact later h
    | launched c' d result stop =>
      rcases List.mem_append.mp h with h | h
      · split at h
        · rename_i hearly
          rw [List.mem_singleton.mp h]
          exact ⟨[], d, result, stop, events, rfl, by rw [hearly]; rfl⟩
        · exact absurd h List.not_mem_nil
      · exact later h

namespace Project

variable {σ : Type} {w : World σ} {p : Project} {o : ReleaseOptions} {plan : ReleasePlan}
variable {set : BackupSet} {step : Step} {steps : List Step} {progress : Progress}
variable {s s₀ s' : Session σ} {early : Bool} {past es : List Event}

/-! ## Commands after a request -/

/-- A step was under way when a request came, and the command belongs to it. Either the request came
while the operator confirmed a deployment, and the command is the deployment; or it came during a
command of a publication, and the command is a further one. -/
def UnderWay (p : Project) (plan : ReleasePlan) (early : Bool) (past : List Event) (c : Command)
    (d : Disk) : Prop :=
  ∃ before within, past = before ++ within ∧ requested early before = false ∧
    ∃ step ∈ plan.steps,
      (step.kind = .deploy ∧ c = step.command ∧ within = [.asked (deployQuestion plan) true true]) ∨
      (step.kind = .publish ∧ c ∈ publishCommands p plan d ∧ ∀ e ∈ within, Publishes p plan e)

/-- After a request, only commands of a step that was under way are launched. -/
def HonoursStop (p : Project) (plan : ReleasePlan) (early : Bool) (events : List Event) : Prop :=
  ∀ past c d result stop rest, events = past ++ .launched c d result stop :: rest →
    requested early past = true → UnderWay p plan early past c d

theorem honoursStop_nil : HonoursStop p plan early [] := by
  intro past c d result stop rest h
  exact absurd h.symm (by simp)

theorem StepRecord.underWay (h : StepRecord p plan step es) (hm : step ∈ plan.steps)
    (hgo : requested early past = false) {mid rest : List Event} {c : Command} {d : Disk}
    {result : Except String CommandOutput} {stop : Bool}
    (he : es = mid ++ .launched c d result stop :: rest)
    (hstop : requested early (past ++ mid) = true) : UnderWay p plan early (past ++ mid) c d := by
  refine ⟨past, mid, rfl, hgo, step, hm, ?_⟩
  cases h with
  | command _ _ d' result' stop' =>
    -- nothing happens between the last look at the request and the command
    cases mid with
    | nil => rw [List.append_nil, hgo] at hstop; exact absurd hstop (by simp)
    | cons e mid => exact absurd (List.cons.inj he).2 (by simp)
  | declined _ stop' =>
    cases mid with
    | nil => exact absurd (List.cons.inj he).1 (by simp)
    | cons e mid => exact absurd (List.cons.inj he).2 (by simp)
  | deployed hk asked d' result' stop' =>
    cases mid with
    | nil => exact absurd (List.cons.inj he).1 (by simp)
    | cons e mid =>
      obtain ⟨rfl, hrest⟩ := List.cons.inj he
      cases mid with
      | nil =>
        obtain ⟨rfl, -⟩ := Event.launched.inj (List.cons.inj hrest).1
        rw [requested_append, requested_singleton, hgo, Bool.false_or] at hstop
        obtain rfl : asked = true := hstop
        exact Or.inl ⟨hk, rfl, rfl⟩
      | cons e mid => exact absurd (List.cons.inj hrest).2 (by simp)
  | published hk es hpub =>
    subst he
    obtain ⟨c', d', result', stop', hev, hc⟩ := hpub (.launched c d result stop) (by simp)
    obtain ⟨rfl, rfl, -, -⟩ := Event.launched.inj hev
    exact Or.inr ⟨hk, hc, fun e he => hpub e (List.mem_append_left _ he)⟩

/-- **A step that begins before any request** keeps the record honouring requests. -/
theorem StepRecord.honours (h : StepRecord p plan step es) (hm : step ∈ plan.steps)
    (hgo : requested early past = false) (hpast : HonoursStop p plan early past) :
    HonoursStop p plan early (past ++ es) := by
  intro past' c d result stop rest he hstop
  rcases List.append_eq_append_iff.mp he with ⟨mid, rfl, hmid⟩ | ⟨mid, hpast', hmid⟩
  · exact h.underWay hm hgo hmid hstop
  · cases mid with
    | nil =>
      rw [List.append_nil] at hpast'
      subst hpast'
      rw [hgo] at hstop
      exact absurd hstop (by simp)
    | cons e mid =>
      rw [← (List.cons.inj hmid).1] at hpast'
      exact hpast past' c d result stop mid hpast' hstop

/-- **Running the steps** keeps a record honouring requests, however the run ends. -/
theorem runSteps_honours (w : World σ) (p : Project) (plan : ReleasePlan) (set : BackupSet)
    (progress : Progress) (hsteps : ∀ step ∈ steps, step ∈ plan.steps) (hrec : s₀.Records past s)
    (hpast : HonoursStop p plan s₀.stopped past) :
    ∃ es, s₀.Records es (p.runSteps w plan set steps progress s).2 ∧
      HonoursStop p plan s₀.stopped es := by
  induction steps generalizing past progress s with
  | nil => exact ⟨past, hrec, hpast⟩
  | cons step steps ih =>
    unfold runSteps
    split
    · have hend := hrec.trans (interrupt_records set progress s)
      rw [List.append_nil] at hend
      exact ⟨past, hend, hpast⟩
    · rename_i hgo
      have hgo' : requested s₀.stopped past = false := by
        rw [← hrec.stopped]
        exact Bool.not_eq_true _ ▸ hgo
      obtain ⟨es, hstep, hes, -⟩ := runStep_records w p plan set step progress s
      have hhon := hstep.honours (hsteps step List.mem_cons_self) hgo' hpast
      split
      · rename_i progress' s₁ hrun
        rw [hrun] at hes
        exact ih progress' (fun step' hm => hsteps step' (List.mem_cons_of_mem step hm))
          (hrec.trans hes) hhon
      · rename_i failure s₁ hrun
        rw [hrun] at hes
        exact ⟨_, (hrec.trans hes).withDisk _, hhon⟩

/-! ## The release -/

/-- Whether a request came before the release starts, or while it works on the files. -/
def earlyRequest (w : World σ) (plan : ReleasePlan) (s : Session σ) : Bool :=
  s.stopped || w.stopsWork (s.ask w (releaseQuestion plan)).2.world

theorem honoursStop_question (question : String) (yes stop : Bool) :
    HonoursStop p plan early [.asked question yes stop] := by
  intro past c d result stop' rest h
  cases past with
  | nil => exact absurd (List.cons.inj h).1 (by simp)
  | cons e past => exact absurd (List.cons.inj h).2 (by simp)

section

variable [Regex.SizeLimit]

theorem executeSecured_honours (w : World σ) (p : Project) (o : ReleaseOptions) (plan : ReleasePlan)
    (set : BackupSet) (progress : Progress) (hrec : s₀.Records past (s.work w s.disk))
    (hpast : HonoursStop p plan s₀.stopped past) :
    ∃ es, (p.executeSecured w o plan set progress s).2.events = s₀.events ++ es ∧
      HonoursStop p plan s₀.stopped es := by
  unfold executeSecured
  split
  · exact ⟨past, hrec.events, hpast⟩
  · rename_i report d hup
    obtain ⟨es, hes, hhon⟩ := runSteps_honours w p plan set
      ((progress.warn (artifactWarnings report)).reach .filesMutated) (fun _ hm => hm)
      (hrec.withDisk d) hpast
    refine ⟨es, ?_, hhon⟩
    simp only
    have hev := hes.events
    split
    · rename_i hrun
      rw [← hev]
      exact congrArg (fun x => x.2.events) hrun.symm
    · rename_i hrun
      rw [← hev]
      exact congrArg (fun x => x.2.events) hrun.symm

/-- **A request to stop is honoured before each step.** A command that is launched after a request
belongs to a step that was under way when the request came: a deployment that the operator was
confirming, or a publication that had launched a command already. -/
theorem execute_honours_stop (w : World σ) (p : Project) (o : ReleaseOptions) (plan : ReleasePlan)
    (s : Session σ) :
    ∃ events, (p.execute w o plan s).2.events = s.events ++ events ∧
      HonoursStop p plan (earlyRequest w plan s) events := by
  unfold execute
  simp only
  split
  · exact ⟨[], (List.append_nil _).symm, honoursStop_nil⟩
  · have hquestion : HonoursStop p plan (earlyRequest w plan s)
        [.asked (releaseQuestion plan) (s.ask w (releaseQuestion plan)).1
          (w.ask (releaseQuestion plan) s.world).stop] := honoursStop_question _ _ _
    split
    · exact ⟨_, rfl, hquestion⟩
    · split
      · exact ⟨_, rfl, hquestion⟩
      · split
        · exact ⟨_, rfl, hquestion⟩
        · rename_i set d₁ hcap
          let early : Session σ := { s with stopped := earlyRequest w plan s }
          refine executeSecured_honours w p o plan set _ (?_ : early.Records _ _) hquestion
          refine ⟨rfl, ?_⟩
          rw [requested_singleton]
          exact Bool.or_right_comm _ _ _

end

/-! ### A deployment that is not stopped -/

/-- The small project, which is deployed, too. -/
def tinyDeployed : Project :=
  { tiny "kept" [] with
    config := { (tiny "kept" []).config with commands := ⟨[], ["make"], ["ship"]⟩ } }

/-- A release that deploys. -/
def deployOptions : ReleaseOptions := { tinyOptions with deploy := true }

/-- The plan of the release. -/
def deployPlan : ReleasePlan :=
  { tinyPlan "kept" [] with
    steps := tinyDeployed.steps deployOptions tinyDisk ⟨1, 1, 0⟩ "v1.1.0"
    warnings := tinyDeployed.planWarnings deployOptions }

/-- A world in which every command succeeds, and in which the operator confirms the deployment but
asks to stop while doing so. -/
def stoppingWorld : World Unit :=
  { quietWorld with ask := fun question m => ⟨true, question == deployQuestion deployPlan, m⟩ }

theorem lateCommands_deployed : lateCommands false
    (tinyDeployed.execute stoppingWorld deployOptions deployPlan
      (Session.start tinyDisk ())).2.events = [⟨"ship", []⟩] := by
  decide +kernel

/-- The operator confirms a deployment and asks the release to stop meanwhile; it deploys. -/
theorem execute_deploys_when_stopped :
    tinyDeployed.prepare deployOptions tinyDisk = .ok deployPlan ∧
    ⟨.deploy, "Deploying package", ⟨"ship", []⟩, true⟩ ∈ deployPlan.steps ∧
    earlyRequest stoppingWorld deployPlan (Session.start tinyDisk ()) = false ∧
    ∃ past d result stop rest,
      (tinyDeployed.execute stoppingWorld deployOptions deployPlan
        (Session.start tinyDisk ())).2.events =
          past ++ .launched ⟨"ship", []⟩ d result stop :: rest ∧
      requested false past = true := by
  refine ⟨ok_of_toOption (by decide +kernel), by decide +kernel, by decide +kernel, ?_⟩
  apply exists_of_mem_lateCommands
  rw [lateCommands_deployed]
  exact List.mem_singleton_self _

end Project

end Slipway
