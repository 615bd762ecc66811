/-
# `AccessPagerduty.Startup` — the order in which `App.run` brings the bridge up

`App.run` is straight-line code: it builds the webhook server, connects to
Teleport, checks the server's version and the PagerDuty service, starts the
webhook server, sets up the extensions, and only then starts the watcher.  Any
step's error ends the run, except an invalid client certificate, which it
only logs.  The run is written here as the list of its steps and one traversal
that stops at the first error it does not tolerate; the traversal is proved
once, and the order of the bridge's start from it.

## The results

* `takeSteps_prefix`, `mem_takeSteps`, `takeSteps_snd_eq_some`,
  `takeSteps_snd_eq_none`: the traversal takes a prefix of the steps, a step
  exactly when every step before it passed, stops on the step whose error it
  returns, and takes them all exactly when all pass.
* `run_startup`: the watcher is started exactly when every step up to `Setup`
  passed, the webhook server is always serving before `Setup` runs, the main
  job is reported ready exactly when every step passed, and an early return
  gives the error of the last step taken.
-/
import AccessPagerduty.Basic

namespace AccessPagerduty

/-! ## The steps of `App.run` -/

/-- The calls of `App.run` that can fail, and the two jobs it spawns. -/
inductive Step where
  | newWebhookServer
  | loadTLSConfig
  | newClient
  /-- `checkTeleportVersion`: `accessClient.Ping`. -/
  | ping
  /-- `checkTeleportVersion`: `pong.AssertServerVersion`. -/
  | assertServerVersion
  | healthCheck
  | ensureCert
  | spawnHTTPJob
  | httpJobReady
  | setup
  | spawnWatcherJob
  | watcherJobReady
  deriving DecidableEq, Repr

/-- `App.run`'s steps in the order the code takes them. -/
def runSteps : List Step :=
  [.newWebhookServer, .loadTLSConfig, .newClient, .ping, .assertServerVersion, .healthCheck,
    .ensureCert, .spawnHTTPJob, .httpJobReady, .setup, .spawnWatcherJob, .watcherJobReady]

/-- What the outside answers `App.run`: each call's error, if any; the
sentinel `access.ErrInvalidCertificate`; the readiness each job reports to
`WaitReady`; and the error each job ends with. -/
structure Env where
  fails : Step → Option Error
  errInvalidCertificate : Error
  httpOk : Bool
  watcherOk : Bool
  httpErr : Option Error
  watcherErr : Option Error

/-- The error that ends the run at a step: a spawn cannot fail, and an
`ErrInvalidCertificate` from `LoadTLSConfig` is only logged. -/
def Env.stops (env : Env) : Step → Option Error
  | .spawnHTTPJob | .spawnWatcherJob => none
  | .loadTLSConfig =>
    match env.fails .loadTLSConfig with
    | some e => if e = env.errInvalidCertificate then none else some e
    | none => none
  | s => env.fails s

/-- The steps taken, in order, up to the first that ends the run, and its
error. -/
def Env.takeSteps (env : Env) : List Step → List Step × Option Error
  | [] => ([], none)
  | s :: ss =>
    match env.stops s with
    | some e => ([s], some e)
    | none => let r := env.takeSteps ss; (s :: r.1, r.2)

/-- How `App.run` returns: with the error of a step, or, once both jobs are
done, with `trace.NewAggregate` of their errors (`nil` when the list is
empty). -/
inductive Exit where
  | error (e : Error)
  | aggregate (errs : List Error)
  deriving DecidableEq, Repr

/-- What `App.run` did: its steps in order, the readiness it set on the main
job if it got that far, and how it returned. -/
structure Startup where
  steps : List Step
  ready : Option Bool
  exit : Exit
  deriving DecidableEq, Repr

/-- `App.run`. -/
def App.run (env : Env) : Startup :=
  match env.takeSteps runSteps with
  | (steps, some e) => ⟨steps, none, .error e⟩
  | (steps, none) =>
    ⟨steps, some (env.httpOk && env.watcherOk), .aggregate ([env.httpErr, env.watcherErr].filterMap id)⟩

/-! ## The traversal -/

section Traversal
variable (env : Env)

@[simp] theorem takeSteps_nil : env.takeSteps [] = ([], none) := rfl

theorem takeSteps_cons (s : Step) (ss : List Step) :
    env.takeSteps (s :: ss) =
      match env.stops s with
      | some e => ([s], some e)
      | none => (s :: (env.takeSteps ss).1, (env.takeSteps ss).2) := rfl

/-- The steps taken are a prefix of the steps. -/
theorem takeSteps_prefix (ss : List Step) : (env.takeSteps ss).1 <+: ss := by
  induction ss with
  | nil => exact List.nil_prefix
  | cons s ss ih =>
    rw [takeSteps_cons]
    rcases env.stops s with _ | e
    · exact List.prefix_cons_inj s |>.mpr ih
    · exact List.prefix_cons_inj s |>.mpr List.nil_prefix

/-- A step is taken exactly when every step before it passed. -/
theorem mem_takeSteps {pre post : List Step} {s : Step} (hs : s ∉ pre) :
    s ∈ (env.takeSteps (pre ++ s :: post)).1 ↔ ∀ t ∈ pre, env.stops t = none := by
  induction pre with
  | nil => rw [List.nil_append, takeSteps_cons]; rcases env.stops s <;> simp
  | cons t pre ih =>
    rw [List.mem_cons, not_or] at hs
    rw [List.cons_append, takeSteps_cons]
    rcases h : env.stops t with _ | e <;> simp [h, hs.1, ih hs.2]

/-- The run ends early exactly when a step stops it, and then on that step. -/
theorem takeSteps_snd_eq_some (ss : List Step) (e : Error) :
    (env.takeSteps ss).2 = some e ↔ ∃ s, (env.takeSteps ss).1.getLast? = some s ∧ env.stops s = some e := by
  induction ss with
  | nil => simp
  | cons s ss ih =>
    rw [takeSteps_cons]
    rcases h : env.stops s with _ | e'
    · rw [ih]
      rcases (env.takeSteps ss).1 with _ | ⟨t, ts⟩
      · simp [h]
      · simp [List.getLast?_cons_cons]
    · simp [h, eq_comm]

/-- The run takes every step exactly when none stops it. -/
theorem takeSteps_snd_eq_none (ss : List Step) :
    (env.takeSteps ss).2 = none ↔ ∀ s ∈ ss, env.stops s = none := by
  induction ss with
  | nil => simp
  | cons s ss ih =>
    rw [takeSteps_cons]
    rcases h : env.stops s with _ | e <;> simp [h, ih]

/-- A run that no step stopped took every step. -/
theorem takeSteps_fst_of_snd (ss : List Step) (h : (env.takeSteps ss).2 = none) :
    (env.takeSteps ss).1 = ss := by
  induction ss with
  | nil => rfl
  | cons s ss ih =>
    rw [takeSteps_cons] at h ⊢
    rcases hs : env.stops s with _ | e <;> simp only [hs] at h ⊢
    · rw [ih h]
    · cases h

end Traversal

/-! ## The run -/

/-- **The bridge comes up in order.**  In every run of `App.run`, the steps it
takes are a prefix of its steps in the code's order; it starts the watcher
exactly when every step up to and including `Setup` passed; whenever `Setup`
runs, the webhook server is already serving; it reports the main job ready
exactly when every step passed, and then it took them all and returns the
aggregate of the jobs' errors; and it returns a step's error exactly when
that step is the last it took and stopped it. -/
theorem run_startup (env : Env) :
    let r := App.run env
    r.steps <+: runSteps ∧
    (.spawnWatcherJob ∈ r.steps ↔
      ∀ s ∈ runSteps.takeWhile (· ≠ .spawnWatcherJob), env.stops s = none) ∧
    (.setup ∈ r.steps → .spawnHTTPJob ∈ r.steps) ∧
    (r.ready.isSome ↔ ∀ s ∈ runSteps, env.stops s = none) ∧
    ((∀ s ∈ runSteps, env.stops s = none) →
      r = ⟨runSteps, some (env.httpOk && env.watcherOk),
        .aggregate ([env.httpErr, env.watcherErr].filterMap id)⟩) ∧
    ∀ e, r.exit = .error e ↔ ∃ s, r.steps.getLast? = some s ∧ env.stops s = some e := by
  have hsteps : (App.run env).steps = (env.takeSteps runSteps).1 := by
    unfold App.run; split <;> simp [*]
  have taken : ∀ (pre post : List Step) (s : Step), pre ++ s :: post = runSteps → s ∉ pre →
      (s ∈ (App.run env).steps ↔ ∀ t ∈ pre, env.stops t = none) :=
    fun _ _ s h hs => hsteps ▸ h ▸ mem_takeSteps env hs
  have hsetup := taken (runSteps.take 9) (runSteps.drop 10) .setup (by decide) (by decide)
  have hhttp := taken (runSteps.take 7) (runSteps.drop 8) .spawnHTTPJob (by decide) (by decide)
  refine ⟨hsteps ▸ takeSteps_prefix env runSteps,
    taken _ [.watcherJobReady] .spawnWatcherJob (by decide) (by decide),
    fun h => hhttp.mpr fun t ht => hsetup.mp h t (List.take_subset_take_left _ (by decide) ht), ?_⟩
  -- how the run ends
  have hall := takeSteps_snd_eq_none env runSteps
  have hlast := takeSteps_snd_eq_some env runSteps
  have hfst := takeSteps_fst_of_snd env runSteps
  unfold App.run
  rcases h : env.takeSteps runSteps with ⟨steps, _ | e⟩ <;> simp only [h] at hall hlast hfst ⊢
  · exact ⟨by simpa using hall, fun _ => by rw [hfst trivial], fun e => by simpa using hlast e⟩
  · exact ⟨by simpa using hall, fun hp => absurd (hall.mpr hp) (Option.some_ne_none e),
      fun e' => by simpa using hlast e'⟩

/-- A failed `Setup` ends the run before the watcher starts. -/
example : (App.run ⟨fun s => if s = .setup then some (.errorf "no custom_webhook schema") else none,
    .errorf "invalid certificate", true, true, none, none⟩).steps = runSteps.take 10 := by decide

end AccessPagerduty
