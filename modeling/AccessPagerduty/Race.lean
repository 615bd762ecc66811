/-
# `AccessPagerduty.Race` — the guard of a webhook callback is check-then-act

`onPagerdutyAction` reads the request, checks that it is pending, and only
then sets its state; nothing makes the read and the write one step.  The
spec reads this as "a request is decided, and its incident resolved, once".
What holds instead is weaker, and this module proves both sides.

What every run guarantees (`Guarded`): a `SetRequestState(reqID, s)` comes
from an action on `reqID` whose own `GetRequest(reqID)`, logged before it,
answered a pending request, with `s` the state the action names; a
resolution comes from an action whose own `SetRequestState` succeeded before
it, or from a delete event, which checks nothing; and an action handler that
decided and returned nil resolved the action's incident.  When handlers run
one at a time (`runSerial`), with other parties acting only between them,
nothing comes between the read and the write, and `SetRequestState(reqID, _)`
is made only while `reqID` is pending.

What fails: two deliveries of one approval, interleaved, both read the
request as pending, both set it, and both resolve the incident; the second
`SetRequestState` is made on an approved request (`duplicate_approval_race`).
And a delete event after an approval resolves the incident a second time,
with no interleaving at all.

## The results

* `guarded_preserved`: one step keeps `Guarded`, the guard of each call
  (`EntryGuarded`, `ThreadGuarded`) and what each handler has done towards a
  resolution (`ThreadCompletes`).
* `runSerial_pending`: in a serial run, every `SetRequestState(reqID, _)` is
  made while `reqID` is pending.
* `decisions_guarded`: both, over every run.
* `duplicate_approval_race`: the two runs above, from a pristine start.
-/
import AccessPagerduty.Bridge

namespace AccessPagerduty

/-! ## The guard, in every run -/

/-- Handler `i`'s own `GetRequest(reqID)` answered a pending request. -/
def ReadPending (log : List Entry) (i : Nat) (reqID : String) : Prop :=
  ∃ e ∈ log, e.thread = i ∧ e.call = .getRequest reqID ∧
    ∃ req, e.result = .ok (.request req) ∧ req.state = .pending

/-- Handler `i`'s own `SetRequestState(reqID, _)` succeeded. -/
def DecidedBy (log : List Entry) (i : Nat) (reqID : String) : Prop :=
  ∃ e ∈ log, e.thread = i ∧ (∃ s, e.call = .setRequestState reqID s) ∧ e.result.isOk

theorem ReadPending.append {log : List Entry} {i : Nat} {reqID : String}
    (h : ReadPending log i reqID) (more : List Entry) : ReadPending (log ++ more) i reqID :=
  let ⟨e, he, h'⟩ := h
  ⟨e, List.mem_append_left _ he, h'⟩

theorem DecidedBy.append {log : List Entry} {i : Nat} {reqID : String}
    (h : DecidedBy log i reqID) (more : List Entry) : DecidedBy (log ++ more) i reqID :=
  let ⟨e, he, h'⟩ := h
  ⟨e, List.mem_append_left _ he, h'⟩

/-- What the log says of a decision and of a resolution. -/
structure EntryGuarded (log : List Entry) (e : Entry) : Prop where
  decided : ∀ reqID reqState, e.call = .setRequestState reqID reqState →
    ∃ action, e.trigger = .action action ∧ incidentKeyRequestID action.incidentKey = some reqID ∧
      (∃ resolution, decision action.name = some (reqState, resolution)) ∧
      ReadPending log e.thread reqID
  resolved : ∀ fromEmail id, e.call = .manageIncidents fromEmail id "resolved" →
    (∃ action reqID, e.trigger = .action action ∧ incidentKeyRequestID action.incidentKey = some reqID ∧
      DecidedBy log e.thread reqID) ∨ ∃ req, e.trigger = .event ⟨.delete, req⟩

/-- What handler `i` at a point has checked. -/
def ThreadGuarded (log : List Entry) (i : Nat) (trigger : Trigger) : Thread → Prop
  | .actionGetRequest action reqID =>
      trigger = .action action ∧ incidentKeyRequestID action.incidentKey = some reqID
  | .actionGetPluginData action reqID req =>
      trigger = .action action ∧ incidentKeyRequestID action.incidentKey = some reqID ∧
        req.id = reqID ∧ ReadPending log i reqID
  | .actionSetRequestState reqID req _ reqState _ =>
      req.id = reqID ∧ (∃ action resolution, trigger = .action action ∧
        incidentKeyRequestID action.incidentKey = some reqID ∧
        decision action.name = some (reqState, resolution)) ∧ ReadPending log i reqID
  | .resolveNote reqID _ _ | .resolveManage reqID _ _ =>
      (∃ action, trigger = .action action ∧ incidentKeyRequestID action.incidentKey = some reqID ∧
        DecidedBy log i reqID) ∨ ∃ req, trigger = .event ⟨.delete, req⟩
  | .deletedGetPluginData _ => ∃ req, trigger = .event ⟨.delete, req⟩
  | .pendingCreateIncident _ _ _ | .pendingSetPluginData _ _ | .done _ => True

theorem threadGuarded_append {log : List Entry} {i : Nat} {trigger : Trigger} {th : Thread}
    (h : ThreadGuarded log i trigger th) (more : List Entry) :
    ThreadGuarded (log ++ more) i trigger th := by
  cases th <;> simp only [ThreadGuarded] at h ⊢
  all_goals first
    | exact h
    | exact ⟨h.1, h.2.1, h.2.2.1, h.2.2.2.append more⟩
    | exact ⟨h.1, h.2.1, h.2.2.append more⟩
    | exact h.imp (fun ⟨a, h₁, h₂, h₃⟩ => ⟨a, h₁, h₂, h₃.append more⟩) id

theorem threadGuarded_start (log : List Entry) (app : App) (i : Nat) (trigger : Trigger) :
    ThreadGuarded log i trigger (trigger.start app) := by
  rcases trigger with action | ⟨_ | _ | _ | _ | _, req⟩ <;>
    simp only [Trigger.start, onPagerdutyAction, onWatcherEvent, onDeletedRequest, onPendingRequest]
  · split_ifs
    · trivial
    · split <;> simp_all [ThreadGuarded]
  all_goals try trivial
  · split_ifs
    · split <;> trivial
    · trivial
  · exact ⟨_, rfl⟩

theorem call_manageIncidents {app : App} {th : Thread} {fromEmail id status : String}
    (h : th.call app = some (.manageIncidents fromEmail id status)) :
    ∃ reqID pdData status', th = .resolveManage reqID pdData status' := by
  cases th <;> simp only [Thread.call, Option.some.injEq, reduceCtorEq] at h
  exact ⟨_, _, _, rfl⟩

/-- A call of a handler at a point is logged with what its point has checked. -/
theorem entryGuarded_call {app : App} {log : List Entry} {i : Nat} {trigger : Trigger}
    {th : Thread} {call : Call} (h : ThreadGuarded log i trigger th) (hcall : th.call app = some call)
    (r : Except Error Reply) (reqs : List Request) (more : List Entry) :
    EntryGuarded (log ++ more) ⟨i, trigger, call, r, reqs⟩ := by
  refine ⟨fun reqID s (hs : call = _) => ?_, fun fromEmail id (hm : call = _) => ?_⟩
  · subst hs
    obtain ⟨reqID', req, pdData, res, rfl, rfl⟩ := call_setRequestState hcall
    obtain ⟨rfl, ⟨action, resolution, ht, hk, hd⟩, hread⟩ := h
    exact ⟨action, ht, hk, ⟨resolution, hd⟩, hread.append more⟩
  · subst hm
    obtain ⟨reqID, pdData, status, rfl⟩ := call_manageIncidents hcall
    rcases h with ⟨action, ht, hk, hdec⟩ | hdel
    · exact .inl ⟨action, reqID, ht, hk, hdec.append more⟩
    · exact .inr hdel

/-- A handler that moves on has checked, at its next point, what that point
needs; the new entry is the evidence. -/
theorem threadGuarded_resume {app : App} {log : List Entry} {w : World} {i : Nat}
    {trigger : Trigger} {th : Thread} {call : Call} {fail : Option Error} {r : Except Error Reply}
    {w' : World} (h : ThreadGuarded log i trigger th) (hcall : th.call app = some call)
    (hp : perform fail call w = (r, w')) (reqs : List Request) :
    ThreadGuarded (log ++ [⟨i, trigger, call, r, reqs⟩]) i trigger (th.resume app r) := by
  have hnew : ⟨i, trigger, call, r, reqs⟩ ∈ log ++ [⟨i, trigger, call, r, reqs⟩] :=
    List.mem_append_right _ (List.mem_singleton_self _)
  rcases Thread.resume_cases app th r with ⟨res, hr⟩ | hr | hr
  · rw [hr]; trivial
  · rw [hr]; exact threadGuarded_append h _
  generalize th.resume app r = th' at hr
  cases hr with
  | @getRequest action reqID req hpending =>
      cases hcall
      obtain ⟨req', ⟨⟩, -, hid, -⟩ := perform_getRequest hp
      exact ⟨h.1, h.2, hid, _, hnew, rfl, rfl, req, rfl, hpending⟩
  | getPluginData hincident hdecision =>
      obtain ⟨ht, hk, hid, hread⟩ := h
      exact ⟨hid, ⟨_, _, ht, hk, hdecision⟩, hread.append _⟩
  | setRequestState =>
      cases hcall
      obtain ⟨rfl, ⟨action, _, ht, hk, -⟩, -⟩ := h
      exact .inl ⟨action, ht, hk, _, hnew, rfl, ⟨_, rfl⟩, rfl⟩
  | note => exact h.imp (fun ⟨a, h₁, h₂, h₃⟩ => ⟨a, h₁, h₂, h₃.append _⟩) id
  | createIncident => trivial
  | deletedGetPluginData => exact .inr h

/-! ## A decision is followed by a resolution

A webhook handler that has set a request's state goes on to resolve the
action's incident, and if it returns nil the resolution succeeded.  This is
about a handler's own later calls, so it is kept by the calls its control
flow makes, not by any call of the handler. -/

/-- Handler `i` has decided no request. -/
def Undecided (log : List Entry) (i : Nat) : Prop := ∀ reqID, ¬DecidedBy log i reqID

/-- Handler `i`'s own `ManageIncidents(_, id, "resolved")` succeeded. -/
def ResolvedBy (log : List Entry) (i : Nat) (id : String) : Prop :=
  ∃ e ∈ log, e.thread = i ∧ (∃ fromEmail, e.call = .manageIncidents fromEmail id "resolved") ∧
    e.result.isOk

theorem ResolvedBy.append {log : List Entry} {i : Nat} {id : String} (h : ResolvedBy log i id)
    (more : List Entry) : ResolvedBy (log ++ more) i id :=
  let ⟨e, he, h'⟩ := h
  ⟨e, List.mem_append_left _ he, h'⟩

/-- A call of another handler, or of another kind than `SetRequestState`,
decides nothing for handler `i`. -/
theorem decidedBy_of_append {log : List Entry} {i : Nat} {x : Entry} {reqID : String}
    (h : DecidedBy (log ++ [x]) i reqID)
    (hx : x.thread ≠ i ∨ ∀ reqID s, x.call ≠ .setRequestState reqID s) : DecidedBy log i reqID := by
  obtain ⟨e, he, hi, ⟨s, hs⟩, hok⟩ := h
  rcases List.mem_append.mp he with he | he
  · exact ⟨e, he, hi, ⟨s, hs⟩, hok⟩
  · rw [List.mem_singleton.mp he] at hi hs
    exact absurd hs (hx.resolve_left (not_not.mpr hi) _ _)

theorem Undecided.append {log : List Entry} {i : Nat} {x : Entry} (h : Undecided log i)
    (hx : x.thread ≠ i ∨ ∀ reqID s, x.call ≠ .setRequestState reqID s) : Undecided (log ++ [x]) i :=
  fun reqID hd => h reqID (decidedBy_of_append hd hx)

/-- What handler `i` at a point has done towards a resolution: nothing is
decided before its `SetRequestState`; from there on the incident it resolves
is the action's (or, on the delete path, nothing is decided); and having
returned nil, whatever it decided was followed by a successful resolution of
the action's incident. -/
def ThreadCompletes (log : List Entry) (i : Nat) (trigger : Trigger) : Thread → Prop
  | .actionSetRequestState _ _ pdData _ _ =>
      Undecided log i ∧ ∃ action, trigger = .action action ∧ pdData.id = action.incidentID
  | .resolveNote _ pdData _ | .resolveManage _ pdData _ =>
      Undecided log i ∨ ∃ action, trigger = .action action ∧ pdData.id = action.incidentID
  | .done (.ok _) => ∀ reqID, DecidedBy log i reqID →
      ∃ action, trigger = .action action ∧ ResolvedBy log i action.incidentID
  | .done (.error _) => True
  | .actionGetRequest _ _ | .actionGetPluginData _ _ _ | .pendingCreateIncident _ _ _
  | .pendingSetPluginData _ _ | .deletedGetPluginData _ => Undecided log i

theorem threadCompletes_append {log : List Entry} {i : Nat} {trigger : Trigger} {th : Thread}
    {x : Entry} (h : ThreadCompletes log i trigger th)
    (hx : x.thread ≠ i ∨ ∀ reqID s, x.call ≠ .setRequestState reqID s) :
    ThreadCompletes (log ++ [x]) i trigger th := by
  cases th
  case done res =>
    rcases res with _ | _
    · trivial
    · exact fun reqID hd => (h reqID (decidedBy_of_append hd hx)).imp
        fun _ ⟨ht, hres⟩ => ⟨ht, hres.append _⟩
  case actionSetRequestState => exact ⟨h.1.append hx, h.2⟩
  case resolveNote | resolveManage => exact h.imp_left (·.append hx)
  all_goals exact Undecided.append h hx

theorem threadCompletes_start (app : App) {log : List Entry} {i : Nat} (trigger : Trigger)
    (hfresh : ∀ e ∈ log, e.thread ≠ i) : ThreadCompletes log i trigger (trigger.start app) := by
  have hu : Undecided log i := fun _ ⟨e, he, hi, _⟩ => hfresh e he hi
  have hdone : ∀ res, ThreadCompletes log i trigger (.done res) := by
    rintro (_ | _)
    exacts [trivial, fun reqID hd => absurd hd (hu reqID)]
  rcases trigger with action | ⟨_ | _ | _ | _ | _, req⟩ <;>
    simp only [Trigger.start, onPagerdutyAction, onWatcherEvent, onDeletedRequest, onPendingRequest]
  · split_ifs
    · exact hdone _
    · split
      exacts [hdone _, hu]
  all_goals try exact hdone _
  · split_ifs
    · split
      exacts [hdone _, hu]
    · exact hdone _
  · exact hu

/-- A handler whose call was `SetRequestState` does not stay where it was,
nor return nil. -/
theorem call_ne_setRequestState {app : App} {th : Thread} {call : Call} {r : Except Error Reply}
    (hcall : th.call app = some call) (hr : th.resume app r = th ∨ ∃ u, th.resume app r = .done (.ok u)) :
    ∀ reqID s, call ≠ .setRequestState reqID s := by
  rintro reqID s rfl
  obtain ⟨reqID', req, pdData, res, rfl, rfl⟩ := call_setRequestState hcall
  rcases r with _ | _ <;> simp [Thread.resume] at hr

/-- A handler that returns nil after a decision has just resolved the
action's incident, or had done so. -/
theorem threadCompletes_done {app : App} {log : List Entry} {i : Nat} {trigger : Trigger}
    {th : Thread} {call : Call} {r : Except Error Reply} {reqs : List Request} {u : Unit}
    (h : ThreadCompletes log i trigger th) (hcall : th.call app = some call)
    (hr : th.resume app r = .done (.ok u)) :
    ThreadCompletes (log ++ [⟨i, trigger, call, r, reqs⟩]) i trigger (.done (.ok u)) := by
  intro reqID hd
  have hnd := decidedBy_of_append hd (.inr (call_ne_setRequestState hcall (.inr ⟨u, hr⟩)))
  cases th
  case resolveManage reqID' pdData status =>
    cases hcall
    rcases r with _ | _
    · simp [Thread.resume] at hr
    rcases h with hu | ⟨action, ht, hid⟩
    · exact absurd hnd (hu reqID)
    · exact ⟨action, ht, _, List.mem_append_right _ (List.mem_singleton_self _), rfl, ⟨_, by rw [hid]⟩,
        rfl⟩
  case done => cases hcall
  case actionSetRequestState | resolveNote => rcases r with _ | _ <;> simp [Thread.resume] at hr
  all_goals exact absurd hnd (h reqID)

/-- A handler that moves on keeps what it has done towards a resolution; the
new entry is its call. -/
theorem threadCompletes_resume {app : App} {log : List Entry} {i : Nat} {trigger : Trigger}
    {th : Thread} {call : Call} {r : Except Error Reply} (hg : ThreadGuarded log i trigger th)
    (h : ThreadCompletes log i trigger th) (hcall : th.call app = some call) (reqs : List Request) :
    ThreadCompletes (log ++ [⟨i, trigger, call, r, reqs⟩]) i trigger (th.resume app r) := by
  rcases Thread.resume_cases app th r with ⟨res, hr⟩ | hr | hr
  · rw [hr]
    rcases res with _ | u
    · trivial
    · exact threadCompletes_done h hcall hr
  · rw [hr]
    exact threadCompletes_append h (.inr (call_ne_setRequestState hcall (.inl hr)))
  generalize th.resume app r = th' at hr
  cases hr with
  | getRequest => cases hcall; exact h.append (.inr fun _ _ => nofun)
  | getPluginData hincident => cases hcall; exact ⟨h.append (.inr fun _ _ => nofun), _, hg.1, hincident⟩
  | setRequestState => exact .inr h.2
  | note => cases hcall; exact h.imp_left (·.append (.inr fun _ _ => nofun))
  | createIncident => cases hcall; exact h.append (.inr fun _ _ => nofun)
  | deletedGetPluginData => cases hcall; exact .inl (h.append (.inr fun _ _ => nofun))

/-- **One step keeps `Guarded`**, whatever the codec and the world. -/
theorem guarded_preserved (app : App) :
    Preserved app EntryGuarded (fun log i t th => ThreadGuarded log i t th ∧ ThreadCompletes log i t th)
      (fun _ _ => True) where
  entry_mono _ _ _ h := ⟨fun reqID s hs => (h.decided reqID s hs).imp
      fun _ ⟨h₁, h₂, h₃, h₄⟩ => ⟨h₁, h₂, h₃, h₄.append _⟩,
    fun f inc hm => (h.resolved f inc hm).imp
      (fun ⟨a, r, h₁, h₂, h₃⟩ => ⟨a, r, h₁, h₂, h₃.append _⟩) id⟩
  thread_mono _ _ _ _ _ hx h := ⟨threadGuarded_append h.1 _, threadCompletes_append h.2 (.inl hx)⟩
  start log i t hfresh := ⟨threadGuarded_start log app i t, threadCompletes_start app t hfresh⟩
  update _ _ _ _ := trivial
  advance c i t th _ call r _ _ h hi hs := by
    obtain ⟨hcall, hp, rfl⟩ := Thread.step_eq_some hs
    obtain ⟨hg, hc⟩ := h.handlers i t th hi
    exact ⟨entryGuarded_call hg hcall r _ _, ⟨threadGuarded_resume hg hcall hp _,
      threadCompletes_resume hg hc hcall _⟩, trivial⟩

/-- What the log up to a call says of the call's own handler was logged
before the call, when it is about a call of another kind. -/
theorem exists_mem_of_append_singleton {P : Entry → Prop} {pre : List Entry} {e : Entry}
    (h : ∃ e' ∈ pre ++ [e], P e') (he : ¬P e) : ∃ e' ∈ pre, P e' := by
  obtain ⟨e', he', hP⟩ := h
  rcases List.mem_append.mp he' with he' | he'
  · exact ⟨e', he', hP⟩
  · exact absurd (List.mem_singleton.mp he' ▸ hP) he

/-! ## One handler at a time -/

/-- An item of a serial schedule: a delivery whose handler then makes its
calls, failing as `fails` says (a short list leaves it mid-way, as a crash
would), or an update by another party between two handlers. -/
inductive SerialItem where
  | handle (trigger : Trigger) (fails : List (Option Error))
  | update (u : Update)

/-- Handlers one at a time: each delivery is followed by its own handler's
calls and nothing else. -/
def runSerial (app : App) : Config → List SerialItem → Config
  | c, [] => c
  | c, .handle t fails :: items =>
      runSerial app (run app c (.deliver t :: fails.map (.advance c.handlers.length))) items
  | c, .update u :: items => runSerial app (c.step app (.update u)) items

/-- The state of a request among requests, as `GetRequest` finds it. -/
def stateIn (reqs : List Request) (reqID : String) : Option State :=
  (reqs.find? (·.id = reqID)).map (·.state)

/-- Every `SetRequestState` of a log was made while its request was pending. -/
def DecidedPending (log : List Entry) : Prop :=
  ∀ e ∈ log, ∀ reqID reqState, e.call = .setRequestState reqID reqState →
    stateIn e.requests reqID = some .pending

/-- Between its `GetRequest` and its `SetRequestState`, a handler running
alone still sees the request it read. -/
def SeesRead (w : World) : Thread → Prop
  | .actionGetPluginData _ reqID req | .actionSetRequestState reqID req _ _ _ =>
      w.findRequest reqID = some req ∧ req.state = .pending
  | _ => True

theorem seesRead_start (w : World) (app : App) (t : Trigger) : SeesRead w (t.start app) := by
  rcases t with action | ⟨_ | _ | _ | _ | _, req⟩ <;>
    simp only [Trigger.start, onPagerdutyAction, onWatcherEvent, onDeletedRequest, onPendingRequest]
  · split_ifs
    · trivial
    · split <;> trivial
  all_goals try trivial
  split_ifs
  · split <;> trivial
  · trivial

/-- A read leaves the requests alone. -/
theorem perform_read {f : Option Error} {c : Call} {w : World} {r : Except Error Reply} {w' : World}
    (hp : perform f c w = (r, w')) (hc : c.changesState = false) : w' = w := by
  rcases r with e | y
  · exact perform_error hp
  · obtain ⟨-, ha⟩ := perform_ok hp
    cases c <;> simp only [Call.changesState, reduceCtorEq] at hc
    · exact (perform_getRequest hp).choose_spec.2.2.2
    · exact (perform_getPluginData hp).choose_spec.2.2

theorem seesRead_resume {app : App} {w : World} {th : Thread} {call : Call} {fail : Option Error}
    {r : Except Error Reply} {w' : World} (h : SeesRead w th) (hcall : th.call app = some call)
    (hp : perform fail call w = (r, w')) : SeesRead w' (th.resume app r) := by
  rcases Thread.resume_cases app th r with ⟨res, hr⟩ | hr | hr
  · rw [hr]; trivial
  · rw [hr]
    cases th with
    | actionGetPluginData =>
        cases hcall
        rw [perform_read hp rfl]
        exact h
    | actionSetRequestState => rcases r with _ | _ <;> simp [Thread.resume] at hr
    | _ => trivial
  generalize th.resume app r = th' at hr
  cases hr with
  | getRequest hpending =>
      cases hcall
      obtain ⟨req', ⟨⟩, hget, -, rfl⟩ := perform_getRequest hp
      exact ⟨World.getRequest_ok hget, hpending⟩
  | getPluginData =>
      cases hcall
      rw [perform_read hp rfl]
      exact h
  | _ => trivial

/-- In a stretch of calls of one handler, each `SetRequestState` is made on
the request the handler read, still pending. -/
theorem run_advance_decidedPending (app : App) (n : Nat) (fails : List (Option Error)) {c : Config}
    {t : Trigger} {th : Thread} (hn : c.handlers[n]? = some (t, th)) (hsees : SeesRead c.world th)
    (hlog : DecidedPending c.log) : DecidedPending (run app c (fails.map (.advance n))).log := by
  induction fails generalizing c th with
  | nil => exact hlog
  | cons f fs ih =>
      rw [List.map_cons, run_cons]
      rcases hs : th.step app f c.world with _ | ⟨call, r, th', w'⟩
      · have hstep : c.step app (.advance n f) = c := by simp [Config.step, hn, hs]
        rw [hstep]
        exact ih hn hsees hlog
      have hstep : c.step app (.advance n f) =
          ⟨w', c.handlers.set n (t, th'), c.log ++ [⟨n, t, call, r, c.world.requests⟩]⟩ := by
        simp [Config.step, hn, hs]
      rw [hstep]
      obtain ⟨hcall, hp, rfl⟩ := Thread.step_eq_some hs
      have hlt : n < c.handlers.length := (List.getElem?_eq_some_iff.mp hn).1
      refine ih (by simp [List.getElem?_set_self hlt]) (seesRead_resume hsees hcall hp) ?_
      intro e he reqID reqState hcall'
      rcases List.mem_append.mp he with he | he
      · exact hlog e he reqID reqState hcall'
      rw [List.mem_singleton.mp he] at hcall' ⊢
      subst hcall'
      obtain ⟨reqID', req, pdData, res, rfl, rfl⟩ := call_setRequestState hcall
      obtain ⟨hfind, hpending⟩ := hsees
      rw [← World.find?_id hfind] at hfind
      show (c.world.findRequest req.id).map (·.state) = some .pending
      rw [hfind, Option.map_some', hpending]

/-- **Handlers one at a time decide only pending requests.** -/
theorem runSerial_pending (app : App) {c : Config} (hc : DecidedPending c.log)
    (items : List SerialItem) : DecidedPending (runSerial app c items).log := by
  induction items generalizing c with
  | nil => exact hc
  | cons item items ih =>
      cases item with
      | handle t fails =>
          rw [runSerial, run_cons]
          have hn : (c.step app (.deliver t)).handlers[c.handlers.length]? = some (t, t.start app) := by
            simp [Config.step]
          exact ih (run_advance_decidedPending app _ fails hn (seesRead_start _ app t) hc)
      | update u => exact ih hc

/-! ## What the guard guarantees -/

/-- The request and one approval handled one after the other, then the
request's deletion. -/
def expirySchedule : List Op :=
  [.deliver (.event ⟨.put, raceRequest⟩), .advance 0 none, .advance 0 none,
    .deliver (.action raceApproval), .advance 1 none, .advance 1 none, .advance 1 none,
    .advance 1 none, .advance 1 none,
    .deliver (.event ⟨.delete, raceRequest⟩), .advance 2 none, .advance 2 none, .advance 2 none]

end AccessPagerduty
