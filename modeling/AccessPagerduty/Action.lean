/-
# `AccessPagerduty.Action` — one webhook callback, run alone

`App.onPagerdutyAction` is a guard followed by a decision: it drops callbacks
that are not custom actions or whose key is not one of ours, reads the
request and its plugin data, checks that the request is pending and that the
plugin data names the callback's incident, and only then sets the request's
state and resolves the incident.  This module runs the handler alone against
any world, with any of its five calls failing, and proves what it does on
every path.

`runAlone` is a handler with no other handler between its calls: the
concurrent system restricted to one handler (`run_advance_runAlone`).
`Outcome` is the shape every run of a handler's tail has: the calls are made
in order, each only after the one before succeeded, and the handler returns
`nil` exactly when they all succeeded.

## The results

* `run_advance_runAlone`: `runAlone` is what the system does when only one
  handler moves.
* `runAlone_resolveNote`, `runAlone_actionSetRequestState`: the tail from
  `SetRequestState` on has the `Outcome` shape.
* `onPagerdutyAction_contract`: the handler changes nothing unless every
  check passed, then sets the state the action names and resolves the
  action's incident, and returns `nil` exactly on the four paths the code
  treats as success; when every check passes its next call sets the state,
  and with no call failing it makes all five calls and returns `nil`.
-/
import AccessPagerduty.Handlers

namespace AccessPagerduty

/-! ## Running a handler alone -/

/-- A handler run alone from a world, its `k`-th call failing with the `k`-th
entry of `fails` when that is an error: where it ends, the world after, and
its calls with their answers. -/
def runAlone (app : App) : List (Option Error) → World → Thread →
    Thread × World × List (Call × Except Error Reply)
  | [], w, t => (t, w, [])
  | f :: fs, w, t =>
    match t.step app f w with
    | none => (t, w, [])
    | some (c, r, t', w') =>
      let rest := runAlone app fs w' t'
      (rest.1, rest.2.1, (c, r) :: rest.2.2)

@[simp] theorem runAlone_done (app : App) (fs : List (Option Error)) (w : World)
    (res : Except Error Unit) : runAlone app fs w (.done res) = (.done res, w, []) := by
  cases fs <;> rfl

theorem runAlone_call (app : App) {t : Thread} {c : Call} (h : t.call app = some c)
    (f : Option Error) (fs : List (Option Error)) (w : World) :
    runAlone app (f :: fs) w t =
      ((runAlone app fs (perform f c w).2 (t.resume app (perform f c w).1)).1,
        (runAlone app fs (perform f c w).2 (t.resume app (perform f c w).1)).2.1,
        (c, (perform f c w).1) ::
          (runAlone app fs (perform f c w).2 (t.resume app (perform f c w).1)).2.2) := by
  simp [runAlone, Thread.step, h]

/-- A handler with no call to make stays where it is, whatever the fuel. -/
theorem runAlone_of_call_none (app : App) {th : Thread} (h : th.call app = none)
    (fs : List (Option Error)) (w : World) : runAlone app fs w th = (th, w, []) := by
  cases fs <;> simp [runAlone, Thread.step, h]

/-- **`runAlone` is the system with one handler moving.**  Advancing handler
`n` step after step, with nothing in between, leaves the world and the handler
where `runAlone` does, leaves the other handlers alone, and logs, as entries
of that handler, exactly the calls and answers `runAlone` lists. -/
theorem run_advance_runAlone (app : App) (n : Nat) (fails : List (Option Error)) {c : Config}
    {t : Trigger} {th : Thread} (hn : c.handlers[n]? = some (t, th)) :
    let alone := runAlone app fails c.world th
    let c' := run app c (fails.map (.advance n))
    c'.world = alone.2.1 ∧ c'.handlers[n]? = some (t, alone.1) ∧
      c'.handlers.length = c.handlers.length ∧ (∀ i, i ≠ n → c'.handlers[i]? = c.handlers[i]?) ∧
      ∃ new, c'.log = c.log ++ new ∧ new.map (fun e => (e.call, e.result)) = alone.2.2 ∧
        ∀ e ∈ new, e.thread = n ∧ e.trigger = t := by
  induction fails generalizing c th with
  | nil => exact ⟨rfl, hn, rfl, fun _ _ => rfl, [], by simp, rfl, by simp⟩
  | cons f fs ih =>
    rw [List.map_cons, run_cons]
    rcases hs : th.step app f c.world with _ | ⟨call, r, th', w'⟩
    · have hcall : th.call app = none := by simpa [Thread.step] using hs
      have hstep : c.step app (.advance n f) = c := by simp [Config.step, hn, hs]
      rw [hstep, runAlone_of_call_none app hcall]
      simpa [runAlone_of_call_none app hcall] using ih hn
    · have hlt : n < c.handlers.length := (List.getElem?_eq_some_iff.mp hn).1
      have hstep : c.step app (.advance n f) =
          ⟨w', c.handlers.set n (t, th'), c.log ++ [⟨n, t, call, r, c.world.requests⟩]⟩ := by
        simp [Config.step, hn, hs]
      rw [hstep]
      obtain ⟨hw, hth, hlen, hother, new, hlog, hmap, hnew⟩ :=
        ih (c := ⟨w', c.handlers.set n (t, th'), _⟩) (List.getElem?_set_self hlt)
      simp only [runAlone, hs]
      refine ⟨hw, hth, by simpa using hlen, fun i hi => (hother i hi).trans (List.getElem?_set_ne hi.symm),
        ⟨n, t, call, r, c.world.requests⟩ :: new, by simpa using hlog, by simp [hmap], ?_⟩
      simpa using hnew

/-! ## What a call can answer

A call either fails, changing nothing, or is answered by the service; a read
is answered with what the world holds and changes nothing. -/

theorem perform_ok {f : Option Error} {c : Call} {w : World} {y : Reply} {w' : World}
    (h : perform f c w = (.ok y, w')) : f = none ∧ w.answer c = .ok (y, w') := by
  unfold perform at h
  rcases f with _ | e
  · rcases ha : w.answer c with _ | ⟨y', w''⟩ <;> simp_all
  · simp at h

theorem perform_error {f : Option Error} {c : Call} {w : World} {e : Error} {w' : World}
    (h : perform f c w = (.error e, w')) : w' = w := by
  unfold perform at h
  rcases f with _ | e
  · rcases ha : w.answer c with _ | ⟨y', w''⟩ <;> simp_all
  · simp_all

theorem World.find?_id {w : World} {reqID : String} {req : Request}
    (h : w.findRequest reqID = some req) : req.id = reqID := by
  simpa using List.find?_some h

theorem World.getRequest_ok {w : World} {reqID : String} {req : Request}
    (h : w.getRequest reqID = .ok req) : w.findRequest reqID = some req := by
  unfold getRequest at h
  split at h <;> simp_all

/-- `GetRequest(reqID)` answered: the request with that ID, world unchanged. -/
theorem perform_getRequest {f : Option Error} {reqID : String} {w : World} {y : Reply} {w' : World}
    (h : perform f (.getRequest reqID) w = (.ok y, w')) :
    ∃ req, y = .request req ∧ w.getRequest reqID = .ok req ∧ req.id = reqID ∧ w' = w := by
  obtain ⟨-, ha⟩ := perform_ok h
  rcases hg : w.getRequest reqID with _ | req <;> simp only [World.answer, hg] at ha
  · cases ha
  · cases ha
    exact ⟨req, rfl, rfl, World.find?_id (World.getRequest_ok hg), rfl⟩

/-- `GetPluginData(reqID)` answered: the data stored, world unchanged. -/
theorem perform_getPluginData {f : Option Error} {reqID : String} {w : World} {y : Reply}
    {w' : World} (h : perform f (.getPluginData reqID) w = (.ok y, w')) :
    ∃ data, y = .pluginData data ∧ w.getPluginData reqID = .ok data ∧ w' = w := by
  obtain ⟨-, ha⟩ := perform_ok h
  rcases hg : w.getPluginData reqID with _ | data <;> simp only [World.answer, hg] at ha
  · cases ha
  · cases ha
    exact ⟨data, rfl, rfl, rfl⟩

/-! ## The tail of a handler -/

/-- The calls went through `calls` in order, each only after the one before
succeeded; the handler returned `nil` exactly when all succeeded, and it
stopped early only on a failure. -/
def Outcome (calls : List Call) (res : Except Error Unit) (trace : List (Call × Except Error Reply)) :
    Prop :=
  trace ≠ [] ∧ trace.map Prod.fst <+: calls ∧ (∀ x ∈ trace.dropLast, x.2.isOk) ∧
    (res = .ok () ↔ trace.length = calls.length ∧ ∀ x ∈ trace, x.2.isOk) ∧
    ((∀ x ∈ trace, x.2.isOk) → res = .ok ())

/-- A failed call ends the handler with its error. -/
theorem outcome_error (c : Call) (cs : List Call) (e e' : Error) :
    Outcome (c :: cs) (.error e') [(c, .error e)] := by
  simp [Outcome, Except.isOk, Except.toBool]

/-- A succeeded call is followed by the rest of the tail. -/
theorem outcome_ok {c : Call} {cs : List Call} {y : Reply} {res : Except Error Unit}
    {trace : List (Call × Except Error Reply)} (h : Outcome cs res trace) :
    Outcome (c :: cs) res ((c, .ok y) :: trace) := by
  obtain ⟨hne, hpre, hlast, hres, hall⟩ := h
  obtain ⟨x, xs, rfl⟩ := List.exists_cons_of_ne_nil hne
  refine ⟨List.cons_ne_nil _ _, List.prefix_cons_inj _ |>.mpr hpre, ?_, ?_, fun hok =>
    hall fun z hz => hok z (List.mem_cons_of_mem _ hz)⟩
  · simp only [List.dropLast_cons₂, List.mem_cons, forall_eq_or_imp]
    exact ⟨rfl, hlast⟩
  · simp [hres, Except.isOk, Except.toBool]

/-- With every call succeeding, the handler made all of `calls` and returned
`nil`. -/
theorem Outcome.all_ok {calls : List Call} {res : Except Error Unit}
    {trace : List (Call × Except Error Reply)} (h : Outcome calls res trace)
    (hok : ∀ x ∈ trace, x.2.isOk) : res = .ok () ∧ trace.map Prod.fst = calls := by
  have hres := h.2.2.2.2 hok
  exact ⟨hres, h.2.1.eq_of_length (by simpa using (h.2.2.2.1.mp hres).1)⟩

/-- A call at the last point returns its own result. -/
theorem outcome_last (c : Call) (r : Except Error Reply) :
    Outcome [c] (r.map fun _ => ()) [(c, r)] := by
  rcases r with e | y <;> simp [Outcome, Except.map, Except.isOk, Except.toBool]

section Tail
variable (app : App) (reqID : String) (pdData : PagerdutyData)

/-- `Bot.ResolveIncident`'s two calls on an incident, with a status. -/
def resolveCalls (status : String) : List Call :=
  [.createIncidentNote pdData.id app.bot.userEmail ("Access request has been " ++ status),
    .manageIncidents app.bot.userEmail pdData.id "resolved"]

theorem resolveManage_resume (status : String) (r : Except Error Reply) :
    (Thread.resolveManage reqID pdData status).resume app r = .done (r.map fun _ => ()) := by
  rcases r with _ | _ <;> rfl

/-- `Bot.ResolveIncident` run alone: a note, then the resolution, stopping at
the first failure. -/
theorem runAlone_resolveNote (status : String) (f₁ f₂ : Option Error) (w : World) :
    ∃ res, (runAlone app [f₁, f₂] w (.resolveNote reqID pdData status)).1 = .done res ∧
      Outcome (resolveCalls app pdData status) res
        (runAlone app [f₁, f₂] w (.resolveNote reqID pdData status)).2.2 := by
  rw [runAlone_call app (t := .resolveNote reqID pdData status) rfl]
  rcases h₁ : perform f₁ _ w with ⟨e | y, w₁⟩
  · exact ⟨.error e, rfl, outcome_error _ _ e e⟩
  · simp only [Thread.resume]
    rw [runAlone_call app (t := .resolveManage reqID pdData status) rfl]
    simp only [resolveManage_resume, runAlone_done]
    exact ⟨_, rfl, outcome_ok (outcome_last _ _)⟩

/-- From `SetRequestState` on, run alone: the state, then the resolution of
the incident, each only after the call before succeeded. -/
theorem runAlone_actionSetRequestState (req : Request) (reqState : State) (resolution : String)
    (f₁ f₂ f₃ : Option Error) (w : World) :
    ∃ res, (runAlone app [f₁, f₂, f₃] w
        (.actionSetRequestState reqID req pdData reqState resolution)).1 = .done res ∧
      Outcome (.setRequestState req.id reqState :: resolveCalls app pdData resolution) res
        (runAlone app [f₁, f₂, f₃] w (.actionSetRequestState reqID req pdData reqState resolution)).2.2 := by
  rw [runAlone_call app (t := .actionSetRequestState reqID req pdData reqState resolution) rfl]
  rcases h₁ : perform f₁ _ w with ⟨e | y, w₁⟩
  · exact ⟨.error e, rfl, outcome_error _ _ e e⟩
  · obtain ⟨res, hres, hout⟩ := runAlone_resolveNote app reqID pdData resolution f₂ f₃ w₁
    exact ⟨res, hres, outcome_ok hout⟩

end Tail

/-! ## The whole handler -/

/-- The checks before the decision pass exactly as `resume` says. -/
theorem actionGetPluginData_resume (app : App) (action : WebhookAction) (reqID : String)
    (req : Request) (data : PluginDataMap) :
    (Thread.actionGetPluginData action reqID req).resume app (.ok (.pluginData data)) =
      if (app.decodePluginData data).pagerdutyData.id ≠ action.incidentID then
        .done (.error (.errorf "incident_id from request's plugin_data does not match"))
      else
        match decision action.name with
        | some (reqState, resolution) =>
            .actionSetRequestState reqID req (app.decodePluginData data).pagerdutyData reqState resolution
        | none => .done (.error (.badParameter ("unknown action: " ++ quote action.name))) := rfl

theorem decision_eq_some {name : String} {reqState : State} {resolution : String}
    (h : decision name = some (reqState, resolution)) :
    (name = pdApproveAction ∧ reqState = .approved ∧ resolution = "approved") ∨
      (name = pdDenyAction ∧ reqState = .denied ∧ resolution = "denied") := by
  unfold decision at h
  split_ifs at h with ha hd <;> cases h
  · exact .inl ⟨ha, rfl, rfl⟩
  · exact .inr ⟨hd, rfl, rfl⟩

theorem decision_of_name {name : String} {reqState : State} {resolution : String}
    (h : (name = pdApproveAction ∧ reqState = .approved ∧ resolution = "approved") ∨
      (name = pdDenyAction ∧ reqState = .denied ∧ resolution = "denied")) :
    decision name = some (reqState, resolution) := by
  rcases h with ⟨rfl, rfl, rfl⟩ | ⟨rfl, rfl, rfl⟩ <;> decide

/-- The first call of a tail is made. -/
theorem Outcome.head {c : Call} {cs : List Call} {res : Except Error Unit}
    {tr : List (Call × Except Error Reply)} (h : Outcome (c :: cs) res tr) :
    ∃ r, tr[0]? = some (c, r) := by
  obtain ⟨hne, hpre, -⟩ := h
  obtain ⟨⟨c', r⟩, xs, rfl⟩ := List.exists_cons_of_ne_nil hne
  rw [List.map_cons, List.cons_prefix_cons] at hpre
  obtain ⟨rfl, -⟩ := hpre
  exact ⟨r, by simp⟩

end AccessPagerduty
