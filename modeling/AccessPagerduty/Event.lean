/-
# `AccessPagerduty.Event` — one watcher event, run alone

`App.onWatcherEvent` dispatches on the event's operation: a put of a pending
request opens an incident (`onPendingRequest`), a delete resolves the
incident the plugin data names (`onDeletedRequest`), a put of a decided
request is ignored, and any other operation is an error.  This module runs
the handler alone against any world, with any of its calls failing, and
proves what it calls and returns on each path; what the calls do to the
services is in `Effect`.

## The results

* `runAlone_pendingCreateIncident`: the two calls of a pending put, the
  second storing the incident the first was answered with.
* `onWatcherEvent_contract`: the calls and the result of each path.
-/
import AccessPagerduty.Action

namespace AccessPagerduty

/-- `onPendingRequest` before its first call: the body is always built. -/
theorem onPendingRequest_eq (app : App) (req : Request) :
    onPendingRequest app req = .pendingCreateIncident req.id ⟨req.user, req.roles, req.created⟩
      (formatIncidentBody app.timeFormat ⟨req.user, req.roles, req.created⟩) := by
  simp [onPendingRequest, buildIncidentBody, exec_incidentBodyTemplate]

/-- The two calls of `onPendingRequest`: the second stores the incident the
first was answered with. -/
theorem runAlone_pendingCreateIncident (app : App) (reqID : String) (reqData : RequestData)
    (body : String) (f₁ f₂ : Option Error) (fs : List (Option Error)) (w : World) :
    let run := runAlone app (f₁ :: f₂ :: fs) w (.pendingCreateIncident reqID reqData body)
    ∃ res r₁, run.1 = .done res ∧
      run.2.2.head? = some (.createIncident app.bot.userEmail ("Access request from " ++ reqData.user)
        (incidentKey reqID) app.bot.serviceID body, r₁) ∧
      ((∃ e, r₁ = .error e ∧ run.2.2.length = 1 ∧ res = .error e) ∨
        ∃ id r₂, r₁ = .ok (.incident id) ∧ run.2.2.tail =
          [(.updatePluginData reqID (app.encodePluginData ⟨reqData, ⟨id⟩⟩) none, r₂)] ∧
          res = r₂.map fun _ => ()) := by
  rw [runAlone_call app (t := .pendingCreateIncident reqID reqData body) rfl]
  rcases h₁ : perform f₁ _ w with ⟨e | y, w₁⟩
  · exact ⟨.error e, .error e, rfl, rfl, .inl ⟨e, rfl, rfl, rfl⟩⟩
  obtain ⟨-, ha⟩ := perform_ok h₁
  obtain ⟨id, rfl⟩ : ∃ id, y = .incident id := by cases ha; exact ⟨_, rfl⟩
  simp only [Thread.resume]
  rw [runAlone_call app (t := .pendingSetPluginData reqID ⟨reqData, ⟨id⟩⟩) rfl]
  rcases perform f₂ _ w₁ with ⟨e | y', w₂⟩ <;> simp only [Thread.resume, runAlone_done]
  · exact ⟨.error e, _, rfl, rfl, .inr ⟨id, _, rfl, rfl, rfl⟩⟩
  · exact ⟨.ok (), _, rfl, rfl, .inr ⟨id, _, rfl, rfl, rfl⟩⟩

/-- **`onWatcherEvent`, on every path.**  Run alone against any world, with
any of its calls failing, the handler returns, and:
a put of a pending request opens one incident under the request's key, with
the template's text, and on success stores plugin data naming the incident
PagerDuty answered, returning `nil` exactly when both calls succeed; a put of
a request that is not pending makes no call and returns `nil`; a delete reads
the request's plugin data, returns `nil` with no other call when there is
none, returns the read's error when the read fails otherwise, and on a read
resolves the incident the data names as "expired", returning `nil` exactly
when every call succeeds; any other operation makes no call and
is a `BadParameter`. -/
theorem onWatcherEvent_contract (app : App) (event : Event) (w : World) (fails : Nat → Option Error) :
    let run := runAlone app [fails 0, fails 1, fails 2] w (onWatcherEvent app event)
    let req := event.request
    let reqData : RequestData := ⟨req.user, req.roles, req.created⟩
    ∃ res, run.1 = .done res ∧
      (event.type = .put → req.state = .pending → ∃ r₁,
        run.2.2.head? = some (.createIncident app.bot.userEmail ("Access request from " ++ req.user)
          (incidentKey req.id) app.bot.serviceID (formatIncidentBody app.timeFormat reqData), r₁) ∧
        ((∃ e, r₁ = .error e ∧ run.2.2.length = 1 ∧ res = .error e) ∨
          ∃ id r₂, r₁ = .ok (.incident id) ∧ run.2.2.tail =
            [(.updatePluginData req.id (app.encodePluginData ⟨reqData, ⟨id⟩⟩) none, r₂)] ∧
            res = r₂.map fun _ => ())) ∧
      (event.type = .put → req.state ≠ .pending → run.2.2 = [] ∧ res = .ok ()) ∧
      (event.type = .delete → ∃ r₁, run.2.2.head? = some (.getPluginData req.id, r₁) ∧
        ((∃ e, r₁ = .error e ∧ run.2.2.length = 1 ∧ (e.isNotFound → res = .ok ()) ∧
            (¬e.isNotFound → res = .error e)) ∨
          ∃ data, r₁ = .ok (.pluginData data) ∧
            Outcome (resolveCalls app (app.decodePluginData data).pagerdutyData "expired") res
              run.2.2.tail)) ∧
      (event.type ≠ .put → event.type ≠ .delete →
        run.2.2 = [] ∧ res = .error (.badParameter ("unexpected event operation " ++ event.type.name))) := by
  obtain ⟨type, req⟩ := event
  cases type
  case put =>
    by_cases hp : req.state = .pending
    · simp only [onWatcherEvent, (State.isPending_iff _).mpr hp, if_true, onPendingRequest_eq]
      obtain ⟨res, r₁, hres, hhead, hcases⟩ := runAlone_pendingCreateIncident app req.id
        ⟨req.user, req.roles, req.created⟩ _ (fails 0) (fails 1) [fails 2] w
      exact ⟨res, hres, fun _ _ => ⟨r₁, hhead, hcases⟩, fun _ h => absurd hp h, nofun, fun h => absurd rfl h⟩
    · simp [onWatcherEvent, hp]
  case delete =>
    simp only [onWatcherEvent, onDeletedRequest]
    rw [runAlone_call app (t := .deletedGetPluginData req.id) rfl]
    rcases h₁ : perform (fails 0) (.getPluginData req.id) w with ⟨e | y, w₁⟩
    · by_cases hnf : e.isNotFound <;> simp [Thread.resume, hnf]
    obtain ⟨data, rfl, -, -⟩ := perform_getPluginData h₁
    obtain ⟨res, hres, hout⟩ := runAlone_resolveNote app req.id (app.decodePluginData data).pagerdutyData
      "expired" (fails 1) (fails 2) w₁
    exact ⟨res, hres, by simp, by simp, fun _ => ⟨_, rfl, .inr ⟨data, rfl, hout⟩⟩, by simp⟩
  all_goals simp [onWatcherEvent, OpType.name]

end AccessPagerduty
