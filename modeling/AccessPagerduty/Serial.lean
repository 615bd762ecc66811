/-
# `AccessPagerduty.Serial` — handlers one at a time are steps of the protocol

`Handlers` models the bridge call by call, as the Go code runs it: a handler
makes up to five calls, and the calls of concurrent handlers interleave.
What the bridge is *for* is simpler: each trigger is one atomic change to the
services.  A callback that decides a pending request of ours applies the
decision (`World.applyDecision`); a put of a pending request opens an
incident and records it in the request's plugin data; a delete resolves the
incident the plugin data names as expired; anything else changes nothing.
That is the protocol, `World.react`, one input at a time.

The call-by-call model refines the protocol when the handlers run one at a
time against honest services with no failing call: the services after a
serial run are the protocol run on the same inputs, and every handler has
returned.  Serially, a callback delivered again therefore changes nothing,
because the request it decided is no longer pending; interleaved, two
deliveries can both pass the check (the race of `Race`), a run no serial
schedule has.

## The results

* `runAlone_serve`: a handler run alone with no failing call is one step of
  the protocol.
* `runSerial_react`, `runSerial_refines`: a serial run is the protocol run.
* `World.onAction_onAction`, `runSerial_redelivery`: a callback handled twice
  in a row has the effect of one.
* `World.react_keys`, `runSerial_incidentKeys`: a serial run opens exactly
  one incident per put of a pending request, under its key, and no other.
-/
import AccessPagerduty.Effect
import AccessPagerduty.Race

namespace AccessPagerduty

/-! ## The protocol -/

namespace World

/-- What a webhook callback is for.  A custom action whose key names a
request that is pending, whose plugin data names the callback's incident, and
whose name is a decision applies the decision; any other callback changes
nothing. -/
def onAction (app : App) (w : World) (action : WebhookAction) : World :=
  match incidentKeyRequestID action.incidentKey with
  | none => w
  | some reqID =>
    match w.findRequest reqID, w.pluginData.lookup reqID, decision action.name with
    | some req, some data, some (state, resolution) =>
      if action.event = "incident.custom" ∧ req.state = .pending ∧
          (app.decodePluginData data).pagerdutyData.id = action.incidentID then
        w.applyDecision reqID state action.incidentID resolution
      else w
    | _, _, _ => w

/-- What a pending request is for: PagerDuty opens an incident under the
request's key, and the bridge records its ID in the request's plugin data if
the request is still there. -/
def openIncident (app : App) (w : World) (req : Request) : World :=
  let (id, w') := w.createIncident (incidentKey req.id)
  match w.findRequest req.id with
  | none => w'
  | some _ => { w' with pluginData := (req.id, app.encodePluginData
      ⟨⟨req.user, req.roles, req.created⟩, ⟨id⟩⟩) :: w'.pluginData.filter (·.1 ≠ req.id) }

/-- What an access-request event is for: a put of a pending request opens its
incident, and a delete resolves as expired the incident its plugin data
names. -/
def onEvent (app : App) (w : World) (event : Event) : World :=
  match event.type with
  | .put => if event.request.state = .pending then w.openIncident app event.request else w
  | .delete =>
    match w.pluginData.lookup event.request.id with
    | none => w
    | some data =>
      w.resolveIncident (app.decodePluginData data).pagerdutyData.id "Access request has been expired"
  | _ => w

/-- What a trigger is for. -/
def serve (app : App) (w : World) : Trigger → World
  | .action action => w.onAction app action
  | .event event => w.onEvent app event

end World

/-- An input of the protocol: a trigger, or another party's change. -/
inductive Input where
  | trigger (t : Trigger)
  | update (u : Update)

/-- One step of the protocol. -/
def World.react (app : App) (w : World) : Input → World
  | .trigger t => w.serve app t
  | .update u => w.apply u

/-- An input as an item of a serial schedule: a trigger's handler has room
for `room` calls, none of which fails. -/
def Input.serial (room : Nat) : Input → SerialItem
  | .trigger t => .handle t (List.replicate room none)
  | .update u => .update u

/-! ## When a callback decides -/

namespace World

variable {app : App} {w : World} {action : WebhookAction}

/-- A callback that does not pass every check changes nothing. -/
theorem onAction_eq_self
    (h : ∀ reqID req data state resolution, incidentKeyRequestID action.incidentKey = some reqID →
      w.findRequest reqID = some req → w.pluginData.lookup reqID = some data →
      decision action.name = some (state, resolution) → action.event = "incident.custom" →
      req.state = .pending → (app.decodePluginData data).pagerdutyData.id ≠ action.incidentID) :
    w.onAction app action = w := by
  unfold onAction
  split
  · rfl
  · rename_i reqID hkey
    split
    · rename_i req data state resolution hreq hdata hdec
      exact if_neg fun ⟨hev, hp, hinc⟩ => h reqID req data state resolution hkey hreq hdata hdec hev hp hinc
    · rfl

/-- A callback that passes every check applies its decision. -/
theorem onAction_eq_applyDecision {reqID : String} {req : Request} {data : PluginDataMap}
    {state : State} {resolution : String} (hkey : incidentKeyRequestID action.incidentKey = some reqID)
    (hreq : w.findRequest reqID = some req) (hdata : w.pluginData.lookup reqID = some data)
    (hdec : decision action.name = some (state, resolution)) (hev : action.event = "incident.custom")
    (hp : req.state = .pending) (hinc : (app.decodePluginData data).pagerdutyData.id = action.incidentID) :
    w.onAction app action = w.applyDecision reqID state action.incidentID resolution := by
  simp [onAction, hkey, hreq, hdata, hdec, hev, hp, hinc]

/-- Setting a request's state leaves it where `GetRequest` finds it. -/
theorem findRequest_applyDecision (w : World) (reqID : String) (state : State) (id resolution : String) :
    (w.applyDecision reqID state id resolution).findRequest reqID =
      (w.findRequest reqID).map ({ · with state }) := by
  have hp : ((fun r : Request => decide (r.id = reqID)) ∘ fun r => if r.id = reqID then { r with state } else r) =
      fun r => decide (r.id = reqID) := by
    funext r
    by_cases h : r.id = reqID <;> simp [h]
  simp only [applyDecision, resolveIncident, findRequest, List.find?_map, hp]
  rcases hf : w.requests.find? (·.id = reqID) with _ | r
  · simp only [hf, Option.map_none']
  · have hr : r.id = reqID := by simpa using List.find?_some hf
    simp [hf, hr]

/-- **A callback handled twice has the effect of one**: the request it
decided is no longer pending, and one it did not decide is as it was. -/
theorem onAction_onAction (app : App) (w : World) (action : WebhookAction) :
    (w.onAction app action).onAction app action = w.onAction app action := by
  by_cases h : ∃ reqID req data state resolution, incidentKeyRequestID action.incidentKey = some reqID ∧
      w.findRequest reqID = some req ∧ w.pluginData.lookup reqID = some data ∧
      decision action.name = some (state, resolution) ∧ action.event = "incident.custom" ∧
      req.state = .pending ∧ (app.decodePluginData data).pagerdutyData.id = action.incidentID
  · obtain ⟨reqID, req, data, state, resolution, hkey, hreq, hdata, hdec, hev, hp, hinc⟩ := h
    rw [onAction_eq_applyDecision hkey hreq hdata hdec hev hp hinc]
    refine onAction_eq_self fun reqID' req' _ _ _ hk hr _ _ _ hp' _ => ?_
    obtain rfl : reqID' = reqID := Option.some.inj (hk.symm.trans hkey)
    rw [findRequest_applyDecision, hreq, Option.map_some', Option.some.injEq] at hr
    subst hr
    rcases decision_eq_some hdec with ⟨-, rfl, -⟩ | ⟨-, rfl, -⟩ <;> simp at hp'
  · push_neg at h
    have hself : w.onAction app action = w :=
      onAction_eq_self fun reqID req data state resolution hk hr hd hdec hev hp =>
        h reqID req data state resolution hk hr hd hdec hev hp
    rw [hself, hself]

end World

/-! ## One handler is one step -/

/-- A callback that returned without a change agrees with a protocol that
makes none. -/
theorem runAlone_done_onAction {app : App} {w : World} {action : WebhookAction}
    {res : Except Error Unit} (fs : List (Option Error)) (h : w.onAction app action = w) :
    (∃ r, (runAlone app fs w (.done res)).1 = .done r) ∧
      (runAlone app fs w (.done res)).2.1 = w.onAction app action := by
  rw [runAlone_done, h]
  exact ⟨⟨_, rfl⟩, rfl⟩

/-- **A callback run alone is `World.onAction`.** -/
theorem runAlone_onAction (app : App) (action : WebhookAction) (w : World) (fs : List (Option Error)) :
    let run := runAlone app (none :: none :: none :: none :: none :: fs) w (onPagerdutyAction action)
    (∃ res, run.1 = .done res) ∧ run.2.1 = w.onAction app action := by
  unfold onPagerdutyAction
  by_cases hev : action.event = "incident.custom"
  case neg =>
    simp only [hev, ne_eq, not_false_eq_true, if_true]
    exact runAlone_done_onAction _ (World.onAction_eq_self fun _ _ _ _ _ _ _ _ _ h => absurd h hev)
  rcases hkey : incidentKeyRequestID action.incidentKey with _ | reqID
  · simp only [hev, ne_eq, not_true_eq_false, if_false]
    exact runAlone_done_onAction _ (World.onAction_eq_self fun _ _ _ _ _ h => absurd h (by simp [hkey]))
  simp only [hev, ne_eq, not_true_eq_false, if_false]
  rw [runAlone_call app (t := .actionGetRequest action reqID) rfl]
  rcases hreq : w.findRequest reqID with _ | req
  · simp only [perform, World.answer, World.getRequest, hreq, Except.map, Thread.resume]
    refine runAlone_done_onAction _ (World.onAction_eq_self fun _ _ _ _ _ hk h => ?_)
    simp_all
  have h₁ : perform none (.getRequest reqID) w = (.ok (.request req), w) := by
    simp [perform, World.answer, World.getRequest, hreq, Except.map]
  have hsame : ∀ reqID' req', incidentKeyRequestID action.incidentKey = some reqID' →
      w.findRequest reqID' = some req' → reqID' = reqID ∧ req' = req := fun _ _ hk hr => by
    obtain rfl : _ = reqID := Option.some.inj (hk.symm.trans hkey)
    exact ⟨rfl, Option.some.inj (hr.symm.trans hreq)⟩
  rw [h₁]
  by_cases hp : req.state = .pending
  case neg =>
    simp only [Thread.resume, hp, ne_eq, not_false_eq_true, if_true]
    refine runAlone_done_onAction _ (World.onAction_eq_self fun _ _ _ _ _ hk hr _ _ _ hp' => ?_)
    obtain ⟨rfl, rfl⟩ := hsame _ _ hk hr
    exact absurd hp' hp
  simp only [Thread.resume, hp, ne_eq, not_true_eq_false, if_false]
  rw [runAlone_call app (t := .actionGetPluginData action reqID req) rfl]
  rcases hdata : w.pluginData.lookup reqID with _ | data
  · simp only [perform, World.answer, World.getPluginData, hdata, Except.map, Thread.resume]
    refine runAlone_done_onAction _ (World.onAction_eq_self fun _ _ _ _ _ hk hr hd => ?_)
    obtain ⟨rfl, rfl⟩ := hsame _ _ hk hr
    simp_all
  have h₂ : perform none (.getPluginData reqID) w = (.ok (.pluginData data), w) := by
    simp [perform, World.answer, World.getPluginData, hdata, Except.map]
  rw [h₂, actionGetPluginData_resume]
  by_cases hinc : (app.decodePluginData data).pagerdutyData.id = action.incidentID
  case neg =>
    simp only [hinc, ne_eq, not_false_eq_true, if_true]
    refine runAlone_done_onAction _ (World.onAction_eq_self fun _ _ _ _ _ hk hr hd _ _ _ => ?_)
    obtain ⟨rfl, rfl⟩ := hsame _ _ hk hr
    simp_all
  rcases hdec : decision action.name with _ | ⟨state, resolution⟩
  · simp only [hinc, hdec, ne_eq, not_true_eq_false, if_false]
    refine runAlone_done_onAction _ (World.onAction_eq_self fun _ _ _ _ _ _ _ _ hd => ?_)
    simp_all
  simp only [hinc, hdec, ne_eq, not_true_eq_false, if_false]
  have h₃ : perform none (.setRequestState req.id state) w =
      (.ok .unit, { w with requests := w.requests.map fun r => if r.id = reqID then { r with state } else r }) := by
    simp [perform, World.answer, World.setRequestState, World.find?_id hreq, hreq, Except.map]
  rw [runAlone_call app (t := .actionSetRequestState reqID req _ state resolution) rfl, h₃]
  simp only [Thread.resume]
  rw [World.onAction_eq_applyDecision hkey hreq hdata hdec hev hp hinc, ← hinc]
  exact runAlone_resolveNote_world app reqID _ resolution fs _

/-- **A pending request run alone is `World.openIncident`.** -/
theorem runAlone_openIncident (app : App) (req : Request) (w : World) (fs : List (Option Error)) :
    let run := runAlone app (none :: none :: fs) w (onPendingRequest app req)
    (∃ res, run.1 = .done res) ∧ run.2.1 = w.openIncident app req := by
  rw [onPendingRequest_eq, runAlone_call app (t := .pendingCreateIncident req.id _ _) rfl]
  simp only [perform, World.answer, Thread.resume]
  rw [runAlone_call app (t := .pendingSetPluginData req.id _) rfl]
  have hfind : (w.createIncident (incidentKey req.id)).2.findRequest req.id = w.findRequest req.id := rfl
  unfold World.openIncident
  rcases hreq : w.findRequest req.id with _ | found <;>
    simp [perform, World.answer, World.updatePluginData, hfind, hreq, Except.map, Thread.resume]

/-- **An access-request event run alone is `World.onEvent`.** -/
theorem runAlone_onEvent (app : App) (event : Event) (w : World) (fs : List (Option Error)) :
    let run := runAlone app (none :: none :: none :: fs) w (onWatcherEvent app event)
    (∃ res, run.1 = .done res) ∧ run.2.1 = w.onEvent app event := by
  obtain ⟨type, req⟩ := event
  cases type
  case put =>
    by_cases hp : req.state = .pending
    · simp only [onWatcherEvent, (State.isPending_iff _).mpr hp, if_true, World.onEvent, hp]
      exact runAlone_openIncident app req w (none :: fs)
    · simp [onWatcherEvent, World.onEvent, hp]
  case delete =>
    have h := onDeletedRequest_expires app req w fs
    dsimp only at h ⊢
    simp only [World.onEvent]
    rcases hl : w.pluginData.lookup req.id with _ | data
    · simp only [World.getPluginData, hl, Prod.mk.injEq] at h
      exact ⟨⟨_, h.1⟩, h.2⟩
    · simp only [World.getPluginData, hl] at h
      split_ifs at h with hinc <;> obtain ⟨h₁, h₂⟩ := Prod.mk.inj h
      · exact ⟨⟨_, h₁⟩, h₂⟩
      · exact ⟨⟨_, h₁⟩, h₂.trans (World.resolveIncident_of_not_mem _ hinc).symm⟩
  all_goals simp [onWatcherEvent, World.onEvent]

/-- **A handler run alone with no failing call is one step of the protocol.** -/
theorem runAlone_serve (app : App) (t : Trigger) (w : World) (fs : List (Option Error)) :
    let run := runAlone app (none :: none :: none :: none :: none :: fs) w (t.start app)
    (∃ res, run.1 = .done res) ∧ run.2.1 = w.serve app t := by
  cases t with
  | action action => exact runAlone_onAction app action w fs
  | event event => exact runAlone_onEvent app event w (none :: none :: fs)

/-! ## A serial run is a run of the protocol -/

/-- Every handler of a system has returned. -/
def Config.Settled (c : Config) : Prop :=
  ∀ (i : Nat) (t : Trigger) (th : Thread), c.handlers[i]? = some (t, th) → ∃ res, th = .done res

/-- A delivery followed by its handler's calls, none failing, is one step of
the protocol and leaves every handler returned. -/
theorem run_deliver_serve (app : App) (n : Nat) (t : Trigger) {c : Config} (hc : c.Settled) :
    let c' := run app c (.deliver t :: (List.replicate (n + 5) none).map (Op.advance c.handlers.length))
    c'.world = c.world.serve app t ∧ c'.Settled := by
  have hn : (c.step app (.deliver t)).handlers[c.handlers.length]? = some (t, t.start app) := by
    simp [Config.step]
  have hroom : List.replicate (n + 5) (none : Option Error) =
      none :: none :: none :: none :: none :: List.replicate n none := rfl
  obtain ⟨hw, hth, -, hother, -⟩ := run_advance_runAlone app _ (List.replicate (n + 5) none) hn
  have hworld : (c.step app (.deliver t)).world = c.world := rfl
  rw [hworld] at hw hth
  obtain ⟨⟨res, hdone⟩, hserve⟩ := runAlone_serve app t c.world (List.replicate n none)
  rw [← hroom] at hdone hserve
  rw [run_cons]
  refine ⟨hw.trans hserve, fun i t' th' hi => ?_⟩
  by_cases hin : i = c.handlers.length
  · subst hin
    rw [hth, hdone, Option.some.injEq, Prod.mk.injEq] at hi
    exact ⟨res, hi.2.symm⟩
  · rw [hother i hin] at hi
    rcases getElem?_append_singleton hi with hi | ⟨hi, -⟩
    · exact hc i t' th' hi
    · exact absurd hi hin

/-- **A serial run, from any settled system, is the protocol run.** -/
theorem runSerial_react (app : App) (n : Nat) (inputs : List Input) {c : Config} (hc : c.Settled) :
    let c' := runSerial app c (inputs.map (Input.serial (n + 5)))
    c'.world = inputs.foldl (World.react app) c.world ∧ c'.Settled := by
  induction inputs generalizing c with
  | nil => exact ⟨rfl, hc⟩
  | cons input inputs ih =>
    cases input with
    | trigger t =>
      obtain ⟨hw, hs⟩ := run_deliver_serve app n t hc
      obtain ⟨hw', hs'⟩ := ih hs
      exact ⟨hw'.trans (by rw [hw]; rfl), hs'⟩
    | update u => exact ih (c := c.step app (.update u)) hc

theorem Config.settled_init (w : World) : (Config.init w).Settled :=
  fun _ _ _ h => by simp [Config.init] at h

/-- **Handlers one at a time refine the protocol.**  From any world, deliver
triggers one at a time, each handler making its calls before the next
delivery with none failing, with any changes by other parties in between:
the services end as the protocol `World.react` leaves them on the same
inputs, and every handler has returned. -/
theorem runSerial_refines (app : App) (w : World) (inputs : List Input) (n : Nat) :
    let c := runSerial app (Config.init w) (inputs.map (Input.serial (n + 5)))
    c.world = inputs.foldl (World.react app) w ∧ c.Settled :=
  runSerial_react app n inputs (Config.settled_init w)

/-- **Serially, a redelivered callback changes nothing.**  In any serial run,
a callback delivered twice in a row leaves the services as one delivery
does. -/
theorem runSerial_redelivery (app : App) (w : World) (pre post : List Input) (action : WebhookAction)
    (n : Nat) :
    (runSerial app (Config.init w) ((pre ++ .trigger (.action action) :: .trigger (.action action) :: post).map
        (Input.serial (n + 5)))).world =
      (runSerial app (Config.init w) ((pre ++ .trigger (.action action) :: post).map
        (Input.serial (n + 5)))).world := by
  rw [(runSerial_react app n _ (Config.settled_init w)).1, (runSerial_react app n _ (Config.settled_init w)).1]
  simp only [List.foldl_append, List.foldl_cons, World.react, World.serve, World.onAction_onAction]

/-! ## One incident per pending put

In the protocol, the only input that opens an incident is a put of a pending
request, which opens one under the request's key; a decision or an expiry
resolves an incident and keeps its key, and another party's change leaves the
incidents alone.  Through the refinement, the same holds of serial runs of
the code. -/

/-- The key of the incident an input opens, if it opens one. -/
def Input.openedKey : Input → Option String
  | .trigger (.event ⟨.put, req⟩) => if req.state = .pending then some (incidentKey req.id) else none
  | _ => none

namespace World

variable {app : App} {w : World}

@[simp] theorem resolveIncident_keys (id note : String) :
    (w.resolveIncident id note).incidents.map (·.incidentKey) = w.incidents.map (·.incidentKey) := by
  simp only [resolveIncident, List.map_map]
  exact List.map_congr_left fun i _ => by by_cases h : i.id = id <;> simp [h]

theorem onAction_keys (action : WebhookAction) :
    (w.onAction app action).incidents.map (·.incidentKey) = w.incidents.map (·.incidentKey) := by
  unfold onAction
  split
  · rfl
  · split
    · split_ifs
      · exact resolveIncident_keys _ _
      · rfl
    · rfl

theorem openIncident_keys (req : Request) :
    (w.openIncident app req).incidents.map (·.incidentKey) =
      w.incidents.map (·.incidentKey) ++ [incidentKey req.id] := by
  unfold openIncident createIncident
  dsimp only
  split <;> simp

/-- **One step of the protocol opens only the incident its input names.** -/
theorem react_keys (i : Input) :
    (w.react app i).incidents.map (·.incidentKey) = w.incidents.map (·.incidentKey) ++ i.openedKey.toList := by
  rcases i with (action | ⟨type, req⟩) | u
  · simpa [react, serve, Input.openedKey] using onAction_keys action
  · cases type
    case put =>
      by_cases hp : req.state = .pending
      · simpa [react, serve, onEvent, Input.openedKey, hp] using openIncident_keys req
      · simp [react, serve, onEvent, Input.openedKey, hp]
    case delete =>
      simp only [react, serve, onEvent, Input.openedKey, Option.toList, List.append_nil]
      split
      · rfl
      · exact resolveIncident_keys _ _
    all_goals simp [react, serve, onEvent, Input.openedKey]
  · cases u <;> simp [react, apply, Input.openedKey]

/-- Along the protocol, the incidents keep their keys, and one is added for
each input that opens one. -/
theorem foldl_react_keys (inputs : List Input) :
    (inputs.foldl (World.react app) w).incidents.map (·.incidentKey) =
      w.incidents.map (·.incidentKey) ++ inputs.filterMap Input.openedKey := by
  induction inputs generalizing w with
  | nil => simp
  | cons i inputs ih =>
    rw [List.foldl_cons, ih, react_keys, List.filterMap_cons, List.append_assoc]
    cases i.openedKey <;> rfl

end World

/-- **One incident per pending put.**  In a serial run with no failing call,
with any changes by other parties in between, the bridge opens exactly one
incident for each put of a pending request, under that request's key and in
the order the puts came, and no other; the incidents that were there keep
their keys.  A pending request delivered twice gets two incidents. -/
theorem runSerial_incidentKeys (app : App) (w : World) (inputs : List Input) (n : Nat) :
    (runSerial app (Config.init w) (inputs.map (Input.serial (n + 5)))).world.incidents.map
        (·.incidentKey) =
      w.incidents.map (·.incidentKey) ++ inputs.filterMap Input.openedKey := by
  rw [(runSerial_react app n inputs (Config.settled_init w)).1]
  exact World.foldl_react_keys inputs

end AccessPagerduty
