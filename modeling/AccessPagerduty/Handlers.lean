/-
# `AccessPagerduty.Handlers` — the bridge's handlers, call by call

`App.onPagerdutyAction` (a webhook callback) and `App.onWatcherEvent` (an
access-request event) each make a short sequence of calls to two external
services: the Teleport auth server (`GetRequest`, `SetRequestState`,
`GetPluginData`, `UpdatePluginData`) and PagerDuty (`CreateIncident`,
`CreateIncidentNote`, `ManageIncidents`).  Every call is atomic on its
service, and nothing makes two calls atomic together: the webhook server and
the watcher run handlers concurrently, so the calls of different handlers
interleave.

A handler is therefore modelled as a state machine whose states are the
program points before each call (`Thread`), carrying the locals live there.
`Thread.call` is the call a point makes, with the arguments the Go code
builds; `Thread.resume` is the code between that call and the next one, run
on the call's answer.  The entry points (`onPagerdutyAction`,
`onWatcherEvent`, `onPendingRequest`, `onDeletedRequest`) run the code before
the first call.  `Bot.ResolveIncident` is two points (`resolveNote`,
`resolveManage`) shared by its two callers, as the function is.

The services are a `World`: the access requests, their plugin data, and the
incidents.  `World.answer` is what an honest service does with a call; a
scheduler may also make any call fail (`perform`), with any error and no
effect.  `Config` is a whole system — the world, the handlers started so far,
and the log of every call made — and `Config.step` takes one step of an
adversarial schedule (`Op`): a delivery starts a handler, an `advance` lets
one handler make its next call, and an `update` is another party changing the
backend.

What lives outside `src/` is taken as given: `EncodePluginData` and
`DecodePluginData` (another file of the package) and `time.Time.Format`, as
fields of `App`.
-/
import AccessPagerduty.IncidentKey
import AccessPagerduty.Template

namespace AccessPagerduty

/-! ## The calls and the services -/

/-- The calls the handlers make, with their arguments. -/
inductive Call where
  | getRequest (reqID : String)
  | setRequestState (reqID : String) (state : State)
  | getPluginData (reqID : String)
  /-- `UpdatePluginData(reqID, set, expect)`; `expect` is the compare-and-swap
  value, `nil` in this code. -/
  | updatePluginData (reqID : String) (set : PluginDataMap) (expect : Option PluginDataMap)
  | createIncident (fromEmail title incidentKey serviceID body : String)
  | createIncidentNote (incidentID user content : String)
  | manageIncidents (fromEmail incidentID status : String)
  deriving DecidableEq, Repr

/-- Whether a call changes a service: every call but the two reads. -/
def Call.changesState : Call → Bool
  | .getRequest _ | .getPluginData _ => false
  | _ => true

/-- What a successful call returns. -/
inductive Reply where
  | unit
  | request (req : Request)
  | pluginData (data : PluginDataMap)
  | incident (id : String)
  deriving DecidableEq, Repr

/-- A PagerDuty incident, with what the bridge sets on it. -/
structure Incident where
  id : String
  incidentKey : String
  status : String
  notes : List String
  deriving DecidableEq, Repr

/-- The state of both services. -/
structure World where
  requests : List Request
  /-- The bridge's plugin data, by request ID. -/
  pluginData : List (String × PluginDataMap)
  incidents : List Incident
  deriving DecidableEq, Repr

namespace World

/-- The request with an ID, if any. -/
def findRequest (w : World) (reqID : String) : Option Request :=
  w.requests.find? (·.id = reqID)

def getRequest (w : World) (reqID : String) : Except Error Request :=
  match w.findRequest reqID with
  | some req => .ok req
  | none => .error (.notFound "access request not found")

def setRequestState (w : World) (reqID : String) (state : State) : Except Error World :=
  match w.findRequest reqID with
  | some _ => .ok { w with requests := w.requests.map fun r => if r.id = reqID then { r with state } else r }
  | none => .error (.notFound "access request not found")

/-- `GetPluginData`: a request with no plugin data of this plugin gives `NotFound`. -/
def getPluginData (w : World) (reqID : String) : Except Error PluginDataMap :=
  match w.pluginData.lookup reqID with
  | some data => .ok data
  | none => .error (.notFound "plugin data not found")

/-- `UpdatePluginData`: the request must exist, and with an `expect` value
the stored data must equal it. -/
def updatePluginData (w : World) (reqID : String) (set : PluginDataMap)
    (expect : Option PluginDataMap) : Except Error World :=
  match w.findRequest reqID with
  | none => .error (.notFound "access request not found")
  | some _ =>
    if expect.all (w.pluginData.lookup reqID = some ·) then
      .ok { w with pluginData := (reqID, set) :: w.pluginData.filter (·.1 ≠ reqID) }
    else .error (.errorf "plugin data compare failed")

/-- `CreateIncident`: a new incident under a fresh ID. -/
def createIncident (w : World) (incidentKey : String) : String × World :=
  let id := freshID (w.incidents.map (·.id))
  (id, { w with incidents := w.incidents ++ [⟨id, incidentKey, "triggered", []⟩] })

/-- Change the incident with an ID, or `NotFound`. -/
def modifyIncident (w : World) (id : String) (f : Incident → Incident) : Except Error World :=
  if w.incidents.any (·.id = id) then
    .ok { w with incidents := w.incidents.map fun i => if i.id = id then f i else i }
  else .error (.notFound "incident not found")

def createIncidentNote (w : World) (id content : String) : Except Error World :=
  w.modifyIncident id fun i => { i with notes := i.notes ++ [content] }

def manageIncidents (w : World) (id status : String) : Except Error World :=
  w.modifyIncident id fun i => { i with status }

/-- What an honest service does with a call. -/
def answer (w : World) : Call → Except Error (Reply × World)
  | .getRequest reqID => (w.getRequest reqID).map fun req => (.request req, w)
  | .setRequestState reqID state => (w.setRequestState reqID state).map (.unit, ·)
  | .getPluginData reqID => (w.getPluginData reqID).map fun data => (.pluginData data, w)
  | .updatePluginData reqID set expect => (w.updatePluginData reqID set expect).map (.unit, ·)
  | .createIncident _ _ incidentKey _ _ =>
      let (id, w') := w.createIncident incidentKey
      .ok (.incident id, w')
  | .createIncidentNote id _ content => (w.createIncidentNote id content).map (.unit, ·)
  | .manageIncidents _ id status => (w.manageIncidents id status).map (.unit, ·)

/-! Frame lemmas: what each operation leaves alone. -/

theorem setRequestState_ok {w w' : World} {reqID : String} {state : State}
    (h : w.setRequestState reqID state = .ok w') :
    w' = { w with requests := w.requests.map fun r => if r.id = reqID then { r with state } else r } := by
  unfold setRequestState at h
  split at h <;> cases h
  rfl

theorem updatePluginData_ok {w w' : World} {reqID : String} {set : PluginDataMap}
    {expect : Option PluginDataMap} (h : w.updatePluginData reqID set expect = .ok w') :
    w' = { w with pluginData := (reqID, set) :: w.pluginData.filter (·.1 ≠ reqID) } := by
  unfold updatePluginData at h
  split at h
  · cases h
  · split_ifs at h
    cases h
    rfl

theorem modifyIncident_ok {w w' : World} {id : String} {f : Incident → Incident}
    (h : w.modifyIncident id f = .ok w') :
    w' = { w with incidents := w.incidents.map fun i => if i.id = id then f i else i } := by
  unfold modifyIncident at h
  split_ifs at h
  cases h
  rfl

/-- **What a call changes**: a read nothing, `SetRequestState` the requests,
`UpdatePluginData` the plugin data, and the PagerDuty calls the incidents. -/
theorem answer_frame {w : World} {c : Call} {y : Reply} {w' : World} (h : w.answer c = .ok (y, w')) :
    (w'.requests = w.requests ∨ ∃ reqID state, c = .setRequestState reqID state ∧
      w'.requests = w.requests.map fun r => if r.id = reqID then { r with state } else r) ∧
    (w'.pluginData = w.pluginData ∨ ∃ reqID set expect, c = .updatePluginData reqID set expect ∧
      w'.pluginData = (reqID, set) :: w.pluginData.filter (·.1 ≠ reqID)) := by
  cases c with
  | getRequest reqID =>
      obtain ⟨_, -, ⟨⟩⟩ := except_map_eq_ok h
      exact ⟨.inl rfl, .inl rfl⟩
  | setRequestState reqID state =>
      obtain ⟨_, ha, ⟨⟩⟩ := except_map_eq_ok h
      rw [setRequestState_ok ha]
      exact ⟨.inr ⟨reqID, state, rfl, rfl⟩, .inl rfl⟩
  | getPluginData reqID =>
      obtain ⟨_, -, ⟨⟩⟩ := except_map_eq_ok h
      exact ⟨.inl rfl, .inl rfl⟩
  | updatePluginData reqID set expect =>
      obtain ⟨_, ha, ⟨⟩⟩ := except_map_eq_ok h
      rw [updatePluginData_ok ha]
      exact ⟨.inl rfl, .inr ⟨reqID, set, expect, rfl, rfl⟩⟩
  | createIncident =>
      cases h
      exact ⟨.inl rfl, .inl rfl⟩
  | createIncidentNote id user content =>
      obtain ⟨_, ha, ⟨⟩⟩ := except_map_eq_ok h
      rw [modifyIncident_ok ha]
      exact ⟨.inl rfl, .inl rfl⟩
  | manageIncidents fromEmail id status =>
      obtain ⟨_, ha, ⟨⟩⟩ := except_map_eq_ok h
      rw [modifyIncident_ok ha]
      exact ⟨.inl rfl, .inl rfl⟩

end World

/-- One call: it fails with `fail` if the schedule says so, leaving the world
as it was; otherwise the service answers, and a refused call changes nothing. -/
def perform (fail : Option Error) (c : Call) (w : World) : Except Error Reply × World :=
  match fail with
  | some e => (.error e, w)
  | none =>
    match w.answer c with
    | .ok (r, w') => (.ok r, w')
    | .error e => (.error e, w)

/-! ## The handlers -/

/-- What the handlers use beyond their arguments: the bot, and the functions
defined outside `src/`. -/
structure App where
  bot : Bot
  encodePluginData : PluginData → PluginDataMap
  decodePluginData : PluginDataMap → PluginData
  timeFormat : Time → String → String

/-- A handler at a program point: the call it makes next, with the locals
live there; `done` when it has returned. -/
inductive Thread where
  /-- `onPagerdutyAction`, before `GetRequest(reqID)`. -/
  | actionGetRequest (action : WebhookAction) (reqID : String)
  /-- `onPagerdutyAction`, before `getPluginData(reqID)`. -/
  | actionGetPluginData (action : WebhookAction) (reqID : String) (req : Request)
  /-- `onPagerdutyAction`, before `SetRequestState(req.ID, reqState)`. -/
  | actionSetRequestState (reqID : String) (req : Request) (pdData : PagerdutyData)
      (reqState : State) (resolution : String)
  /-- `Bot.ResolveIncident`, before `CreateIncidentNote`. -/
  | resolveNote (reqID : String) (pdData : PagerdutyData) (status : String)
  /-- `Bot.ResolveIncident`, before `ManageIncidents`. -/
  | resolveManage (reqID : String) (pdData : PagerdutyData) (status : String)
  /-- `onPendingRequest`, inside `Bot.CreateIncident`, before `client.CreateIncident`. -/
  | pendingCreateIncident (reqID : String) (reqData : RequestData) (body : String)
  /-- `onPendingRequest`, before `setPluginData`. -/
  | pendingSetPluginData (reqID : String) (data : PluginData)
  /-- `onDeletedRequest`, before `getPluginData(reqID)`. -/
  | deletedGetPluginData (reqID : String)
  | done (result : Except Error Unit)
  deriving Repr

/-- The `switch action.Name` of `onPagerdutyAction`: the state to set and the
resolution to report. -/
def decision (name : String) : Option (State × String) :=
  if name = pdApproveAction then some (.approved, "approved")
  else if name = pdDenyAction then some (.denied, "denied")
  else none

/-- Go's `%q` on a string without special characters. -/
def quote (s : String) : String := "\"" ++ s ++ "\""

/-- `backend.OpType.String()`. -/
def OpType.name : OpType → String
  | .invalid => "Invalid"
  | .init => "Init"
  | .put => "Put"
  | .delete => "Delete"
  | .get => "Get"

/-- The call a handler makes at a program point. -/
def Thread.call (app : App) : Thread → Option Call
  | .actionGetRequest _ reqID => some (.getRequest reqID)
  | .actionGetPluginData _ reqID _ => some (.getPluginData reqID)
  | .actionSetRequestState _ req _ reqState _ => some (.setRequestState req.id reqState)
  | .resolveNote _ pdData status =>
      some (.createIncidentNote pdData.id app.bot.userEmail ("Access request has been " ++ status))
  | .resolveManage _ pdData _ => some (.manageIncidents app.bot.userEmail pdData.id "resolved")
  | .pendingCreateIncident reqID reqData body =>
      some (.createIncident app.bot.userEmail ("Access request from " ++ reqData.user)
        (incidentKey reqID) app.bot.serviceID body)
  | .pendingSetPluginData reqID data => some (.updatePluginData reqID (app.encodePluginData data) none)
  | .deletedGetPluginData reqID => some (.getPluginData reqID)
  | .done _ => none

/-- The code between a call and the next, run on the call's answer.  A reply
of another shape than the call's never comes (`World.answer`) and leaves the
handler where it is. -/
def Thread.resume (app : App) : Thread → Except Error Reply → Thread
  | .actionGetRequest _ _, .error e => .done (if e.isNotFound then .ok () else .error e)
  | .actionGetRequest action reqID, .ok (.request req) =>
      if req.state ≠ .pending then .done (.error (.errorf "cannot process not pending request"))
      else .actionGetPluginData action reqID req
  | .actionGetPluginData _ _ _, .error e => .done (.error e)
  | .actionGetPluginData action reqID req, .ok (.pluginData data) =>
      let pluginData := app.decodePluginData data
      if pluginData.pagerdutyData.id ≠ action.incidentID then
        .done (.error (.errorf "incident_id from request's plugin_data does not match"))
      else
        match decision action.name with
        | some (reqState, resolution) =>
            .actionSetRequestState reqID req pluginData.pagerdutyData reqState resolution
        | none => .done (.error (.badParameter ("unknown action: " ++ quote action.name)))
  | .actionSetRequestState _ _ _ _ _, .error e => .done (.error e)
  | .actionSetRequestState reqID _ pdData _ resolution, .ok _ => .resolveNote reqID pdData resolution
  | .resolveNote _ _ _, .error e => .done (.error e)
  | .resolveNote reqID pdData status, .ok _ => .resolveManage reqID pdData status
  | .resolveManage _ _ _, .error e => .done (.error e)
  | .resolveManage _ _ _, .ok _ => .done (.ok ())
  | .pendingCreateIncident _ _ _, .error e => .done (.error e)
  | .pendingCreateIncident reqID reqData _, .ok (.incident id) =>
      .pendingSetPluginData reqID ⟨reqData, ⟨id⟩⟩
  | .pendingSetPluginData _ _, .error e => .done (.error e)
  | .pendingSetPluginData _ _, .ok _ => .done (.ok ())
  | .deletedGetPluginData _, .error e => .done (if e.isNotFound then .ok () else .error e)
  | .deletedGetPluginData reqID, .ok (.pluginData data) =>
      .resolveNote reqID (app.decodePluginData data).pagerdutyData "expired"
  | t, _ => t

/-- `App.onPagerdutyAction` up to its first call. -/
def onPagerdutyAction (action : WebhookAction) : Thread :=
  if action.event ≠ "incident.custom" then .done (.ok ())
  else
    match incidentKeyRequestID action.incidentKey with
    | none => .done (.ok ())
    | some reqID => .actionGetRequest action reqID

/-- `App.onPendingRequest` up to its first call; the body is built inside
`Bot.CreateIncident` before the client is called. -/
def onPendingRequest (app : App) (req : Request) : Thread :=
  let reqData : RequestData := ⟨req.user, req.roles, req.created⟩
  match buildIncidentBody app.timeFormat req.id reqData with
  | .error e => .done (.error e)
  | .ok body => .pendingCreateIncident req.id reqData body

/-- `App.onDeletedRequest` up to its first call. -/
def onDeletedRequest (req : Request) : Thread := .deletedGetPluginData req.id

/-- `App.onWatcherEvent` up to its first call. -/
def onWatcherEvent (app : App) (event : Event) : Thread :=
  match event.type with
  | .put => if event.request.state.isPending then onPendingRequest app event.request else .done (.ok ())
  | .delete => onDeletedRequest event.request
  | op => .done (.error (.badParameter ("unexpected event operation " ++ op.name)))

/-- One call of a handler: what it asked, what came back, where it is
next, and the world after. -/
def Thread.step (app : App) (fail : Option Error) (w : World) (t : Thread) :
    Option (Call × Except Error Reply × Thread × World) :=
  (t.call app).map fun c =>
    let (r, w') := perform fail c w
    (c, r, t.resume app r, w')

/-! ## The system -/

/-- What starts a handler. -/
inductive Trigger where
  | action (action : WebhookAction)
  | event (event : Event)
  deriving DecidableEq, Repr

/-- The handler a trigger starts. -/
def Trigger.start (app : App) : Trigger → Thread
  | .action a => onPagerdutyAction a
  | .event e => onWatcherEvent app e

/-- A change to the backend by another party. -/
inductive Update where
  /-- A request is created, or changed (for instance reviewed) by someone else. -/
  | putRequest (req : Request)
  /-- A request expires, and goes with its plugin data. -/
  | deleteRequest (reqID : String)
  deriving DecidableEq, Repr

def World.apply (w : World) : Update → World
  | .putRequest req => { w with requests := req :: w.requests.filter (·.id ≠ req.id) }
  | .deleteRequest reqID =>
      { w with requests := w.requests.filter (·.id ≠ reqID),
               pluginData := w.pluginData.filter (·.1 ≠ reqID) }

/-- One call in the log: the handler that made it (its index and trigger),
the call, its answer, and the requests as they stood when it was made. -/
structure Entry where
  thread : Nat
  trigger : Trigger
  call : Call
  result : Except Error Reply
  requests : List Request

/-- The whole system: the services, every handler started so far with its
trigger (a finished one stays, so indices are stable), and the log. -/
structure Config where
  world : World
  handlers : List (Trigger × Thread)
  log : List Entry

/-- The system before any delivery. -/
def Config.init (w : World) : Config := ⟨w, [], []⟩

/-- One step of a schedule. -/
inductive Op where
  /-- The webhook server or the watcher hands a trigger to a new handler. -/
  | deliver (trigger : Trigger)
  /-- Handler `i` makes its next call, which fails with `fail` if given. -/
  | advance (i : Nat) (fail : Option Error)
  | update (u : Update)

def Config.step (app : App) (c : Config) : Op → Config
  | .deliver t => { c with handlers := c.handlers ++ [(t, t.start app)] }
  | .advance i fail =>
      match c.handlers[i]? with
      | none => c
      | some (t, th) =>
        match th.step app fail c.world with
        | none => c
        | some (call, r, th', w') =>
            ⟨w', c.handlers.set i (t, th'), c.log ++ [⟨i, t, call, r, c.world.requests⟩]⟩
  | .update u => { c with world := c.world.apply u }

/-- A schedule run from a system. -/
def run (app : App) (c : Config) (ops : List Op) : Config := ops.foldl (Config.step app) c

@[simp] theorem run_nil (app : App) (c : Config) : run app c [] = c := rfl

@[simp] theorem run_cons (app : App) (c : Config) (op : Op) (ops : List Op) :
    run app c (op :: ops) = run app (c.step app op) ops := rfl

theorem run_append (app : App) (c : Config) (ops ops' : List Op) :
    run app c (ops ++ ops') = run app (run app c ops) ops' :=
  List.foldl_append _ _ _ _

/-! ## What a step can do

Every invariant below is proved from these two lemmas rather than from the
code of `resume`: a handler either returns, or stays where it is (on a reply
of another shape), or moves along one of six edges of its control flow, each
taken on a successful call and guarded by the checks between the calls. -/

/-- The edges of the handlers' control flow that lead to another call. -/
inductive Thread.Advances (app : App) : Thread → Except Error Reply → Thread → Prop
  | getRequest {action : WebhookAction} {reqID : String} {req : Request}
      (hpending : req.state = .pending) :
      Advances app (.actionGetRequest action reqID) (.ok (.request req))
        (.actionGetPluginData action reqID req)
  | getPluginData {action : WebhookAction} {reqID : String} {req : Request} {data : PluginDataMap}
      {reqState : State} {resolution : String}
      (hincident : (app.decodePluginData data).pagerdutyData.id = action.incidentID)
      (hdecision : decision action.name = some (reqState, resolution)) :
      Advances app (.actionGetPluginData action reqID req) (.ok (.pluginData data))
        (.actionSetRequestState reqID req (app.decodePluginData data).pagerdutyData reqState resolution)
  | setRequestState {reqID : String} {req : Request} {pdData : PagerdutyData} {reqState : State}
      {resolution : String} {y : Reply} :
      Advances app (.actionSetRequestState reqID req pdData reqState resolution) (.ok y)
        (.resolveNote reqID pdData resolution)
  | note {reqID : String} {pdData : PagerdutyData} {status : String} {y : Reply} :
      Advances app (.resolveNote reqID pdData status) (.ok y) (.resolveManage reqID pdData status)
  | createIncident {reqID : String} {reqData : RequestData} {body id : String} :
      Advances app (.pendingCreateIncident reqID reqData body) (.ok (.incident id))
        (.pendingSetPluginData reqID ⟨reqData, ⟨id⟩⟩)
  | deletedGetPluginData {reqID : String} {data : PluginDataMap} :
      Advances app (.deletedGetPluginData reqID) (.ok (.pluginData data))
        (.resolveNote reqID (app.decodePluginData data).pagerdutyData "expired")

/-- **What `resume` can do**: return, stay, or advance along an edge. -/
theorem Thread.resume_cases (app : App) (t : Thread) (r : Except Error Reply) :
    (∃ res, t.resume app r = .done res) ∨ t.resume app r = t ∨ Advances app t r (t.resume app r) := by
  rcases t with ⟨action, reqID⟩ | ⟨action, reqID, req₀⟩ | _ | _ | _ | _ | _ | _ | res <;>
    rcases r with e | (_ | req | data | id)
  all_goals first
    | exact .inl ⟨_, rfl⟩
    | exact .inr (.inl rfl)
    | exact .inr (.inr .setRequestState)
    | exact .inr (.inr .note)
    | exact .inr (.inr .createIncident)
    | exact .inr (.inr .deletedGetPluginData)
    | skip
  · by_cases h : req.state = .pending
    · simp only [resume, h, ne_eq, not_true_eq_false, if_false]
      exact .inr (.inr (.getRequest h))
    · simp [resume, h]
  · by_cases hinc : (app.decodePluginData data).pagerdutyData.id = action.incidentID
    · rcases hdec : decision action.name with _ | ⟨reqState, resolution⟩
      · simp [resume, hinc, hdec]
      · simp only [resume, hinc, hdec, ne_eq, not_true_eq_false, if_false]
        exact .inr (.inr (.getPluginData hinc hdec))
    · simp [resume, hinc]

/-- **What a step can do**: deliver a handler at the next index, move one
handler over one call, apply another party's update, or nothing. -/
theorem Config.step_cases (app : App) (c : Config) (op : Op) :
    (∃ t, c.step app op = { c with handlers := c.handlers ++ [(t, t.start app)] }) ∨
    (∃ i t th call r th' w', c.handlers[i]? = some (t, th) ∧ th.step app (match op with
        | .advance _ fail => fail | _ => none) c.world = some (call, r, th', w') ∧
      c.step app op = ⟨w', c.handlers.set i (t, th'), c.log ++ [⟨i, t, call, r, c.world.requests⟩]⟩) ∨
    (∃ u, c.step app op = { c with world := c.world.apply u }) ∨
    c.step app op = c := by
  rcases op with t | ⟨i, fail⟩ | u
  · exact .inl ⟨t, rfl⟩
  · rcases hi : c.handlers[i]? with _ | ⟨t, th⟩
    · exact .inr (.inr (.inr (by simp [step, hi])))
    · rcases hs : th.step app fail c.world with _ | ⟨call, r, th', w'⟩
      · exact .inr (.inr (.inr (by simp [step, hi, hs])))
      · exact .inr (.inl ⟨i, t, th, call, r, th', w', hi, hs, by simp [step, hi, hs]⟩)
  · exact .inr (.inr (.inl ⟨u, rfl⟩))

theorem Thread.step_eq_some {app : App} {fail : Option Error} {w : World} {th : Thread}
    {call : Call} {r : Except Error Reply} {th' : Thread} {w' : World}
    (h : th.step app fail w = some (call, r, th', w')) :
    th.call app = some call ∧ perform fail call w = (r, w') ∧ th' = th.resume app r := by
  unfold step at h
  rcases hc : th.call app with _ | c <;> simp only [hc, Option.map_none', Option.map_some',
    Option.some.injEq, reduceCtorEq] at h
  rcases hp : perform fail c w with ⟨r₀, w₀⟩
  simp only [hp, Prod.mk.injEq] at h
  obtain ⟨rfl, rfl, rfl, rfl⟩ := h
  exact ⟨rfl, hp, rfl⟩

end AccessPagerduty
