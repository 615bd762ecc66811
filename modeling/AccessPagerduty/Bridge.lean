/-
# `AccessPagerduty.Bridge` — what the bridge's calls are tied to, in every run

The plugin data is the only link between a request and its incident, and the
webhook path trusts it: an action decides a request only when the request's
plugin data names the action's incident.  This module proves that the link
is sound over every run of the system — any interleaving of handlers, any
events and callbacks (forged ones included), any failing calls, any changes
by other parties — given only that `DecodePluginData` gives back the incident
ID `EncodePluginData` was given.

## The results

* `holds_run`: an invariant made of a property of each logged call, of each
  handler at its program point, and of the world, holds along every run when
  each step keeps it.  Both invariants of the bridge (`Traced` here, and
  `Guarded` in `Race`) are instances.
* `traced_preserved`: one step keeps `Traced`.
* `bridge_traced`: in every reachable state, incidents are opened only for
  pending requests of put events, the stored plugin data names an incident
  opened for its request, and every `SetRequestState` and every call of
  `ResolveIncident` is tied to an incident opened for the request it acts for.
-/
import AccessPagerduty.Action

namespace AccessPagerduty

/-! ## Invariants of runs

An invariant of the system says something of each logged call (judged on
the log up to it), of each handler at its point, and of the world, each
relative to the log.  A logged call stays good as the log grows, and a
handler's point survives the calls of the others; its own calls are the
handler's business.  A step then has three things to keep: a new handler
starts well, an update of another party keeps the world, and a call keeps
its handler, logs a good entry, and leaves a good world. -/

section Invariant
variable (app : App) (EntryOk : List Entry → Entry → Prop)
  (ThreadOk : List Entry → Nat → Trigger → Thread → Prop) (WorldOk : List Entry → World → Prop)

/-- The invariant made of the three parts.  Each logged call is judged on the
log up to it, so that what it relies on was logged before it; and every
logged call is of a handler started so far. -/
structure Holds (c : Config) : Prop where
  log : ∀ pre e post, c.log = pre ++ e :: post → EntryOk (pre ++ [e]) e
  handlers : ∀ i t th, c.handlers[i]? = some (t, th) → ThreadOk c.log i t th
  world : WorldOk c.log c.world
  threads : ∀ e ∈ c.log, e.thread < c.handlers.length

/-- What one step must keep.  A handler's point needs to survive only calls of
other handlers, and a new handler starts on a log with none of its own. -/
structure Preserved : Prop where
  entry_mono : ∀ log x e, EntryOk log e → EntryOk (log ++ [x]) e
  thread_mono : ∀ log x i t th, x.thread ≠ i → ThreadOk log i t th → ThreadOk (log ++ [x]) i t th
  start : ∀ log i t, (∀ e ∈ log, e.thread ≠ i) → ThreadOk log i t (t.start app)
  update : ∀ log w u, WorldOk log w → WorldOk log (w.apply u)
  advance : ∀ c i t th fail call r th' w', Holds EntryOk ThreadOk WorldOk c →
    c.handlers[i]? = some (t, th) → th.step app fail c.world = some (call, r, th', w') →
    EntryOk (c.log ++ [⟨i, t, call, r, c.world.requests⟩]) ⟨i, t, call, r, c.world.requests⟩ ∧
      ThreadOk (c.log ++ [⟨i, t, call, r, c.world.requests⟩]) i t th' ∧
      WorldOk (c.log ++ [⟨i, t, call, r, c.world.requests⟩]) w'

variable {app EntryOk ThreadOk WorldOk}

theorem getElem?_append_singleton {α : Type} {l : List α} {x y : α} {i : Nat}
    (h : (l ++ [x])[i]? = some y) : l[i]? = some y ∨ (i = l.length ∧ y = x) := by
  rcases lt_trichotomy i l.length with hi | rfl | hi
  · rw [List.getElem?_append_left hi] at h
    exact .inl h
  · rw [List.getElem?_concat_length] at h
    exact .inr ⟨rfl, (Option.some.inj h).symm⟩
  · rw [List.getElem?_eq_none (by simp; omega)] at h
    cases h

theorem getElem?_set_of_eq_some {α : Type} {l : List α} {i j : Nat} {x y : α}
    (h : (l.set i x)[j]? = some y) : (j = i ∧ y = x) ∨ (j ≠ i ∧ l[j]? = some y) := by
  rw [List.getElem?_set] at h
  by_cases hij : i = j
  · subst hij
    split_ifs at h
    · exact .inl ⟨rfl, (Option.some.inj h).symm⟩
    · simp_all
  · exact .inr ⟨Ne.symm hij, by simpa [hij] using h⟩

/-- Where an entry of a log with one more call sits: it is the new call, or
it sits as it did. -/
theorem eq_append_cons_of_append_singleton {α : Type} {l pre post : List α} {x e : α}
    (h : l ++ [x] = pre ++ e :: post) :
    (pre = l ∧ e = x ∧ post = []) ∨ ∃ post', post = post' ++ [x] ∧ l = pre ++ e :: post' := by
  rcases List.eq_nil_or_concat post with rfl | ⟨post', y, rfl⟩
  · obtain ⟨rfl, hx⟩ := List.append_inj' h rfl
    exact .inl ⟨rfl, (List.singleton_inj.mp hx).symm, rfl⟩
  · rw [List.concat_eq_append, ← List.cons_append, ← List.append_assoc] at h
    obtain ⟨rfl, hx⟩ := List.append_inj' h rfl
    exact .inr ⟨post', by rw [List.concat_eq_append, List.singleton_inj.mp hx], rfl⟩

/-- **One step keeps the invariant.** -/
theorem Holds.step (hp : Preserved app EntryOk ThreadOk WorldOk) {c : Config}
    (h : Holds EntryOk ThreadOk WorldOk c) (op : Op) : Holds EntryOk ThreadOk WorldOk (c.step app op) := by
  rcases Config.step_cases app c op with ⟨t, he⟩ | ⟨i, t, th, call, r, th', w', hi, hs, he⟩ | ⟨u, he⟩ | he <;>
    rw [he]
  · refine ⟨h.log, fun j t' th'' hj => ?_, h.world, fun e he => ?_⟩
    · rcases getElem?_append_singleton hj with hj | ⟨hjl, hj⟩
      · exact h.handlers j t' th'' hj
      · cases hj
        exact hp.start _ _ _ fun e he => hjl ▸ (h.threads e he).ne
    · rw [List.length_append]
      exact Nat.lt_succ_of_lt (h.threads e he)
  · obtain ⟨hentry, hthread, hworld⟩ := hp.advance c i t th _ call r th' w' h hi hs
    have hlt : i < c.handlers.length := (List.getElem?_eq_some_iff.mp hi).1
    refine ⟨fun pre e post hlog => ?_, fun j t' th'' hj => ?_, hworld, fun e he => ?_⟩
    · rcases eq_append_cons_of_append_singleton hlog with ⟨rfl, rfl, -⟩ | ⟨post', -, hlog⟩
      · exact hentry
      · exact h.log pre e post' hlog
    · rcases getElem?_set_of_eq_some hj with ⟨hji, hj'⟩ | ⟨hji, hj'⟩
      · obtain ⟨rfl, rfl⟩ := Prod.mk.inj_iff.mp hj'
        subst hji
        exact hthread
      · exact hp.thread_mono _ _ _ _ _ (Ne.symm hji) (h.handlers j t' th'' hj')
    · rw [List.length_set]
      rcases List.mem_append.mp he with he | he
      · exact h.threads e he
      · rw [List.mem_singleton.mp he]
        exact hlt
  · exact ⟨h.log, h.handlers, hp.update _ _ u h.world, h.threads⟩
  · exact h

/-- **Every run keeps the invariant.** -/
theorem holds_run (hp : Preserved app EntryOk ThreadOk WorldOk) {c : Config}
    (h : Holds EntryOk ThreadOk WorldOk c) (ops : List Op) :
    Holds EntryOk ThreadOk WorldOk (run app c ops) := by
  induction ops generalizing c with
  | nil => exact h
  | cons op ops ih => exact ih (h.step hp op)

theorem holds_init {w : World} (hworld : WorldOk [] w) : Holds EntryOk ThreadOk WorldOk (Config.init w) :=
  ⟨fun _ _ _ he => (by simp [Config.init] at he), fun _ _ _ h => (by simp [Config.init] at h), hworld,
    fun _ he => (by cases he)⟩

/-- Each logged call, judged on the whole log. -/
theorem Holds.entry (hp : Preserved app EntryOk ThreadOk WorldOk) {c : Config}
    (h : Holds EntryOk ThreadOk WorldOk c) {e : Entry} (he : e ∈ c.log) : EntryOk c.log e := by
  obtain ⟨pre, post, hlog⟩ := List.append_of_mem he
  have hmono : ∀ more, EntryOk (pre ++ [e] ++ more) e := by
    intro more
    induction more using List.reverseRecOn with
    | nil => simpa using h.log pre e post hlog
    | append_singleton more x ih => simpa using hp.entry_mono _ x e ih
  simpa [hlog] using hmono post

end Invariant

/-! ## The incident behind every call -/

/-- The key of the incident a call opens. -/
def Call.openedKey : Call → Option String
  | .createIncident _ _ key _ _ => some key
  | _ => none

/-- The incident a call of `Bot.ResolveIncident` acts on. -/
def Call.resolvedIncident : Call → Option String
  | .createIncidentNote id _ _ => some id
  | .manageIncidents _ id _ => some id
  | _ => none

/-- The request a trigger is about: the one an action's key names, or the
event's. -/
def Trigger.requestID : Trigger → Option String
  | .action a => incidentKeyRequestID a.incidentKey
  | .event e => some e.request.id

/-- The bridge opened incident `id` for request `reqID`: a `CreateIncident`
under the request's key answered `id`. -/
def OpenedFor (log : List Entry) (reqID id : String) : Prop :=
  ∃ e ∈ log, e.call.openedKey = some (incidentKey reqID) ∧ e.result = .ok (.incident id)

theorem OpenedFor.append {log : List Entry} {reqID id : String} (h : OpenedFor log reqID id)
    (more : List Entry) : OpenedFor (log ++ more) reqID id :=
  let ⟨e, he, hk, hr⟩ := h
  ⟨e, List.mem_append_left _ he, hk, hr⟩

/-- What the log says of one call: an opened incident is for a pending
request of a put event; a decision comes from an action whose incident was
opened for the request; a resolution acts on an incident opened for the
request of its trigger. -/
structure EntryTraced (log : List Entry) (e : Entry) : Prop where
  opened : ∀ key, e.call.openedKey = some key →
    ∃ req, e.trigger = .event ⟨.put, req⟩ ∧ req.state = .pending ∧ key = incidentKey req.id
  decided : ∀ reqID reqState, e.call = .setRequestState reqID reqState →
    ∃ action, e.trigger = .action action ∧ incidentKeyRequestID action.incidentKey = some reqID ∧
      OpenedFor log reqID action.incidentID
  resolved : ∀ id, e.call.resolvedIncident = some id →
    ∃ reqID, e.trigger.requestID = some reqID ∧ OpenedFor log reqID id

/-- What a handler at a point holds about its request and incident. -/
def ThreadTraced (log : List Entry) (trigger : Trigger) : Thread → Prop
  | .actionGetRequest action reqID =>
      trigger = .action action ∧ incidentKeyRequestID action.incidentKey = some reqID
  | .actionGetPluginData action reqID req =>
      trigger = .action action ∧ incidentKeyRequestID action.incidentKey = some reqID ∧ req.id = reqID
  | .actionSetRequestState reqID req pdData _ _ =>
      req.id = reqID ∧ ∃ action, trigger = .action action ∧
        incidentKeyRequestID action.incidentKey = some reqID ∧ action.incidentID = pdData.id ∧
        OpenedFor log reqID pdData.id
  | .resolveNote reqID pdData _ | .resolveManage reqID pdData _ =>
      trigger.requestID = some reqID ∧ OpenedFor log reqID pdData.id
  | .pendingCreateIncident reqID _ _ =>
      ∃ req, trigger = .event ⟨.put, req⟩ ∧ req.state = .pending ∧ reqID = req.id
  | .pendingSetPluginData reqID data => OpenedFor log reqID data.pagerdutyData.id
  | .deletedGetPluginData reqID => ∃ req, trigger = .event ⟨.delete, req⟩ ∧ req.id = reqID
  | .done _ => True

/-- Which point makes which call: the three kinds of call the invariants
speak of each come from one or two points. -/
theorem call_openedKey {app : App} {th : Thread} {c : Call} {key : String}
    (h : th.call app = some c) (hk : c.openedKey = some key) :
    ∃ reqID reqData body, th = .pendingCreateIncident reqID reqData body ∧ key = incidentKey reqID := by
  cases th <;> simp only [Thread.call, Option.some.injEq, reduceCtorEq] at h <;> subst h <;>
    simp only [Call.openedKey, reduceCtorEq, Option.some.injEq] at hk
  exact ⟨_, _, _, rfl, hk.symm⟩

theorem call_setRequestState {app : App} {th : Thread} {reqID : String} {state : State}
    (h : th.call app = some (.setRequestState reqID state)) :
    ∃ reqID' req pdData resolution, th = .actionSetRequestState reqID' req pdData state resolution ∧
      req.id = reqID := by
  cases th <;> simp only [Thread.call, Option.some.injEq, reduceCtorEq, Call.setRequestState.injEq] at h
  exact ⟨_, _, _, _, by rw [h.2], h.1⟩

theorem call_resolvedIncident {app : App} {th : Thread} {c : Call} {id : String}
    (h : th.call app = some c) (hid : c.resolvedIncident = some id) :
    ∃ reqID pdData status, (th = .resolveNote reqID pdData status ∨ th = .resolveManage reqID pdData status) ∧
      id = pdData.id := by
  cases th <;> simp only [Thread.call, Option.some.injEq, reduceCtorEq] at h <;> subst h <;>
    simp only [Call.resolvedIncident, reduceCtorEq, Option.some.injEq] at hid
  · exact ⟨_, _, _, .inl rfl, hid.symm⟩
  · exact ⟨_, _, _, .inr rfl, hid.symm⟩

/-- The stored plugin data names an incident opened for its request. -/
def WorldTraced (app : App) (log : List Entry) (w : World) : Prop :=
  ∀ reqID data, w.pluginData.lookup reqID = some data →
    OpenedFor log reqID (app.decodePluginData data).pagerdutyData.id

theorem threadTraced_append {log : List Entry} {trigger : Trigger} {th : Thread}
    (h : ThreadTraced log trigger th) (more : List Entry) : ThreadTraced (log ++ more) trigger th := by
  cases th <;> simp only [ThreadTraced] at h ⊢
  all_goals first
    | exact h
    | exact h.append more
    | exact ⟨h.1, h.2.append more⟩
    | exact ⟨h.1, let ⟨a, h₁, h₂, h₃, h₄⟩ := h.2; ⟨a, h₁, h₂, h₃, h₄.append more⟩⟩

theorem threadTraced_start (log : List Entry) (app : App) (trigger : Trigger) :
    ThreadTraced log trigger (trigger.start app) := by
  rcases trigger with action | ⟨_ | _ | _ | _ | _, req⟩ <;>
    simp only [Trigger.start, onPagerdutyAction, onWatcherEvent, onDeletedRequest, onPendingRequest]
  · split_ifs
    · trivial
    · split <;> simp_all [ThreadTraced]
  all_goals try trivial
  · split_ifs with hp
    · split
      · trivial
      · exact ⟨req, rfl, by simpa using hp, rfl⟩
    · trivial
  · exact ⟨req, rfl, rfl⟩

/-! ## The plugin data a call leaves -/

theorem lookup_cons_eq {k k' : String} {v : PluginDataMap} {l : List (String × PluginDataMap)} :
    ((k, v) :: l).lookup k' = if k' = k then some v else l.lookup k' := by
  by_cases h : k' = k
  · subst h
    simp [List.lookup_cons]
  · simp [List.lookup_cons, beq_eq_false_iff_ne.mpr h, h]

theorem lookup_filter_ne {l : List (String × PluginDataMap)} {k k' : String} :
    (l.filter (·.1 ≠ k)).lookup k' = if k' = k then none else l.lookup k' := by
  induction l with
  | nil => split_ifs <;> rfl
  | cons p l ih =>
      obtain ⟨k₀, v⟩ := p
      by_cases h₀ : k₀ = k
      · subst h₀
        rw [List.filter_cons_of_neg (by simp), ih, lookup_cons_eq]
        split_ifs <;> simp_all
      · rw [List.filter_cons_of_pos (by simpa using h₀), lookup_cons_eq, lookup_cons_eq, ih]
        split_ifs <;> simp_all

theorem World.getPluginData_ok {w : World} {reqID : String} {data : PluginDataMap}
    (h : w.getPluginData reqID = .ok data) : w.pluginData.lookup reqID = some data := by
  unfold getPluginData at h
  split at h <;> simp_all

theorem worldTraced_apply {app : App} {log : List Entry} {w : World} (h : WorldTraced app log w)
    (u : Update) : WorldTraced app log (w.apply u) := by
  intro reqID data hl
  cases u with
  | putRequest req => exact h reqID data hl
  | deleteRequest r =>
      simp only [World.apply, lookup_filter_ne] at hl
      split_ifs at hl
      exact h reqID data hl

/-! ## One step keeps `Traced` -/

/-- A call of a handler at a point is logged with what its point holds. -/
theorem entryTraced_call {app : App} {log : List Entry} {trigger : Trigger} {th : Thread}
    {call : Call} (h : ThreadTraced log trigger th) (hcall : th.call app = some call) (i : Nat)
    (r : Except Error Reply) (reqs : List Request) (more : List Entry) :
    EntryTraced (log ++ more) ⟨i, trigger, call, r, reqs⟩ := by
  refine ⟨fun key (hk : call.openedKey = _) => ?_, fun reqID s (hs : call = _) => ?_,
    fun id (hid : call.resolvedIncident = _) => ?_⟩
  · obtain ⟨reqID, _, _, rfl, rfl⟩ := call_openedKey hcall hk
    obtain ⟨req, ht, hp, rfl⟩ := h
    exact ⟨req, ht, hp, rfl⟩
  · subst hs
    obtain ⟨reqID', req, pdData, res, rfl, rfl⟩ := call_setRequestState hcall
    obtain ⟨rfl, action, ht, hk, hinc, hop⟩ := h
    exact ⟨action, ht, hk, hinc ▸ hop.append more⟩
  · obtain ⟨reqID, pdData, status, hth | hth, rfl⟩ := call_resolvedIncident hcall hid <;> subst hth <;>
      exact ⟨reqID, h.1, h.2.append more⟩

/-- A handler that moves on holds, at its next point, what that point needs. -/
theorem threadTraced_resume {app : App} {log : List Entry} {w : World} {trigger : Trigger}
    {th : Thread} {call : Call} {fail : Option Error} {r : Except Error Reply} {w' : World}
    (hw : WorldTraced app log w) (h : ThreadTraced log trigger th) (hcall : th.call app = some call)
    (hp : perform fail call w = (r, w')) (i : Nat) (reqs : List Request) :
    ThreadTraced (log ++ [⟨i, trigger, call, r, reqs⟩]) trigger (th.resume app r) := by
  rcases Thread.resume_cases app th r with ⟨res, hr⟩ | hr | hr
  · rw [hr]; trivial
  · rw [hr]; exact threadTraced_append h _
  generalize th.resume app r = th' at hr
  cases hr with
  | getRequest hpending =>
      cases hcall
      obtain ⟨req, ⟨⟩, -, hid, -⟩ := perform_getRequest hp
      exact ⟨h.1, h.2, hid⟩
  | getPluginData hincident hdecision =>
      cases hcall
      obtain ⟨data, ⟨⟩, hget, -⟩ := perform_getPluginData hp
      obtain ⟨ht, hk, hid⟩ := h
      exact ⟨hid, _, ht, hk, hincident.symm, (hw _ _ (World.getPluginData_ok hget)).append _⟩
  | setRequestState =>
      obtain ⟨-, action, ht, hk, -, hop⟩ := h
      exact ⟨by rw [ht]; exact hk, hop.append _⟩
  | note => exact ⟨h.1, h.2.append _⟩
  | createIncident =>
      cases hcall
      exact ⟨_, List.mem_append_right _ (List.mem_singleton_self _), rfl, rfl⟩
  | deletedGetPluginData =>
      cases hcall
      obtain ⟨data, ⟨⟩, hget, -⟩ := perform_getPluginData hp
      obtain ⟨req, ht, hid⟩ := h
      exact ⟨by rw [ht, ← hid]; rfl, (hw _ _ (World.getPluginData_ok hget)).append _⟩

/-- The plugin data after a call still names incidents opened for their
requests: only `setPluginData` writes it, with the incident its handler just
opened. -/
theorem worldTraced_perform {app : App}
    (hcodec : ∀ d, (app.decodePluginData (app.encodePluginData d)).pagerdutyData = d.pagerdutyData)
    {log : List Entry} {w : World} {trigger : Trigger} {th : Thread} {call : Call}
    {fail : Option Error} {r : Except Error Reply} {w' : World}
    (hw : WorldTraced app log w) (h : ThreadTraced log trigger th) (hcall : th.call app = some call)
    (hp : perform fail call w = (r, w')) (more : List Entry) : WorldTraced app (log ++ more) w' := by
  intro reqID data hl
  rcases r with e | y
  · rw [perform_error hp] at hl
    exact (hw _ _ hl).append more
  obtain ⟨-, ha⟩ := perform_ok hp
  rcases (World.answer_frame ha).2 with hpd | ⟨reqID', set, expect, rfl, hpd⟩
  · rw [hpd] at hl
    exact (hw _ _ hl).append more
  cases th <;> simp only [Thread.call, Option.some.injEq, reduceCtorEq, Call.updatePluginData.injEq] at hcall
  obtain ⟨rfl, rfl, -⟩ := hcall
  rw [hpd, lookup_cons_eq, lookup_filter_ne] at hl
  split_ifs at hl with h₁
  · cases hl
    subst h₁
    rw [hcodec]
    exact h.append more
  · exact (hw _ _ hl).append more

theorem EntryTraced.append {log : List Entry} {e : Entry} (h : EntryTraced log e) (more : List Entry) :
    EntryTraced (log ++ more) e :=
  ⟨h.opened, fun reqID s hs => (h.decided reqID s hs).imp fun _ ⟨h₁, h₂, h₃⟩ => ⟨h₁, h₂, h₃.append more⟩,
    fun id hid => (h.resolved id hid).imp fun _ ⟨h₁, h₂⟩ => ⟨h₁, h₂.append more⟩⟩

/-- **One step keeps `Traced`**, when the codec keeps the incident ID. -/
theorem traced_preserved (app : App)
    (hcodec : ∀ d, (app.decodePluginData (app.encodePluginData d)).pagerdutyData = d.pagerdutyData) :
    Preserved app EntryTraced (fun log _ => ThreadTraced log) (WorldTraced app) where
  entry_mono _ _ _ h := h.append _
  thread_mono _ _ _ _ _ _ h := threadTraced_append h _
  start log _ t _ := threadTraced_start log app t
  update _ _ u h := worldTraced_apply h u
  advance c i t th _ call r _ _ h hi hs := by
    obtain ⟨hcall, hp, rfl⟩ := Thread.step_eq_some hs
    have hth := h.handlers i t th hi
    exact ⟨entryTraced_call hth hcall i r _ _, threadTraced_resume h.world hth hcall hp i _,
      worldTraced_perform hcodec h.world hth hcall hp _⟩

/-! ## The bridge's calls are tied to the incidents it opened -/

/-- **Every call of the bridge is tied to an incident it opened for the
request it acts for.**  From a start with no plugin data, along any schedule
of deliveries, interleaved calls, failures and updates by other parties, and
given that `DecodePluginData` gives back the incident ID `EncodePluginData`
was given: an incident is opened only for the pending request of a put event,
under that request's key; the plugin data stored for a request names an
incident opened for it; every `SetRequestState(reqID, _)` comes from an
action whose key names `reqID` and whose incident was opened for `reqID`; and
every call of `ResolveIncident` acts on an incident opened for the request of
its trigger. -/
theorem bridge_traced (app : App)
    (hcodec : ∀ d, (app.decodePluginData (app.encodePluginData d)).pagerdutyData = d.pagerdutyData)
    (w : World) (hw : w.pluginData = []) (ops : List Op) :
    let c := run app (Config.init w) ops
    (∀ e ∈ c.log, ∀ key, e.call.openedKey = some key →
      ∃ req, e.trigger = .event ⟨.put, req⟩ ∧ req.state = .pending ∧ key = incidentKey req.id) ∧
    (∀ reqID data, c.world.pluginData.lookup reqID = some data →
      OpenedFor c.log reqID (app.decodePluginData data).pagerdutyData.id) ∧
    (∀ e ∈ c.log, ∀ reqID reqState, e.call = .setRequestState reqID reqState →
      ∃ action, e.trigger = .action action ∧ incidentKeyRequestID action.incidentKey = some reqID ∧
        OpenedFor c.log reqID action.incidentID) ∧
    (∀ e ∈ c.log, ∀ id, e.call.resolvedIncident = some id →
      ∃ reqID, e.trigger.requestID = some reqID ∧ OpenedFor c.log reqID id) := by
  have h := holds_run (traced_preserved app hcodec)
    (holds_init (w := w) fun reqID data hl => by simp [hw] at hl) ops
  have hp := traced_preserved app hcodec
  exact ⟨fun e he => (h.entry hp he).opened, h.world, fun e he => (h.entry hp he).decided,
    fun e he => (h.entry hp he).resolved⟩

/-- An `App` whose codec stores only the incident ID, which is all the
hypothesis asks of it. -/
def incidentIDApp : App where
  bot := ⟨"", "", fun _ => ""⟩
  encodePluginData d := [("incident_id", d.pagerdutyData.id)]
  decodePluginData data := ⟨⟨"", [], ⟨0⟩⟩, ⟨(data.lookup "incident_id").getD ""⟩⟩
  timeFormat _ _ := ""

theorem incidentIDApp_codec (d : PluginData) :
    (incidentIDApp.decodePluginData (incidentIDApp.encodePluginData d)).pagerdutyData = d.pagerdutyData := by
  simp [incidentIDApp, List.lookup_cons]

/-- A pending request. -/
def raceRequest : Request := ⟨"R1", "alice", ["admin"], ⟨0⟩, .pending⟩

/-- The approval PagerDuty sends for the incident the bridge opens for
`raceRequest`, the first incident of the service. -/
def raceApproval : WebhookAction := ⟨"incident.custom", pdApproveAction, freshID [], incidentKey "R1"⟩

/-- The watcher delivers the request and its handler opens the incident and
stores the plugin data; then two deliveries of the approval interleave, call
by call. -/
def raceSchedule : List Op :=
  [.deliver (.event ⟨.put, raceRequest⟩), .advance 0 none, .advance 0 none,
    .deliver (.action raceApproval), .deliver (.action raceApproval),
    .advance 1 none, .advance 2 none, .advance 1 none, .advance 2 none, .advance 1 none,
    .advance 2 none, .advance 1 none, .advance 1 none, .advance 2 none, .advance 2 none]

theorem bridge_traced_incidentIDApp :
    (∀ d, (incidentIDApp.decodePluginData (incidentIDApp.encodePluginData d)).pagerdutyData =
        d.pagerdutyData) ∧ (⟨[raceRequest], [], []⟩ : World).pluginData = [] ∧
    let c := run incidentIDApp (Config.init ⟨[raceRequest], [], []⟩) raceSchedule
    (∀ e ∈ c.log, ∀ key, e.call.openedKey = some key →
      ∃ req, e.trigger = .event ⟨.put, req⟩ ∧ req.state = .pending ∧ key = incidentKey req.id) ∧
    (∀ reqID data, c.world.pluginData.lookup reqID = some data →
      OpenedFor c.log reqID (incidentIDApp.decodePluginData data).pagerdutyData.id) ∧
    (∀ e ∈ c.log, ∀ reqID reqState, e.call = .setRequestState reqID reqState →
      ∃ action, e.trigger = .action action ∧ incidentKeyRequestID action.incidentKey = some reqID ∧
        OpenedFor c.log reqID action.incidentID) ∧
    (∀ e ∈ c.log, ∀ id, e.call.resolvedIncident = some id →
      ∃ reqID, e.trigger.requestID = some reqID ∧ OpenedFor c.log reqID id) :=
  ⟨incidentIDApp_codec, rfl, bridge_traced incidentIDApp incidentIDApp_codec _ rfl _⟩

end AccessPagerduty
