/-
# `AccessPagerduty.Effect` — what a handler does to the services

The contracts of `Action` and `Event` say which calls a handler makes.  This
module says what the handlers are for, as operations on the two services —
a decision sets the request's state and resolves its incident with a note, an
expiry resolves the incident with the "expired" note — and proves that a
handler run alone with no failing call has exactly that effect.

## The results

* `runAlone_resolveNote_effect`: `Bot.ResolveIncident` on an incident that
  exists is `World.resolveIncident`.
* `runAlone_resolveNote_world`: with no failing call, whether the incident
  exists or not, it is `World.resolveIncident`, which changes nothing on an
  incident that does not exist.
* `onDeletedRequest_expires`: a delete event resolves the incident the plugin
  data names, and changes nothing when there is no plugin data or no such
  incident.
-/
import AccessPagerduty.Event

namespace AccessPagerduty

/-! ## What the handlers are for -/

/-- What resolving an incident is for: the note is added and the incident is
resolved. -/
def World.resolveIncident (w : World) (id note : String) : World :=
  { w with incidents := w.incidents.map fun i =>
      if i.id = id then { i with notes := i.notes ++ [note], status := "resolved" } else i }

/-- What a decision is for: the request takes the decided state, and its
incident is resolved with the decision as the note. -/
def World.applyDecision (w : World) (reqID : String) (state : State) (incidentID resolution : String) :
    World :=
  ({ w with requests := w.requests.map fun r => if r.id = reqID then { r with state } else r } : World)
    |>.resolveIncident incidentID ("Access request has been " ++ resolution)

/-! ## Changes to incidents -/

/-- An incident that exists takes a change; the others are left alone. -/
theorem World.modifyIncident_of_mem {w : World} {id : String} (f : Incident → Incident)
    (h : id ∈ w.incidents.map (·.id)) :
    w.modifyIncident id f =
      .ok { w with incidents := w.incidents.map fun i => if i.id = id then f i else i } := by
  unfold World.modifyIncident
  rw [if_pos (by simpa using h)]

/-- A change to an incident that does not exist is `NotFound`. -/
theorem World.modifyIncident_of_not_mem {w : World} {id : String} (f : Incident → Incident)
    (h : id ∉ w.incidents.map (·.id)) : w.modifyIncident id f = .error (.notFound "incident not found") := by
  unfold World.modifyIncident
  rw [if_neg (by simpa using h)]

/-- A change that keeps IDs keeps every incident's ID. -/
theorem id_mem_map_ite {is : List Incident} {id : String} (f : Incident → Incident)
    (hf : ∀ i, (f i).id = i.id) (h : id ∈ is.map (·.id)) :
    id ∈ (is.map fun i => if i.id = id then f i else i).map (·.id) := by
  simpa [List.map_map, Function.comp_def, apply_ite, hf] using h

/-- **`Bot.ResolveIncident` resolves.**  With no failing call, on an incident
that exists, the note and the resolution are `World.resolveIncident`. -/
theorem runAlone_resolveNote_effect (app : App) (reqID : String) (pdData : PagerdutyData)
    (status : String) (fs : List (Option Error)) (w : World) (h : pdData.id ∈ w.incidents.map (·.id)) :
    let run := runAlone app (none :: none :: fs) w (.resolveNote reqID pdData status)
    run.1 = .done (.ok ()) ∧
      run.2.1 = w.resolveIncident pdData.id ("Access request has been " ++ status) := by
  set note := "Access request has been " ++ status
  let w₁ : World := { w with incidents := w.incidents.map fun i =>
      if i.id = pdData.id then { i with notes := i.notes ++ [note] } else i }
  have h₁ : w.createIncidentNote pdData.id note = .ok w₁ := World.modifyIncident_of_mem _ h
  have h₂ : w₁.manageIncidents pdData.id "resolved" = .ok (w.resolveIncident pdData.id note) := by
    rw [World.manageIncidents, World.modifyIncident_of_mem _
      (id_mem_map_ite (fun i => { i with notes := i.notes ++ [note] }) (fun _ => rfl) h)]
    simp only [World.resolveIncident, w₁, List.map_map, Except.ok.injEq, World.mk.injEq, true_and]
    exact List.map_congr_left fun a _ => by by_cases ha : a.id = pdData.id <;> simp [ha]
  have hp₁ : perform none (.createIncidentNote pdData.id app.bot.userEmail note) w = (.ok .unit, w₁) := by
    simp [perform, World.answer, h₁, Except.map]
  have hp₂ : perform none (.manageIncidents app.bot.userEmail pdData.id "resolved") w₁ =
      (.ok .unit, w.resolveIncident pdData.id note) := by
    simp [perform, World.answer, h₂, Except.map]
  rw [runAlone_call app (t := .resolveNote reqID pdData status) rfl, hp₁]
  simp only [Thread.resume]
  rw [runAlone_call app (t := .resolveManage reqID pdData status) rfl, hp₂, resolveManage_resume,
    runAlone_done]
  exact ⟨rfl, rfl⟩

/-- Resolving an incident that does not exist changes nothing. -/
theorem World.resolveIncident_of_not_mem {w : World} {id : String} (note : String)
    (h : id ∉ w.incidents.map (·.id)) : w.resolveIncident id note = w := by
  have hne : ∀ i ∈ w.incidents, i.id ≠ id := fun i hi hid => h (List.mem_map.mpr ⟨i, hi, hid⟩)
  simp only [World.resolveIncident]
  rw [List.map_congr_left fun i hi => if_neg (hne i hi), List.map_id']

/-- **`Bot.ResolveIncident` is `World.resolveIncident`**, whether the incident
exists or not: with no failing call it returns, and on an incident that does
not exist its note fails and nothing changes. -/
theorem runAlone_resolveNote_world (app : App) (reqID : String) (pdData : PagerdutyData)
    (status : String) (fs : List (Option Error)) (w : World) :
    let run := runAlone app (none :: none :: fs) w (.resolveNote reqID pdData status)
    (∃ res, run.1 = .done res) ∧
      run.2.1 = w.resolveIncident pdData.id ("Access request has been " ++ status) := by
  by_cases h : pdData.id ∈ w.incidents.map (·.id)
  · obtain ⟨h₁, h₂⟩ := runAlone_resolveNote_effect app reqID pdData status fs w h
    exact ⟨⟨_, h₁⟩, h₂⟩
  · rw [runAlone_call app (t := .resolveNote reqID pdData status) rfl,
      World.resolveIncident_of_not_mem _ h]
    simp [perform, World.answer, World.createIncidentNote, World.modifyIncident_of_not_mem _ h,
      Except.map, Thread.resume]

/-! ## The handlers -/

/-- **A delete event expires the request's incident.**  Handled with no
failing call, it resolves the incident the plugin data names with the
"expired" note and returns `nil`; with no plugin data it changes nothing and
returns `nil`; when the incident does not exist it changes nothing and
returns PagerDuty's `NotFound`. -/
theorem onDeletedRequest_expires (app : App) (req : Request) (w : World) (fs : List (Option Error)) :
    let run := runAlone app (none :: none :: none :: fs) w (onWatcherEvent app ⟨.delete, req⟩)
    (run.1, run.2.1) =
      match w.getPluginData req.id with
      | .error _ => (.done (.ok ()), w)
      | .ok data =>
        let id := (app.decodePluginData data).pagerdutyData.id
        if id ∈ w.incidents.map (·.id) then
          (.done (.ok ()), w.resolveIncident id "Access request has been expired")
        else (.done (.error (.notFound "incident not found")), w) := by
  simp only [onWatcherEvent, onDeletedRequest]
  rw [runAlone_call app (t := .deletedGetPluginData req.id) rfl]
  rcases hget : w.getPluginData req.id with e | data
  · obtain rfl : e = .notFound "plugin data not found" := by
      unfold World.getPluginData at hget; split at hget <;> cases hget; rfl
    simp [perform, World.answer, hget, Except.map, Thread.resume]
  have h₁ : perform none (.getPluginData req.id) w = (.ok (.pluginData data), w) := by
    simp [perform, World.answer, hget, Except.map]
  rw [h₁]
  simp only [Thread.resume]
  split_ifs with hinc
  · obtain ⟨h₁, h₂⟩ := runAlone_resolveNote_effect app req.id _ "expired" fs w hinc
    rw [h₁, h₂]
    rfl
  · rw [runAlone_call app (t := .resolveNote req.id _ "expired") rfl]
    simp [perform, World.answer, World.createIncidentNote, World.modifyIncident_of_not_mem _ hinc,
      Except.map, Thread.resume]

end AccessPagerduty
