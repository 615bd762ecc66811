/-
# `AccessPagerduty.Basic` — the records the PagerDuty bridge passes around

The access-request side (`access.Request`, `access.Event`, `access.State`), the
bridge's own records (`RequestData`, `PagerdutyData`, `PluginData`), the webhook
callback (`WebhookAction`) and the constants of `bot.go`.  Everything here is
data; the behaviour lives in the modules that import this one.

Errors are modelled by what the code tests of them.  The bridge never looks at
an error's text, only asks `trace.IsNotFound`, so an `Error` is a kind and a
message, and `trace.Wrap` is the identity on it.

Go strings are `String`s and Go's `uint` offsets are `Nat`s: nothing in this
code depends on a width, and the paging module proves the offsets stay small.
-/
import Mathlib.Data.List.Basic

namespace AccessPagerduty

/-! ## Errors -/

/-- The `trace` error kinds the code builds or tests for. -/
inductive ErrorKind where
  | notFound
  | badParameter
  | other
  deriving DecidableEq, Repr

/-- A Go `error` as this code sees it: the kind `trace` gives it, and its text. -/
structure Error where
  kind : ErrorKind
  message : String
  deriving DecidableEq, Repr

namespace Error

/-- `trace.NotFound(msg)`. -/
def notFound (message : String) : Error := ⟨.notFound, message⟩

/-- `trace.BadParameter(msg)`. -/
def badParameter (message : String) : Error := ⟨.badParameter, message⟩

/-- `trace.Errorf(msg)`: an error of no particular kind. -/
def errorf (message : String) : Error := ⟨.other, message⟩

/-- `trace.IsNotFound(err)`. -/
def isNotFound (e : Error) : Bool := e.kind == .notFound

@[simp] theorem isNotFound_notFound (m : String) : (notFound m).isNotFound = true := rfl
@[simp] theorem isNotFound_badParameter (m : String) : (badParameter m).isNotFound = false := rfl
@[simp] theorem isNotFound_errorf (m : String) : (errorf m).isNotFound = false := rfl

end Error

/-- Code that can fail returns `Except Error _`; these two let `simp` run it. -/
@[simp] theorem ok_bind {α β : Type} (a : α) (f : α → Except Error β) :
    (Except.ok a >>= f) = f a := rfl

@[simp] theorem error_bind {α β : Type} (e : Error) (f : α → Except Error β) :
    (Except.error e >>= f) = .error e := rfl

theorem except_map_eq_ok {α β : Type} {f : α → β} {x : Except Error α} {b : β}
    (h : x.map f = .ok b) : ∃ a, x = .ok a ∧ f a = b := by
  cases x with
  | error e => cases h
  | ok a => exact ⟨a, rfl, Except.ok.inj h⟩

/-! ## The access-request side -/

/-- `access.State`, the lifecycle of an access request. -/
inductive State where
  | none
  | pending
  | approved
  | denied
  deriving DecidableEq, Repr

/-- `State.IsPending()`. -/
def State.isPending (s : State) : Bool := s == .pending

@[simp] theorem State.isPending_iff (s : State) : s.isPending = true ↔ s = .pending := by
  cases s <;> decide

/-- Go's `time.Time`, which the bridge only copies and formats. -/
structure Time where
  unixNano : Int
  deriving DecidableEq, Repr

/-- `access.Request`, with the fields the bridge reads. -/
structure Request where
  id : String
  user : String
  roles : List String
  created : Time
  state : State
  deriving DecidableEq, Repr

/-- The watcher's operation types (teleport's `backend.OpType`). -/
inductive OpType where
  | invalid
  | init
  | put
  | delete
  | get
  deriving DecidableEq, Repr

/-- `access.Event`: what the watcher job hands to `onWatcherEvent`. -/
structure Event where
  type : OpType
  request : Request
  deriving DecidableEq, Repr

/-! ## The bridge's own records -/

/-- `RequestData`: the snapshot of a request stored beside its incident. -/
structure RequestData where
  user : String
  roles : List String
  created : Time
  deriving DecidableEq, Repr

/-- `PagerdutyData`: the only handle kept on an incident, its ID. -/
structure PagerdutyData where
  id : String
  deriving DecidableEq, Repr

/-- `PluginData`, which embeds `RequestData` and `PagerdutyData`. -/
structure PluginData where
  requestData : RequestData
  pagerdutyData : PagerdutyData
  deriving DecidableEq, Repr

/-- `access.PluginDataMap`, a Go `map[string]string`, as its entries. -/
abbrev PluginDataMap := List (String × String)

/-- `WebhookAction`, the parsed custom-action callback, with the fields the
handler reads (the HTTP and message IDs only go to the log). -/
structure WebhookAction where
  event : String
  name : String
  incidentID : String
  incidentKey : String
  deriving DecidableEq, Repr

/-- `Bot`, with what its methods read: the `from` address (`conf.UserEmail`),
the service, and the webhook server's `ActionURL`, which lives outside `src/`
and is taken as given. -/
structure Bot where
  userEmail : String
  serviceID : String
  actionURL : String → String

/-! ## Constants of `bot.go` -/

/-- `pdListLimit`: the page size of every listing call. -/
def pdListLimit : Nat := 60

def pdIncidentKeyPrefix : String := "teleport-access-request"
def pdApproveAction : String := "approve"
def pdApproveActionLabel : String := "Approve Request"
def pdDenyAction : String := "deny"
def pdDenyActionLabel : String := "Deny Request"

/-! ## Fresh IDs

The PagerDuty services the proofs run against hand out IDs; any ID longer
than every ID in use is new. -/

/-- An ID longer than every ID in use. -/
def freshID (ids : List String) : String :=
  ⟨List.replicate ((ids.map String.length).foldr max 0 + 1) 'P'⟩

theorem length_le_foldr_max {ids : List String} {s : String} (h : s ∈ ids) :
    s.length ≤ (ids.map String.length).foldr max 0 := by
  induction ids with
  | nil => simp at h
  | cons t ids ih =>
      simp only [List.map_cons, List.foldr_cons]
      rcases List.mem_cons.mp h with rfl | h
      · exact Nat.le_max_left _ _
      · exact Nat.le_trans (ih h) (Nat.le_max_right _ _)

theorem freshID_not_mem (ids : List String) : freshID ids ∉ ids := fun h => by
  have := length_le_foldr_max h
  simp only [freshID, String.length, List.length_replicate] at this
  omega

theorem freshID_ne (ids : List String) : freshID ids ≠ "" := by
  simp [freshID, String.ext_iff]

end AccessPagerduty
