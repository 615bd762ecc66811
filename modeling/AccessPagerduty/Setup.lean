/-
# `AccessPagerduty.Setup` — provisioning the two custom actions

`Bot.Setup` (bot.go:401–467) finds the "custom_webhook" extension schema,
finds the extensions labelled "Approve Request" and "Deny Request" among the
service's extensions of that schema, and creates each that is missing or
updates it to point at the listener (`setupCustomAction`, bot.go:469–491).
The spec asks that this "converge to the same two extensions regardless of
how many times it runs".

`setup` is the code, over any `Client`; it returns the calls it made beside
its result.  `pagerduty place` is a PagerDuty service that keeps the schemas
and extensions in lists, pages them honestly, lists what it creates where
`place` puts it (the API does not say where), and replaces by ID what it
updates.  Its `ExtensionStore` carries PagerDuty's own guarantee as fields:
every ID is non-empty, and extension IDs are distinct.  The code relies on
the first — it uses `""` for "not found".

## The results

* `setup_pagerduty`: with fuel for both listings, the two paging loops are
  `scanPages`, and `Setup` is the two `setupCustomAction` calls on what they
  found.
* `webhookSchema_spec`, `foundExtension_spec`: a search ends on `""` exactly
  when nothing in the whole listing matches, and otherwise on a match.
* `foundExtensions_setupStore_ne`: a second run finds both labels, wherever
  the created extensions are listed.
* `foundExtensions_setupStore`, `setupStore_setupStore`: when they are listed
  last, a second run finds the extensions the first one wrote, and updating
  them changes nothing.
* `setup_converges`: `NotFound` exactly when there is no "custom_webhook"
  schema; otherwise a creation exactly for each missing label, an extension
  per label afterwards with the action's URL, schema and service, and a
  second run that creates nothing, and leaves the store unchanged when
  created extensions are listed last.
* `setup_createdFirst_changes`: when they are listed first, a second run can
  update another extension with the same label.

The idempotence turns on the second run finding the very extensions the first
one wrote.  When the first run found both labels, the second sees the same
names and IDs in the same places; when it created one, the first run had
searched the whole listing, and if the created extensions come last, the
second run searches the whole listing too and stops on them.  If they come
first, the second run may stop on the first page, on an older duplicate.
-/
import AccessPagerduty.Paging
import Mathlib.Data.List.Nodup

namespace AccessPagerduty

/-! ## The PagerDuty objects `Setup` touches -/

/-- `pd.ExtensionSchema`, with the fields `Setup` reads. -/
structure ExtensionSchema where
  id : String
  key : String
  deriving DecidableEq, Repr

/-- `pd.APIObject`, a typed reference to another object. -/
structure APIObject where
  type : String
  id : String
  deriving DecidableEq, Repr

/-- `pd.Extension`, with the fields `Setup` reads and writes. -/
structure Extension where
  id : String
  name : String
  endpointURL : String
  extensionSchema : APIObject
  extensionObjects : List APIObject
  deriving DecidableEq, Repr

/-- The calls `Setup` makes. -/
inductive SetupCall where
  | listExtensionSchemas (offset limit : Nat)
  | listExtensions (offset limit : Nat) (objectID schemaID : String)
  | createExtension (ext : Extension)
  | updateExtension (id : String) (ext : Extension)
  deriving DecidableEq, Repr

/-- The part of `pd.Client` `Setup` uses, over a service state `σ`. -/
structure Client (σ : Type) where
  listExtensionSchemas : σ → Nat → Nat → Except Error (Page ExtensionSchema)
  /-- `ListExtensions` filtered by `ExtensionObjectID` and `ExtensionSchemaID`. -/
  listExtensions : σ → String → String → Nat → Nat → Except Error (Page Extension)
  createExtension : σ → Extension → Except Error σ
  updateExtension : σ → String → Extension → Except Error σ

/-! ## The code -/

/-- The extension `setupCustomAction` writes for an action. -/
def customActionExtension (b : Bot) (schemaID actionName actionLabel : String) : Extension where
  id := ""
  name := actionLabel
  endpointURL := b.actionURL actionName
  extensionSchema := ⟨"extension_schema_reference", schemaID⟩
  extensionObjects := [⟨"service_reference", b.serviceID⟩]

/-- `Bot.setupCustomAction`: create the extension when no ID was found,
otherwise update the one found. -/
def setupCustomAction {σ : Type} (c : Client σ) (b : Bot) (s : σ)
    (extensionID schemaID actionName actionLabel : String) : Except Error σ × List SetupCall :=
  let ext := customActionExtension b schemaID actionName actionLabel
  if extensionID = "" then (c.createExtension s ext, [.createExtension ext])
  else (c.updateExtension s extensionID ext, [.updateExtension extensionID ext])

/-- The schema search: the last "custom_webhook" schema of a page wins. -/
def scanSchema (webhookSchemaID : String) (schema : ExtensionSchema) : String :=
  if schema.key = "custom_webhook" then schema.id else webhookSchemaID

/-- The extension search, for both labels at once. -/
def scanExtension (ids : String × String) (ext : Extension) : String × String :=
  (if ext.name = pdApproveActionLabel then ext.id else ids.1,
    if ext.name = pdDenyActionLabel then ext.id else ids.2)

/-- `webhookSchemaID == ""`. -/
def schemaSearching (webhookSchemaID : String) : Bool := webhookSchemaID == ""

/-- `approveExtID == "" || denyExtID == ""`. -/
def extensionSearching (ids : String × String) : Bool := ids.1 == "" || ids.2 == ""

/-- The message of `Setup`'s `NotFound`. -/
def noWebhookSchemaMessage : String := "failed to find \"Custom Incident Action\" extension type"

/-- `Bot.Setup`, with fuel for its two loops; beside the result, the calls it
made. -/
def setup {σ : Type} (c : Client σ) (b : Bot) (fuel : Nat) (s : σ) :
    Option (Except Error σ × List SetupCall) := do
  let (found, offsets) ← pagingLoop (c.listExtensionSchemas s) scanSchema schemaSearching fuel 0 true ""
  let calls := offsets.map (SetupCall.listExtensionSchemas · pdListLimit)
  match found with
  | .error e => pure (.error e, calls)
  | .ok webhookSchemaID =>
    if webhookSchemaID = "" then pure (.error (.notFound noWebhookSchemaMessage), calls) else
    let (found, offsets) ← pagingLoop (c.listExtensions s b.serviceID webhookSchemaID) scanExtension
      extensionSearching fuel 0 true ("", "")
    let calls := calls ++ offsets.map
      (SetupCall.listExtensions · pdListLimit b.serviceID webhookSchemaID)
    match found with
    | .error e => pure (.error e, calls)
    | .ok (approveExtID, denyExtID) =>
      let (r, approveCalls) := setupCustomAction c b s approveExtID webhookSchemaID
        pdApproveAction pdApproveActionLabel
      match r with
      | .error e => pure (.error e, calls ++ approveCalls)
      | .ok s =>
        let (r, denyCalls) := setupCustomAction c b s denyExtID webhookSchemaID
          pdDenyAction pdDenyActionLabel
        pure (r, calls ++ approveCalls ++ denyCalls)

/-! ## PagerDuty's side -/

/-- The schemas and extensions of a PagerDuty account, in listing order, with
PagerDuty's guarantees on IDs. -/
@[ext] structure ExtensionStore where
  schemas : List ExtensionSchema
  extensions : List Extension
  schema_id_ne : ∀ sc ∈ schemas, sc.id ≠ ""
  extension_id_ne : ∀ e ∈ extensions, e.id ≠ ""
  extension_id_nodup : (extensions.map (·.id)).Nodup

/-- Whether `ListExtensions` with these filters lists an extension. -/
def listedFor (objectID schemaID : String) (e : Extension) : Bool :=
  e.extensionSchema.id == schemaID && e.extensionObjects.any (·.id == objectID)

/-- The listing `ListExtensions` pages through. -/
def ExtensionStore.listed (store : ExtensionStore) (objectID schemaID : String) : List Extension :=
  store.extensions.filter (listedFor objectID schemaID)

/-- Where PagerDuty lists an extension it creates among the others.  Its API
does not say, so the model takes the placement as a parameter: any way of
inserting the new extension into the listing. -/
structure Placement where
  place : List Extension → Extension → List Extension
  perm : ∀ exts e, List.Perm (place exts e) (exts ++ [e])

/-- A created extension is listed after the others. -/
def Placement.last : Placement := ⟨fun exts e => exts ++ [e], fun _ _ => List.Perm.refl _⟩

/-- A created extension is listed before the others. -/
def Placement.first : Placement :=
  ⟨fun exts e => e :: exts, fun exts e => (List.perm_append_singleton e exts).symm⟩

/-- `CreateExtension`: the new extension gets a fresh ID and is listed where
`place` puts it. -/
def ExtensionStore.create (place : Placement) (store : ExtensionStore) (ext : Extension) :
    ExtensionStore where
  schemas := store.schemas
  extensions := place.place store.extensions { ext with id := freshID (store.extensions.map (·.id)) }
  schema_id_ne := store.schema_id_ne
  extension_id_ne e he := by
    rcases List.mem_append.mp ((place.perm _ _).subset he) with he | he
    · exact store.extension_id_ne e he
    · simp only [List.mem_singleton] at he; subst he; exact freshID_ne _
  extension_id_nodup := by
    refine ((place.perm _ _).map (·.id)).nodup_iff.mpr ?_
    simpa [List.nodup_append] using ⟨store.extension_id_nodup, fun x hx h =>
      freshID_not_mem (store.extensions.map (·.id)) (h ▸ List.mem_map_of_mem _ hx)⟩

theorem ExtensionStore.mem_create (place : Placement) (s : ExtensionStore) (ext e : Extension) :
    e ∈ (s.create place ext).extensions ↔
      e ∈ s.extensions ∨ e = { ext with id := freshID (s.extensions.map (·.id)) } :=
  (place.perm _ _).mem_iff.trans (by simp)

/-- The extensions after `UpdateExtension(id, ext)`. -/
def updateExtensions (exts : List Extension) (id : String) (ext : Extension) : List Extension :=
  exts.map fun e => if e.id = id then { ext with id := id } else e

@[simp] theorem map_id_updateExtensions (exts : List Extension) (id : String) (ext : Extension) :
    (updateExtensions exts id ext).map (·.id) = exts.map (·.id) := by
  simp only [updateExtensions, List.map_map]
  exact List.map_congr_left fun e _ => by by_cases h : e.id = id <;> simp [h]

/-- `UpdateExtension(id, ext)`: the extension with that ID takes `ext`'s fields. -/
def ExtensionStore.update (store : ExtensionStore) (id : String) (ext : Extension) :
    ExtensionStore where
  schemas := store.schemas
  extensions := updateExtensions store.extensions id ext
  schema_id_ne := store.schema_id_ne
  extension_id_ne e he := by
    obtain ⟨e', he', rfl⟩ := List.mem_map.mp he
    by_cases h : e'.id = id <;> simp [h]
    · exact h ▸ store.extension_id_ne e' he'
    · exact store.extension_id_ne e' he'
  extension_id_nodup := by simpa using store.extension_id_nodup

/-- The PagerDuty service, listing what it creates where `place` says. -/
def pagerduty (place : Placement) : Client ExtensionStore where
  listExtensionSchemas s := honestList s.schemas
  listExtensions s objectID schemaID := honestList (s.listed objectID schemaID)
  createExtension s ext := .ok (s.create place ext)
  updateExtension s id ext :=
    if id ∈ s.extensions.map (·.id) then .ok (s.update id ext) else .error (.notFound "extension not found")

section PagerDuty
variable (place : Placement)

@[simp] theorem pagerduty_listExtensionSchemas (s : ExtensionStore) :
    (pagerduty place).listExtensionSchemas s = honestList s.schemas := rfl

@[simp] theorem pagerduty_listExtensions (s : ExtensionStore) (objectID schemaID : String) :
    (pagerduty place).listExtensions s objectID schemaID = honestList (s.listed objectID schemaID) := rfl

@[simp] theorem pagerduty_createExtension (s : ExtensionStore) (ext : Extension) :
    (pagerduty place).createExtension s ext = .ok (s.create place ext) := rfl

theorem pagerduty_updateExtension {s : ExtensionStore} {id : String} (h : id ∈ s.extensions.map (·.id))
    (ext : Extension) : (pagerduty place).updateExtension s id ext = .ok (s.update id ext) := if_pos h

/-! ## `Setup` against PagerDuty

With fuel for both listings, `Setup`'s loops are `scanPages`, and what is left
of it is the two `setupCustomAction` calls on what they found. -/

/-- The schema `Setup` settles on. -/
def webhookSchema (store : ExtensionStore) : String :=
  (scanPages store.schemas scanSchema schemaSearching 0 true "").1

/-- The approve and deny extension IDs `Setup` finds. -/
def foundExtensions (store : ExtensionStore) (objectID schemaID : String) : String × String :=
  (scanPages (store.listed objectID schemaID) scanExtension extensionSearching 0 true ("", "")).1

/-- The two `setupCustomAction` calls that end `Setup`. -/
def setupActions {σ : Type} (c : Client σ) (b : Bot) (s : σ) (schemaID : String)
    (ids : String × String) : Except Error σ × List SetupCall :=
  match setupCustomAction c b s ids.1 schemaID pdApproveAction pdApproveActionLabel with
  | (.error e, calls) => (.error e, calls)
  | (.ok s', calls) =>
    let r := setupCustomAction c b s' ids.2 schemaID pdDenyAction pdDenyActionLabel
    (r.1, calls ++ r.2)

theorem listed_length_le (store : ExtensionStore) (objectID schemaID : String) :
    (store.listed objectID schemaID).length ≤ store.extensions.length :=
  List.length_filter_le _ _

/-- The listing calls of `Setup`'s schema loop against PagerDuty. -/
def schemaListCalls (store : ExtensionStore) : List SetupCall :=
  (scanPages store.schemas scanSchema schemaSearching 0 true "").2.map
    (SetupCall.listExtensionSchemas · pdListLimit)

/-- The listing calls of `Setup`'s extension loop against PagerDuty. -/
def extensionListCalls (store : ExtensionStore) (objectID schemaID : String) : List SetupCall :=
  (scanPages (store.listed objectID schemaID) scanExtension extensionSearching 0 true ("", "")).2.map
    (SetupCall.listExtensions · pdListLimit objectID schemaID)

/-- `Setup` against PagerDuty: its two loops are `scanPages`. -/
theorem setup_pagerduty (b : Bot) (store : ExtensionStore) (fuel : Nat)
    (hfuel : store.schemas.length + store.extensions.length < fuel) :
    setup (pagerduty place) b fuel store = some
      (if webhookSchema store = "" then (.error (.notFound noWebhookSchemaMessage), schemaListCalls store)
      else
        let r := setupActions (pagerduty place) b store (webhookSchema store)
          (foundExtensions store b.serviceID (webhookSchema store))
        (r.1, schemaListCalls store ++ extensionListCalls store b.serviceID (webhookSchema store) ++ r.2)) := by
  have h₁ : pagingLoop (honestList store.schemas) scanSchema schemaSearching fuel 0 true "" =
      some (.ok (webhookSchema store), _) :=
    pagingLoop_eq_scanPages store.schemas scanSchema schemaSearching fuel 0 true ""
      (by simp only [pdListLimit]; omega)
  have h₂ : pagingLoop (honestList (store.listed b.serviceID (webhookSchema store))) scanExtension
      extensionSearching fuel 0 true ("", "") =
      some (.ok (foundExtensions store b.serviceID (webhookSchema store)), _) :=
    pagingLoop_eq_scanPages _ scanExtension extensionSearching fuel 0 true ("", "")
      (by have := listed_length_le store b.serviceID (webhookSchema store)
          simp only [pdListLimit]; omega)
  unfold setup
  simp only [pagerduty_listExtensionSchemas, pagerduty_listExtensions, h₁, Option.bind_eq_bind,
    Option.some_bind]
  split_ifs with hs
  · rfl
  · rw [h₂]
    generalize foundExtensions store b.serviceID (webhookSchema store) = ids
    obtain ⟨a, d⟩ := ids
    simp only [Option.some_bind, setupActions]
    rcases setupCustomAction (pagerduty place) b store a (webhookSchema store) pdApproveAction
      pdApproveActionLabel with ⟨_ | s', calls⟩ <;> simp [schemaListCalls, extensionListCalls]

end PagerDuty

/-! ## What the searches find

Both searches are "the last match wins" folds.  Their result is the last
matching item's ID, or the initial value when nothing matched; PagerDuty's
IDs are never `""`, so `""` means exactly "no match". -/

theorem foldl_pick {α β : Type} (p : α → Bool) (g : α → β) (acc : β) (xs : List α) :
    xs.foldl (fun acc x => if p x then g x else acc) acc = ((xs.filter p).getLast?.map g).getD acc := by
  induction xs generalizing acc with
  | nil => rfl
  | cons x xs ih =>
      rw [List.foldl_cons, ih, List.filter_cons]
      cases p x
      · rfl
      · rcases h : (xs.filter p).getLast? with _ | y <;>
          simp only [List.getLast?_cons, h, Option.getD_none, Option.getD_some, Option.map_some',
            Option.map_none', if_true]

theorem scanSchema_eq : scanSchema = fun acc sc => if decide (sc.key = "custom_webhook") then sc.id else acc := by
  funext acc sc; simp [scanSchema]

/-- The label search, one label at a time. -/
def scanLabel (label : String) (id : String) (ext : Extension) : String :=
  if ext.name = label then ext.id else id

theorem foldl_scanExtension (xs : List Extension) (ids : String × String) :
    xs.foldl scanExtension ids =
      (xs.foldl (scanLabel pdApproveActionLabel) ids.1, xs.foldl (scanLabel pdDenyActionLabel) ids.2) := by
  induction xs generalizing ids with
  | nil => rfl
  | cons x xs ih => simp only [List.foldl_cons, ih]; rfl

/-- Over IDs that are never empty, a search starting from `""` ends on `""`
exactly when nothing matched. -/
theorem pick_eq_empty_iff {α : Type} {p : α → Bool} {g : α → String} {xs : List α}
    (hid : ∀ x ∈ xs, g x ≠ "") :
    ((xs.filter p).getLast?.map g).getD "" = "" ↔ ∀ x ∈ xs, p x = false := by
  rcases h : (xs.filter p).getLast? with _ | y
  · simpa using List.getLast?_eq_none_iff.mp h
  · have hy := List.mem_filter.mp (List.mem_of_getLast?_eq_some h)
    simp only [Option.map_some', Option.getD_some, hid y hy.1, false_iff, not_forall]
    exact ⟨y, hy.1, by simp [hy.2]⟩

/-- A search that moved off its start found a matching item. -/
theorem pick_mem {α β : Type} {p : α → Bool} {g : α → β} {xs : List α} {acc : β}
    (h : ((xs.filter p).getLast?.map g).getD acc ≠ acc) :
    ∃ x ∈ xs, p x = true ∧ g x = ((xs.filter p).getLast?.map g).getD acc := by
  rcases hl : (xs.filter p).getLast? with _ | y
  · simp [hl] at h
  · have hy := List.mem_filter.mp (List.mem_of_getLast?_eq_some hl)
    exact ⟨y, hy.1, hy.2, by simp⟩

theorem foldl_scanLabel (label : String) (id : String) (xs : List Extension) :
    xs.foldl (scanLabel label) id =
      ((xs.filter fun e => decide (e.name = label)).getLast?.map (·.id)).getD id := by
  rw [← foldl_pick]; simp only [decide_eq_true_eq]; rfl

theorem foldl_scanSchema (id : String) (xs : List ExtensionSchema) :
    xs.foldl scanSchema id =
      ((xs.filter fun sc => decide (sc.key = "custom_webhook")).getLast?.map (·.id)).getD id := by
  rw [scanSchema_eq, foldl_pick]

/-- A search over a prefix that either covers the list or found something:
`""` exactly when nothing in the whole list matches, and otherwise the ID of a
match. -/
theorem pick_take {α : Type} {p : α → Bool} {g : α → String} {xs : List α} {m : Nat}
    (hid : ∀ x ∈ xs, g x ≠ "")
    (hend : xs.length ≤ m ∨ (((xs.take m).filter p).getLast?.map g).getD "" ≠ "") :
    ((((xs.take m).filter p).getLast?.map g).getD "" = "" ↔ ∀ x ∈ xs, p x = false) ∧
      ((((xs.take m).filter p).getLast?.map g).getD "" ≠ "" →
        ∃ x ∈ xs, p x = true ∧ g x = (((xs.take m).filter p).getLast?.map g).getD "") := by
  have hid' : ∀ x ∈ xs.take m, g x ≠ "" := fun x hx => hid x (List.mem_of_mem_take hx)
  refine ⟨⟨fun h => ?_, fun h => (pick_eq_empty_iff hid').mpr
    fun x hx => h x (List.mem_of_mem_take hx)⟩, fun h => ?_⟩
  · rcases hend with hlen | hne
    · rwa [List.take_of_length_le hlen, pick_eq_empty_iff hid] at h
    · exact absurd h hne
  · obtain ⟨x, hx, hp, hg⟩ := pick_mem h
    exact ⟨x, List.mem_of_mem_take hx, hp, hg⟩

/-- The schema `Setup` settles on: `""` exactly when there is no
"custom_webhook" schema, and otherwise the ID of one. -/
theorem webhookSchema_spec (store : ExtensionStore) :
    (webhookSchema store = "" ↔ ∀ sc ∈ store.schemas, sc.key ≠ "custom_webhook") ∧
      (webhookSchema store ≠ "" →
        ∃ sc ∈ store.schemas, sc.key = "custom_webhook" ∧ sc.id = webhookSchema store) := by
  obtain ⟨m, hm, hend⟩ := scanPages_prefix store.schemas scanSchema schemaSearching 0 true "" (.inl rfl)
  rw [List.drop_zero, foldl_scanSchema] at hm
  have := pick_take (p := fun sc : ExtensionSchema => decide (sc.key = "custom_webhook"))
    (g := (·.id)) (m := m) store.schema_id_ne (by rw [← hm]; simpa [schemaSearching] using hend)
  simp only [webhookSchema, hm, decide_eq_false_iff_not, decide_eq_true_eq] at this ⊢
  exact this

/-- The listing a run of `Setup` searches, and what it finds there. -/
theorem foundExtensions_prefix (store : ExtensionStore) (objectID schemaID : String) :
    ∃ m, foundExtensions store objectID schemaID =
        (((store.listed objectID schemaID).take m).foldl (scanLabel pdApproveActionLabel) "",
          ((store.listed objectID schemaID).take m).foldl (scanLabel pdDenyActionLabel) "") ∧
      ((store.listed objectID schemaID).length ≤ m ∨
        ((foundExtensions store objectID schemaID).1 ≠ "" ∧
          (foundExtensions store objectID schemaID).2 ≠ "")) := by
  obtain ⟨m, hm, hend⟩ := scanPages_prefix (store.listed objectID schemaID) scanExtension
    extensionSearching 0 true ("", "") (.inl rfl)
  rw [List.drop_zero, foldl_scanExtension] at hm
  refine ⟨m, hm, ?_⟩
  simpa [extensionSearching, foundExtensions, not_or] using hend

theorem listed_id_ne {store : ExtensionStore} {objectID schemaID : String} :
    ∀ e ∈ store.listed objectID schemaID, e.id ≠ "" :=
  fun e he => store.extension_id_ne e (List.mem_filter.mp he).1

/-- What `Setup` finds for a label: `""` exactly when no listed extension
carries it, and otherwise the ID of one that does. -/
theorem foundExtension_spec (store : ExtensionStore) (objectID schemaID : String) (label : String)
    (pick : String × String → String)
    (hpick : (pick = Prod.fst ∧ label = pdApproveActionLabel) ∨
      (pick = Prod.snd ∧ label = pdDenyActionLabel)) :
    (pick (foundExtensions store objectID schemaID) = "" ↔
        ∀ e ∈ store.listed objectID schemaID, e.name ≠ label) ∧
      (pick (foundExtensions store objectID schemaID) ≠ "" →
        ∃ e ∈ store.listed objectID schemaID, e.name = label ∧
          e.id = pick (foundExtensions store objectID schemaID)) := by
  obtain ⟨m, hm, hend⟩ := foundExtensions_prefix store objectID schemaID
  have key : pick (foundExtensions store objectID schemaID) =
      ((store.listed objectID schemaID).take m).foldl (scanLabel label) "" := by
    rcases hpick with ⟨rfl, rfl⟩ | ⟨rfl, rfl⟩ <;> simp [hm]
  have hend' : (store.listed objectID schemaID).length ≤ m ∨
      pick (foundExtensions store objectID schemaID) ≠ "" := by
    rcases hpick with ⟨rfl, -⟩ | ⟨rfl, -⟩ <;> tauto
  rw [key, foldl_scanLabel] at hend' ⊢
  have := pick_take (p := fun e : Extension => decide (e.name = label)) (g := (·.id))
    listed_id_ne hend'
  simpa only [decide_eq_false_iff_not, decide_eq_true_eq] using this

/-! ## What `setupCustomAction` writes -/

section Provision
variable (place : Placement)

/-- The store after `setupCustomAction` for an extension ID. -/
def ExtensionStore.provision (s : ExtensionStore) (extensionID : String) (ext : Extension) :
    ExtensionStore :=
  if extensionID = "" then s.create place ext else s.update extensionID ext

/-- `setupCustomAction` against PagerDuty, when the ID it is given is `""` or
in use. -/
theorem setupCustomAction_pagerduty (b : Bot) (s : ExtensionStore)
    {extensionID : String} (schemaID actionName actionLabel : String)
    (h : extensionID = "" ∨ extensionID ∈ s.extensions.map (·.id)) :
    setupCustomAction (pagerduty place) b s extensionID schemaID actionName actionLabel =
      (.ok (s.provision place extensionID (customActionExtension b schemaID actionName actionLabel)),
        [if extensionID = "" then .createExtension (customActionExtension b schemaID actionName actionLabel)
          else .updateExtension extensionID (customActionExtension b schemaID actionName actionLabel)]) := by
  unfold setupCustomAction ExtensionStore.provision
  split_ifs with he
  · rfl
  · simp only [pagerduty_updateExtension place (h.resolve_left he)]

theorem mem_map_id_provision {s : ExtensionStore} {id x : String} {ext : Extension}
    (hx : x ∈ s.extensions.map (·.id)) : x ∈ (s.provision place id ext).extensions.map (·.id) := by
  unfold ExtensionStore.provision
  split_ifs
  · obtain ⟨e, he, rfl⟩ := List.mem_map.mp hx
    exact List.mem_map_of_mem _ ((ExtensionStore.mem_create place s ext e).mpr (.inl he))
  · simpa [ExtensionStore.update] using hx

/-- Both calls of `setupActions` against PagerDuty. -/
theorem setupActions_pagerduty (b : Bot) (s : ExtensionStore) (schemaID : String) {a d : String}
    (ha : a = "" ∨ a ∈ s.extensions.map (·.id)) (hd : d = "" ∨ d ∈ s.extensions.map (·.id)) :
    setupActions (pagerduty place) b s schemaID (a, d) =
      (.ok ((s.provision place a (customActionExtension b schemaID pdApproveAction pdApproveActionLabel)).provision
          place d (customActionExtension b schemaID pdDenyAction pdDenyActionLabel)),
        [if a = "" then .createExtension (customActionExtension b schemaID pdApproveAction pdApproveActionLabel)
          else .updateExtension a (customActionExtension b schemaID pdApproveAction pdApproveActionLabel),
        if d = "" then .createExtension (customActionExtension b schemaID pdDenyAction pdDenyActionLabel)
          else .updateExtension d (customActionExtension b schemaID pdDenyAction pdDenyActionLabel)]) := by
  simp only [setupActions, setupCustomAction_pagerduty place b s schemaID _ _ ha,
    setupCustomAction_pagerduty place b _ schemaID _ _ (hd.imp_right (mem_map_id_provision place))]
  rfl

/-- The ID the extension `setupCustomAction` wrote ends up with. -/
def ExtensionStore.provisionedID (s : ExtensionStore) (extensionID : String) : String :=
  if extensionID = "" then freshID (s.extensions.map (·.id)) else extensionID

theorem ExtensionStore.mem_provision_self (s : ExtensionStore) {id : String} (ext : Extension)
    (h : id = "" ∨ id ∈ s.extensions.map (·.id)) :
    { ext with id := s.provisionedID id } ∈ (s.provision place id ext).extensions := by
  unfold provision provisionedID
  split_ifs with he
  · exact (mem_create place s ext _).mpr (.inr rfl)
  · obtain ⟨e, he', rfl⟩ := List.mem_map.mp (h.resolve_left he)
    exact List.mem_map.mpr ⟨e, he', by simp⟩

theorem ExtensionStore.mem_provision_of_mem {s : ExtensionStore} {id : String} {e : Extension}
    (ext : Extension) (he : e ∈ s.extensions) (hid : e.id ≠ id) :
    e ∈ (s.provision place id ext).extensions := by
  unfold provision
  split_ifs
  · exact (mem_create place s ext e).mpr (.inl he)
  · exact List.mem_map.mpr ⟨e, he, by simp [hid]⟩

end Provision

theorem ExtensionStore.eq_of_id_eq (s : ExtensionStore) {e₁ e₂ : Extension} (h₁ : e₁ ∈ s.extensions)
    (h₂ : e₂ ∈ s.extensions) (h : e₁.id = e₂.id) : e₁ = e₂ :=
  List.inj_on_of_nodup_map s.extension_id_nodup h₁ h₂ h

theorem listed_sub {store : ExtensionStore} {objectID schemaID : String} {e : Extension}
    (he : e ∈ store.listed objectID schemaID) : e ∈ store.extensions :=
  (List.mem_filter.mp he).1

/-- What `Setup` finds for a label is `""` or the ID of a listed extension
carrying the label. -/
theorem foundExtension_listed (store : ExtensionStore) (objectID schemaID label : String)
    (pick : String × String → String)
    (hpick : (pick = Prod.fst ∧ label = pdApproveActionLabel) ∨
      (pick = Prod.snd ∧ label = pdDenyActionLabel)) :
    pick (foundExtensions store objectID schemaID) = "" ∨
      ∃ e ∈ store.listed objectID schemaID, e.name = label ∧
        e.id = pick (foundExtensions store objectID schemaID) := by
  by_cases h : pick (foundExtensions store objectID schemaID) = ""
  · exact .inl h
  · exact .inr ((foundExtension_spec store objectID schemaID label pick hpick).2 h)

theorem foundExtension_mem_ids (store : ExtensionStore) (objectID schemaID label : String)
    (pick : String × String → String)
    (hpick : (pick = Prod.fst ∧ label = pdApproveActionLabel) ∨
      (pick = Prod.snd ∧ label = pdDenyActionLabel)) :
    pick (foundExtensions store objectID schemaID) = "" ∨
      pick (foundExtensions store objectID schemaID) ∈ store.extensions.map (·.id) :=
  (foundExtension_listed store objectID schemaID label pick hpick).imp_right
    fun ⟨e, he, _, hid⟩ => List.mem_map.mpr ⟨e, listed_sub he, hid⟩

/-- The two extensions `Setup` wrote are different ones. -/
theorem provisionedID_ne_found (store : ExtensionStore) (objectID schemaID : String)
    (hd : (foundExtensions store objectID schemaID).2 ≠ "") :
    store.provisionedID (foundExtensions store objectID schemaID).1 ≠
      (foundExtensions store objectID schemaID).2 := by
  obtain ⟨eD, heD, hnD, hidD⟩ := (foundExtension_spec store objectID schemaID _ Prod.snd
    (.inr ⟨rfl, rfl⟩)).2 hd
  unfold ExtensionStore.provisionedID
  split_ifs with ha
  · intro h
    have hmem : eD.id ∈ store.extensions.map (·.id) := List.mem_map_of_mem _ (listed_sub heD)
    rw [hidD, ← h] at hmem
    exact freshID_not_mem _ hmem
  · obtain ⟨eA, heA, hnA, hidA⟩ := (foundExtension_spec store objectID schemaID _ Prod.fst
      (.inl ⟨rfl, rfl⟩)).2 ha
    intro h
    have := store.eq_of_id_eq (listed_sub heA) (listed_sub heD) (by rw [hidA, hidD, h])
    have : pdApproveActionLabel = pdDenyActionLabel := by rw [← hnA, ← hnD, this]
    exact absurd this (by decide)

/-- The store after `Setup`'s two `setupCustomAction` calls. -/
def setupStore (place : Placement) (store : ExtensionStore) (b : Bot) (schemaID : String) :
    ExtensionStore :=
  (store.provision place (foundExtensions store b.serviceID schemaID).1
      (customActionExtension b schemaID pdApproveAction pdApproveActionLabel)).provision place
    (foundExtensions store b.serviceID schemaID).2
    (customActionExtension b schemaID pdDenyAction pdDenyActionLabel)

theorem ExtensionStore.provisionedID_ne (s : ExtensionStore) (id : String) : s.provisionedID id ≠ "" := by
  unfold provisionedID
  split_ifs with h
  exacts [freshID_ne _, h]

/-- The two extensions `Setup` wrote are in the store it leaves, wherever
PagerDuty lists what it creates. -/
theorem mem_setupStore (place : Placement) (store : ExtensionStore) (b : Bot) (schemaID : String) :
    { customActionExtension b schemaID pdApproveAction pdApproveActionLabel with
        id := store.provisionedID (foundExtensions store b.serviceID schemaID).1 } ∈
        (setupStore place store b schemaID).extensions ∧
      { customActionExtension b schemaID pdDenyAction pdDenyActionLabel with
        id := (store.provision place (foundExtensions store b.serviceID schemaID).1
          (customActionExtension b schemaID pdApproveAction pdApproveActionLabel)).provisionedID
          (foundExtensions store b.serviceID schemaID).2 } ∈
        (setupStore place store b schemaID).extensions := by
  have hA := foundExtension_mem_ids store b.serviceID schemaID _ Prod.fst (.inl ⟨rfl, rfl⟩)
  have hD := foundExtension_mem_ids store b.serviceID schemaID _ Prod.snd (.inr ⟨rfl, rfl⟩)
  have hne : (foundExtensions store b.serviceID schemaID).2 ≠ "" →
      store.provisionedID (foundExtensions store b.serviceID schemaID).1 ≠
        (foundExtensions store b.serviceID schemaID).2 :=
    provisionedID_ne_found store b.serviceID schemaID
  unfold setupStore
  generalize foundExtensions store b.serviceID schemaID = ids at hA hD hne
  obtain ⟨a, d⟩ := ids
  refine ⟨ExtensionStore.mem_provision_of_mem place _ (ExtensionStore.mem_provision_self place _ _ hA) ?_,
    ExtensionStore.mem_provision_self place _ _ (hD.imp_right (mem_map_id_provision place))⟩
  by_cases hd : d = ""
  · exact hd ▸ ExtensionStore.provisionedID_ne _ _
  · exact hne hd

theorem listedFor_customActionExtension (b : Bot) (schemaID actionName actionLabel : String) :
    listedFor b.serviceID schemaID (customActionExtension b schemaID actionName actionLabel) = true := by
  simp [listedFor, customActionExtension]

/-- A second run finds both labels, wherever PagerDuty lists what the first
created: the extensions the first run wrote are listed. -/
theorem foundExtensions_setupStore_ne (place : Placement) (store : ExtensionStore) (b : Bot)
    (schemaID : String) :
    (foundExtensions (setupStore place store b schemaID) b.serviceID schemaID).1 ≠ "" ∧
      (foundExtensions (setupStore place store b schemaID) b.serviceID schemaID).2 ≠ "" := by
  obtain ⟨hA, hD⟩ := mem_setupStore place store b schemaID
  exact ⟨fun h => (foundExtension_spec _ _ _ _ Prod.fst (.inl ⟨rfl, rfl⟩)).1.mp h _
      (List.mem_filter.mpr ⟨hA, listedFor_customActionExtension b schemaID pdApproveAction pdApproveActionLabel⟩) rfl,
    fun h => (foundExtension_spec _ _ _ _ Prod.snd (.inr ⟨rfl, rfl⟩)).1.mp h _
      (List.mem_filter.mpr ⟨hD, listedFor_customActionExtension b schemaID pdDenyAction pdDenyActionLabel⟩) rfl⟩

/-! ## The listing a second run sees, when created extensions come last

The label search reads an extension's name and ID only.  `Setup`'s updates
keep both, and when PagerDuty lists its creations last, a second run searches
the first run's listing with the created extensions appended. -/

/-- The part of an extension the label search reads. -/
def nameID (e : Extension) : String × String := (e.name, e.id)

/-- `scanExtension` on names and IDs. -/
def scanNameID (ids : String × String) (x : String × String) : String × String :=
  (if x.1 = pdApproveActionLabel then x.2 else ids.1, if x.1 = pdDenyActionLabel then x.2 else ids.2)

theorem scanPages_congr_nameID {L L' : List Extension} (h : L.map nameID = L'.map nameID)
    (offset : Nat) (more : Bool) (acc : String × String) :
    scanPages L scanExtension extensionSearching offset more acc =
      scanPages L' scanExtension extensionSearching offset more acc := by
  have e : ∀ M : List Extension, scanPages M scanExtension extensionSearching offset more acc =
      scanPages (M.map nameID) scanNameID extensionSearching offset more acc :=
    fun M => (scanPages_map nameID M scanNameID _ _ _ _).symm
  rw [e, e, h]

theorem listed_create (s : ExtensionStore) {ext : Extension} {objectID schemaID : String}
    (h : listedFor objectID schemaID ext = true) :
    (s.create .last ext).listed objectID schemaID =
      s.listed objectID schemaID ++ [{ ext with id := s.provisionedID "" }] := by
  simp [ExtensionStore.listed, ExtensionStore.create, Placement.last, ExtensionStore.provisionedID,
    List.filter_append, List.filter_cons, show listedFor objectID schemaID
      { ext with id := freshID (s.extensions.map (·.id)) } = listedFor objectID schemaID ext from rfl, h]

theorem listed_update (s : ExtensionStore) {id : String} {ext : Extension} {objectID schemaID : String}
    {e₀ : Extension} (he₀ : e₀ ∈ s.listed objectID schemaID) (hid : e₀.id = id)
    (hname : e₀.name = ext.name) (h : listedFor objectID schemaID ext = true) :
    ((s.update id ext).listed objectID schemaID).map nameID = (s.listed objectID schemaID).map nameID := by
  have hupd : ∀ e ∈ s.extensions, e.id = id → e = e₀ := fun e he hi =>
    s.eq_of_id_eq he (listed_sub he₀) (hi.trans hid.symm)
  have hlisted : listedFor objectID schemaID e₀ = true := (List.mem_filter.mp he₀).2
  simp only [ExtensionStore.listed, ExtensionStore.update, updateExtensions, List.filter_map,
    List.map_map]
  rw [List.filter_congr (q := listedFor objectID schemaID) fun e he => by
    by_cases hi : e.id = id
    · obtain rfl := hupd e he hi
      simpa [hi, hlisted] using h
    · simp [hi]]
  exact List.map_congr_left fun e he => by
    by_cases hi : e.id = id
    · obtain rfl := hupd e (List.mem_filter.mp he).1 hi
      simp [nameID, hi, hname]
    · simp [hi]

/-- The listing after one `setupCustomAction`, as the label search sees it. -/
theorem listed_provision (s : ExtensionStore) {id : String} {ext : Extension}
    {objectID schemaID : String} (h : listedFor objectID schemaID ext = true)
    (hid : id = "" ∨ ∃ e ∈ s.listed objectID schemaID, e.name = ext.name ∧ e.id = id) :
    ((s.provision .last id ext).listed objectID schemaID).map nameID =
      (s.listed objectID schemaID ++
        if id = "" then [{ ext with id := s.provisionedID id }] else []).map nameID := by
  unfold ExtensionStore.provision
  split_ifs with he
  · rw [listed_create s h, he]
  · obtain ⟨e₀, he₀, hname, hid₀⟩ := hid.resolve_left he
    rw [listed_update s he₀ hid₀ hname h, List.append_nil]

theorem mem_listed_provision (place : Placement) {s : ExtensionStore} {id : String} {ext : Extension}
    {objectID schemaID : String} {e : Extension} (he : e ∈ s.listed objectID schemaID)
    (hid : e.id ≠ id) : e ∈ (s.provision place id ext).listed objectID schemaID :=
  List.mem_filter.mpr ⟨ExtensionStore.mem_provision_of_mem place ext (listed_sub he) hid,
    (List.mem_filter.mp he).2⟩

theorem foldl_scanLabel_of_forall {label id : String} {xs : List Extension}
    (h : ∀ e ∈ xs, e.name ≠ label) : xs.foldl (scanLabel label) id = id := by
  rw [foldl_scanLabel, List.filter_eq_nil_iff.mpr (by simpa using h)]
  rfl

/-- A listing whose last extension is the first to carry a label is searched to
its end. -/
theorem scanPages_last_label {P : List Extension} {x : Extension} (label : String)
    (pick : String × String → String)
    (hpick : (pick = Prod.fst ∧ label = pdApproveActionLabel) ∨
      (pick = Prod.snd ∧ label = pdDenyActionLabel))
    (hP : ∀ e ∈ P, e.name ≠ label) :
    (scanPages (P ++ [x]) scanExtension extensionSearching 0 true ("", "")).1 =
      (P ++ [x]).foldl scanExtension ("", "") := by
  rw [scanPages_all _ _ _ 0 true _ rfl fun m hm => ?_, List.drop_zero]
  rw [List.drop_zero, List.take_append_of_le_length (by simp at hm; omega), foldl_scanExtension]
  have hnil : (P.take m).foldl (scanLabel label) "" = "" :=
    foldl_scanLabel_of_forall fun e he => hP e (List.mem_of_mem_take he)
  rcases hpick with ⟨rfl, rfl⟩ | ⟨rfl, rfl⟩ <;> simp [extensionSearching, hnil]

/-- When a label is missing, the first run searched the whole listing. -/
theorem foldl_listed_of_missing (store : ExtensionStore) (objectID schemaID : String)
    (h : (foundExtensions store objectID schemaID).1 = "" ∨
      (foundExtensions store objectID schemaID).2 = "") :
    (store.listed objectID schemaID).foldl scanExtension ("", "") =
      foundExtensions store objectID schemaID := by
  obtain ⟨m, hm, hend⟩ := foundExtensions_prefix store objectID schemaID
  have hlen : (store.listed objectID schemaID).length ≤ m := by tauto
  rw [foldl_scanExtension, hm, List.take_of_length_le hlen]

/-- What `setupStore` lists, by name and ID, when created extensions come
last: the first listing, then each extension `setupCustomAction` had to
create. -/
theorem listed_setupStore (store : ExtensionStore) (b : Bot) (schemaID : String) :
    let ids := foundExtensions store b.serviceID schemaID
    let approve := customActionExtension b schemaID pdApproveAction pdApproveActionLabel
    ((setupStore .last store b schemaID).listed b.serviceID schemaID).map nameID =
      (store.listed b.serviceID schemaID ++
        (if ids.1 = "" then [{ approve with id := store.provisionedID ids.1 }] else []) ++
        (if ids.2 = "" then [{ customActionExtension b schemaID pdDenyAction pdDenyActionLabel with
          id := (store.provision .last ids.1 approve).provisionedID ids.2 }] else [])).map nameID := by
  have hA := foundExtension_listed store b.serviceID schemaID _ Prod.fst (.inl ⟨rfl, rfl⟩)
  have hD := foundExtension_listed store b.serviceID schemaID _ Prod.snd (.inr ⟨rfl, rfl⟩)
  have hne := provisionedID_ne_found store b.serviceID schemaID
  simp only [setupStore]
  generalize foundExtensions store b.serviceID schemaID = ids at hA hD hne ⊢
  obtain ⟨a, d⟩ := ids
  dsimp only at hA hD hne ⊢
  have h1 := listed_provision store (listedFor_customActionExtension b schemaID
    pdApproveAction pdApproveActionLabel) hA
  -- the deny extension the first run found is still there after the approve one is provisioned
  have hD1 : d = "" ∨ ∃ e ∈ (store.provision .last a (customActionExtension b schemaID pdApproveAction
      pdApproveActionLabel)).listed b.serviceID schemaID,
      e.name = (customActionExtension b schemaID pdDenyAction pdDenyActionLabel).name ∧ e.id = d := by
    refine hD.imp_right fun ⟨e, he, hn, hi⟩ => ⟨e, mem_listed_provision .last he fun hea => ?_, hn, hi⟩
    by_cases ha : a = ""
    · exact listed_id_ne e he (hea.trans ha)
    · exact hne (hi ▸ listed_id_ne e he)
        (by simp only [ExtensionStore.provisionedID, if_neg ha]; exact hea.symm.trans hi)
  rw [listed_provision _ (listedFor_customActionExtension b schemaID pdDenyAction pdDenyActionLabel) hD1,
    List.map_append, h1, ← List.map_append]

/-- **A second run finds what the first wrote**, when created extensions come
last: in the store `Setup` leaves, the searches end on the two extensions it
created or updated. -/
theorem foundExtensions_setupStore (store : ExtensionStore) (b : Bot) (schemaID : String) :
    foundExtensions (setupStore .last store b schemaID) b.serviceID schemaID =
      (store.provisionedID (foundExtensions store b.serviceID schemaID).1,
        (store.provision .last (foundExtensions store b.serviceID schemaID).1
          (customActionExtension b schemaID pdApproveAction pdApproveActionLabel)).provisionedID
          (foundExtensions store b.serviceID schemaID).2) := by
  have hspecA := foundExtension_spec store b.serviceID schemaID _ Prod.fst (.inl ⟨rfl, rfl⟩)
  have hspecD := foundExtension_spec store b.serviceID schemaID _ Prod.snd (.inr ⟨rfl, rfl⟩)
  have hfold := foldl_listed_of_missing store b.serviceID schemaID
  rw [foundExtensions, scanPages_congr_nameID (listed_setupStore store b schemaID)]
  generalize hids : foundExtensions store b.serviceID schemaID = ids at hspecA hspecD hfold ⊢
  obtain ⟨a, d⟩ := ids
  dsimp only at hspecA hspecD hfold ⊢
  have hAD : pdApproveActionLabel ≠ pdDenyActionLabel := by decide
  by_cases ha : a = "" <;> by_cases hd : d = "" <;> simp only [ha, hd, if_true, if_false, List.append_nil]
  · rw [scanPages_last_label pdDenyActionLabel Prod.snd (.inr ⟨rfl, rfl⟩) fun e he => ?_,
      List.foldl_append, List.foldl_append, hfold (.inl ha)]
    · simp [scanExtension, customActionExtension, hAD, hAD.symm, ha, hd]
    · rcases List.mem_append.mp he with he | he
      · exact (hspecD.1.mp hd) e he
      · simp only [List.mem_singleton] at he; subst he; exact hAD
  · rw [scanPages_last_label pdApproveActionLabel Prod.fst (.inl ⟨rfl, rfl⟩) (hspecA.1.mp ha),
      List.foldl_append, hfold (.inl ha)]
    simp [scanExtension, customActionExtension, hAD, ha, hd, ExtensionStore.provisionedID]
  · rw [scanPages_last_label pdDenyActionLabel Prod.snd (.inr ⟨rfl, rfl⟩) (hspecD.1.mp hd),
      List.foldl_append, hfold (.inr hd)]
    simp [scanExtension, customActionExtension, hAD.symm, ha, hd, ExtensionStore.provisionedID]
  · refine hids.trans ?_
    simp [ExtensionStore.provisionedID, ha, hd]

/-! ## Convergence

A second run updates both extensions to what they already are. -/

@[simp] theorem ExtensionStore.provision_schemas (place : Placement) (s : ExtensionStore) (id : String)
    (ext : Extension) : (s.provision place id ext).schemas = s.schemas := by
  unfold provision; split_ifs <;> rfl

theorem ExtensionStore.length_provision (place : Placement) (s : ExtensionStore) (id : String)
    (ext : Extension) : (s.provision place id ext).extensions.length ≤ s.extensions.length + 1 := by
  unfold provision
  split_ifs
  · simp [create, (place.perm _ _).length_eq]
  · simp [update, updateExtensions]

/-- Updating an extension to what it already is changes nothing. -/
theorem ExtensionStore.provision_eq_self (place : Placement) (s : ExtensionStore) {id : String}
    {ext : Extension} (hid : id ≠ "") (h : { ext with id := id } ∈ s.extensions) :
    s.provision place id ext = s := by
  refine ExtensionStore.ext (provision_schemas place s id ext) ?_
  simp only [provision, if_neg hid, update, updateExtensions]
  conv_rhs => rw [← List.map_id s.extensions]
  exact List.map_congr_left fun e he => by
    split_ifs with hi
    · exact (s.eq_of_id_eq he h hi).symm
    · rfl

@[simp] theorem setupStore_schemas (place : Placement) (store : ExtensionStore) (b : Bot)
    (schemaID : String) : (setupStore place store b schemaID).schemas = store.schemas := by
  simp [setupStore]

theorem length_setupStore (place : Placement) (store : ExtensionStore) (b : Bot) (schemaID : String) :
    (setupStore place store b schemaID).extensions.length ≤ store.extensions.length + 2 := by
  have h₁ := ExtensionStore.length_provision place store (foundExtensions store b.serviceID schemaID).1
    (customActionExtension b schemaID pdApproveAction pdApproveActionLabel)
  have h₂ := ExtensionStore.length_provision place (store.provision place
    (foundExtensions store b.serviceID schemaID).1
    (customActionExtension b schemaID pdApproveAction pdApproveActionLabel))
    (foundExtensions store b.serviceID schemaID).2
    (customActionExtension b schemaID pdDenyAction pdDenyActionLabel)
  unfold setupStore
  omega

/-- The store `Setup` leaves, when created extensions come last, is a fixed
point of its two `setupCustomAction` calls. -/
theorem setupStore_setupStore (store : ExtensionStore) (b : Bot) (schemaID : String) :
    setupStore .last (setupStore .last store b schemaID) b schemaID = setupStore .last store b schemaID := by
  obtain ⟨hA, hD⟩ := mem_setupStore .last store b schemaID
  have hf := foundExtensions_setupStore store b schemaID
  generalize setupStore .last store b schemaID = s at hA hD hf ⊢
  unfold setupStore
  rw [hf, ExtensionStore.provision_eq_self _ _ (ExtensionStore.provisionedID_ne _ _) hA,
    ExtensionStore.provision_eq_self _ _ (ExtensionStore.provisionedID_ne _ _) hD]

/-- `Setup`'s two `setupCustomAction` calls against PagerDuty: they leave
`setupStore`, and create an action's extension exactly when no listed
extension carries its label. -/
theorem setupActions_foundExtensions (place : Placement) (b : Bot) (store : ExtensionStore)
    (schemaID : String) :
    ∃ calls, setupActions (pagerduty place) b store schemaID (foundExtensions store b.serviceID schemaID) =
        (.ok (setupStore place store b schemaID), calls) ∧
      ∀ ext, .createExtension ext ∈ calls ↔
        (ext = customActionExtension b schemaID pdApproveAction pdApproveActionLabel ∨
          ext = customActionExtension b schemaID pdDenyAction pdDenyActionLabel) ∧
        ∀ e ∈ store.listed b.serviceID schemaID, e.name ≠ ext.name := by
  have hA := foundExtension_mem_ids store b.serviceID schemaID _ Prod.fst (.inl ⟨rfl, rfl⟩)
  have hD := foundExtension_mem_ids store b.serviceID schemaID _ Prod.snd (.inr ⟨rfl, rfl⟩)
  have sA := (foundExtension_spec store b.serviceID schemaID _ Prod.fst (.inl ⟨rfl, rfl⟩)).1
  have sD := (foundExtension_spec store b.serviceID schemaID _ Prod.snd (.inr ⟨rfl, rfl⟩)).1
  rw [← Prod.mk.eta (p := foundExtensions store b.serviceID schemaID),
    setupActions_pagerduty place b store schemaID hA hD]
  refine ⟨_, rfl, fun ext => ⟨fun h => ?_, ?_⟩⟩
  · simp only [List.mem_cons, List.mem_singleton, List.not_mem_nil, or_false] at h
    rcases h with h | h <;> split_ifs at h with hx <;> cases h
    · exact ⟨.inl rfl, sA.mp hx⟩
    · exact ⟨.inr rfl, sD.mp hx⟩
  · rintro ⟨rfl | rfl, hn⟩
    · simp [sA.mpr hn]
    · simp [sD.mpr hn]

/-- The listing calls create nothing. -/
theorem createExtension_mem_setupCalls (store : ExtensionStore) (objectID schemaID : String)
    (calls : List SetupCall) (ext : Extension) :
    .createExtension ext ∈ schemaListCalls store ++ extensionListCalls store objectID schemaID ++ calls ↔
      .createExtension ext ∈ calls := by
  simp [schemaListCalls, extensionListCalls]

/-- `Setup` against PagerDuty, when there is a "custom_webhook" schema: it
leaves `setupStore`, and creates an action's extension exactly when no listed
extension carries its label. -/
theorem setup_eq_setupStore (place : Placement) (b : Bot) (store : ExtensionStore) (fuel : Nat)
    (hfuel : store.schemas.length + store.extensions.length < fuel) (hne : webhookSchema store ≠ "") :
    ∃ calls, setup (pagerduty place) b fuel store =
        some (.ok (setupStore place store b (webhookSchema store)), calls) ∧
      ∀ ext, .createExtension ext ∈ calls ↔
        (ext = customActionExtension b (webhookSchema store) pdApproveAction pdApproveActionLabel ∨
          ext = customActionExtension b (webhookSchema store) pdDenyAction pdDenyActionLabel) ∧
        ∀ e ∈ store.listed b.serviceID (webhookSchema store), e.name ≠ ext.name := by
  obtain ⟨calls, hacts, hcreate⟩ := setupActions_foundExtensions place b store (webhookSchema store)
  refine ⟨_, ?_, fun ext =>
    (createExtension_mem_setupCalls store b.serviceID (webhookSchema store) calls ext).trans (hcreate ext)⟩
  simp only [setup_pagerduty place b store fuel hfuel, if_neg hne, hacts]

/-- **`Setup` converges.**  Against PagerDuty, with every call succeeding and
fuel for both listings, `Setup` fails with `NotFound` exactly when no schema
has the key "custom_webhook".  Otherwise it settles on such a schema, creates
an action's extension exactly when no extension of the filtered listing
carries its label, and leaves, for each action, an extension with its label,
pointing at the action's URL, of that schema and on the bot's service.  A
second run creates nothing, wherever PagerDuty lists what the first created;
when it lists it last, the second run leaves the store as it is. -/
theorem setup_converges (place : Placement) (b : Bot) (store : ExtensionStore) (extra : Nat) :
    let fuel := store.schemas.length + store.extensions.length + 3 + extra
    ((∃ e calls, setup (pagerduty place) b fuel store = some (.error e, calls) ∧ e.kind = .notFound) ↔
      ∀ sc ∈ store.schemas, sc.key ≠ "custom_webhook") ∧
    ((∃ sc ∈ store.schemas, sc.key = "custom_webhook") →
      ∃ schemaID store' calls,
        (∃ sc ∈ store.schemas, sc.key = "custom_webhook" ∧ sc.id = schemaID) ∧
        setup (pagerduty place) b fuel store = some (.ok store', calls) ∧
        (∀ ext, .createExtension ext ∈ calls ↔
          (ext = customActionExtension b schemaID pdApproveAction pdApproveActionLabel ∨
            ext = customActionExtension b schemaID pdDenyAction pdDenyActionLabel) ∧
          ∀ e ∈ store.listed b.serviceID schemaID, e.name ≠ ext.name) ∧
        (∃ e ∈ store'.extensions, e.name = pdApproveActionLabel ∧
          e.endpointURL = b.actionURL pdApproveAction ∧
          e.extensionSchema = ⟨"extension_schema_reference", schemaID⟩ ∧
          e.extensionObjects = [⟨"service_reference", b.serviceID⟩]) ∧
        (∃ e ∈ store'.extensions, e.name = pdDenyActionLabel ∧
          e.endpointURL = b.actionURL pdDenyAction ∧
          e.extensionSchema = ⟨"extension_schema_reference", schemaID⟩ ∧
          e.extensionObjects = [⟨"service_reference", b.serviceID⟩]) ∧
        ∃ store'' calls', setup (pagerduty place) b fuel store' = some (.ok store'', calls') ∧
          (∀ ext, .createExtension ext ∉ calls') ∧ (place = .last → store'' = store')) := by
  intro fuel
  have hW := webhookSchema_spec store
  by_cases hne : webhookSchema store = ""
  · have hrun := setup_pagerduty place b store fuel (by omega)
    rw [if_pos hne] at hrun
    have hnone := hW.1.mp hne
    exact ⟨⟨fun _ => hnone, fun _ => ⟨_, _, hrun, rfl⟩⟩,
      fun ⟨sc, hsc, hkey⟩ => absurd hkey (hnone sc hsc)⟩
  obtain ⟨calls, hrun, hcreate⟩ := setup_eq_setupStore place b store fuel (by omega) hne
  refine ⟨⟨fun ⟨e, calls, h, _⟩ => (by rw [hrun] at h; cases h),
    fun h => absurd (hW.1.mpr h) hne⟩, fun _ => ?_⟩
  -- the second run
  have hWS : webhookSchema (setupStore place store b (webhookSchema store)) = webhookSchema store := by
    simp only [webhookSchema, setupStore_schemas]
  obtain ⟨calls', hrun', hcreate'⟩ := setup_eq_setupStore place b
    (setupStore place store b (webhookSchema store)) fuel (by
      have := length_setupStore place store b (webhookSchema store)
      rw [setupStore_schemas]; omega) (by rw [hWS]; exact hne)
  rw [hWS] at hrun' hcreate'
  obtain ⟨hA, hD⟩ := mem_setupStore place store b (webhookSchema store)
  obtain ⟨ha, hd⟩ := foundExtensions_setupStore_ne place store b (webhookSchema store)
  refine ⟨webhookSchema store, _, calls, hW.2 hne, hrun, hcreate, ⟨_, hA, rfl, rfl, rfl, rfl⟩,
    ⟨_, hD, rfl, rfl, rfl, rfl⟩, _, calls', hrun', fun ext hext => ?_, fun hplace => ?_⟩
  · obtain ⟨hext | hext, hn⟩ := (hcreate' ext).mp hext <;> subst hext
    · exact ha ((foundExtension_spec _ _ _ _ Prod.fst (.inl ⟨rfl, rfl⟩)).1.mpr hn)
    · exact hd ((foundExtension_spec _ _ _ _ Prod.snd (.inr ⟨rfl, rfl⟩)).1.mpr hn)
  · subst hplace
    exact setupStore_setupStore store b (webhookSchema store)

/-! ## When created extensions are listed first

A second run stops its search as soon as it has seen both labels.  When
PagerDuty lists an extension it creates before the others, a second run can
see both labels on the first page where the first run had to search to the
end, and update another extension carrying the same label. -/

/-- An extension of the schema "S1" on the service "svc". -/
def dupExtension (id name endpointURL : String) : Extension :=
  ⟨id, name, endpointURL, ⟨"extension_schema_reference", "S1"⟩, [⟨"service_reference", "svc"⟩]⟩

/-- Two "Approve Request" extensions pointing elsewhere, the second on the
second page, and no "Deny Request". -/
def dupStore : ExtensionStore where
  schemas := [⟨"S1", "custom_webhook"⟩]
  extensions := dupExtension "A1" pdApproveActionLabel "old" ::
    (List.range 59).map (fun k => dupExtension ("F" ++ toString k) "Other" "") ++
    [dupExtension "A2" pdApproveActionLabel "old"]
  schema_id_ne := by decide
  extension_id_ne := by decide
  extension_id_nodup := by decide

/-- A bot on the service "svc". -/
def dupBot : Bot := ⟨"bot", "svc", fun actionName => "listener/" ++ actionName⟩

set_option maxRecDepth 4000 in
/-- **With created extensions listed first, a second run changes the store.**
The first run searches both pages for the missing "Deny Request", updates the
second "Approve Request", and creates the deny extension, listed first; the
second run finds both labels on the first page and updates the first
"Approve Request". -/
theorem setup_createdFirst_changes :
    ∃ store' store'' calls calls',
      setup (pagerduty .first) dupBot 65 dupStore = some (.ok store', calls) ∧
      setup (pagerduty .first) dupBot 65 store' = some (.ok store'', calls') ∧ store'' ≠ store' :=
  ⟨_, _, _, _, rfl, rfl, fun h => absurd (congrArg ExtensionStore.extensions h) (by decide)⟩

end AccessPagerduty
