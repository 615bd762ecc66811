/-
# `AccessPagerduty.SetupWrites` — what `Setup` writes, and when it returns, against any client

`Setup` listens to PagerDuty before it writes: it writes an extension only
under a schema the schema listing answered as "custom_webhook", and updates
only an extension the extension listing answered under the label it writes.
This module proves that over any client — one whose calls fail, or whose
pages are not those of a fixed store — and that the writes are the approve
action's extension and then the deny action's, the second only after the
first succeeded.  It also says when `Setup` returns at all: Go's paging
loops have no bound, so `Setup` returns exactly as soon as PagerDuty ends its
listings, and never against a schema listing that goes on for ever.

## The results

* `schemaListed_of_loop`, `extensionListed_of_loop`: a search that moved off
  `""` found its ID in a page the listing answered.
* `setup_writes`: `Setup`'s calls are listings followed by at most the two
  writes, as above.
* `setup_returns`: fuel past the page at which PagerDuty ends both listings
  is enough for a result.
* `setup_endless`: against a schema listing that always says more follow and
  never shows a "custom_webhook" schema, no fuel is enough.
-/
import AccessPagerduty.Setup

namespace AccessPagerduty

variable {σ : Type}

/-- The extension a call writes, if it is a write. -/
def SetupCall.written : SetupCall → Option Extension
  | .createExtension ext => some ext
  | .updateExtension _ ext => some ext
  | _ => none

/-- What a client answers a write made against a state. -/
def Client.write (c : Client σ) (s : σ) : SetupCall → Except Error σ
  | .createExtension ext => c.createExtension s ext
  | .updateExtension id ext => c.updateExtension s id ext
  | _ => .ok s

/-- Among `calls`, a schema listing answered a page holding a "custom_webhook"
schema with this ID. -/
def SchemaListed (c : Client σ) (s : σ) (calls : List SetupCall) (schemaID : String) : Prop :=
  ∃ o page sc, .listExtensionSchemas o pdListLimit ∈ calls ∧
    c.listExtensionSchemas s o pdListLimit = .ok page ∧ sc ∈ page.items ∧
    sc.key = "custom_webhook" ∧ sc.id = schemaID

/-- Among `calls`, a listing of the service's extensions of a schema answered
a page holding an extension with this label and ID. -/
def ExtensionListed (c : Client σ) (s : σ) (calls : List SetupCall) (objectID schemaID label id : String) :
    Prop :=
  ∃ o page e, .listExtensions o pdListLimit objectID schemaID ∈ calls ∧
    c.listExtensions s objectID schemaID o pdListLimit = .ok page ∧ e ∈ page.items ∧
    e.name = label ∧ e.id = id

/-! ## The two searches -/

/-- The schema search ends off `""` only on a schema the listing answered. -/
theorem schemaListed_of_loop {c : Client σ} {s : σ} {fuel : Nat} {schemaID : String}
    {offsets : List Nat}
    (h : pagingLoop (c.listExtensionSchemas s) scanSchema schemaSearching fuel 0 true "" =
      some (.ok schemaID, offsets)) (hne : schemaID ≠ "") :
    SchemaListed c s (offsets.map (.listExtensionSchemas · pdListLimit)) schemaID := by
  obtain ⟨items, rfl, hitems⟩ := pagingLoop_ok h
  rw [foldl_scanSchema] at hne ⊢
  obtain ⟨sc, hsc, hkey, hid⟩ := pick_mem hne
  obtain ⟨o, ho, page, hpage, hmem⟩ := hitems sc hsc
  exact ⟨o, page, sc, List.mem_map_of_mem _ ho, hpage, hmem, by simpa using hkey, hid⟩

/-- The extension search ends off `""` for a label only on an extension with
that label the listing answered. -/
theorem extensionListed_of_loop {c : Client σ} {s : σ} {fuel : Nat} {objectID schemaID : String}
    {ids : String × String} {offsets : List Nat}
    (h : pagingLoop (c.listExtensions s objectID schemaID) scanExtension extensionSearching fuel 0 true
      ("", "") = some (.ok ids, offsets)) (label : String) (pick : String × String → String)
    (hpick : (pick = Prod.fst ∧ label = pdApproveActionLabel) ∨
      (pick = Prod.snd ∧ label = pdDenyActionLabel)) (hne : pick ids ≠ "") :
    ExtensionListed c s (offsets.map (.listExtensions · pdListLimit objectID schemaID))
      objectID schemaID label (pick ids) := by
  obtain ⟨items, rfl, hitems⟩ := pagingLoop_ok h
  have key : pick (items.foldl scanExtension ("", "")) = items.foldl (scanLabel label) "" := by
    rcases hpick with ⟨rfl, rfl⟩ | ⟨rfl, rfl⟩ <;> simp [foldl_scanExtension]
  rw [key, foldl_scanLabel] at hne ⊢
  obtain ⟨e, he, hname, hid⟩ := pick_mem hne
  obtain ⟨o, ho, page, hpage, hmem⟩ := hitems e he
  exact ⟨o, page, e, List.mem_map_of_mem _ ho, hpage, hmem, by simpa using hname, hid⟩

theorem SchemaListed.mono {c : Client σ} {s : σ} {calls calls' : List SetupCall} {schemaID : String}
    (h : SchemaListed c s calls schemaID) (hsub : calls ⊆ calls') : SchemaListed c s calls' schemaID :=
  let ⟨o, page, sc, hmem, hrest⟩ := h
  ⟨o, page, sc, hsub hmem, hrest⟩

theorem ExtensionListed.mono {c : Client σ} {s : σ} {calls calls' : List SetupCall}
    {objectID schemaID label id : String} (h : ExtensionListed c s calls objectID schemaID label id)
    (hsub : calls ⊆ calls') : ExtensionListed c s calls' objectID schemaID label id :=
  let ⟨o, page, e, hmem, hrest⟩ := h
  ⟨o, page, e, hsub hmem, hrest⟩

/-! ## The writes -/

/-- The one call `setupCustomAction` makes. -/
def customActionCall (b : Bot) (extensionID schemaID actionName actionLabel : String) : SetupCall :=
  if extensionID = "" then .createExtension (customActionExtension b schemaID actionName actionLabel)
  else .updateExtension extensionID (customActionExtension b schemaID actionName actionLabel)

theorem setupCustomAction_eq (c : Client σ) (b : Bot) (s : σ)
    (extensionID schemaID actionName actionLabel : String) :
    setupCustomAction c b s extensionID schemaID actionName actionLabel =
      (c.write s (customActionCall b extensionID schemaID actionName actionLabel),
        [customActionCall b extensionID schemaID actionName actionLabel]) := by
  unfold setupCustomAction customActionCall
  split_ifs <;> rfl

@[simp] theorem written_customActionCall (b : Bot) (extensionID schemaID actionName actionLabel : String) :
    (customActionCall b extensionID schemaID actionName actionLabel).written =
      some (customActionExtension b schemaID actionName actionLabel) := by
  unfold customActionCall
  split_ifs <;> rfl

/-- An update is made only on the ID the search found. -/
theorem customActionCall_eq_update {b : Bot} {extensionID schemaID actionName actionLabel id : String}
    {ext : Extension} (h : customActionCall b extensionID schemaID actionName actionLabel = .updateExtension id ext) :
    extensionID ≠ "" ∧ id = extensionID ∧ ext.name = actionLabel := by
  unfold customActionCall at h
  split_ifs at h with h0
  cases h
  exact ⟨h0, rfl, rfl⟩

/-- Listings write nothing. -/
theorem written_listings (offs₁ offs₂ : List Nat) (objectID schemaID : String) :
    ∀ x ∈ offs₁.map (SetupCall.listExtensionSchemas · pdListLimit) ++
      offs₂.map (SetupCall.listExtensions · pdListLimit objectID schemaID), x.written = none := by
  simp only [List.mem_append, List.mem_map]
  rintro x (⟨o, -, rfl⟩ | ⟨o, -, rfl⟩) <;> rfl

/-- **`Setup` writes only what PagerDuty listed.**  Over any client, whose
calls may fail and whose pages need not come from one store, `Setup`'s calls
are listings followed by writes.  The writes are the approve action's
extension and then the deny action's, the second only after the client
accepted the first; both point at a schema a schema listing answered as
"custom_webhook"; an update targets an extension an extension listing of
that schema answered under the label written; and when `Setup` succeeds it
made both writes. -/
theorem setup_writes (c : Client σ) (b : Bot) (fuel : Nat) (s : σ) {res : Except Error σ}
    {calls : List SetupCall} (h : setup c b fuel s = some (res, calls)) :
    ∃ reads writes, calls = reads ++ writes ∧ (∀ x ∈ reads, x.written = none) ∧
      (writes = [] ∨ ∃ schemaID, SchemaListed c s reads schemaID ∧
        writes.map SetupCall.written <+:
          [some (customActionExtension b schemaID pdApproveAction pdApproveActionLabel),
            some (customActionExtension b schemaID pdDenyAction pdDenyActionLabel)] ∧
        (∀ id ext, .updateExtension id ext ∈ writes →
          ExtensionListed c s reads b.serviceID schemaID ext.name id) ∧
        ∀ w₁ w₂, writes = [w₁, w₂] → ∃ s₁, c.write s w₁ = .ok s₁) ∧
      (∀ s', res = .ok s' → writes.length = 2) := by
  unfold setup at h
  rcases h₁ : pagingLoop (c.listExtensionSchemas s) scanSchema schemaSearching fuel 0 true "" with
    _ | ⟨found, offs₁⟩
  · simp [h₁] at h
  simp only [h₁, Option.bind_eq_bind, Option.some_bind] at h
  rcases found with e | sid
  · simp only [pure, Option.some.injEq, Prod.mk.injEq] at h
    obtain ⟨rfl, rfl⟩ := h
    exact ⟨_, [], (List.append_nil _).symm, by simp [SetupCall.written], .inl rfl, by simp⟩
  by_cases hsid : sid = ""
  · simp only [hsid, if_true, pure, Option.some.injEq, Prod.mk.injEq] at h
    obtain ⟨rfl, rfl⟩ := h
    exact ⟨_, [], (List.append_nil _).symm, by simp [SetupCall.written], .inl rfl, by simp⟩
  simp only [hsid, if_false] at h
  rcases h₂ : pagingLoop (c.listExtensions s b.serviceID sid) scanExtension extensionSearching fuel 0 true
    ("", "") with _ | ⟨found, offs₂⟩
  · simp [h₂] at h
  simp only [h₂, Option.bind_eq_bind, Option.some_bind] at h
  rcases found with e | ⟨a, d⟩
  · simp only [pure, Option.some.injEq, Prod.mk.injEq] at h
    obtain ⟨rfl, rfl⟩ := h
    exact ⟨_, [], (List.append_nil _).symm, written_listings _ _ _ _, .inl rfl, by simp⟩
  -- the writes
  set reads := offs₁.map (SetupCall.listExtensionSchemas · pdListLimit) ++
    offs₂.map (SetupCall.listExtensions · pdListLimit b.serviceID sid)
  have hreads : ∀ x ∈ reads, x.written = none := written_listings _ _ _ _
  have hschema : SchemaListed c s reads sid :=
    (schemaListed_of_loop h₁ hsid).mono (List.subset_append_left _ _)
  have hupdate : ∀ id ext, .updateExtension id ext ∈
      [customActionCall b a sid pdApproveAction pdApproveActionLabel,
        customActionCall b d sid pdDenyAction pdDenyActionLabel] →
      ExtensionListed c s reads b.serviceID sid ext.name id := by
    intro id ext hmem
    simp only [List.mem_cons, List.mem_singleton, List.not_mem_nil, or_false] at hmem
    rcases hmem with hmem | hmem
    · obtain ⟨hne, rfl, hname⟩ := customActionCall_eq_update hmem.symm
      rw [hname]
      exact (extensionListed_of_loop h₂ _ Prod.fst (.inl ⟨rfl, rfl⟩) hne).mono
        (List.subset_append_right _ _)
    · obtain ⟨hne, rfl, hname⟩ := customActionCall_eq_update hmem.symm
      rw [hname]
      exact (extensionListed_of_loop h₂ _ Prod.snd (.inr ⟨rfl, rfl⟩) hne).mono
        (List.subset_append_right _ _)
  simp only [setupCustomAction_eq] at h
  rcases ha : c.write s (customActionCall b a sid pdApproveAction pdApproveActionLabel) with e | s₁ <;>
    rw [ha] at h <;> simp only [pure, Option.some.injEq, Prod.mk.injEq] at h <;>
    obtain ⟨rfl, rfl⟩ := h
  · refine ⟨reads, _, rfl, hreads, .inr ⟨sid, hschema, by simp,
      fun id ext hmem => hupdate id ext (List.mem_cons.mpr (.inl (List.mem_singleton.mp hmem))), by simp⟩,
      by simp⟩
  · refine ⟨reads, _, List.append_assoc _ _ _, hreads,
      .inr ⟨sid, hschema, by simp, fun id ext hmem => hupdate id ext hmem, ?_⟩, by simp⟩
    intro w₁ w₂ hw
    simp only [List.singleton_append, List.cons.injEq] at hw
    exact ⟨s₁, hw.1 ▸ ha⟩
/-- An account that lists one "custom_webhook" schema and no extensions, and
accepts every write. -/
def freshAccount : Client Unit where
  listExtensionSchemas _ _ _ := .ok ⟨[⟨"S1", "custom_webhook"⟩], false⟩
  listExtensions _ _ _ _ _ := .ok ⟨[], false⟩
  createExtension _ _ := .ok ()
  updateExtension _ _ _ := .ok ()

theorem setup_writes_freshAccount :
    let b : Bot := ⟨"", "P1", fun action => action⟩
    let calls : List SetupCall := [.listExtensionSchemas 0 pdListLimit,
      .listExtensions 0 pdListLimit "P1" "S1",
      .createExtension (customActionExtension b "S1" pdApproveAction pdApproveActionLabel),
      .createExtension (customActionExtension b "S1" pdDenyAction pdDenyActionLabel)]
    setup freshAccount b 1 () = some (.ok (), calls) ∧
    ∃ reads writes, calls = reads ++ writes ∧ (∀ x ∈ reads, x.written = none) ∧
      (writes = [] ∨ ∃ schemaID, SchemaListed freshAccount () reads schemaID ∧
        writes.map SetupCall.written <+:
          [some (customActionExtension b schemaID pdApproveAction pdApproveActionLabel),
            some (customActionExtension b schemaID pdDenyAction pdDenyActionLabel)] ∧
        (∀ id ext, .updateExtension id ext ∈ writes →
          ExtensionListed freshAccount () reads b.serviceID schemaID ext.name id) ∧
        ∀ w₁ w₂, writes = [w₁, w₂] → ∃ s₁, freshAccount.write () w₁ = .ok s₁) ∧
      (∀ s', (Except.ok () : Except Error Unit) = .ok s' → writes.length = 2) :=
  ⟨rfl, setup_writes freshAccount _ 1 () rfl⟩

/-! ## When `Setup` returns -/

/-- **`Setup` returns once PagerDuty ends its listings.**  Against any
client, if the schema listing and every extension listing of the service
answer their `k`-th page with an error or as the last, fuel for `k + 1`
pages gives `Setup` a result, whatever the writes answer. -/
theorem setup_returns (c : Client σ) (b : Bot) (s : σ) (k : Nat) {fuel : Nat} (hk : k < fuel)
    (hschemas : ∀ page, c.listExtensionSchemas s (pdListLimit * k) pdListLimit = .ok page →
      page.more = false)
    (hextensions : ∀ schemaID page,
      c.listExtensions s b.serviceID schemaID (pdListLimit * k) pdListLimit = .ok page →
        page.more = false) :
    (setup c b fuel s).isSome := by
  have hs₁ : (pagingLoop (c.listExtensionSchemas s) scanSchema schemaSearching fuel 0 true "").isSome :=
    pagingLoop_isSome k hk (by simpa using hschemas)
  obtain ⟨⟨found, offs₁⟩, h₁⟩ := Option.isSome_iff_exists.mp hs₁
  unfold setup
  simp only [h₁, Option.bind_eq_bind, Option.some_bind]
  rcases found with e | sid
  · rfl
  simp only
  split_ifs
  · rfl
  have hs₂ : (pagingLoop (c.listExtensions s b.serviceID sid) scanExtension extensionSearching fuel 0
      true ("", "")).isSome := pagingLoop_isSome k hk (by simpa using hextensions sid)
  obtain ⟨⟨found, offs₂⟩, h₂⟩ := Option.isSome_iff_exists.mp hs₂
  simp only [h₂, Option.some_bind]
  rcases found with e | ⟨a, d⟩
  · rfl
  simp only
  split <;> rfl

theorem setup_returns_freshAccount :
    let b : Bot := ⟨"", "P1", fun action => action⟩
    (0 < 1 ∧ (∀ page, freshAccount.listExtensionSchemas () (pdListLimit * 0) pdListLimit = .ok page →
        page.more = false) ∧
      ∀ schemaID page, freshAccount.listExtensions () b.serviceID schemaID (pdListLimit * 0) pdListLimit =
        .ok page → page.more = false) ∧
    (setup freshAccount b 1 ()).isSome :=
  have hschemas : ∀ page, freshAccount.listExtensionSchemas () (pdListLimit * 0) pdListLimit = .ok page →
      page.more = false := fun _ h => by cases h; rfl
  have hextensions : ∀ schemaID page, freshAccount.listExtensions () "P1" schemaID (pdListLimit * 0)
      pdListLimit = .ok page → page.more = false := fun _ _ h => by cases h; rfl
  ⟨⟨by decide, hschemas, hextensions⟩,
    setup_returns freshAccount _ () 0 (by decide) hschemas hextensions⟩

/-- **Against a schema listing that never ends, `Setup` never returns.**  If
every page of the schema listing says more follow and holds no
"custom_webhook" schema, no fuel is enough: Go's loop has no bound. -/
theorem setup_endless (c : Client σ) (b : Bot) (s : σ)
    (hserver : ∀ o, ∃ page, c.listExtensionSchemas s o pdListLimit = .ok page ∧ page.more = true ∧
      ∀ sc ∈ page.items, sc.key ≠ "custom_webhook")
    (fuel : Nat) : setup c b fuel s = none := by
  have hpages : ∀ o, ∃ page, c.listExtensionSchemas s o pdListLimit = .ok page ∧ page.more = true ∧
      ∀ id, schemaSearching id = true → schemaSearching (page.items.foldl scanSchema id) = true := by
    intro o
    obtain ⟨page, hl, hmore, hkey⟩ := hserver o
    refine ⟨page, hl, hmore, fun id hid => ?_⟩
    rwa [foldl_scanSchema, List.filter_eq_nil_iff.mpr (by simpa using hkey)]
  unfold setup
  rw [pagingLoop_endless hpages fuel 0 (show schemaSearching "" = true from rfl)]
  rfl

/-- A schema listing that always answers an empty page and says more follow. -/
def endlessSchemas : Client Unit where
  listExtensionSchemas _ _ _ := .ok ⟨[], true⟩
  listExtensions _ _ _ _ _ := .ok ⟨[], false⟩
  createExtension _ _ := .ok ()
  updateExtension _ _ _ := .ok ()

theorem setup_endless_endlessSchemas :
    let b : Bot := ⟨"", "P1", fun action => action⟩
    (∀ o, ∃ page, endlessSchemas.listExtensionSchemas () o pdListLimit = .ok page ∧ page.more = true ∧
      ∀ sc ∈ page.items, sc.key ≠ "custom_webhook") ∧
    setup endlessSchemas b 100 () = none :=
  have hserver : ∀ o, ∃ page, endlessSchemas.listExtensionSchemas () o pdListLimit = .ok page ∧
      page.more = true ∧ ∀ sc ∈ page.items, sc.key ≠ "custom_webhook" :=
    fun _ => ⟨⟨[], true⟩, rfl, rfl, nofun⟩
  ⟨hserver, setup_endless endlessSchemas _ () hserver 100⟩

end AccessPagerduty
