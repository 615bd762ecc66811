/-
# `AccessPagerduty.IncidentKey` — the key that ties an incident back to its request

A webhook callback carries the incident's key, not the request it was opened
for.  `Bot.CreateIncident` writes the key as `"<prefix>/<request-id>"`
(bot.go:503) and `onPagerdutyAction` reads it back with `strings.Split` and a
check on the parts (app.go:191–197).  Encoder and decoder live in two
functions; this module proves they agree on every string.

The round trip holds exactly for the request IDs without a `/`: such an ID
comes back unchanged, and an ID with a `/` makes its own key fail the check
(three or more parts), so the callback is dropped rather than misrouted.
Conversely every key the check accepts is the key of the ID it yields, so the
check admits no second spelling of a key.
-/
import AccessPagerduty.Basic

namespace AccessPagerduty

/-- `strings.Split(s, sep)` for a one-character separator: the pieces between
the separators, `[s]` when there is none. -/
def split (s : String) (sep : Char) : List String :=
  (s.data.splitOn sep).map String.mk

/-- `fmt.Sprintf("%s/%s", pdIncidentKeyPrefix, reqID)`, the `IncidentKey` of
the incident `Bot.CreateIncident` opens for `reqID`. -/
def incidentKey (reqID : String) : String := pdIncidentKeyPrefix ++ "/" ++ reqID

/-- The request ID `onPagerdutyAction` takes from an incident key; `none` where
`len(keyParts) != 2 || keyParts[0] != pdIncidentKeyPrefix` makes it ignore the
callback. -/
def incidentKeyRequestID (key : String) : Option String :=
  match split key '/' with
  | [p, reqID] => if p = pdIncidentKeyPrefix then some reqID else none
  | _ => none

/-! ## Splitting

Go's `strings.Split` on one character is `List.splitOn` on the characters,
so the library's lemmas about `splitOn` and `intercalate` carry the proofs. -/

theorem data_split (s : String) : (split s '/').map String.data = s.data.splitOn '/' := by
  simp [split, Function.comp_def]

theorem split_of_not_mem {s : String} (h : '/' ∉ s.data) : split s '/' = [s] := by
  have : s.data.splitOn '/' = [s.data] :=
    List.splitOnP_eq_single _ _ fun x hx hsep => h (by simpa [eq_of_beq hsep] using hx)
  simp [split, this]

/-- A string with a `/` splits into at least two pieces. -/
theorem length_splitOn_of_mem {l : List Char} (h : '/' ∈ l) : 2 ≤ (l.splitOn '/').length := by
  induction l with
  | nil => simp at h
  | cons c cs ih =>
      simp only [List.splitOn, List.splitOnP_cons]
      by_cases hc : c = '/'
      · have := List.length_pos.mpr (List.splitOnP_ne_nil (· == '/') cs)
        simp [hc]
        omega
      · have hcs : '/' ∈ cs := by simpa [Ne.symm hc] using h
        simpa [hc] using ih hcs

/-- The prefix has no `/`, so the key splits into the prefix and the pieces of
the request ID. -/
theorem split_incidentKey (reqID : String) :
    split (incidentKey reqID) '/' = pdIncidentKeyPrefix :: split reqID '/' := by
  have hp : ∀ x ∈ pdIncidentKeyPrefix.data, ¬(x == '/') = true := by decide
  have hk : (incidentKey reqID).data = pdIncidentKeyPrefix.data ++ '/' :: reqID.data := by
    simp [incidentKey]
  simp only [split, hk, List.splitOn, List.splitOnP_first (· == '/') _ hp '/' rfl reqID.data]
  rfl

/-- Splitting two pieces off a key and joining them with `/` gives the key back. -/
theorem eq_of_split_eq {key p r : String} (h : split key '/' = [p, r]) :
    key = p ++ "/" ++ r := by
  have hj := List.intercalate_splitOn key.data '/'
  rw [← data_split, h] at hj
  exact String.ext (by simp [← hj, List.intercalate])

/-! ## The round trip -/

/-- What the check makes of the key `Bot.CreateIncident` writes: the request ID
itself, or a dropped callback when the ID holds a `/`. -/
theorem incidentKeyRequestID_incidentKey (reqID : String) :
    incidentKeyRequestID (incidentKey reqID) = if '/' ∈ reqID.data then none else some reqID := by
  unfold incidentKeyRequestID
  rw [split_incidentKey]
  split_ifs with h
  · obtain ⟨a, b, t, hab⟩ : ∃ a b t, split reqID '/' = a :: b :: t := by
      have h2 := length_splitOn_of_mem h
      rw [← data_split, List.length_map] at h2
      match hs : split reqID '/', h2 with
      | a :: b :: t, _ => exact ⟨a, b, t, rfl⟩
    simp [hab]
  · simp [split_of_not_mem h]

/-- Every key the check accepts is the key of the request ID it yields. -/
theorem incidentKey_of_incidentKeyRequestID {key reqID : String}
    (h : incidentKeyRequestID key = some reqID) : key = incidentKey reqID := by
  unfold incidentKeyRequestID at h
  match hs : split key '/', h with
  | [p, r], h =>
      simp only [hs, Option.ite_none_right_eq_some, Option.some.injEq] at h
      obtain ⟨rfl, rfl⟩ := h
      exact eq_of_split_eq hs

/-- **The incident-key format is a bijection** between the `/`-free request
IDs and the keys `onPagerdutyAction` accepts. -/
theorem incidentKey_bijective :
    (∀ reqID, incidentKeyRequestID (incidentKey reqID) = some reqID ↔ '/' ∉ reqID.data) ∧
    (∀ key reqID, incidentKeyRequestID key = some reqID → key = incidentKey reqID) := by
  refine ⟨fun reqID => ?_, fun _ _ => incidentKey_of_incidentKeyRequestID⟩
  rw [incidentKeyRequestID_incidentKey]
  split_ifs with h <;> simp [h]

end AccessPagerduty
