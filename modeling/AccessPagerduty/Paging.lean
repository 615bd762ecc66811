/-
# `AccessPagerduty.Paging` — the "list until found" loops of `Bot.Setup`

`Bot.Setup` looks things up in two PagerDuty listings with the same loop
(bot.go:408–427 and 433–457):

    for offset, more = 0, true; <still searching> && more; {
        resp, err := client.List...({Offset: offset, Limit: pdListLimit, ...})
        if err != nil { return trace.Wrap(err) }
        for _, item := range resp.Items { <fold item into the search> }
        more = resp.More
        offset += pdListLimit
    }

`pagingLoop` is that loop, once, with the listing call, the fold and the
search test as parameters.  Go's `for` has no bound, and against a server
that always answers `More` it never stops, so the model carries fuel and
answers `none` when the fuel runs out.  Beside the result it returns the
offsets it requested, which is the loop's traffic.

Against an honest paginator — a page is the slice `[offset, offset+limit)`
of a fixed list, `More` says whether anything is left after it — the loop is
the total function `scanPages`, by well-founded recursion on what is left of
the list.  `pagingLoop_honest` says the fuelled loop computes it as soon as
the fuel covers the pages, and what its traffic looks like.

`scanPages` is then characterised without offsets: what it folds is a prefix
of the list, all of it unless the search ended (`scanPages_prefix`), and all
of it when the search never ends early (`scanPages_all`).  `Bot.Setup`'s
proofs use only these two.
-/
import AccessPagerduty.Basic

namespace AccessPagerduty

/-- One page of a listing: its items, and whether more follow. -/
structure Page (α : Type) where
  items : List α
  more : Bool

/-- The paging loop.  `list offset limit` is the listing call; `none` means
the fuel ran out. -/
def pagingLoop {α β : Type} (list : Nat → Nat → Except Error (Page α)) (scan : β → α → β)
    (searching : β → Bool) : Nat → Nat → Bool → β → Option (Except Error β × List Nat)
  | fuel, offset, more, acc =>
    if searching acc && more then
      match fuel with
      | 0 => none
      | fuel + 1 =>
        match list offset pdListLimit with
        | .error e => some (.error e, [offset])
        | .ok page =>
          (pagingLoop list scan searching fuel (offset + pdListLimit) page.more
            (page.items.foldl scan acc)).map fun r => (r.1, offset :: r.2)
    else some (.ok acc, [])

/-- An honest paginator over `items`. -/
def honestPage {α : Type} (items : List α) (offset limit : Nat) : Page α :=
  ⟨(items.drop offset).take limit, offset + limit < items.length⟩

/-- The listing call of an honest paginator, which never fails. -/
def honestList {α : Type} (items : List α) (offset limit : Nat) : Except Error (Page α) :=
  .ok (honestPage items offset limit)

/-- **What the loop folds, against any listing**: items of pages the listing
answered at offsets the loop requested. -/
theorem pagingLoop_ok {α β : Type} {list : Nat → Nat → Except Error (Page α)} {scan : β → α → β}
    {searching : β → Bool} {fuel offset : Nat} {more : Bool} {acc r : β} {offsets : List Nat}
    (h : pagingLoop list scan searching fuel offset more acc = some (.ok r, offsets)) :
    ∃ items : List α, r = items.foldl scan acc ∧
      ∀ x ∈ items, ∃ o ∈ offsets, ∃ page, list o pdListLimit = .ok page ∧ x ∈ page.items := by
  induction fuel generalizing offset more acc offsets with
  | zero =>
    unfold pagingLoop at h
    split_ifs at h
    cases h
    exact ⟨[], rfl, by simp⟩
  | succ fuel ih =>
    unfold pagingLoop at h
    split_ifs at h
    · rcases hl : list offset pdListLimit with e | page <;> simp only [hl] at h
      · cases h
      obtain ⟨⟨r', offs⟩, h', heq⟩ := Option.map_eq_some'.mp h
      cases heq
      obtain ⟨items, hr, hitems⟩ := ih h'
      refine ⟨page.items ++ items, by rw [List.foldl_append, hr], fun x hx => ?_⟩
      rcases List.mem_append.mp hx with hx | hx
      · exact ⟨offset, List.mem_cons_self _ _, page, hl, hx⟩
      · obtain ⟨o, ho, p, hp, hxp⟩ := hitems x hx
        exact ⟨o, List.mem_cons_of_mem _ ho, p, hp, hxp⟩
    · cases h
      exact ⟨[], rfl, by simp⟩

section Honest

variable {α β : Type} (items : List α) (scan : β → α → β) (searching : β → Bool)

/-- The paging loop against `honestPage items`, as a total function. -/
def scanPages (offset : Nat) (more : Bool) (acc : β) : β × List Nat :=
  if h : searching acc ∧ more then
    let r := scanPages (offset + pdListLimit) (offset + pdListLimit < items.length)
      (((items.drop offset).take pdListLimit).foldl scan acc)
    (r.1, offset :: r.2)
  else (acc, [])
termination_by (items.length - offset) + if more then 1 else 0
decreasing_by
  simp_wf
  have : more = true := h.2
  subst this
  split <;> simp [pdListLimit] <;> omega

theorem pagingLoop_stop {list : Nat → Nat → Except Error (Page α)} {fuel offset : Nat}
    {more : Bool} {acc : β} (h : ¬(searching acc = true ∧ more = true)) :
    pagingLoop list scan searching fuel offset more acc = some (.ok acc, []) := by
  cases fuel <;> simp_all [pagingLoop]

/-- **Fuel covering the pages is enough**: the fuelled loop is `scanPages`. -/
theorem pagingLoop_eq_scanPages (fuel offset : Nat) (more : Bool) (acc : β)
    (hfuel : (items.length - offset) / pdListLimit < fuel) :
    pagingLoop (honestList items) scan searching fuel offset more acc =
      some (.ok (scanPages items scan searching offset more acc).1,
        (scanPages items scan searching offset more acc).2) := by
  induction fuel generalizing offset more acc with
  | zero => exact absurd hfuel (Nat.not_lt_zero _)
  | succ fuel ih =>
      rw [scanPages]
      by_cases h : searching acc = true ∧ more = true
      · have hnext : (items.length - (offset + pdListLimit)) / pdListLimit < fuel ∨
            ¬(offset + pdListLimit < items.length) := by
          rw [show pdListLimit = 60 from rfl] at hfuel ⊢; omega
        rw [dif_pos h, pagingLoop, if_pos (by simp [h])]
        simp only [honestList, honestPage]
        rcases hnext with hnext | hend
        · rw [ih _ _ _ hnext]; rfl
        · rw [pagingLoop_stop scan searching (by simp [hend]), scanPages,
            dif_neg (by simp [hend])]; rfl
      · rw [pagingLoop_stop scan searching h, dif_neg h]

/-! ## The traffic of the loop -/

theorem scanPages_ne_nil (offset : Nat) (more : Bool) (acc : β) :
    (scanPages items scan searching offset more acc).2 ≠ [] ↔ searching acc ∧ more := by
  rw [scanPages]
  split <;> simp_all

/-- The offsets requested start at `offset` and step by `pdListLimit`. -/
theorem scanPages_offsets (offset : Nat) (more : Bool) (acc : β) :
    (scanPages items scan searching offset more acc).2 =
      (List.range (scanPages items scan searching offset more acc).2.length).map
        (offset + pdListLimit * ·) := by
  induction offset, more, acc using scanPages.induct items scan searching with
  | case1 offset more acc h ih =>
      rw [scanPages, dif_pos h]
      simp only [List.length_cons, List.range_succ_eq_map, List.map_cons, List.map_map]
      rw [ih]
      simp only [List.length_map, List.length_range, Function.comp_def]
      congr 1
      exact List.map_congr_left fun j _ => by rw [Nat.mul_succ]; omega
  | case2 offset more acc h => rw [scanPages, dif_neg h]; rfl

/-- A request is the first one, or starts inside the list. -/
theorem scanPages_offset_lt (offset : Nat) (more : Bool) (acc : β) :
    ∀ o ∈ (scanPages items scan searching offset more acc).2, o = offset ∨ o < items.length := by
  induction offset, more, acc using scanPages.induct items scan searching with
  | case1 offset more acc h ih =>
      rw [scanPages, dif_pos h]
      intro o ho
      rcases List.mem_cons.mp ho with rfl | ho
      · exact .inl rfl
      · have hmore := (scanPages_ne_nil items scan searching _ _ _).mp (List.ne_nil_of_mem ho)
        rcases ih o ho with rfl | hlt
        · exact .inr (by simpa using hmore.2)
        · exact .inr hlt
  | case2 offset more acc h => rw [scanPages, dif_neg h]; simp

/-- Every request but the last got a page with more after it. -/
theorem scanPages_continue (offset : Nat) (more : Bool) (acc : β) :
    ∀ o ∈ (scanPages items scan searching offset more acc).2.dropLast,
      o + pdListLimit < items.length := by
  induction offset, more, acc using scanPages.induct items scan searching with
  | case1 offset more acc h ih =>
      rw [scanPages, dif_pos h]
      intro o ho
      by_cases hnil : (scanPages items scan searching (offset + pdListLimit)
          (decide (offset + pdListLimit < items.length))
          (List.foldl scan acc (List.take pdListLimit (List.drop offset items)))).2 = []
      · simp [hnil] at ho
      · rw [List.dropLast_cons_of_ne_nil hnil] at ho
        rcases List.mem_cons.mp ho with rfl | ho
        · simpa using ((scanPages_ne_nil items scan searching _ _ _).mp hnil).2
        · exact ih o ho
  | case2 offset more acc h => rw [scanPages, dif_neg h]; simp

/-- **The paging loop terminates against an honest paginator.**  With fuel for
one page more than the list fills, the loop returns what the total function
`scanPages` computes, for any larger fuel too; its requests start at offset 0
and step by `pdListLimit`; none lies past the list's length rounded up to a
page; and only the last request may have got a page that reaches the end. -/
theorem pagingLoop_honest (acc : β) (extra : Nat) :
    pagingLoop (honestList items) scan searching (items.length / pdListLimit + 1 + extra) 0 true
        acc = some (.ok (scanPages items scan searching 0 true acc).1,
          (scanPages items scan searching 0 true acc).2) ∧
      (scanPages items scan searching 0 true acc).2 =
        (List.range (scanPages items scan searching 0 true acc).2.length).map (pdListLimit * ·) ∧
      (∀ o ∈ (scanPages items scan searching 0 true acc).2,
        o ≤ (items.length + pdListLimit - 1) / pdListLimit * pdListLimit) ∧
      (∀ o ∈ (scanPages items scan searching 0 true acc).2.dropLast,
        o + pdListLimit < items.length) := by
  refine ⟨pagingLoop_eq_scanPages items scan searching _ _ _ _ (by rw [Nat.sub_zero]; omega), ?_,
    fun o ho => ?_, scanPages_continue items scan searching 0 true acc⟩
  · simpa using scanPages_offsets items scan searching 0 true acc
  · have := scanPages_offset_lt items scan searching 0 true acc o ho
    simp only [pdListLimit] at this ⊢
    omega

/-! ## What the loop folds

What the loop returns is its search folded over a prefix of the list: all of
it, unless the search had ended. -/

theorem scanPages_prefix (offset : Nat) (more : Bool) (acc : β)
    (hmore : more = true ∨ items.length ≤ offset) :
    ∃ m, (scanPages items scan searching offset more acc).1 =
        ((items.drop offset).take m).foldl scan acc ∧
      (items.length ≤ offset + m ∨ searching (scanPages items scan searching offset more acc).1 = false) := by
  induction offset, more, acc using scanPages.induct items scan searching with
  | case1 offset more acc h ih =>
      obtain ⟨m, hm, hend⟩ := ih (by by_cases hn : offset + pdListLimit < items.length <;> simp [hn]; omega)
      rw [scanPages, dif_pos h]
      refine ⟨pdListLimit + m, ?_, hend.imp (fun _ => by omega) id⟩
      rw [hm, List.take_add, List.foldl_append, List.drop_drop, Nat.add_comm offset]
  | case2 offset more acc h =>
      rw [scanPages, dif_neg h]
      refine ⟨0, by simp, ?_⟩
      cases more <;> simp_all

/-- While the search is not over, the loop folds the whole list. -/
theorem scanPages_all (offset : Nat) (more : Bool) (acc : β) (hmore : more = true)
    (hsearch : ∀ m, offset + m < items.length →
      searching (((items.drop offset).take m).foldl scan acc) = true) :
    (scanPages items scan searching offset more acc).1 = (items.drop offset).foldl scan acc := by
  induction offset, more, acc using scanPages.induct items scan searching with
  | case1 offset more acc h ih =>
      rw [scanPages, dif_pos h]
      by_cases hn : offset + pdListLimit < items.length
      · have hnext := ih (by simpa using hn) fun m hm => by
          have := hsearch (pdListLimit + m) (by omega)
          rwa [List.take_add, List.foldl_append, List.drop_drop] at this
        rw [hnext, ← List.drop_drop, ← List.foldl_append, List.take_append_drop]
      · rw [scanPages, dif_neg (by simp [hn]), List.take_of_length_le (by simp; omega)]
  | case2 offset more acc h =>
      rw [scanPages, dif_neg h]
      by_cases hn : offset < items.length
      · exact absurd ⟨by simpa using hsearch 0 (by omega), hmore⟩ h
      · simp [List.drop_of_length_le (by omega : items.length ≤ offset)]

end Honest

/-- A search that reads only part of each item runs the same on the parts. -/
theorem scanPages_map {α γ β : Type} (f : γ → α) (items : List γ) (scan : β → α → β)
    (searching : β → Bool) (offset : Nat) (more : Bool) (acc : β) :
    scanPages (items.map f) scan searching offset more acc =
      scanPages items (fun b x => scan b (f x)) searching offset more acc := by
  induction offset, more, acc using scanPages.induct items (fun b x => scan b (f x)) searching with
  | case1 offset more acc h ih =>
      conv_lhs => rw [scanPages]
      conv_rhs => rw [scanPages]
      rw [dif_pos h, dif_pos h]
      simp only [List.length_map, ← List.map_drop, ← List.map_take, List.foldl_map] at ih ⊢
      rw [ih]
  | case2 offset more acc h =>
      conv_lhs => rw [scanPages]
      conv_rhs => rw [scanPages]
      rw [dif_neg h, dif_neg h]

/-! ## Against any server

Go's loop has no bound of its own: it stops when the search ends, when a call
fails, or when a page says that none follows.  The fuel is only a resource
bound, and these lemmas say when one exists: as soon as the fuel covers the
first request the server answers with an error or a last page, the loop
returns (`pagingLoop_isSome`); against a server that always says more follow,
with a search no page ends, no fuel is enough (`pagingLoop_endless`). -/

section AnyServer

variable {α β : Type} {list : Nat → Nat → Except Error (Page α)} {scan : β → α → β}
  {searching : β → Bool}

/-- One request of the loop: a failed call ends it, a page goes on from the
next offset. -/
theorem pagingLoop_succ (fuel offset : Nat) (acc : β) (h : searching acc = true) :
    pagingLoop list scan searching (fuel + 1) offset true acc =
      match list offset pdListLimit with
      | .error e => some (.error e, [offset])
      | .ok page => (pagingLoop list scan searching fuel (offset + pdListLimit) page.more
          (page.items.foldl scan acc)).map fun r => (r.1, offset :: r.2) := by
  rw [pagingLoop, if_pos (by simp [h])]

/-- The loop has a result with one more fuel when, after any page it may get
first, the rest has one. -/
theorem pagingLoop_isSome_succ {fuel offset : Nat} {more : Bool} {acc : β}
    (hnext : ∀ page, list offset pdListLimit = .ok page →
      (pagingLoop list scan searching fuel (offset + pdListLimit) page.more
        (page.items.foldl scan acc)).isSome) :
    (pagingLoop list scan searching (fuel + 1) offset more acc).isSome := by
  by_cases h : searching acc = true ∧ more = true
  case neg => rw [pagingLoop_stop scan searching h]; rfl
  obtain ⟨hs, rfl⟩ := h
  rw [pagingLoop_succ fuel offset acc hs]
  rcases hl : list offset pdListLimit with e | page
  · rfl
  · exact Option.isSome_map'.trans (hnext page hl)

/-- **The loop returns once the server stops.**  If the `k`-th request is
answered with an error or with a page after which none follows, fuel for
`k + 1` requests gives a result, whatever came before. -/
theorem pagingLoop_isSome (k : Nat) {fuel offset : Nat} {more : Bool} {acc : β} (hk : k < fuel)
    (hlast : ∀ page, list (offset + pdListLimit * k) pdListLimit = .ok page → page.more = false) :
    (pagingLoop list scan searching fuel offset more acc).isSome := by
  induction k generalizing fuel offset more acc with
  | zero =>
    obtain ⟨fuel, rfl⟩ : ∃ f, fuel = f + 1 := ⟨fuel - 1, by omega⟩
    refine pagingLoop_isSome_succ fun page hl => ?_
    rw [pagingLoop_stop scan searching (by simp [hlast page hl])]
    rfl
  | succ k ih =>
    obtain ⟨fuel, rfl⟩ : ∃ f, fuel = f + 1 := ⟨fuel - 1, by omega⟩
    refine pagingLoop_isSome_succ fun page _ => ih (by omega) fun page' hl => hlast page' ?_
    rwa [Nat.mul_succ, Nat.add_comm _ pdListLimit, ← Nat.add_assoc]

/-- **No fuel is enough against a server that never stops.**  If every
request is answered with a page after which more follow, and no page ends
the search, the loop never returns. -/
theorem pagingLoop_endless
    (hserver : ∀ o, ∃ page, list o pdListLimit = .ok page ∧ page.more = true ∧
      ∀ b, searching b = true → searching (page.items.foldl scan b) = true)
    (fuel offset : Nat) {acc : β} (hacc : searching acc = true) :
    pagingLoop list scan searching fuel offset true acc = none := by
  induction fuel generalizing offset acc with
  | zero => simp [pagingLoop, hacc]
  | succ fuel ih =>
    obtain ⟨page, hl, hmore, hsearch⟩ := hserver offset
    rw [pagingLoop_succ fuel offset acc hacc, hl]
    simp only [hmore, ih _ (hsearch acc hacc), Option.map_none']

end AnyServer

end AccessPagerduty
