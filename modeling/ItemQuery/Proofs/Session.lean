import ItemQuery.Proofs.Feed
import ItemQuery.Proofs.Plan.Making
import ItemQuery.Proofs.Selection
import ItemQuery.Session

/-! Planning sessions never run into an unknown category.

Every entry of the pool is listed in the catalog, and every selected entry was in a pool
at the time it was selected. The catalog stays, so plans are always made.
-/

set_option autoImplicit false

namespace ItemQuery.Session

/-- How a session goes on: by a step that succeeds, by prices from elsewhere, or by taking over one of the plan's
supplementary entries. A step that fails leaves the session as it is. -/
inductive Follows (session : Session) : Session → Prop where
  | performed {step : Step} {reply : Reply} {next : Session} : session.perform step = .ok (reply, next) →
      Follows session next
  | priced (more : Feed) : Follows session { session with feed := session.feed.append more }
  | added {plan : Plan} {entry : Entry} : session.plan = .ok plan → entry ∈ plan.supplementary →
      Follows session { session with selection := (session.selection.insert entry).2 }

/-- Sessions over a catalog that started with nothing selected. -/
inductive Reached (catalog : Catalog) : Session → Prop where
  | start (feed : Feed) (fill : Bool) : Reached catalog ⟨catalog, feed, {}, fill⟩
  | next {session next : Session} : Reached catalog session → Follows session next → Reached catalog next

/-- The categories of all selected entries are in the catalog. -/
def Known (session : Session) : Prop :=
  ∀ entry ∈ session.selection.entries, session.catalog.fragment.Knows entry.category

variable {catalog : Catalog} {session next : Session} {step : Step} {reply : Reply} {plan : Plan} {entry : Entry}
  {selection : Selection}

theorem plan_eq_attempt (session : Session) :
    session.plan = Plan.attempt session.catalog session.pool session.selection session.fill := by
  unfold Session.plan Plan.attempt
  cases Plan.make session.catalog session.pool session.selection session.fill <;> rfl

theorem plan_eq_ok_iff : session.plan = .ok plan ↔
    Plan.make session.catalog session.pool session.selection session.fill = .ok plan := by
  rw [plan_eq_attempt, Plan.attempt, Except.mapError_eq_ok_iff]

theorem knows_of_mem_pool (member : entry ∈ session.pool) : session.catalog.fragment.Knows entry.category :=
  Feed.knows_of_mem_obtainable member

theorem mem_pool_of_pick {name : String} (picked : session.pick name = .ok entry) : entry ∈ session.pool := by
  unfold pick at picked
  split at picked
  · next found => cases picked; exact Entry.mem_of_named? found
  · cases picked

theorem mem_pool_of_mem_supplementary (made : session.plan = .ok plan) (member : entry ∈ plan.supplementary) :
    entry ∈ session.pool := by
  rw [Plan.supplementary_eq_picks (plan_eq_ok_iff.mp made)] at member
  exact (Supplement.mem_eligible.mp (Supplement.mem_picks.mp member).1).1

theorem mem_insertAll {entries : List Entry} (member : entry ∈ (insertAll selection entries).2.entries) :
    entry ∈ selection.entries ∨ entry ∈ entries := by
  induction entries generalizing selection with
  | nil => exact Or.inl member
  | cons first rest ih =>
    rcases ih member with member | member
    · rcases Selection.mem_insert member with rfl | member
      · exact Or.inr List.mem_cons_self
      · exact Or.inl member
    · exact Or.inr (List.mem_cons_of_mem first member)

/-- Selected entries stay, or they come from the pool. -/
theorem Known.select (known : session.Known)
    (origin : ∀ entry ∈ selection.entries, entry ∈ session.selection.entries ∨ entry ∈ session.pool) :
    Known { session with selection } := by
  intro entry member
  rcases origin entry member with member | member
  · exact known entry member
  · exact knows_of_mem_pool member

theorem Known.perform (known : session.Known) (performed : session.perform step = .ok (reply, next)) :
    next.Known ∧ next.catalog = session.catalog := by
  cases step with
  | toggle name =>
    obtain ⟨picked, found, same⟩ := Except.bind_eq_ok_iff.mp performed
    cases same
    refine ⟨known.select fun entry member => ?_, rfl⟩
    rcases Selection.mem_toggle member with rfl | member
    · exact Or.inr (mem_pool_of_pick found)
    · exact Or.inl member
  | insert name =>
    obtain ⟨picked, found, same⟩ := Except.bind_eq_ok_iff.mp performed
    cases same
    refine ⟨known.select fun entry member => ?_, rfl⟩
    rcases Selection.mem_insert member with rfl | member
    · exact Or.inr (mem_pool_of_pick found)
    · exact Or.inl member
  | remove name =>
    cases performed
    exact ⟨known.select fun entry member => Or.inl (Selection.mem_remove member), rfl⟩
  | select names =>
    obtain ⟨selection, resolved, same⟩ := Except.bind_eq_ok_iff.mp performed
    cases same
    exact ⟨known.select fun entry member => Or.inr (Selection.mem_ofNames resolved entry member), rfl⟩
  | accept =>
    obtain ⟨plan, made, same⟩ := Except.bind_eq_ok_iff.mp performed
    cases same
    refine ⟨known.select fun entry member => ?_, rfl⟩
    -- What a plan adds it has from the pool it was made for.
    exact (mem_insertAll member).imp_right (mem_pool_of_mem_supplementary made)
  | clear =>
    cases performed
    exact ⟨known.select fun entry member => absurd member List.not_mem_nil, rfl⟩
  | fill on =>
    cases performed
    exact ⟨known, rfl⟩
  | prices document =>
    -- New prices change the pool, but the invariant is about the catalog.
    rw [Session.perform] at performed
    split at performed
    · cases performed; exact ⟨known, rfl⟩
    · cases performed

theorem Known.follows (known : session.Known) (follows : Follows session next) :
    next.Known ∧ next.catalog = session.catalog := by
  cases follows with
  | performed performed => exact known.perform performed
  | priced more => exact ⟨known, rfl⟩
  | added made member =>
    refine ⟨known.select fun entry inserted => ?_, rfl⟩
    rcases Selection.mem_insert inserted with rfl | inserted
    · exact Or.inr (mem_pool_of_mem_supplementary made member)
    · exact Or.inl inserted

theorem Reached.known (reached : Reached catalog session) : session.Known ∧ session.catalog = catalog := by
  induction reached with
  | start feed fill => exact ⟨fun _ member => absurd member List.not_mem_nil, rfl⟩
  | next _ follows ih =>
    obtain ⟨known, same⟩ := ih.1.follows follows
    exact ⟨known, same.trans ih.2⟩

theorem Reached.exists_plan (reached : Reached catalog session) (fill : Bool) :
    ∃ plan, Session.plan { session with fill } = .ok plan := by
  rw [plan_eq_attempt]
  obtain ⟨known, _⟩ := reached.known
  exact Plan.exists_attempt (fun entry member missing => Catalog.not_knows_fragment_iff.mpr missing (known entry member))
    fun entry member missing => absurd (knows_of_mem_pool member) (Catalog.not_knows_fragment_iff.mpr missing)

/-- A plan is refused exactly when a selected entry, or one that could be added, has no category in the catalog; the
refusal names the category of the first of them. What stage comes after filling the query is not refused any more,
entries of little worth never matter, and sessions that select from their own pools are never refused a plan. -/
theorem attempt_refused_iff (catalog : Catalog) (pool : List Entry) (selection : Selection) (fill : Bool) :
    ((∃ failure, Plan.attempt catalog pool selection fill = .error failure) ↔
      (∃ entry ∈ selection.entries, catalog.get? entry.category = none) ∨
        ∃ entry ∈ pool, entry.name ∉ selection.names ∧ entry.value.exceeds Supplement.floor = true ∧
          catalog.get? entry.category = none) ∧
    (∀ failure, Plan.attempt catalog pool selection fill = .error failure →
      ∃ first, ((selection.entries.find? fun entry => catalog.get? entry.category = none).or
          ((Supplement.ranked selection.entries pool).find? fun entry => catalog.get? entry.category = none)) =
          some first ∧ failure = .catalog (.unknownCategory first.category)) ∧
    (∀ picked, Supplement.select catalog.fragment selection.entries pool = .ok picked → ∀ applied, applied ⊆ picked →
      (∃ query, CategoryQuery.compile catalog.fragment selection.entries applied = .ok query) ∧
        ∃ found, CategoryQuery.alsoMatching catalog selection.entries applied pool = .ok found) ∧
    ((∀ entry ∈ selection.entries, catalog.get? entry.category ≠ none) →
      (∀ entry ∈ pool, catalog.get? entry.category = none → entry.value.exceeds Supplement.floor = false) →
      ∃ plan, Plan.attempt catalog pool selection fill = .ok plan) ∧
    ∀ session, Reached catalog session → ∀ fill, ∃ plan, Session.plan { session with fill } = .ok plan := by
  exact ⟨Plan.attempt_fails_iff, fun failure failed => Plan.attempt_eq_error_iff.mp failed,
    fun picked selected applied some => Plan.later_stages selected some,
    fun known cheap => Plan.exists_attempt known cheap, fun session reached fill => reached.exists_plan fill⟩

end ItemQuery.Session
