import TicketTrail.Proofs.Scale.Positions
import TicketTrail.Proofs.Search.UnknownColumns

/-!
# Statuses that are listed

A tracker that lists its statuses lists keys, and histories hold keys too; patterns and ranks go
by display names. The keys are translated twice, once when the ranks are made and once for each
value in a ticket. This module says that both come to the same name, so that no listed key is left
without a rank, and where in the list the rank of a name comes from when keys, display names and
their lower case collide: of several places the last one counts, so a closed status takes an open
one of the same name with it.

Main results:

* `Catalog.status_of_listed` — the ranks of the catalog are the positions in the list;
* `Catalog.listed_statuses_ranked` — which names are ranked, and how the open statuses stand to
  the closed ones.
-/

namespace TicketTrail

namespace Catalog

variable {snapshot : Snapshot} {settings : Settings} {statuses : StatusList}

theorem statusName_of_listed (hStatuses : snapshot.statuses = some statuses) (key : String) :
    (ofSnapshot snapshot settings).statusName key = statuses.displayName key := by
  rw [statusName, ofSnapshot, hStatuses]
  rfl

/-- The ranks of the catalog are the positions in the list. -/
theorem status_of_listed (hStatuses : snapshot.statuses = some statuses)
    (hListed : statuses.openKeys ≠ [] ∨ statuses.closedKeys ≠ []) :
    (ofSnapshot snapshot settings).status = ⟨.status, .ofOrder .ignoreCase statuses.order⟩ := by
  -- the fallback ranks are for trackers that list no status
  have hOrder : statuses.order.isEmpty = false := by
    rw [Bool.eq_false_iff, Ne, List.isEmpty_iff, StatusList.order, List.map_eq_nil_iff,
      List.append_eq_nil_iff]
    rintro ⟨hOpen, hClosed⟩
    exact hListed.elim (absurd hOpen) (absurd hClosed)
  rw [ofSnapshot, hStatuses]
  show (⟨.status, statuses.ranks⟩ : Scale) = _
  rw [StatusList.ranks, hOrder]
  rfl

/-- A listed key is ranked by its display name, unless that is empty. -/
theorem exists_rank?_statusName_iff (hStatuses : snapshot.statuses = some statuses) {key : String}
    (h : key ∈ statuses.openKeys ++ statuses.closedKeys) :
    (∃ rank, (ofSnapshot snapshot settings).status.rank?
        ((ofSnapshot snapshot settings).statusName key) = some rank) ↔
      statuses.displayName key ≠ "" := by
  have hListed : statuses.openKeys ≠ [] ∨ statuses.closedKeys ≠ [] := by
    rw [← not_and_or, ← List.append_eq_nil_iff]
    exact List.ne_nil_of_mem h
  rw [status_of_listed hStatuses hListed, statusName_of_listed hStatuses]
  constructor
  · rintro ⟨rank, hRank⟩
    exact RankTable.ne_empty_of_rank? hRank
  · exact RankTable.exists_rank?_ofOrder (List.mem_map_of_mem h)

/-- A history between listed keys is a history between ranked states. -/
theorem exists_rank?_of_statusEvents (hStatuses : snapshot.statuses = some statuses) {t : Ticket}
    (hHistory : ∀ change ∈ t.history, change.field = .status → ∀ key ∈ change.endpoints,
      key ∈ statuses.openKeys ++ statuses.closedKeys ∧ statuses.displayName key ≠ "")
    {e : Event} (he : e ∈ (ofSnapshot snapshot settings).statusEvents t) {state : String}
    (hState : state ∈ e.endpoints) :
    ∃ rank, (ofSnapshot snapshot settings).status.rank? state = some rank := by
  obtain ⟨event, hEvent, rfl⟩ := List.mem_map.mp he
  obtain ⟨change, hChange, rfl⟩ := List.mem_map.mp hEvent
  obtain ⟨hMem, hField⟩ := List.mem_filter.mp hChange
  -- a state of an event is the name of a key in the history
  rw [Event.endpoints_rename] at hState
  obtain ⟨key, hEnd, rfl⟩ := List.mem_map.mp hState
  obtain ⟨hKey, hDisplay⟩ := hHistory change hMem (eq_of_beq hField) key hEnd
  exact (exists_rank?_statusName_iff hStatuses hKey).mpr hDisplay

/-- An open key ranks below the closed ones unless one of them bears its name. -/
theorem rank?_open_lt_closed (hStatuses : snapshot.statuses = some statuses) {a b : String}
    (hb : b ∈ statuses.closedKeys)
    (hOwn : ∀ other ∈ statuses.closedKeys,
      Text.lower (statuses.displayName other) ≠ Text.lower (statuses.displayName a))
    {i j : Int} (hi : (ofSnapshot snapshot settings).status.rank?
      ((ofSnapshot snapshot settings).statusName a) = some i)
    (hj : (ofSnapshot snapshot settings).status.rank?
      ((ofSnapshot snapshot settings).statusName b) = some j) : i < j := by
  have hListed : statuses.openKeys ≠ [] ∨ statuses.closedKeys ≠ [] :=
    Or.inr (List.ne_nil_of_mem hb)
  -- the names of the closed keys are the back of the order
  have hOrder : statuses.order =
      statuses.openKeys.map statuses.displayName ++ statuses.closedKeys.map statuses.displayName :=
    List.map_append
  rw [status_of_listed hStatuses hListed, statusName_of_listed hStatuses, hOrder] at hi hj
  refine RankTable.rank?_ofOrder_append_lt ?_ (List.mem_map_of_mem hb) hi hj
  -- what stands at the back is the name of a closed key
  intro listed hMem
  obtain ⟨other, hOther, rfl⟩ := List.mem_map.mp hMem
  exact hOwn other hOther

/-- **Listed statuses are ranked by where they are listed.** The order of the statuses is that of
the open keys and the closed keys after them, with display names in place of keys. A name has the
rank of the last position in that order where it stands, case aside, and no rank where it does not
stand; the empty name has none. A listed key is translated to its name in the order, and ranked
after the translation unless that name is empty; so the events of a ticket go between ranked
states when its history goes between such keys. The rank of an open key is less than that of a
closed one, unless some closed key bears the open one's name. -/
theorem listed_statuses_ranked (settings : Settings) (hStatuses : snapshot.statuses = some statuses)
    (hListed : statuses.openKeys ≠ [] ∨ statuses.closedKeys ≠ []) :
    let catalog := ofSnapshot snapshot settings
    let keys := statuses.openKeys ++ statuses.closedKeys
    let display key := (statuses.names.get? key).getD key
    let order := keys.map display
    (∀ name, name ≠ "" →
        (∀ rank, catalog.status.rank? name = some rank ↔
          ∃ position : Nat, rank = position ∧ NameRule.ignoreCase.IsLast order name position) ∧
        (catalog.status.rank? name = none ↔
          ∀ listed ∈ order, Text.lower listed ≠ Text.lower name)) ∧
      catalog.status.rank? "" = none ∧
      (∀ key ∈ keys, catalog.statusName key = display key ∧
        ((∃ rank, catalog.status.rank? (catalog.statusName key) = some rank) ↔ display key ≠ "")) ∧
      (∀ t : Ticket,
        (∀ change ∈ t.history, change.field = .status →
          ∀ key ∈ change.endpoints, key ∈ keys ∧ display key ≠ "") →
        ∀ e ∈ catalog.statusEvents t, ∀ state ∈ e.endpoints,
          ∃ rank, catalog.status.rank? state = some rank) ∧
      ∀ a ∈ statuses.openKeys, ∀ b ∈ statuses.closedKeys,
        (∀ other ∈ statuses.closedKeys, Text.lower (display other) ≠ Text.lower (display a)) →
        ∀ i j, catalog.status.rank? (catalog.statusName a) = some i →
          catalog.status.rank? (catalog.statusName b) = some j → i < j := by
  intro catalog keys display order
  have hStatus : catalog.status = ⟨.status, .ofOrder .ignoreCase order⟩ :=
    status_of_listed hStatuses hListed
  -- all of it is read off the order, once the catalog is known to rank by it
  refine ⟨fun name hNotEmpty => ⟨fun rank => ?_, ?_⟩, rfl, fun key hKey => ⟨?_, ?_⟩, ?_, ?_⟩
  · rw [hStatus]
    exact RankTable.rank?_ofOrder_eq_some_iff hNotEmpty
  · rw [hStatus]
    exact RankTable.rank?_ofOrder_eq_none_iff hNotEmpty
  · exact statusName_of_listed hStatuses key
  · exact exists_rank?_statusName_iff hStatuses hKey
  · intro t hHistory e he state hState
    exact exists_rank?_of_statusEvents hStatuses hHistory he hState
  · intro a _ b hb hOwn i j hi hj
    exact rank?_open_lt_closed hStatuses hb hOwn hi hj

/-- Statuses of which one is listed twice, but for its case, and one open one bears the name of
the closed ones. -/
def collidingStatuses : StatusList where
  openKeys := ["open", "wip", "held", "Open"]
  closedKeys := ["done", "shut"]
  names := .ofList [("wip", "In Progress"), ("held", "DONE"), ("shut", "Done")]

/-- With a status listed twice, and an open one under the name of the closed ones. -/
theorem listed_statuses_ranked_colliding :
    let catalog := ofSnapshot { statuses := some collidingStatuses } {}
    let rank? name := catalog.status.rank? name
    (rank? "OPEN" = some 3 ∧ NameRule.ignoreCase.IsLast collidingStatuses.order "OPEN" 3) ∧
      rank? "wip" = none ∧
      (∃ rank, rank? (catalog.statusName "held") = some rank) ∧
      ∃ i j, rank? (catalog.statusName "wip") = some i ∧
        rank? (catalog.statusName "shut") = some j ∧ i < j := by
  intro catalog rank?
  have hOpen : rank? "OPEN" = some 3 := by decide
  have hWip : rank? (catalog.statusName "wip") = some 1 := by decide
  have hShut : rank? (catalog.statusName "shut") = some 5 := by decide
  have hStatuses : Snapshot.statuses { statuses := some collidingStatuses } =
      some collidingStatuses := rfl
  obtain ⟨hRank, -, hKeys, -, hBelow⟩ :=
    listed_statuses_ranked {} hStatuses (Or.inl (by decide))
  obtain ⟨position, hPosition, hLast⟩ := ((hRank "OPEN" (by decide)).1 3).mp hOpen
  obtain rfl : position = 3 := by omega
  exact ⟨⟨hOpen, hLast⟩, (hRank "wip" (by decide)).2.mpr (by decide),
    (hKeys "held" (by decide)).2.mpr (by decide), 1, 5, hWip, hShut,
    hBelow "wip" (by decide) "shut" (by decide) (by decide) 1 5 hWip hShut⟩

end Catalog

end TicketTrail
