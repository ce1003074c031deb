import CrownClash.Ts.Domain

/-!
# Client: routes on any roads

The search of `tactical-routes.ts` with the roads as an argument, as `Go/Routes.lean`
has that of the server, and the sight of `fog.ts`, which reads the same roads.  Texts are
ordered by their units of sixteen bits, where the server orders them by their bytes.
-/

namespace CrownClash.Ts

open Lib

def tacticalNeighborsOn (roads : List (String × String)) (id : String) : List String :=
  sortBy utf16Lt <| roads.flatMap fun r =>
    if r.1 = id then [r.2] else if r.2 = id then [r.1] else []

/-- The towers whose garrison a side sees: its own, and those one road away. -/
def computeVisibleTerritoryIdsOn (roads : List (String × String)) (state : GameState)
    (owner : Team) : List String :=
  let visible := (state.territories.values.filter fun t => t.owner = owner).map Territory.id
  roads.foldl (fun visible r =>
    let visible :=
      if (state.territories.get? r.1).map Territory.owner = some owner then visible ++ [r.2]
      else visible
    if (state.territories.get? r.2).map Territory.owner = some owner then visible ++ [r.1]
    else visible) visible

/-- An id that names no map has the roads of the default one. -/
def computeVisibleTerritoryIds (state : GameState) (owner : Team) : List String :=
  computeVisibleTerritoryIdsOn (getBattlefield state.battlefieldId).roads state owner

variable [MathLib]

def friendlyPushesOn (roads : List (String × String)) (state : GameState) (owner : Team)
    (best : Record String PathEntry) (next : PathEntry) : List PathEntry :=
  (tacticalNeighborsOn roads next.id).filterMap fun id =>
    match state.territories.get? id with
    | none => none
    | some t =>
      if t.owner ≠ owner ∨ (best.get? id).isSome then none
      else some ⟨id, next.cost + legCost (state.territory next.id) t, next.path ++ [id]⟩

def friendlyPathsLoopOn (roads : List (String × String)) (state : GameState) (owner : Team) :
    ℕ → List PathEntry → Record String PathEntry → Record String PathEntry
  | 0, _, best => best
  | fuel + 1, queue, best =>
    match sortBy (fun a b => comparePathEntry a b < 0) queue with
    | [] => best
    | next :: queue =>
      if (best.get? next.id).isSome then friendlyPathsLoopOn roads state owner fuel queue best
      else
        let best := best.set next.id next
        friendlyPathsLoopOn roads state owner fuel
          (queue ++ friendlyPushesOn roads state owner best next) best

def friendlyPathsOn (roads : List (String × String)) (state : GameState) (sourceId : String)
    (owner : Team) : Record String PathEntry :=
  friendlyPathsLoopOn roads state owner (1 + 2 * roads.length) [⟨sourceId, 0, [sourceId]⟩] .empty

def findDispatchRouteOn (roads : List (String × String)) (state : GameState)
    (sourceId targetId : String) (owner : Team) : Option (List String) :=
  match state.territories.get? sourceId, state.territories.get? targetId with
  | some source, some target =>
    if sourceId = targetId ∨ source.owner ≠ owner then none
    else if !usesTacticalRules state.gameplayRulesVersion then some [sourceId, targetId]
    else if target.owner ≠ owner then
      if (tacticalNeighborsOn roads sourceId).contains targetId then some [sourceId, targetId]
      else
        let reachable := friendlyPathsOn roads state sourceId owner
        let chosen := (tacticalNeighborsOn roads targetId).foldl
          (considerEntry state reachable target targetId) none
        chosen.map PathEntry.path
    else ((friendlyPathsOn roads state sourceId owner).get? targetId).map PathEntry.path
  | _, _ => none

theorem friendlyPathsLoop_on (state : GameState) (owner : Team) :
    ∀ (fuel : ℕ) (queue : List PathEntry) (best : Record String PathEntry),
      friendlyPathsLoop state owner fuel queue best = friendlyPathsLoopOn
        (getBattlefield state.battlefieldId).roads state owner fuel queue best := by
  intro fuel
  induction fuel with
  | zero => intro queue best; rfl
  | succ fuel ih =>
    intro queue best
    rw [friendlyPathsLoop, friendlyPathsLoopOn]
    cases sortBy (fun a b => decide (comparePathEntry a b < 0)) queue with
    | nil => rfl
    | cons next rest =>
      dsimp only
      rw [ih, ih]
      rfl

/-- **The routes of a match are those on the roads of its map.** -/
theorem findDispatchRoute_on (state : GameState) (sourceId targetId : String) (owner : Team) :
    findDispatchRoute state sourceId targetId owner = findDispatchRouteOn
      (getBattlefield state.battlefieldId).roads state sourceId targetId owner := by
  have hpaths : friendlyPaths state sourceId owner
      = friendlyPathsOn (getBattlefield state.battlefieldId).roads state sourceId owner :=
    friendlyPathsLoop_on state owner _ _ _
  unfold findDispatchRoute findDispatchRouteOn
  rw [hpaths]
  rfl

end CrownClash.Ts
