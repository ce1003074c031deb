import CrownClash.Go.Routes
import CrownClash.Lib.Text

/-!
# Routes whose ids are of the first plane

Ties of the route search are broken by texts, which the server orders by their
characters and the client by their units of sixteen bits.  Where no road ends at an id
with a character beyond the first plane, both orders choose the same route
(`findDispatchRouteBy_utf16`).  The source may have any id: every path of a search
begins with it.
-/

namespace CrownClash.Parity

open Lib

/-- Roads between ids of the first plane. -/
def PlainRoads (roads : List (String × String)) : Prop :=
  ∀ r ∈ roads, FirstPlane r.1 ∧ FirstPlane r.2

instance (roads : List (String × String)) : Decidable (PlainRoads roads) :=
  inferInstanceAs (Decidable (∀ r ∈ roads, FirstPlane r.1 ∧ FirstPlane r.2))

/-- A path that begins at `sourceId` and goes on through ids of the first plane. -/
def Walk (sourceId : String) (path : List String) : Prop :=
  ∃ ids, path = sourceId :: ids ∧ ∀ id ∈ ids, FirstPlane id

variable {roads : List (String × String)} {sourceId : String}

theorem PlainRoads.road (h : PlainRoads roads) {a b : String} (hroad : Go.Road roads a b) :
    FirstPlane b := by
  rcases hroad with hroad | hroad
  · exact (h _ hroad).2
  · exact (h _ hroad).1

theorem walk_self (sourceId : String) : Walk sourceId [sourceId] :=
  ⟨[], rfl, fun _ h => absurd h List.not_mem_nil⟩

theorem Walk.snoc {path : List String} (h : Walk sourceId path) {id : String}
    (hid : FirstPlane id) : Walk sourceId (path ++ [id]) := by
  obtain ⟨ids, rfl, hids⟩ := h
  refine ⟨ids ++ [id], rfl, fun k hk => ?_⟩
  rcases List.mem_append.mp hk with hk | hk
  · exact hids k hk
  · rw [List.mem_singleton.mp hk]
    exact hid

/-- The text of a path is its first id and a text of the first plane. -/
theorem pathKey_cons (a : String) {ids : List String} (h : ∀ id ∈ ids, FirstPlane id) :
    ∃ behind, Go.pathKey (a :: ids) = a ++ behind ∧ FirstPlane behind := by
  induction ids generalizing a with
  | nil => exact ⟨"", by simp [Go.pathKey], by decide⟩
  | cons id ids ih =>
    obtain ⟨behind, hkey, hbehind⟩ := ih id fun k hk => h k (List.mem_cons_of_mem id hk)
    refine ⟨"|" ++ (id ++ behind), ?_, ?_⟩
    · unfold Go.pathKey at hkey ⊢
      rw [String.intercalate_cons_cons, hkey, String.append_assoc]
    · have hbar : FirstPlane "|" := by decide
      exact firstPlane_append.mpr
        ⟨hbar, firstPlane_append.mpr ⟨h id List.mem_cons_self, hbehind⟩⟩

/-- **Both orders compare the paths of a search alike.** -/
theorem utf16Lt_pathKey {p q : List String} (hp : Walk sourceId p) (hq : Walk sourceId q) :
    utf16Lt (Go.pathKey p) (Go.pathKey q) = Go.textBefore (Go.pathKey p) (Go.pathKey q) := by
  obtain ⟨ids, rfl, hids⟩ := hp
  obtain ⟨ids', rfl, hids'⟩ := hq
  obtain ⟨s, hs, hsplain⟩ := pathKey_cons sourceId hids
  obtain ⟨t, ht, htplain⟩ := pathKey_cons sourceId hids'
  rw [hs, ht]
  exact utf16Lt_append sourceId hsplain htplain

/-- Both orders list the neighbours of a tower alike. -/
theorem tacticalNeighborsBy_utf16 (h : PlainRoads roads) (id : String) :
    Go.tacticalNeighborsBy utf16Lt roads id = Go.tacticalNeighborsBy Go.textBefore roads id := by
  refine sortBy_congr fun a ha b hb => ?_
  have hplain : ∀ c ∈ roads.filterMap (fun r =>
      if r.1 = id then some r.2 else if r.2 = id then some r.1 else none), FirstPlane c := by
    intro c hc
    have hmem : c ∈ Go.tacticalNeighborsBy utf16Lt roads id := mem_sortBy.mpr hc
    exact h.road (Go.mem_tacticalNeighborsBy.mp hmem)
  have hsame := utf16Lt_append "" (hplain a ha) (hplain b hb)
  rw [String.empty_append, String.empty_append] at hsame
  exact hsame

theorem walk_of_pathTo (h : PlainRoads roads) {state : GameState} {owner : Team} {id : String}
    {p : List String} (hp : PathTo (Go.OwnRoad roads state owner) sourceId id p) :
    Walk sourceId p := by
  have hchain : p.IsChain fun a b => Go.OwnRoad roads state owner a b ∧ FirstPlane b :=
    hp.chain.imp fun a b hab => ⟨hab, h.road hab.1⟩
  obtain ⟨-, hids⟩ := isChain_and_iff.mp hchain
  have hhead := hp.head
  cases p with
  | nil => cases hhead
  | cons first ids =>
    cases hhead
    exact ⟨ids, rfl, hids⟩

variable [MathLib]

/-- **The queue loop does not depend on the order of the texts.** -/
theorem friendlyPathsLoopBy_utf16 (h : PlainRoads roads) (state : GameState) (owner : Team) :
    ∀ (fuel : ℕ) (queue : List Go.QueueEntry) (best : Record String Go.RouteEntry),
      (∀ e ∈ queue, Walk sourceId e.path) →
        Go.friendlyPathsLoopBy utf16Lt roads state owner fuel queue best
          = Go.friendlyPathsLoopBy Go.textBefore roads state owner fuel queue best := by
  intro fuel
  induction fuel with
  | zero => intro queue best _; rfl
  | succ fuel ih =>
    intro queue best hqueue
    have hsort : sortBy (Go.queueBeforeBy utf16Lt) queue
        = sortBy (Go.queueBeforeBy Go.textBefore) queue := by
      refine sortBy_congr fun a ha b hb => ?_
      unfold Go.queueBeforeBy
      rw [utf16Lt_pathKey (hqueue a ha) (hqueue b hb)]
    rw [Go.friendlyPathsLoopBy, Go.friendlyPathsLoopBy, hsort]
    cases hs : sortBy (Go.queueBeforeBy Go.textBefore) queue with
    | nil => rfl
    | cons next rest =>
      have hwalks : ∀ e ∈ next :: rest, Walk sourceId e.path := by
        intro e he
        rw [← hs] at he
        exact hqueue e (mem_sortBy.mp he)
      have hpushes : ∀ best, Go.friendlyPushesBy utf16Lt roads state owner best next
          = Go.friendlyPushesBy Go.textBefore roads state owner best next := by
        intro best
        unfold Go.friendlyPushesBy
        rw [tacticalNeighborsBy_utf16 h]
      dsimp only
      rw [hpushes, ih rest best fun e he => hwalks e (List.mem_cons_of_mem next he)]
      congr 1
      apply ih
      intro e he
      rcases List.mem_append.mp he with he | he
      · exact hwalks e (List.mem_cons_of_mem next he)
      · obtain ⟨hroad, -, -, hpath⟩ := Go.mem_friendlyPushesBy.mp he
        rw [hpath]
        exact (hwalks next List.mem_cons_self).snoc (h.road hroad.1)

theorem friendlyPathsBy_utf16 (h : PlainRoads roads) (state : GameState) (sourceId : String)
    (owner : Team) : Go.friendlyPathsBy utf16Lt roads state sourceId owner
      = Go.friendlyPathsBy Go.textBefore roads state sourceId owner := by
  refine @friendlyPathsLoopBy_utf16 roads sourceId _ h state owner _ _ _ fun e he => ?_
  rw [List.mem_singleton.mp he]
  exact walk_self sourceId

/-- The loop over the towers next to a target chooses the same way in. -/
theorem foldl_considerEntryBy_utf16 {state : GameState}
    {reachable : Record String Go.RouteEntry} {target : Territory} {targetId : String}
    (hreachable : ∀ id e, reachable.get? id = some e → Walk sourceId e.path)
    (htarget : FirstPlane targetId) : ∀ (ids : List String) (chosen : Option Go.RouteEntry),
      (∀ c, chosen = some c → Walk sourceId c.path) →
        ids.foldl (Go.considerEntryBy utf16Lt state reachable target targetId) chosen
          = ids.foldl (Go.considerEntryBy Go.textBefore state reachable target targetId)
              chosen := by
  intro ids
  induction ids with
  | nil => intro chosen _; rfl
  | cons id ids ih =>
    intro chosen hchosen
    rw [List.foldl_cons, List.foldl_cons]
    have hstep : Go.considerEntryBy utf16Lt state reachable target targetId chosen id
        = Go.considerEntryBy Go.textBefore state reachable target targetId chosen id ∧
        ∀ c, Go.considerEntryBy Go.textBefore state reachable target targetId chosen id = some c →
          Walk sourceId c.path := by
      unfold Go.considerEntryBy
      cases hr : reachable.get? id with
      | none => exact ⟨rfl, hchosen⟩
      | some e =>
        have hnew := (hreachable id e hr).snoc htarget
        cases chosen with
        | none =>
          refine ⟨rfl, fun c hc => ?_⟩
          cases hc
          exact hnew
        | some b =>
          have hold := hchosen b rfl
          unfold Go.chooseRouteBy
          dsimp only
          rw [utf16Lt_pathKey hnew hold]
          refine ⟨rfl, fun c hc => ?_⟩
          split at hc
          · cases hc
            exact hnew
          · cases hc
            exact hold
    rw [hstep.1]
    exact ih _ hstep.2

/-- **Between ids of the first plane the order of the texts does not show**: both searches
find the same route. -/
theorem findDispatchRouteBy_utf16 (h : PlainRoads roads) (state : GameState)
    (sourceId targetId : String) (owner : Team) :
    Go.findDispatchRouteBy utf16Lt roads state sourceId targetId owner
      = Go.findDispatchRouteOn roads state sourceId targetId owner := by
  have hreachable : ∀ id e, (Go.friendlyPathsBy Go.textBefore roads state sourceId owner).get? id
      = some e → Walk sourceId e.path := fun id e he =>
    walk_of_pathTo h (Go.friendlyPathsBy_some Go.totalOrder_textBefore.toWeakOrder he).1
  have hfold : ∀ target, (Go.tacticalNeighborsBy Go.textBefore roads targetId).foldl
        (Go.considerEntryBy utf16Lt state
          (Go.friendlyPathsBy Go.textBefore roads state sourceId owner) target targetId) none
      = (Go.tacticalNeighborsBy Go.textBefore roads targetId).foldl
        (Go.considerEntryBy Go.textBefore state
          (Go.friendlyPathsBy Go.textBefore roads state sourceId owner) target targetId) none := by
    intro target
    cases hids : Go.tacticalNeighborsBy Go.textBefore roads targetId with
    | nil => rfl
    | cons id ids =>
      have hmem : id ∈ Go.tacticalNeighborsBy Go.textBefore roads targetId := by
        rw [hids]
        exact List.mem_cons_self
      have htarget : FirstPlane targetId := h.road (Go.mem_tacticalNeighborsBy.mp hmem).symm
      exact foldl_considerEntryBy_utf16 hreachable htarget _ _ fun _ hc => by cases hc
  unfold Go.findDispatchRouteOn Go.findDispatchRouteBy
  simp only [tacticalNeighborsBy_utf16 h, friendlyPathsBy_utf16 h, hfold]

end CrownClash.Parity
