import CrownClash.Parity.Domain

/-!
# Routes, in both engines and on any roads

Both searches are one search but for the order of the texts that break its ties, so that
what is shown of it holds of the server's and of the client's; and a side sees every tower
that it may send an army to.
-/

namespace CrownClash.Parity

open Lib

/-- Three towers in a row: two of the player's and one of the enemy's. -/
def threeTowers : GameState where
  battlefieldId := "three_towers"
  territories :=
    ⟨[("a", ⟨"a", "A", 0, 0, 30, .player, 20, 65, 1, 3, .fortress⟩),
      ("b", ⟨"b", "B", 0, 100, 30, .player, 20, 65, 1, 3, .fortress⟩),
      ("c", ⟨"c", "C", 0, 200, 30, .enemy, 20, 65, 1, 3, .fortress⟩)], by decide⟩
  armies := []
  status := .playing
  elapsedTimeSeconds := 0
  timeLimitSeconds := 90
  stats := .zero
  gameplayRulesVersion := 4
  productionReadyAtMs := .empty
  shieldedUntilMs := .empty
  playerAbilityUsed := false
  enemyAbilityUsed := false

def threeRoads : List (String × String) := [("a", "b"), ("c", "b")]

/-- **The route search is correct** in both engines, on any roads, for any owners and any
sites of the towers.  From an own source to another tower a route is found exactly if there
is an open path.  The route is one, visits no tower twice, is the single road into a hostile
target next to the source and otherwise cheapest among the open paths.  Neither the
order and direction in which the roads are listed nor the order of the towers has an
influence on it.  And between ids of the first plane, which both engines order alike, both
find the same. -/
theorem route_search_correct [MathLib] (roads : List (String × String)) {state : GameState}
    (hrules : Go.usesTacticalRules state.gameplayRulesVersion = true)
    {sourceId targetId : String} {owner : Team} (hsource : Go.Owned state owner sourceId)
    {target : Territory} (htarget : state.territories.get? targetId = some target)
    (hne : sourceId ≠ targetId) :
    Go.RouteSearch Ts.findDispatchRouteOn roads state sourceId targetId owner target ∧
    Go.RouteSearch Go.findDispatchRouteOn roads state sourceId targetId owner target ∧
    (PlainRoads roads → Ts.findDispatchRouteOn roads state sourceId targetId owner
      = Go.findDispatchRouteOn roads state sourceId targetId owner) :=
  ⟨findDispatchRouteOn_correct roads hrules hsource htarget hne,
    Go.findDispatchRouteOn_correct roads hrules hsource htarget hne,
    fun hplain => findDispatchRouteOn_eq hplain state sourceId targetId owner⟩

theorem openPath_three : Go.OpenPath threeRoads threeTowers .player "a" "c" ["a", "b", "c"] := by
  refine ⟨⟨rfl, rfl, ?_⟩, ?_⟩
  · rw [List.isChain_cons_cons, List.isChain_cons_cons]
    refine ⟨Or.inl ?_, Or.inr ?_, List.isChain_singleton _⟩
    · exact List.mem_cons_self
    · exact List.mem_cons_of_mem _ List.mem_cons_self
  · intro id hid
    rw [List.mem_singleton.mp hid]
    exact ⟨_, rfl, rfl⟩

/-- The player reaches the enemy through its own second tower. -/
theorem route_search_three : ∃ route,
    @Ts.findDispatchRouteOn decimalHypot threeRoads threeTowers "a" "c" .player = some route ∧
      @Go.findDispatchRouteOn decimalHypot threeRoads threeTowers "a" "c" .player
        = some route := by
  obtain ⟨-, ⟨hfound, -, -⟩, hsame⟩ := @route_search_correct decimalHypot threeRoads threeTowers
    (by decide) "a" "c" .player ⟨_, rfl, rfl⟩ _ rfl (by decide)
  obtain ⟨route, hroute⟩ := hfound.mpr ⟨["a", "b", "c"], openPath_three⟩
  exact ⟨route, (hsame (by decide)).trans hroute, hroute⟩

/-! ### Fog -/

theorem owned_iff {state : GameState} {owner : Team} {id : String} :
    (state.territories.get? id).map Territory.owner = some owner ↔ Go.Owned state owner id := by
  unfold Go.Owned
  exact Option.map_eq_some_iff

/-- What a side sees: its own towers, and the other ends of the roads at them. -/
theorem mem_computeVisibleTerritoryIdsOn {roads : List (String × String)} {state : GameState}
    {owner : Team} {id : String} :
    id ∈ Ts.computeVisibleTerritoryIdsOn roads state owner ↔
      (∃ t ∈ state.territories.values, t.owner = owner ∧ t.id = id) ∨
        ∃ a, Go.Owned state owner a ∧ Go.Road roads a id := by
  have hfold : ∀ (roads : List (String × String)) (visible : List String),
      id ∈ roads.foldl (fun visible r =>
          let visible :=
            if (state.territories.get? r.1).map Territory.owner = some owner then visible ++ [r.2]
            else visible
          if (state.territories.get? r.2).map Territory.owner = some owner then visible ++ [r.1]
          else visible) visible ↔
        id ∈ visible ∨ ∃ a, Go.Owned state owner a ∧ Go.Road roads a id := by
    intro roads
    induction roads with
    | nil =>
      intro visible
      refine ⟨Or.inl, fun h => h.resolve_right ?_⟩
      rintro ⟨a, -, h | h⟩
      · exact absurd h List.not_mem_nil
      · exact absurd h List.not_mem_nil
    | cons r roads ih =>
      intro visible
      have hroad : (∃ a, Go.Owned state owner a ∧ Go.Road (r :: roads) a id) ↔
          (Go.Owned state owner r.1 ∧ id = r.2) ∨ (Go.Owned state owner r.2 ∧ id = r.1) ∨
            ∃ a, Go.Owned state owner a ∧ Go.Road roads a id := by
        constructor
        · rintro ⟨a, ha, h | h⟩
          · rcases List.mem_cons.mp h with rfl | h
            · exact Or.inl ⟨ha, rfl⟩
            · exact Or.inr (Or.inr ⟨a, ha, Or.inl h⟩)
          · rcases List.mem_cons.mp h with rfl | h
            · exact Or.inr (Or.inl ⟨ha, rfl⟩)
            · exact Or.inr (Or.inr ⟨a, ha, Or.inr h⟩)
        · rintro (⟨ha, rfl⟩ | ⟨ha, rfl⟩ | ⟨a, ha, h⟩)
          · exact ⟨r.1, ha, Or.inl List.mem_cons_self⟩
          · exact ⟨r.2, ha, Or.inr List.mem_cons_self⟩
          · exact ⟨a, ha, h.imp (List.mem_cons_of_mem r) (List.mem_cons_of_mem r)⟩
      rw [List.foldl_cons, ih, hroad]
      dsimp only
      by_cases h1 : (state.territories.get? r.1).map Territory.owner = some owner
      · by_cases h2 : (state.territories.get? r.2).map Territory.owner = some owner
        · rw [if_pos h1, if_pos h2, List.mem_append, List.mem_append, List.mem_singleton,
            List.mem_singleton]
          have ho1 := owned_iff.mp h1
          have ho2 := owned_iff.mp h2
          tauto
        · rw [if_pos h1, if_neg h2, List.mem_append, List.mem_singleton]
          have ho1 := owned_iff.mp h1
          have ho2 := mt owned_iff.mpr h2
          tauto
      · by_cases h2 : (state.territories.get? r.2).map Territory.owner = some owner
        · rw [if_neg h1, if_pos h2, List.mem_append, List.mem_singleton]
          have ho1 := mt owned_iff.mpr h1
          have ho2 := owned_iff.mp h2
          tauto
        · rw [if_neg h1, if_neg h2]
          have ho1 := mt owned_iff.mpr h1
          have ho2 := mt owned_iff.mpr h2
          tauto
  unfold Ts.computeVisibleTerritoryIdsOn
  dsimp only
  rw [hfold, List.mem_map]
  simp only [List.mem_filter, decide_eq_true_eq, and_assoc]

/-- **Fog never hides a legal order.**  Whatever the roads and the owners, a side sees
the target of every order it may give, and every tower on the way there.  (Towers are
stored under their own ids.) -/
theorem fog_shows_routes [MathLib] (roads : List (String × String)) {state : GameState}
    (hrules : Go.usesTacticalRules state.gameplayRulesVersion = true)
    (hkeys : ∀ id t, state.territories.get? id = some t → t.id = id)
    {sourceId targetId : String} {owner : Team} {route : List String}
    (h : Ts.findDispatchRouteOn roads state sourceId targetId owner = some route) :
    targetId ∈ Ts.computeVisibleTerritoryIdsOn roads state owner ∧
      ∀ id ∈ route, id ∈ Ts.computeVisibleTerritoryIdsOn roads state owner := by
  have hby := h
  rw [findDispatchRouteOn_by] at hby
  obtain ⟨hsource, ⟨target, htarget⟩, hne⟩ := Go.findDispatchRouteBy_ends hby
  have hopen := ((findDispatchRouteOn_correct roads hrules hsource htarget hne).route route h).1
  obtain ⟨u, q, hq, hroad, rfl⟩ := (Go.openPath_iff hne).mp hopen
  have hseenOwn : Go.Owned state owner u := by
    rcases hq.cases_last with ⟨rfl, -⟩ | ⟨v, r, -, hlast, -⟩
    · exact hsource
    · exact hlast.2
  have hseen : ∀ id, Go.Owned state owner id →
      id ∈ Ts.computeVisibleTerritoryIdsOn roads state owner := by
    rintro id ⟨t, ht, ho⟩
    exact mem_computeVisibleTerritoryIdsOn.mpr
      (Or.inl ⟨t, Record.mem_values.mpr ⟨id, ht⟩, ho, hkeys id t ht⟩)
  have htargetSeen : targetId ∈ Ts.computeVisibleTerritoryIdsOn roads state owner :=
    mem_computeVisibleTerritoryIdsOn.mpr (Or.inr ⟨u, hseenOwn, hroad⟩)
  refine ⟨htargetSeen, fun id hid => ?_⟩
  by_cases he : id = targetId
  · rw [he]
    exact htargetSeen
  · exact hseen id (hopen.own hne hsource id hid he)

theorem findDispatchRouteOn_three :
    @Ts.findDispatchRouteOn decimalHypot threeRoads threeTowers "a" "c" .player
      = some ["a", "b", "c"] := by
  decide +kernel

/-- The enemy tower behind the second one is in sight. -/
theorem fog_shows_three : "c" ∈ Ts.computeVisibleTerritoryIdsOn threeRoads threeTowers .player := by
  refine (@fog_shows_routes decimalHypot threeRoads threeTowers (by decide) ?_ "a" "c" .player _
    findDispatchRouteOn_three).1
  intro id t ht
  have hmem := Record.get?_eq_some_iff.mp ht
  simp only [threeTowers, List.mem_cons, List.not_mem_nil, or_false, Prod.mk.injEq] at hmem
  rcases hmem with ⟨rfl, rfl⟩ | ⟨rfl, rfl⟩ | ⟨rfl, rfl⟩
  · rfl
  · rfl
  · rfl

end CrownClash.Parity
