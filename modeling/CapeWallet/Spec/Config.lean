import CapeWallet.Spec.Router

/-!
# Editing the configuration

`api.toml` is edited group by group. What a maintainer needs of an edit: that it changes the
answers for the requests of the group edited and for no other, and that it does not matter where
in the `route` table a group is written.

Results:
* `parse_route_local`: `parse_route` reads the configuration only through the group the
  request's first segment selects: two configurations that give that segment the same group (or
  both none) get the same answer, whatever else they hold.
* `route_table_order_independent`: reordering the groups of a `route` table with one group per
  key changes no answer of `parse_route`; `init_server` returns on one order exactly when on the
  other, and then registers the same routes up to order.
-/

namespace CapeWallet

open Outcome

variable {τ ν : Type} {ts : SegmentTypes τ ν}

/-- `parse_route` on a request is a function of the group its first segment selects. -/
theorem parseRoute_congr {cfg cfg' : Value} {first : String}
    (h : routeGroup cfg first = routeGroup cfg' first) (rest : List String) :
    parseRoute ts cfg (some (first :: rest)) = parseRoute ts cfg' (some (first :: rest)) := by
  simp only [parseRoute, okOr_some, List.head?_cons, ok_bind]
  rw [bind_index_route, bind_index_route, h]

/-- **`parse_route` reads only the group it selects.** On two configurations that give the
request's first segment the same group, or both none, `parse_route` answers the same, whatever
else the configurations hold: editing one group of `api.toml` changes no answer to a request
for another. -/
theorem parse_route_local (ts : SegmentTypes τ ν) {cfg cfg' : Value} {first : String}
    (h : routeGroup cfg first = routeGroup cfg' first) (rest : List String) :
    parseRoute ts cfg (some (first :: rest)) = parseRoute ts cfg' (some (first :: rest)) :=
  parseRoute_congr h rest

/-- The configuration whose `route` table is `groups`. -/
def walletApi (groups : List (String × Value)) : Value :=
  .table [("route", .table groups)]

/-- The groups `getbalance` and `getinfo`. -/
def walletGroups : List (String × Value) :=
  [("getbalance", balanceGroup (balancePaths.map .string)), ("getinfo", infoGroup)]

/-- Adding the `getbalance` group to the `getinfo` configuration changes no answer to a
`getinfo` request. -/
theorem parse_route_local_info :
    parseRoute sampleTypes infoApi (some ["getinfo", "true"]) =
      parseRoute sampleTypes (walletApi walletGroups) (some ["getinfo", "true"]) :=
  parse_route_local sampleTypes
    (rfl : routeGroup infoApi "getinfo" = routeGroup (walletApi walletGroups) "getinfo") _

section Reorder

variable {cfg cfg' : Value} {groups groups' : List (String × Value)}

/-- `init_server` returns on one order of the table exactly when on the other. -/
theorem initServer_returns_perm (hr : cfg.get "route" = some (.table groups))
    (hr' : cfg'.get "route" = some (.table groups')) (hperm : groups.Perm groups') :
    (initServer cfg).Returns ↔ (initServer cfg').Returns := by
  simp only [initServer, Value.index, hr, hr', expect_some, ok_bind, Value.asTable, returns_map,
    traverse_returns_iff fun kg _ _ => groupRoutes_ne_err]
  exact forall_congr' fun kg => imp_congr_left hperm.mem_iff

/-- **The order of the groups does not matter.** Reorder the groups of a `route` table with one
group per key: `parse_route` answers every request as before; `init_server` returns exactly when
it did, and then registers the same routes, in another order. -/
theorem route_table_order_independent (ts : SegmentTypes τ ν)
    (hr : cfg.get "route" = some (.table groups)) (hr' : cfg'.get "route" = some (.table groups'))
    (hperm : groups.Perm groups') (hnd : (groups.map Prod.fst).Nodup) :
    (∀ segs, parseRoute ts cfg (some segs) = parseRoute ts cfg' (some segs)) ∧
    ((initServer cfg).Returns ↔ (initServer cfg').Returns) ∧
    ∀ routes, initServer cfg = .ok routes →
      ∃ routes', initServer cfg' = .ok routes' ∧ routes.Perm routes' := by
  refine ⟨fun segs => ?_, initServer_returns_perm hr hr' hperm, fun routes h => ?_⟩
  · cases segs with
    | nil => rfl
    | cons first rest =>
      refine parseRoute_congr ?_ rest
      rw [routeGroup, routeGroup, hr, hr']
      exact Value.lookup_perm hperm hnd first
  · obtain ⟨rss, hrss, rfl⟩ := (initServer_eq_ok hr).1 h
    obtain ⟨rss', hrss', hp⟩ := traverse_perm hperm hrss
    exact ⟨rss'.flatten, (initServer_eq_ok hr').2 ⟨rss', hrss', rfl⟩, hp.flatten⟩

end Reorder

/-- The wallet configuration with its two groups swapped answers `getbalance/all` alike. -/
theorem route_table_order_independent_wallet :
    parseRoute sampleTypes (walletApi walletGroups) (some ["getbalance", "all"]) =
      parseRoute sampleTypes (walletApi walletGroups.reverse) (some ["getbalance", "all"]) :=
  (route_table_order_independent sampleTypes
    (rfl : (walletApi walletGroups).get "route" = some (.table walletGroups))
    (rfl : (walletApi walletGroups.reverse).get "route" = some (.table walletGroups.reverse))
    (List.reverse_perm _).symm (by decide)).1 _

end CapeWallet
