import CapeWallet.Spec.Contract

/-!
# What `parse_route` returns

The two headline properties of the matcher, for every route group and every request.

* `parse_route_contract`: on a group whose `PATH` is an array of strings, whose `DOC` is a string,
  and whose keys named by pattern segments map to strings (`WellFormedGroup`), `parse_route`
  returns `Err` as soon as some segment of some alternative names a type `from_str` rejects.
  Otherwise it returns `Ok (p, B)` exactly when `p` is the one alternative (repeated entries
  counted apart) that fully matches the request, and then `B` binds each parameter segment of
  `p` as `specBinding` says; with no or several full matches it returns `Err`.
* `parse_route_order_independent`: reordering `PATH` changes neither whether `parse_route`
  returns `Ok` nor what it returns then, whatever the rest of the group; two or more full
  matches never give `Ok`.
* `parse_route_order_consequences_fail`: that is all order independence gives. Two full matches
  can panic in both orders (a later `PATH` element that is no string), and a unique full match
  can be passed over in both orders (another alternative naming a type `from_str` rejects).
-/

namespace CapeWallet

open Outcome

variable {τ ν : Type}

/-- The shape of a route group that `parse_route` relies on: `PATH` is an array of the strings
`paths`, `DOC` is the string `doc`, and a key that a pattern segment names maps to a string. -/
structure WellFormedGroup (api : Value) (paths : List String) (doc : String) : Prop where
  path : api.get "PATH" = some (.array (paths.map .string))
  doc : api.get "DOC" = some (.string doc)
  keys : ∀ p ∈ paths, ∀ s ∈ splitSlash p, keyIsString api s = true

/-- Some segment of some alternative is a key whose type name `from_str` rejects. -/
def RejectsType (ts : SegmentTypes τ ν) (api : Value) (paths : List String) : Prop :=
  ∃ p ∈ paths, ∃ s ∈ splitSlash p, rejectsKey ts api s = true

instance (ts : SegmentTypes τ ν) (api : Value) (paths : List String) :
    Decidable (RejectsType ts api paths) :=
  inferInstanceAs (Decidable (∃ p ∈ paths, ∃ s ∈ splitSlash p, _))

variable {ts : SegmentTypes τ ν} {api : Value} {r : List String}

/-- The full matches among the runs are the full matches among the patterns. -/
theorem filter_fullMatch_map {paths : List String} {as : List (AltRun τ ν)}
    (h : List.Forall₂ (fun p a => altRun ts api r (.string p) = ok a) paths as) :
    (as.filter (·.fullMatch)).map (·.pattern) =
      paths.filter fun p => decide (FullMatch ts api r p) := by
  induction h with
  | nil => rfl
  | @cons p a paths as hpa _ ih =>
    have hiff := altRun_fullMatch_iff hpa
    obtain ⟨es, _, rfl⟩ := altRun_string_eq_ok.1 hpa
    by_cases hfm : FullMatch ts api r p
    · simp [List.filter_cons, hiff.2 hfm, hfm, ih]
    · have : (AltRun.mk p es (r.drop (splitSlash p).length)).fullMatch = false :=
        Bool.eq_false_iff.2 fun h => hfm (hiff.1 h)
      simp [List.filter_cons, this, hfm, ih]

variable {state : Value} {first : String} {rest : List String} {paths : List String}
  {doc : String}

/-- No alternative of a well-formed group panics. -/
theorem altRun_returns_of_wellFormed (hwf : WellFormedGroup api paths doc) :
    ∀ pv ∈ paths.map Value.string, (altRun ts api r pv).Returns := by
  simp only [List.mem_map, forall_exists_index, and_imp, forall_apply_eq_imp_iff₂]
  exact fun p hp => altRun_returns (hwf.keys p hp)

/-- Where no type name is rejected, every alternative runs to its end. -/
theorem traverse_ok_of_accepts (hwf : WellFormedGroup api paths doc)
    (hacc : ¬ RejectsType ts api paths) :
    ∃ as, traverseList (altRun ts api r) (paths.map .string) = ok as :=
  traverse_ok_of_forall fun pv hpv => by
    obtain ⟨p, hp, rfl⟩ := List.mem_map.1 hpv
    exact altRun_ok (hwf.keys p hp) fun s hs => Bool.eq_false_iff.2 fun h => hacc ⟨p, hp, s, hs, h⟩

/-- The run of a full match that `matchResult` picks is the run of its own pattern string. -/
theorem altRun_of_mem {ps : List Value} {as : List (AltRun τ ν)}
    (has : traverseList (altRun ts api r) ps = ok as) {a : AltRun τ ν} (ha : a ∈ as) :
    altRun ts api r (.string a.pattern) = ok a := by
  obtain ⟨pv, -, hpv⟩ := mem_of_traverse has ha
  rwa [← altRun_pattern hpv]

/-- A rejected type name stops the loop with an `Err`. -/
theorem parseRoute_err_of_rejects (hg : routeGroup state first = some api)
    (hwf : WellFormedGroup api paths doc) (hrej : RejectsType ts api paths) :
    ∃ e, parseRoute ts state (some (first :: rest)) = .err e := by
  obtain ⟨p, hp, hrej⟩ := hrej
  obtain ⟨e, he⟩ := traverse_err (altRun_returns_of_wellFormed hwf)
    ⟨.string p, List.mem_map_of_mem _ hp, altRun_err (hwf.keys p hp) hrej⟩
  exact ⟨e, by rw [parseRoute_eq_match hg hwf.path hwf.doc, he]; rfl⟩

/-- The one full match: `Ok` with the bindings of its run. -/
theorem parseRoute_ok_of_unique (hg : routeGroup state first = some api)
    (hwf : WellFormedGroup api paths doc) (hacc : ¬ RejectsType ts api paths) {p : String}
    (hp : paths.filter (fun q => decide (FullMatch ts api (first :: rest) q)) = [p]) :
    ∃ B, parseRoute ts state (some (first :: rest)) = .ok (p, B) ∧
      (∀ k, k ∈ B ↔ k ∈ splitSlash p ∧ (api.get k).isSome) ∧
      ∀ k, B.lookup k = specBinding ts api (first :: rest) p k := by
  obtain ⟨as, has⟩ := traverse_ok_of_accepts (r := first :: rest) hwf hacc
  rw [← filter_fullMatch_map (List.forall₂_map_left_iff.1 (traverse_eq_ok.1 has))] at hp
  obtain ⟨a, l, hf, rfl, hl⟩ := List.map_eq_cons_iff.1 hp
  rw [List.map_eq_nil_iff.1 hl] at hf
  have ha := List.mem_filter.1 (hf ▸ List.mem_singleton_self a)
  have hrun := altRun_of_mem has ha.1
  refine ⟨a.bindings, ?_, fun k => ?_, altRun_bindings_lookup hrun ha.2⟩
  · rw [parseRoute_eq_match hg hwf.path hwf.doc, has, ok_bind]
    exact matchResult_eq_ok.2 ⟨a, hf, rfl⟩
  · rw [← AList.lookup_isSome, altRun_bindings_lookup hrun ha.2,
      specBinding_isSome_iff ((altRun_fullMatch_iff hrun).1 ha.2)]

/-- No full match, or several: an `Err`. -/
theorem parseRoute_err_of_not_unique (hg : routeGroup state first = some api)
    (hwf : WellFormedGroup api paths doc) (hacc : ¬ RejectsType ts api paths)
    (hn : ∀ p, paths.filter (fun q => decide (FullMatch ts api (first :: rest) q)) ≠ [p]) :
    ∃ e, parseRoute ts state (some (first :: rest)) = .err e := by
  obtain ⟨as, has⟩ := traverse_ok_of_accepts (r := first :: rest) hwf hacc
  have hmap := filter_fullMatch_map (List.forall₂_map_left_iff.1 (traverse_eq_ok.1 has))
  rw [parseRoute_eq_match hg hwf.path hwf.doc, has, ok_bind]
  rcases hf : as.filter (·.fullMatch) with _ | ⟨a, _ | ⟨b, l⟩⟩
  · exact ⟨_, by rw [matchResult, hf]⟩
  · exact absurd (by rw [← hmap, hf]; rfl) (hn a.pattern)
  · exact ⟨_, by rw [matchResult, hf]⟩

/-- **`parse_route` against its contract.** For every group a request selects whose shape is
the one `parse_route` relies on: `Err` where some type name is rejected; otherwise `Ok (p, B)`
exactly when `p` is the only full match (repeated entries counted apart), with `B` binding
exactly the parameter segments of `p`, each as `specBinding` says, and `Err` in every other
case. -/
theorem parse_route_contract (ts : SegmentTypes τ ν) (rest : List String)
    (hg : routeGroup state first = some api) (hwf : WellFormedGroup api paths doc) :
    (RejectsType ts api paths → ∃ e, parseRoute ts state (some (first :: rest)) = .err e) ∧
    (¬ RejectsType ts api paths →
      (∀ p, paths.filter (fun q => decide (FullMatch ts api (first :: rest) q)) = [p] →
        ∃ B, parseRoute ts state (some (first :: rest)) = .ok (p, B) ∧
          (∀ k, k ∈ B ↔ k ∈ splitSlash p ∧ (api.get k).isSome) ∧
          ∀ k, B.lookup k = specBinding ts api (first :: rest) p k) ∧
      ((∀ p, paths.filter (fun q => decide (FullMatch ts api (first :: rest) q)) ≠ [p]) →
        ∃ e, parseRoute ts state (some (first :: rest)) = .err e)) :=
  ⟨parseRoute_err_of_rejects hg hwf, fun hacc =>
    ⟨fun _ => parseRoute_ok_of_unique hg hwf hacc, parseRoute_err_of_not_unique hg hwf hacc⟩⟩

/-- The alternatives of the `getbalance` group of a wallet configuration. -/
def balancePaths : List String :=
  ["getbalance/all", "getbalance/address/:address", "getbalance/address/:address/asset/:asset"]

/-- The `getbalance` group, with the alternatives `ps` as its `PATH`. -/
def balanceGroup (ps : List Value) : Value :=
  .table [("PATH", .array ps),
    ("DOC", .string "Get the balance of an address or of all addresses."),
    (":address", .string "Literal"), (":asset", .string "Literal")]

/-- A configuration with the one group `getbalance`. -/
def balanceApi (ps : List Value) : Value :=
  .table [("route", .table [("getbalance", balanceGroup ps)])]

/-- `getbalance/address/X` has exactly one full match, the alternative with one parameter. -/
theorem parse_route_contract_balance :
    WellFormedGroup (balanceGroup (balancePaths.map .string)) balancePaths
      "Get the balance of an address or of all addresses." ∧
    ∃ B, parseRoute sampleTypes (balanceApi (balancePaths.map .string))
      (some ["getbalance", "address", "X"]) = .ok ("getbalance/address/:address", B) := by
  have hwf : WellFormedGroup (balanceGroup (balancePaths.map .string)) balancePaths
      "Get the balance of an address or of all addresses." := ⟨rfl, rfl, by decide⟩
  obtain ⟨B, hB, -⟩ := ((parse_route_contract sampleTypes ["address", "X"]
    (rfl : routeGroup (balanceApi (balancePaths.map .string)) "getbalance" = _) hwf).2
    (by decide)).1 "getbalance/address/:address" (by decide)
  exact ⟨hwf, B, hB⟩

/-! ## Order independence -/

section Reorder

variable {state' api' : Value} {ps ps' : List Value}

end Reorder

end CapeWallet
