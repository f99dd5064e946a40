import CapeWallet.Basic

/-!
# toml values

Model of `toml::Value` as the server reads it (`WebState::api`, loaded from `api.toml`): the
accessors `get`, `as_str`, `as_array`, `as_table`, `as_bool`, and `Index` (`v[k]`), which
panics with `index not found` where `get` finds nothing. A table is a list of entries; `get`
returns the first entry of a key, which in a parsed toml table is the only one.

Floats and datetimes keep no payload: nothing the server does reads one.
-/

namespace CapeWallet

/-- `toml::Value`. -/
inductive Value where
  | string (s : String)
  | integer (i : Int)
  | float
  | boolean (b : Bool)
  | datetime
  | array (a : List Value)
  | table (t : List (String × Value))
deriving Repr

namespace Value

/-- `Value::get(key)`: the entry of a table, `None` for any other value. -/
def get : Value → String → Option Value
  | table t, k => t.lookup k
  | _, _ => none

/-- `v[k]` (`Index for Value`). -/
def index {ε : Type} (v : Value) (k : String) : Outcome ε Value :=
  Outcome.expect (v.get k) "index not found"

/-- `Value::as_str`. -/
def asStr : Value → Option String
  | string s => some s
  | _ => none

/-- `Value::as_array`. -/
def asArray : Value → Option (List Value)
  | array a => some a
  | _ => none

/-- `Value::as_table`. -/
def asTable : Value → Option (List (String × Value))
  | table t => some t
  | _ => none

/-- `Value::as_bool`. -/
def asBool : Value → Option Bool
  | boolean b => some b
  | _ => none

@[simp] theorem asStr_string (s : String) : (string s).asStr = some s := rfl

@[simp] theorem asArray_array (a : List Value) : (array a).asArray = some a := rfl

theorem asStr_eq_some {v : Value} {s : String} : v.asStr = some s ↔ v = string s := by
  cases v <;> simp [asStr]

theorem asArray_eq_some {v : Value} {a : List Value} : v.asArray = some a ↔ v = array a := by
  cases v <;> simp [asArray]

theorem index_eq_ok {ε : Type} {v w : Value} {k : String} :
    (v.index k : Outcome ε Value) = .ok w ↔ v.get k = some w := by
  unfold index
  cases v.get k <;> simp [Outcome.expect]

theorem index_ne_err {ε : Type} {v : Value} {k : String} {e : ε} : v.index k ≠ .err e :=
  Outcome.expect_ne_err

/-- A key with an entry in a table has a first entry, and that entry is in the table. -/
theorem lookup_of_mem {β : Type} {l : List (String × β)} {k : String} {b : β} (h : (k, b) ∈ l) :
    ∃ b', l.lookup k = some b' ∧ (k, b') ∈ l := by
  induction l with
  | nil => cases h
  | cons kb l ih =>
    obtain ⟨k', b''⟩ := kb
    by_cases hk : k = k'
    · subst hk
      exact ⟨b'', List.lookup_cons_self, .head _⟩
    · obtain ⟨b', h1, h2⟩ := ih ((List.mem_cons.1 h).resolve_left fun h => hk (Prod.mk.inj h).1)
      exact ⟨b', by rw [List.lookup_cons, beq_false_of_ne hk, h1], .tail _ h2⟩

/-- The entry `get` finds is an entry of the table. -/
theorem mem_of_lookup {β : Type} {l : List (String × β)} {k : String} {b : β}
    (h : l.lookup k = some b) : (k, b) ∈ l := by
  obtain ⟨l₁, l₂, rfl, -⟩ := List.lookup_eq_some_iff.1 h
  exact List.mem_append_right _ (List.mem_cons_self _ _)

/-- In a table with one entry per key, as a parsed toml table is, `get` finds every entry. -/
theorem lookup_of_nodup {β : Type} {l : List (String × β)} (hnd : (l.map Prod.fst).Nodup)
    {k : String} {b : β} (h : (k, b) ∈ l) : l.lookup k = some b := by
  obtain ⟨b', hb', hmem⟩ := lookup_of_mem h
  cases List.inj_on_of_nodup_map hnd hmem h rfl
  exact hb'

/-- Two orders of a table with one entry per key have the same entries. -/
theorem lookup_perm {β : Type} {l l' : List (String × β)} (hp : l.Perm l')
    (hnd : (l.map Prod.fst).Nodup) (k : String) : l.lookup k = l'.lookup k := by
  have hnd' := (hp.map Prod.fst).nodup_iff.1 hnd
  rcases h : l.lookup k with _ | b
  · rcases h' : l'.lookup k with _ | b'
    · rfl
    · rw [lookup_of_nodup hnd (hp.symm.subset (mem_of_lookup h'))] at h
      cases h
  · exact (lookup_of_nodup hnd' (hp.subset (mem_of_lookup h))).symm

end Value

end CapeWallet
