import Mathlib.Data.List.AList
import Mathlib.Data.String.Basic

/-!
# Rust calls that return, fail or panic

The functions of `wallet/src/main.rs` return `Result`s and, on configurations they do not
expect, panic through `expect`, `unwrap`, `panic!` or toml's `Index`. `Outcome ε α` is what a
call comes to: `Ok`, `Err`, or a panic with its message. It is a monad, so `?` is `←`, and a
panic propagates out of every caller, as an unwinding panic does.

`splitSlash` is `str::split('/')` on the characters of a string, kept structurally recursive so
that it evaluates by `decide`; it is `List.splitOn '/'` (`splitChars_eq_splitOnP`), and
`joinSlash` joins segments back.
-/

namespace CapeWallet

/-- What a call of a Rust function returning `Result<α, ε>` comes to. -/
inductive Outcome (ε α : Type) where
  | ok (a : α)
  | err (e : ε)
  | panic (msg : String)
deriving Repr, DecidableEq

namespace Outcome

variable {ε α β : Type}

/-- Sequencing: `Err` and panics propagate (`?` and unwinding). -/
def bind : Outcome ε α → (α → Outcome ε β) → Outcome ε β
  | ok a, f => f a
  | err e, _ => err e
  | panic m, _ => panic m

instance : Monad (Outcome ε) where
  pure := ok
  bind := bind

@[simp] theorem pure_eq (a : α) : (pure a : Outcome ε α) = ok a := rfl

@[simp] theorem ok_bind (a : α) (f : α → Outcome ε β) : (ok a >>= f) = f a := rfl

@[simp] theorem err_bind (e : ε) (f : α → Outcome ε β) : (err e >>= f) = err e := rfl

@[simp] theorem panic_bind (m : String) (f : α → Outcome ε β) : (panic m >>= f) = panic m := rfl

theorem bind_eq_ok {x : Outcome ε α} {f : α → Outcome ε β} {b : β} :
    x >>= f = ok b ↔ ∃ a, x = ok a ∧ f a = ok b := by
  cases x <;> simp

theorem bind_eq_err {x : Outcome ε α} {f : α → Outcome ε β} {e : ε} :
    x >>= f = err e ↔ x = err e ∨ ∃ a, x = ok a ∧ f a = err e := by
  cases x <;> simp

theorem bind_eq_panic {x : Outcome ε α} {f : α → Outcome ε β} {m : String} :
    x >>= f = panic m ↔ x = panic m ∨ ∃ a, x = ok a ∧ f a = panic m := by
  cases x <;> simp

@[simp] theorem map_ok (f : α → β) (a : α) : (f <$> ok a : Outcome ε β) = ok (f a) := rfl

@[simp] theorem map_err (f : α → β) (e : ε) : (f <$> err e : Outcome ε β) = err e := rfl

@[simp] theorem map_panic (f : α → β) (m : String) : (f <$> panic m : Outcome ε β) = panic m := rfl

theorem map_eq_ok {x : Outcome ε α} {f : α → β} {b : β} :
    f <$> x = ok b ↔ ∃ a, x = ok a ∧ f a = b := by
  cases x <;> simp

theorem map_bind {γ : Type} (f : α → β) (x : Outcome ε α) (g : β → Outcome ε γ) :
    (f <$> x) >>= g = x >>= fun a => g (f a) := by
  cases x <;> rfl

/-- `Option::expect(msg)`. -/
def expect : Option α → String → Outcome ε α
  | some a, _ => ok a
  | none, msg => panic msg

/-- `Option::unwrap()`. -/
def unwrap (o : Option α) : Outcome ε α :=
  expect o "called `Option::unwrap()` on a `None` value"

/-- `Option::ok_or_else(..)?`: `Err` where the option is empty. -/
def okOr : Option α → ε → Outcome ε α
  | some a, _ => ok a
  | none, e => err e

/-- A `Result` the code takes apart with `?`. -/
def ofExcept : Except ε α → Outcome ε α
  | .ok a => ok a
  | .error e => err e

theorem expect_eq_ok {o : Option α} {msg : String} {a : α} :
    (expect o msg : Outcome ε α) = ok a ↔ o = some a := by
  cases o <;> simp [expect]

@[simp] theorem expect_some (a : α) (msg : String) : (expect (some a) msg : Outcome ε α) = ok a :=
  rfl

@[simp] theorem expect_none (msg : String) : (expect none msg : Outcome ε α) = panic msg := rfl

/-- `expect` succeeds or panics; it never returns `Err`. -/
theorem expect_ne_err {o : Option α} {msg : String} {e : ε} : expect o msg ≠ err e := by
  cases o <;> simp [expect]

@[simp] theorem unwrap_some (a : α) : (unwrap (some a) : Outcome ε α) = ok a := rfl

@[simp] theorem okOr_some (a : α) (e : ε) : okOr (some a) e = ok a := rfl

@[simp] theorem okOr_none (e : ε) : (okOr none e : Outcome ε α) = err e := rfl

@[simp] theorem ofExcept_ok (a : α) : (ofExcept (.ok a) : Outcome ε α) = ok a := rfl

@[simp] theorem ofExcept_error (e : ε) : (ofExcept (.error e) : Outcome ε α) = err e := rfl

/-- The call returned (`Ok` or `Err`) rather than panicking. -/
def Returns : Outcome ε α → Prop
  | panic _ => False
  | _ => True

theorem returns_iff {x : Outcome ε α} : x.Returns ↔ ∀ m, x ≠ panic m := by
  cases x <;> simp [Returns]

/-! ### Running an action on every element of a list -/

/-- `f` on each element in order, stopping at the first `Err` or panic. -/
def traverseList (f : α → Outcome ε β) : List α → Outcome ε (List β)
  | [] => ok []
  | x :: xs => do
    let y ← f x
    let ys ← traverseList f xs
    pure (y :: ys)

variable {f : α → Outcome ε β}

@[simp] theorem traverse_nil : traverseList f [] = ok [] := rfl

theorem traverse_eq_ok {xs : List α} {ys : List β} :
    traverseList f xs = ok ys ↔ List.Forall₂ (fun x y => f x = ok y) xs ys := by
  induction xs generalizing ys with
  | nil => cases ys <;> simp
  | cons x xs ih =>
    cases ys with
    | nil => simp [traverseList, bind_eq_ok]
    | cons y ys => simp [traverseList, bind_eq_ok, ih]

theorem traverse_ok_of_forall {xs : List α} (h : ∀ x ∈ xs, ∃ y, f x = ok y) :
    ∃ ys, traverseList f xs = ok ys := by
  induction xs with
  | nil => exact ⟨[], rfl⟩
  | cons x xs ih =>
    obtain ⟨y, hy⟩ := h x (List.mem_cons_self _ _)
    obtain ⟨ys, hys⟩ := ih fun x hx => h x (List.mem_cons_of_mem _ hx)
    exact ⟨y :: ys, by simp [traverseList, hy, hys]⟩

theorem ok_of_traverse {xs : List α} {ys : List β} (h : traverseList f xs = ok ys) :
    ∀ x ∈ xs, ∃ y, f x = ok y := by
  induction traverse_eq_ok.1 h with
  | nil => simp
  | cons hxy _ ih =>
    simp only [List.mem_cons, forall_eq_or_imp]
    exact ⟨⟨_, hxy⟩, ih (traverse_eq_ok.2 ‹_›)⟩

theorem returns_bind {x : Outcome ε α} {g : α → Outcome ε β} (hx : x.Returns)
    (hg : ∀ a, x = ok a → (g a).Returns) : (x >>= g).Returns := by
  rcases x with a | e | m
  · exact hg a rfl
  · trivial
  · exact hx.elim

theorem returns_traverse {xs : List α} (h : ∀ x ∈ xs, (f x).Returns) :
    (traverseList f xs).Returns := by
  induction xs with
  | nil => trivial
  | cons x xs ih =>
    exact returns_bind (h x (.head _)) fun _ _ =>
      returns_bind (ih fun y hy => h y (.tail _ hy)) fun _ _ => trivial

theorem mem_of_traverse {xs : List α} {ys : List β} (h : traverseList f xs = ok ys) {y : β}
    (hy : y ∈ ys) : ∃ x ∈ xs, f x = ok y := by
  induction traverse_eq_ok.1 h with
  | nil => simp at hy
  | cons hxy _ ih =>
    rcases List.mem_cons.1 hy with rfl | hy
    · exact ⟨_, List.mem_cons_self _ _, hxy⟩
    · obtain ⟨x, hx, hfx⟩ := ih (traverse_eq_ok.2 ‹_›) hy
      exact ⟨x, List.mem_cons_of_mem _ hx, hfx⟩

/-- A loop whose body runs an action that reads nothing of the loop's state, then folds the
result into it, is the action on every element followed by the fold. -/
theorem foldlM_eq_traverse {σ : Type} (step : σ → α → Outcome ε σ) (upd : σ → β → σ)
    (h : ∀ s c, step s c = upd s <$> f c) (cs : List α) (s : σ) :
    cs.foldlM step s = (·.foldl upd s) <$> traverseList f cs := by
  induction cs generalizing s with
  | nil => rfl
  | cons c cs ih =>
    rw [List.foldlM_cons, h, traverseList]
    rcases f c with b | e | m
    · simp only [map_ok, ok_bind, ih]
      rcases traverseList f cs <;> rfl
    · rfl
    · rfl

/-- When no element panics and one returns `Err`, the whole run returns `Err`. -/
theorem traverse_err {xs : List α} (hr : ∀ x ∈ xs, (f x).Returns)
    (he : ∃ x ∈ xs, ∃ e, f x = err e) : ∃ e, traverseList f xs = err e := by
  obtain ⟨x, hx, e, hxe⟩ := he
  have hret := returns_traverse hr
  rcases h : traverseList f xs with ys | e' | m
  · obtain ⟨y, hy⟩ := ok_of_traverse h x hx
    rw [hxe] at hy
    cases hy
  · exact ⟨e', rfl⟩
  · rw [h] at hret
    exact hret.elim

/-- The `Err` of a whole run is the `Err` of one element. -/
theorem err_of_traverse {xs : List α} {e : ε} (h : traverseList f xs = err e) :
    ∃ x ∈ xs, f x = err e := by
  induction xs with
  | nil => cases h
  | cons x xs ih =>
    rcases bind_eq_err.1 h with hx | ⟨y, -, h⟩
    · exact ⟨x, .head _, hx⟩
    · rcases bind_eq_err.1 h with hxs | ⟨ys, -, h⟩
      · obtain ⟨x', hx', hfx⟩ := ih hxs
        exact ⟨x', .tail _ hx', hfx⟩
      · cases h

theorem returns_bind_iff {x : Outcome ε α} {g : α → Outcome ε β} :
    (x >>= g).Returns ↔ x.Returns ∧ ∀ a, x = ok a → (g a).Returns := by
  rcases x with a | e | m <;> simp [Returns]

theorem returns_map {x : Outcome ε α} {g : α → β} : (g <$> x).Returns ↔ x.Returns := by
  rcases x with a | e | m <;> exact Iff.rfl

/-- With elements that never return `Err`, the run returns exactly when every element does. -/
theorem traverse_returns_iff {xs : List α} (hne : ∀ x ∈ xs, ∀ e, f x ≠ err e) :
    (traverseList f xs).Returns ↔ ∀ x ∈ xs, (f x).Returns := by
  induction xs with
  | nil => simp [Returns]
  | cons x xs ih =>
    rw [List.forall_mem_cons, ← ih fun y hy => hne y (.tail _ hy)]
    rcases hfx : f x with a | e | m
    · simp only [traverseList, hfx, ok_bind, returns_bind_iff, pure_eq]
      exact ⟨fun h => ⟨trivial, h.1⟩, fun h => ⟨h.2, fun _ _ => trivial⟩⟩
    · exact absurd hfx (hne x (.head _) e)
    · simp [traverseList, hfx, Returns]

/-- The results of a run that succeeds are the results of its elements. -/
theorem mem_traverse_iff {xs : List α} {ys : List β} (h : traverseList f xs = ok ys) {y : β} :
    y ∈ ys ↔ ∃ x ∈ xs, f x = ok y := by
  induction traverse_eq_ok.1 h with
  | nil => simp
  | @cons x y' xs ys hxy hrest ih =>
    rw [List.mem_cons, ih (traverse_eq_ok.2 hrest), List.exists_mem_cons_iff, hxy, ok.injEq,
      eq_comm]

/-- Reordering the list reorders the results, when every element succeeds. -/
theorem traverse_perm {xs xs' : List α} (hp : xs.Perm xs') {ys : List β}
    (h : traverseList f xs = ok ys) : ∃ ys', traverseList f xs' = ok ys' ∧ ys.Perm ys' := by
  obtain ⟨ys', h', hp'⟩ := List.perm_comp_forall₂ hp.symm (traverse_eq_ok.1 h)
  exact ⟨ys', traverse_eq_ok.2 h', hp'.symm⟩

end Outcome

@[simp] theorem string_join_nil : String.join [] = "" := rfl

theorem string_join_cons (s : String) (l : List String) :
    String.join (s :: l) = s ++ String.join l := by
  rw [String.join_eq, String.join_eq]; rfl

/-! ## `str::split('/')` -/

/-- The pieces of a character list between `/`s. -/
def splitChars : List Char → List (List Char)
  | [] => [[]]
  | c :: cs =>
    if c = '/' then [] :: splitChars cs
    else
      match splitChars cs with
      | w :: ws => (c :: w) :: ws
      | [] => [[c]]

/-- `str::split('/')`: never empty; `""` splits into `[""]`. -/
def splitSlash (s : String) : List String :=
  (splitChars s.toList).map String.mk

example : splitSlash "getbalance/address/:address" = ["getbalance", "address", ":address"] := by
  decide

example : splitSlash "/a/" = ["", "a", ""] := by decide

theorem splitChars_eq_splitOnP (cs : List Char) : splitChars cs = cs.splitOnP (· == '/') := by
  induction cs with
  | nil => rfl
  | cons c cs ih =>
    rw [splitChars, List.splitOnP_cons, ← ih]
    by_cases hc : c = '/'
    · simp [hc]
    · obtain ⟨w, ws, h⟩ := List.exists_cons_of_ne_nil (ih ▸ List.splitOnP_ne_nil _ cs)
      simp [hc, h]

/-- The string form of a pattern with the segments `segs`: the segments joined by `/`. -/
def joinSlash (segs : List String) : String :=
  String.mk (['/'].intercalate (segs.map String.toList))

theorem map_toList_mk (ls : List (List Char)) : (ls.map String.mk).map String.toList = ls := by
  rw [List.map_map]
  exact List.map_id' _ |>.trans rfl

/-- Joining the pieces of `str::split('/')` gives the string back. -/
theorem joinSlash_splitSlash (s : String) : joinSlash (splitSlash s) = s := by
  rw [joinSlash, splitSlash, map_toList_mk, splitChars_eq_splitOnP]
  exact congrArg String.mk (List.intercalate_splitOn _ '/')

/-- Splitting the join of segments that hold no `/` gives the segments back. -/
theorem splitSlash_joinSlash {segs : List String} (hne : segs ≠ [])
    (hseg : ∀ s ∈ segs, '/' ∉ s.toList) : splitSlash (joinSlash segs) = segs := by
  have hx : ∀ l ∈ segs.map String.toList, '/' ∉ l := by
    simpa only [List.mem_map, forall_exists_index, and_imp, forall_apply_eq_imp_iff₂] using hseg
  rw [splitSlash, joinSlash, show ∀ l, (String.mk l).toList = l from fun _ => rfl,
    splitChars_eq_splitOnP]
  change List.map String.mk ((['/'].intercalate (segs.map String.toList)).splitOn '/') = segs
  rw [List.splitOn_intercalate _ '/' hx (by simpa using hne), List.map_map]
  exact List.map_id' _ |>.trans rfl

end CapeWallet
