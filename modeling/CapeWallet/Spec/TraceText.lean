import CapeWallet.Spec.Trace

/-!
# The text of the trace

The trace of a failed match (`parse_route`, lines 104-209) is built while the two loops run: the
loop over one pattern's segments reads the request through an iterator, sets two flags, and
appends a line per segment; the verdict lines after it read the flags and what is left of the
iterator. This file states the text each alternative adds by position instead, as `FullMatch`
is stated: segment `i` of the pattern against segment `i` of the request, `""` past its end.

* `segmentLine ts api s x`: the line of the pattern segment `s` read against the request
  segment `x`: the argument line of a key, with the outcome of its parse; the mismatch line of a
  literal the request does not repeat; nothing for a literal it does.
* `positionPairs r p`: each segment of `p` with the request segment at its position.
  `literalMismatchIn api r p`, `parseFailureIn ts api r p`: some position of `p` holds a literal
  the request does not repeat, or a key whose type does not parse the request segment.
* `alternativeDoc ts api r p`: the heading, the line of every segment in order, the three
  verdict lines for the flags above and for `r.length ≤ |p|`, and the verdict of `FullMatch`.

Results:
* `altRun_doc_eq`: the text of one alternative's run is `alternativeDoc`.
* `failure_trace_eq`: on a well-formed group where `from_str` rejects no type name, the `Err`
  of a request with no full match, or with two or more, is `DOC`, then `alternativeDoc` of every
  alternative in declaration order, then the closing line. So each verdict line the trace shows
  is true of the request.
-/

namespace CapeWallet

open Outcome

variable {τ ν : Type}

section Text

variable (ts : SegmentTypes τ ν) (api : Value)

/-- The pattern segment `s` is a literal (no key of the group) that the request segment `x`
does not repeat. -/
def literalMismatchAt (s x : String) : Bool :=
  (api.get s).isNone && x != s

/-- The pattern segment `s` is a key whose type name `from_str` accepts, and the request segment
`x` does not parse under that type. -/
def parseFailsAt (s x : String) : Bool :=
  match (api.get s).bind Value.asStr with
  | some t =>
    match ts.fromStr t with
    | .ok ty => (ts.parse ty x).isNone
    | .error _ => false
  | none => false

/-- The line the pattern segment `s` adds to the trace, read against the request segment `x`. -/
def segmentLine (s x : String) : String :=
  match (api.get s).bind Value.asStr with
  | some t =>
    argumentDoc s t x ++ if parseFailsAt ts api s x then "(Parse failed)\n" else "(Parse succeeded)\n"
  | none => if literalMismatchAt api s x then mismatchDoc x s else ""

/-- Each segment of the pattern `p` with the request segment at its position, `""` past the end
of `r`. -/
def positionPairs (r : List String) (p : String) : List (String × String) :=
  (List.range (splitSlash p).length).map fun i => ((splitSlash p).getD i "", r.getD i "")

/-- Some position of the pattern `p` holds a literal that the request `r` does not repeat. -/
def literalMismatchIn (r : List String) (p : String) : Bool :=
  (positionPairs r p).any fun x => literalMismatchAt api x.1 x.2

/-- Some position of the pattern `p` holds a key whose type does not parse the request `r`'s
segment there. -/
def parseFailureIn (r : List String) (p : String) : Bool :=
  (positionPairs r p).any fun x => parseFailsAt ts api x.1 x.2

/-- The text the alternative `p` adds to the trace of the request `r`. -/
def alternativeDoc (r : List String) (p : String) : String :=
  routeDoc p ++ String.join ((positionPairs r p).map fun x => segmentLine ts api x.1 x.2) ++
    verdictDoc p (literalMismatchIn api r p) (decide (r.length ≤ (splitSlash p).length))
      (parseFailureIn ts api r p) ++
    matchDoc p (decide (FullMatch ts api r p))

end Text

variable {ts : SegmentTypes τ ν} {api : Value} {r : List String}

/-! ## One segment, one alternative -/

/-- What a segment that runs adds: its line and its two flags. -/
theorem segmentEffect_text {s x : String} {e : SegmentEffect τ ν}
    (h : segmentEffect ts api s x = ok e) :
    e.doc = segmentLine ts api s x ∧ e.literalMismatch = literalMismatchAt api s x ∧
      e.parseFailed = parseFailsAt ts api s x := by
  unfold segmentEffect at h
  unfold segmentLine literalMismatchAt parseFailsAt
  rcases hg : api.get s with _ | v <;> simp only [hg] at h ⊢
  · split_ifs at h with hx <;> cases h <;> simp_all
  · rcases hv : v.asStr with _ | t <;> simp only [hv, Option.some_bind] at h ⊢
    · cases h
    · rcases hf : ts.fromStr t with _ | ty <;> simp only [hf] at h ⊢
      · cases h
      · split at h <;> cases h <;> simp_all

/-- The segments of a run pattern, in order: their lines and their flags. -/
theorem segmentEffects_text {pairs : List (String × String)} {es : List (SegmentEffect τ ν)}
    (h : segmentEffects ts api pairs = ok es) :
    es.map (·.doc) = pairs.map (fun x => segmentLine ts api x.1 x.2) ∧
      es.any (·.literalMismatch) = pairs.any (fun x => literalMismatchAt api x.1 x.2) ∧
      es.any (·.parseFailed) = pairs.any (fun x => parseFailsAt ts api x.1 x.2) := by
  induction traverse_eq_ok.1 h with
  | nil => exact ⟨rfl, rfl, rfl⟩
  | @cons x e pairs es hxe hrest ih =>
    obtain ⟨hd, hl, hp⟩ := segmentEffect_text hxe
    obtain ⟨ihd, ihl, ihp⟩ := ih (traverse_eq_ok.2 hrest)
    simp only [List.map_cons, List.any_cons, hd, hl, hp, ihd, ihl, ihp, and_self]

/-- **The text of one alternative's run**, by position. -/
theorem altRun_doc_eq {p : String} {a : AltRun τ ν} (h : altRun ts api r (.string p) = ok a) :
    a.doc = alternativeDoc ts api r p := by
  have hfm : a.fullMatch = decide (FullMatch ts api r p) := by
    rw [Bool.eq_iff_iff, decide_eq_true_iff]
    exact altRun_fullMatch_iff h
  obtain ⟨es, hes, rfl⟩ := altRun_string_eq_ok.1 h
  obtain ⟨hd, hl, hp⟩ := segmentEffects_text hes
  have hlen : (AltRun.mk p es (r.drop (splitSlash p).length)).lengthMatches =
      decide (r.length ≤ (splitSlash p).length) := by
    rw [AltRun.lengthMatches, Bool.eq_iff_iff, List.isEmpty_eq_true, List.drop_eq_nil_iff,
      decide_eq_true_iff]
  rw [AltRun.doc, hfm, hlen, AltRun.literalMismatch, AltRun.parseFailed, hd, hl, hp, pairUp_eq]
  rfl

/-- The runs of the alternatives `paths` give their texts, in order. -/
theorem map_doc_of_runs {paths : List String} {as : List (AltRun τ ν)}
    (h : List.Forall₂ (fun p a => altRun ts api r (.string p) = ok a) paths as) :
    as.map (·.doc) = paths.map (alternativeDoc ts api r) := by
  induction h with
  | nil => rfl
  | cons hpa _ ih => rw [List.map_cons, List.map_cons, altRun_doc_eq hpa, ih]

/-! ## `parse_route` -/

variable {state : Value} {first : String} {paths : List String} {doc : String}

/-- **The trace of a failed match, word for word.** On a well-formed group where `from_str`
rejects no type name, a request with no full match, or with two or more, gets as its `Err` the
group's `DOC`, then the text of every alternative in declaration order (its heading, the line of
each of its segments, and the verdict lines that are true of the request), then `Need
documentation` or `Ambiguity in api.toml`. -/
theorem failure_trace_eq (ts : SegmentTypes τ ν) (rest : List String)
    (hg : routeGroup state first = some api) (hwf : WellFormedGroup api paths doc)
    (hacc : ¬ RejectsType ts api paths) (hc : fullMatchCount ts api (first :: rest) paths ≠ 1) :
    parseRoute ts state (some (first :: rest)) =
      err (failureTrace doc (paths.map (alternativeDoc ts api (first :: rest)))
        (fullMatchCount ts api (first :: rest) paths)) := by
  obtain ⟨as, has⟩ := traverse_ok_of_accepts (r := first :: rest) hwf hacc
  have hruns := List.forall₂_map_left_iff.1 (traverse_eq_ok.1 has)
  rw [parseRoute_eq_match hg hwf.path hwf.doc, has, ok_bind, matchResult_eq_err,
    (runs_trace hruns).2, map_doc_of_runs hruns]
  exact ⟨hc, rfl⟩

/-- `getbalance` alone matches none of the three alternatives: the trace, word for word. -/
theorem failure_trace_eq_getbalance :
    parseRoute sampleTypes (balanceApi (balancePaths.map .string)) (some ["getbalance"]) =
      err (failureTrace "Get the balance of an address or of all addresses."
        (balancePaths.map (alternativeDoc sampleTypes (balanceGroup (balancePaths.map .string))
          ["getbalance"])) 0) :=
  failure_trace_eq sampleTypes [] rfl ⟨rfl, rfl, by decide⟩ (by decide) (by decide)

end CapeWallet
