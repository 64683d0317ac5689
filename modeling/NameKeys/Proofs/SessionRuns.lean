import Mathlib.Data.List.Induction
import NameKeys.Matching.Session
import NameKeys.Proofs.PatternKeys

/-!
# Patterns along the runs of a session

A run makes normalizers, compiles patterns and matches candidates in any order. This file follows
the pattern under one name from the request that compiled it: it depends on that request and on the
candidates that were matched against it since, and on nothing else in the run.
-/

namespace NameKeys.Proofs
open Session

def sessionAfter (s : Session) (requests : List Request) : Session :=
  requests.foldl (fun s r => (s.step r).2) s

/-- The candidate that a request hands to the pattern under a name. -/
def candidateFor? (id : Text) : Request → Option Value
  | .matchCandidate on v => if on = id then some v else none
  | _ => none

/-- The candidates that requests hand to the pattern under a name, in order. -/
def candidatesFor (id : Text) (requests : List Request) : List Value :=
  requests.filterMap (candidateFor? id)

/-- A request replaces the pattern under a name if it compiles one and is not refused. -/
def Replaces (s : Session) (id : Text) (r : Request) : Prop :=
  ∃ on name q, r = .compile id on name ∧ (s.step r).1 = .ok (.pattern q)

/-- Requests that leave the pattern under a name in place, though it may be matched. -/
def Keeps (id : Text) : Session → List Request → Prop
  | _, [] => True
  | s, r :: rest => ¬Replaces s id r ∧ Keeps id (s.step r).2 rest

/-- The answer of a session to a candidate, from the answer of a pattern and the key it holds. -/
def matchAnswer (key? : Option Text) : Except NotText Bool → Except Failure Answer
  | .ok answer => .ok (.matched answer key?)
  | .error e => .error (.notText e)

lemma sessionAfter_append (s : Session) (xs ys : List Request) :
    sessionAfter s (xs ++ ys) = sessionAfter (sessionAfter s xs) ys :=
  List.foldl_append

lemma run_append (s : Session) (xs ys : List Request) :
    s.run (xs ++ ys) = s.run xs ++ (sessionAfter s xs).run ys := by
  induction xs generalizing s with
  | nil => rfl
  | cons r rest ih => simp only [List.cons_append, run, ih]; rfl

lemma keeps_append (id : Text) (s : Session) (xs ys : List Request) :
    Keeps id s (xs ++ ys) ↔ Keeps id s xs ∧ Keeps id (sessionAfter s xs) ys := by
  induction xs generalizing s with
  | nil => simp [Keeps, sessionAfter]
  | cons r rest ih => simp only [List.cons_append, Keeps, ih, and_assoc]; rfl

/-! ### Stored values -/

section Store

variable {α : Type}

lemma lookup_filter_ne {id other : Text} (h : id ≠ other) (entries : List (Text × α)) :
    List.lookup id (entries.filter fun entry => entry.1 ≠ other) = List.lookup id entries := by
  induction entries with
  | nil => rfl
  | cons entry rest ih =>
    obtain ⟨k, v⟩ := entry
    by_cases hk : k = other
    · have hid : (id == k) = false := by simpa [hk] using h
      rw [List.filter_cons_of_neg (by simpa using hk), ih, List.lookup_cons, hid]
    · rw [List.filter_cons_of_pos (by simpa using hk), List.lookup_cons, List.lookup_cons, ih]

lemma fetch_store_self (id : Text) (value : α) (entries : List (Text × α)) :
    fetch id (store id value entries) = .ok value := by
  simp [fetch, store]

lemma fetch_store_of_ne {id other : Text} (h : id ≠ other) (value : α)
    (entries : List (Text × α)) : fetch id (store other value entries) = fetch id entries := by
  have hid : (id == other) = false := by simpa using h
  unfold fetch store
  rw [List.lookup_cons, hid, lookup_filter_ne h]

end Store

/-! ### One request -/

lemma step_compile_of_replaces {s : Session} {id : Text} {r : Request} (h : Replaces s id r) :
    ∃ on name p, r = .compile id on (.text name) ∧ fetch on s.normalizers = .ok p ∧
      fetch id (s.step r).2.patterns = .ok (.compile p name) := by
  obtain ⟨on, v, q, rfl, hq⟩ := h
  cases hp : fetch on s.normalizers with
  | error e => simp [step, hp, bind, Except.bind] at hq
  | ok p =>
    cases v with
    | text name =>
      refine ⟨on, name, p, rfl, hp, ?_⟩
      simp only [step, hp, nameOf, Value.toName, Except.mapError, bind, Except.bind, pure,
        Except.pure, fetch_store_self]
    | _ => simp [step, hp, nameOf, Value.toName, Except.mapError, bind, Except.bind] at hq

lemma keepNormalizer_patterns (s : Session) (id : Text) (result : Except OptionsError Profile) :
    (s.keepNormalizer id result).2.patterns = s.patterns := by
  cases result <;> rfl

lemma fetch_step_of_no_candidate {s : Session} {id : Text} {r : Request} (h : ¬Replaces s id r)
    (hr : candidateFor? id r = none) :
    fetch id (s.step r).2.patterns = fetch id s.patterns := by
  cases r with
  | create other options => exact congrArg _ (keepNormalizer_patterns s other _)
  | createExact other => exact congrArg _ (keepNormalizer_patterns s other _)
  | createFrom other form fold => exact congrArg _ (keepNormalizer_patterns s other _)
  | normalize on name => rfl
  | equivalent on first second => rfl
  | showPattern on => rfl
  | compile other on name =>
    have hstep : ∀ q, (s.step (.compile other on name)).1 = .ok (.pattern q) → id ≠ other := by
      rintro q hq rfl
      exact h ⟨on, name, q, rfl, hq⟩
    simp only [step] at hstep ⊢
    split at hstep
    · next q hq => rw [fetch_store_of_ne (hstep q rfl)]
    · rfl
  | matchCandidate on v =>
    have hne : id ≠ on := by
      rintro rfl
      simp [candidateFor?] at hr
    simp only [step]
    cases hq : fetch on s.patterns with
    | error e => rfl
    | ok q => rw [fetch_store_of_ne hne]

lemma step_matchCandidate {s : Session} {id : Text} {q : Pattern} (h : fetch id s.patterns = .ok q)
    (v : Value) :
    s.step (.matchCandidate id v) =
      (matchAnswer (q.matchValue v).2.key? (q.matchValue v).1,
        { s with patterns := store id (q.matchValue v).2 s.patterns }) := by
  simp only [step, h]
  cases (q.matchValue v).1 <;> rfl

lemma fetch_step_of_not_replaces {s : Session} {id : Text} {r : Request} (h : ¬Replaces s id r) :
    fetch id (s.step r).2.patterns =
      (fetch id s.patterns).map fun q => afterCandidates q (candidatesFor id [r]) := by
  cases hr : candidateFor? id r with
  | none =>
    rw [fetch_step_of_no_candidate h hr]
    cases fetch id s.patterns <;> simp [Except.map, candidatesFor, hr, afterCandidates]
  | some v =>
    obtain rfl : r = .matchCandidate id v := by
      cases r <;> simp [candidateFor?] at hr
      simp [hr]
    cases hq : fetch id s.patterns with
    | error e => simp [step, hq, Except.map]
    | ok q => simp [step_matchCandidate hq, fetch_store_self, Except.map, candidatesFor, hr,
        afterCandidates]

/-! ### Whole runs -/

/-- Along requests that do not replace it, a pattern depends on its candidates only. -/
lemma fetch_sessionAfter_of_keeps {s : Session} {id : Text} {requests : List Request} {q : Pattern}
    (hq : fetch id s.patterns = .ok q) (hk : Keeps id s requests) :
    fetch id (sessionAfter s requests).patterns =
      .ok (afterCandidates q (candidatesFor id requests)) := by
  induction requests generalizing s q with
  | nil => exact hq
  | cons r rest ih =>
    have hstep := fetch_step_of_not_replaces hk.1
    rw [hq] at hstep
    have hcandidates : candidatesFor id (r :: rest) =
        candidatesFor id [r] ++ candidatesFor id rest := by
      rw [candidatesFor, candidatesFor, candidatesFor, ← List.filterMap_append,
        List.singleton_append]
    rw [hcandidates, afterCandidates, List.foldl_append]
    exact ih hstep hk.2

/-- Every pattern in a session was compiled by a request of the run, and only the candidates after
that request have touched it. -/
lemma exists_compile_of_fetch {requests : List Request} {id : Text} {q : Pattern}
    (h : fetch id (sessionAfter .empty requests).patterns = .ok q) :
    ∃ before on name p later, requests = before ++ .compile id on (.text name) :: later ∧
      fetch on (sessionAfter .empty before).normalizers = .ok p ∧
      Keeps id (sessionAfter .empty (before ++ [.compile id on (.text name)])) later ∧
      q = patternAfter p name (candidatesFor id later) := by
  induction requests using List.reverseRecOn generalizing q with
  | nil => simp [sessionAfter, Session.empty, fetch] at h
  | append_singleton earlier r ih =>
    rw [sessionAfter_append] at h
    change fetch id ((sessionAfter .empty earlier).step r).2.patterns = .ok q at h
    by_cases hr : Replaces (sessionAfter .empty earlier) id r
    · obtain ⟨on, name, p, rfl, hp, hq⟩ := step_compile_of_replaces hr
      obtain rfl : Pattern.compile p name = q := Except.ok.inj (hq.symm.trans h)
      exact ⟨earlier, on, name, p, [], rfl, hp, trivial, rfl⟩
    · rw [fetch_step_of_not_replaces hr] at h
      cases hq : fetch id (sessionAfter .empty earlier).patterns with
      | error e => simp [hq, Except.map] at h
      | ok q₀ =>
        obtain ⟨before, on, name, p, later, hrun, hp, hk, rfl⟩ := ih hq
        have hafter : afterCandidates (patternAfter p name (candidatesFor id later))
            (candidatesFor id [r]) = q := by simpa [hq, Except.map] using h
        refine ⟨before, on, name, p, later ++ [r], ?_, hp, ?_, ?_⟩
        · rw [hrun, List.append_assoc, List.cons_append]
        · rw [keeps_append]
          refine ⟨hk, ?_, trivial⟩
          rwa [← sessionAfter_append, List.append_assoc, List.singleton_append, ← hrun]
        · rw [← hafter, afterCandidates_patternAfter, candidatesFor, candidatesFor, candidatesFor,
            List.filterMap_append]

lemma keyAfter_eq_none_or (p : Profile) (name : Text) (seen : List Value) :
    keyAfter p name seen = none ∨ keyAfter p name seen = some (p.key name) := by
  unfold keyAfter
  split
  · exact .inr rfl
  · exact .inl rfl

lemma needsKey_iff (p : Profile) (name : Text) (v : Value) :
    needsKey p name v = true ↔ p.isExact = false ∧ ∃ t, t ≠ name ∧ v = .text t := by
  cases v <;> simp [needsKey, and_comm]

lemma keyAfter_ne_none_iff (p : Profile) (name : Text) (seen : List Value) :
    keyAfter p name seen ≠ none ↔ p.isExact = false ∧ ∃ t, t ≠ name ∧ .text t ∈ seen := by
  have hany : keyAfter p name seen ≠ none ↔ ∃ v ∈ seen, needsKey p name v = true := by
    rw [← List.any_eq_true, keyAfter]
    split <;> simp [*]
  rw [hany]
  constructor
  · rintro ⟨v, hv, hn⟩
    obtain ⟨hp, t, ht, rfl⟩ := (needsKey_iff p name v).mp hn
    exact ⟨hp, t, ht, hv⟩
  · rintro ⟨hp, t, ht, hv⟩
    exact ⟨.text t, hv, (needsKey_iff p name _).mpr ⟨hp, t, ht, rfl⟩⟩

lemma patternAfter_append_of_key {p : Profile} {name : Text} {seen : List Value}
    (h : keyAfter p name seen ≠ none) (more : List Value) :
    patternAfter p name (seen ++ more) = patternAfter p name seen := by
  have hseen : seen.any (needsKey p name) = true := by
    by_contra hn
    exact h (if_neg hn)
  simp [patternAfter, keyAfter, hseen]

lemma step_matchCandidate_patternAfter {s : Session} {id : Text} {p : Profile} {name : Text}
    {seen : List Value} (h : fetch id s.patterns = .ok (patternAfter p name seen)) (v : Value) :
    s.step (.matchCandidate id v) =
      (matchAnswer (keyAfter p name (seen ++ [v])) ((Pattern.compile p name).matchValue v).1,
        { s with patterns := store id (patternAfter p name (seen ++ [v])) s.patterns }) := by
  have hfresh : ((Pattern.compile p name).matchValue v).1 = keyAnswer p name v :=
    congrArg Prod.fst (matchValue_patternAfter p name [] v)
  rw [step_matchCandidate h, matchValue_patternAfter, hfresh]
  rfl

/-- Every pattern of every run: its key is unset or the key of its name under the profile of the
normalizer that compiled it. The key is set exactly since the first candidate that was another
text, unless the profile is exact, and from then on the pattern stays as it is. A candidate that is
no text leaves the pattern alone, and every candidate is answered as by a pattern just compiled. -/
theorem patterns_along_runs (requests : List Request) (id : Text) (q : Pattern)
    (h : fetch id (sessionAfter .empty requests).patterns = .ok q) :
    (q.key? = none ∨ q.key? = some (q.profile.key q.name)) ∧
    (∃ before on later, requests = before ++ .compile id on (.text q.name) :: later ∧
      fetch on (sessionAfter .empty before).normalizers = .ok q.profile ∧
      Keeps id (sessionAfter .empty (before ++ [.compile id on (.text q.name)])) later ∧
      (q.key? ≠ none ↔
        q.profile.isExact = false ∧ ∃ t, t ≠ q.name ∧ .text t ∈ candidatesFor id later)) ∧
    (∀ more, Keeps id (sessionAfter .empty requests) more → q.key? ≠ none →
      fetch id (sessionAfter .empty (requests ++ more)).patterns = .ok q) ∧
    ∀ v, ∃ q', fetch id (sessionAfter .empty (requests ++ [.matchCandidate id v])).patterns = .ok q' ∧
      (v.text? = none → q' = q) ∧
      (q.key? = none → (q'.key? ≠ none ↔
        q.profile.isExact = false ∧ ∃ t, t ≠ q.name ∧ v = .text t)) ∧
      Session.empty.run (requests ++ [.matchCandidate id v]) = Session.empty.run requests ++
        [matchAnswer q'.key? ((Pattern.compile q.profile q.name).matchValue v).1] := by
  obtain ⟨before, on, name, p, later, hrun, hp, hk, rfl⟩ := exists_compile_of_fetch h
  refine ⟨?_, ?_, ?_, ?_⟩
  · exact keyAfter_eq_none_or p name _
  · exact ⟨before, on, later, hrun, hp, hk, keyAfter_ne_none_iff p name _⟩
  · intro more hmore hset
    rw [sessionAfter_append, fetch_sessionAfter_of_keeps h hmore, afterCandidates_patternAfter,
      patternAfter_append_of_key hset]
  · intro v
    have hstep := step_matchCandidate_patternAfter h v
    refine ⟨patternAfter p name (candidatesFor id later ++ [v]), ?_, ?_, ?_, ?_⟩
    · rw [sessionAfter_append]
      change fetch id ((sessionAfter .empty requests).step (.matchCandidate id v)).2.patterns = _
      rw [hstep, fetch_store_self]
    · intro hv
      have hn : needsKey p name v = false := by
        cases v <;> simp [Value.text?, needsKey] at hv ⊢
      rw [patternAfter, keyAfter_concat, hn]
      rfl
    · intro hunset
      have hkey : keyAfter p name (candidatesFor id later) = none := hunset
      change keyAfter p name (candidatesFor id later ++ [v]) ≠ none ↔
        p.isExact = false ∧ ∃ t, t ≠ name ∧ v = .text t
      rw [keyAfter_concat, hkey, ← needsKey_iff p name v]
      split <;> simp [*]
    · rw [run_append]
      change _ ++ [((sessionAfter .empty requests).step (.matchCandidate id v)).1] = _
      rw [hstep]
      rfl

/-- A pattern of `Ab` without regard to ASCII case, matched against a number and then `aB`. -/
def foldedRun : List Request :=
  [.createFrom "n" (.form .none) (.fold .ascii), .compile "p" "n" (.text "Ab"),
    .matchCandidate "p" (.int 3), .matchCandidate "p" (.text "aB")]

theorem patterns_along_foldedRun :
    fetch "p" (sessionAfter .empty foldedRun).patterns = .ok ⟨"Ab", ⟨.none, .ascii⟩, some "ab"⟩ ∧
    ∀ more, Keeps "p" (sessionAfter .empty foldedRun) more →
      fetch "p" (sessionAfter .empty (foldedRun ++ more)).patterns =
        .ok ⟨"Ab", ⟨.none, .ascii⟩, some "ab"⟩ := by
  have hq : fetch "p" (sessionAfter .empty foldedRun).patterns =
      .ok ⟨"Ab", ⟨.none, .ascii⟩, some "ab"⟩ := rfl
  refine ⟨hq, fun more hmore => ?_⟩
  exact (patterns_along_runs foldedRun "p" _ hq).2.2.1 more hmore (by simp)

end NameKeys.Proofs
