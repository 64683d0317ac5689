import Mathlib.Tactic.Lemma
import NameKeys.Matching.Pattern

/-!
# Patterns and keys

A pattern answers from its own transformation of both sides, with shortcuts and a key that it
computes late. This file connects it with the keys of the profile: what a pattern answers, and
which key it holds, are functions of its profile, its name and the candidates seen so far.
-/

namespace NameKeys.Proofs

/-- The pattern after candidates in order. -/
def afterCandidates (q : Pattern) (candidates : List Value) : Pattern :=
  candidates.foldl (fun q v => (q.matchValue v).2) q

/-- Whether a candidate makes a pattern of a name compute its key. -/
def needsKey (p : Profile) (name : Text) : Value → Bool
  | .text t => t ≠ name && !p.isExact
  | _ => false

/-- The key that a pattern of a name holds once it has seen candidates. -/
def keyAfter (p : Profile) (name : Text) (seen : List Value) : Option Text :=
  if seen.any (needsKey p name) then some (p.key name) else none

/-- The pattern of a name with the key it holds once it has seen candidates. -/
def patternAfter (p : Profile) (name : Text) (seen : List Value) : Pattern :=
  ⟨name, p, keyAfter p name seen⟩

/-- The answer to a candidate that the keys give. -/
def keyAnswer (p : Profile) (name : Text) : Value → Except NotText Bool
  | .text t => .ok (p.key t = p.key name)
  | v => .error ⟨v⟩

lemma transform_eq_key (q : Pattern) (t : Text) : q.transform t = q.profile.key t := by
  rcases q with ⟨name, ⟨form, fold⟩, key?⟩
  cases form <;> cases fold <;> rfl

lemma key_of_isExact {p : Profile} (h : p.isExact) (t : Text) : p.key t = t := by
  rcases p with ⟨form, fold⟩
  obtain ⟨rfl, rfl⟩ : form = .none ∧ fold = .none := by simpa [Profile.isExact] using h
  rfl

lemma ignoresForm_or_ignoresCase (q : Pattern) :
    (q.ignoresForm || q.ignoresCase) = !q.profile.isExact := by
  rcases q with ⟨name, ⟨form, fold⟩, key?⟩
  cases form <;> cases fold <;> rfl

lemma keyAfter_getD (p : Profile) (name : Text) (seen : List Value) :
    (keyAfter p name seen).getD (p.key name) = p.key name := by
  unfold keyAfter
  split <;> rfl

lemma keyAfter_concat (p : Profile) (name : Text) (seen : List Value) (v : Value) :
    keyAfter p name (seen ++ [v]) =
      if needsKey p name v then some (p.key name) else keyAfter p name seen := by
  unfold keyAfter
  cases hv : needsKey p name v <;> simp [hv]

/-- A pattern that holds no key yet, or the key of its name, keeps to that at every text. -/
lemma matchText_patternAfter (p : Profile) (name : Text) (seen : List Value) (t : Text) :
    (patternAfter p name seen).matchText t =
      (decide (p.key t = p.key name), patternAfter p name (seen ++ [.text t])) := by
  have hkey := keyAfter_concat p name seen (.text t)
  unfold Pattern.matchText
  rw [ignoresForm_or_ignoresCase]
  simp only [transform_eq_key]
  simp only [patternAfter, keyAfter_getD, hkey, needsKey]
  by_cases hname : t = name
  · simp [hname]
  · by_cases hexact : p.isExact
    · simp [hname, hexact, key_of_isExact hexact]
    · simp [hname, hexact]

lemma matchValue_patternAfter (p : Profile) (name : Text) (seen : List Value) (v : Value) :
    (patternAfter p name seen).matchValue v =
      (keyAnswer p name v, patternAfter p name (seen ++ [v])) := by
  cases v with
  | text t => simp only [Pattern.matchValue, matchText_patternAfter, keyAnswer]
  | _ => simp only [Pattern.matchValue, keyAnswer, patternAfter, keyAfter_concat, needsKey,
      Bool.false_eq_true, if_false]

lemma afterCandidates_patternAfter (p : Profile) (name : Text) (seen candidates : List Value) :
    afterCandidates (patternAfter p name seen) candidates =
      patternAfter p name (seen ++ candidates) := by
  induction candidates generalizing seen with
  | nil => rw [List.append_nil]; rfl
  | cons v rest ih =>
    have hstep := ih (seen ++ [v])
    rw [List.append_assoc, List.singleton_append] at hstep
    rw [← hstep, afterCandidates, List.foldl_cons, matchValue_patternAfter]
    rfl

lemma afterCandidates_compile (p : Profile) (name : Text) (candidates : List Value) :
    afterCandidates (.compile p name) candidates = patternAfter p name candidates :=
  afterCandidates_patternAfter p name [] candidates

lemma matchValue_afterCandidates_iff (p : Profile) (name t : Text) (before : List Value) :
    ((afterCandidates (.compile p name) before).matchValue (.text t)).1 = .ok true ↔
      p.key t = p.key name := by
  rw [afterCandidates_compile, matchValue_patternAfter]
  simp [keyAnswer]

/-- After any candidates whatever, the patterns of two names answer for each other's name as the
keys and the equivalence of the profile do, and so matching is an equivalence relation. -/
theorem pattern_answers_agree_with_keys (p : Profile) (a b : Text) (beforeA beforeB : List Value) :
    (p.key a = p.key b ↔
      ((afterCandidates (.compile p a) beforeA).matchValue (.text b)).1 = .ok true) ∧
    (p.key a = p.key b ↔
      ((afterCandidates (.compile p b) beforeB).matchValue (.text a)).1 = .ok true) ∧
    (p.key a = p.key b ↔ p.equivalent a b = true) ∧
    Equivalence fun x y => ∀ before : List Value,
      ((afterCandidates (.compile p x) before).matchValue (.text y)).1 = .ok true := by
  refine ⟨?_, ?_, ?_, ?_⟩
  · rw [matchValue_afterCandidates_iff, eq_comm]
  · rw [matchValue_afterCandidates_iff]
  · simp [Profile.equivalent]
  · simp only [matchValue_afterCandidates_iff]
    constructor
    · intro x _
      rfl
    · intro x y h before
      exact (h before).symm
    · intro x y z hxy hyz before
      exact (hyz before).trans (hxy before)

end NameKeys.Proofs
