import Mathlib.Tactic.Lemma
import NameKeys.Config.Environment

/-!
# Names of variables

The name of a variable says which setting the variable addresses, if it addresses any: behind how the
names of the program's variables begin there stand, in whatever case, a section and a key, with the
first underscore between them.
-/

namespace NameKeys.Proofs
open Environment (address?)

def divider : CodePoint := CodePoint.ofChar '_'

/-- Whether a name consists of the beginning for a program and of something that in lower case is a
section and a key, divided for the first time. -/
def Addresses (program name sectionName key : Text) : Prop :=
  ∃ rest, name = Environment.prefixOf program ++ rest ∧
    Text.lower rest = sectionName ++ divider :: key ∧ divider ∉ sectionName

section Names

variable {program name sectionName key beginning t rest before : Text} {separator : CodePoint}

lemma afterPrefix?_eq_some_iff :
    Text.afterPrefix? beginning t = some rest ↔ t = beginning ++ rest := by
  induction beginning generalizing t with
  | nil => exact Option.some_inj
  | cons p beginning ih =>
    cases t with
    | nil => exact iff_of_false nofun nofun
    | cons c t =>
      rw [Text.afterPrefix?]
      by_cases hsame : p = c
      · rw [if_pos hsame, ih, hsame]
        simp
      · rw [if_neg hsame]
        refine iff_of_false nofun fun heq => hsame ?_
        exact (List.cons.inj heq).1.symm

lemma cutAt_cons (separator c : CodePoint) (t : Text) :
    Text.cutAt separator (c :: t) =
      if c = separator then ([], some t)
      else (c :: (Text.cutAt separator t).1, (Text.cutAt separator t).2) := by
  unfold Text.cutAt
  by_cases hsame : c = separator
  · simp [hsame]
  · rw [if_neg hsame, List.dropWhile_cons_of_pos (by simpa using hsame),
      List.takeWhile_cons_of_pos (by simpa using hsame)]
    split <;> rfl

lemma cutAt_eq_some_iff :
    Text.cutAt separator t = (before, some rest) ↔
      t = before ++ separator :: rest ∧ separator ∉ before := by
  induction t generalizing before with
  | nil => exact iff_of_false nofun fun h => by simp at h
  | cons c t ih =>
    rw [cutAt_cons]
    by_cases hsame : c = separator
    · subst hsame
      rw [if_pos rfl]
      constructor
      · rintro heq
        obtain ⟨rfl, hrest⟩ := Prod.mk.inj heq
        obtain rfl := Option.some.inj hrest
        exact ⟨rfl, List.not_mem_nil⟩
      · rintro ⟨heq, hbefore⟩
        cases before with
        | nil =>
          obtain ⟨-, rfl⟩ := List.cons.inj heq
          rfl
        | cons first before =>
          obtain ⟨rfl, -⟩ := List.cons.inj heq
          exact absurd (List.mem_cons_self ..) hbefore
    · rw [if_neg hsame]
      constructor
      · intro heq
        obtain ⟨rfl, hrest⟩ := Prod.mk.inj heq
        obtain ⟨ht, hbefore⟩ := ih.mp (Prod.ext rfl hrest)
        refine ⟨congrArg (c :: ·) ht, ?_⟩
        exact List.not_mem_cons_of_ne_of_not_mem (Ne.symm hsame) hbefore
      · rintro ⟨heq, hbefore⟩
        cases before with
        | nil => exact absurd (List.cons.inj heq).1 hsame
        | cons first before =>
          obtain ⟨rfl, ht⟩ := List.cons.inj heq
          have hcut := ih.mpr ⟨ht, (List.ne_and_not_mem_of_not_mem_cons hbefore).2⟩
          rw [hcut]

lemma address?_eq_some_iff :
    address? program name = some (sectionName, key) ↔ Addresses program name sectionName key := by
  unfold address? Addresses
  constructor
  · intro h
    split at h
    · cases h
    · next rest hrest =>
      refine ⟨rest, afterPrefix?_eq_some_iff.mp hrest, ?_⟩
      split at h
      · next before after hcut =>
        obtain ⟨rfl, rfl⟩ := Prod.mk.inj (Option.some.inj h)
        exact cutAt_eq_some_iff.mp hcut
      · cases h
  · rintro ⟨rest, hname, hrest⟩
    have hcut : Text.cutAt '_' (Text.lower rest) = (sectionName, some key) :=
      cutAt_eq_some_iff.mpr hrest
    rw [afterPrefix?_eq_some_iff.mpr hname]
    simp only [hcut]

end Names

end NameKeys.Proofs
