import NameKeys.Proofs.ListedOptions
import NameKeys.Proofs.VariableTexts

/-!
# Items joined with commas

Texts that are joined with commas come back as the items of a variable's text, however many blanks
stand around them and however many blank pieces stand between them. What any text has as its items
can be joined again.
-/

namespace NameKeys.Proofs
open CodePoint
open Environment (convert items)
open Text (join splitOn strip)

/-- Whether a text can be an item of a list: it is not empty, holds no comma and neither begins nor
ends with a blank. -/
structure IsItem (t : Text) : Prop where
  ne_nil : t ≠ []
  no_comma : ofChar ',' ∉ t
  head : ∀ c ∈ t.head?, c.isBlank = false
  last : ∀ c ∈ t.getLast?, c.isBlank = false

instance decidableIsItem (t : Text) : Decidable (IsItem t) :=
  decidable_of_iff ((!t.isEmpty && !t.contains (ofChar ',') && t.head?.all (fun c => !c.isBlank) &&
      t.getLast?.all fun c => !c.isBlank) = true) (by
    simp only [Bool.and_eq_true, Bool.not_eq_true', List.isEmpty_eq_false_iff,
      List.contains_eq_mem, decide_eq_false_iff_not, Option.all_eq_true]
    exact ⟨fun ⟨⟨⟨hne, hcomma⟩, hhead⟩, hlast⟩ => ⟨hne, hcomma, hhead, hlast⟩,
      fun h => ⟨⟨⟨h.ne_nil, h.no_comma⟩, h.head⟩, h.last⟩⟩)

/-- Whether pieces are some items in order, with blanks around them and blank pieces among them. -/
inductive AreSpaced : List Text → List Text → Prop
  | nil : AreSpaced [] []
  | blank {piece : Text} {items pieces : List Text} (blank : Text.isBlank piece = true)
      (spaced : AreSpaced items pieces) : AreSpaced items (piece :: pieces)
  | item (front t back : Text) {items pieces : List Text}
      (front_blank : Text.isBlank front = true) (back_blank : Text.isBlank back = true)
      (spaced : AreSpaced items pieces) : AreSpaced (t :: items) ((front ++ t ++ back) :: pieces)

/-! ### Trimmed texts -/

section Trimmed

variable {p : CodePoint → Bool} {t : Text}

lemma trimWhere_eq_self_iff :
    t.trimWhere p = t ↔ (∀ c ∈ t.head?, p c = false) ∧ ∀ c ∈ t.getLast?, p c = false := by
  have htrim : t.trimWhere p = (t.dropWhile p).rdropWhile p := rfl
  have hfront : t.dropWhile p = t ↔ ∀ c ∈ t.head?, p c = false := by
    cases t with
    | nil => simp
    | cons c rest => simp [List.dropWhile_eq_self_iff]
  have hback : t.rdropWhile p = t ↔ ∀ c ∈ t.getLast?, p c = false := by
    rw [List.rdropWhile_eq_self_iff]
    constructor
    · intro h c hc
      obtain ⟨hne, rfl⟩ := List.mem_getLast?_eq_getLast hc
      simpa using h hne
    · intro h hne
      simpa using h _ (List.getLast?_eq_some_getLast hne)
  rw [htrim, ← hfront, ← hback]
  constructor
  · intro h
    have hlength := congrArg List.length h
    have hback_le := (List.rdropWhile_prefix p (t.dropWhile p)).length_le
    have hfront_le := (List.dropWhile_suffix p (l := t)).length_le
    have hsame : t.dropWhile p = t :=
      (List.dropWhile_suffix p).eq_of_length_le (by omega)
    rw [hsame] at h
    exact ⟨hsame, h⟩
  · rintro ⟨hsame, h⟩
    rw [hsame, h]

end Trimmed

/-! ### Pieces -/

section Pieces

variable {separator : CodePoint} {t piece : Text} {texts pieces : List Text}

lemma not_mem_of_mem_splitOn (h : piece ∈ splitOn separator t) : separator ∉ piece := by
  induction t generalizing piece with
  | nil =>
    rw [List.mem_singleton.mp h]
    exact List.not_mem_nil
  | cons c rest ih =>
    obtain ⟨first, others, hsplit⟩ := exists_splitOn_eq_cons separator rest
    rw [hsplit] at ih
    simp only [splitOn, hsplit] at h
    split at h
    · rcases List.mem_cons.mp h with rfl | h
      · exact List.not_mem_nil
      · exact ih h
    · next hne =>
      rcases List.mem_cons.mp h with rfl | h
      · intro hmem
        rcases List.mem_cons.mp hmem with hsame | hmem
        · exact hne hsame.symm
        · exact ih (List.mem_cons_self ..) hmem
      · exact ih (List.mem_cons_of_mem _ h)

lemma IsItem.strip_eq (h : IsItem t) : strip t = t := trimWhere_eq_self_iff.mpr ⟨h.head, h.last⟩

lemma isItem_of_mem_items (h : t ∈ items piece) : IsItem t := by
  unfold items at h
  obtain ⟨hmem, hne⟩ := List.mem_filter.mp h
  obtain ⟨part, hpart, rfl⟩ := List.mem_map.mp hmem
  obtain ⟨hhead, hlast⟩ := trimWhere_eq_self_iff.mp (trimWhere_trimWhere CodePoint.isBlank part)
  refine ⟨by simpa using hne, fun hcomma => ?_, hhead, hlast⟩
  obtain ⟨front, back, heq, -, -⟩ := exists_eq_append_trimWhere CodePoint.isBlank part
  apply not_mem_of_mem_splitOn hpart
  rw [heq]
  exact List.mem_append_left _ (List.mem_append_right _ hcomma)

lemma no_comma_of_isBlank (h : Text.isBlank t = true) : ofChar ',' ∉ t := by
  intro hmem
  have hcomma := List.all_eq_true.mp h _ hmem
  contradiction

lemma AreSpaced.refl (texts : List Text) : AreSpaced texts texts := by
  induction texts with
  | nil => exact .nil
  | cons t texts ih =>
    have hspaced := AreSpaced.item [] t [] rfl rfl ih
    rwa [List.nil_append, List.append_nil] at hspaced

lemma AreSpaced.no_comma (h : AreSpaced texts pieces) (hitems : ∀ t ∈ texts, IsItem t) :
    ∀ piece ∈ pieces, ofChar ',' ∉ piece := by
  induction h with
  | nil => exact List.forall_mem_nil _
  | blank hblank _ ih => exact List.forall_mem_cons.mpr ⟨no_comma_of_isBlank hblank, ih hitems⟩
  | item front t back hfront hback _ ih =>
    obtain ⟨hitem, hrest⟩ := List.forall_mem_cons.mp hitems
    refine List.forall_mem_cons.mpr ⟨?_, ih hrest⟩
    simp [no_comma_of_isBlank hfront, no_comma_of_isBlank hback, hitem.no_comma]

lemma AreSpaced.filter_strip (h : AreSpaced texts pieces) (hitems : ∀ t ∈ texts, IsItem t) :
    ((pieces.map strip).filter fun item => !item.isEmpty) = texts := by
  induction h with
  | nil => rfl
  | blank hblank _ ih =>
    rw [List.map_cons, strip_eq_nil_iff.mpr hblank, List.filter_cons_of_neg (by simp), ih hitems]
  | item front t back hfront hback _ ih =>
    obtain ⟨hitem, hrest⟩ := List.forall_mem_cons.mp hitems
    have hstrip := (trimWhere_append (List.all_eq_true.mp hfront) (List.all_eq_true.mp hback)).trans
      hitem.strip_eq
    rw [List.map_cons, strip, hstrip, List.filter_cons_of_pos (by simpa using hitem.ne_nil), ih hrest]

lemma items_join_of_areSpaced (hitems : ∀ t ∈ texts, IsItem t) (h : AreSpaced texts pieces) :
    items (join "," pieces) = texts := by
  rw [items_join (h.no_comma hitems), h.filter_strip hitems]

end Pieces

/-- Items that are joined with commas are what the text is converted to, also with blanks around them
and with blank pieces between them. Whatever text is converted to a list, its items are such and come
back when they are joined. -/
theorem items_of_joined_texts :
    (∀ texts, (∀ t ∈ texts, IsItem t) →
      convert true (join "," texts) = .ofTexts texts ∧
      ∀ pieces, AreSpaced texts pieces → convert true (join "," pieces) = .ofTexts texts) ∧
    ∀ t, ∃ texts, convert true t = .ofTexts texts ∧ (∀ item ∈ texts, IsItem item) ∧
      convert true (join "," texts) = .ofTexts texts := by
  have hconvert : ∀ t, convert true t = .ofTexts (items t) := fun _ => rfl
  simp only [hconvert]
  refine ⟨fun texts hitems => ⟨?_, fun pieces h => ?_⟩, fun t => ⟨items t, rfl, ?_, ?_⟩⟩
  · rw [items_join_of_areSpaced hitems (.refl texts)]
  · rw [items_join_of_areSpaced hitems h]
  · exact fun item hitem => isItem_of_mem_items hitem
  · rw [items_join_of_areSpaced (fun item hitem => isItem_of_mem_items hitem) (.refl _)]

theorem items_of_spaced_names :
    (∀ t ∈ (["nfd", "a b"] : List Text), IsItem t) ∧
    AreSpaced ["nfd", "a b"] ["", "\tnfd ", " ", "a b\u2003"] ∧
    convert true (join "," ["", "\tnfd ", " ", "a b\u2003"]) = .ofTexts ["nfd", "a b"] := by
  have hitems : ∀ t ∈ (["nfd", "a b"] : List Text), IsItem t := by
    simp only [List.forall_mem_cons]
    exact ⟨by decide, by decide, List.forall_mem_nil _⟩
  have hspaced : AreSpaced ["nfd", "a b"] ["", "\tnfd ", " ", "a b\u2003"] :=
    .blank rfl (.item "\t" "nfd" " " rfl rfl (.blank rfl (.item [] "a b" "\u2003" rfl rfl .nil)))
  exact ⟨hitems, hspaced, (items_of_joined_texts.1 _ hitems).2 _ hspaced⟩

end NameKeys.Proofs
