import NameKeys.Command.Outcome
import NameKeys.Proofs.KeyLines
import NameKeys.Proofs.Surrogates
import NameKeys.Proofs.Utf8Sequences

/-!
# Bytes that could not be decoded

Bytes are stretches of text in UTF-8 with single bytes between them that are part of no sequence.
Names are read from bytes with an escape for every such byte. Escapes are surrogates, so they stay
where they are in a key and the stretches get keys of their own. Written again, the escapes are the
bytes that they stand for.
-/

namespace NameKeys.Proofs
open CodePoint
open Encoding (lineFeed plainUtf8)
open Utf8 (encodeOne sequenceAt decodeFrom decodeEscaping escapeByte)

/-! ### Reading step by step -/

section Reading

variable {c : CodePoint} {b : UInt8} {bytes : List UInt8}

/-- Whether bytes begin with no sequence. -/
def BeginsNone (bytes : List UInt8) : Prop :=
  ∀ c : CodePoint, c.isSurrogate = false → ¬ encodeOne c <+: bytes

lemma decodeFrom_eq_drop (mend : List UInt8 → Text) (skip : Nat) (bytes : List UInt8) :
    decodeFrom mend skip bytes = decodeFrom mend 0 (bytes.drop skip) := by
  induction bytes generalizing skip with
  | nil => simp [decodeFrom]
  | cons b rest ih =>
    cases skip with
    | zero => rfl
    | succ skip =>
      rw [decodeFrom, ih]
      rfl

lemma decodeEscaping_encodeOne_append (hc : c.isSurrogate = false) (bytes : List UInt8) :
    decodeEscaping (encodeOne c ++ bytes) = c :: decodeEscaping bytes := by
  obtain ⟨b, tail, heq, -⟩ := exists_encodeOne_eq_cons c
  have hcons : encodeOne c ++ bytes = b :: (tail ++ bytes) := by rw [heq, List.cons_append]
  have hread := sequenceAt_of_encodeOne hc hcons
  have hdrop : (tail ++ bytes).drop ((encodeOne c).length - 1) = bytes := by
    rw [heq]
    exact List.drop_left
  rw [hcons, decodeEscaping, decodeFrom, hread]
  dsimp only
  rw [decodeFrom_eq_drop, hdrop]
  rfl

lemma decodeEscaping_text_append {t : Text} (ht : ∀ c ∈ t, c.isSurrogate = false)
    (bytes : List UInt8) :
    decodeEscaping (t.flatMap encodeOne ++ bytes) = t ++ decodeEscaping bytes := by
  induction t with
  | nil => rfl
  | cons c rest ih =>
    have hrest := ih fun d hd => ht d (List.mem_cons_of_mem c hd)
    rw [List.flatMap_cons, List.append_assoc,
      decodeEscaping_encodeOne_append (ht c (List.mem_cons_self ..)), hrest]
    rfl

lemma decodeEscaping_continues_append {front : List UInt8} (h : ∀ x ∈ front, Continues x)
    (bytes : List UInt8) :
    decodeEscaping (front ++ bytes) = front.map escapeByte ++ decodeEscaping bytes := by
  induction front with
  | nil => rfl
  | cons x rest ih =>
    have hx := lead?_of_continues (h x (List.mem_cons_self ..))
    have hrest := ih fun y hy => h y (List.mem_cons_of_mem x hy)
    rw [decodeEscaping] at hrest ⊢
    rw [List.cons_append, decodeFrom, sequenceAt_of_lead?_none hx]
    dsimp only
    rw [hrest]
    rfl

/-- Where no sequence begins, one byte is read, though a longer stretch is found to be wrong: the
rest of the stretch continues sequences, so it is read in the same way. -/
lemma decodeEscaping_cons (h : BeginsNone (b :: bytes)) :
    decodeEscaping (b :: bytes) = escapeByte b :: decodeEscaping bytes := by
  cases hread : sequenceAt b bytes with
  | wellFormed c n =>
    obtain ⟨hc, -, after, hafter⟩ := encodeOne_of_sequenceAt hread
    exact absurd ⟨after, hafter.symm⟩ (h c hc)
  | illFormed n =>
    have hfront := decodeEscaping_continues_append (continues_of_sequenceAt hread)
      (bytes.drop (n - 1))
    rw [List.take_append_drop] at hfront
    rw [hfront, decodeEscaping, decodeFrom, hread]
    dsimp only
    rw [decodeFrom_eq_drop]
    rfl

end Reading

/-! ### Bytes that are part of no sequence -/

section Places

variable {c : CodePoint} {b : UInt8} {front behind : List UInt8}

/-- Whether a byte is part of no sequence where it stands. -/
def IsUndecodable (front : List UInt8) (b : UInt8) (behind : List UInt8) : Prop :=
  ∀ c : CodePoint, c.isSurrogate = false →
    ∀ p q, encodeOne c = p ++ b :: q → p <:+ front → ¬ q <+: behind

/-- Whether no sequence stands across a place. -/
def IsBoundary (front behind : List UInt8) : Prop :=
  ∀ c : CodePoint, c.isSurrogate = false →
    ∀ p q, encodeOne c = p ++ q → p <:+ front → q <+: behind → p = [] ∨ q = []

lemma isBoundary_nil (behind : List UInt8) : IsBoundary [] behind :=
  fun _ _ _ _ _ hp _ => .inl (List.suffix_nil.mp hp)

lemma IsBoundary.behind_sequence (h : IsBoundary front (encodeOne c ++ behind))
    (hc : c.isSurrogate = false) : IsBoundary (front ++ encodeOne c) behind := by
  intro d hd p q heq hp hq
  obtain ⟨u, hu⟩ := hp
  rcases List.append_eq_append_iff.mp hu with ⟨a, hfront, rfl⟩ | ⟨a, -, htail⟩
  · -- The other sequence begins at this one or in front of it.
    rw [List.append_assoc] at heq
    have hsuffix : a <:+ front := ⟨u, hfront.symm⟩
    have hprefix : encodeOne c ++ q <+: encodeOne c ++ behind :=
      (List.prefix_append_right_inj (encodeOne c)).mpr hq
    rcases h d hd a (encodeOne c ++ q) heq hsuffix hprefix with rfl | hnil
    · exact .inr (eq_nil_of_encodeOne_append hc hd heq.symm)
    · exact absurd (List.append_eq_nil_iff.mp hnil).1 (encodeOne_ne_nil c)
  · cases p with
    | nil => exact .inl rfl
    | cons y p =>
      cases a with
      | nil =>
        rw [← List.nil_append (y :: p), ← htail] at heq
        exact .inr (eq_nil_of_encodeOne_append hc hd heq.symm)
      | cons x a =>
        obtain ⟨lead, tail, hlead, htail'⟩ := exists_encodeOne_eq_cons c
        rw [hlead] at htail
        obtain ⟨rfl, rfl⟩ := List.cons.inj htail
        exact absurd (htail' y (by simp)) (not_continues_of_encodeOne hd heq)

lemma IsBoundary.isUndecodable (h : IsBoundary front (b :: behind))
    (hb : BeginsNone (b :: behind)) : IsUndecodable front b behind := by
  intro c hc p q heq hp hq
  have hprefix : b :: q <+: b :: behind := (List.prefix_cons_inj b).mpr hq
  rcases h c hc p (b :: q) heq hp hprefix with rfl | hnil
  · apply hb c hc
    rw [heq]
    exact hprefix
  · cases hnil

lemma IsBoundary.behind_byte (h : IsBoundary front (b :: behind)) (hb : BeginsNone (b :: behind)) :
    IsBoundary (front ++ [b]) behind := by
  intro c hc p q heq hp hq
  rcases List.eq_nil_or_concat p with rfl | ⟨p, y, rfl⟩
  · exact .inl rfl
  · exfalso
    rw [List.concat_eq_append] at heq hp
    obtain ⟨u, hu⟩ := hp
    rw [← List.append_assoc] at hu
    obtain ⟨hfront, hy⟩ := List.append_inj' hu rfl
    obtain rfl := (List.cons.inj hy).1
    rw [List.append_assoc] at heq
    exact h.isUndecodable hb c hc p q heq ⟨u, hfront⟩ hq

lemma IsUndecodable.beginsNone (h : IsUndecodable front b behind) : BeginsNone (b :: behind) := by
  intro c hc hprefix
  cases heq : encodeOne c with
  | nil => exact encodeOne_ne_nil c heq
  | cons x q =>
    rw [heq] at hprefix
    obtain ⟨rfl, hq⟩ := List.cons_prefix_cons.mp hprefix
    exact h c hc [] q heq (List.nil_suffix) hq

lemma IsUndecodable.le_toNat (h : IsUndecodable front b behind) : 0x80 ≤ b.toNat := by
  by_contra hsmall
  have hvalue : (ofNat b.toNat).val = b.toNat := val_ofNat (by omega)
  have hsequence : encodeOne (ofNat b.toNat) = [b] := by
    rw [encodeOne_of_one (by omega), hvalue, ofNat_eq_of_toNat rfl]
  have hplain : (ofNat b.toNat).isSurrogate = false := isSurrogate_eq_false_iff.mpr (by omega)
  exact h _ hplain [] [] hsequence List.nil_suffix List.nil_prefix

end Places

/-! ### Stretches of text -/

/-- Stretches of text, with a single byte between each two. -/
inductive Stretches where
  | last (t : Text)
  | next (t : Text) (b : UInt8) (rest : Stretches)

namespace Stretches

def bytes : Stretches → List UInt8
  | last t => t.flatMap encodeOne
  | next t b rest => t.flatMap encodeOne ++ b :: rest.bytes

/-- The stretches as one text, with an escape for every single byte. -/
def text : Stretches → Text
  | last t => t
  | next t b rest => t ++ escapeByte b :: rest.text

def map (f : Text → Text) : Stretches → Stretches
  | last t => last (f t)
  | next t b rest => next (f t) b (rest.map f)

/-- Whether stretches behind some bytes have no surrogates and are as long as can be: the bytes
between them are part of no sequence. -/
def AreMaximal (front : List UInt8) : Stretches → Prop
  | last t => ∀ c ∈ t, c.isSurrogate = false
  | next t b rest => (∀ c ∈ t, c.isSurrogate = false) ∧
    IsUndecodable (front ++ t.flatMap encodeOne) b rest.bytes ∧
    rest.AreMaximal (front ++ t.flatMap encodeOne ++ [b])

/-- Whether stretches have no surrogates and the bytes between them are no ASCII. -/
def AreWritable : Stretches → Prop
  | last t => ∀ c ∈ t, c.isSurrogate = false
  | next t b rest => (∀ c ∈ t, c.isSurrogate = false) ∧ 0x80 ≤ b.toNat ∧ rest.AreWritable

variable {front : List UInt8} {s : Stretches}

lemma exists_cons {c : CodePoint} (hc : c.isSurrogate = false)
    (h : s.AreMaximal (front ++ encodeOne c)) :
    ∃ longer : Stretches, longer.bytes = encodeOne c ++ s.bytes ∧ longer.AreMaximal front := by
  cases s with
  | last t =>
    refine ⟨last (c :: t), List.flatMap_cons, ?_⟩
    exact fun d hd => (List.mem_cons.mp hd).elim (fun heq => heq ▸ hc) (h d)
  | next t b rest =>
    obtain ⟨ht, hb, hrest⟩ := h
    have hfront : front ++ (c :: t).flatMap encodeOne =
        front ++ encodeOne c ++ t.flatMap encodeOne := by
      rw [List.flatMap_cons, List.append_assoc]
    refine ⟨next (c :: t) b rest, ?_, ?_, ?_, ?_⟩
    · simp only [bytes, List.flatMap_cons, List.append_assoc]
    · exact fun d hd => (List.mem_cons.mp hd).elim (fun heq => heq ▸ hc) (ht d)
    · rwa [hfront]
    · rwa [hfront]

lemma exists_areMaximal (bytes : List UInt8) (h : IsBoundary front bytes) :
    ∃ s : Stretches, s.bytes = bytes ∧ s.AreMaximal front := by
  induction hlength : bytes.length using Nat.strong_induction_on generalizing front bytes with
  | _ n ih =>
    by_cases hnone : BeginsNone bytes
    · cases bytes with
      | nil => exact ⟨last [], rfl, by simp [AreMaximal]⟩
      | cons b rest =>
        have hshort : rest.length < n := by
          rw [← hlength]
          exact Nat.lt_succ_self rest.length
        obtain ⟨s, rfl, hs⟩ := ih _ hshort rest (h.behind_byte hnone) rfl
        refine ⟨next [] b s, rfl, by simp, ?_, ?_⟩
        · rw [List.flatMap_nil, List.append_nil]
          exact h.isUndecodable hnone
        · rwa [List.flatMap_nil, List.append_nil]
    · simp only [BeginsNone, not_forall, not_not] at hnone
      obtain ⟨c, hc, rest, rfl⟩ := hnone
      have hshort : rest.length < n := by
        have hpositive := List.length_pos_iff.mpr (encodeOne_ne_nil c)
        rw [List.length_append] at hlength
        omega
      obtain ⟨s, rfl, hs⟩ := ih _ hshort rest (h.behind_sequence hc) rfl
      exact exists_cons hc hs

lemma decodeEscaping_bytes (h : s.AreMaximal front) : decodeEscaping s.bytes = s.text := by
  induction s generalizing front with
  | last t =>
    have hread := decodeEscaping_text_append h []
    rwa [List.append_nil, show decodeEscaping [] = [] from rfl, List.append_nil] at hread
  | next t b rest ih =>
    obtain ⟨ht, hb, hrest⟩ := h
    rw [bytes, decodeEscaping_text_append ht, decodeEscaping_cons hb.beginsNone, ih hrest]
    rfl

lemma AreMaximal.areWritable (h : s.AreMaximal front) : s.AreWritable := by
  induction s generalizing front with
  | last t => exact h
  | next t b rest ih => exact ⟨h.1, h.2.1.le_toNat, ih h.2.2⟩

lemma AreWritable.map_key (h : s.AreWritable) (p : Profile) : (s.map p.key).AreWritable := by
  induction s with
  | last t => exact not_isSurrogate_of_mem_key h
  | next t b rest ih => exact ⟨not_isSurrogate_of_mem_key h.1, h.2.1, ih h.2.2⟩

/-! #### Escapes -/

lemma val_escapeByte (b : UInt8) : (escapeByte b).val = 0xDC00 + b.toNat := by
  have hb := b.toNat_lt
  exact val_ofNat (by omega)

lemma isSurrogate_escapeByte (b : UInt8) : (escapeByte b).isSurrogate = true := by
  have hb := b.toNat_lt
  rw [isSurrogate_iff, val_escapeByte]
  omega

lemma isByteEscape_escapeByte {b : UInt8} (h : 0x80 ≤ b.toNat) :
    (escapeByte b).isByteEscape = true := by
  have hb := b.toNat_lt
  simp only [isByteEscape, val_escapeByte, Bool.and_eq_true, decide_eq_true_eq]
  omega

lemma key_text (p : Profile) (s : Stretches) : p.key s.text = (s.map p.key).text := by
  induction s with
  | last t => rfl
  | next t b rest ih =>
    rw [text, (inert_of_isSurrogate (isSurrogate_escapeByte b)).key_append, ih]
    rfl

lemma ownBytes_escapeByte {b : UInt8} (h : 0x80 ≤ b.toNat) : ownBytes (escapeByte b) = [b] := by
  rw [ownBytes, if_pos (isByteEscape_escapeByte h), val_escapeByte, Nat.add_sub_cancel_left,
    UInt8.ofNat_toNat]

lemma AreWritable.no_stray (h : s.AreWritable) : s.text.any isStraySurrogate = false := by
  induction s with
  | last t => exact no_stray_of_plain h
  | next t b rest ih =>
    obtain ⟨ht, hb, hrest⟩ := h
    rw [text, List.any_append, List.any_cons, no_stray_of_plain ht, ih hrest]
    simp [isStraySurrogate, isByteEscape_escapeByte hb]

lemma AreWritable.flatMap_ownBytes (h : s.AreWritable) : s.text.flatMap ownBytes = s.bytes := by
  induction s with
  | last t => exact flatMap_ownBytes_of_plain h
  | next t b rest ih =>
    obtain ⟨ht, hb, hrest⟩ := h
    rw [text, List.flatMap_append, List.flatMap_cons, flatMap_ownBytes_of_plain ht,
      ownBytes_escapeByte hb, ih hrest]
    rfl

lemma encode_text (h : s.AreWritable) : plainUtf8.encode s.text = s.bytes := by
  rw [encode_of_no_stray h.no_stray, h.flatMap_ownBytes]

lemma map_key_exact (s : Stretches) : s.map Profile.exact.key = s := by
  induction s with
  | last t => rfl
  | next t b rest ih =>
    rw [map, ih]
    rfl

end Stretches

/-- A name read from bytes is written as its key: every stretch of text as the UTF-8 of its own key,
and the bytes between the stretches, which are part of no sequence, as they were. Under the exact
profile all bytes come back. -/
theorem undecodable_bytes_come_back (bytes : List UInt8) :
    (∃ s : Stretches, s.bytes = bytes ∧ s.AreMaximal []) ∧
    (∀ s : Stretches, s.bytes = bytes → s.AreMaximal [] → decodeEscaping bytes = s.text ∧
      ∀ p : Profile, Task.perform .plainUtf8 p (.key [decodeEscaping bytes]) =
        .ok ((s.map p.key).bytes ++ [lineFeed], ExitCode.success)) ∧
    Task.perform .plainUtf8 .exact (.key [decodeEscaping bytes]) =
      .ok (bytes ++ [lineFeed], ExitCode.success) := by
  have hexists := Stretches.exists_areMaximal bytes (isBoundary_nil bytes)
  have hall : ∀ s : Stretches, s.bytes = bytes → s.AreMaximal [] → decodeEscaping bytes = s.text ∧
      ∀ p : Profile, Task.perform .plainUtf8 p (.key [decodeEscaping bytes]) =
        .ok ((s.map p.key).bytes ++ [lineFeed], ExitCode.success) := by
    rintro s rfl hs
    have htext := Stretches.decodeEscaping_bytes hs
    refine ⟨htext, fun p => ?_⟩
    have hkey : plainUtf8.encode (p.key s.text) = (s.map p.key).bytes := by
      rw [Stretches.key_text]
      exact Stretches.encode_text (hs.areWritable.map_key p)
    rw [htext, Task.perform, Encoding.keyLines, List.flatMap_singleton, Encoding.keyLine, hkey]
  refine ⟨hexists, hall, ?_⟩
  obtain ⟨s, hbytes, hs⟩ := hexists
  rw [(hall s hbytes hs).2 .exact, Stretches.map_key_exact, hbytes]

/-- A letter and its accent, a surrogate that was encoded, a letter, and a sequence that breaks
off. -/
def brokenName : List UInt8 := [0x45, 0xCC, 0x81, 0xED, 0xA0, 0x80, 0x41, 0xE2, 0x82]

theorem stretches_of_brokenName :
    ∃ s : Stretches, s.bytes = brokenName ∧ s.AreMaximal [] ∧
      (s.map (Profile.mk .compose .unicode).key).bytes =
        [0xC3, 0xA9, 0xED, 0xA0, 0x80, 0x61, 0xE2, 0x82] := by
  obtain ⟨⟨s, hbytes, hs⟩, hall, -⟩ := undecodable_bytes_come_back brokenName
  refine ⟨s, hbytes, hs, ?_⟩
  have hwritten := (hall s hbytes hs).2 ⟨.compose, .unicode⟩
  have hline : plainUtf8.keyLines ⟨.compose, .unicode⟩ [decodeEscaping brokenName] =
      [0xC3, 0xA9, 0xED, 0xA0, 0x80, 0x61, 0xE2, 0x82] ++ [lineFeed] := by decide +kernel
  rw [Task.perform, hline] at hwritten
  exact (List.append_cancel_right (Prod.mk.inj (Except.ok.inj hwritten)).1).symm

end NameKeys.Proofs
