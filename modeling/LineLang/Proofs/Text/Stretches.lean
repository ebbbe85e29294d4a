import LineLang.Proofs.Text.Pieces

/-!
# Stretches

A stretch of a list is a segment whose elements all have a property and which is as long as it can
be. `Stretches` says that some lists are the stretches of a list, all of them and in order; there is
only one way to say so (`Stretches.unique`). The pieces between separators are the stretches without
separators (`stretches_filter_splitOnP`, `stretches_pieces`).
-/

namespace LineLang.Text

variable {α : Type} {inside : α → Prop} {sep : α → Bool} {xs as bs : List α} {c : α}
  {start stop n : Nat}

/-- There is an element at the position, and it has the property. -/
def HasAt (inside : α → Prop) (xs : List α) (i : Nat) : Prop :=
  ∃ x, xs[i]? = some x ∧ inside x

/-- There are positions from `start` to before `stop`, and all their elements have the property. -/
def IsSegment (inside : α → Prop) (xs : List α) (start stop : Nat) : Prop :=
  start < stop ∧ ∀ i, start ≤ i → i < stop → HasAt inside xs i

/-- The segment is part of no other one. -/
def IsStretch (inside : α → Prop) (xs : List α) (start stop : Nat) : Prop :=
  IsSegment inside xs start stop ∧
    ∀ start' stop', IsSegment inside xs start' stop' → start' ≤ start → stop ≤ stop' →
      start' = start ∧ stop' = stop

/-- The parts are the stretches of a list, all of them and from left to right. -/
def Stretches (inside : α → Prop) (xs : List α) (parts : List (List α)) : Prop :=
  ∃ spans : List (Nat × Nat),
    spans.Pairwise (fun a b => a.1 < b.1) ∧
    (∀ span, span ∈ spans ↔ IsStretch inside xs span.1 span.2) ∧
    parts = spans.map fun span => xs.extract span.1 span.2

theorem Stretches.unique {parts parts' : List (List α)} (h : Stretches inside xs parts)
    (h' : Stretches inside xs parts') : parts = parts' := by
  obtain ⟨spans, ascending, complete, rfl⟩ := h
  obtain ⟨spans', ascending', complete', rfl⟩ := h'
  have distinct {spans : List (Nat × Nat)} (h : spans.Pairwise fun a b => a.1 < b.1) :
      spans.Nodup :=
    h.imp fun less same => absurd (same ▸ less) (Nat.lt_irrefl _)
  -- The spans are the same as they have the same members, and in the same order as both ascend.
  have perm : spans.Perm spans' :=
    (List.perm_ext_iff_of_nodup (distinct ascending) (distinct ascending')).2 fun span => by
      rw [complete, complete']
  have same : spans = spans' := by
    refine perm.eq_of_pairwise (fun a b _ _ less more => ?_) ascending ascending'
    exact absurd (Nat.lt_trans less more) (Nat.lt_irrefl _)
  rw [same]

/-! ## Segments and gaps -/

/-- A segment lies on one side of a position that it cannot contain. -/
theorem IsSegment.apart (h : IsSegment inside xs start stop) (gap : ¬ HasAt inside xs n) :
    stop ≤ n ∨ n < start := by
  by_cases before : n < start
  · exact .inr before
  · refine .inl (Nat.le_of_not_lt fun after => gap ?_)
    exact h.2 n (Nat.le_of_not_lt before) after

/-- If the first gap is at `n`, the only stretch up to there goes from the start to `n`. -/
theorem isStretch_iff_of_le (filled : ∀ i < n, HasAt inside xs i) (gap : ¬ HasAt inside xs n)
    (first : start ≤ n) : IsStretch inside xs start stop ↔ 0 < n ∧ start = 0 ∧ stop = n := by
  constructor
  · rintro ⟨segment, maximal⟩
    have filled_up := segment.1
    have before : stop ≤ n := by
      have apart := segment.apart gap
      omega
    have whole : IsSegment inside xs 0 n := ⟨by omega, fun i _ less => filled i less⟩
    obtain ⟨same, same'⟩ := maximal 0 n whole (Nat.zero_le start) before
    exact ⟨whole.1, same.symm, same'.symm⟩
  · rintro ⟨positive, rfl, rfl⟩
    refine ⟨⟨positive, fun i _ less => filled i less⟩, ?_⟩
    intro start' stop' segment before after
    have apart := segment.apart gap
    omega

theorem hasAt_append_cons (as bs : List α) (c : α) (i : Nat) :
    HasAt inside (as ++ c :: bs) (as.length + 1 + i) ↔ HasAt inside bs i := by
  have place : (as ++ c :: bs)[as.length + 1 + i]? = bs[i]? := by
    rw [List.getElem?_append_right (by omega),
      show as.length + 1 + i - as.length = i + 1 by omega, List.getElem?_cons_succ]
  rw [HasAt, place, HasAt]

theorem isSegment_append_cons (as bs : List α) (c : α) (start stop : Nat) :
    IsSegment inside (as ++ c :: bs) (as.length + 1 + start) (as.length + 1 + stop) ↔
      IsSegment inside bs start stop := by
  constructor
  · rintro ⟨less, filled⟩
    refine ⟨by omega, fun i low high => ?_⟩
    have here := filled (as.length + 1 + i) (by omega) (by omega)
    rwa [hasAt_append_cons] at here
  · rintro ⟨less, filled⟩
    refine ⟨by omega, fun i low high => ?_⟩
    obtain ⟨k, rfl⟩ := Nat.exists_eq_add_of_le (show as.length + 1 ≤ i by omega)
    rw [hasAt_append_cons]
    exact filled k (by omega) (by omega)

/-- A stretch after a gap is a stretch of what stands after the gap. -/
theorem isStretch_append_cons (gap : ¬ HasAt inside (as ++ c :: bs) as.length) (start stop : Nat) :
    IsStretch inside (as ++ c :: bs) (as.length + 1 + start) (as.length + 1 + stop) ↔
      IsStretch inside bs start stop := by
  unfold IsStretch
  rw [isSegment_append_cons]
  refine and_congr_right fun segment => ⟨fun maximal start' stop' other low high => ?_,
    fun maximal start' stop' other low high => ?_⟩
  · have same := maximal _ _ ((isSegment_append_cons as bs c start' stop').2 other)
      (by omega) (by omega)
    omega
  · have less := segment.1
    have apart := other.apart gap
    obtain ⟨start'', rfl⟩ := Nat.exists_eq_add_of_le (show as.length + 1 ≤ start' by omega)
    obtain ⟨stop'', rfl⟩ := Nat.exists_eq_add_of_le (show as.length + 1 ≤ stop' by omega)
    rw [isSegment_append_cons] at other
    have same := maximal start'' stop'' other (by omega) (by omega)
    omega

/-! ## Lists that separators cut -/

/-- The span of a list that is all one stretch; there is none if the list is empty. -/
def headSpan (as : List α) : List (Nat × Nat) :=
  if as.isEmpty then [] else [(0, as.length)]

theorem mem_headSpan {span : Nat × Nat} :
    span ∈ headSpan as ↔ 0 < as.length ∧ span.1 = 0 ∧ span.2 = as.length := by
  cases as with
  | nil => simp [headSpan]
  | cons a as => simp [headSpan, Prod.ext_iff]

theorem map_headSpan (as bs : List α) :
    (headSpan as).map (fun span => (as ++ bs).extract span.1 span.2) =
      [as].filter (!·.isEmpty) := by
  cases as with
  | nil => rfl
  | cons a as => simp [headSpan]

theorem pairwise_headSpan (as : List α) : (headSpan as).Pairwise fun a b => a.1 < b.1 := by
  unfold headSpan
  split
  · exact .nil
  · exact List.pairwise_singleton _ _

theorem hasAt_of_all (whole : ∀ x ∈ as, inside x) (bs : List α) :
    ∀ i < as.length, HasAt inside (as ++ bs) i := by
  intro i less
  refine ⟨as[i], ?_, whole _ (List.getElem_mem less)⟩
  rw [List.getElem?_append_left less, List.getElem?_eq_getElem less]

/-- A list without separators is one stretch, unless it is empty. -/
theorem stretches_of_all (whole : ∀ x ∈ xs, inside x) :
    Stretches inside xs ([xs].filter (!·.isEmpty)) := by
  refine ⟨headSpan xs, pairwise_headSpan xs, fun span => ?_, ?_⟩
  · have filled := hasAt_of_all whole []
    rw [List.append_nil] at filled
    have gap {i : Nat} (outside : xs.length ≤ i) : ¬ HasAt inside xs i := by
      rintro ⟨x, found, -⟩
      rw [List.getElem?_eq_none outside] at found
      cases found
    rw [mem_headSpan]
    by_cases first : span.1 ≤ xs.length
    · exact (isStretch_iff_of_le filled (gap (Nat.le_refl _)) first).symm
    · refine ⟨fun h => by omega, fun h => ?_⟩
      exact absurd (h.1.2 span.1 (Nat.le_refl _) h.1.1) (gap (by omega))
  · have parts := map_headSpan xs []
    rw [List.append_nil] at parts
    exact parts.symm

/-- The span that is `n` positions further to the right. -/
def shifted (n : Nat) (span : Nat × Nat) : Nat × Nat :=
  (n + span.1, n + span.2)

theorem extract_shifted (as bs : List α) (c : α) (span : Nat × Nat) :
    (as ++ c :: bs).extract (shifted (as.length + 1) span).1 (shifted (as.length + 1) span).2 =
      bs.extract span.1 span.2 := by
  simp only [shifted, List.extract_eq_take_drop]
  rw [show as.length + 1 + span.2 - (as.length + 1 + span.1) = span.2 - span.1 by omega,
    ← List.drop_drop, List.append_cons, List.drop_left' (by simp)]

/-- What stands before the first separator is one stretch, unless it is empty, and the other
stretches stand after it. -/
theorem isStretch_iff_of_separator (whole : ∀ x ∈ as, inside x) (separates : ¬ inside c)
    (span : Nat × Nat) :
    IsStretch inside (as ++ c :: bs) span.1 span.2 ↔
      span ∈ headSpan as ∨
        ∃ later, IsStretch inside bs later.1 later.2 ∧ shifted (as.length + 1) later = span := by
  have gap : ¬ HasAt inside (as ++ c :: bs) as.length := by
    rintro ⟨x, found, kept⟩
    rw [List.getElem?_append_right (Nat.le_refl _), Nat.sub_self, List.getElem?_cons_zero] at found
    cases found
    exact separates kept
  -- No stretch contains the separator, so each one lies on one side of it.
  rw [mem_headSpan]
  by_cases first : span.1 ≤ as.length
  · rw [isStretch_iff_of_le (hasAt_of_all whole (c :: bs)) gap first]
    refine ⟨.inl, fun h => h.resolve_right ?_⟩
    rintro ⟨later, -, rfl⟩
    simp only [shifted] at first
    omega
  · constructor
    · intro h
      have less := h.1.1
      obtain ⟨start, same⟩ := Nat.exists_eq_add_of_le (show as.length + 1 ≤ span.1 by omega)
      obtain ⟨stop, same'⟩ := Nat.exists_eq_add_of_le (show as.length + 1 ≤ span.2 by omega)
      rw [same, same', isStretch_append_cons gap] at h
      exact .inr ⟨(start, stop), h, Prod.ext same.symm same'.symm⟩
    · rintro (h | ⟨later, h, rfl⟩)
      · omega
      · exact (isStretch_append_cons gap later.1 later.2).2 h

theorem Stretches.append_cons {parts : List (List α)} (whole : ∀ x ∈ as, inside x)
    (separates : ¬ inside c) (later : Stretches inside bs parts) :
    Stretches inside (as ++ c :: bs) ([as].filter (!·.isEmpty) ++ parts) := by
  obtain ⟨spans, ascending, complete, rfl⟩ := later
  refine ⟨headSpan as ++ spans.map (shifted (as.length + 1)), ?_, fun span => ?_, ?_⟩
  · refine List.pairwise_append.2 ⟨pairwise_headSpan as, ?_, fun a first b second => ?_⟩
    · exact List.pairwise_map.2 (ascending.imp fun less => Nat.add_lt_add_left less _)
    · obtain ⟨span, -, rfl⟩ := List.mem_map.1 second
      have start := (mem_headSpan.1 first).2.1
      simp only [shifted]
      omega
  · rw [isStretch_iff_of_separator whole separates, List.mem_append, List.mem_map]
    simp only [complete]
  · rw [List.map_append, map_headSpan, List.map_map]
    exact congrArg _ (List.map_congr_left fun span _ => (extract_shifted as bs c span).symm)

/-- A list has no separator, or it has a first one. -/
theorem separatedInduction (sep : α → Bool) {motive : List α → Prop}
    (whole : ∀ as, (∀ x ∈ as, sep x = false) → motive as)
    (cut : ∀ as c bs, (∀ x ∈ as, sep x = false) → sep c = true → motive bs →
      motive (as ++ c :: bs)) (xs : List α) : motive xs := by
  cases found : xs.find? sep with
  | none => exact whole xs fun x member => by simpa using List.find?_eq_none.1 found x member
  | some c =>
    obtain ⟨separates, as, bs, split, before⟩ := List.find?_eq_some_iff_append.1 found
    have shorter : bs.length < xs.length := by
      rw [split, List.length_append, List.length_cons]
      omega
    rw [split]
    refine cut as c bs (fun x member => by simpa using before x member) separates ?_
    exact separatedInduction sep whole cut bs
termination_by xs.length

/-- The pieces between separators, without the empty ones, are the stretches without separators. -/
theorem stretches_filter_splitOnP (separates : ∀ x, inside x ↔ sep x = false) (xs : List α) :
    Stretches inside xs ((xs.splitOnP sep).filter (!·.isEmpty)) := by
  induction xs using separatedInduction sep with
  | whole as none =>
    rw [List.splitOnP_eq_singleton none]
    exact stretches_of_all fun x member => (separates x).2 (none x member)
  | cut as c bs none here later =>
    rw [List.splitOnP_append_cons as bs here, List.splitOnP_eq_singleton none, List.filter_append]
    refine later.append_cons (fun x member => (separates x).2 (none x member)) ?_
    rw [separates, here]
    exact Bool.noConfusion

theorem stretches_pieces {inside : Char → Prop} {sep : Char → Bool}
    (separates : ∀ c, inside c ↔ sep c = false) (cs : List Char) :
    Stretches inside cs ((pieces sep cs).map String.toList) := by
  have parts : (pieces sep cs).map String.toList = (cs.splitOnP sep).filter (!·.isEmpty) := by
    rw [pieces, List.map_map]
    exact (List.map_congr_left fun cs _ => String.toList_ofList).trans (List.map_id' _)
  rw [parts]
  exact stretches_filter_splitOnP separates cs

/-- Tokens are the stretches without spaces. -/
theorem stretches_tokens (cs : List Char) :
    Stretches (· ≠ ' ') cs ((tokens cs).map String.toList) :=
  stretches_pieces (fun c => by simp) cs

end LineLang.Text
