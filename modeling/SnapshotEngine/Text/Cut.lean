/-!
# Cutting a text at a mark

An identifier is cut at the first occurrence of its separator, a backup name at
its last hyphen.  Both cuts lose nothing: the two parts around the mark make up
the text again.

* `append_of_cut` — the parts and the mark in between are the text;
* `cut_isSome_iff` — there is a cut exactly when the mark occurs;
* `cut_append`, `not_isPrefix_of_cut` — a text is cut right where a mark was put,
  as long as no earlier occurrence straddles the joint, and not otherwise;
* `append_cons_inj` — for a mark of one character there is one way to do so;
* `append_of_cutLast`, `not_mem_of_cutLast` — the same for the last cut, after
  which the mark does not occur any more.
-/

namespace SnapshotEngine.Text

/-- The parts before and after the first occurrence of `mark`, if there is
one. -/
def cut (mark : List Char) : List Char → Option (List Char × List Char)
  | [] => if mark.isEmpty then some ([], []) else none
  | c :: cs =>
      if mark.isPrefixOf (c :: cs) then some ([], (c :: cs).drop mark.length)
      else (cut mark cs).map fun parts => (c :: parts.1, parts.2)

/-- The parts before and after the last occurrence of the character `mark`, if
there is one. -/
def cutLast (mark : Char) : List Char → Option (List Char × List Char)
  | [] => none
  | c :: cs =>
      match cutLast mark cs with
      | some parts => some (c :: parts.1, parts.2)
      | none => if c = mark then some ([], cs) else none

/-- Whether `mark` occurs in a text. -/
def occurs (mark cs : List Char) : Bool :=
  (cut mark cs).isSome

/-- The parts of a cut and the mark in between make up the text. -/
theorem append_of_cut {mark cs before after : List Char}
    (h : cut mark cs = some (before, after)) : before ++ mark ++ after = cs := by
  induction cs generalizing before with
  | nil =>
      cases mark with
      | nil => simp_all [cut]
      | cons m ms => simp [cut] at h
  | cons c cs ih =>
      rw [cut] at h
      split at h
      · rename_i hstart
        obtain ⟨rest, hrest⟩ := List.isPrefixOf_iff_prefix.1 hstart
        simp only [Option.some.injEq, Prod.mk.injEq] at h
        obtain ⟨rfl, rfl⟩ := h
        rw [← hrest]
        simp
      · obtain ⟨parts, hparts, heq⟩ := Option.map_eq_some_iff.1 h
        simp only [Prod.mk.injEq] at heq
        obtain ⟨rfl, rfl⟩ := heq
        have := ih hparts
        simpa using this

/-- There is a cut exactly when the mark occurs as an infix. -/
theorem cut_isSome_iff {mark cs : List Char} :
    (cut mark cs).isSome ↔ mark <:+: cs := by
  constructor
  · intro h
    obtain ⟨⟨before, after⟩, hcut⟩ := Option.isSome_iff_exists.1 h
    exact ⟨before, after, append_of_cut hcut⟩
  · intro h
    induction cs with
    | nil => simp [cut, List.infix_nil.1 h]
    | cons c cs ih =>
        rw [cut]
        split
        · rfl
        · rename_i hstart
          rcases List.infix_cons_iff.1 h with hpre | hin
          · exact absurd (List.isPrefixOf_iff_prefix.2 hpre) hstart
          · simpa using ih hin

/-- The mark occurs exactly when it is an infix. -/
theorem occurs_iff {mark cs : List Char} : occurs mark cs ↔ mark <:+: cs :=
  cut_isSome_iff

/-- A text is cut right where a mark was put, provided that no earlier
occurrence straddles the joint: none starts at a character of `before`. -/
theorem cut_append {mark before after : List Char} (hmark : mark ≠ [])
    (h : ∀ tail, tail <:+ before → tail ≠ [] → ¬ mark <+: tail ++ mark ++ after) :
    cut mark (before ++ mark ++ after) = some (before, after) := by
  induction before with
  | nil =>
      cases mark with
      | nil => exact absurd rfl hmark
      | cons m ms =>
          have hpre : (m :: ms).isPrefixOf (m :: (ms ++ after)) = true :=
            List.isPrefixOf_iff_prefix.2 ⟨after, by simp⟩
          simp [cut, hpre]
  | cons c cs ih =>
      have hhere := h (c :: cs) (List.suffix_refl _) (by simp)
      have hno : mark.isPrefixOf (c :: (cs ++ mark ++ after)) = false := by
        cases hb : mark.isPrefixOf (c :: (cs ++ mark ++ after)) with
        | false => rfl
        | true => exact absurd (by simpa using List.isPrefixOf_iff_prefix.1 hb) hhere
      have htail := ih fun tail ht hne => h tail (ht.trans (List.suffix_cons c cs)) hne
      change cut mark (c :: (cs ++ mark ++ after)) = _
      rw [cut, hno, htail]
      rfl

/-- Nothing before the first occurrence starts an earlier one. -/
theorem not_isPrefix_of_cut {mark cs before after : List Char}
    (h : cut mark cs = some (before, after)) {tail : List Char} (htail : tail <:+ before)
    (hne : tail ≠ []) : ¬ mark <+: tail ++ mark ++ after := by
  induction cs generalizing before with
  | nil =>
      cases mark with
      | nil =>
          cases h
          exact absurd (List.suffix_nil.1 htail) hne
      | cons m ms => simp [cut] at h
  | cons c cs ih =>
      have htext := append_of_cut h
      rw [cut] at h
      split at h
      · cases h
        exact absurd (List.suffix_nil.1 htail) hne
      · rename_i hstart
        obtain ⟨parts, hparts, heq⟩ := Option.map_eq_some_iff.1 h
        cases heq
        rcases List.suffix_cons_iff.1 htail with rfl | hlater
        · rw [htext]
          exact fun hpre => hstart (List.isPrefixOf_iff_prefix.2 hpre)
        · exact ih hparts hlater

/-- A mark of one character straddles nothing. -/
theorem cut_append_cons {mark : Char} {before : List Char} (h : mark ∉ before)
    (after : List Char) : cut [mark] (before ++ mark :: after) = some (before, after) := by
  have hcut : cut [mark] (before ++ [mark] ++ after) = some (before, after) := by
    refine cut_append (by simp) fun tail htail hne hstarts => ?_
    obtain ⟨c, rest, rfl⟩ := List.exists_cons_of_ne_nil hne
    rw [List.append_assoc, List.cons_append, List.cons_prefix_cons] at hstarts
    exact h (hstarts.1 ▸ htail.subset (List.mem_cons_self ..))
  rwa [List.append_assoc] at hcut

/-- A text is cut at its first mark in one way. -/
theorem append_cons_inj {mark : Char} {before before' after after' : List Char}
    (h : before ++ mark :: after = before' ++ mark :: after') (hbefore : mark ∉ before)
    (hbefore' : mark ∉ before') : before = before' ∧ after = after' := by
  have hcut := congrArg (cut [mark]) h
  rw [cut_append_cons hbefore, cut_append_cons hbefore', Option.some.injEq, Prod.mk.injEq] at hcut
  exact hcut

/-- The parts of a last cut and the mark in between make up the text. -/
theorem append_of_cutLast {mark : Char} {cs before after : List Char}
    (h : cutLast mark cs = some (before, after)) : before ++ mark :: after = cs := by
  induction cs generalizing before after with
  | nil => simp [cutLast] at h
  | cons c cs ih =>
      rw [cutLast] at h
      split at h
      · rename_i parts hparts
        simp only [Option.some.injEq, Prod.mk.injEq] at h
        obtain ⟨rfl, rfl⟩ := h
        simpa using ih hparts
      · split at h
        · rename_i hc
          simp only [Option.some.injEq, Prod.mk.injEq] at h
          obtain ⟨rfl, rfl⟩ := h
          simp [hc]
        · cases h

/-- There is no last cut exactly when the mark does not occur. -/
theorem cutLast_eq_none_iff {mark : Char} {cs : List Char} :
    cutLast mark cs = none ↔ mark ∉ cs := by
  induction cs with
  | nil => simp [cutLast]
  | cons c cs ih =>
      rw [cutLast]
      cases hcut : cutLast mark cs with
      | some parts =>
          have hmem : mark ∈ cs := by
            have hnot := mt ih.2
            rw [hcut] at hnot
            simpa using hnot
          simp [hmem]
      | none =>
          have hnot := ih.1 hcut
          by_cases hc : c = mark
          · simp [hc]
          · simp [hc, hnot, Ne.symm hc]

/-- After the last cut the mark does not occur any more. -/
theorem not_mem_of_cutLast {mark : Char} {cs before after : List Char}
    (h : cutLast mark cs = some (before, after)) : mark ∉ after := by
  induction cs generalizing before after with
  | nil => simp [cutLast] at h
  | cons c cs ih =>
      rw [cutLast] at h
      split at h
      · rename_i parts hparts
        simp only [Option.some.injEq, Prod.mk.injEq] at h
        obtain ⟨rfl, rfl⟩ := h
        exact ih hparts
      · rename_i hnone
        split at h
        · simp only [Option.some.injEq, Prod.mk.injEq] at h
          obtain ⟨rfl, rfl⟩ := h
          exact cutLast_eq_none_iff.1 hnone
        · cases h

end SnapshotEngine.Text
