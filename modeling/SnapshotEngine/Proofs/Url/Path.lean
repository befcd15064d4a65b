import SnapshotEngine.Proofs.Url.Percent

/-!
# Paths that say what they were given

A path is decoded to the text that it was made of if there is no step in it, no escape and
no backslash.  Otherwise it is not: a step or an escape makes it shorter than that text, and
a backslash is read back as a slash.

* `decode_render_cons`, `decode_render_append` — a path is decoded segment by segment;
* `segments_eq_singleton`, `step?_eq_none` — texts that are one segment, and no step;
* `length_decode_resolve_le` — a path grows by no more than the segments that are no steps;
* `decode_normalize_eq_iff` — which paths are decoded to what they were made of.
-/

namespace SnapshotEngine.UrlPath

/-- There is always a segment, though it may be empty. -/
theorem segments_ne_nil (cs : List Char) : segments cs ≠ [] := by
  cases cs with
  | nil => simp [segments]
  | cons c cs =>
      rw [segments]
      split
      · simp
      · split <;> simp

/-- The segments on both sides of a slash. -/
theorem segments_append_cons {c : Char} (hc : isSlash c = true) (cs rest : List Char) :
    segments (cs ++ c :: rest) = segments cs ++ segments rest := by
  induction cs with
  | nil => simp [segments, hc]
  | cons d cs ih =>
      rw [List.cons_append, segments, segments, ih]
      by_cases hd : isSlash d
      · rw [if_pos hd, if_pos hd]
        rfl
      · rw [if_neg hd, if_neg hd]
        obtain ⟨segment, more, heq⟩ := List.exists_cons_of_ne_nil (segments_ne_nil cs)
        rw [heq]
        rfl

/-- A text without a slash is one segment. -/
theorem segments_eq_singleton {cs : List Char} (h : ∀ c ∈ cs, isSlash c = false) :
    segments cs = [cs] := by
  induction cs with
  | nil => rfl
  | cons c cs ih =>
      obtain ⟨hc, hcs⟩ := List.forall_mem_cons.mp h
      rw [segments, if_neg (ne_true_of_eq_false hc), ih hcs]

/-- Without a percent sign there is no full stop but the plain ones. -/
theorem plainStops_eq_self {cs : List Char} (h : '%' ∉ cs) : plainStops cs = cs := by
  induction cs with
  | nil => rfl
  | cons c cs ih =>
      have hc : c ≠ '%' := fun heq => h (heq ▸ List.mem_cons_self ..)
      rw [plainStops, ih fun hmem => h (List.mem_cons_of_mem _ hmem)]
      exact fun _ _ heq => absurd heq hc

/-- A text without percent signs and full stops is no step. -/
theorem step?_eq_none {cs : List Char} (hpercent : '%' ∉ cs) (hstop : '.' ∉ cs) :
    step? cs = none := by
  have hne : ∀ more, cs ≠ '.' :: more := by
    rintro more rfl
    exact hstop (List.mem_cons_self ..)
  rw [step?, plainStops_eq_self hpercent, if_neg (hne _), if_neg (hne _)]

/-- A backslash is as good as a slash. -/
def toSlash (c : Char) : Char := if isSlash c then '/' else c

/-- The segments of a text make up the text again, after a slash. -/
theorem render_segments (cs : List Char) : render (segments cs) = '/' :: cs.map toSlash := by
  induction cs with
  | nil => rfl
  | cons c cs ih =>
      rw [segments, List.map_cons, toSlash]
      by_cases hc : isSlash c
      · rw [if_pos hc, if_pos hc, ← ih]
        rfl
      · rw [if_neg hc, if_neg hc]
        obtain ⟨segment, more, heq⟩ := List.exists_cons_of_ne_nil (segments_ne_nil cs)
        rw [heq] at ih ⊢
        exact congrArg (fun text => '/' :: c :: text) (List.cons.inj ih).2

/-- **Decoding.**  A path is decoded segment by segment. -/
theorem decode_render_cons (segment : List Char) (more : List (List Char)) :
    Percent.decode (render (segment :: more)) =
      Utf8.encodeChar '/' ++ (Percent.decode segment ++ Percent.decode (render more)) := by
  have hslash : '/' ≠ '%' := by decide
  have hcons : render (segment :: more) = '/' :: (segment ++ render more) := rfl
  rw [hcons, Percent.decode_cons hslash]
  cases more with
  | nil => simp [render, Percent.decode]
  | cons next rest =>
      have hnext : render (next :: rest) = '/' :: (next ++ render rest) := rfl
      rw [hnext, Percent.decode_append_cons rfl hslash, Percent.decode_cons hslash]

theorem decode_render_append (done more : List (List Char)) :
    Percent.decode (render (done ++ more)) =
      Percent.decode (render done) ++ Percent.decode (render more) := by
  induction done with
  | nil => rfl
  | cons segment done ih =>
      rw [List.cons_append, decode_render_cons, decode_render_cons, ih]
      simp only [List.append_assoc]

/-- What a step leaves of the segments that are there already. -/
def Step.back (done : List (List Char)) : Step → List (List Char)
  | .stay => done
  | .up => done.dropLast

/-- A step leaves what is there, or all but the last segment, and a step at the end an empty
segment after it. -/
theorem resolve_of_step {segment : List Char} {step : Step} (h : step? segment = some step)
    (done more : List (List Char)) :
    resolve done (segment :: more) =
      if more = [] then step.back done ++ [[]] else resolve (step.back done) more := by
  cases step <;> cases more <;> simp [resolve, h, Step.back]

/-- Leaving a segment out makes a path no longer. -/
theorem length_decode_back_le (done : List (List Char)) (step : Step) :
    (Percent.decode (render (step.back done))).length ≤ (Percent.decode (render done)).length := by
  cases step with
  | stay => exact Nat.le_refl _
  | up =>
      rcases List.eq_nil_or_concat done with rfl | ⟨front, last, rfl⟩
      · exact Nat.le_refl _
      · have hback : Step.back (front.concat last) .up = front := by simp [Step.back]
        rw [hback, List.concat_eq_append, decode_render_append, List.length_append]
        omega

theorem length_decode_concat (done : List (List Char)) (segment : List Char) :
    (Percent.decode (render (done ++ [segment]))).length =
      (Percent.decode (render done)).length + ((Percent.decode segment).length + 1) := by
  rw [decode_render_append, decode_render_cons]
  simp only [List.length_append]
  have hslash : (Utf8.encodeChar '/').length = 1 := by decide
  have hnil : (Percent.decode (render [])).length = 0 := rfl
  omega

/-- The steps of a path are not empty. -/
theorem ne_nil_of_step {segment : List Char} {step : Step} (h : step? segment = some step) :
    1 ≤ (Utf8.bytes segment).length := by
  cases segment with
  | nil => cases h
  | cons c cs =>
      have hpos := Utf8.length_encodeChar_pos c
      simp only [Utf8.bytes_cons, List.length_append]
      omega

/-- **Growth.**  A path grows by no more than the bytes of what is added to it, and by less
for every step. -/
theorem length_decode_resolve_le (done given : List (List Char)) :
    (Percent.decode (render (resolve done given))).length + given.countP (step? · |>.isSome) ≤
      (Percent.decode (render done)).length + (Utf8.bytes (render given)).length := by
  induction given generalizing done with
  | nil => simp [resolve, render]
  | cons segment more ih =>
      have hbytes : (Utf8.bytes (render (segment :: more))).length =
          1 + (Utf8.bytes segment).length + (Utf8.bytes (render more)).length := by
        have hslash : (Utf8.encodeChar '/').length = 1 := by decide
        have hcons : render (segment :: more) = '/' :: (segment ++ render more) := rfl
        rw [hcons]
        simp only [Utf8.bytes_cons, Utf8.bytes_append, List.length_append]
        omega
      have hempty : (Percent.decode []).length = 0 := rfl
      rw [List.countP_cons, hbytes]
      cases hstep : step? segment with
      | none =>
          have hresolve : resolve done (segment :: more) =
              resolve (done ++ [encodeSegment segment]) more := by
            simp only [resolve, hstep]
          have hsize := Percent.length_decode_le segment
          have hafter := ih (done ++ [encodeSegment segment])
          rw [length_decode_concat, decode_encodeSegment] at hafter
          rw [hresolve]
          simp only [Option.isSome_none, Bool.false_eq_true, if_false]
          omega
      | some step =>
          have hsegment := ne_nil_of_step hstep
          have hback := length_decode_back_le done step
          simp only [resolve_of_step hstep, Option.isSome_some, if_true]
          by_cases hmore : more = []
          · have hlast := length_decode_concat (step.back done) []
            rw [if_pos hmore, hmore, List.countP_nil]
            omega
          · have hafter := ih (step.back done)
            rw [if_neg hmore]
            omega

/-- Without steps a path is decoded like the text that it was made of. -/
theorem decode_normalize {cs : List Char} (h : ∀ s ∈ segments cs, step? s = none) :
    Percent.decode (render (normalize cs)) = Percent.decode ('/' :: cs.map toSlash) := by
  have hdecode : ∀ given : List (List Char),
      Percent.decode (render (given.map encodeSegment)) = Percent.decode (render given) := by
    intro given
    induction given with
    | nil => rfl
    | cons segment more ih =>
        rw [List.map_cons, decode_render_cons, decode_render_cons, decode_encodeSegment, ih]
  unfold normalize
  rw [resolve_plain h, List.nil_append, hdecode, render_segments]

theorem map_toSlash_eq_self_iff {cs : List Char} : cs.map toSlash = cs ↔ '\\' ∉ cs := by
  induction cs with
  | nil => simp
  | cons c cs ih =>
      have hchar : toSlash c = c ↔ '\\' ≠ c := by
        unfold toSlash isSlash
        by_cases hslash : c = '/'
        · subst hslash
          decide
        · by_cases hback : c = '\\'
          · subst hback
            decide
          · simp [hslash, hback, Ne.symm hback]
      rw [List.map_cons, List.cons.injEq, ih, hchar, List.mem_cons, not_or]

theorem length_bytes_map_toSlash (cs : List Char) :
    (Utf8.bytes (cs.map toSlash)).length = (Utf8.bytes cs).length := by
  induction cs with
  | nil => rfl
  | cons c cs ih =>
      have hchar : (Utf8.encodeChar (toSlash c)).length = (Utf8.encodeChar c).length := by
        unfold toSlash
        split
        · rename_i hslash
          simp only [isSlash, Bool.or_eq_true, decide_eq_true_eq] at hslash
          rcases hslash with rfl | rfl <;> decide
        · rfl
      simp only [List.map_cons, Utf8.bytes_cons, List.length_append]
      rw [hchar, ih]

/-- Nothing that a path is made of makes it longer. -/
theorem length_decode_normalize_le (cs : List Char) :
    (Percent.decode (render (normalize cs))).length +
        (segments cs).countP (step? · |>.isSome) ≤
      (Utf8.bytes ('/' :: cs)).length := by
  have hresolve := length_decode_resolve_le [] (segments cs)
  have hslashes : (Utf8.bytes ('/' :: cs.map toSlash)).length =
      (Utf8.bytes ('/' :: cs)).length := by
    simp only [Utf8.bytes_cons, List.length_append]
    rw [length_bytes_map_toSlash]
  rw [render_segments, hslashes] at hresolve
  exact Nat.le_trans hresolve (Nat.le_of_eq (Nat.zero_add _))

/-- **Paths.**  A path is decoded to the text that it was made of exactly if there is no
step, no escape and no backslash in the text. -/
theorem decode_normalize_eq_iff {cs : List Char} :
    Percent.decode (render (normalize cs)) = Utf8.bytes ('/' :: cs) ↔
      (∀ s ∈ segments cs, step? s = none) ∧ Percent.hasEscape cs = false ∧ '\\' ∉ cs := by
  have hslash : '/' ≠ '%' := by decide
  constructor
  · intro h
    have hsteps : ∀ s ∈ segments cs, step? s = none := by
      have hlength := length_decode_normalize_le cs
      rw [h] at hlength
      have hcount : (segments cs).countP (step? · |>.isSome) = 0 := by omega
      intro s hs
      have hnot := List.countP_eq_zero.mp hcount s hs
      simpa using hnot
    rw [decode_normalize hsteps, Percent.decode_cons hslash] at h
    have hdecode : Percent.decode (cs.map toSlash) = Utf8.bytes cs :=
      List.append_cancel_left (h.trans (Utf8.bytes_cons ..))
    have hescape : Percent.hasEscape (cs.map toSlash) = false := by
      have hlength := Percent.length_decode_le (cs.map toSlash)
      rw [hdecode, length_bytes_map_toSlash] at hlength
      cases hhas : Percent.hasEscape (cs.map toSlash) with
      | false => rfl
      | true =>
          rw [hhas, if_pos rfl] at hlength
          omega
    have hsame : cs.map toSlash = cs :=
      Utf8.bytes_inj ((Percent.decode_eq_bytes_iff.mpr hescape).symm.trans hdecode)
    exact ⟨hsteps, hsame ▸ hescape, map_toSlash_eq_self_iff.mp hsame⟩
  · rintro ⟨hsteps, hescape, hback⟩
    rw [decode_normalize hsteps, map_toSlash_eq_self_iff.mpr hback, Percent.decode_cons hslash,
      Percent.decode_eq_bytes_iff.mpr hescape]
    rfl

/-- A question mark does not stand in a segment. -/
theorem not_mem_encodeSegment (segment : List Char) : '?' ∉ encodeSegment segment := by
  have hbyte : ∀ k : Fin 0x100, '?' ∉ Percent.encode isPlain [UInt8.ofNat k.val] := by
    decide +kernel
  intro hmem
  obtain ⟨b, _, hb⟩ := List.mem_flatMap.mp hmem
  have hnot := hbyte ⟨b.toNat, b.toNat_lt⟩
  simp only [Percent.encode, List.flatMap_cons, List.flatMap_nil, List.append_nil,
    UInt8.ofNat_toNat] at hnot
  exact hnot hb

/-- So there is none in a path. -/
theorem not_mem_resolve {done : List (List Char)} (h : ∀ s ∈ done, '?' ∉ s)
    (given : List (List Char)) : ∀ s ∈ resolve done given, '?' ∉ s := by
  induction given generalizing done with
  | nil => exact h
  | cons segment more ih =>
      cases hstep : step? segment with
      | none =>
          have hresolve : resolve done (segment :: more) =
              resolve (done ++ [encodeSegment segment]) more := by
            simp only [resolve, hstep]
          rw [hresolve]
          refine ih (List.forall_mem_append.mpr ⟨h, ?_⟩)
          exact List.forall_mem_singleton.mpr (not_mem_encodeSegment segment)
      | some step =>
          have hback : ∀ s ∈ step.back done, '?' ∉ s := by
            cases step with
            | stay => exact h
            | up => exact fun s hs => h s ((List.dropLast_sublist done).subset hs)
          rw [resolve_of_step hstep]
          split
          · exact List.forall_mem_append.mpr ⟨hback, by simp⟩
          · exact ih hback

theorem not_mem_render_normalize (cs : List Char) : '?' ∉ render (normalize cs) := by
  intro hmem
  obtain ⟨segment, hsegment, hc⟩ := List.mem_flatMap.mp hmem
  rcases List.mem_cons.mp hc with heq | hc
  · exact absurd heq (by decide)
  · exact not_mem_resolve (by simp) _ segment hsegment hc

end SnapshotEngine.UrlPath
