/-!
# Blank text and the two ways of trimming it

A name counts as missing when it holds nothing but white space, and settings
are used without the white space around them.  White space is the Unicode
property `White_Space`: twenty-five characters, listed below as ranges.  The
zero-width space, the byte order mark and the four separators U+001C to
U+001F are not among them.

* `strip_eq_nil_iff` — a text is stripped to nothing exactly when every
  character of it may be stripped;
* `head?_strip`, `getLast?_strip` — what is left neither starts nor ends with
  a character that may be stripped;
* `stripEnd_append`, `stripEnd_eq_self_iff` — what is kept of an ending.
-/

namespace SnapshotEngine.Text

/-- The characters with the Unicode property `White_Space`. -/
def isBlank (c : Char) : Bool :=
  let n := c.toNat
  (0x9 ≤ n && n ≤ 0xD) || n == 0x20 || n == 0x85 || n == 0xA0 || n == 0x1680
    || (0x2000 ≤ n && n ≤ 0x200A) || n == 0x2028 || n == 0x2029 || n == 0x202F
    || n == 0x205F || n == 0x3000

/-- Drops the longest ending whose characters all satisfy `p`. -/
def stripEnd (p : Char → Bool) (cs : List Char) : List Char :=
  (cs.reverse.dropWhile p).reverse

/-- Drops the longest beginning and the longest ending whose characters all
satisfy `p`. -/
def strip (p : Char → Bool) (cs : List Char) : List Char :=
  stripEnd p (cs.dropWhile p)

/-- A text without the white space around it. -/
def trim (s : String) : String :=
  String.ofList (strip isBlank s.toList)

/-- A text is blank when it holds nothing but white space. -/
def blank (s : String) : Bool :=
  s.toList.all isBlank

theorem dropWhile_eq_nil_iff {p : Char → Bool} {cs : List Char} :
    cs.dropWhile p = [] ↔ ∀ c ∈ cs, p c := by
  induction cs with
  | nil => simp
  | cons c cs ih =>
      by_cases h : p c
      · simp [h, ih]
      · simp [h]

/-- A text is stripped to nothing exactly when every character of it may be
stripped. -/
theorem strip_eq_nil_iff {p : Char → Bool} {cs : List Char} :
    strip p cs = [] ↔ ∀ c ∈ cs, p c := by
  constructor
  · intro h
    rw [strip, stripEnd, List.reverse_eq_nil_iff, dropWhile_eq_nil_iff] at h
    have hdrop : ∀ c ∈ cs.dropWhile p, p c := fun c hc => h c (List.mem_reverse.2 hc)
    cases hcs : cs.dropWhile p with
    | nil => exact dropWhile_eq_nil_iff.1 hcs
    | cons d ds =>
        have hd : p d := hdrop d (by simp [hcs])
        have hhead := List.head?_dropWhile_not p cs
        rw [hcs] at hhead
        simp [hd] at hhead
  · intro h
    have hdrop : cs.dropWhile p = [] := dropWhile_eq_nil_iff.2 h
    simp [strip, stripEnd, hdrop]

/-- What is left does not end with a character that may be stripped. -/
theorem getLast?_stripEnd {p : Char → Bool} {c : Char} {cs : List Char}
    (h : (stripEnd p cs).getLast? = some c) : p c = false := by
  rw [stripEnd, List.getLast?_reverse] at h
  have hhead := List.head?_dropWhile_not p cs.reverse
  rw [h] at hhead
  simpa using hhead

theorem getLast?_strip {p : Char → Bool} {c : Char} {cs : List Char}
    (h : (strip p cs).getLast? = some c) : p c = false :=
  getLast?_stripEnd h

theorem stripEnd_isPrefix (p : Char → Bool) (cs : List Char) : stripEnd p cs <+: cs := by
  have h := (List.dropWhile_suffix p (l := cs.reverse)).reverse
  simpa [stripEnd] using h

/-- Characters that may not be stripped keep what stands before them. -/
theorem dropWhile_append_of_kept {p : Char → Bool} {kept : List Char}
    (h : ∀ c ∈ kept, p c = false) (cs : List Char) (hne : kept ≠ []) :
    (kept ++ cs).dropWhile p = kept ++ cs := by
  obtain ⟨c, more, rfl⟩ := List.exists_cons_of_ne_nil hne
  rw [List.cons_append, List.dropWhile_cons, h c (List.mem_cons_self ..)]
  rfl

theorem stripEnd_append {p : Char → Bool} {kept : List Char} (h : ∀ c ∈ kept, p c = false)
    (cs : List Char) : stripEnd p (kept ++ cs) = kept ++ stripEnd p cs := by
  by_cases hne : kept = []
  · rw [hne]
    rfl
  · have hkept : kept.reverse.dropWhile p = kept.reverse := by
      have hreverse : (kept.reverse ++ []).dropWhile p = kept.reverse ++ [] :=
        dropWhile_append_of_kept (fun c hc => h c (List.mem_reverse.mp hc)) [] (by simpa using hne)
      simpa using hreverse
    unfold stripEnd
    rw [List.reverse_append, List.dropWhile_append, hkept]
    split
    · rename_i hempty
      rw [List.isEmpty_iff.mp hempty]
      simp
    · simp

/-- So they do if they stand at the end. -/
theorem stripEnd_append_of_kept {p : Char → Bool} {kept : List Char}
    (h : ∀ c ∈ kept, p c = false) (cs : List Char) (hne : kept ≠ []) :
    stripEnd p (cs ++ kept) = cs ++ kept := by
  rw [stripEnd, List.reverse_append, dropWhile_append_of_kept
    (fun c hc => h c (List.mem_reverse.mp hc)) _ (by simpa using hne), ← List.reverse_append,
    List.reverse_reverse]

/-- A text that ends with such a character is not stripped at its end. -/
theorem stripEnd_eq_self_iff {p : Char → Bool} {cs : List Char} :
    stripEnd p cs = cs ↔ ∀ c, cs.getLast? = some c → p c = false := by
  constructor
  · intro h c hlast
    rw [← h] at hlast
    exact getLast?_stripEnd hlast
  · intro h
    cases hlast : cs.getLast? with
    | none =>
        rw [List.getLast?_eq_none_iff.mp hlast]
        rfl
    | some c =>
        obtain ⟨front, rfl⟩ := List.getLast?_eq_some_iff.mp hlast
        exact stripEnd_append_of_kept (List.forall_mem_singleton.mpr (h c hlast)) front (by simp)

/-- What is left does not start with a character that may be stripped. -/
theorem head?_strip {p : Char → Bool} {c : Char} {cs : List Char}
    (h : (strip p cs).head? = some c) : p c = false := by
  obtain ⟨rest, hrest⟩ := stripEnd_isPrefix p (cs.dropWhile p)
  have hne : (cs.dropWhile p).head? = some c := by
    rw [← hrest, List.head?_append]
    rw [strip] at h
    simp [h]
  have hhead := List.head?_dropWhile_not p cs
  rw [hne] at hhead
  simpa using hhead

/-- A text is blank exactly when trimming leaves nothing of it. -/
theorem blank_iff_trim_eq_empty {s : String} : blank s ↔ trim s = "" := by
  have h : trim s = "" ↔ strip isBlank s.toList = [] := by
    rw [← String.toList_inj, trim, String.toList_ofList]
    rfl
  rw [h, strip_eq_nil_iff, blank, List.all_eq_true]

/-- Trimming does not make a text blank that was not. -/
theorem blank_trim (s : String) : blank (trim s) = blank s := by
  cases hblank : blank s with
  | true =>
      rw [blank_iff_trim_eq_empty.mp hblank]
      rfl
  | false =>
      cases hleft : (strip isBlank s.toList).head? with
      | none =>
          have hnil : strip isBlank s.toList = [] := List.head?_eq_none_iff.mp hleft
          have hall : blank s := List.all_eq_true.mpr (strip_eq_nil_iff.mp hnil)
          exact absurd (hblank.symm.trans hall) Bool.false_ne_true
      | some c =>
          have hmem : c ∈ strip isBlank s.toList := List.mem_of_mem_head? hleft
          rw [blank, trim, String.toList_ofList, List.all_eq_false]
          exact ⟨c, hmem, by simp [head?_strip hleft]⟩

end SnapshotEngine.Text
