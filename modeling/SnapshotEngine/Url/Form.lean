import SnapshotEngine.Url.Percent

/-!
# Queries in form encoding

A query is a sequence of named values.  Letters, digits and the four marks
asterisk, hyphen, full stop and underscore stand as they are, a space is written
as a plus sign, and everything else is percent-encoded.

* `decode_encode` — the pairs of a query are read back.
-/

namespace SnapshotEngine.Form

/-- The characters that stand as they are. -/
def isPlain (b : UInt8) : Bool :=
  let n := b.toNat
  (0x30 ≤ n && n ≤ 0x39) || (0x41 ≤ n && n ≤ 0x5A) || (0x61 ≤ n && n ≤ 0x7A)
    || n == 0x2A || n == 0x2D || n == 0x2E || n == 0x5F

/-- The text of a byte of a name or value. -/
def encodeByte (b : UInt8) : List Char :=
  if isPlain b then [Percent.charOf b]
  else if b = 0x20 then ['+'] else Percent.escapeByte b

/-- The text of a name or value. -/
def encodePart (s : String) : List Char :=
  (Utf8.encode s).flatMap encodeByte

/-- A named value. -/
def encodePair (pair : String × String) : List Char :=
  encodePart pair.1 ++ '=' :: encodePart pair.2

/-- The text of a query. -/
def encode (pairs : List (String × String)) : List Char :=
  List.intercalate ['&'] (pairs.map encodePair)

/-- A plus sign stands for a space. -/
def plusToSpace (c : Char) : Char := if c = '+' then ' ' else c

/-- The name or value that a text stands for. -/
def decodePart (cs : List Char) : String :=
  Utf8.decodeLossy (Percent.decode (cs.map plusToSpace))

/-- The pair that a piece between two ampersands stands for. -/
def decodePair (cs : List Char) : String × String :=
  (decodePart (cs.takeWhile (· ≠ '=')), decodePart ((cs.dropWhile (· ≠ '=')).drop 1))

/-- The pieces of a text between its ampersands. -/
def pieces : List Char → List (List Char)
  | [] => [[]]
  | c :: cs =>
      if c = '&' then [] :: pieces cs
      else
        match pieces cs with
        | piece :: more => (c :: piece) :: more
        | [] => [[c]]

/-- The pairs that a text stands for; empty pieces stand for nothing. -/
def decode (cs : List Char) : List (String × String) :=
  ((pieces cs).filter (· ≠ [])).map decodePair

/-- With its plus signs turned back, a name or value is percent-encoded with
spaces as they are. -/
theorem map_encodePart (s : String) :
    (encodePart s).map plusToSpace =
      Percent.encode (fun b => isPlain b || b == 0x20) (Utf8.encode s) := by
  have hbyte : ∀ k : Fin 0x100,
      (encodeByte (UInt8.ofNat k.val)).map plusToSpace =
        if isPlain (UInt8.ofNat k.val) || UInt8.ofNat k.val == 0x20
        then [Percent.charOf (UInt8.ofNat k.val)]
        else Percent.escapeByte (UInt8.ofNat k.val) := by
    decide +kernel
  have hall : ∀ b : UInt8,
      (encodeByte b).map plusToSpace =
        if isPlain b || b == 0x20 then [Percent.charOf b] else Percent.escapeByte b := by
    intro b
    simpa using hbyte ⟨b.toNat, b.toNat_lt⟩
  unfold encodePart Percent.encode
  rw [List.map_flatMap]
  exact congrArg (fun f => (Utf8.encode s).flatMap f) (funext hall)

/-- A name or value is read back. -/
theorem decodePart_encodePart (s : String) : decodePart (encodePart s) = s := by
  have hkept : ∀ k : Fin 0x100,
      (isPlain (UInt8.ofNat k.val) || UInt8.ofNat k.val == 0x20) = true →
        (UInt8.ofNat k.val).toNat < 0x80 ∧ UInt8.ofNat k.val ≠ 0x25 := by
    decide +kernel
  have hall : ∀ b : UInt8, (isPlain b || b == 0x20) = true → b.toNat < 0x80 ∧ b ≠ 0x25 := by
    intro b
    simpa using hkept ⟨b.toNat, b.toNat_lt⟩
  unfold decodePart
  rw [map_encodePart, Percent.decode_encode hall, Utf8.decodeLossy_encode]

/-- Neither of the marks between and within pairs occurs in a name or value. -/
theorem not_mem_encodePart (s : String) : '=' ∉ encodePart s ∧ '&' ∉ encodePart s := by
  have hbyte : ∀ k : Fin 0x100,
      '=' ∉ encodeByte (UInt8.ofNat k.val) ∧ '&' ∉ encodeByte (UInt8.ofNat k.val) := by
    decide +kernel
  have hall : ∀ b : UInt8, '=' ∉ encodeByte b ∧ '&' ∉ encodeByte b := by
    intro b
    simpa using hbyte ⟨b.toNat, b.toNat_lt⟩
  constructor
  · intro hmem
    obtain ⟨b, _, hb⟩ := List.mem_flatMap.1 hmem
    exact (hall b).1 hb
  · intro hmem
    obtain ⟨b, _, hb⟩ := List.mem_flatMap.1 hmem
    exact (hall b).2 hb

/-- A pair is read back. -/
theorem decodePair_encodePair (pair : String × String) :
    decodePair (encodePair pair) = pair := by
  have hno : ∀ c ∈ encodePart pair.1, (decide (c ≠ '=')) = true := by
    intro c hc
    have hne : c ≠ '=' := fun h => (not_mem_encodePart pair.1).1 (h ▸ hc)
    simpa using hne
  have htake : (encodePair pair).takeWhile (· ≠ '=') = encodePart pair.1 := by
    unfold encodePair
    rw [List.takeWhile_append_of_pos hno]
    simp
  have hdrop : (encodePair pair).dropWhile (· ≠ '=') = '=' :: encodePart pair.2 := by
    unfold encodePair
    rw [List.dropWhile_append_of_pos hno]
    simp
  unfold decodePair
  rw [htake, hdrop]
  simp [decodePart_encodePart]

/-- Up to its first ampersand a text is its first piece. -/
theorem pieces_append {cs : List Char} (h : '&' ∉ cs) (rest : List Char) :
    pieces (cs ++ '&' :: rest) = cs :: pieces rest := by
  induction cs with
  | nil => simp [pieces]
  | cons c cs ih =>
      have hc : c ≠ '&' := fun heq => h (heq ▸ List.mem_cons_self ..)
      have hcs : '&' ∉ cs := fun hmem => h (List.mem_cons_of_mem _ hmem)
      simp [pieces, hc, ih hcs]

theorem pieces_of_not_mem {cs : List Char} (h : '&' ∉ cs) : pieces cs = [cs] := by
  induction cs with
  | nil => rfl
  | cons c cs ih =>
      have hc : c ≠ '&' := fun heq => h (heq ▸ List.mem_cons_self ..)
      have hcs : '&' ∉ cs := fun hmem => h (List.mem_cons_of_mem _ hmem)
      simp [pieces, hc, ih hcs]

theorem not_mem_encodePair (pair : String × String) : '&' ∉ encodePair pair := by
  intro hmem
  rcases List.mem_append.1 hmem with h1 | h2
  · exact (not_mem_encodePart pair.1).2 h1
  · rcases List.mem_cons.1 h2 with h3 | h4
    · exact absurd h3 (by decide)
    · exact (not_mem_encodePart pair.2).2 h4

theorem encodePair_ne_nil (pair : String × String) : encodePair pair ≠ [] := by
  simp [encodePair]

/-- The pieces of a query are its pairs. -/
theorem pieces_encode {pairs : List (String × String)} (h : pairs ≠ []) :
    pieces (encode pairs) = pairs.map encodePair := by
  induction pairs with
  | nil => exact absurd rfl h
  | cons pair more ih =>
      cases more with
      | nil => simpa [encode] using pieces_of_not_mem (not_mem_encodePair pair)
      | cons next rest =>
          have hstep : encode (pair :: next :: rest) =
              encodePair pair ++ '&' :: encode (next :: rest) := by
            simp [encode, List.intercalate]
          rw [hstep, pieces_append (not_mem_encodePair pair), ih (by simp)]
          rfl

/-- The pairs of a query are read back. -/
theorem decode_encode (pairs : List (String × String)) : decode (encode pairs) = pairs := by
  by_cases h : pairs = []
  · subst h
    rfl
  · unfold decode
    rw [pieces_encode h]
    have hfilter : (pairs.map encodePair).filter (· ≠ []) = pairs.map encodePair := by
      refine List.filter_eq_self.2 fun piece hpiece => ?_
      obtain ⟨pair, _, rfl⟩ := List.mem_map.1 hpiece
      simpa using encodePair_ne_nil pair
    rw [hfilter, List.map_map]
    have hid : decodePair ∘ encodePair = id := funext decodePair_encodePair
    rw [hid, List.map_id]

end SnapshotEngine.Form
