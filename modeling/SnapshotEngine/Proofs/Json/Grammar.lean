import SnapshotEngine.Proofs.Json.RoundTrip

/-!
# The grammar of JSON texts

A text spells a value: a word, a number, a string between quotes, or items or fields between
brackets with commas in between and white space wherever two parts meet.  The reader takes a
text exactly if it spells a value, and then it is the value that the text spells.

What a string says is not part of the grammar: a string is what stands between its quotes, and
whether that is readable text is asked of the value.

* `Body`, `Number`, `Spells` — the grammar;
* `readBody_sound`, `Body.readBody_append` — strings;
* `readNumber_sound`, `Number.readNumber_append` — numbers;
* `read_sound`, `Spells.isRead` — parts of values;
* `parse_eq_some_iff` — the reader takes exactly the texts of the grammar.
-/

namespace SnapshotEngine.Json

/-! ## Strings and numbers -/

/-- White space, or none. -/
def Gap (bs : Bytes) : Prop := ∀ b ∈ bs, isSpace b

/-- What may stand between the quotes of a string. -/
inductive Body : Bytes → Prop where
  | nil : Body []
  | plain {b : UInt8} {bs : Bytes} (alone : standsAlone b) (more : Body bs) : Body (b :: bs)
  | simple {b : UInt8} {bs : Bytes} (escape : isSimpleEscape b) (more : Body bs) :
      Body (0x5C :: b :: bs)
  | code {b₁ b₂ b₃ b₄ : UInt8} {bs : Bytes}
      (digits : isHexDigit b₁ ∧ isHexDigit b₂ ∧ isHexDigit b₃ ∧ isHexDigit b₄) (more : Body bs) :
      Body (0x5C :: 0x75 :: b₁ :: b₂ :: b₃ :: b₄ :: bs)

/-- One decimal digit or more. -/
def Digits (bs : Bytes) : Prop := bs ≠ [] ∧ ∀ b ∈ bs, isDigit b

/-- The whole part of a number: zero, or digits that do not start with zero. -/
def Whole (bs : Bytes) : Prop := bs = [0x30] ∨ (Digits bs ∧ bs.head? ≠ some 0x30)

/-- The fraction of a number: digits behind a point, or nothing. -/
def Fraction (bs : Bytes) : Prop := bs = [] ∨ ∃ digits, Digits digits ∧ bs = 0x2E :: digits

/-- The exponent of a number: digits behind a mark, with a sign if need be, or nothing. -/
def Exponent (bs : Bytes) : Prop :=
  bs = [] ∨ ∃ mark sign digits, (mark = 0x65 ∨ mark = 0x45) ∧
    (sign = [] ∨ sign = [0x2B] ∨ sign = [0x2D]) ∧ Digits digits ∧ bs = mark :: (sign ++ digits)

/-- A number. -/
def Number (bs : Bytes) : Prop :=
  ∃ sign whole fraction exponent, (sign = [] ∨ sign = [0x2D]) ∧ Whole whole ∧
    Fraction fraction ∧ Exponent exponent ∧ bs = sign ++ (whole ++ fraction ++ exponent)

/-! ## Values -/

/-- What a part of a text may stand for. -/
inductive Part where
  | value (value : Json)
  /-- A value with white space around it. -/
  | spaced (value : Json)
  | items (items : List Json)
  | fields (fields : List (Bytes × Json))

/-- A text spells a part. -/
inductive Spells : Part → Bytes → Prop where
  | null : Spells (.value .null) [0x6E, 0x75, 0x6C, 0x6C]
  | boolTrue : Spells (.value (.bool true)) [0x74, 0x72, 0x75, 0x65]
  | boolFalse : Spells (.value (.bool false)) [0x66, 0x61, 0x6C, 0x73, 0x65]
  | number {bs : Bytes} (number : Number bs) : Spells (.value (.number bs)) bs
  | string {bs : Bytes} (body : Body bs) : Spells (.value (.string bs)) (0x22 :: (bs ++ [0x22]))
  | emptyArray {gap : Bytes} (space : Gap gap) :
      Spells (.value (.array [])) (0x5B :: (gap ++ [0x5D]))
  | array {items : List Json} {bs : Bytes} (inside : Spells (.items items) bs) :
      Spells (.value (.array items)) (0x5B :: (bs ++ [0x5D]))
  | emptyObject {gap : Bytes} (space : Gap gap) :
      Spells (.value (.object [])) (0x7B :: (gap ++ [0x7D]))
  | object {fields : List (Bytes × Json)} {bs : Bytes} (inside : Spells (.fields fields) bs) :
      Spells (.value (.object fields)) (0x7B :: (bs ++ [0x7D]))
  | spaced {value : Json} {before bs after : Bytes} (spaceBefore : Gap before)
      (spells : Spells (.value value) bs) (spaceAfter : Gap after) :
      Spells (.spaced value) (before ++ (bs ++ after))
  | lastItem {item : Json} {bs : Bytes} (spells : Spells (.spaced item) bs) :
      Spells (.items [item]) bs
  | nextItem {item : Json} {more : List Json} {bs rest : Bytes} (spells : Spells (.spaced item) bs)
      (others : Spells (.items more) rest) : Spells (.items (item :: more)) (bs ++ 0x2C :: rest)
  | lastField {key before after bs : Bytes} {value : Json} (spaceBefore : Gap before)
      (body : Body key) (spaceAfter : Gap after) (spells : Spells (.spaced value) bs) :
      Spells (.fields [(key, value)]) (before ++ 0x22 :: (key ++ 0x22 :: (after ++ 0x3A :: bs)))
  | nextField {key before after bs rest : Bytes} {value : Json} {more : List (Bytes × Json)}
      (spaceBefore : Gap before) (body : Body key) (spaceAfter : Gap after)
      (spells : Spells (.spaced value) bs) (others : Spells (.fields more) rest) :
      Spells (.fields ((key, value) :: more))
        (before ++ 0x22 :: (key ++ 0x22 :: (after ++ 0x3A :: (bs ++ 0x2C :: rest))))

/-! ## Reading strings -/

/-- What the reader splits off a string stands between its quotes. -/
theorem readBody_sound {bs body rest : Bytes} (h : readBody bs = some (body, rest)) :
    Body body ∧ bs = body ++ 0x22 :: rest := by
  fun_induction readBody bs generalizing body with
  | case1 => cases h
  | case2 =>
      cases h
      exact ⟨.nil, rfl⟩
  | case3 b₁ b₂ b₃ b₄ more hdigits ih =>
      obtain ⟨⟨body', rest'⟩, hmore, heq⟩ := Option.map_eq_some_iff.mp h
      cases heq
      obtain ⟨hbody, rfl⟩ := ih hmore
      simp only [Bool.and_eq_true] at hdigits
      exact ⟨.code ⟨hdigits.1.1.1, hdigits.1.1.2, hdigits.1.2, hdigits.2⟩ hbody, rfl⟩
  | case4 => cases h
  | case5 b more _ hescape ih =>
      obtain ⟨⟨body', rest'⟩, hmore, heq⟩ := Option.map_eq_some_iff.mp h
      cases heq
      obtain ⟨hbody, rfl⟩ := ih hmore
      exact ⟨.simple hescape hbody, rfl⟩
  | case6 => cases h
  | case7 => cases h
  | case8 b more hquote _ _ hplain ih =>
      obtain ⟨⟨body', rest'⟩, hmore, heq⟩ := Option.map_eq_some_iff.mp h
      cases heq
      obtain ⟨hbody, rfl⟩ := ih hmore
      simp only [Bool.or_eq_true, beq_iff_eq, decide_eq_true_eq, not_or, Nat.not_lt] at hplain
      exact ⟨.plain ⟨hplain.2, hquote, hplain.1⟩ hbody, rfl⟩

/-- And all that stands there is split off. -/
theorem Body.readBody_append {body : Bytes} (h : Body body) (rest : Bytes) :
    readBody (body ++ 0x22 :: rest) = some (body, rest) := by
  induction h with
  | nil => rfl
  | plain alone more ih =>
      rw [List.cons_append, readBody_cons_of_standsAlone alone, ih]
      rfl
  | simple escape more ih =>
      simp only [List.cons_append]
      rw [readBody, if_pos escape, ih]
      · rfl
      · rintro _ _ _ _ _ rfl
        exact absurd escape (by decide)
  | code digits more ih =>
      obtain ⟨h₁, h₂, h₃, h₄⟩ := digits
      simp only [List.cons_append]
      rw [readBody, if_pos (by simp [h₁, h₂, h₃, h₄]), ih]
      rfl

/-! ## Reading numbers -/

theorem spanDigits_sound {bs digits rest : Bytes} (h : spanDigits bs = (digits, rest))
    (hne : digits ≠ []) : Digits digits ∧ bs = digits ++ rest := by
  obtain ⟨rfl, rfl⟩ := Prod.mk.inj h
  exact ⟨⟨hne, List.all_eq_true.mp List.all_takeWhile⟩, List.takeWhile_append_dropWhile.symm⟩

theorem Digits.spanDigits_append {digits rest : Bytes} (h : Digits digits)
    (hrest : ∀ b ∈ rest.head?, isDigit b = false) :
    spanDigits (digits ++ rest) = (digits, rest) := by
  have hnone : rest.takeWhile isDigit = [] ∧ rest.dropWhile isDigit = rest := by
    cases rest with
    | nil => exact ⟨rfl, rfl⟩
    | cons b more => simp [hrest b rfl]
  rw [spanDigits, List.takeWhile_append_of_pos h.2, List.dropWhile_append_of_pos h.2, hnone.1,
    hnone.2, List.append_nil]

theorem readWhole_sound {bs whole rest : Bytes} (h : readWhole bs = some (whole, rest)) :
    Whole whole ∧ bs = whole ++ rest := by
  unfold readWhole at h
  split at h
  · cases h
    exact ⟨.inl rfl, rfl⟩
  · rename_i hzero
    split at h
    · cases h
    · rename_i hne
      cases h
      obtain ⟨hdigits, heq⟩ := spanDigits_sound rfl fun hnil => hne _ (Prod.ext hnil rfl)
      refine ⟨.inr ⟨hdigits, fun hhead => ?_⟩, heq⟩
      obtain ⟨more, hmore⟩ := List.head?_eq_some_iff.mp hhead
      exact hzero _ (heq.trans (congrArg (· ++ _) hmore))

theorem Whole.readWhole_append {whole rest : Bytes} (h : Whole whole)
    (hrest : ∀ b ∈ rest.head?, isDigit b = false) :
    readWhole (whole ++ rest) = some (whole, rest) := by
  rcases h with rfl | ⟨hdigits, hhead⟩
  · rfl
  · have hspan := hdigits.spanDigits_append hrest
    cases whole with
    | nil => exact absurd rfl hdigits.1
    | cons b more =>
        have hzero : b ≠ 0x30 := fun heq => hhead (congrArg some heq)
        rw [readWhole, hspan]
        rintro _ heq
        exact hzero (List.cons.inj heq).1

theorem readFraction_sound {bs fraction rest : Bytes}
    (h : readFraction bs = some (fraction, rest)) : Fraction fraction ∧ bs = fraction ++ rest := by
  unfold readFraction at h
  split at h
  · split at h
    · cases h
    · rename_i digits after hne hspan
      cases h
      obtain ⟨hdigits, rfl⟩ := spanDigits_sound hspan hne
      exact ⟨.inr ⟨_, hdigits, rfl⟩, rfl⟩
  · cases h
    exact ⟨.inl rfl, rfl⟩

theorem Fraction.readFraction_append {fraction rest : Bytes} (h : Fraction fraction)
    (hrest : ∀ b ∈ rest.head?, isDigit b = false ∧ b ≠ 0x2E) :
    readFraction (fraction ++ rest) = some (fraction, rest) := by
  rcases h with rfl | ⟨digits, hdigits, rfl⟩
  · rw [List.nil_append]
    unfold readFraction
    split
    · exact absurd rfl (hrest _ rfl).2
    · rfl
  · rw [List.cons_append, readFraction, hdigits.spanDigits_append fun b hb => (hrest b hb).1]
    cases digits with
    | nil => exact absurd rfl hdigits.1
    | cons b more => rfl

/-- Behind the mark of an exponent stand digits. -/
theorem exponent_of_spanDigits {mark : UInt8} {sign bs exponent rest : Bytes}
    (hmark : mark = 0x65 ∨ mark = 0x45) (hsign : sign = [] ∨ sign = [0x2B] ∨ sign = [0x2D])
    (h : (match spanDigits bs with
      | ([], _) => none
      | (digits, after) => some (mark :: sign ++ digits, after)) = some (exponent, rest)) :
    Exponent exponent ∧ mark :: (sign ++ bs) = exponent ++ rest := by
  split at h
  · cases h
  · rename_i digits after hne hspan
    cases h
    obtain ⟨hdigits, rfl⟩ := spanDigits_sound hspan hne
    exact ⟨.inr ⟨mark, sign, digits, hmark, hsign, hdigits, rfl⟩, by simp⟩

theorem readExponent_sound {bs exponent rest : Bytes}
    (h : readExponent bs = some (exponent, rest)) : Exponent exponent ∧ bs = exponent ++ rest := by
  unfold readExponent at h
  split at h
  · rename_i mark more
    split at h
    · rename_i hmark
      simp only [Bool.or_eq_true, beq_iff_eq] at hmark
      cases more with
      | nil => exact exponent_of_spanDigits hmark (.inl rfl) h
      | cons b after =>
          by_cases hsign : b = 0x2B ∨ b = 0x2D
          · have hsigned : (b == 0x2B || b == 0x2D) = true := by simpa using hsign
            simp only [hsigned, if_true] at h
            have hmarks : [b] = [] ∨ [b] = [0x2B] ∨ [b] = [0x2D] := by simpa using hsign
            exact exponent_of_spanDigits hmark hmarks h
          · have hunsigned : (b == 0x2B || b == 0x2D) = false := by simpa using hsign
            simp only [hunsigned] at h
            exact exponent_of_spanDigits hmark (.inl rfl) h
    · cases h
      exact ⟨.inl rfl, rfl⟩
  · cases h
    exact ⟨.inl rfl, rfl⟩

theorem Exponent.readExponent_append {exponent rest : Bytes} (h : Exponent exponent)
    (hrest : ∀ b ∈ rest.head?, isDigit b = false ∧ b ≠ 0x65 ∧ b ≠ 0x45) :
    readExponent (exponent ++ rest) = some (exponent, rest) := by
  rcases h with rfl | ⟨mark, sign, digits, hmark, hsign, hdigits, rfl⟩
  · rw [List.nil_append]
    cases rest with
    | nil => rfl
    | cons b more =>
        obtain ⟨_, hlower, hupper⟩ := hrest b rfl
        have hother : (b == 0x65 || b == 0x45) = false := by simp [hlower, hupper]
        simp [readExponent, hother]
  · have hmarked : (mark == 0x65 || mark == 0x45) = true := by simpa using hmark
    have hspan := hdigits.spanDigits_append fun b hb => (hrest b hb).1
    cases digits with
    | nil => exact absurd rfl hdigits.1
    | cons digit more =>
        have hdigit : (digit == 0x2B || digit == 0x2D) = false := by
          have hisDigit := hdigits.2 digit (List.mem_cons_self ..)
          refine Bool.eq_false_iff.mpr fun hsigned => ?_
          rcases (by simpa using hsigned : digit = 0x2B ∨ digit = 0x2D) with rfl | rfl <;>
            exact absurd hisDigit (by decide)
        rw [List.cons_append] at hspan
        rcases hsign with rfl | rfl | rfl
        · simp [readExponent, hmarked, hdigit, hspan]
        · simp [readExponent, hmarked, hspan]
        · simp [readExponent, hmarked, hspan]

/-- Whether a byte may go on with a number. -/
def goesOnNumber (b : UInt8) : Prop := isDigit b ∨ b = 0x2E ∨ b = 0x65 ∨ b = 0x45

/-- A number is over where nothing goes on with it. -/
def NumberEnds (rest : Bytes) : Prop := ∀ b ∈ rest.head?, ¬ goesOnNumber b

theorem readUnsigned_sound {bs number rest : Bytes}
    (h : readUnsigned bs = some (number, rest)) :
    ∃ whole fraction exponent, Whole whole ∧ Fraction fraction ∧ Exponent exponent ∧
      number = whole ++ fraction ++ exponent ∧ bs = number ++ rest := by
  unfold readUnsigned at h
  simp only [bind, pure, Option.bind_eq_some_iff, Prod.exists, Option.some.injEq,
    Prod.mk.injEq] at h
  obtain ⟨whole, bs₁, hwhole, fraction, bs₂, hfraction, exponent, bs₃, hexponent, rfl, rfl⟩ := h
  obtain ⟨isWhole, rfl⟩ := readWhole_sound hwhole
  obtain ⟨isFraction, rfl⟩ := readFraction_sound hfraction
  obtain ⟨isExponent, rfl⟩ := readExponent_sound hexponent
  exact ⟨whole, fraction, exponent, isWhole, isFraction, isExponent, rfl, by simp⟩

theorem readUnsigned_append {whole fraction exponent rest : Bytes} (hwhole : Whole whole)
    (hfraction : Fraction fraction) (hexponent : Exponent exponent) (hrest : NumberEnds rest) :
    readUnsigned (whole ++ fraction ++ exponent ++ rest) =
      some (whole ++ fraction ++ exponent, rest) := by
  have hend : ∀ b ∈ rest.head?, isDigit b = false ∧ b ≠ 0x2E ∧ b ≠ 0x65 ∧ b ≠ 0x45 := by
    intro b hb
    have hover := hrest b hb
    simp only [goesOnNumber, not_or, Bool.not_eq_true] at hover
    exact hover
  have hmark : ∀ b ∈ (exponent ++ rest).head?, isDigit b = false ∧ b ≠ 0x2E := by
    rcases hexponent with rfl | ⟨mark, sign, digits, hmark, _, _, rfl⟩
    · exact fun b hb => ⟨(hend b hb).1, (hend b hb).2.1⟩
    · rintro b hb
      cases hb
      rcases hmark with rfl | rfl <;> exact ⟨rfl, by decide⟩
  have hpoint : ∀ b ∈ (fraction ++ (exponent ++ rest)).head?, isDigit b = false := by
    rcases hfraction with rfl | ⟨digits, _, rfl⟩
    · exact fun b hb => (hmark b hb).1
    · rintro b hb
      cases hb
      rfl
  have hexponent' := hexponent.readExponent_append fun b hb => ⟨(hend b hb).1, (hend b hb).2.2⟩
  simp [readUnsigned, List.append_assoc, hwhole.readWhole_append hpoint,
    hfraction.readFraction_append hmark, hexponent']

/-- What the reader splits off is a number. -/
theorem readNumber_sound {bs number rest : Bytes} (h : readNumber bs = some (number, rest)) :
    Number number ∧ bs = number ++ rest := by
  unfold readNumber at h
  split at h
  · obtain ⟨⟨unsigned, rest'⟩, hread, heq⟩ := Option.map_eq_some_iff.mp h
    cases heq
    obtain ⟨whole, fraction, exponent, hwhole, hfraction, hexponent, rfl, rfl⟩ :=
      readUnsigned_sound hread
    exact ⟨⟨[0x2D], whole, fraction, exponent, .inr rfl, hwhole, hfraction, hexponent, rfl⟩, rfl⟩
  · obtain ⟨whole, fraction, exponent, hwhole, hfraction, hexponent, rfl, rfl⟩ :=
      readUnsigned_sound h
    exact ⟨⟨[], whole, fraction, exponent, .inl rfl, hwhole, hfraction, hexponent, rfl⟩, rfl⟩

/-- A number starts with a digit or its sign. -/
theorem Number.eq_cons {number : Bytes} (h : Number number) :
    ∃ b more, number = b :: more ∧ (isDigit b ∨ b = 0x2D) := by
  obtain ⟨sign, whole, fraction, exponent, hsign, hwhole, _, _, rfl⟩ := h
  rcases hsign with rfl | rfl
  · rcases hwhole with rfl | ⟨⟨hne, hdigits⟩, _⟩
    · exact ⟨_, _, rfl, .inl rfl⟩
    · cases whole with
      | nil => exact absurd rfl hne
      | cons b more => exact ⟨b, _, rfl, .inl (hdigits b (List.mem_cons_self ..))⟩
  · exact ⟨_, _, rfl, .inr rfl⟩

/-- And a number is split off, if nothing goes on with it. -/
theorem Number.readNumber_append {number rest : Bytes} (h : Number number)
    (hrest : NumberEnds rest) : readNumber (number ++ rest) = some (number, rest) := by
  obtain ⟨sign, whole, fraction, exponent, hsign, hwhole, hfraction, hexponent, rfl⟩ := h
  have hread := readUnsigned_append hwhole hfraction hexponent hrest
  rcases hsign with rfl | rfl
  · have hunsigned : ∀ more, whole ++ fraction ++ exponent ++ rest ≠ 0x2D :: more := by
      rcases hwhole with rfl | ⟨⟨hne, hdigits⟩, _⟩
      · simp
      · cases whole with
        | nil => exact absurd rfl hne
        | cons b more =>
            rintro _ heq
            have hb := hdigits b (List.mem_cons_self ..)
            rw [(List.cons.inj heq).1] at hb
            exact absurd hb (by decide)
    rw [List.nil_append, readNumber, hread]
    exact fun more heq => hunsigned more heq
  · rw [List.append_assoc, List.singleton_append, readNumber, hread]
    rfl

/-! ## What is read spells a value -/

theorem skipSpace_append {gap : Bytes} (h : Gap gap) (bs : Bytes) :
    skipSpace (gap ++ bs) = skipSpace bs := List.dropWhile_append_of_pos h

/-- White space is dropped, and nothing else. -/
theorem exists_gap (bs : Bytes) : ∃ gap, Gap gap ∧ bs = gap ++ skipSpace bs :=
  ⟨bs.takeWhile isSpace, List.all_eq_true.mp List.all_takeWhile,
    List.takeWhile_append_dropWhile.symm⟩

/-- The values that are split off with some fuel are spelled by what is split off. -/
def ValuesSound (fuel : Nat) : Prop :=
  ∀ {bs value rest}, readValue fuel bs = some (value, rest) →
    ∃ gap text, Gap gap ∧ Spells (.value value) text ∧ bs = gap ++ (text ++ rest)

/-- And so are the items of an array. -/
def ItemsSound (fuel : Nat) : Prop :=
  ∀ {bs items rest}, readItems fuel bs = some (items, rest) →
    ∃ text, Spells (.items items) text ∧ bs = text ++ 0x5D :: rest

/-- And the fields of an object. -/
def FieldsSound (fuel : Nat) : Prop :=
  ∀ {bs fields rest}, readFields fuel bs = some (fields, rest) →
    ∃ text, Spells (.fields fields) text ∧ bs = text ++ 0x7D :: rest

/-- Up to the next part, a value is split off with the white space around it. -/
theorem ValuesSound.spaced {fuel : Nat} (h : ValuesSound fuel) {bs rest next : Bytes} {value : Json}
    (hread : readValue fuel bs = some (value, rest)) (hnext : skipSpace rest = next) :
    ∃ text, Spells (.spaced value) text ∧ bs = text ++ next := by
  obtain ⟨before, text, hbefore, hspells, rfl⟩ := h hread
  obtain ⟨after, hafter, hrest⟩ := exists_gap rest
  refine ⟨before ++ (text ++ after), .spaced hbefore hspells hafter, ?_⟩
  rw [hnext] at hrest
  rw [hrest]
  simp

theorem valuesSound_step {fuel : Nat} (hitems : ItemsSound fuel) (hfields : FieldsSound fuel) :
    ValuesSound (fuel + 1) := by
  intro bs value rest h
  obtain ⟨gap, hgap, hbs⟩ := exists_gap bs
  refine ⟨gap, ?_⟩
  rw [readValue] at h
  split at h
  · rename_i heq
    cases h
    exact ⟨_, hgap, .null, hbs.trans (by rw [heq]; rfl)⟩
  · rename_i heq
    cases h
    exact ⟨_, hgap, .boolTrue, hbs.trans (by rw [heq]; rfl)⟩
  · rename_i heq
    cases h
    exact ⟨_, hgap, .boolFalse, hbs.trans (by rw [heq]; rfl)⟩
  · rename_i heq
    obtain ⟨⟨body, rest'⟩, hread, hpair⟩ := Option.map_eq_some_iff.mp h
    cases hpair
    obtain ⟨hbody, rfl⟩ := readBody_sound hread
    exact ⟨_, hgap, .string hbody, hbs.trans (by rw [heq]; simp)⟩
  · rename_i inside heq
    obtain ⟨gap', hgap', hinside⟩ := exists_gap inside
    split at h
    · rename_i hclose
      cases h
      rw [hclose] at hinside
      exact ⟨_, hgap, .emptyArray hgap', hbs.trans (by rw [heq, hinside]; simp)⟩
    · obtain ⟨⟨items, rest'⟩, hread, hpair⟩ := Option.map_eq_some_iff.mp h
      cases hpair
      obtain ⟨text, hspells, rfl⟩ := hitems hread
      exact ⟨_, hgap, .array hspells, hbs.trans (by rw [heq]; simp)⟩
  · rename_i inside heq
    obtain ⟨gap', hgap', hinside⟩ := exists_gap inside
    split at h
    · rename_i hclose
      cases h
      rw [hclose] at hinside
      exact ⟨_, hgap, .emptyObject hgap', hbs.trans (by rw [heq, hinside]; simp)⟩
    · obtain ⟨⟨fields, rest'⟩, hread, hpair⟩ := Option.map_eq_some_iff.mp h
      cases hpair
      obtain ⟨text, hspells, rfl⟩ := hfields hread
      exact ⟨_, hgap, .object hspells, hbs.trans (by rw [heq]; simp)⟩
  · obtain ⟨⟨digits, rest'⟩, hread, hpair⟩ := Option.map_eq_some_iff.mp h
    cases hpair
    obtain ⟨hnumber, hstart⟩ := readNumber_sound hread
    exact ⟨_, hgap, .number hnumber, hbs.trans (by rw [hstart])⟩

theorem itemsSound_step {fuel : Nat} (hvalues : ValuesSound fuel) (hitems : ItemsSound fuel) :
    ItemsSound (fuel + 1) := by
  intro bs items rest h
  rw [readItems] at h
  split at h
  · cases h
  · rename_i item more hread
    split at h
    · rename_i others hcomma
      obtain ⟨text, hspells, rfl⟩ := hvalues.spaced hread hcomma
      obtain ⟨⟨items', rest'⟩, hothers, hpair⟩ := Option.map_eq_some_iff.mp h
      cases hpair
      obtain ⟨text', hspells', rfl⟩ := hitems hothers
      exact ⟨_, .nextItem hspells hspells', by simp⟩
    · rename_i after hclose
      cases h
      obtain ⟨text, hspells, rfl⟩ := hvalues.spaced hread hclose
      exact ⟨_, .lastItem hspells, rfl⟩
    · cases h

theorem fieldsSound_step {fuel : Nat} (hvalues : ValuesSound fuel) (hfields : FieldsSound fuel) :
    FieldsSound (fuel + 1) := by
  intro bs fields rest h
  obtain ⟨before, hbefore, hbs⟩ := exists_gap bs
  rw [readFields] at h
  split at h
  · rename_i keyOn hquote
    split at h
    · cases h
    · rename_i key afterKey hkey
      obtain ⟨hbody, rfl⟩ := readBody_sound hkey
      obtain ⟨after, hafter, hafterKey⟩ := exists_gap afterKey
      split at h
      · rename_i valueOn hcolon
        rw [hcolon] at hafterKey
        split at h
        · cases h
        · rename_i value more hread
          split at h
          · rename_i others hcomma
            obtain ⟨text, hspells, rfl⟩ := hvalues.spaced hread hcomma
            obtain ⟨⟨fields', rest'⟩, hothers, hpair⟩ := Option.map_eq_some_iff.mp h
            cases hpair
            obtain ⟨text', hspells', rfl⟩ := hfields hothers
            refine ⟨_, .nextField hbefore hbody hafter hspells hspells', hbs.trans ?_⟩
            rw [hquote, hafterKey]
            simp
          · rename_i hclose
            cases h
            obtain ⟨text, hspells, rfl⟩ := hvalues.spaced hread hclose
            refine ⟨_, .lastField hbefore hbody hafter hspells, hbs.trans ?_⟩
            rw [hquote, hafterKey]
            simp
          · cases h
      · cases h
  · cases h

/-- **Soundness.**  Whatever is split off spells what it is read as. -/
theorem read_sound (fuel : Nat) : ValuesSound fuel ∧ ItemsSound fuel ∧ FieldsSound fuel := by
  induction fuel with
  | zero => exact ⟨nofun, nofun, nofun⟩
  | succ fuel ih =>
      obtain ⟨hvalues, hitems, hfields⟩ := ih
      exact ⟨valuesSound_step hitems hfields, itemsSound_step hvalues hitems,
        fieldsSound_step hvalues hfields⟩

/-! ## What spells a value is read -/

theorem NumberEnds.append {gap rest : Bytes} (h : NumberEnds rest) (hgap : Gap gap) :
    NumberEnds (gap ++ rest) := by
  cases gap with
  | nil => exact h
  | cons b more =>
      rintro _ heq
      cases heq
      have hspace := hgap b (List.mem_cons_self ..)
      simp only [isSpace, Bool.or_eq_true, beq_iff_eq] at hspace
      rcases hspace with ((rfl | rfl) | rfl) | rfl <;> unfold goesOnNumber <;> decide

/-- A value starts neither with white space nor with a bracket that ends something. -/
theorem Spells.value_eq_cons {value : Json} {text : Bytes} (h : Spells (.value value) text) :
    ∃ b more, text = b :: more ∧ isSpace b = false ∧ b ≠ 0x5D := by
  cases h with
  | number number =>
      obtain ⟨b, more, rfl, hb⟩ := number.eq_cons
      refine ⟨b, more, rfl, ?_, ?_⟩
      · refine Bool.eq_false_iff.mpr fun hspace => ?_
        simp only [isSpace, Bool.or_eq_true, beq_iff_eq] at hspace
        rcases hspace with ((rfl | rfl) | rfl) | rfl <;> exact absurd hb (by decide)
      · rintro rfl
        exact absurd hb (by decide)
  | _ => exact ⟨_, _, rfl, rfl, by decide⟩

/-- Items do not start with the end of their array. -/
theorem Spells.items_start {items : List Json} {text : Bytes} (h : Spells (.items items) text)
    (rest : Bytes) : ∃ b more, skipSpace (text ++ rest) = b :: more ∧ b ≠ 0x5D := by
  have hspaced : ∀ {value text}, Spells (.spaced value) text → ∀ rest,
      ∃ b more, skipSpace (text ++ rest) = b :: more ∧ b ≠ 0x5D := by
    intro value text h rest
    cases h with
    | spaced spaceBefore spells spaceAfter =>
        obtain ⟨b, more, rfl, hspace, hb⟩ := spells.value_eq_cons
        simp only [List.append_assoc, List.cons_append]
        rw [skipSpace_append spaceBefore, skipSpace_cons hspace]
        exact ⟨b, _, rfl, hb⟩
  cases h with
  | lastItem spells => exact hspaced spells rest
  | nextItem spells others =>
      rw [List.append_assoc]
      exact hspaced spells _

/-- Fields start with the quote of a key. -/
theorem Spells.fields_start {fields : List (Bytes × Json)} {text : Bytes}
    (h : Spells (.fields fields) text) (rest : Bytes) :
    ∃ more, skipSpace (text ++ rest) = 0x22 :: more := by
  cases h with
  | lastField spaceBefore | nextField spaceBefore =>
      rw [List.append_assoc, skipSpace_append spaceBefore]
      exact ⟨_, skipSpace_cons rfl _⟩

/-- How the reader splits a part off its text, whatever follows. -/
def Part.IsRead : Part → Bytes → Prop
  | .value j, text => ∀ fuel gap rest, Gap gap → NumberEnds rest → 2 * text.length ≤ fuel →
      readValue fuel (gap ++ (text ++ rest)) = some (j, rest)
  | .spaced j, text => ∀ fuel rest, NumberEnds rest → 2 * text.length ≤ fuel →
      ∃ gap, Gap gap ∧ readValue fuel (text ++ rest) = some (j, gap ++ rest)
  | .items js, text => ∀ fuel rest, 2 * text.length + 1 ≤ fuel →
      readItems fuel (text ++ 0x5D :: rest) = some (js, rest)
  | .fields fs, text => ∀ fuel rest, 2 * text.length + 1 ≤ fuel →
      readFields fuel (text ++ 0x7D :: rest) = some (fs, rest)

/-- A value is split off if it is with fuel for one step and no white space before it. -/
theorem isRead_of_step {value : Json} {text : Bytes} (hspells : Spells (.value value) text)
    (h : ∀ k rest, NumberEnds rest → 2 * text.length ≤ k + 1 → ∀ bs, skipSpace bs = text ++ rest →
      readValue (k + 1) bs = some (value, rest)) : (Part.value value).IsRead text := by
  intro fuel gap rest hgap hrest hfuel
  obtain ⟨b, more, rfl, hspace, _⟩ := hspells.value_eq_cons
  obtain ⟨k, rfl⟩ : ∃ k, fuel = k + 1 :=
    Nat.exists_eq_succ_of_ne_zero (by simp only [List.length_cons] at hfuel; omega)
  refine h k rest hrest hfuel _ ?_
  rw [skipSpace_append hgap, List.cons_append, skipSpace_cons hspace]

/-- A number is told by its first byte. -/
theorem readValue_number {k : Nat} {bs number rest : Bytes} (h : Number number)
    (hrest : NumberEnds rest) (hbs : skipSpace bs = number ++ rest) :
    readValue (k + 1) bs = some (.number number, rest) := by
  obtain ⟨b, more, hcons, hb⟩ := h.eq_cons
  have hstart : ∀ {first after}, skipSpace bs = first :: after → isDigit first ∨ first = 0x2D := by
    intro first after heq
    rw [hbs, hcons] at heq
    exact (List.cons.inj heq).1 ▸ hb
  rw [readValue]
  split
  case h_7 =>
    rw [hbs, h.readNumber_append hrest]
    rfl
  all_goals
    rename_i heq
    exact absurd (hstart heq) (by decide)

/-- An array is split off if its items are. -/
theorem readValue_array {items : List Json} {inside bs rest : Bytes} {k : Nat}
    (hspells : Spells (.items items) inside) (hread : (Part.items items).IsRead inside)
    (hfuel : 2 * inside.length + 1 ≤ k) (hbs : skipSpace bs = 0x5B :: (inside ++ 0x5D :: rest)) :
    readValue (k + 1) bs = some (.array items, rest) := by
  obtain ⟨b, more, hstart, hb⟩ := hspells.items_start (0x5D :: rest)
  rw [readValue, hbs]
  simp only [hstart]
  split
  · rename_i heq
    exact absurd (List.cons.inj heq).1 hb
  · rw [hread k rest hfuel]
    rfl

/-- An object is split off if its fields are. -/
theorem readValue_object {fields : List (Bytes × Json)} {inside bs rest : Bytes} {k : Nat}
    (hspells : Spells (.fields fields) inside) (hread : (Part.fields fields).IsRead inside)
    (hfuel : 2 * inside.length + 1 ≤ k) (hbs : skipSpace bs = 0x7B :: (inside ++ 0x7D :: rest)) :
    readValue (k + 1) bs = some (.object fields, rest) := by
  obtain ⟨more, hstart⟩ := hspells.fields_start (0x7D :: rest)
  rw [readValue, hbs]
  simp only [hstart]
  rw [hread k rest hfuel]
  rfl

/-- What becomes of the fields of an object behind the value of one. -/
def fieldsBehind (fuel : Nat) (key : Bytes) (value : Json) (rest : Bytes) :
    Option (List (Bytes × Json) × Bytes) :=
  match skipSpace rest with
  | 0x2C :: more => (readFields fuel more).map fun r => ((key, value) :: r.1, r.2)
  | 0x7D :: after => some ([(key, value)], after)
  | _ => none

/-- Behind a key and its colon a value is split off, and then comes what follows it. -/
theorem readFields_field {key before after text rest : Bytes} {value : Json} {k : Nat}
    (hbefore : Gap before) (hbody : Body key) (hafter : Gap after)
    (hread : (Part.spaced value).IsRead text) (hrest : NumberEnds rest)
    (hfuel : 2 * text.length ≤ k) :
    ∃ gap, Gap gap ∧
      readFields (k + 1) (before ++ 0x22 :: (key ++ 0x22 :: (after ++ 0x3A :: (text ++ rest)))) =
        fieldsBehind k key value (gap ++ rest) := by
  obtain ⟨gap, hgap, hvalue⟩ := hread k rest hrest hfuel
  have hquote : ∀ bs, skipSpace (0x22 :: bs) = 0x22 :: bs := skipSpace_cons rfl
  have hcolon : ∀ bs, skipSpace (0x3A :: bs) = 0x3A :: bs := skipSpace_cons rfl
  refine ⟨gap, hgap, ?_⟩
  simp only [readFields, skipSpace_append hbefore, hquote, hbody.readBody_append,
    skipSpace_append hafter, hcolon, hvalue]
  rfl

theorem numberEnds_cons {b : UInt8} (h : ¬ goesOnNumber b) (rest : Bytes) :
    NumberEnds (b :: rest) := by
  rintro _ heq
  cases heq
  exact h

/-- Commas and brackets end a number, and are no white space. -/
theorem ends_of_mem {b : UInt8} (h : b ∈ [0x2C, 0x5D, 0x7D]) (rest : Bytes) :
    NumberEnds (b :: rest) ∧ skipSpace (b :: rest) = b :: rest := by
  simp only [List.mem_cons, List.not_mem_nil, or_false] at h
  rcases h with rfl | rfl | rfl <;>
    exact ⟨numberEnds_cons (by unfold goesOnNumber; decide) rest, skipSpace_cons rfl rest⟩

section

variable {value : Json} {text rest : Bytes} {items : List Json} {fields : List (Bytes × Json)}

theorem isRead_string {body : Bytes} (h : Body body) :
    (Part.value (.string body)).IsRead (0x22 :: (body ++ [0x22])) := by
  refine isRead_of_step (.string h) fun k rest _ _ bs hbs => ?_
  simp only [List.cons_append, List.append_assoc, List.nil_append] at hbs
  simp only [readValue, hbs, h.readBody_append]
  rfl

theorem isRead_emptyArray {gap : Bytes} (h : Gap gap) :
    (Part.value (.array [])).IsRead (0x5B :: (gap ++ [0x5D])) := by
  refine isRead_of_step (.emptyArray h) fun k rest _ _ bs hbs => ?_
  obtain ⟨_, hclose⟩ := ends_of_mem (b := 0x5D) (by decide) rest
  simp only [List.cons_append, List.append_assoc, List.nil_append] at hbs
  simp only [readValue, hbs, skipSpace_append h, hclose]

theorem isRead_emptyObject {gap : Bytes} (h : Gap gap) :
    (Part.value (.object [])).IsRead (0x7B :: (gap ++ [0x7D])) := by
  refine isRead_of_step (.emptyObject h) fun k rest _ _ bs hbs => ?_
  obtain ⟨_, hclose⟩ := ends_of_mem (b := 0x7D) (by decide) rest
  simp only [List.cons_append, List.append_assoc, List.nil_append] at hbs
  simp only [readValue, hbs, skipSpace_append h, hclose]

theorem isRead_array (h : Spells (.items items) text) (hread : (Part.items items).IsRead text) :
    (Part.value (.array items)).IsRead (0x5B :: (text ++ [0x5D])) := by
  refine isRead_of_step (.array h) fun k rest _ hfuel bs hbs => ?_
  simp only [List.length_cons, List.length_append, List.length_nil] at hfuel
  exact readValue_array h hread (by omega) (hbs.trans (by simp))

theorem isRead_object (h : Spells (.fields fields) text)
    (hread : (Part.fields fields).IsRead text) :
    (Part.value (.object fields)).IsRead (0x7B :: (text ++ [0x7D])) := by
  refine isRead_of_step (.object h) fun k rest _ hfuel bs hbs => ?_
  simp only [List.length_cons, List.length_append, List.length_nil] at hfuel
  exact readValue_object h hread (by omega) (hbs.trans (by simp))

theorem isRead_spaced {before after : Bytes} (hbefore : Gap before) (hafter : Gap after)
    (hread : (Part.value value).IsRead text) :
    (Part.spaced value).IsRead (before ++ (text ++ after)) := by
  intro fuel rest hrest hfuel
  simp only [List.length_append] at hfuel
  refine ⟨after, hafter, ?_⟩
  rw [List.append_assoc, List.append_assoc]
  exact hread fuel _ _ hbefore (hrest.append hafter) (by omega)

theorem isRead_lastItem (hread : (Part.spaced value).IsRead text) :
    (Part.items [value]).IsRead text := by
  intro fuel rest hfuel
  obtain ⟨k, rfl⟩ : ∃ k, fuel = k + 1 := Nat.exists_eq_succ_of_ne_zero (by omega)
  obtain ⟨hends, hclose⟩ := ends_of_mem (b := 0x5D) (by decide) rest
  obtain ⟨gap, hgap, hvalue⟩ := hread k _ hends (by omega)
  simp only [readItems, hvalue, skipSpace_append hgap, hclose]

theorem isRead_nextItem (hread : (Part.spaced value).IsRead text)
    (hothers : (Part.items items).IsRead rest) :
    (Part.items (value :: items)).IsRead (text ++ 0x2C :: rest) := by
  intro fuel tail hfuel
  obtain ⟨k, rfl⟩ : ∃ k, fuel = k + 1 := Nat.exists_eq_succ_of_ne_zero (by omega)
  simp only [List.length_append, List.length_cons] at hfuel
  obtain ⟨hends, hcomma⟩ := ends_of_mem (b := 0x2C) (by decide) (rest ++ 0x5D :: tail)
  obtain ⟨gap, hgap, hvalue⟩ := hread k _ hends (by omega)
  rw [List.append_assoc, List.cons_append]
  simp only [readItems, hvalue, skipSpace_append hgap, hcomma, hothers k tail (by omega)]
  rfl

variable {key before after : Bytes}

theorem isRead_lastField (hbefore : Gap before) (hbody : Body key) (hafter : Gap after)
    (hread : (Part.spaced value).IsRead text) :
    (Part.fields [(key, value)]).IsRead
      (before ++ 0x22 :: (key ++ 0x22 :: (after ++ 0x3A :: text))) := by
  intro fuel rest hfuel
  obtain ⟨k, rfl⟩ : ∃ k, fuel = k + 1 := Nat.exists_eq_succ_of_ne_zero (by omega)
  simp only [List.length_append, List.length_cons] at hfuel
  obtain ⟨hends, hclose⟩ := ends_of_mem (b := 0x7D) (by decide) rest
  obtain ⟨gap, hgap, hfield⟩ :=
    readFields_field hbefore hbody hafter hread hends (k := k) (by omega)
  simp only [List.append_assoc, List.cons_append]
  rw [hfield, fieldsBehind, skipSpace_append hgap, hclose]
  rfl

theorem isRead_nextField (hbefore : Gap before) (hbody : Body key) (hafter : Gap after)
    (hread : (Part.spaced value).IsRead text) (hothers : (Part.fields fields).IsRead rest) :
    (Part.fields ((key, value) :: fields)).IsRead
      (before ++ 0x22 :: (key ++ 0x22 :: (after ++ 0x3A :: (text ++ 0x2C :: rest)))) := by
  intro fuel tail hfuel
  obtain ⟨k, rfl⟩ : ∃ k, fuel = k + 1 := Nat.exists_eq_succ_of_ne_zero (by omega)
  simp only [List.length_append, List.length_cons] at hfuel
  obtain ⟨hends, hcomma⟩ := ends_of_mem (b := 0x2C) (by decide) (rest ++ 0x7D :: tail)
  obtain ⟨gap, hgap, hfield⟩ :=
    readFields_field hbefore hbody hafter hread hends (k := k) (by omega)
  simp only [List.append_assoc, List.cons_append]
  rw [hfield, fieldsBehind, skipSpace_append hgap, hcomma]
  simp only [hothers k tail (by omega)]
  rfl

end

/-- **Completeness.**  Whatever spells a part is read as that part. -/
theorem Spells.isRead {part : Part} {text : Bytes} (h : Spells part text) : part.IsRead text := by
  induction h with
  | null | boolTrue | boolFalse =>
      refine isRead_of_step (by constructor) fun k rest _ _ bs hbs => ?_
      rw [readValue, hbs]
      rfl
  | number number =>
      exact isRead_of_step (.number number) fun _ _ hrest _ _ => readValue_number number hrest
  | string body => exact isRead_string body
  | emptyArray space => exact isRead_emptyArray space
  | array inside ih => exact isRead_array inside ih
  | emptyObject space => exact isRead_emptyObject space
  | object inside ih => exact isRead_object inside ih
  | spaced spaceBefore spells spaceAfter ih => exact isRead_spaced spaceBefore spaceAfter ih
  | lastItem spells ih => exact isRead_lastItem ih
  | nextItem spells others ih ihOthers => exact isRead_nextItem ih ihOthers
  | lastField spaceBefore body spaceAfter spells ih =>
      exact isRead_lastField spaceBefore body spaceAfter ih
  | nextField spaceBefore body spaceAfter spells others ih ihOthers =>
      exact isRead_nextField spaceBefore body spaceAfter ih ihOthers

/-- **Grammar.**  A text holds a value exactly if it spells the value, with white space around
it. -/
theorem parse_eq_some_iff {bs : Bytes} {value : Json} :
    parse bs = some value ↔ Spells (.spaced value) bs := by
  constructor
  · intro h
    unfold parse at h
    split at h
    · rename_i found rest hread
      split at h
      · rename_i hend
        cases h
        have hsound : ValuesSound (2 * bs.length + 1) := (read_sound _).1
        obtain ⟨text, hspells, heq⟩ := hsound.spaced hread (List.isEmpty_iff.mp hend)
        rw [List.append_nil] at heq
        exact heq ▸ hspells
      · cases h
    · cases h
  · intro h
    obtain ⟨gap, hgap, hread⟩ := h.isRead (2 * bs.length + 1) [] nofun (by omega)
    have hend : skipSpace gap = [] := by
      have hskip := skipSpace_append hgap []
      rwa [List.append_nil] at hskip
    rw [List.append_nil, List.append_nil] at hread
    simp [parse, hread, hend]

end SnapshotEngine.Json
