import SnapshotEngine.Json.Reader
import SnapshotEngine.Json.Writer

/-!
# What is written is read back

The reader splits a value off the text that it starts, whatever follows.  In the body of a
string the writer leaves no quote that is not escaped, so the reader finds the quote that ends
it; between the parts of an array or an object it leaves no white space, so each part starts
where the last one ended.  Every value is shorter than its text, so the text has fuel enough.

* `readBody_textBody` — the body of a string ends where it was ended;
* `Written` — the values that the writer makes of texts;
* `Written.readsBack` — such a value is split off its text;
* `parse_render` — and is the value of it;
* `texts?` — the texts of a value, by the names that lead to them.
-/

namespace SnapshotEngine.Json

/-! ## Strings -/

/-- A byte that stands for itself in the body of a string. -/
def standsAlone (b : UInt8) : Prop := 0x20 ≤ b.toNat ∧ b ≠ 0x22 ∧ b ≠ 0x5C

theorem readBody_cons_of_standsAlone {b : UInt8} (h : standsAlone b) (rest : Bytes) :
    readBody (b :: rest) = (readBody rest).map fun r => (b :: r.1, r.2) := by
  obtain ⟨hlow, hquote, hback⟩ := h
  have hkept : ¬ (b == 0x5C || b.toNat < 0x20) = true := by
    simp only [Bool.or_eq_true, beq_iff_eq, decide_eq_true_eq, not_or]
    exact ⟨hback, by omega⟩
  rw [readBody, if_neg hkept]
  · exact fun heq => hquote heq
  · exact fun _ _ _ _ _ heq => absurd heq hback
  · exact fun _ _ heq => absurd heq hback

/-- Bytes that stand for themselves are part of the body. -/
theorem readBody_append_of_standsAlone {bs : Bytes} (h : ∀ b ∈ bs, standsAlone b)
    (rest : Bytes) : readBody (bs ++ rest) = (readBody rest).map fun r => (bs ++ r.1, r.2) := by
  induction bs with
  | nil => simp
  | cons b bs ih =>
      obtain ⟨hb, hbs⟩ := List.forall_mem_cons.mp h
      rw [List.cons_append, readBody_cons_of_standsAlone hb, ih hbs, Option.map_map]
      rfl

/-- The bytes of a character that needs no escape stand for themselves. -/
theorem standsAlone_of_mem_encodeChar {c : Char} (hlow : ¬ c.toNat < 0x20) (hquote : c ≠ '"')
    (hback : c ≠ '\\') : ∀ b ∈ Utf8.encodeChar c, standsAlone b := by
  intro b hmem
  by_cases hascii : b.toNat < 0x80
  · have hcode := Utf8.toNat_eq_of_mem_encodeChar hmem hascii
    have hne : ∀ d : Char, c ≠ d → b.toNat ≠ d.toNat := by
      intro d hd heq
      exact hd (Char.toNat_inj.mp (hcode.trans heq))
    refine ⟨by omega, ?_, ?_⟩
    · rintro rfl
      exact hne '"' hquote rfl
    · rintro rfl
      exact hne '\\' hback rfl
  · refine ⟨by omega, ?_, ?_⟩ <;> rintro rfl <;> exact hascii (by decide)

/-- A digit of an escape by code is one byte, and a digit. -/
theorem encodeChar_lowerDigit {n : Nat} (h : n < 16) :
    ∃ b, Utf8.encodeChar (Hex.lowerDigit n) = [b] ∧ isHexDigit b := by
  have hall : ∀ k : Fin 16,
      Utf8.encodeChar (Hex.lowerDigit k.val) = [UInt8.ofNat (Hex.lowerDigit k.val).toNat] ∧
        isHexDigit (UInt8.ofNat (Hex.lowerDigit k.val).toNat) = true := by
    decide
  exact ⟨_, hall ⟨n, h⟩⟩

/-- The form of a character is part of the body. -/
theorem readBody_escapeChar_append (c : Char) (rest : Bytes) :
    readBody (Utf8.bytes (escapeChar c) ++ rest) =
      (readBody rest).map fun r => (Utf8.bytes (escapeChar c) ++ r.1, r.2) := by
  unfold escapeChar
  split
  · rfl
  split
  · rfl
  split
  · rfl
  split
  · rfl
  split
  · rfl
  split
  · rfl
  split
  · rfl
  split
  · rename_i hcontrol
    obtain ⟨high, hhigh, hhighDigit⟩ := encodeChar_lowerDigit (show c.toNat / 16 < 16 by omega)
    obtain ⟨low, hlow, hlowDigit⟩ := encodeChar_lowerDigit (show c.toNat % 16 < 16 by omega)
    have hfront : ∀ cs, Utf8.bytes ('\\' :: 'u' :: '0' :: '0' :: cs) =
        0x5C :: 0x75 :: 0x30 :: 0x30 :: Utf8.bytes cs := fun _ => rfl
    have hdigits : (isHexDigit 0x30 && isHexDigit 0x30 && isHexDigit high && isHexDigit low) =
        true := by
      rw [hhighDigit, hlowDigit]
      rfl
    simp only [hfront, Utf8.bytes_cons, hhigh, hlow, Utf8.bytes_nil, List.cons_append,
      List.nil_append]
    rw [readBody, if_pos hdigits]
  · rename_i hquote hback _ _ _ _ _ hlow
    rw [Utf8.bytes_cons, Utf8.bytes_nil, List.append_nil]
    exact readBody_append_of_standsAlone (standsAlone_of_mem_encodeChar hlow hquote hback) rest

/-- The body that holds a text ends with the quote behind it. -/
theorem readBody_textBody (s : String) (rest : Bytes) :
    readBody (textBody s ++ 0x22 :: rest) = some (textBody s, rest) := by
  have hbytes : textBody s = Utf8.bytes (escape s.toList) := by
    rw [textBody, Utf8.encode, String.toList_ofList]
    rfl
  rw [hbytes]
  induction s.toList with
  | nil => rfl
  | cons c cs ih =>
      have hcons : Utf8.bytes (escape (c :: cs)) =
          Utf8.bytes (escapeChar c) ++ Utf8.bytes (escape cs) := by
        rw [escape, List.flatMap_cons, Utf8.bytes_append]
        rfl
      rw [hcons, List.append_assoc, readBody_escapeChar_append, ih]
      rfl

/-! ## Values -/

theorem skipSpace_cons {b : UInt8} (h : isSpace b = false) (rest : Bytes) :
    skipSpace (b :: rest) = b :: rest := by
  simp [skipSpace, h]

/-- A value that is split off its text, whatever follows. -/
def ReadsBack (j : Json) : Prop :=
  ∀ fuel rest, 2 * j.render.length ≤ fuel → readValue fuel (j.render ++ rest) = some (j, rest)

/-- A text that is not empty leaves fuel for a step. -/
theorem readsBack_of_step {j : Json} (hpos : 0 < j.render.length)
    (h : ∀ k rest, 2 * j.render.length ≤ k + 1 →
      readValue (k + 1) (j.render ++ rest) = some (j, rest)) : ReadsBack j := by
  intro fuel rest hfuel
  obtain ⟨k, rfl⟩ : ∃ k, fuel = k + 1 := Nat.exists_eq_succ_of_ne_zero (by omega)
  exact h k rest hfuel

/-- The string that holds a text is split off. -/
theorem readsBack_ofText (s : String) : ReadsBack (ofText s) := by
  refine readsBack_of_step (Nat.succ_pos _) fun k rest _ => ?_
  have htext : (ofText s).render ++ rest = 0x22 :: (textBody s ++ 0x22 :: rest) := by
    simp [ofText, render]
  have hread : readValue (k + 1) (0x22 :: (textBody s ++ 0x22 :: rest)) =
      (readBody (textBody s ++ 0x22 :: rest)).map fun r => (.string r.1, r.2) := rfl
  rw [htext, hread, readBody_textBody]
  rfl

/-- The items of an array are split off, up to the bracket that ends it. -/
theorem readItems_renderItems {items : List Json} (hitems : ∀ item ∈ items, ReadsBack item)
    (hne : items ≠ []) (fuel : Nat) (rest : Bytes)
    (hfuel : 2 * (joinParts (renderItems items)).length + 1 ≤ fuel) :
    readItems fuel (joinParts (renderItems items) ++ 0x5D :: rest) = some (items, rest) := by
  induction items generalizing fuel with
  | nil => exact absurd rfl hne
  | cons item more ih =>
      obtain ⟨hitem, hmore⟩ := List.forall_mem_cons.mp hitems
      obtain ⟨k, rfl⟩ : ∃ k, fuel = k + 1 := Nat.exists_eq_succ_of_ne_zero (by omega)
      cases more with
      | nil =>
          simp only [renderItems, joinParts] at hfuel ⊢
          rw [readItems, hitem k _ (by omega)]
          rfl
      | cons next others =>
          have hjoin : joinParts (renderItems (item :: next :: others)) =
              item.render ++ 0x2C :: joinParts (renderItems (next :: others)) := rfl
          rw [hjoin] at hfuel ⊢
          simp only [List.length_append, List.length_cons] at hfuel
          rw [List.append_assoc, List.cons_append, readItems, hitem k _ (by omega)]
          have hstep : ∀ tail, skipSpace (0x2C :: tail) = 0x2C :: tail := skipSpace_cons rfl
          simp only [hstep]
          rw [ih hmore (List.cons_ne_nil _ _) k (by omega)]
          rfl

/-- A field is split off before a comma, and more fields follow. -/
theorem readFields_next {value : Json} (hvalue : ReadsBack value) {k : Nat}
    (hfuel : 2 * value.render.length ≤ k) (name : String) (tail : Bytes) :
    readFields (k + 1)
        (0x22 :: (textBody name ++ 0x22 :: 0x3A :: (value.render ++ 0x2C :: tail))) =
      (readFields k tail).map fun r => ((textBody name, value) :: r.1, r.2) := by
  have hquote : ∀ bs, skipSpace (0x22 :: bs) = 0x22 :: bs := skipSpace_cons rfl
  have hcolon : ∀ bs, skipSpace (0x3A :: bs) = 0x3A :: bs := skipSpace_cons rfl
  have hcomma : ∀ bs, skipSpace (0x2C :: bs) = 0x2C :: bs := skipSpace_cons rfl
  simp only [readFields, hquote, readBody_textBody, hcolon, hvalue k _ hfuel, hcomma]

/-- Before a brace it is the last. -/
theorem readFields_last {value : Json} (hvalue : ReadsBack value) {k : Nat}
    (hfuel : 2 * value.render.length ≤ k) (name : String) (tail : Bytes) :
    readFields (k + 1)
        (0x22 :: (textBody name ++ 0x22 :: 0x3A :: (value.render ++ 0x7D :: tail))) =
      some ([(textBody name, value)], tail) := by
  have hquote : ∀ bs, skipSpace (0x22 :: bs) = 0x22 :: bs := skipSpace_cons rfl
  have hcolon : ∀ bs, skipSpace (0x3A :: bs) = 0x3A :: bs := skipSpace_cons rfl
  have hbrace : ∀ bs, skipSpace (0x7D :: bs) = 0x7D :: bs := skipSpace_cons rfl
  simp only [readFields, hquote, readBody_textBody, hcolon, hvalue k _ hfuel, hbrace]

/-- Fields as an object holds them, each with the body of its name. -/
def withBodies (fields : List (String × Json)) : List (Bytes × Json) :=
  fields.map fun field => (textBody field.1, field.2)

/-- The fields of an object are split off, up to the brace that ends it. -/
theorem readFields_renderFields {fields : List (String × Json)}
    (hfields : ∀ field ∈ fields, ReadsBack field.2) (hne : fields ≠ []) (fuel : Nat)
    (rest : Bytes)
    (hfuel : 2 * (joinParts (renderFields (withBodies fields))).length + 1 ≤ fuel) :
    readFields fuel (joinParts (renderFields (withBodies fields)) ++ 0x7D :: rest) =
      some (withBodies fields, rest) := by
  induction fields generalizing fuel with
  | nil => exact absurd rfl hne
  | cons field more ih =>
      obtain ⟨name, value⟩ := field
      obtain ⟨hfield, hmore⟩ := List.forall_mem_cons.mp hfields
      have hvalue : ReadsBack value := hfield
      obtain ⟨k, rfl⟩ : ∃ k, fuel = k + 1 := Nat.exists_eq_succ_of_ne_zero (by omega)
      cases more with
      | nil =>
          have hjoin : joinParts (renderFields (withBodies [(name, value)])) =
              0x22 :: textBody name ++ 0x22 :: 0x3A :: value.render := rfl
          rw [hjoin] at hfuel ⊢
          simp only [List.length_append, List.length_cons] at hfuel
          have hlast := readFields_last hvalue (k := k) (by omega) name rest
          simpa [withBodies] using hlast
      | cons next others =>
          have hjoin : joinParts (renderFields (withBodies ((name, value) :: next :: others))) =
              (0x22 :: textBody name ++ 0x22 :: 0x3A :: value.render) ++
                0x2C :: joinParts (renderFields (withBodies (next :: others))) := rfl
          rw [hjoin] at hfuel ⊢
          simp only [List.length_append, List.length_cons] at hfuel
          have hnext := readFields_next hvalue (k := k) (by omega) name
            (joinParts (renderFields (withBodies (next :: others))) ++ 0x7D :: rest)
          rw [ih hmore (List.cons_ne_nil _ _) k (by omega)] at hnext
          simpa [withBodies] using hnext

/-- The values that texts, truth values and nothing are put together to. -/
inductive Written : Json → Prop where
  | null : Written .null
  | bool (b : Bool) : Written (.bool b)
  | text (s : String) : Written (ofText s)
  | array {items : List Json} (written : ∀ item ∈ items, Written item) : Written (.array items)
  | object {fields : List (String × Json)} (written : ∀ field ∈ fields, Written field.2) :
      Written (ofFields fields)

@[simp] theorem written_ofText (s : String) : Written (ofText s) := .text s

@[simp] theorem written_ofFields {fields : List (String × Json)}
    (h : ∀ field ∈ fields, Written field.2) : Written (ofFields fields) := .object h

/-- Their texts start neither with white space nor with the bracket that ends an array. -/
theorem Written.render_eq_cons {j : Json} (h : Written j) :
    ∃ b bs, j.render = b :: bs ∧ isSpace b = false ∧ b ≠ 0x5D := by
  cases h with
  | bool b => cases b <;> exact ⟨_, _, rfl, rfl, by decide⟩
  | _ => exact ⟨_, _, rfl, rfl, by decide⟩

/-- An array is split off, if its items are. -/
theorem readsBack_array {items : List Json} (written : ∀ item ∈ items, Written item)
    (hitems : ∀ item ∈ items, ReadsBack item) : ReadsBack (.array items) := by
  refine readsBack_of_step (Nat.succ_pos _) fun k rest hfuel => ?_
  have hrender : (Json.array items).render = 0x5B :: joinParts (renderItems items) ++ [0x5D] := rfl
  rw [hrender] at hfuel ⊢
  simp only [List.length_append, List.length_cons, List.length_nil] at hfuel
  cases items with
  | nil => rfl
  | cons item more =>
      obtain ⟨b, bs, hhead, hspace, hbracket⟩ := (written item (List.mem_cons_self ..)).render_eq_cons
      obtain ⟨tail, hjoin⟩ : ∃ tail, joinParts (renderItems (item :: more)) = b :: tail := by
        cases more with
        | nil => exact ⟨bs, hhead⟩
        | cons next others =>
            have hjoin : joinParts (renderItems (item :: next :: others)) =
                item.render ++ 0x2C :: joinParts (renderItems (next :: others)) := rfl
            exact ⟨_, by rw [hjoin, hhead, List.cons_append]⟩
      have hread := readItems_renderItems hitems (List.cons_ne_nil _ _) k rest (by omega)
      have hstart : ∀ bs, skipSpace (0x5B :: bs) = 0x5B :: bs := skipSpace_cons rfl
      rw [hjoin] at hread ⊢
      simp only [List.cons_append, List.append_assoc, List.nil_append] at hread ⊢
      simp [readValue, hstart, skipSpace_cons hspace, hread, hbracket]

/-- The object with given fields is split off, if their values are. -/
theorem readsBack_ofFields {fields : List (String × Json)}
    (hfields : ∀ field ∈ fields, ReadsBack field.2) : ReadsBack (ofFields fields) := by
  refine readsBack_of_step (Nat.succ_pos _) fun k rest hfuel => ?_
  have hrender : (ofFields fields).render =
      0x7B :: joinParts (renderFields (withBodies fields)) ++ [0x7D] := rfl
  rw [hrender] at hfuel ⊢
  simp only [List.length_append, List.length_cons, List.length_nil] at hfuel
  cases fields with
  | nil => rfl
  | cons field more =>
      obtain ⟨tail, hjoin⟩ : ∃ tail,
          joinParts (renderFields (withBodies (field :: more))) = 0x22 :: tail := by
        cases more <;> exact ⟨_, rfl⟩
      have hread := readFields_renderFields hfields (List.cons_ne_nil _ _) k rest (by omega)
      have hfirst : ∀ bs, readValue (k + 1) (0x7B :: 0x22 :: bs) =
          (readFields k (0x22 :: bs)).map fun r => (.object r.1, r.2) := fun _ => rfl
      rw [hjoin] at hread ⊢
      simp only [List.cons_append, List.append_assoc, List.nil_append] at hread ⊢
      rw [hfirst, hread]
      rfl

/-- **Values.**  A value is split off its text, whatever follows. -/
theorem Written.readsBack {j : Json} (h : Written j) : ReadsBack j := by
  induction h with
  | null => exact readsBack_of_step (Nat.succ_pos _) fun _ _ _ => rfl
  | bool b => cases b <;> exact readsBack_of_step (Nat.succ_pos _) fun _ _ _ => rfl
  | text s => exact readsBack_ofText s
  | array written ih => exact readsBack_array written ih
  | object written ih => exact readsBack_ofFields ih

/-- **Texts.**  A value is the value of its text. -/
theorem parse_render {j : Json} (h : Written j) : parse j.render = some j := by
  have hread := h.readsBack (2 * j.render.length + 1) [] (by omega)
  rw [List.append_nil] at hread
  simp [parse, hread, skipSpace]

/-! ## The texts of a value -/

mutual

/-- The texts of a value that holds nothing else, each under the names that lead to it. -/
def texts? : Json → Option (List (List String × String))
  | .string body => (bodyText? body).map fun text => [([], text)]
  | .object fields => fieldTexts? fields
  | _ => none

/-- The texts of some fields. -/
def fieldTexts? : List (Bytes × Json) → Option (List (List String × String))
  | [] => some []
  | (key, value) :: more => do
      let name ← bodyText? key
      let texts ← texts? value
      let others ← fieldTexts? more
      return texts.map (fun entry => (name :: entry.1, entry.2)) ++ others

end

@[simp] theorem texts?_ofText (s : String) : (ofText s).texts? = some [([], s)] := by
  rw [ofText, texts?, bodyText?_textBody]
  rfl

@[simp] theorem texts?_ofFields (fields : List (String × Json)) :
    (ofFields fields).texts? = fieldTexts? (withBodies fields) := by
  rw [ofFields, texts?]
  rfl

@[simp] theorem fieldTexts?_nil : fieldTexts? (withBodies []) = some [] := rfl

@[simp] theorem fieldTexts?_cons (name : String) (value : Json) (more : List (String × Json)) :
    fieldTexts? (withBodies ((name, value) :: more)) =
      value.texts?.bind fun texts => (fieldTexts? (withBodies more)).map fun others =>
        texts.map (fun entry => (name :: entry.1, entry.2)) ++ others := by
  have hcons : withBodies ((name, value) :: more) = (textBody name, value) :: withBodies more := rfl
  rw [hcons, fieldTexts?, bodyText?_textBody]
  cases value.texts? with
  | none => rfl
  | some texts => cases fieldTexts? (withBodies more) <;> rfl

end SnapshotEngine.Json
