import GatedExecution.Lib.Padding
import GatedExecution.Wire.SpanIo

/-!
# Laws of fixed-width fields

A field made from a text is the text padded with spaces.  So it remembers the text up to
spaces at its end, and trimming, comparing, writing and reading agree on that.

Main results:

- Theorem {lit}`makeFixedAscii_eq_ok_iff`: which texts make a field, and which field.
- Theorem {lit}`trimmedLength_eq`: the trimmed length of every field.
- Theorem {lit}`fixedAsciiEquals_iff`: what a field is equal to.
- Theorem {lit}`fixed_ascii_laws`: the laws.
-/

namespace Fgep.Wire

open Buffer Padding

variable {N : Nat}

/-! ## Making a field -/

/-- The loop stores the text over the value, if all of it is printable. -/
theorem fillFrom_eq_ok_iff {value field : FixedAscii N} {index : Nat} {text : Bytes}
    (hfit : index + text.length ≤ N) :
    fillFrom value index text = .ok field ↔
      (∀ character ∈ text, isPrintableAsciiOrSpace character = true) ∧
        field.toList = splice value.toList index text := by
  induction text generalizing value index with
  | nil =>
      rw [fillFrom, Except.ok.injEq, ← List.Vector.toList_injective.eq_iff, eq_comm]
      simp [splice]
  | cons character rest ih =>
      rw [List.length_cons] at hfit
      have hlength := value.toList_length
      have hin : index < value.toList.length := by omega
      have hjoin := @splice_splice _ value.toList [character] rest index
        (by rw [List.length_singleton]; omega)
      rw [fillFrom, List.forall_mem_cons]
      cases hprintable : isPrintableAsciiOrSpace character with
      | false => simp
      | true =>
          rw [if_neg (by simp), ih (by omega), toList_setCharacter, set_eq_splice hin]
          rw [List.length_singleton, List.singleton_append] at hjoin
          rw [hjoin]
          simp

theorem makeFixedAscii_eq_ok_iff {text : Bytes} {field : FixedAscii N} :
    makeFixedAscii N text = .ok field ↔
      text.length ≤ N ∧ (∀ character ∈ text, isPrintableAsciiOrSpace character = true) ∧
        field.toList = text.rightpad N space := by
  by_cases hlong : text.length > N
  · rw [makeFixedAscii, if_pos hlong]
    simp [Nat.not_le.mpr hlong]
  · have hfit : text.length ≤ N := Nat.le_of_not_lt hlong
    have hpadded : splice (List.Vector.replicate N space).toList 0 text =
        text.rightpad N space := by
      have hblank : (List.Vector.replicate N space).toList = List.replicate N space := rfl
      rw [splice, hblank, List.take_zero, List.nil_append, Nat.zero_add, List.drop_replicate,
        List.rightpad]
    rw [makeFixedAscii, if_neg hlong, fillFrom_eq_ok_iff (by omega), hpadded]
    exact (and_iff_right hfit).symm

theorem exists_makeFixedAscii_iff {text : Bytes} :
    (∃ field, makeFixedAscii N text = .ok field) ↔
      text.length ≤ N ∧ ∀ character ∈ text, 0x20 ≤ character ∧ character ≤ 0x7E := by
  have hprintable : ∀ character, isPrintableAsciiOrSpace character = true ↔
      0x20 ≤ character ∧ character ≤ 0x7E := by
    intro character
    simp [isPrintableAsciiOrSpace]
  simp only [makeFixedAscii_eq_ok_iff, hprintable]
  constructor
  · rintro ⟨field, hfit, hall, -⟩
    exact ⟨hfit, hall⟩
  · rintro ⟨hfit, hall⟩
    have hlength : (text.rightpad N space).length = N := by
      rw [List.length_rightpad]
      exact Nat.max_eq_left hfit
    exact ⟨⟨text.rightpad N space, hlength⟩, hfit, hall, rfl⟩

theorem isValidFixedAscii_of_make {text : Bytes} {field : FixedAscii N}
    (hfield : makeFixedAscii N text = .ok field) : isValidFixedAscii field = true := by
  rcases makeFixedAscii_eq_ok_iff.mp hfield with ⟨-, hall, hpadded⟩
  rw [isValidFixedAscii, List.all_eq_true, hpadded, List.rightpad]
  intro character hmem
  rcases List.mem_append.mp hmem with htext | hpad
  · exact hall character htext
  · rw [List.eq_of_mem_replicate hpad]
    rfl

/-! ## Trimming and comparing -/

theorem trimFrom_eq (field : FixedAscii N) {length : Nat} (hlength : length ≤ N) :
    trimFrom field length = (trimmed space (field.toList.take length)).length := by
  induction length with
  | zero => rfl
  | succ length ih =>
      have hin : length < field.toList.length := by
        rw [field.toList_length]
        exact hlength
      rw [trimFrom, List.getElem?_eq_getElem hin, ← List.take_concat_get' _ _ hin]
      by_cases hspace : field.toList[length] = space
      · rw [if_pos (congrArg some hspace), hspace, trimmed_concat_pad, ih (by omega)]
      · rw [if_neg (fun heq => hspace (Option.some.inj heq)),
          trimmed_concat_of_ne space _ hspace, List.length_append, List.length_take,
          List.length_singleton]
        omega

theorem trimmedLength_eq (field : FixedAscii N) :
    trimmedLength field = (trimmed space field.toList).length := by
  have htake : field.toList.take N = field.toList :=
    List.take_of_length_le (Nat.le_of_eq field.toList_length)
  rw [trimmedLength, trimFrom_eq field (Nat.le_refl N), htake]

theorem fixedAsciiEquals_iff {field : FixedAscii N} {text : Bytes} :
    fixedAsciiEquals field text = true ↔ text = trimmed space field.toList := by
  have hleads := trimmed_prefix_self space field.toList
  have htrimmed := List.prefix_iff_eq_take.mp hleads
  rw [fixedAsciiEquals, trimmedLength_eq]
  by_cases hlength : text.length = (trimmed space field.toList).length
  · rw [if_neg (not_not_intro hlength), htrimmed, ← hlength, List.all_eq_true]
    simp only [List.mem_range, beq_iff_eq]
    constructor
    · intro hsame
      apply List.ext_getElem?
      intro index
      by_cases hindex : index < text.length
      · rw [List.getElem?_take_of_lt hindex, hsame index hindex]
      · rw [List.getElem?_eq_none (by omega),
          List.getElem?_eq_none (by rw [List.length_take]; omega)]
    · intro heq index hindex
      rw [← List.getElem?_take_of_lt hindex, ← heq]
  · rw [if_pos hlength]
    simp only [Bool.false_eq_true, false_iff]
    exact fun heq => hlength (congrArg List.length heq)

/-! ## The laws -/

section Laws

variable {text : Bytes} {field : FixedAscii N}

theorem trimmed_of_make (hfield : makeFixedAscii N text = .ok field) :
    trimmed space field.toList = trimmed space text := by
  rcases makeFixedAscii_eq_ok_iff.mp hfield with ⟨-, -, hpadded⟩
  rw [hpadded, trimmed_rightpad]

theorem make_eq_iff {other : Bytes} {otherField : FixedAscii N}
    (hfield : makeFixedAscii N text = .ok field)
    (hother : makeFixedAscii N other = .ok otherField) :
    field = otherField ↔ trimmed space text = trimmed space other := by
  rcases makeFixedAscii_eq_ok_iff.mp hfield with ⟨hfit, -, hpadded⟩
  rcases makeFixedAscii_eq_ok_iff.mp hother with ⟨hfit', -, hpadded'⟩
  rw [← List.Vector.toList_injective.eq_iff, hpadded, hpadded',
    rightpad_eq_rightpad_iff space hfit hfit']

theorem write_then_read_fixedAscii (hvalid : isValidFixedAscii field = true) {span : Span}
    {offset : UInt64} (hfit : offset.toNat + N ≤ span.bytes.length) :
    ∃ after, span.writeFixedAscii offset field = some (.ok, after) ∧
      after.readFixedAscii N offset = some (.ok field) := by
  have hwidth : N < 2 ^ 64 := by
    have hsize := span.length_lt
    omega
  have hfit' : offset.toNat + field.toList.length ≤ span.bytes.length := by
    rwa [field.toList_length]
  have hseen := span.writeFixedAscii_eq offset hwidth field
  rw [runEncode_writeFixedAscii, hasRange_iff.mpr hfit, hvalid] at hseen
  refine ⟨span.overwrite offset field.toList hfit', Span.eq_of_seen hseen, ?_⟩
  have hlength : offset.toNat + N ≤ (splice span.bytes offset.toNat field.toList).length := by
    rwa [splice_length hfit']
  rw [Span.readFixedAscii_eq _ offset hwidth]
  exact congrArg some (readFixedAscii_of_holdsAt hlength (holdsAt_splice hfit') hvalid)

end Laws

/-- Every width, every text: the padded field stands for the text without its trailing
spaces. -/
theorem fixed_ascii_laws (N : Nat) (text : Bytes) :
    ((∃ field, makeFixedAscii N text = .ok field) ↔
      text.length ≤ N ∧ ∀ character ∈ text, 0x20 ≤ character ∧ character ≤ 0x7E) ∧
    ∀ field, makeFixedAscii N text = .ok field →
      trimmedLength field = (trimmed space text).length ∧
      (∀ other, fixedAsciiEquals field other = true ↔ other = trimmed space text) ∧
      (∀ other otherField, makeFixedAscii N other = .ok otherField →
        (field = otherField ↔ trimmed space text = trimmed space other)) ∧
      ∀ (span : Span) (offset : UInt64), offset.toNat + N ≤ span.bytes.length →
        ∃ after, span.writeFixedAscii offset field = some (.ok, after) ∧
          after.readFixedAscii N offset = some (.ok field) := by
  refine ⟨exists_makeFixedAscii_iff, ?_⟩
  intro field hfield
  have htrimmed := trimmed_of_make hfield
  refine ⟨?_, ?_, fun other otherField => make_eq_iff hfield, ?_⟩
  · rw [trimmedLength_eq, htrimmed]
  · intro other
    rw [fixedAsciiEquals_iff, htrimmed]
  · intro span offset hfit
    exact write_then_read_fixedAscii (isValidFixedAscii_of_make hfield) hfit

/-- A blank text, a full one and one that is too long. -/
example :
    let text (word : String) : Bytes := word.toList.map asciiByte
    (makeFixedAscii 4 (text "  ")).map trimmedLength = .ok 0 ∧
      (makeFixedAscii 4 (text "NSDQ")).map trimmedLength = .ok 4 ∧
      makeFixedAscii 4 (text "NASDQ") = .error .invalidArgument := by
  decide

end Fgep.Wire
