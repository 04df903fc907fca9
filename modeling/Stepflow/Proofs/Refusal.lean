import Stepflow.Proofs.Atomic

/-!
# Refusals of uploads

An upload is refused for its declared length or for its body. The declared length is a text that
whoever sends the request has chosen. It is checked for digits and then read as a numeral, and there
are digits that no numeral has (`Unreadable`). A refusal for the body shows what is wrong with it,
which can always be sent.

Results:
1. `Service.lengthRefusal?_cases`: what becomes of a declared length.
2. `Text.codePoints_append`: texts that are put together.
3. `Import.Refusal.plain_message`: every refusal of a document can be sent.
-/

namespace Stepflow

open Text

/-! ## Declared lengths -/

namespace Http

/-- The digits that are taken for one in a declared length, and are in no numeral. -/
def raisedDigits : List Char :=
  ['¹', '²', '³']

/-- A declared length of digits that is no numeral, since one of them is raised or there are too
many. -/
structure Unreadable (declared : String) : Prop where
  filled : declared ≠ ""
  digits : ∀ c ∈ declared.toList, isAsciiDigit c = true ∨ c ∈ raisedDigits
  wrong : (∃ c ∈ declared.toList, c ∈ raisedDigits) ∨ Numeral.maxDigits < declared.length

structure TooLong (limit : Int) (declared : String) : Prop where
  filled : declared ≠ ""
  digits : ∀ c ∈ declared.toList, isAsciiDigit c = true
  short : declared.length ≤ Numeral.maxDigits
  above : limit < Nat.ofDigitChars 10 declared.toList 0

theorem raisedDigits_plain {c : Char} (raised : c ∈ raisedDigits) :
    digitValue? c = none ∧ isBlank c = false ∧ c ≠ '-' ∧ c ≠ '+' ∧ c ≠ '_' := by
  simp only [raisedDigits, List.mem_cons, List.not_mem_nil, or_false] at raised
  rcases raised with rfl | rfl | rfl <;> decide +kernel

theorem plain_of_digit {c : Char} (digit : isAsciiDigit c = true ∨ c ∈ raisedDigits) :
    isBlank c = false ∧ c ≠ '-' ∧ c ≠ '+' ∧ c ≠ '_' := by
  rcases digit with ascii | raised
  · refine ⟨Numeral.isBlank_of_isDigit ascii, ?_, ?_, ?_⟩
    all_goals
      rintro rfl
      exact absurd ascii (by decide)
  · exact (raisedDigits_plain raised).2

theorem not_unreadable {declared : String} (ascii : ∀ c ∈ declared.toList, isAsciiDigit c = true)
    (short : declared.length ≤ Numeral.maxDigits) : ¬Unreadable declared := by
  intro unreadable
  rcases unreadable.wrong with ⟨c, hc, raised⟩ | long
  · have value := Numeral.digitValue?_of_isDigit (ascii c hc)
    rw [(raisedDigits_plain raised).1] at value
    cases value
  · exact absurd short (Nat.not_le.mpr long)

/-- A text of digits is a numeral unless one of them is raised or there are too many. -/
theorem read?_of_digits {declared : String} (filled : declared ≠ "")
    (digits : ∀ c ∈ declared.toList, isAsciiDigit c = true ∨ c ∈ raisedDigits) :
    Unreadable declared ∧ Numeral.read? declared = none ∨
      (∀ c ∈ declared.toList, isAsciiDigit c = true) ∧ declared.length ≤ Numeral.maxDigits ∧
        Numeral.read? declared = some (Nat.ofDigitChars 10 declared.toList 0 : Int) := by
  have nonempty : declared.toList.isEmpty = false := by
    simpa [List.isEmpty_eq_false_iff] using filled
  have group := Numeral.read?_eq_group? (fun c hc => (plain_of_digit (digits c hc)).1)
    fun c hc => (plain_of_digit (digits c hc)).2
  by_cases raised : ∃ c ∈ declared.toList, c ∈ raisedDigits
  · refine .inl ⟨⟨filled, digits, .inl raised⟩, ?_⟩
    have unread : Numeral.group? declared.toList = none := by
      obtain ⟨c, hc, raised⟩ := raised
      rw [Numeral.group?, nonempty, ← Option.not_isSome_iff_eq_none, if_neg Bool.false_ne_true,
        Numeral.isSome_mapM_iff]
      intro each
      have value := each c hc
      rw [(raisedDigits_plain raised).1] at value
      cases value
    rw [group, unread]
    rfl
  · have ascii : ∀ c ∈ declared.toList, isAsciiDigit c = true := fun c hc =>
      (digits c hc).resolve_right fun inside => raised ⟨c, hc, inside⟩
    have read : Numeral.group? declared.toList =
        some (declared.toList.map fun c => c.toNat - '0'.toNat) := by
      rw [Numeral.group?, nonempty, Numeral.mapM_digitValue? ascii]
      rfl
    rw [group, read, Option.bind_some, List.length_map, Numeral.ofDigitValues_map,
      String.length_toList]
    by_cases short : declared.length ≤ Numeral.maxDigits
    · exact .inr ⟨ascii, short, if_pos short⟩
    · exact .inl ⟨⟨filled, digits, .inr (Nat.not_le.mp short)⟩, if_neg short⟩

namespace Service

/-- What becomes of a declared length: it ends in an internal error, it is refused, or it is let
pass. -/
theorem lengthRefusal?_cases (limit : Int) (declared : String) :
    Unreadable declared ∧ lengthRefusal? limit declared = some .internalError ∨
      TooLong limit declared ∧
        lengthRefusal? limit declared = some (failureResponse (.refused (.tooLarge limit))) ∨
      ¬Unreadable declared ∧ ¬TooLong limit declared ∧ lengthRefusal? limit declared = none := by
  have passed : (declared.isEmpty || !declared.toList.all fun c =>
      isAsciiDigit c || c == '¹' || c == '²' || c == '³') = true ↔
        ¬(declared ≠ "" ∧ ∀ c ∈ declared.toList, isAsciiDigit c = true ∨ c ∈ raisedDigits) := by
    rw [← Bool.not_eq_false, not_iff_not]
    simp [raisedDigits, or_assoc]
  unfold lengthRefusal?
  simp only
  split
  · next other =>
    have other := passed.mp other
    refine .inr (.inr ⟨fun unreadable => ?_, fun long => ?_, rfl⟩)
    · exact other ⟨unreadable.filled, unreadable.digits⟩
    · exact other ⟨long.filled, fun c hc => .inl (long.digits c hc)⟩
  · next looked =>
    obtain ⟨filled, digits⟩ := not_not.mp (mt passed.mpr looked)
    rcases read?_of_digits filled digits with ⟨unreadable, unread⟩ | ⟨ascii, short, read⟩
    · rw [unread]
      exact .inl ⟨unreadable, rfl⟩
    · rw [read]
      simp only
      split
      · next above => exact .inr (.inl ⟨⟨filled, ascii, short, above⟩, rfl⟩)
      · next below =>
        exact .inr (.inr ⟨not_unreadable ascii short, fun long => below long.above, rfl⟩)

end Service

end Http

/-! ## Refusals of documents -/

instance (s : String) : Decidable (Plain s) :=
  inferInstanceAs (Decidable (¬surrogateMark ∈ s.toList))

theorem plain_append {s t : String} : Plain (s ++ t) ↔ Plain s ∧ Plain t := by
  unfold Plain
  rw [String.toList_append, List.mem_append, not_or]

theorem plain_toString (n : Nat) : Plain (toString n) := by
  rw [Nat.toString_eq_ofList_toDigits]
  exact plain_of_isDigit fun c hc => Nat.isDigit_of_mem_toDigits (by decide) (by decide) hc

theorem plain_write (n : Int) : Plain (Numeral.write n) := by
  unfold Plain Numeral.write
  rw [String.toList_ofList]
  exact Numeral.not_mem_digits (by decide) (by decide)

namespace Json

theorem plain_typeName (value : Json) : Plain value.typeName := by
  unfold typeName
  split <;> decide

theorem DecodeError.plain_message (error : DecodeError) : Plain error.message := by
  have name : Plain error.encoding.name := by
    cases error.encoding with
    | utf8 => decide +kernel
    | utf16 bigEndian | utf32 bigEndian => cases bigEndian <;> decide +kernel
  have cause : Plain error.cause.message := by
    cases error.cause <;> decide +kernel
  have hex : surrogateMark ∉ Nat.toDigits 16 error.first.toNat :=
    (by decide +kernel : ∀ n < 256, surrogateMark ∉ Nat.toDigits 16 n) _ error.first.toNat_lt
  have byte : Plain (String.ofList (if (Nat.toDigits 16 error.first.toNat).length < 2 then
      '0' :: Nat.toDigits 16 error.first.toNat else Nat.toDigits 16 error.first.toNat)) := by
    unfold Plain
    rw [String.toList_ofList]
    split
    · rw [List.mem_cons, not_or]
      exact ⟨by decide, hex⟩
    · exact hex
  unfold message
  simp only [plain_append, and_assoc]
  refine ⟨by decide, name, by decide, ?_, by decide, cause⟩
  split
  · change Plain (_ ++ _)
    simp only [plain_append, and_assoc]
    exact ⟨by decide, byte, by decide, plain_toString _⟩
  · change Plain (_ ++ _)
    simp only [plain_append, and_assoc]
    exact ⟨by decide, plain_toString _, by decide, plain_toString _⟩

theorem ReadError.plain_message (error : ReadError) : Plain error.message := by
  cases error with
  | malformed cause offset line column =>
    have fault : Plain cause.message := by cases cause <;> decide +kernel
    unfold message
    simp only [plain_append, and_assoc]
    exact ⟨fault, by decide, plain_toString line, by decide, plain_toString column, by decide,
      plain_toString offset, by decide⟩
  | overlong numeral =>
    cases numeral with
    | written => decide +kernel
    | found digits =>
      unfold message Numeral.Overlong.message
      simp only [plain_append, and_assoc]
      exact ⟨by decide, plain_toString _, by decide, by decide, plain_toString digits, by decide⟩
  | tooDeep container => cases container <;> decide +kernel
  | undecodable error => exact error.plain_message

end Json

/-- Every refusal of a document can be sent. -/
theorem Import.Refusal.plain_message {refusal : Import.Refusal}
    (named : ∀ name, refusal = .notObject name → Plain name) : Plain refusal.message := by
  cases refusal with
  | tooLarge limit =>
    unfold message
    simp only [plain_append, and_assoc]
    exact ⟨by decide, plain_write limit, by decide⟩
  | unreadable error =>
    unfold message
    simp only [plain_append]
    exact ⟨by decide, error.plain_message⟩
  | tooDeep container => exact Json.ReadError.plain_message (.tooDeep container)
  | notObject name =>
    unfold message
    simp only [plain_append]
    exact ⟨by decide, named name rfl⟩

/-- A payload of bytes is refused iff it is too large or no object, and the refusal can be sent. -/
theorem Import.Payload.read_bytes_cases (bytes : List UInt8) (bounds : Import.Bounds)
    (shallow : ∀ container, Json.readBytes bytes bounds.depth ≠ .error (.tooDeep container)) :
    (bounds.size < bytes.length ∨
        ∀ fields, Json.readBytes bytes bounds.depth ≠ .ok (.obj fields)) ∧
      (∃ refusal, Payload.read (.bytes bytes) bounds = .error refusal ∧
        (∀ container, refusal ≠ .tooDeep container) ∧ Plain refusal.message) ∨
    (bytes.length : Int) ≤ bounds.size ∧
      ∃ fields, Json.readBytes bytes bounds.depth = .ok (.obj fields) ∧
        Payload.read (.bytes bytes) bounds = .ok fields := by
  have size : (Payload.bytes bytes).size = bytes.length := rfl
  unfold Payload.read
  rw [size]
  by_cases large : bounds.size < bytes.length
  · rw [if_pos large]
    exact .inl ⟨.inl large, _, rfl, nofun, Refusal.plain_message nofun⟩
  · rw [if_neg large]
    simp only
    cases read : Json.readBytes bytes bounds.depth with
    | error error =>
      refine .inl ⟨.inr nofun, .unreadable error, ?_, nofun, Refusal.plain_message nofun⟩
      cases error with
      | tooDeep container => exact absurd read (shallow container)
      | _ => rfl
    | ok document =>
      cases document with
      | obj fields => exact .inr ⟨Int.not_lt.mp large, fields, rfl, rfl⟩
      | _ =>
        refine .inl ⟨.inr nofun, _, rfl, nofun, Refusal.plain_message ?_⟩
        rintro _ ⟨⟩
        exact Json.plain_typeName _

/-! ## Texts that are put together -/

namespace Text

theorem codePoints_append {s t : List Char}
    (apart : ∀ c ∈ t.head?, markedCodePoint? c = none) :
    codePoints (s ++ t) = codePoints s ++ codePoints t := by
  fun_induction codePoints s with
  | case1 => rfl
  | case2 c =>
    cases t with
    | nil => simp [codePoints]
    | cons d t =>
      have plain : (if (c == surrogateMark) = true then markedCodePoint? d else none) = none := by
        rw [apart d rfl, ite_self]
      rw [List.singleton_append, codePoints, plain]
      rfl
  | case3 c d s n marked ih =>
    rw [List.cons_append, List.cons_append, codePoints, marked]
    exact congrArg (n :: ·) ih
  | case4 c d s plain ih =>
    rw [List.cons_append, List.cons_append, codePoints, plain]
    exact congrArg (c.toNat :: ·) ih

/-- Characters that spell themselves do so in front of any text. -/
theorem codePoints_append_of_not_mem {s t : List Char} (plain : surrogateMark ∉ s) :
    codePoints (s ++ t) = codePoints s ++ codePoints t := by
  rw [codePoints_of_not_mem plain]
  induction s with
  | nil => rfl
  | cons c s ih =>
    rw [List.mem_cons, not_or] at plain
    rw [List.cons_append, codePoints_cons (Ne.symm plain.1), ih plain.2]
    rfl

end Text

namespace Http

theorem Response.refusal_eq {status : Nat} {detail : String} (plain : hasSurrogate detail = false) :
    refusal status detail = ⟨status, .json (.obj [("detail", .str detail)])⟩ := by
  have name : hasSurrogate "detail" = false := by decide +kernel
  refine if_pos (Json.writable_obj.mpr (List.forall_mem_singleton.mpr ⟨name, ?_⟩))
  exact Json.writable_str.mpr plain

end Http

end Stepflow
