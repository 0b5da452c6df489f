import FortranWriter.Proofs.Listing
/-! What the bytes of a text say. Where an encoding has a byte for each character the byte is its
code point, and the first character past the last of these is what a text is refused for. -/
namespace FortranWriter
open Success

/-- The encodings that have a byte for each character, up to a last code point. -/
inductive Encoding.Bytewise : Encoding → Nat → Prop where
  | latin1 : Bytewise .latin1 0xff
  | ascii : Bytewise .ascii 0x7f

/-- A text has a character past some code point, and those in front of it are not. -/
def Text.FirstPast (last : Nat) (c : Char) (t : Text) : Prop :=
  ∃ front rest, t = front ++ c :: rest ∧ (∀ d ∈ front, d.toNat ≤ last) ∧ last < c.toNat

section
variable {encoding : Encoding} {last : Nat} {text : Text} {c : Char}

theorem Text.not_firstPast_nil : ¬ FirstPast last c [] := by
  rintro ⟨front, rest, whole, -, -⟩
  exact absurd whole.symm (List.append_ne_nil_of_right_ne_nil _ (List.cons_ne_nil _ _))

theorem Text.firstPast_cons_of_le {d : Char} (small : d.toNat ≤ last) :
    FirstPast last c (d :: text) ↔ FirstPast last c text := by
  constructor
  · rintro ⟨front, rest, whole, below, past⟩
    cases front with
    | nil =>
        cases whole
        exact absurd past (Nat.not_lt.mpr small)
    | cons e front =>
        cases whole
        exact ⟨front, rest, rfl, (List.forall_mem_cons.mp below).2, past⟩
  · rintro ⟨front, rest, rfl, below, past⟩
    exact ⟨d :: front, rest, rfl, List.forall_mem_cons.mpr ⟨small, below⟩, past⟩

theorem Text.firstPast_cons_of_lt {d : Char} (great : last < d.toNat) :
    FirstPast last c (d :: text) ↔ c = d := by
  constructor
  · rintro ⟨front, rest, whole, below, -⟩
    cases front with
    | nil =>
        cases whole
        rfl
    | cons e front =>
        cases whole
        exact absurd great (Nat.not_lt.mpr (below _ List.mem_cons_self))
  · rintro rfl
    exact ⟨[], text, rfl, fun _ mem => absurd mem List.not_mem_nil, great⟩

theorem encodeBytewise_eq_error_iff {refusal : Refusal} :
    encodeBytewise encoding (last + 1) text = .error refusal ↔
      ∃ c, text.FirstPast last c ∧ refusal = .unrepresentable c encoding := by
  induction text with
  | nil =>
      constructor
      · intro h
        cases h
      · rintro ⟨c, past, -⟩
        exact absurd past Text.not_firstPast_nil
  | cons d rest ih =>
      rw [encodeBytewise]
      split
      · case _ small =>
          simp only [Text.firstPast_cons_of_le (Nat.le_of_lt_succ small), ← ih]
          cases encodeBytewise encoding (last + 1) rest with
          | error cause => exact Iff.rfl
          | ok bytes =>
              constructor
              · intro h
                cases h
              · intro h
                cases h
      · case _ great =>
          simp only [Text.firstPast_cons_of_lt (Nat.not_lt.mp great), exists_eq_left,
            Except.error.injEq]
          exact eq_comm

theorem Encoding.Bytewise.encode_eq (h : encoding.Bytewise last) (text : Text) :
    encode text encoding = (fun bytes => ByteArray.mk bytes.toArray) <$>
      encodeBytewise encoding (last + 1) text := by
  cases h <;> rfl

theorem Encoding.Bytewise.exists_encode_iff (h : encoding.Bytewise last) :
    (∃ content, encode text encoding = .ok content) ↔ ∀ c ∈ text, c.toNat ≤ last := by
  rw [h.encode_eq, exists_map_eq_ok_iff, exists_encodeBytewise_iff]
  exact forall₂_congr fun c _ => Nat.lt_succ_iff

theorem Encoding.Bytewise.encode_eq_error_iff (h : encoding.Bytewise last) {refusal : Refusal} :
    encode text encoding = .error refusal ↔
      ∃ c, text.FirstPast last c ∧ refusal = .unrepresentable c encoding := by
  rw [h.encode_eq, ← encodeBytewise_eq_error_iff]
  cases encodeBytewise encoding (last + 1) text with
  | error cause => exact ⟨fun h => by cases h; rfl, fun h => by cases h; rfl⟩
  | ok bytes => exact ⟨fun h => (nomatch h), fun h => (nomatch h)⟩

theorem Encoding.Bytewise.le (h : encoding.Bytewise last) : last ≤ 0xff := by
  cases h <;> decide

/-- A byte stands for the character that it is the code point of. -/
theorem Encoding.Bytewise.data_of_encode (h : encoding.Bytewise last) {content : ByteArray}
    (encoded : encode text encoding = .ok content) :
    content.data.toList = text.map fun c => UInt8.ofNat c.toNat := by
  have small : ∀ c ∈ text, c.toNat < last + 1 :=
    fun c mem => Nat.lt_succ_of_le (h.exists_encode_iff.mp ⟨content, encoded⟩ c mem)
  rw [h.encode_eq, encodeBytewise_of_small small] at encoded
  cases encoded
  rfl

theorem ofNat_toNat_of_le {c : Char} (small : c.toNat ≤ 0xff) :
    Char.ofNat (UInt8.ofNat c.toNat).toNat = c := by
  rw [UInt8.toNat_ofNat', Nat.mod_eq_of_lt (Nat.lt_succ_of_le small), Char.ofNat_toNat]

end

/-- A text is written in an encoding with a byte for each character exactly if none is past its last
code point, and is refused for the first one that is. The bytes give the text back, in UTF-8 as
well, and all encodings agree where ASCII will do. -/
theorem encode_is_faithful (text : Text) :
    (∀ encoding last, Encoding.Bytewise encoding last →
      ((∃ content, encode text encoding = .ok content) ↔ ∀ c ∈ text, c.toNat ≤ last) ∧
      (∀ refusal, encode text encoding = .error refusal ↔
        ∃ c, text.FirstPast last c ∧ refusal = .unrepresentable c encoding ∧
          refusal.complaint.details =
            '\'' :: c :: ("' cannot be written as ".toList ++ encoding.name)) ∧
      ∀ content, encode text encoding = .ok content → content.size = text.length ∧
        content.data.toList.map (fun byte => Char.ofNat byte.toNat) = text) ∧
    (∀ content, encode text .ascii = .ok content →
      encode text .latin1 = .ok content ∧ encode text .utf8 = .ok content) ∧
    ∃ content, encode text .utf8 = .ok content ∧
      (String.fromUTF8? content).map String.toList = some text := by
  refine ⟨fun encoding last bytewise => ⟨bytewise.exists_encode_iff, fun refusal => ?_,
    fun content encoded => ⟨?_, ?_⟩⟩, fun content encoded => ?_, Text.bytes text, rfl, ?_⟩
  · rw [bytewise.encode_eq_error_iff]
    refine exists_congr fun c => and_congr_right fun _ => (and_iff_left_of_imp ?_).symm
    rintro rfl
    rfl
  · rw [ByteArray.size, ← Array.length_toList, bytewise.data_of_encode encoded, List.length_map]
  · have small := bytewise.exists_encode_iff.mp ⟨content, encoded⟩
    rw [bytewise.data_of_encode encoded, List.map_map, List.map_congr_left, List.map_id]
    exact fun c mem => ofNat_toNat_of_le (Nat.le_trans (small c mem) bytewise.le)
  · have ascii : ∀ c ∈ text, c.toNat < 0x80 := fun c mem =>
      Nat.lt_succ_of_le (Encoding.Bytewise.ascii.exists_encode_iff.mp ⟨content, encoded⟩ c mem)
    cases (encode_of_ascii ascii .ascii).symm.trans encoded
    exact ⟨encode_of_ascii ascii .latin1, encode_of_ascii ascii .utf8⟩
  · have valid : (Text.bytes text).IsValidUTF8 := (String.ofList text).isValidUTF8
    rw [String.fromUTF8?, dif_pos valid]
    exact congrArg some String.toList_ofList

/-- The last code point that a byte stands for, and the one behind it. -/
example : encode "ÿ".toList .latin1 = .ok ⟨#[0xff]⟩ ∧ encode "aÿĀ€".toList .latin1 =
    .error (.unrepresentable 'Ā' .latin1) :=
  ⟨rfl, rfl⟩

end FortranWriter
