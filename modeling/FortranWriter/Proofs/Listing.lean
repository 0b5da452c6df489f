import FortranWriter.Listing
import FortranWriter.Proofs.Text.OneLine
import FortranWriter.Proofs.Wording
/-! When source text can be written: the banner has to be made of comments, and the encoding needs a
byte for each character. -/
namespace FortranWriter
open Success

/-- An encoding has a way to write a character. -/
def Encoding.Writes (encoding : Encoding) (c : Char) : Prop :=
  ∀ n, encoding.repertoire? = some n → c.toNat < n

section Encoding
variable {text : Text}

theorem exists_encodeBytewise_iff (encoding : Encoding) {repertoire : Nat} :
    (∃ bytes, encodeBytewise encoding repertoire text = .ok bytes) ↔
      ∀ c ∈ text, c.toNat < repertoire := by
  induction text with
  | nil => exact ⟨fun _ _ h => absurd h List.not_mem_nil, fun _ => ⟨[], rfl⟩⟩
  | cons c rest ih =>
      rw [List.forall_mem_cons, encodeBytewise]
      split
      · case _ small =>
          rw [← ih]
          refine ⟨?_, ?_⟩
          · rintro ⟨bytes, h⟩
            obtain ⟨others, known, -⟩ := bind_eq_ok_iff.mp h
            exact ⟨small, others, known⟩
          · rintro ⟨-, others, known⟩
            exact ⟨_, bind_eq_ok_iff.mpr ⟨others, known, rfl⟩⟩
      · case _ great =>
          refine ⟨?_, fun h => absurd h.1 great⟩
          rintro ⟨bytes, h⟩
          cases h

theorem exists_encode_iff {encoding : Encoding} :
    (∃ content, encode text encoding = .ok content) ↔ ∀ c ∈ text, encoding.Writes c := by
  unfold encode Encoding.Writes
  cases encoding.repertoire? with
  | none => exact ⟨fun _ _ _ _ h => (nomatch h), fun _ => ⟨_, rfl⟩⟩
  | some n =>
      have one : ∀ c : Char, (∀ m, some n = some m → c.toNat < m) ↔ c.toNat < n := by
        refine fun c => ⟨fun h => h n rfl, fun h m same => ?_⟩
        cases same
        exact h
      simp only [one]
      rw [← exists_encodeBytewise_iff encoding]
      constructor
      · rintro ⟨content, h⟩
        obtain ⟨bytes, known, -⟩ := bind_eq_ok_iff.mp h
        exact ⟨bytes, known⟩
      · rintro ⟨bytes, known⟩
        exact ⟨_, bind_eq_ok_iff.mpr ⟨bytes, known, rfl⟩⟩

theorem encodeBytewise_of_small {encoding : Encoding} {repertoire : Nat}
    (small : ∀ c ∈ text, c.toNat < repertoire) :
    encodeBytewise encoding repertoire text = .ok (text.map fun c => UInt8.ofNat c.toNat) := by
  induction text with
  | nil => rfl
  | cons c rest ih =>
      obtain ⟨first, others⟩ := List.forall_mem_cons.mp small
      rw [encodeBytewise, if_pos first, ih others]
      rfl

/-- In ASCII, UTF-8 has one byte for each character too. -/
theorem bytes_of_ascii (ascii : ∀ c ∈ text, c.toNat < 0x80) :
    Text.bytes text = ByteArray.mk (text.map fun c => UInt8.ofNat c.toNat).toArray := by
  have each : text.flatMap String.utf8EncodeChar = text.map fun c => UInt8.ofNat c.toNat := by
    rw [List.map_eq_flatMap, List.flatMap_def, List.flatMap_def]
    refine congrArg List.flatten (List.map_congr_left fun c mem => ?_)
    have small : c.val.toNat ≤ 127 := Nat.le_of_lt_succ (ascii c mem)
    rw [String.utf8EncodeChar]
    exact if_pos small
  apply ByteArray.ext
  rw [Text.bytes, String.toUTF8, String.toByteArray_ofList, List.utf8Encode, each,
    List.data_toByteArray]

/-- All encodings agree on ASCII. -/
theorem encode_of_ascii (ascii : ∀ c ∈ text, c.toNat < 0x80) (encoding : Encoding) :
    encode text encoding = .ok (Text.bytes text) := by
  cases encoding with
  | utf8 => rfl
  | latin1 =>
      have small : ∀ c ∈ text, c.toNat < 0x100 := fun c mem =>
        Nat.lt_trans (ascii c mem) (by decide)
      change (encodeBytewise .latin1 0x100 text >>= _) = _
      rw [encodeBytewise_of_small small, bytes_of_ascii ascii]
      rfl
  | ascii =>
      change (encodeBytewise .ascii 0x80 text >>= _) = _
      rw [encodeBytewise_of_small ascii, bytes_of_ascii ascii]
      rfl

end Encoding

section Banner
variable {source : Text} {form : SourceForm} {fragments : List Fragment} {emission : Emission}

theorem exists_comment_iff {line : Text} (unbroken : '\n' ∉ line) :
    (∃ t, Wording.comment line = .ok t) ↔ '\r' ∉ line := by
  simp only [Wording.comment_eq_ok_iff, exists_and_left, exists_eq, and_true, Text.isSingleLine_iff]
  constructor
  · exact fun single mem => (single _ mem).2 rfl
  · intro bare c mem
    exact ⟨fun same => unbroken (same ▸ mem), fun same => bare (same ▸ mem)⟩

/-- A banner is made unless there is a carriage return in a line of it. -/
theorem exists_banner_iff :
    (∃ f, banner source form = .ok f) ↔ ∀ line ∈ (bannerText source form).lines, '\r' ∉ line := by
  have comments : (∃ ys, (bannerText source form).lines.mapM Wording.comment = .ok ys) ↔
      ∀ line ∈ (bannerText source form).lines, '\r' ∉ line := by
    rw [exists_mapM_iff]
    exact forall₂_congr fun line mem =>
      exists_comment_iff (Text.newline_not_mem_of_mem_lines mem)
  rw [← comments]
  constructor
  · rintro ⟨f, h⟩
    obtain ⟨ys, known, -⟩ := bind_eq_ok_iff.mp h
    exact ⟨ys, known⟩
  · rintro ⟨ys, known⟩
    exact ⟨_, bind_eq_ok_iff.mpr ⟨ys, known, rfl⟩⟩

theorem exists_render_iff (fragments : List Fragment) :
    (∃ text, render fragments emission = .ok text) ↔
    ∀ source, emission.banner = some source →
      ∀ line ∈ (bannerText source emission.form).lines, '\r' ∉ line := by
  have front : (∃ text, render fragments emission = .ok text) ↔
      ∃ front, frontMatter emission = .ok front := by
    constructor
    · rintro ⟨text, h⟩
      obtain ⟨front, known, -⟩ := bind_eq_ok_iff.mp h
      exact ⟨front, known⟩
    · rintro ⟨front, known⟩
      exact ⟨_, bind_eq_ok_iff.mpr ⟨front, known, rfl⟩⟩
  rw [front, frontMatter]
  cases emission.banner with
  | none => exact ⟨fun _ _ h => (nomatch h), fun _ => ⟨[], rfl⟩⟩
  | some source =>
      constructor
      · rintro ⟨front, h⟩ _ same
        cases same
        obtain ⟨f, known, -⟩ := bind_eq_ok_iff.mp h
        exact exists_banner_iff.mp ⟨f, known⟩
      · intro h
        obtain ⟨f, known⟩ := exists_banner_iff.mpr (h source rfl)
        exact ⟨[f], bind_eq_ok_iff.mpr ⟨f, known, rfl⟩⟩

/-- There are two reasons for which source text may be refused once there are fragments. -/
theorem exists_sourceBytes_iff : (∃ content, sourceBytes fragments emission = .ok content) ↔
    (∀ source, emission.banner = some source →
      ∀ line ∈ (bannerText source emission.form).lines, '\r' ∉ line) ∧
    ∀ text, render fragments emission = .ok text → ∀ c ∈ text, emission.encoding.Writes c := by
  rw [← exists_render_iff fragments]
  constructor
  · rintro ⟨content, h⟩
    obtain ⟨text, rendered, encoded⟩ := bind_eq_ok_iff.mp h
    refine ⟨⟨text, rendered⟩, fun other same => ?_⟩
    cases rendered.symm.trans same
    exact exists_encode_iff.mp ⟨content, encoded⟩
  · rintro ⟨⟨text, rendered⟩, written⟩
    obtain ⟨content, encoded⟩ := exists_encode_iff.mpr (written text rendered)
    exact ⟨content, bind_eq_ok_iff.mpr ⟨text, rendered, encoded⟩⟩

end Banner

end FortranWriter
