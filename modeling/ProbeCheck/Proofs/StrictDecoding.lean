import Mathlib.Data.List.TakeWhile
import ProbeCheck.Proofs.LenientDecoding

namespace ProbeCheck.Utf8

def Piece.bytes : Piece → Bytes
  | .scalar c => String.utf8EncodeChar c
  | .malformed bytes _ => bytes

def Scan.consumed (scan : Scan) : Bytes := scan.pieces.reverse.flatMap Piece.bytes ++ scan.held

theorem step_idle_consumed (pieces : List Piece) (byte : UInt8) :
    (Scan.step ⟨pieces, none⟩ byte).Sound ∧
      (Scan.step ⟨pieces, none⟩ byte).consumed = pieces.reverse.flatMap Piece.bytes ++ [byte] := by
  have begins := started byte
  simp only [Scan.step]
  generalize start byte = outcome at begins ⊢
  cases begins with
  | ascii small =>
    have encoded := encodeChar_of_wellFormed (WellFormed.one small)
    exact ⟨sound_idle _, by simp [Scan.consumed, Scan.held, Piece.bytes, encoded]⟩
  | stray defect stuck => exact ⟨sound_idle _, by simp [Scan.consumed, Scan.held, Piece.bytes]⟩
  | opened single sound => exact ⟨sound_begun sound _, by simp [Scan.consumed, Scan.held, single]⟩

theorem step_consumed {scan : Scan} (sound : scan.Sound) (byte : UInt8) :
    (scan.step byte).Sound ∧ (scan.step byte).consumed = scan.consumed ++ [byte] := by
  obtain ⟨pieces, begun⟩ := scan
  cases begun with
  | none => simpa [Scan.consumed, Scan.held] using step_idle_consumed pieces byte
  | some pending =>
    have sound : pending.Sound := sound pending rfl
    by_cases awaited : pending.Awaits byte
    · by_cases final : pending.missing ≤ 1
      · rw [step_final awaited final]
        exact ⟨sound_idle _, by simp [Scan.consumed, Scan.held, Piece.bytes, sound.encodes awaited final]⟩
      · rw [step_more awaited final]
        exact ⟨sound_begun (sound.next awaited final) _,
          by simp [Scan.consumed, Scan.held, Begun.next]⟩
    · rw [step_refused awaited]
      have again := step_idle_consumed (.malformed pending.bytes .continuation :: pieces) byte
      exact ⟨again.1, by rw [again.2]; simp [Scan.consumed, Scan.held, Piece.bytes]⟩

theorem foldl_consumed {scan : Scan} (sound : scan.Sound) (bytes : Bytes) :
    (bytes.foldl Scan.step scan).consumed = scan.consumed ++ bytes := by
  induction bytes generalizing scan with
  | nil => simp
  | cons byte bytes ih =>
    obtain ⟨next, grown⟩ := step_consumed sound byte
    rw [List.foldl_cons, ih next, grown, List.append_assoc, List.singleton_append]

theorem finish_bytes (scan : Scan) : scan.finish.flatMap Piece.bytes = scan.consumed := by
  obtain ⟨pieces, begun⟩ := scan
  cases begun <;> simp [Scan.finish, Scan.consumed, Scan.held, Piece.bytes]

theorem pieces_bytes (bytes : Bytes) : (pieces bytes).flatMap Piece.bytes = bytes := by
  rw [pieces, finish_bytes, foldl_consumed (sound_idle [])]
  simp [Scan.consumed, Scan.held]

theorem foldl_completes {pending : Begun} {rest : Bytes} {code : Nat}
    (completes : pending.Completes rest code) (pieces : List Piece) :
    rest.foldl Scan.step ⟨pieces, some pending⟩ = ⟨.scalar (Char.ofNat code) :: pieces, none⟩ := by
  induction rest generalizing pending with
  | nil => exact completes.elim
  | cons byte rest ih =>
    obtain ⟨awaited, following⟩ := completes
    split at following
    · rename_i final
      obtain ⟨rfl, rfl⟩ := following
      rw [List.foldl_cons, step_final awaited final, List.foldl_nil]
    · rename_i more
      rw [List.foldl_cons, step_more awaited more, ih following]

theorem foldl_wellFormed {bytes : Bytes} {code : Nat} (given : WellFormed bytes code)
    (pieces : List Piece) :
    bytes.foldl Scan.step ⟨pieces, none⟩ = ⟨.scalar (Char.ofNat code) :: pieces, none⟩ := by
  cases bytes with
  | nil => cases given
  | cons lead rest =>
    have begins := started lead
    rw [List.foldl_cons]
    simp only [Scan.step]
    generalize start lead = outcome at begins ⊢
    cases begins with
    | ascii small =>
      cases given with
      | one => rfl
      | two => omega
      | three => omega
      | four => omega
    | stray defect stuck => exact absurd given (stuck rest code)
    | opened single sound =>
      refine foldl_completes ((sound.exact rest code).mp ?_) pieces
      rwa [single]

theorem foldl_encode (text : Text) (pieces : List Piece) :
    (encode text).foldl Scan.step ⟨pieces, none⟩ = ⟨(text.map .scalar).reverse ++ pieces, none⟩ := by
  induction text generalizing pieces with
  | nil => rfl
  | cons c text ih =>
    have first : encode (c :: text) = String.utf8EncodeChar c ++ encode text := rfl
    rw [first, List.foldl_append, foldl_wellFormed (wellFormed_encodeChar c), Char.ofNat_toNat, ih]
    simp

theorem pieces_encode (text : Text) : pieces (encode text) = text.map .scalar := by
  rw [pieces, foldl_encode]
  simp [Scan.finish]

theorem map_shown_scalar (text : Text) : (text.map Piece.scalar).map Piece.shown = text := by
  rw [List.map_map]
  exact List.map_id text

theorem decodeLossy_encode (text : Text) : decodeLossy (encode text) = text := by
  rw [decodeLossy, pieces_encode, map_shown_scalar]

theorem encode_shown {pieces : List Piece} (scalars : ∀ piece ∈ pieces, piece.isScalar = true) :
    encode (pieces.map Piece.shown) = pieces.flatMap Piece.bytes := by
  rw [encode, List.flatMap_map]
  refine List.flatMap_congr fun piece member => ?_
  cases piece with
  | scalar c => rfl
  | malformed bytes defect => exact absurd (scalars _ member) Bool.false_ne_true

theorem decode?_ok_iff {bytes : Bytes} {text : Text} :
    decode? bytes = .ok text ↔ bytes = encode text := by
  unfold decode?
  rw [List.span_eq_takeWhile_dropWhile]
  constructor
  · intro accepted
    split at accepted
    · cases accepted
    · rename_i all rest other spanned
      cases accepted
      obtain ⟨rfl, rfl⟩ := Prod.mk.inj spanned
      have ended : (pieces bytes).dropWhile Piece.isScalar = [] := by
        cases left : (pieces bytes).dropWhile Piece.isScalar with
        | nil => rfl
        | cons piece more =>
          have stopped : piece.isScalar = false := by
            have head := List.head?_dropWhile_not Piece.isScalar (pieces bytes)
            rw [left] at head
            simpa using head
          cases piece with
          | scalar c => cases stopped
          | malformed bad defect => exact absurd left (other bad defect more)
      have whole : (pieces bytes).takeWhile Piece.isScalar = pieces bytes := by
        have joined := List.takeWhile_append_dropWhile (p := Piece.isScalar) (l := pieces bytes)
        rwa [ended, List.append_nil] at joined
      rw [whole, encode_shown (List.takeWhile_eq_self_iff.mp whole), pieces_bytes]
  · rintro rfl
    have scalars : ∀ piece ∈ text.map Piece.scalar, piece.isScalar = true := by
      intro piece member
      obtain ⟨c, -, rfl⟩ := List.mem_map.mp member
      rfl
    rw [pieces_encode, List.takeWhile_eq_self_iff.mpr scalars, List.dropWhile_eq_nil_iff.mpr scalars]
    exact congrArg Except.ok (map_shown_scalar text)

end ProbeCheck.Utf8
