import ProbeCheck.Proofs.WellFormedBytes

namespace ProbeCheck.Utf8

-- `bad` is the maximal ill-formed prefix of `bad ++ rest`.
structure MaximalIllFormed (bad rest : Bytes) : Prop where
  filled : bad ≠ []
  unreadable : ∀ c, ¬ String.utf8EncodeChar c <+: bad ++ rest
  part : bad.length = 1 ∨ ∃ c, bad <+: String.utf8EncodeChar c
  longest : ∀ longer c, longer <+: bad ++ rest → longer <+: String.utf8EncodeChar c →
    longer.length ≤ bad.length

inductive Decodes : Bytes → Text → Prop
  | done : Decodes [] []
  | scalar {rest : Bytes} {text : Text} (c : Char) (following : Decodes rest text) :
      Decodes (String.utf8EncodeChar c ++ rest) (c :: text)
  | malformed {bad rest : Bytes} {text : Text} (illFormed : MaximalIllFormed bad rest)
      (following : Decodes rest text) : Decodes (bad ++ rest) ('\ufffd' :: text)

theorem prefix_seam {α : Type} {part left right : List α} (start : part <+: left ++ right) :
    part <+: left ∨ ∃ item, right.head? = some item ∧ left ++ [item] <+: part := by
  cases right with
  | nil => exact .inl (by simpa using start)
  | cons item right =>
    have seam : left ++ [item] <+: left ++ item :: right := ⟨right, by simp⟩
    rcases List.prefix_or_prefix_of_prefix start seam with inner | wider
    · rcases List.prefix_concat_iff.mp inner with whole | inner
      · exact .inr ⟨item, rfl, whole ▸ List.prefix_rfl⟩
      · exact .inl inner
    · exact .inr ⟨item, rfl, wider⟩

namespace Begun

def grown (pending : Begun) (byte : UInt8) : Nat := pending.payload * 0x40 + byte.toNat % 0x40

def next (pending : Begun) (byte : UInt8) : Begun :=
  ⟨pending.bytes ++ [byte], pending.grown byte, pending.missing - 1, 0x80, 0xBF⟩

def Awaits (pending : Begun) (byte : UInt8) : Prop := pending.low ≤ byte ∧ byte ≤ pending.high

def Completes : Begun → Bytes → Nat → Prop
  | _, [], _ => False
  | pending, byte :: rest, code =>
    pending.Awaits byte ∧
      if pending.missing ≤ 1 then rest = [] ∧ code = pending.grown byte
      else (pending.next byte).Completes rest code

-- A begun sequence is completed by exactly the bytes with which it is well-formed.
structure Sound (pending : Begun) : Prop where
  filled : pending.bytes ≠ []
  exact : ∀ rest code, WellFormed (pending.bytes ++ rest) code ↔ pending.Completes rest code
  ordered : pending.low ≤ pending.high

theorem exists_completes (pending : Begun) (ordered : pending.low ≤ pending.high) :
    ∃ rest code, pending.Completes rest code := by
  have awaited : pending.Awaits pending.low := ⟨UInt8.le_refl _, ordered⟩
  induction count : pending.missing generalizing pending with
  | zero => exact ⟨[pending.low], _, awaited, by rw [if_pos (by omega)]; exact ⟨rfl, rfl⟩⟩
  | succ less ih =>
    by_cases final : pending.missing ≤ 1
    · exact ⟨[pending.low], _, awaited, by rw [if_pos final]; exact ⟨rfl, rfl⟩⟩
    · have later : (pending.next pending.low).low ≤ (pending.next pending.low).high := by
        simp only [next]; decide
      obtain ⟨rest, code, completes⟩ := ih (pending.next pending.low) later
        ⟨UInt8.le_refl _, later⟩ (by simp only [next]; omega)
      exact ⟨pending.low :: rest, code, awaited, by rw [if_neg final]; exact completes⟩

namespace Sound
variable {pending : Begun} (sound : pending.Sound)
include sound

theorem next {byte : UInt8} (awaited : pending.Awaits byte) (more : ¬ pending.missing ≤ 1) :
    (pending.next byte).Sound := by
  refine ⟨by simp [Begun.next], fun rest code => ?_, by simp only [Begun.next]; decide⟩
  have whole := sound.exact (byte :: rest) code
  rw [Completes, if_neg more] at whole
  simpa [Begun.next, awaited] using whole

theorem encodes {byte : UInt8} (awaited : pending.Awaits byte) (final : pending.missing ≤ 1) :
    String.utf8EncodeChar (Char.ofNat (pending.grown byte)) = pending.bytes ++ [byte] :=
  encodeChar_of_wellFormed ((sound.exact _ _).mpr ⟨awaited, by rw [if_pos final]; exact ⟨rfl, rfl⟩⟩)

theorem awaits {byte : UInt8} {c : Char}
    (start : pending.bytes ++ [byte] <+: String.utf8EncodeChar c) : pending.Awaits byte := by
  obtain ⟨rest, whole⟩ := start
  have given := wellFormed_encodeChar c
  rw [← whole, List.append_assoc] at given
  exact ((sound.exact _ _).mp given).1

theorem part : ∃ c, pending.bytes <+: String.utf8EncodeChar c ∧
    pending.bytes.length < (String.utf8EncodeChar c).length := by
  obtain ⟨rest, code, completes⟩ := exists_completes pending sound.ordered
  refine ⟨Char.ofNat code, ?_⟩
  rw [encodeChar_of_wellFormed ((sound.exact _ _).mpr completes)]
  refine ⟨List.prefix_append _ _, ?_⟩
  cases rest with
  | nil => exact completes.elim
  | cons byte rest => rw [List.length_append, List.length_cons]; omega

-- Whatever begins with an open sequence and cannot continue it has that sequence for its maximal
-- ill-formed prefix.
theorem maximal {rest : Bytes}
    (stuck : ∀ byte, rest.head? = some byte → ¬ pending.Awaits byte) :
    MaximalIllFormed pending.bytes rest := by
  obtain ⟨d, opened, proper⟩ := sound.part
  have within : ∀ longer c, longer <+: pending.bytes ++ rest → longer <+: String.utf8EncodeChar c →
      longer <+: pending.bytes := by
    intro longer c start possible
    rcases prefix_seam start with inner | ⟨byte, first, wider⟩
    · exact inner
    · exact absurd (sound.awaits (wider.trans possible)) (stuck byte first)
  refine ⟨sound.filled, fun c start => ?_, .inr ⟨d, opened⟩, fun longer c start possible =>
    (within longer c start possible).length_le⟩
  have inner := within _ c start List.prefix_rfl
  have same := encodeChar_begins (inner.trans opened)
  rw [same] at inner
  exact absurd inner.length_le (by omega)

end Sound
end Begun

theorem low_le_iff (lead byte : UInt8) {special raised : UInt8} (above : 0x80 ≤ raised.toNat) :
    (if lead = special then raised else 0x80) ≤ byte ↔
      0x80 ≤ byte.toNat ∧ (lead.toNat = special.toNat → raised.toNat ≤ byte.toNat) := by
  rw [UInt8.toNat_inj]
  split
  · rename_i same
    simp only [UInt8.le_iff_toNat_le, same, true_implies]
    omega
  · rename_i other
    simp [UInt8.le_iff_toNat_le, other]

theorem le_high_iff (lead byte : UInt8) {special lowered : UInt8} (below : lowered.toNat ≤ 0xBF) :
    byte ≤ (if lead = special then lowered else 0xBF) ↔
      byte.toNat ≤ 0xBF ∧ (lead.toNat = special.toNat → byte.toNat ≤ lowered.toNat) := by
  rw [UInt8.toNat_inj]
  split
  · rename_i same
    simp only [UInt8.le_iff_toNat_le, same, true_implies]
    omega
  · rename_i other
    simp [UInt8.le_iff_toNat_le, other]

theorem trailing_iff (byte : UInt8) : 0x80 ≤ byte ∧ byte ≤ 0xBF ↔ Trailing byte := by
  simp [UInt8.le_iff_toNat_le]

theorem sound_two {lead : UInt8} (opening : 0xC2 ≤ lead.toNat ∧ lead.toNat < 0xE0) :
    Begun.Sound ⟨[lead], lead.toNat % 0x20, 1, 0x80, 0xBF⟩ := by
  refine ⟨by simp, fun rest code => ⟨fun given => ?_, fun completes => ?_⟩, by dsimp only; decide⟩
  · cases given with
    | one ascii => omega
    | two _ next payload => exact ⟨(trailing_iff _).mpr next, rfl, payload⟩
    | three => omega
    | four => omega
  · match rest, completes with
    | _ :: _, ⟨awaited, rfl, payload⟩ => exact .two opening ((trailing_iff _).mp awaited) payload

theorem sound_three {lead : UInt8} (opening : 0xE0 ≤ lead.toNat ∧ lead.toNat < 0xF0) :
    Begun.Sound ⟨[lead], lead.toNat % 0x10, 2, if lead = 0xE0 then 0xA0 else 0x80,
      if lead = 0xED then 0x9F else 0xBF⟩ := by
  have low (byte : UInt8) : (if lead = 0xE0 then 0xA0 else 0x80) ≤ byte ↔ _ :=
    low_le_iff lead byte (by decide)
  have high (byte : UInt8) : byte ≤ (if lead = 0xED then 0x9F else 0xBF) ↔ _ :=
    le_high_iff lead byte (by decide)
  refine ⟨by simp, fun rest code => ⟨fun given => ?_, fun completes => ?_⟩, ?_⟩
  · cases given with
    | one ascii => omega
    | two => omega
    | three _ next shortest noSurrogate last payload =>
      exact ⟨⟨(low _).mpr ⟨next.1, shortest⟩, (high _).mpr ⟨next.2, noSurrogate⟩⟩,
        (trailing_iff _).mpr last, rfl, payload⟩
    | four => omega
  · match rest, completes with
    | second :: _ :: _, ⟨awaited, last, rfl, payload⟩ =>
      have below := (low second).mp awaited.1
      have above := (high second).mp awaited.2
      exact .three opening ⟨below.1, above.1⟩ below.2 above.2 ((trailing_iff _).mp last) payload
  · dsimp only
    split
    · rename_i first
      subst first
      decide
    · split <;> decide

theorem sound_four {lead : UInt8} (opening : 0xF0 ≤ lead.toNat ∧ lead.toNat < 0xF5) :
    Begun.Sound ⟨[lead], lead.toNat % 0x08, 3, if lead = 0xF0 then 0x90 else 0x80,
      if lead = 0xF4 then 0x8F else 0xBF⟩ := by
  have low (byte : UInt8) : (if lead = 0xF0 then 0x90 else 0x80) ≤ byte ↔ _ :=
    low_le_iff lead byte (by decide)
  have high (byte : UInt8) : byte ≤ (if lead = 0xF4 then 0x8F else 0xBF) ↔ _ :=
    le_high_iff lead byte (by decide)
  refine ⟨by simp, fun rest code => ⟨fun given => ?_, fun completes => ?_⟩, ?_⟩
  · cases given with
    | one ascii => omega
    | two => omega
    | three => omega
    | four _ next shortest bounded later last payload =>
      exact ⟨⟨(low _).mpr ⟨next.1, shortest⟩, (high _).mpr ⟨next.2, bounded⟩⟩,
        (trailing_iff _).mpr later, (trailing_iff _).mpr last, rfl, payload⟩
  · match rest, completes with
    | second :: _ :: _ :: _, ⟨awaited, later, last, rfl, payload⟩ =>
      have below := (low second).mp awaited.1
      have above := (high second).mp awaited.2
      exact .four opening ⟨below.1, above.1⟩ below.2 above.2 ((trailing_iff _).mp later)
        ((trailing_iff _).mp last) payload
  · dsimp only
    split
    · rename_i first
      subst first
      decide
    · split <;> decide

inductive Started (byte : UInt8) : Option Piece × Option Begun → Prop
  | ascii (small : byte.toNat < 0x80) :
      Started byte (some (.scalar (Char.ofNat byte.toNat)), none)
  | stray (defect : Defect) (stuck : ∀ rest code, ¬ WellFormed (byte :: rest) code) :
      Started byte (some (.malformed [byte] defect), none)
  | opened {pending : Begun} (single : pending.bytes = [byte]) (sound : pending.Sound) :
      Started byte (none, some pending)

theorem started (byte : UInt8) : Started byte (start byte) := by
  have stray : byte.toNat < 0xC2 ∨ 0xF5 ≤ byte.toNat → 0x80 ≤ byte.toNat → ∀ rest code,
      ¬ WellFormed (byte :: rest) code := by
    intro outside high rest code given
    cases given <;> omega
  unfold start
  simp only [UInt8.lt_iff_toNat_lt, UInt8.reduceToNat]
  split
  · exact .ascii ‹_›
  · split
    · exact .stray _ (stray (by omega) (by omega))
    · split
      · exact .opened rfl (sound_two (by omega))
      · split
        · exact .opened rfl (sound_three (by omega))
        · split
          · exact .opened rfl (sound_four (by omega))
          · exact .stray _ (stray (by omega) (by omega))

def Scan.held (scan : Scan) : Bytes :=
  match scan.begun with
  | none => []
  | some pending => pending.bytes

def Scan.Sound (scan : Scan) : Prop := ∀ pending, scan.begun = some pending → pending.Sound

theorem sound_idle (pieces : List Piece) : Scan.Sound ⟨pieces, none⟩ := nofun

theorem sound_begun {pending : Begun} (sound : pending.Sound) (pieces : List Piece) :
    Scan.Sound ⟨pieces, some pending⟩ :=
  fun _ same => Option.some.inj same ▸ sound

-- The scan shows its pieces and after them a decoding of what it holds and what is still to come.
def Scan.Reads (scan : Scan) (bytes : Bytes) : Prop :=
  ∃ text, Decodes (scan.held ++ bytes) text ∧
    (bytes.foldl Scan.step scan).finish.map Piece.shown =
      scan.pieces.reverse.map Piece.shown ++ text

theorem stray_maximal {byte : UInt8} (stuck : ∀ rest code, ¬ WellFormed (byte :: rest) code)
    (rest : Bytes) : MaximalIllFormed [byte] rest := by
  have none_begins : ∀ more c, ¬ byte :: more <+: String.utf8EncodeChar c := by
    intro more c start
    obtain ⟨after, whole⟩ := start
    have given := wellFormed_encodeChar c
    rw [← whole] at given
    exact stuck _ _ given
  refine ⟨by simp, fun c start => ?_, .inl rfl, fun longer c start possible => ?_⟩
  · obtain ⟨first, more, opened⟩ := List.exists_cons_of_ne_nil (String.utf8EncodeChar_ne_nil (c := c))
    rw [opened, List.singleton_append, List.cons_prefix_cons] at start
    exact none_begins more c (by rw [opened, start.1])
  · cases longer with
    | nil => simp
    | cons first more =>
      rw [List.singleton_append, List.cons_prefix_cons] at start
      exact absurd (start.1 ▸ possible) (none_begins more c)

theorem reads_start (byte : UInt8) {bytes : Bytes}
    (later : ∀ scan : Scan, scan.Sound → scan.Reads bytes) (pieces : List Piece) :
    (Scan.mk pieces none).Reads (byte :: bytes) := by
  have begins := started byte
  unfold Scan.Reads
  simp only [Scan.held, List.nil_append, List.foldl_cons, Scan.step]
  generalize start byte = outcome at begins ⊢
  cases begins with
  | ascii small =>
    obtain ⟨text, decoded, shown⟩ :=
      later _ (sound_idle (.scalar (Char.ofNat byte.toNat) :: pieces))
    have encoded := encodeChar_of_wellFormed (WellFormed.one small)
    refine ⟨Char.ofNat byte.toNat :: text, ?_, by simpa [Piece.shown] using shown⟩
    have whole := Decodes.scalar (Char.ofNat byte.toNat) decoded
    rwa [encoded] at whole
  | stray defect stuck =>
    obtain ⟨text, decoded, shown⟩ := later _ (sound_idle (.malformed [byte] defect :: pieces))
    refine ⟨'\ufffd' :: text, ?_, by simpa [Piece.shown] using shown⟩
    exact .malformed (stray_maximal stuck bytes) decoded
  | @opened pending single sound =>
    obtain ⟨text, decoded, shown⟩ := later _ (sound_begun sound pieces)
    refine ⟨text, ?_, by simpa using shown⟩
    simpa [Scan.held, single] using decoded

section
variable {pieces : List Piece} {pending : Begun} {byte : UInt8}

theorem step_final (awaited : pending.Awaits byte) (final : pending.missing ≤ 1) :
    Scan.step ⟨pieces, some pending⟩ byte =
      ⟨.scalar (Char.ofNat (pending.grown byte)) :: pieces, none⟩ :=
  (if_pos awaited).trans (if_pos final)

theorem step_more (awaited : pending.Awaits byte) (more : ¬ pending.missing ≤ 1) :
    Scan.step ⟨pieces, some pending⟩ byte = ⟨pieces, some (pending.next byte)⟩ :=
  (if_pos awaited).trans (if_neg more)

theorem step_refused (refused : ¬ pending.Awaits byte) :
    Scan.step ⟨pieces, some pending⟩ byte =
      Scan.step ⟨.malformed pending.bytes .continuation :: pieces, none⟩ byte :=
  if_neg refused

end

theorem reads_begun {pending : Begun} (sound : pending.Sound) (byte : UInt8) {bytes : Bytes}
    (later : ∀ scan : Scan, scan.Sound → scan.Reads bytes) (pieces : List Piece) :
    (Scan.mk pieces (some pending)).Reads (byte :: bytes) := by
  by_cases awaited : pending.Awaits byte
  · by_cases final : pending.missing ≤ 1
    · obtain ⟨text, decoded, shown⟩ :=
        later _ (sound_idle (.scalar (Char.ofNat (pending.grown byte)) :: pieces))
      have whole := Decodes.scalar (Char.ofNat (pending.grown byte)) decoded
      rw [sound.encodes awaited final] at whole
      refine ⟨_, by simpa [Scan.held] using whole, ?_⟩
      rw [List.foldl_cons, step_final awaited final, shown]
      simp [Piece.shown]
    · obtain ⟨text, decoded, shown⟩ := later _ (sound_begun (sound.next awaited final) pieces)
      refine ⟨text, by simpa [Scan.held, Begun.next] using decoded, ?_⟩
      rw [List.foldl_cons, step_more awaited final, shown]
  · obtain ⟨text, decoded, shown⟩ :=
      reads_start byte later (.malformed pending.bytes .continuation :: pieces)
    have illFormed : MaximalIllFormed pending.bytes (byte :: bytes) :=
      sound.maximal fun _ first => by cases first; exact awaited
    refine ⟨_, .malformed illFormed decoded, ?_⟩
    rw [List.foldl_cons, step_refused awaited, ← List.foldl_cons, shown]
    simp [Piece.shown]

theorem reads {scan : Scan} (sound : scan.Sound) (bytes : Bytes) : scan.Reads bytes := by
  -- The bytes still to come shrink, whatever state the scan is in.
  induction bytes generalizing scan with
  | nil =>
    obtain ⟨pieces, begun⟩ := scan
    cases begun with
    | none => exact ⟨[], .done, by simp [Scan.finish]⟩
    | some pending =>
      have illFormed : MaximalIllFormed pending.bytes [] := (sound pending rfl).maximal nofun
      exact ⟨['\ufffd'], .malformed illFormed .done, by simp [Scan.finish, Piece.shown]⟩
  | cons byte bytes ih =>
    obtain ⟨pieces, begun⟩ := scan
    cases begun with
    | none => exact reads_start byte (fun _ sound => ih sound) pieces
    | some pending => exact reads_begun (sound pending rfl) byte (fun _ sound => ih sound) pieces

theorem decodes (bytes : Bytes) : Decodes bytes (decodeLossy bytes) := by
  obtain ⟨text, decoded, shown⟩ := reads (sound_idle []) bytes
  have equal : decodeLossy bytes = text := by simpa [decodeLossy, pieces] using shown
  rwa [equal]

theorem maximal_length_le {bad rest other others : Bytes} (first : MaximalIllFormed bad rest)
    (second : MaximalIllFormed other others) (same : bad ++ rest = other ++ others) :
    other.length ≤ bad.length := by
  rcases second.part with single | ⟨c, start⟩
  · have filled := List.length_pos_iff.mpr first.filled
    omega
  · exact first.longest other c (same ▸ List.prefix_append other others) start

theorem Decodes.cases_on {bytes : Bytes} {text : Text} (decoded : Decodes bytes text) :
    (bytes = [] ∧ text = []) ∨
    (∃ c rest later, bytes = String.utf8EncodeChar c ++ rest ∧ text = c :: later ∧
      Decodes rest later) ∨
    ∃ bad rest later, bytes = bad ++ rest ∧ text = '\ufffd' :: later ∧
      MaximalIllFormed bad rest ∧ Decodes rest later := by
  cases decoded with
  | done => exact .inl ⟨rfl, rfl⟩
  | scalar c following => exact .inr (.inl ⟨c, _, _, rfl, rfl, following⟩)
  | malformed illFormed following => exact .inr (.inr ⟨_, _, _, rfl, rfl, illFormed, following⟩)

theorem Decodes.unique {bytes : Bytes} {text other : Text} (first : Decodes bytes text)
    (second : Decodes bytes other) : text = other := by
  induction first generalizing other with
  | done =>
    rcases second.cases_on with ⟨-, rfl⟩ | ⟨c, rest, later, equal, -⟩ |
        ⟨bad, rest, later, equal, -, illFormed, -⟩
    · rfl
    · exact absurd (List.append_eq_nil_iff.mp equal.symm).1 String.utf8EncodeChar_ne_nil
    · exact absurd (List.append_eq_nil_iff.mp equal.symm).1 illFormed.filled
  | @scalar rest text c following ih =>
    rcases second.cases_on with ⟨equal, -⟩ | ⟨d, others, later, equal, rfl, decoded⟩ |
        ⟨bad, others, later, equal, -, illFormed, -⟩
    · exact absurd (List.append_eq_nil_iff.mp equal).1 String.utf8EncodeChar_ne_nil
    · have same : c = d := by
        have start : String.utf8EncodeChar d <+: String.utf8EncodeChar c ++ rest :=
          equal ▸ List.prefix_append _ _
        rcases List.prefix_or_prefix_of_prefix (List.prefix_append _ rest) start with inner | inner
        · exact encodeChar_begins inner
        · exact (encodeChar_begins inner).symm
      subst same
      rw [List.append_cancel_left equal] at ih
      rw [ih decoded]
    · exact absurd (equal ▸ List.prefix_append _ rest) (illFormed.unreadable c)
  | @malformed bad rest text illFormed following ih =>
    rcases second.cases_on with ⟨equal, -⟩ | ⟨c, others, later, equal, -⟩ |
        ⟨other, others, later, equal, rfl, otherIllFormed, decoded⟩
    · exact absurd (List.append_eq_nil_iff.mp equal).1 illFormed.filled
    · exact absurd (equal ▸ List.prefix_append _ others) (illFormed.unreadable c)
    · have lengths : bad.length = other.length :=
        Nat.le_antisymm (maximal_length_le otherIllFormed illFormed equal.symm)
          (maximal_length_le illFormed otherIllFormed equal)
      obtain ⟨-, rfl⟩ := List.append_inj equal lengths
      rw [ih decoded]

theorem decodeLossy_eq_iff {bytes : Bytes} {text : Text} :
    decodeLossy bytes = text ↔ Decodes bytes text :=
  ⟨fun equal => equal ▸ decodes bytes, (decodes bytes).unique⟩

end ProbeCheck.Utf8
